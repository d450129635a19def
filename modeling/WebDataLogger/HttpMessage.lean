import WebDataLogger.CText

/-!
# HTTP/1.1 messages on the wire

A message is a first line, header lines and a blank line, each ended by CRLF, and
a body whose size the `Content-Length` header gives. The parts of a message carry
what makes them well formed, so that only such messages have bytes.
-/

namespace WebDataLogger.HttpMessage

open CText

/-- End of a line. -/
def crlf : Text := [13,10]

/-- Letters, digits and marks of a token, the backtick with them. -/
def isTokenChar (c : UInt8) : Bool :=
  isDigit c || (65≤c && c≤90) || (97≤c && c≤122) || c == 96 ||
    (bytesOf "!#$%&'*+-.^_|~").contains c

/-- A letter in lower case. -/
def toLower (c : UInt8) : UInt8 := if 65≤c ∧ c≤90 then c+32 else c

/-- A nonempty name without separators. -/
def isToken (s : Text) : Bool := !s.isEmpty && s.all isTokenChar

/-- A text that stays within one line. -/
def isLine (s : Text) : Bool := s.all (fun c => c != 13 && c != 10)

/-- A header field. -/
structure Header where
  /-- Field name. -/
  name : Text
  /-- What follows the colon. -/
  value : Text
  name_token : isToken name=true
  value_line : isLine value=true

/-- The line of a header, with its end. -/
def Header.line (header : Header) : Text := header.name++58::header.value++crlf

/-- The lines of a message head after the first, with the blank one. -/
def headerLines (headers : List Header) : Text := headers.flatMap Header.line++crlf

/-- A header that gives the size of the body. Names are compared without case. -/
def Header.isSize (header : Header) : Bool :=
  header.name.map toLower == bytesOf "content-length"

/-- The values given for the size of the body. -/
def contentLengths (headers : List Header) : List Text :=
  (headers.filter Header.isSize).map (fun header => header.value.dropWhile isSpace)

/-- A text is the number `n` in decimal. -/
def IsDecimalOf (text : Text) (n : ℕ) : Prop :=
  text≠[] ∧ (∀ c∈text, isDigit c=true) ∧ digitsValue text=n

/-- The headers give the size of the body, once. -/
def Sized (headers : List Header) (body : Text) : Prop :=
  ∃ size, contentLengths headers=[size] ∧ IsDecimalOf size body.length

/-- A response. -/
structure Response where
  /-- Status code. -/
  code : Text
  reason : Text
  headers : List Header
  body : Text
  code_digits : code.length=3 ∧ code.all isDigit=true
  reason_line : isLine reason=true
  sized : Sized headers body

/-- The first line of a response. -/
def statusLine (code reason : Text) : Text := bytesOf "HTTP/1.1 "++code++32::reason++crlf

/-- The bytes of a response. -/
def Response.bytes (response : Response) : Text :=
  statusLine response.code response.reason++headerLines response.headers++response.body

/-- Some bytes are exactly one response. -/
def IsResponse (bytes : Text) : Prop := ∃ response : Response, response.bytes=bytes

/-- The parts of a request, with any header lines. -/
structure RequestParts where
  method : Text
  /-- Path asked for. -/
  target : Text
  headers : List Header
  body : Text
  method_token : isToken method=true
  target_ne_nil : target≠[]
  target_word : target.all (fun c => !isSpace c && c != 0)=true

/-- A request. Without a size it has no body. -/
structure Request extends RequestParts where
  sized : Sized headers body ∨ contentLengths headers=[] ∧ body=[]

/-- The first line of a request. -/
def requestLine (method target : Text) : Text :=
  method++32::target++bytesOf " HTTP/1.1"++crlf

/-- The bytes of a request. -/
def RequestParts.bytes (request : RequestParts) : Text :=
  requestLine request.method request.target++headerLines request.headers++request.body

/-- Some bytes are exactly one complete request. -/
def IsRequest (bytes : Text) : Prop := ∃ request : Request, request.bytes=bytes

/-- A printed number is that number. -/
theorem isDecimalOf_decimal (n : ℕ) : IsDecimalOf (decimal n) n :=
  ⟨decimal_ne_nil n,decimal_digits n,digitsValue_decimal n⟩

/-- Digits stay within a line. -/
theorem isLine_of_digits {s : Text} (h : ∀ c∈s, isDigit c=true) : isLine s=true := by
  rw [isLine,List.all_eq_true]
  intro c hc
  have hdigit := h c hc
  rw [Bool.and_eq_true,bne_iff_ne,bne_iff_ne]
  constructor
  · rintro rfl
    exact absurd hdigit (by decide)
  · rintro rfl
    exact absurd hdigit (by decide)

/-- The header of the size of a body. -/
def contentLength (n : ℕ) : Header where
  name := bytesOf "Content-Length"
  value := 32::decimal n
  name_token := by decide
  value_line := show isLine (decimal n)=true from isLine_of_digits (decimal_digits n)

/-- The size is read without the blank before it. -/
theorem contentLength_value (n : ℕ) : (contentLength n).value.dropWhile isSpace=decimal n := by
  have hblank : isSpace 32=true := by decide
  rw [contentLength,List.dropWhile_cons_of_pos hblank,List.dropWhile_eq_self_iff]
  intro hpos hspace
  have hdigit := decimal_digits n _ (List.getElem_mem hpos)
  rw [isSpace_of_isDigit hdigit] at hspace
  cases hspace

/-- A size among other headers is the one that is given. -/
theorem contentLengths_single {before after : List Header} (n : ℕ)
    (hbefore : ∀ header∈before, ¬header.isSize=true) (hafter : ∀ header∈after, ¬header.isSize=true) :
    contentLengths (before++contentLength n::after)=[decimal n] := by
  have hsize : (contentLength n).isSize=true := rfl
  rw [contentLengths,List.filter_append,List.filter_eq_nil_iff.mpr hbefore,List.nil_append,
    List.filter_cons_of_pos hsize,List.filter_eq_nil_iff.mpr hafter,List.map_singleton,
    contentLength_value]

/-- A size among other headers gives the size of the body. -/
theorem sized_of_contentLength {before after : List Header} {body : Text}
    (hbefore : ∀ header∈before, ¬header.isSize=true) (hafter : ∀ header∈after, ¬header.isSize=true) :
    Sized (before++contentLength body.length::after) body :=
  ⟨decimal body.length,contentLengths_single _ hbefore hafter,isDecimalOf_decimal _⟩

/-- The parts of a response around the size of its body. -/
theorem isResponse_of_parts {code reason body : Text} {before after : List Header}
    (hcode : code.length=3 ∧ code.all isDigit=true) (hreason : isLine reason=true)
    (hbefore : ∀ header∈before, ¬header.isSize=true) (hafter : ∀ header∈after, ¬header.isSize=true) :
    IsResponse (statusLine code reason++
      headerLines (before++contentLength body.length::after)++body) :=
  ⟨⟨code,reason,before++contentLength body.length::after,body,hcode,hreason,
    sized_of_contentLength hbefore hafter⟩,rfl⟩

/-- The parts of a request around the size of its body. -/
theorem isRequest_of_parts {method target body : Text} {before after : List Header}
    (hmethod : isToken method=true) (htarget : target≠[])
    (hword : target.all (fun c => !isSpace c && c != 0)=true)
    (hbefore : ∀ header∈before, ¬header.isSize=true) (hafter : ∀ header∈after, ¬header.isSize=true) :
    IsRequest (requestLine method target++
      headerLines (before++contentLength body.length::after)++body) :=
  ⟨⟨⟨method,target,before++contentLength body.length::after,body,hmethod,htarget,hword⟩,
    Or.inl (sized_of_contentLength hbefore hafter)⟩,rfl⟩

/-- A response starts with its version. -/
theorem IsResponse.head {bytes : Text} (h : IsResponse bytes) : ∃ rest, bytes=72::rest := by
  obtain ⟨response,rfl⟩ := h
  exact ⟨_,rfl⟩

/-- What follows the first blank line. -/
def bodyOf : Text → Text
  | 13::10::13::10::body => body
  | _::s => bodyOf s
  | [] => []

/-- Within a line no blank line ends. -/
theorem bodyOf_line {line : Text} (h : ∀ c∈line, c≠13) (s : Text) :
    bodyOf (line++s)=bodyOf s := by
  induction line with
  | nil => rfl
  | cons c line ih =>
    have hc := h c List.mem_cons_self
    rw [List.cons_append,bodyOf]
    · exact ih fun d hd => h d (List.mem_cons_of_mem c hd)
    · exact fun body heq => absurd heq hc

/-- The end of a line before another is no blank line. -/
theorem bodyOf_crlf {c : UInt8} (hc : c≠13) (s : Text) : bodyOf (crlf++c::s)=bodyOf (c::s) := by
  rw [crlf,List.cons_append,List.cons_append,List.nil_append,bodyOf]
  · rw [bodyOf]
    exact nofun
  · intro body _ heq
    exact absurd (List.cons.inj (List.cons.inj heq).2).1 hc

/-- The name and the value of a header have no end of a line inside. -/
theorem Header.no_cr (header : Header) : ∀ c∈header.name++58::header.value, c≠13 := by
  have hname := header.name_token
  have hvalue := header.value_line
  rw [isToken,Bool.and_eq_true,List.all_eq_true] at hname
  rw [isLine,List.all_eq_true] at hvalue
  rintro c hc rfl
  rcases List.mem_append.mp hc with hc|hc
  · exact absurd (hname.2 13 hc) (by decide)
  · rcases List.mem_cons.mp hc with heq|hc
    · exact absurd heq (by decide)
    · exact absurd (hvalue 13 hc) (by decide)

/-- The body of a message follows its head. -/
theorem bodyOf_headerLines (headers : List Header) (body : Text) {line : Text}
    (h : ∀ c∈line, c≠13) : bodyOf (line++crlf++(headerLines headers++body))=body := by
  induction headers generalizing line with
  | nil =>
    rw [List.append_assoc,bodyOf_line h]
    rfl
  | cons header headers ih =>
    have hline := header.no_cr
    obtain ⟨c,rest,hstart⟩ : ∃ c rest, header.name++58::header.value=c::rest := by
      cases header.name with
      | nil => exact ⟨58,header.value,rfl⟩
      | cons c name => exact ⟨c,name++58::header.value,rfl⟩
    have hlines : headerLines (header::headers)++body=
        header.name++58::header.value++crlf++(headerLines headers++body) := by
      simp only [headerLines,Header.line,List.flatMap_cons,List.append_assoc,List.cons_append]
    have hc := hline c (by rw [hstart]; exact List.mem_cons_self)
    rw [hlines,List.append_assoc line,bodyOf_line h,hstart]
    simp only [List.cons_append]
    rw [bodyOf_crlf hc]
    rw [hstart] at hline
    exact ih hline

end WebDataLogger.HttpMessage
