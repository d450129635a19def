import WebDataLogger.JsonText
import WebDataLogger.RequestRouter

/-!
# The command in the body of a control request

`handle_control_post` searches the whole request for a quoted word. The JSON body
decides alone where the head holds no such word.
-/

namespace WebDataLogger.ControlCommand

open CText HttpMessage JsonText WebService HttpSegmentation RequestRouter

/-- A POST /api/control request that one `recv` can take, with any header lines and a JSON object
as its body. -/
structure ControlPost extends RequestParts where
  members : List (Text×Json)
  method_post : method=bytesOf "POST"
  target_control : target=bytesOf "/api/control"
  no_nul : 0∉toRequestParts.bytes
  fits : toRequestParts.bytes.length≤639
  body_object : parse body=some (.object members)

/-- The request line and the header lines, with the blank one. -/
def ControlPost.head (post : ControlPost) : Text :=
  requestLine post.method post.target++headerLines post.headers

/-- The flag that the body asks for. -/
def specifiedFlag (webControlActive : UInt8) (members : List (Text×Json)) : UInt8 :=
  match member members (bytesOf "command") with
  | some (.string word) =>
    if decode word=(bytesOf "on").map UInt8.toNat then 1
    else if decode word=(bytesOf "off").map UInt8.toNat then 0
    else webControlActive
  | _ => webControlActive

/-- The value of the command is spelled so, without escapes. -/
def Spells (members : List (Text×Json)) (word : Text) : Prop :=
  member members (bytesOf "command")=some (.string word)

/-- A quoted word stands in the head or in the body. -/
def ControlPost.quotes (post : ControlPost) (word : Text) : Prop :=
  contains post.head (34::word++[34])=true ∨ contains post.body (34::word++[34])=true

instance (post : ControlPost) (word : Text) : Decidable (post.quotes word) :=
  inferInstanceAs (Decidable (_ ∨ _))

/-- The flag by the words that stand in the head or in the body. -/
def quotedFlag (webControlActive : UInt8) (post : ControlPost) : UInt8 :=
  if post.quotes (bytesOf "on") then 1
  else if post.quotes (bytesOf "off") then 0
  else webControlActive

/-- Neither quoted word stands in the head. -/
def ControlPost.PlainHead (post : ControlPost) : Prop :=
  ∀ word∈[bytesOf "on",bytesOf "off"], contains post.head (34::word++[34])=false

/-- The flag left by a connection that delivers the request at once. -/
def flagAfter {τ : Type*} (float : FloatOps τ) (s : WebState τ) (fd : ℕ) (mutexFree : Bool)
    (post : ControlPost) (more : List (List UInt8)) : UInt8 :=
  (outcome float s fd mutexFree (post.bytes::more)).2

/-- A request is its head and its body. -/
theorem ControlPost.bytes_eq (post : ControlPost) : post.bytes=post.head++post.body := rfl

/-- The string in the receive buffer is the whole request. -/
theorem ControlPost.cString_bytes (post : ControlPost) : cString post.bytes=post.bytes := by
  rw [cString,List.takeWhile_eq_self_iff]
  intro c hc
  rw [bne_iff_ne]
  rintro rfl
  exact post.no_nul hc

/-- A request starts with its method, its path and the protocol. -/
theorem ControlPost.bytes_start (post : ControlPost) : post.bytes=bytesOf "POST"++32::(
    bytesOf "/api/control"++32::(bytesOf "HTTP/"++(
      bytesOf "1.1"++crlf++headerLines post.headers++post.body))) := by
  have hversion : bytesOf " HTTP/1.1"=32::(bytesOf "HTTP/"++bytesOf "1.1") := by decide
  rw [RequestParts.bytes,requestLine,post.method_post,post.target_control,hversion]
  simp only [List.append_assoc,List.cons_append]

/-- The request as the router sees it. -/
def ControlPost.start (post : ControlPost) : RequestStart where
  method := bytesOf "POST"
  path := bytesOf "/api/control"
  rest := bytesOf "1.1"++crlf++headerLines post.headers++post.body
  method_word := isWord_of_all (by decide) (by decide)
  path_word := isWord_of_all (by decide) (by decide)
  fits := post.bytes_start▸post.fits

/-- The router takes the branch of commands. -/
theorem ControlPost.route_eq (post : ControlPost) : route post.bytes=.control := by
  have hbytes : post.start.bytes=post.bytes := post.bytes_start.symm
  have hroute := route_request post.start
  rw [hbytes,post.cString_bytes] at hroute
  rw [hroute]
  change prefixRoute (bytesOf "POST") (pathSeen (bytesOf "POST") (bytesOf "/api/control"))=_
  rfl

/-- A quoted word stands in the request if it stands in the head or in the body: it cannot
go over the end of the last line. -/
theorem ControlPost.contains_iff (post : ControlPost) {word : Text} (hword : 10∉word) :
    contains post.bytes (34::word++[34])=true ↔ post.quotes word := by
  have hhead : ∃ lines, post.head=lines++[10] :=
    ⟨requestLine post.method post.target++post.headers.flatMap Header.line++[13],by
      simp [ControlPost.head,headerLines,crlf]⟩
  obtain ⟨lines,hlines⟩ := hhead
  have hquoted : (10 : UInt8)∉34::word++[34] := by simp [hword]
  rw [ControlPost.quotes,CText.contains_iff,CText.contains_iff,CText.contains_iff,
    post.bytes_eq,hlines]
  exact infix_around hquoted

/-- A word with a colon before it is a quoted word. -/
theorem contains_colon {s t : Text} (h : contains s (58::t)=true) : contains s t=true := by
  rw [CText.contains_iff] at h ⊢
  exact (List.suffix_cons 58 t).isInfix.trans h

/-- The command "on" is seen when the quoted word stands in the head or in the body. -/
theorem ControlPost.saysOn_iff (post : ControlPost) :
    saysOn post.bytes=true ↔ post.quotes (bytesOf "on") := by
  rw [←post.contains_iff (by decide),saysOn,Bool.or_eq_true]
  exact or_iff_left_of_imp contains_colon

/-- The command "off" is seen when the quoted word stands in the head or in the body. -/
theorem ControlPost.saysOff_iff (post : ControlPost) :
    saysOff post.bytes=true ↔ post.quotes (bytesOf "off") := by
  rw [←post.contains_iff (by decide),saysOff,Bool.or_eq_true]
  exact or_iff_left_of_imp contains_colon

/-- A spelled command stands in the body between its quotes. -/
theorem ControlPost.quotes_of_spells {post : ControlPost} {word : Text}
    (h : Spells post.members word) : post.quotes word := by
  obtain ⟨name,hmem⟩ := member_mem h
  exact Or.inr (CText.contains_iff.mpr (parse_object post.body_object hmem))

section Flag

variable {τ : Type*} (float : FloatOps τ)

/-- The flag depends on the quoted words only. -/
theorem flagAfter_eq (s : WebState τ) (fd : ℕ) (mutexFree : Bool) (post : ControlPost)
    (more : List (List UInt8)) :
    flagAfter float s fd mutexFree post more=quotedFlag s.webControlActive post := by
  have hne : post.bytes≠[] := by
    rw [post.bytes_start]
    exact List.append_ne_nil_of_left_ne_nil (by decide) _
  rw [flagAfter,outcome_eq float hne post.fits,serveRequest_route,post.cString_bytes,post.route_eq]
  simp only [handleControlPost_flag,post.saysOn_iff,post.saysOff_iff]
  rfl

/-- With the same body and no quoted word in the heads the flag is the same. -/
theorem quotedFlag_body {post post' : ControlPost} (h : post.PlainHead) (h' : post'.PlainHead)
    (hbody : post.body=post'.body) (webControlActive : UInt8) :
    quotedFlag webControlActive post=quotedFlag webControlActive post' := by
  have hquotes : ∀ word∈[bytesOf "on",bytesOf "off"], (post.quotes word ↔ post'.quotes word) := by
    intro word hword
    rw [ControlPost.quotes,ControlPost.quotes,h word hword,h' word hword,hbody]
  have hon := hquotes (bytesOf "on") (by simp)
  have hoff := hquotes (bytesOf "off") (by simp)
  unfold quotedFlag
  simp only [hon,hoff]

/-- A control request received whole sets the flag by the quoted words in its head and its
body, "on" before "off". So a spelled command "on" always sets it, a spelled command "off"
clears it if "on" is quoted nowhere, and the body alone decides between heads that quote
neither word. -/
theorem command_decided (s : WebState τ) (fd : ℕ) (mutexFree : Bool) (post : ControlPost)
    (more : List (List UInt8)) :
    flagAfter float s fd mutexFree post more=quotedFlag s.webControlActive post ∧
      (Spells post.members (bytesOf "on") → flagAfter float s fd mutexFree post more=1) ∧
      (Spells post.members (bytesOf "off") → ¬post.quotes (bytesOf "on") →
        flagAfter float s fd mutexFree post more=0) ∧
      ∀ post' : ControlPost, post.body=post'.body → post.PlainHead → post'.PlainHead →
        ∀ more', flagAfter float s fd mutexFree post more=
          flagAfter float s fd mutexFree post' more' := by
  have hflag := flagAfter_eq float s fd mutexFree
  refine ⟨hflag post more,fun hon => ?_,fun hoff hnone => ?_,
    fun post' hbody hplain hplain' more' => ?_⟩
  · rw [hflag post more,quotedFlag,if_pos (ControlPost.quotes_of_spells hon)]
  · rw [hflag post more,quotedFlag,if_neg hnone,if_pos (ControlPost.quotes_of_spells hoff)]
  · rw [hflag post more,hflag post' more',quotedFlag_body hplain hplain' hbody]

end Flag

/-- The body of the command "off". -/
def offBody : Text := bytesOf "\x7b\"command\":\"off\"\x7d"

/-- The members of that body. -/
theorem offBody_members :
    parse offBody=some (.object [(bytesOf "command",.string (bytesOf "off"))]) := by
  have hbody : offBody=123::34::(bytesOf "command"++34::58::(34::bytesOf "off"++[34,125])) := by
    decide
  have hvalue : parseValue 1 (34::bytesOf "off"++[34,125])=some (.string (bytesOf "off"),[125]) :=
    parseValue_plain (by decide) 0 _
  have hmembers : parseMembers 2 (34::bytesOf "command"++34::58::(34::bytesOf "off"++[34,125]))=
      some ([(bytesOf "command",.string (bytesOf "off"))],[]) := parseMembers_last (by decide) hvalue
  rw [hbody]
  exact parse_members hmembers rfl

/-- `If-None-Match: "on"`. -/
def ifNoneMatch : Header := ⟨bytesOf "If-None-Match",bytesOf " \"on\"",by decide,by decide⟩

/-- The command "off" after some header lines. -/
def offRequest (headers : List Header) (hheaders : ∀ header∈headers, ¬header.isSize=true) :
    Request where
  method := bytesOf "POST"
  target := bytesOf "/api/control"
  headers := headers++[contentLength offBody.length]
  body := offBody
  method_token := by decide
  target_ne_nil := by decide
  target_word := by decide
  sized := Or.inl (sized_of_contentLength hheaders nofun)

/-- The command "off" with the header lines of the dashboard. -/
def offPost : ControlPost where
  toRequestParts := (offRequest [host] (by decide)).toRequestParts
  members := [(bytesOf "command",.string (bytesOf "off"))]
  method_post := rfl
  target_control := rfl
  no_nul := by decide +kernel
  fits := by decide +kernel
  body_object := offBody_members

/-- The same body after a header line that quotes "on". -/
def taggedPost : ControlPost where
  toRequestParts := (offRequest [host,ifNoneMatch] (by decide)).toRequestParts
  members := [(bytesOf "command",.string (bytesOf "off"))]
  method_post := rfl
  target_control := rfl
  no_nul := by decide +kernel
  fits := by decide +kernel
  body_object := offBody_members

/-- A header line switches on what the body switches off. -/
theorem header_decides : offPost.body=taggedPost.body ∧
    specifiedFlag 0 taggedPost.members=0 ∧
      flagAfter exactFloat freshService 1 true offPost []=0 ∧
        flagAfter exactFloat freshService 1 true taggedPost []=1 := by
  refine ⟨rfl,by decide,?_,?_⟩
  · rw [flagAfter_eq]
    decide +kernel
  · rw [flagAfter_eq]
    decide +kernel

end WebDataLogger.ControlCommand
