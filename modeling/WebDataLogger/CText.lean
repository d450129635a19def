import Mathlib.Data.Int.Notation
import Mathlib.Data.List.TakeWhile
import Mathlib.Data.Nat.Digits.Lemmas
import Mathlib.Data.Nat.Notation
import Mathlib.Tactic.Common

/-!
# Texts as the C library sees them

A text is the list of the bytes before the terminating NUL. Comparison, search
and scanning follow `strcmp`, `strncmp`, `strstr` and `sscanf`.
-/

namespace WebDataLogger.CText

/-- The bytes of a C string, without its NUL. -/
abbrev Text := List UInt8

/-- A buffer read as a C string ends at its first NUL. -/
def cString (buffer : List UInt8) : Text := buffer.takeWhile (· != 0)

/-- The bytes of a source literal, one for each character. -/
def bytesOf (s : String) : Text := s.toList.map (fun c => c.toNat.toUInt8)

/-- `isspace` in the C locale. -/
def isSpace (c : UInt8) : Bool := c == 32 || (9≤c && c≤13)

/-- `isdigit`. -/
def isDigit (c : UInt8) : Bool := 48≤c && c≤57

/-- `strncmp` finds no difference in the first `n` characters. -/
def sameFirst (n : ℕ) (s t : Text) : Bool := s.take n == t.take n

/-- `strstr` finds the second text in the first. -/
def contains : Text → Text → Bool
  | [],t => t.isEmpty
  | c::s,t => t.isPrefixOf (c::s) || contains s t

/-- A conversion or a literal of a `sscanf` format. -/
inductive Directive where
  /-- `%<width>s`. -/
  | word (width : ℕ)
  /-- `%d`. -/
  | int
  /-- A blank, which stands for any white space. -/
  | blank
  /-- Any other character, which must match. -/
  | literal (c : UInt8)
  deriving DecidableEq

/-- A converted argument. -/
inductive Item where
  | word (w : Text)
  | int (v : ℤ)
  deriving DecidableEq

/-- `%<width>s` skips white space and takes a word of at most `width` characters. -/
def scanWord (width : ℕ) (s : Text) : Option (Text×Text) :=
  let start := s.dropWhile isSpace
  let word := (start.take width).takeWhile (fun c => !isSpace c)
  if word.isEmpty then none else some (word,start.drop word.length)

/-- Value of decimal digits, most significant first. -/
def digitsValue (digits : Text) : ℕ := digits.foldl (fun n c => 10*n+(c.toNat-48)) 0

/-- `%d` without its sign. -/
def scanDigits (s : Text) : Option (ℕ×Text) :=
  let digits := s.takeWhile isDigit
  if digits.isEmpty then none else some (digitsValue digits,s.drop digits.length)

/-- `%d` skips white space and takes an optional sign and digits. -/
def scanInt (s : Text) : Option (ℤ×Text) :=
  match s.dropWhile isSpace with
  | 45::rest => (scanDigits rest).map (fun r => (-(r.1 : ℤ),r.2))
  | 43::rest => (scanDigits rest).map (fun r => ((r.1 : ℤ),r.2))
  | start => (scanDigits start).map (fun r => ((r.1 : ℤ),r.2))

/-- `sscanf`: the converted arguments, up to the first directive that fails. Their
number is the result of the call. -/
def sscanf : List Directive → Text → List Item
  | [],_ => []
  | .word width::format,s =>
    match scanWord width s with
    | some (w,rest) => .word w::sscanf format rest
    | none => []
  | .int::format,s =>
    match scanInt s with
    | some (v,rest) => .int v::sscanf format rest
    | none => []
  | .blank::format,s => sscanf format (s.dropWhile isSpace)
  | .literal c::format,s =>
    match s with
    | d::rest => if d=c then sscanf format rest else []
    | [] => []

/-- The character of a decimal digit. -/
def digitChar (n : ℕ) : UInt8 := (48+n%10).toUInt8

/-- Two decimal digits. -/
def twoDigits (n : ℕ) : Text := [digitChar (n/10),digitChar n]

/-- `%d` of a number that is not negative. -/
def decimal (n : ℕ) : Text :=
  if n=0 then [48] else ((Nat.digits 10 n).map digitChar).reverse

/-- `%d`. -/
def decimalInt (v : ℤ) : Text := if v<0 then 45::decimal v.natAbs else decimal v.natAbs

/-- `snprintf` into a buffer: the text stored there, and the length it would need. -/
def snprintf (size : ℕ) (formatted : Text) : Text×ℕ := (formatted.take (size-1),formatted.length)

/-- The value of a digit character. -/
theorem digitChar_toNat (n : ℕ) : (digitChar n).toNat=48+n%10 := by
  have hlt := Nat.mod_lt n (show 0<10 by decide)
  unfold digitChar
  change (48+n%10)%2^8=_
  omega

/-- Digit characters are digits. -/
@[simp] theorem isDigit_digitChar (n : ℕ) : isDigit (digitChar n)=true := by
  have hlt := Nat.mod_lt n (show 0<10 by decide)
  have hvalue := digitChar_toNat n
  simp only [isDigit,Bool.and_eq_true,decide_eq_true_eq,UInt8.le_iff_toNat_le,hvalue]
  change 48≤48+n%10 ∧ 48+n%10≤57
  omega

/-- Digits are not white space. -/
theorem isSpace_of_isDigit {c : UInt8} (h : isDigit c=true) : isSpace c=false := by
  simp only [isDigit,Bool.and_eq_true,decide_eq_true_eq,UInt8.le_iff_toNat_le] at h
  have hlow : 48≤c.toNat := h.1
  have hblank : c≠32 := by
    rintro rfl
    change 48≤32 at hlow
    omega
  have hlast : ¬c≤13 := by
    rw [UInt8.le_iff_toNat_le]
    change ¬c.toNat≤13
    omega
  simp [isSpace,hblank,hlast]

/-- Digit characters are not white space. -/
@[simp] theorem isSpace_digitChar (n : ℕ) : isSpace (digitChar n)=false :=
  isSpace_of_isDigit (isDigit_digitChar n)

/-- Digit characters are no signs. -/
theorem digitChar_ne_sign (n : ℕ) : digitChar n≠45 ∧ digitChar n≠43 := by
  have hvalue := digitChar_toNat n
  constructor
  · intro h
    rw [h] at hvalue
    change 45=_ at hvalue
    omega
  · intro h
    rw [h] at hvalue
    change 43=_ at hvalue
    omega

/-- Digits are read up to the next character that is none. -/
theorem takeWhile_digits {digits rest : Text} (h : ∀ c∈digits, isDigit c=true)
    (hrest : ∀ c∈rest.head?, isDigit c=false) : (digits++rest).takeWhile isDigit=digits := by
  rw [List.takeWhile_append_of_pos h]
  cases rest with
  | nil => rw [List.takeWhile_nil,List.append_nil]
  | cons d rest => rw [List.takeWhile_cons_of_neg (by rw [hrest d rfl]; decide),List.append_nil]

/-- `%d` reads digits up to the next character that is none. -/
theorem scanInt_digits (n : ℕ) (digits rest : Text) (hfirst : digits.head?=some (digitChar n))
    (hdigits : ∀ c∈digits, isDigit c=true) (hrest : ∀ c∈rest.head?, isDigit c=false) :
    scanInt (digits++rest)=some ((digitsValue digits : ℤ),rest) := by
  obtain ⟨c,more,rfl⟩ : ∃ c more, digits=c::more := by
    cases digits with
    | nil => cases hfirst
    | cons c more => exact ⟨c,more,rfl⟩
  obtain rfl := Option.some.inj hfirst
  obtain ⟨hminus,hplus⟩ := digitChar_ne_sign n
  have htake := takeWhile_digits hdigits hrest
  have hscan : scanDigits (digitChar n::more++rest)=
      some (digitsValue (digitChar n::more),rest) := by
    unfold scanDigits
    dsimp only
    rw [htake,List.drop_left]
    rfl
  have hskip : (digitChar n::more++rest).dropWhile isSpace=digitChar n::more++rest := by
    rw [List.cons_append,List.dropWhile_cons_of_neg (by simp)]
  unfold scanInt
  rw [hskip]
  split
  next heq => exact absurd (List.cons.inj heq).1 hminus
  next heq => exact absurd (List.cons.inj heq).1 hplus
  next => rw [hscan]; rfl

/-- `%d` reads two digits. -/
theorem scanInt_twoDigits (n : ℕ) (hn : n<100) (rest : Text)
    (hrest : ∀ c∈rest.head?, isDigit c=false) :
    scanInt (twoDigits n++rest)=some ((n : ℤ),rest) := by
  rw [scanInt_digits (n/10) (twoDigits n) rest rfl (by simp [twoDigits]) hrest]
  have hvalue : digitsValue (twoDigits n)=n := by
    simp only [digitsValue,twoDigits,List.foldl_cons,List.foldl_nil,digitChar_toNat]
    omega
  rw [hvalue]

/-- `%d` reads a single digit. -/
theorem scanInt_digitChar {n : ℕ} (hn : n<10) {rest : Text}
    (hrest : ∀ c∈rest.head?, isDigit c=false) :
    scanInt (digitChar n::rest)=some ((n : ℤ),rest) := by
  have hscan := scanInt_digits n [digitChar n] rest rfl (by simp) hrest
  have hvalue : digitsValue [digitChar n]=n := by
    simp only [digitsValue,List.foldl_cons,List.foldl_nil,digitChar_toNat]
    omega
  rw [hvalue] at hscan
  exact hscan

/-- What is found in a text is found in a longer one. -/
theorem contains_append {s t : Text} (h : contains s t=true) (more : Text) :
    contains (s++more) t=true := by
  induction s with
  | nil =>
    obtain rfl := List.isEmpty_iff.mp h
    cases more <;> rfl
  | cons c s ih =>
    rw [List.cons_append,contains,Bool.or_eq_true]
    rw [contains,Bool.or_eq_true] at h
    rcases h with h|h
    · rw [List.isPrefixOf_iff_prefix] at h ⊢
      exact Or.inl (h.trans (List.prefix_append (c::s) more))
    · exact Or.inr (ih h)

/-- `strstr` finds the texts that stand in a text. -/
theorem contains_iff {s t : Text} : contains s t=true ↔ t<:+:s := by
  induction s with
  | nil =>
    rw [contains,List.isEmpty_iff]
    exact List.infix_nil.symm
  | cons c s ih =>
    rw [contains,Bool.or_eq_true,List.isPrefixOf_iff_prefix,ih]
    exact List.infix_cons_iff.symm

/-- A text without a character stands before it or behind it. -/
theorem infix_around {s t w : Text} {c : UInt8} (hc : c∉w) :
    w<:+:(s++[c])++t ↔ w<:+:s++[c] ∨ w<:+:t := by
  rw [List.infix_append_iff,←or_assoc]
  refine or_iff_left_of_imp ?_
  rintro ⟨first,last,rfl,hfirst,hlast⟩
  rcases List.suffix_concat_iff.mp hfirst with rfl|⟨kept,rfl,-⟩
  · exact Or.inr hlast.isInfix
  · exact absurd (by simp) hc

/-- The string in a longer buffer continues the string in its start. -/
theorem cString_append (first more : List UInt8) :
    ∃ rest, cString (first++more)=cString first++rest := by
  unfold cString
  rw [List.takeWhile_append]
  split
  next hall =>
    refine ⟨more.takeWhile (· != 0),?_⟩
    rw [(List.takeWhile_prefix _).eq_of_length hall]
  next => exact ⟨[],(List.append_nil _).symm⟩

/-- No white space is skipped before a word. -/
theorem skipSpace_word {word : Text} (hne : word≠[]) (hword : ∀ c∈word, isSpace c=false)
    (rest : Text) : (word++rest).dropWhile isSpace=word++rest := by
  cases word with
  | nil => exact absurd rfl hne
  | cons c word =>
    rw [List.cons_append,List.dropWhile_cons_of_neg (by simp [hword c List.mem_cons_self])]

/-- A word as long as its width is read whole. -/
theorem scanWord_full {width : ℕ} {word : Text} (hlength : word.length=width)
    (hne : word≠[]) (hword : ∀ c∈word, isSpace c=false) (rest : Text) :
    scanWord width (word++rest)=some (word,rest) := by
  have hstart := skipSpace_word hne hword rest
  have htake : ((word++rest).take width).takeWhile (fun c => !isSpace c)=word := by
    rw [←hlength,List.take_left,List.takeWhile_eq_self_iff]
    intro c hc
    simp [hword c hc]
  unfold scanWord
  dsimp only
  rw [hstart,htake,List.drop_left,if_neg (by simp [hne])]

/-- A word before white space is read up to its width, and the rest of it stays. -/
theorem scanWord_word {width : ℕ} {word : Text} {blank : UInt8} (hwidth : 0<width) (hne : word≠[])
    (hword : ∀ c∈word, isSpace c=false) (hblank : isSpace blank=true) (rest : Text) :
    scanWord width (word++blank::rest)=some (word.take width,word.drop width++blank::rest) := by
  have hstart := skipSpace_word hne hword (blank::rest)
  have hstop : ((blank::rest).take (width-word.length)).takeWhile (fun c => !isSpace c)=[] := by
    cases width-word.length with
    | zero => rfl
    | succ k => rw [List.take_succ_cons,List.takeWhile_cons_of_neg (by simp [hblank])]
  have htake : ((word++blank::rest).take width).takeWhile (fun c => !isSpace c)=word.take width := by
    rw [List.take_append,List.takeWhile_append_of_pos fun c hc => by
      simp [hword c (List.mem_of_mem_take hc)],hstop,List.append_nil]
  have hdrop : (word++blank::rest).drop (word.take width).length=word.drop width++blank::rest := by
    rw [List.length_take]
    rcases Nat.le_total width word.length with hle|hle
    · rw [Nat.min_eq_left hle,List.drop_append_of_le_length hle]
    · rw [Nat.min_eq_right hle,List.drop_left,List.drop_eq_nil_of_le hle,List.nil_append]
  have hsome : word.take width≠[] := by
    cases word with
    | nil => exact absurd rfl hne
    | cons c word =>
      obtain ⟨k,rfl⟩ := Nat.exists_eq_succ_of_ne_zero (Nat.pos_iff_ne_zero.mp hwidth)
      exact List.cons_ne_nil _ _
  unfold scanWord
  dsimp only
  rw [hstart,htake,hdrop,if_neg (by simp [hsome])]

/-- `strncmp` over the length of a text compares it with a prefix. -/
theorem sameFirst_iff (s t : Text) : sameFirst t.length s t=true ↔ t<+:s := by
  rw [sameFirst,List.take_length,beq_iff_eq,List.prefix_iff_eq_take]
  exact eq_comm

/-- `%d` prints digits only. -/
theorem decimal_digits (n : ℕ) : ∀ c∈decimal n, isDigit c=true := by
  intro c hc
  unfold decimal at hc
  split at hc
  · obtain rfl := List.mem_singleton.mp hc
    decide
  · rw [List.mem_reverse,List.mem_map] at hc
    obtain ⟨d,-,rfl⟩ := hc
    exact isDigit_digitChar d

/-- `%d` prints something. -/
theorem decimal_ne_nil (n : ℕ) : decimal n≠[] := by
  unfold decimal
  split
  · exact List.cons_ne_nil _ _
  · next hn =>
    rw [ne_eq,List.reverse_eq_nil_iff,List.map_eq_nil_iff]
    exact Nat.digits_ne_nil_iff_ne_zero.mpr hn

/-- A number that is not zero starts with another digit. -/
theorem decimal_head {n : ℕ} (hn : n≠0) : (decimal n).head?≠some 48 := by
  have hne : Nat.digits 10 n≠[] := Nat.digits_ne_nil_iff_ne_zero.mpr hn
  have hlast : (Nat.digits 10 n).getLast hne≠0 := Nat.getLast_digit_ne_zero 10 hn
  have hlt : (Nat.digits 10 n).getLast hne<10 :=
    Nat.digits_lt_base (by decide) (List.getLast_mem hne)
  rw [decimal,if_neg hn,List.head?_reverse,List.getLast?_map,List.getLast?_eq_some_getLast hne,
    Option.map_some,ne_eq,Option.some_inj]
  intro h
  have hvalue := digitChar_toNat ((Nat.digits 10 n).getLast hne)
  rw [h] at hvalue
  change 48=_ at hvalue
  omega

/-- `%d` prints a digit as its character. -/
theorem decimal_digit {n : ℕ} (hn : n<10) : decimal n=[digitChar n] := by
  unfold decimal
  split
  next hzero =>
    rw [hzero]
    rfl
  next hpos => rw [Nat.digits_of_lt 10 n hpos hn]; rfl

/-- The number of digits is bounded by a power of ten. -/
theorem decimal_length_le {n k : ℕ} (hn : n<10^k) (hk : 0<k) : (decimal n).length≤k := by
  unfold decimal
  split
  · exact hk
  · rw [List.length_reverse,List.length_map]
    exact (Nat.digits_length_le_iff (by decide) n).mpr hn

/-- Digits read back, least significant first. -/
theorem digitsValue_reverse {digits : List ℕ} (h : ∀ d∈digits, d<10) :
    digitsValue (digits.map digitChar).reverse=Nat.ofDigits 10 digits := by
  rw [digitsValue,List.foldl_reverse]
  induction digits with
  | nil => rfl
  | cons d digits ih =>
    have hd := h d List.mem_cons_self
    rw [List.map_cons,List.foldr_cons,ih (fun c hc => h c (List.mem_cons_of_mem d hc)),
      digitChar_toNat,Nat.mod_eq_of_lt hd,Nat.ofDigits_cons]
    omega

/-- What `%d` prints reads back. -/
theorem digitsValue_decimal (n : ℕ) : digitsValue (decimal n)=n := by
  unfold decimal
  split
  · next hn =>
    rw [hn]
    rfl
  · rw [digitsValue_reverse (fun d hd => Nat.digits_lt_base (by decide) hd),Nat.ofDigits_digits]

/-- `%d` of a 32-bit number takes at most eleven characters. -/
theorem decimalInt_length {v : ℤ} (hv : v.natAbs≤2^31) : (decimalInt v).length≤11 := by
  have hdigits := decimal_length_le (show v.natAbs<10^10 by omega) (by decide)
  unfold decimalInt
  split
  · exact Nat.succ_le_succ hdigits
  · omega

/-- A short text passes through its buffer. -/
theorem snprintf_fits {size : ℕ} {formatted : Text} (h : formatted.length ≤ size-1) :
    snprintf size formatted=(formatted,formatted.length) := by
  rw [snprintf,List.take_of_length_le h]

end WebDataLogger.CText
