import Mathlib.Data.Rat.Defs
import WebDataLogger.CText

/-!
# JSON texts and the values they spell

A parser for the grammar of JSON. Strings keep their spelling, numbers their exact
value. Depth is bounded by a fuel, and twice the length of a text is fuel enough.
-/

namespace WebDataLogger.JsonText

open CText

/-- A JSON value. -/
inductive Json where
  | null
  | bool (b : Bool)
  | number (value : ℚ)
  /-- The characters between the quotes, as they are spelled. -/
  | string (spelling : Text)
  | array (items : List Json)
  | object (members : List (Text×Json))

/-- A value with no text or other value inside. -/
def Json.isLeaf : Json → Bool
  | .string _ => false
  | .array items => items.isEmpty
  | .object members => members.isEmpty
  | _ => true

/-- White space between the tokens. -/
def isBlank (c : UInt8) : Bool := c == 32 || c == 9 || c == 10 || c == 13

/-- `isxdigit`. -/
def isHexDigit (c : UInt8) : Bool := isDigit c || (65≤c && c≤70) || (97≤c && c≤102)

/-- Value of a hexadecimal digit. -/
def hexDigit (c : UInt8) : ℕ :=
  if isDigit c then c.toNat-48 else if c ≤ 70 then c.toNat-55 else c.toNat-87

/-- The character a backslash and a letter stand for. -/
def escaped : UInt8 → Option ℕ
  | 34 => some 34
  | 92 => some 92
  | 47 => some 47
  | 98 => some 8
  | 102 => some 12
  | 110 => some 10
  | 114 => some 13
  | 116 => some 9
  | _ => none

/-- Takes the spelling of a string and the quote after it. -/
def scanString : Text → Option (Text×Text)
  | [] => none
  | 34::s => some ([],s)
  | 92::117::a::b::c::d::s =>
    if [a,b,c,d].all isHexDigit then
      (scanString s).map (fun r => ([92,117,a,b,c,d]++r.1,r.2))
    else none
  | 92::c::s =>
    if (escaped c).isSome then (scanString s).map (fun r => ([92,c]++r.1,r.2)) else none
  | c::s => if c<32 then none else (scanString s).map (fun r => (c::r.1,r.2))

/-- The characters a spelling stands for. A byte outside ASCII counts for itself. -/
def decode : Text → List ℕ
  | [] => []
  | 92::117::a::b::c::d::s =>
    [a,b,c,d].foldl (fun n digit => 16*n+hexDigit digit) 0::decode s
  | 92::c::s => (escaped c).getD c.toNat::decode s
  | c::s => c.toNat::decode s

/-- Whole part of a number, where no zero stands before other digits. -/
def scanWhole (s : Text) : Option (ℕ×Text) :=
  let digits := s.takeWhile isDigit
  if digits=[] ∨ digits.head?=some 48 ∧ digits≠[48] then none
  else some (digitsValue digits,s.drop digits.length)

/-- Fraction of a number, if it has one. -/
def scanFraction : Text → Option (ℚ×Text)
  | 46::s =>
    (scanDigits s).map (fun r => ((r.1 : ℚ)/10^(s.takeWhile isDigit).length,r.2))
  | s => some (0,s)

/-- Sign of a number or of an exponent. -/
def scanMinus : Text → Bool×Text
  | 45::s => (true,s)
  | s => (false,s)

/-- Exponent of a number, if it has one. -/
def scanExponent : Text → Option (ℤ×Text)
  | c::s =>
    if c=69 ∨ c=101 then
      match s with
      | 43::s => (scanDigits s).map (fun r => ((r.1 : ℤ),r.2))
      | 45::s => (scanDigits s).map (fun r => (-(r.1 : ℤ),r.2))
      | s => (scanDigits s).map (fun r => ((r.1 : ℤ),r.2))
    else some (0,c::s)
  | [] => some (0,[])

/-- A number. -/
def scanNumber (s : Text) : Option (ℚ×Text) := do
  let sign := scanMinus s
  let whole ← scanWhole sign.2
  let fraction ← scanFraction whole.2
  let exponent ← scanExponent fraction.2
  let size := ((whole.1 : ℚ)+fraction.1)*10^exponent.1
  return (if sign.1 then -size else size,exponent.2)

/-- A name of the grammar. -/
def scanName (name : Text) (value : Json) (s : Text) : Option (Json×Text) :=
  if name.isPrefixOf s then some (value,s.drop name.length) else none

/-- A value that has no parts. -/
def scanScalar : Text → Option (Json×Text)
  | 110::s => scanName (bytesOf "ull") .null s
  | 116::s => scanName (bytesOf "rue") (.bool true) s
  | 102::s => scanName (bytesOf "alse") (.bool false) s
  | s => (scanNumber s).map (fun r => (.number r.1,r.2))

/-- A character after white space. -/
def expect (c : UInt8) (s : Text) : Option Text :=
  match s.dropWhile isBlank with
  | d::rest => if d=c then some rest else none
  | [] => none

mutual

/-- A value and the text after it. -/
def parseValue : ℕ → Text → Option (Json×Text)
  | 0,_ => none
  | fuel+1,s =>
    match s.dropWhile isBlank with
    | 123::rest =>
      match expect 125 rest with
      | some rest => some (.object [],rest)
      | none => (parseMembers fuel rest).map (fun r => (.object r.1,r.2))
    | 91::rest =>
      match expect 93 rest with
      | some rest => some (.array [],rest)
      | none => (parseItems fuel rest).map (fun r => (.array r.1,r.2))
    | 34::rest => (scanString rest).map (fun r => (.string r.1,r.2))
    | start => scanScalar start

/-- The items of an array, with the bracket after them. -/
def parseItems : ℕ → Text → Option (List Json×Text)
  | 0,_ => none
  | fuel+1,s => do
    let value ← parseValue fuel s
    match expect 93 value.2 with
    | some rest => return ([value.1],rest)
    | none =>
      let more ← parseItems fuel (← expect 44 value.2)
      return (value.1::more.1,more.2)

/-- The members of an object, with the brace after them. -/
def parseMembers : ℕ → Text → Option (List (Text×Json)×Text)
  | 0,_ => none
  | fuel+1,s => do
    let name ← scanString (← expect 34 s)
    let value ← parseValue fuel (← expect 58 name.2)
    match expect 125 value.2 with
    | some rest => return ([(name.1,value.1)],rest)
    | none =>
      let more ← parseMembers fuel (← expect 44 value.2)
      return ((name.1,value.1)::more.1,more.2)

end

/-- `JSON.parse`: one value with white space around it. -/
def parse (s : Text) : Option Json :=
  match parseValue (2*s.length+1) s with
  | some (value,rest) => if rest.all isBlank then some value else none
  | none => none

/-- The member of a name. The last one counts. -/
def member (members : List (Text×Json)) (name : Text) : Option Json :=
  (members.reverse.find? (fun entry => decode entry.1 == name.map UInt8.toNat)).map Prod.snd

/-- Something is taken off the front of a text. -/
def Takes (s rest : Text) : Prop := rest<:+s ∧ rest.length<s.length

/-- A first character is taken. -/
theorem takes_cons (c : UInt8) (s : Text) : Takes (c::s) s :=
  ⟨List.suffix_cons c s,Nat.lt_succ_self _⟩

/-- More is taken after something. -/
theorem Takes.trans {s t u : Text} (h : Takes s t) (h' : Takes t u) : Takes s u :=
  ⟨h'.1.trans h.1,h'.2.trans h.2⟩

/-- What is taken from the end of a text is taken from the text. -/
theorem Takes.of_suffix {s t u : Text} (h : Takes t u) (h' : t<:+s) : Takes s u :=
  ⟨h.1.trans h',h.2.trans_le h'.length_le⟩

/-- More may be taken after something. -/
theorem Takes.suffix {s t u : Text} (h : Takes s t) (h' : u<:+t) : Takes s u :=
  ⟨h'.trans h.1,h'.length_le.trans_lt h.2⟩

/-- A character is found behind the white space. -/
theorem expect_eq {c : UInt8} {s rest : Text} (h : expect c s=some rest) :
    s.dropWhile isBlank=c::rest := by
  unfold expect at h
  split at h
  next d rest' hstart =>
    split at h
    next hd =>
      obtain rfl := Option.some.inj h
      rw [hstart,hd]
    next => cases h
  next => cases h

/-- A character that is found is taken. -/
theorem expect_takes {c : UInt8} {s rest : Text} (h : expect c s=some rest) : Takes s rest := by
  have hstart := takes_cons c rest
  rw [←expect_eq h] at hstart
  exact hstart.of_suffix (List.dropWhile_suffix _)

/-- A string stands before its closing quote. -/
theorem scanString_eq {s : Text} : ∀ {r : Text×Text}, scanString s=some r → s=r.1++34::r.2 := by
  fun_induction scanString s with
  | case1 => exact nofun
  | case2 s =>
    rintro r h
    obtain rfl := Option.some.inj h
    rfl
  | case3 a b c d s hhex ih =>
    intro r h
    obtain ⟨r',hr',rfl⟩ := Option.map_eq_some_iff.mp h
    rw [ih hr']
    rfl
  | case4 => exact nofun
  | case5 c s _ hescape ih =>
    intro r h
    obtain ⟨r',hr',rfl⟩ := Option.map_eq_some_iff.mp h
    rw [ih hr']
    rfl
  | case6 => exact nofun
  | case7 => exact nofun
  | case8 c s _ _ _ _ ih =>
    intro r h
    obtain ⟨r',hr',rfl⟩ := Option.map_eq_some_iff.mp h
    rw [ih hr']
    rfl

/-- A string is taken. -/
theorem scanString_takes {s : Text} {r : Text×Text} (h : scanString s=some r) : Takes s r.2 := by
  have hstart := takes_cons 34 r.2
  rw [scanString_eq h]
  exact hstart.of_suffix (List.suffix_append _ _)

/-- Digits are taken. -/
theorem scanDigits_takes {s : Text} {r : ℕ×Text} (h : scanDigits s=some r) : Takes s r.2 := by
  unfold scanDigits at h
  dsimp only at h
  split at h
  next => cases h
  next hne =>
    obtain rfl := Option.some.inj h
    have hprefix : (s.takeWhile isDigit).length ≤ s.length := (List.takeWhile_prefix _).length_le
    rw [List.isEmpty_iff,←List.length_eq_zero_iff] at hne
    refine ⟨List.drop_suffix _ _,?_⟩
    rw [List.length_drop]
    omega

/-- A whole part is taken. -/
theorem scanWhole_takes {s : Text} {r : ℕ×Text} (h : scanWhole s=some r) : Takes s r.2 := by
  unfold scanWhole at h
  dsimp only at h
  split at h
  next => cases h
  next hne =>
    obtain rfl := Option.some.inj h
    have hprefix : (s.takeWhile isDigit).length ≤ s.length := (List.takeWhile_prefix _).length_le
    have hpos := List.length_pos_iff.mpr (not_or.mp hne).1
    refine ⟨List.drop_suffix _ _,?_⟩
    rw [List.length_drop]
    omega

/-- A sign may be taken. -/
theorem scanMinus_suffix (s : Text) : (scanMinus s).2<:+s := by
  unfold scanMinus
  split
  · exact List.suffix_cons _ _
  · exact List.suffix_refl _

/-- A fraction may be taken. -/
theorem scanFraction_suffix {s : Text} {r : ℚ×Text} (h : scanFraction s=some r) : r.2<:+s := by
  unfold scanFraction at h
  split at h
  next s =>
    obtain ⟨r',hr',rfl⟩ := Option.map_eq_some_iff.mp h
    exact (scanDigits_takes hr').1.trans (List.suffix_cons _ _)
  next =>
    obtain rfl := Option.some.inj h
    exact List.suffix_refl _

/-- An exponent may be taken. -/
theorem scanExponent_suffix {s : Text} {r : ℤ×Text} (h : scanExponent s=some r) : r.2<:+s := by
  unfold scanExponent at h
  split at h
  next c s =>
    split at h
    · split at h
      next s =>
        obtain ⟨r',hr',rfl⟩ := Option.map_eq_some_iff.mp h
        exact ((scanDigits_takes hr').1.trans (List.suffix_cons _ _)).trans (List.suffix_cons _ _)
      next s =>
        obtain ⟨r',hr',rfl⟩ := Option.map_eq_some_iff.mp h
        exact ((scanDigits_takes hr').1.trans (List.suffix_cons _ _)).trans (List.suffix_cons _ _)
      next =>
        obtain ⟨r',hr',rfl⟩ := Option.map_eq_some_iff.mp h
        exact (scanDigits_takes hr').1.trans (List.suffix_cons _ _)
    · obtain rfl := Option.some.inj h
      exact List.suffix_refl _
  next =>
    obtain rfl := Option.some.inj h
    exact List.suffix_refl _

/-- The parts of a number. -/
theorem scanNumber_eq_some {s : Text} {r : ℚ×Text} : scanNumber s=some r ↔
    ∃ whole fraction exponent, scanWhole (scanMinus s).2=some whole ∧
      scanFraction whole.2=some fraction ∧ scanExponent fraction.2=some exponent ∧
      r=(if (scanMinus s).1 then -(((whole.1 : ℚ)+fraction.1)*10^exponent.1)
        else ((whole.1 : ℚ)+fraction.1)*10^exponent.1,exponent.2) := by
  simp only [scanNumber,Option.bind_eq_bind,Option.bind_eq_some_iff,Option.pure_def,
    Option.some.injEq]
  constructor
  · rintro ⟨whole,hwhole,fraction,hfraction,exponent,hexponent,rfl⟩
    exact ⟨whole,fraction,exponent,hwhole,hfraction,hexponent,rfl⟩
  · rintro ⟨whole,fraction,exponent,hwhole,hfraction,hexponent,rfl⟩
    exact ⟨whole,hwhole,fraction,hfraction,exponent,hexponent,rfl⟩

/-- A number is taken. -/
theorem scanNumber_takes {s : Text} {r : ℚ×Text} (h : scanNumber s=some r) : Takes s r.2 := by
  obtain ⟨whole,fraction,exponent,hwhole,hfraction,hexponent,rfl⟩ := scanNumber_eq_some.mp h
  exact (((scanWhole_takes hwhole).of_suffix (scanMinus_suffix s)).suffix
    (scanFraction_suffix hfraction)).suffix (scanExponent_suffix hexponent)

/-- The items of an array: one, and the bracket or a comma and more. -/
theorem parseItems_succ {fuel : ℕ} {s : Text} {r : List Json×Text} :
    parseItems (fuel+1) s=some r ↔ ∃ value, parseValue fuel s=some value ∧
      ((∃ rest, expect 93 value.2=some rest ∧ r=([value.1],rest)) ∨
        expect 93 value.2=none ∧ ∃ start more, expect 44 value.2=some start ∧
          parseItems fuel start=some more ∧ r=(value.1::more.1,more.2)) := by
  simp only [parseItems,Option.bind_eq_bind,Option.bind_eq_some_iff]
  refine exists_congr fun value => and_congr_right fun _ => ?_
  cases expect 93 value.2 with
  | none => simp [Option.bind_eq_some_iff,@eq_comm _ r]
  | some rest => simp [@eq_comm _ r]

/-- The members of an object: one, and the brace or a comma and more. -/
theorem parseMembers_succ {fuel : ℕ} {s : Text} {r : List (Text×Json)×Text} :
    parseMembers (fuel+1) s=some r ↔ ∃ opened name colon value, expect 34 s=some opened ∧
      scanString opened=some name ∧ expect 58 name.2=some colon ∧
      parseValue fuel colon=some value ∧
      ((∃ rest, expect 125 value.2=some rest ∧ r=([(name.1,value.1)],rest)) ∨
        expect 125 value.2=none ∧ ∃ start more, expect 44 value.2=some start ∧
          parseMembers fuel start=some more ∧ r=((name.1,value.1)::more.1,more.2)) := by
  simp only [parseMembers,Option.bind_eq_bind,Option.bind_eq_some_iff]
  constructor
  · rintro ⟨opened,hopened,name,hname,colon,hcolon,value,hvalue,h⟩
    refine ⟨opened,name,colon,value,hopened,hname,hcolon,hvalue,?_⟩
    cases hclose : expect 125 value.2 with
    | none => simpa [hclose,Option.bind_eq_some_iff,@eq_comm _ r] using h
    | some rest => simpa [hclose,@eq_comm _ r] using h
  · rintro ⟨opened,name,colon,value,hopened,hname,hcolon,hvalue,h⟩
    refine ⟨opened,hopened,name,hname,colon,hcolon,value,hvalue,?_⟩
    cases hclose : expect 125 value.2 with
    | none => simpa [hclose,Option.bind_eq_some_iff,@eq_comm _ r] using h
    | some rest => simpa [hclose,@eq_comm _ r] using h

/-- A name of the grammar is taken. -/
theorem scanName_takes {name : Text} {value : Json} (hname : name≠[]) {s : Text} {r : Json×Text}
    (h : scanName name value s=some r) : Takes s r.2 ∧ r.1=value := by
  unfold scanName at h
  split at h
  next hprefix =>
    obtain rfl := Option.some.inj h
    have hlength := (List.isPrefixOf_iff_prefix.mp hprefix).length_le
    have hpos := List.length_pos_iff.mpr hname
    refine ⟨⟨List.drop_suffix _ _,?_⟩,rfl⟩
    rw [List.length_drop]
    omega
  next => cases h

/-- A value without parts is taken. -/
theorem scanScalar_takes {s : Text} {r : Json×Text} (h : scanScalar s=some r) :
    Takes s r.2 ∧ r.1.isLeaf=true := by
  unfold scanScalar at h
  split at h
  next s =>
    obtain ⟨htakes,hvalue⟩ := scanName_takes (by decide) h
    exact ⟨(takes_cons _ _).trans htakes,by rw [hvalue]; rfl⟩
  next s =>
    obtain ⟨htakes,hvalue⟩ := scanName_takes (by decide) h
    exact ⟨(takes_cons _ _).trans htakes,by rw [hvalue]; rfl⟩
  next s =>
    obtain ⟨htakes,hvalue⟩ := scanName_takes (by decide) h
    exact ⟨(takes_cons _ _).trans htakes,by rw [hvalue]; rfl⟩
  next =>
    obtain ⟨number,hnumber,rfl⟩ := Option.map_eq_some_iff.mp h
    exact ⟨scanNumber_takes hnumber,rfl⟩

/-- A value is an object or an array with something inside, a string, or one that is read
the same with any fuel. -/
theorem parseValue_cases {fuel : ℕ} {s : Text} {r : Json×Text} (h : parseValue (fuel+1) s=some r) :
    (∃ opened members, s.dropWhile isBlank=123::opened ∧ expect 125 opened=none ∧
      parseMembers fuel opened=some members ∧ r=(.object members.1,members.2)) ∨
    (∃ opened items, s.dropWhile isBlank=91::opened ∧ expect 93 opened=none ∧
      parseItems fuel opened=some items ∧ r=(.array items.1,items.2)) ∨
    (∃ opened word, s.dropWhile isBlank=34::opened ∧ scanString opened=some word ∧
      r=(.string word.1,word.2)) ∨
    (∀ more, parseValue (more+1) s=some r) ∧ Takes (s.dropWhile isBlank) r.2 ∧
      r.1.isLeaf=true := by
  unfold parseValue at h
  split at h
  next opened hstart =>
    split at h
    next rest hclose =>
      obtain rfl := Option.some.inj h
      refine Or.inr (Or.inr (Or.inr ⟨fun more => ?_,?_,rfl⟩))
      · unfold parseValue
        simp only [hstart,hclose]
      · rw [hstart]
        exact (takes_cons _ _).trans (expect_takes hclose)
    next hclose =>
      obtain ⟨members,hmembers,rfl⟩ := Option.map_eq_some_iff.mp h
      exact Or.inl ⟨opened,members,hstart,hclose,hmembers,rfl⟩
  next opened hstart =>
    split at h
    next rest hclose =>
      obtain rfl := Option.some.inj h
      refine Or.inr (Or.inr (Or.inr ⟨fun more => ?_,?_,rfl⟩))
      · unfold parseValue
        simp only [hstart,hclose]
      · rw [hstart]
        exact (takes_cons _ _).trans (expect_takes hclose)
    next hclose =>
      obtain ⟨items,hitems,rfl⟩ := Option.map_eq_some_iff.mp h
      exact Or.inr (Or.inl ⟨opened,items,hstart,hclose,hitems,rfl⟩)
  next opened hstart =>
    obtain ⟨word,hword,rfl⟩ := Option.map_eq_some_iff.mp h
    exact Or.inr (Or.inr (Or.inl ⟨opened,word,hstart,hword,rfl⟩))
  next hobject harray hstring =>
    obtain ⟨htakes,hleaf⟩ := scanScalar_takes h
    refine Or.inr (Or.inr (Or.inr ⟨fun more => ?_,htakes,hleaf⟩))
    unfold parseValue
    split
    next opened hstart => exact absurd hstart (hobject opened)
    next opened hstart => exact absurd hstart (harray opened)
    next opened hstart => exact absurd hstart (hstring opened)
    next => exact h

/-- A value, the items of an array and the members of an object are taken. -/
theorem parse_takes (fuel : ℕ) :
    (∀ s r, parseValue fuel s=some r → Takes s r.2) ∧
      (∀ s r, parseItems fuel s=some r → Takes s r.2) ∧
        ∀ s r, parseMembers fuel s=some r → Takes s r.2 := by
  induction fuel with
  | zero => exact ⟨nofun,nofun,nofun⟩
  | succ fuel ih =>
    obtain ⟨hvalue,hitems,hmembers⟩ := ih
    refine ⟨fun s r h => ?_,fun s r h => ?_,fun s r h => ?_⟩
    · have hstart : Takes (s.dropWhile isBlank) r.2 := by
        rcases parseValue_cases h with ⟨opened,members,hstart,-,hread,rfl⟩|
          ⟨opened,items,hstart,-,hread,rfl⟩|⟨opened,word,hstart,hread,rfl⟩|⟨-,hread,-⟩
        · rw [hstart]
          exact (takes_cons _ _).trans (hmembers opened members hread)
        · rw [hstart]
          exact (takes_cons _ _).trans (hitems opened items hread)
        · rw [hstart]
          exact (takes_cons _ _).trans (scanString_takes hread)
        · exact hread
      exact hstart.of_suffix (List.dropWhile_suffix _)
    · obtain ⟨value,hread,hend⟩ := parseItems_succ.mp h
      have hfirst := hvalue s value hread
      rcases hend with ⟨rest,hclose,rfl⟩|⟨-,start,more,hcomma,hmore,rfl⟩
      · exact hfirst.trans (expect_takes hclose)
      · exact (hfirst.trans (expect_takes hcomma)).trans (hitems start more hmore)
    · obtain ⟨opened,name,colon,value,hopened,hname,hcolon,hread,hend⟩ := parseMembers_succ.mp h
      have hcolon := ((expect_takes hopened).trans (scanString_takes hname)).trans
        (expect_takes hcolon)
      have hfirst := hcolon.trans (hvalue colon value hread)
      rcases hend with ⟨rest,hclose,rfl⟩|⟨-,start,more,hcomma,hmore,rfl⟩
      · exact hfirst.trans (expect_takes hclose)
      · exact (hfirst.trans (expect_takes hcomma)).trans (hmembers start more hmore)

/-- What is read with some fuel is read with all fuel above twice the length of the text. -/
theorem parse_fuel (fuel : ℕ) :
    (∀ s r, parseValue fuel s=some r → ∀ more, 2*s.length < more → parseValue more s=some r) ∧
      (∀ s r, parseItems fuel s=some r →
        ∀ more, 2*s.length+1 < more → parseItems more s=some r) ∧
          ∀ s r, parseMembers fuel s=some r →
            ∀ more, 2*s.length < more → parseMembers more s=some r := by
  induction fuel with
  | zero => exact ⟨nofun,nofun,nofun⟩
  | succ fuel ih =>
    obtain ⟨hvalue,hitems,hmembers⟩ := ih
    obtain ⟨hvalueTakes,-,-⟩ := parse_takes fuel
    refine ⟨fun s r h more hmore => ?_,fun s r h more hmore => ?_,fun s r h more hmore => ?_⟩
    · obtain ⟨more,rfl⟩ := Nat.exists_eq_succ_of_ne_zero (Nat.ne_zero_of_lt hmore)
      have hskip := (List.dropWhile_suffix isBlank : s.dropWhile isBlank<:+s).length_le
      rcases parseValue_cases h with ⟨opened,members,hstart,hclose,hread,rfl⟩|
        ⟨opened,items,hstart,hclose,hread,rfl⟩|⟨opened,word,hstart,hread,rfl⟩|⟨hread,-,-⟩
      · rw [hstart,List.length_cons] at hskip
        have hrest := hmembers opened members hread more (by omega)
        simp only [parseValue,hstart,hclose,hrest,Option.map_some]
      · rw [hstart,List.length_cons] at hskip
        have hrest := hitems opened items hread more (by omega)
        simp only [parseValue,hstart,hclose,hrest,Option.map_some]
      · simp only [parseValue,hstart,hread,Option.map_some]
      · exact hread more
    · obtain ⟨more,rfl⟩ := Nat.exists_eq_succ_of_ne_zero (Nat.ne_zero_of_lt hmore)
      obtain ⟨value,hread,hend⟩ := parseItems_succ.mp h
      have hlength := (hvalueTakes s value hread).2
      refine parseItems_succ.mpr ⟨value,hvalue s value hread more (by omega),?_⟩
      rcases hend with hclose|⟨hopen,start,items,hcomma,hrest,rfl⟩
      · exact Or.inl hclose
      · have hstart := (expect_takes hcomma).2
        exact Or.inr ⟨hopen,start,items,hcomma,hitems start items hrest more (by omega),rfl⟩
    · obtain ⟨more,rfl⟩ := Nat.exists_eq_succ_of_ne_zero (Nat.ne_zero_of_lt hmore)
      obtain ⟨opened,name,colon,value,hopened,hname,hcolon,hread,hend⟩ := parseMembers_succ.mp h
      have hlength := (((expect_takes hopened).trans (scanString_takes hname)).trans
        (expect_takes hcolon)).2
      have hread' := hvalue colon value hread more (by omega)
      refine parseMembers_succ.mpr
        ⟨opened,name,colon,value,hopened,hname,hcolon,hread',?_⟩
      rcases hend with hclose|⟨hopen,start,members,hcomma,hrest,rfl⟩
      · exact Or.inl hclose
      · have hafter := (hvalueTakes colon value hread).2
        have hstart := (expect_takes hcomma).2
        exact Or.inr ⟨hopen,start,members,hcomma,hmembers start members hrest more (by omega),rfl⟩

/-- A value that is read up to white space is what its text parses to. -/
theorem parse_of_parseValue (fuel : ℕ) {s rest : Text} {value : Json}
    (h : parseValue fuel s=some (value,rest)) (hrest : rest.all isBlank=true) :
    parse s=some value := by
  have hread := (parse_fuel fuel).1 s (value,rest) h (2*s.length+1) (Nat.lt_succ_self _)
  unfold parse
  rw [hread]
  exact if_pos hrest

/-- A value that is a string stands in the text as it is spelled, between its quotes. -/
theorem parseValue_string {fuel : ℕ} {s : Text} {r : Json×Text} (h : parseValue fuel s=some r)
    {word : Text} (hword : r.1=.string word) : 34::word++[34]<:+:s := by
  cases fuel with
  | zero => cases h
  | succ fuel =>
    rcases parseValue_cases h with ⟨opened,members,-,-,-,rfl⟩|⟨opened,items,-,-,-,rfl⟩|
      ⟨opened,spelled,hstart,hread,rfl⟩|⟨-,-,hleaf⟩
    · cases hword
    · cases hword
    · obtain rfl := Json.string.inj hword
      have hopened : 34::spelled.1++[34]<+:s.dropWhile isBlank :=
        ⟨spelled.2,by rw [hstart,scanString_eq hread]; simp⟩
      exact hopened.isInfix.trans (List.dropWhile_suffix _).isInfix
    · rw [hword] at hleaf
      cases hleaf

/-- A member that is a string stands in the text as it is spelled, between its quotes. -/
theorem parseMembers_string {fuel : ℕ} {s : Text} {r : List (Text×Json)×Text}
    (h : parseMembers fuel s=some r) {name word : Text} (hmem : (name,Json.string word)∈r.1) :
    34::word++[34]<:+:s := by
  induction fuel generalizing s r with
  | zero => cases h
  | succ fuel ih =>
    obtain ⟨opened,first,colon,value,hopened,hname,hcolon,hread,hend⟩ := parseMembers_succ.mp h
    have hcolon := ((expect_takes hopened).trans (scanString_takes hname)).trans
      (expect_takes hcolon)
    have hvalue := hcolon.trans ((parse_takes fuel).1 colon value hread)
    have hhead : Json.string word=value.1 → 34::word++[34]<:+:s := fun hstring =>
      (parseValue_string hread hstring.symm).trans hcolon.1.isInfix
    rcases hend with ⟨rest,-,rfl⟩|⟨-,start,more,hcomma,hmore,rfl⟩
    · have heq := List.mem_singleton.mp hmem
      exact hhead (Prod.mk.inj heq).2
    · rcases List.mem_cons.mp hmem with heq|hmem
      · exact hhead (Prod.mk.inj heq).2
      · exact (ih hmore hmem).trans (hvalue.trans (expect_takes hcomma)).1.isInfix

/-- The members of an object that is parsed. -/
theorem parse_object {s : Text} {members : List (Text×Json)} (h : parse s=some (.object members))
    {name word : Text} (hmem : (name,Json.string word)∈members) : 34::word++[34]<:+:s := by
  unfold parse at h
  split at h
  next value rest hread =>
    split at h
    · obtain rfl := Option.some.inj h
      rcases parseValue_cases hread with ⟨opened,inside,hstart,-,hmembers,heq⟩|
        ⟨opened,items,-,-,-,heq⟩|⟨opened,spelled,-,-,heq⟩|⟨-,-,hleaf⟩
      · obtain ⟨hobject,-⟩ := Prod.mk.inj heq
        obtain rfl := Json.object.inj hobject
        have hopened := takes_cons 123 opened
        rw [←hstart] at hopened
        exact (parseMembers_string hmembers hmem).trans
          (hopened.of_suffix (List.dropWhile_suffix _)).1.isInfix
      · cases heq
      · cases heq
      · rw [List.isEmpty_iff.mp hleaf] at hmem
        cases hmem
    · cases h
  next => cases h

/-- A member that is found stands among the members. -/
theorem member_mem {members : List (Text×Json)} {name : Text} {value : Json}
    (h : member members name=some value) : ∃ spelled, (spelled,value)∈members := by
  obtain ⟨entry,hentry,rfl⟩ := Option.map_eq_some_iff.mp h
  exact ⟨entry.1,List.mem_reverse.mp (List.mem_of_find?_eq_some hentry)⟩

/-- A character that stands for itself in a string. -/
def isPlain (c : UInt8) : Bool := c != 34 && c != 92 && !decide (c<32)

/-- Plain characters are read up to the quote. -/
theorem scanString_plain {word : Text} (h : word.all isPlain=true) (rest : Text) :
    scanString (word++34::rest)=some (word,rest) := by
  induction word with
  | nil => rfl
  | cons c word ih =>
    rw [List.all_cons,Bool.and_eq_true] at h
    obtain ⟨hc,hword⟩ := h
    simp only [isPlain,Bool.and_eq_true,bne_iff_ne,Bool.not_eq_true',decide_eq_false_iff_not] at hc
    obtain ⟨⟨hquote,hslash⟩,hcontrol⟩ := hc
    rw [List.cons_append]
    unfold scanString
    split
    next heq => cases heq
    next heq => exact absurd (List.cons.inj heq).1 hquote
    next heq => exact absurd (List.cons.inj heq).1 hslash
    next heq => exact absurd (List.cons.inj heq).1 hslash
    next heq =>
      obtain ⟨rfl,rfl⟩ := List.cons.inj heq
      rw [if_neg hcontrol,ih hword]
      rfl

/-- A character is found where it stands. -/
theorem expect_cons {c : UInt8} (h : isBlank c=false) (s : Text) : expect c (c::s)=some s := by
  unfold expect
  rw [List.dropWhile_cons_of_neg (by simp [h])]
  exact if_pos rfl

/-- A character is not found before another. -/
theorem expect_ne {c d : UInt8} (h : isBlank d=false) (hne : d≠c) (s : Text) :
    expect c (d::s)=none := by
  unfold expect
  rw [List.dropWhile_cons_of_neg (by simp [h])]
  exact if_neg hne

/-- A plain string is a value. -/
theorem parseValue_plain {word : Text} (h : word.all isPlain=true) (fuel : ℕ) (rest : Text) :
    parseValue (fuel+1) (34::word++34::rest)=some (.string word,rest) := by
  have hstart : (34::word++34::rest).dropWhile isBlank=34::(word++34::rest) :=
    List.dropWhile_cons_of_neg (by decide)
  simp only [parseValue,hstart,scanString_plain h,Option.map_some]

/-- The last member of an object. -/
theorem parseMembers_last {name text rest : Text} (h : name.all isPlain=true) {fuel : ℕ}
    {value : Json} (hvalue : parseValue fuel text=some (value,125::rest)) :
    parseMembers (fuel+1) (34::name++34::58::text)=some ([(name,value)],rest) :=
  parseMembers_succ.mpr ⟨name++34::58::text,(name,58::text),text,(value,125::rest),
    expect_cons rfl _,scanString_plain h _,expect_cons rfl _,hvalue,
    Or.inl ⟨rest,expect_cons rfl _,rfl⟩⟩

/-- A member of an object before others. -/
theorem parseMembers_more {name text more : Text} (h : name.all isPlain=true) {fuel : ℕ}
    {value : Json} {r : List (Text×Json)×Text} (hvalue : parseValue fuel text=some (value,44::more))
    (hmore : parseMembers fuel more=some r) :
    parseMembers (fuel+1) (34::name++34::58::text)=some ((name,value)::r.1,r.2) :=
  parseMembers_succ.mpr ⟨name++34::58::text,(name,58::text),text,(value,44::more),
    expect_cons rfl _,scanString_plain h _,expect_cons rfl _,hvalue,
    Or.inr ⟨expect_ne rfl (by decide) _,more,r,expect_cons rfl _,hmore,rfl⟩⟩

/-- An object with members. -/
theorem parse_members {text rest : Text} {fuel : ℕ} {members : List (Text×Json)}
    (h : parseMembers fuel (34::text)=some (members,rest)) (hrest : rest.all isBlank=true) :
    parse (123::34::text)=some (.object members) := by
  have hstart : (123::34::text).dropWhile isBlank=123::34::text :=
    List.dropWhile_cons_of_neg (by decide)
  have hopen : expect 125 (34::text)=none := expect_ne rfl (by decide) _
  have hread : parseValue (fuel+1) (123::34::text)=some (.object members,rest) := by
    simp only [parseValue,hstart,hopen,h,Option.map_some]
  exact parse_of_parseValue (fuel+1) hread hrest

/-- A whole part that `%d` prints reads back. -/
theorem scanWhole_decimal (n : ℕ) {rest : Text} (hrest : ∀ c∈rest.head?, isDigit c=false) :
    scanWhole (decimal n++rest)=some (n,rest) := by
  have hzero : ¬((decimal n).head?=some 48 ∧ decimal n≠[48]) := by
    rintro ⟨hhead,hne⟩
    by_cases hn : n=0
    · rw [hn] at hne
      exact hne rfl
    · exact decimal_head hn hhead
  unfold scanWhole
  dsimp only
  rw [takeWhile_digits (decimal_digits n) hrest,if_neg (not_or.mpr ⟨decimal_ne_nil n,hzero⟩),
    digitsValue_decimal,List.drop_left]

/-- A fraction of one digit. -/
theorem scanFraction_digit {n : ℕ} (hn : n<10) {rest : Text}
    (hrest : ∀ c∈rest.head?, isDigit c=false) :
    scanFraction (46::digitChar n::rest)=some ((n : ℚ)/10,rest) := by
  have hdigit : ∀ c∈[digitChar n], isDigit c=true := by simp
  have hdigits : (digitChar n::rest).takeWhile isDigit=[digitChar n] :=
    takeWhile_digits hdigit hrest
  have hvalue : digitsValue [digitChar n]=n := by
    rw [←decimal_digit hn,digitsValue_decimal]
  simp only [scanFraction,scanDigits,hdigits]
  rw [if_neg (by simp),hvalue,List.length_singleton,List.drop_succ_cons,List.drop_zero]
  simp

/-- A number without an exponent. -/
theorem scanExponent_none {rest : Text} (h : ∀ c∈rest.head?, ¬(c=69 ∨ c=101)) :
    scanExponent rest=some (0,rest) := by
  cases rest with
  | nil => rfl
  | cons c rest => exact if_neg (h c rfl)

/-- The sign that `%d` prints. -/
theorem scanMinus_decimalInt (v : ℤ) (rest : Text) :
    scanMinus (decimalInt v++rest)=(decide (v<0),decimal v.natAbs++rest) := by
  unfold decimalInt
  split
  next hneg =>
    rw [decide_eq_true hneg]
    rfl
  next hpos =>
    rw [decide_eq_false hpos]
    unfold scanMinus
    split
    next s heq =>
      obtain ⟨c,digits,hdigits⟩ := List.exists_cons_of_ne_nil (decimal_ne_nil v.natAbs)
      have hc := decimal_digits v.natAbs c (by rw [hdigits]; exact List.mem_cons_self)
      rw [hdigits,List.cons_append] at heq
      rw [(List.cons.inj heq).1] at hc
      cases hc
    next => rfl

/-- `%d.%d` with one digit behind the point is a number. -/
theorem scanNumber_tenths (v : ℤ) {n : ℕ} (hn : n<10) {rest : Text}
    (hrest : ∀ c∈rest.head?, isDigit c=false ∧ ¬(c=69 ∨ c=101)) :
    scanNumber (decimalInt v++46::digitChar n::rest)=
      some (if v<0 then -((v.natAbs : ℚ)+n/10) else (v.natAbs : ℚ)+n/10,rest) := by
  have hpoint : ∀ c∈(46::digitChar n::rest).head?, isDigit c=false := by
    intro c hc
    obtain rfl := Option.some.inj hc
    rfl
  refine scanNumber_eq_some.mpr ⟨(v.natAbs,46::digitChar n::rest),((n : ℚ)/10,rest),(0,rest),?_,
    scanFraction_digit hn fun c hc => (hrest c hc).1,
    scanExponent_none fun c hc => (hrest c hc).2,?_⟩
  · rw [scanMinus_decimalInt,scanWhole_decimal _ hpoint]
  · rw [scanMinus_decimalInt]
    simp

/-- What `%d` prints starts with a sign or a digit. -/
theorem decimalInt_start (v : ℤ) :
    ∃ c rest, decimalInt v=c::rest ∧ (c=45 ∨ isDigit c=true) := by
  obtain ⟨c,digits,hdigits⟩ := List.exists_cons_of_ne_nil (decimal_ne_nil v.natAbs)
  unfold decimalInt
  split
  · exact ⟨45,decimal v.natAbs,rfl,Or.inl rfl⟩
  · exact ⟨c,digits,hdigits,Or.inr (decimal_digits _ c (by rw [hdigits]; exact List.mem_cons_self))⟩

/-- A text that starts with a sign or a digit is read as a number. -/
theorem parseValue_number {c : UInt8} {s : Text} {r : ℚ×Text} (hc : c=45 ∨ isDigit c=true)
    (h : scanNumber (c::s)=some r) (fuel : ℕ) :
    parseValue (fuel+1) (c::s)=some (.number r.1,r.2) := by
  have hother : ∀ d : UInt8, d≠45 → isDigit d=false → c≠d := by
    rintro d hminus hdigit rfl
    rcases hc with hc|hc
    · exact hminus hc
    · rw [hdigit] at hc
      cases hc
  have hblank : isBlank c=false := by
    have hspace := hother 32 (by decide) rfl
    have htab := hother 9 (by decide) rfl
    have hline := hother 10 (by decide) rfl
    have hreturn := hother 13 (by decide) rfl
    simp [isBlank,hspace,htab,hline,hreturn]
  have hstart : (c::s).dropWhile isBlank=c::s := List.dropWhile_cons_of_neg (by simp [hblank])
  have hscalar : scanScalar (c::s)=some (.number r.1,r.2) := by
    unfold scanScalar
    split
    next heq => exact absurd (List.cons.inj heq).1 (hother 110 (by decide) rfl)
    next heq => exact absurd (List.cons.inj heq).1 (hother 116 (by decide) rfl)
    next heq => exact absurd (List.cons.inj heq).1 (hother 102 (by decide) rfl)
    next => rw [h,Option.map_some]
  unfold parseValue
  rw [hstart]
  split
  next heq => exact absurd (List.cons.inj heq).1 (hother 123 (by decide) rfl)
  next heq => exact absurd (List.cons.inj heq).1 (hother 91 (by decide) rfl)
  next heq => exact absurd (List.cons.inj heq).1 (hother 34 (by decide) rfl)
  next => exact hscalar

end WebDataLogger.JsonText
