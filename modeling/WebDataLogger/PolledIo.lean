import Mathlib.Data.List.Basic
import Mathlib.Order.Filter.AtTopBot.Basic

/-!
# Polled input and output

A driver that polls takes readings of its device one after another and makes
accesses to it. It waits by taking more readings. A polled computation is given
by what it does on a list of readings, and it carries the proof that it looks at
no reading before taking it. What it takes, returns and accesses is composed
step by step.
-/

namespace WebDataLogger.PolledIo

variable {ι ω α β : Type}

/-- A computation that takes readings and makes accesses. It has no result while it
waits for another reading. -/
structure Polled (ι ω α : Type) where
  /-- Result, accesses and the readings left over. -/
  run : List ι → Option (α×List ω×List ι)
  /-- The readings taken decide the result, whatever comes after them. -/
  takes_front : ∀ {readings rest : List ι} {a : α} {out : List ω},
    run readings=some (a,out,rest) →
      ∃ taken, readings=taken++rest ∧ ∀ more, run (taken++more)=some (a,out,more)

namespace Polled

/-- The computation returns `a` after taking exactly these readings and making exactly
these accesses. -/
def Takes (x : Polled ι ω α) (taken : List ι) (a : α) (out : List ω) : Prop :=
  x.run taken=some (a,out,[])

/-- What was taken can be followed by any readings. -/
theorem Takes.append {x : Polled ι ω α} {taken : List ι} {a : α} {out : List ω}
    (h : x.Takes taken a out) (more : List ι) : x.run (taken++more)=some (a,out,more) := by
  obtain ⟨taken',htaken,hrun⟩ := x.takes_front h
  rw [List.append_nil] at htaken
  rw [htaken]
  exact hrun more

/-- A run takes some first readings. -/
theorem run_eq_some_iff {x : Polled ι ω α} {readings rest : List ι} {a : α} {out : List ω} :
    x.run readings=some (a,out,rest) ↔ ∃ taken, readings=taken++rest ∧ x.Takes taken a out := by
  constructor
  · intro h
    obtain ⟨taken,rfl,hrun⟩ := x.takes_front h
    refine ⟨taken,rfl,?_⟩
    have hnil := hrun []
    rwa [List.append_nil] at hnil
  · rintro ⟨taken,rfl,h⟩
    exact h.append rest

/-- The result without a reading. -/
def finish (a : α) : Polled ι ω α where
  run readings := some (a,[],readings)
  takes_front := by
    intro readings rest b out h
    cases h
    exact ⟨[],rfl,fun more => rfl⟩

/-- Accesses that wait for nothing. -/
def emit (accesses : List ω) : Polled ι ω Unit where
  run readings := some ((),accesses,readings)
  takes_front := by
    intro readings rest u out h
    cases h
    exact ⟨[],rfl,fun more => rfl⟩

/-- One computation and then another that depends on its result. -/
def bind (x : Polled ι ω α) (f : α → Polled ι ω β) : Polled ι ω β where
  run readings :=
    match x.run readings with
    | none => none
    | some (a,first,rest) =>
      match (f a).run rest with
      | none => none
      | some (b,second,rest') => some (b,first++second,rest')
  takes_front := by
    intro readings rest b out h
    split at h
    · cases h
    · rename_i a first middle hx
      split at h
      · cases h
      · rename_i b' second rest' hf
        cases h
        obtain ⟨taken,rfl,hfirst⟩ := x.takes_front hx
        obtain ⟨taken',rfl,hsecond⟩ := (f a).takes_front hf
        refine ⟨taken++taken',(List.append_assoc _ _ _).symm,fun more => ?_⟩
        rw [List.append_assoc,hfirst]
        dsimp only
        rw [hsecond]

instance : Monad (Polled ι ω) where
  pure := finish
  bind := bind

/-- Turns of a loop that takes one reading each, up to the first turn with a result. -/
def turns (turn : ι → List ω×Option α) : List ι → Option (α×List ω×List ι)
  | [] => none
  | reading::readings =>
    match (turn reading).2 with
    | some a => some (a,(turn reading).1,readings)
    | none => (turns turn readings).map (fun r => (r.1,(turn reading).1++r.2.1,r.2.2))

/-- A loop ends with the first reading that decides it. -/
theorem turns_eq_some {turn : ι → List ω×Option α} {readings rest : List ι} {a : α} {out : List ω}
    (h : turns turn readings=some (a,out,rest)) :
    ∃ waited last, readings=waited++last::rest ∧ (∀ w∈waited, (turn w).2=none) ∧
      (turn last).2=some a ∧ out=waited.flatMap (fun w => (turn w).1)++(turn last).1 := by
  induction readings generalizing out with
  | nil => cases h
  | cons reading readings ih =>
    rw [turns] at h
    split at h
    next a' hdone =>
      cases h
      exact ⟨[],reading,rfl,fun w hw => absurd hw List.not_mem_nil,hdone,rfl⟩
    next hwait =>
      obtain ⟨⟨a',out',rest'⟩,htail,heq⟩ := Option.map_eq_some_iff.mp h
      cases heq
      obtain ⟨waited,last,rfl,hnone,hlast,rfl⟩ := ih htail
      refine ⟨reading::waited,last,rfl,?_,hlast,?_⟩
      · intro w hw
        rcases List.mem_cons.mp hw with rfl|hw
        · exact hwait
        · exact hnone w hw
      · rw [List.flatMap_cons,List.append_assoc]

/-- A loop that waits and then ends. -/
theorem turns_append {turn : ι → List ω×Option α} {waited : List ι} {last : ι} {a : α}
    (hnone : ∀ w∈waited, (turn w).2=none) (hlast : (turn last).2=some a) (rest : List ι) :
    turns turn (waited++last::rest)=
      some (a,waited.flatMap (fun w => (turn w).1)++(turn last).1,rest) := by
  induction waited with
  | nil =>
    rw [List.nil_append,turns]
    simp only [hlast,List.flatMap_nil,List.nil_append]
  | cons w waited ih =>
    have hw := hnone w List.mem_cons_self
    rw [List.cons_append,turns]
    simp only [hw]
    rw [ih fun v hv => hnone v (List.mem_cons_of_mem w hv)]
    simp only [Option.map_some,List.flatMap_cons,List.append_assoc]

/-- A loop that polls: each turn takes one reading and makes accesses, and the loop ends
with the first turn that has a result. -/
def loop (turn : ι → List ω×Option α) : Polled ι ω α where
  run := turns turn
  takes_front := by
    intro readings rest a out h
    obtain ⟨waited,last,rfl,hnone,hlast,rfl⟩ := turns_eq_some h
    refine ⟨waited++[last],by rw [List.append_assoc,List.singleton_append],fun more => ?_⟩
    rw [List.append_assoc,List.singleton_append]
    exact turns_append hnone hlast more

/-- A result takes nothing and accesses nothing. -/
@[simp] theorem takes_pure {a b : α} {taken : List ι} {out : List ω} :
    (pure a : Polled ι ω α).Takes taken b out ↔ taken=[] ∧ b=a ∧ out=[] := by
  unfold Takes
  constructor
  · intro h
    cases h
    exact ⟨rfl,rfl,rfl⟩
  · rintro ⟨rfl,rfl,rfl⟩
    rfl

/-- Accesses take nothing. -/
@[simp] theorem takes_emit {accesses out : List ω} {taken : List ι} {u : Unit} :
    (emit accesses : Polled ι ω Unit).Takes taken u out ↔ taken=[] ∧ out=accesses := by
  unfold Takes
  constructor
  · intro h
    cases h
    exact ⟨rfl,rfl⟩
  · rintro ⟨rfl,rfl⟩
    rfl

/-- A sequence takes what its parts take. -/
theorem takes_bind {x : Polled ι ω α} {f : α → Polled ι ω β} {taken : List ι} {b : β}
    {out : List ω} : (x >>= f).Takes taken b out ↔
      ∃ taken₁ taken₂ a out₁ out₂, taken=taken₁++taken₂ ∧ out=out₁++out₂ ∧
        x.Takes taken₁ a out₁ ∧ (f a).Takes taken₂ b out₂ := by
  constructor
  · intro h
    change (x.bind f).run taken=_ at h
    unfold bind at h
    dsimp only at h
    split at h
    · cases h
    · rename_i a first middle hx
      split at h
      · cases h
      · rename_i b' second rest hf
        cases h
        obtain ⟨taken₁,rfl,htakes⟩ := run_eq_some_iff.mp hx
        exact ⟨taken₁,middle,a,first,second,rfl,rfl,htakes,hf⟩
  · rintro ⟨taken₁,taken₂,a,out₁,out₂,rfl,rfl,hx,hf⟩
    change (x.bind f).run (taken₁++taken₂)=_
    unfold bind
    dsimp only
    rw [hx.append]
    dsimp only
    rw [show (f a).run taken₂=some (b,out₂,[]) from hf]

/-- A loop waits through turns without a result and ends with one that has it. -/
theorem takes_loop {turn : ι → List ω×Option α} {taken : List ι} {a : α} {out : List ω} :
    (loop turn).Takes taken a out ↔
      ∃ waited last, taken=waited++[last] ∧ (∀ w∈waited, (turn w).2=none) ∧
        (turn last).2=some a ∧ out=waited.flatMap (fun w => (turn w).1)++(turn last).1 := by
  constructor
  · exact turns_eq_some
  · rintro ⟨waited,last,rfl,hnone,hlast,rfl⟩
    exact turns_append hnone hlast []

/-- The computation returns on every endless sequence of readings that keeps answering:
no matter how many readings were taken, each of the given answers comes again. -/
def Returns (answers : Set ι → Prop) (x : Polled ι ω α) : Prop :=
  ∀ readings : ℕ → ι, (∀ s, answers s → ∃ᶠ n in Filter.atTop, readings n∈s) →
    ∃ n a out, x.Takes ((List.range n).map readings) a out

/-- Readings after the first ones keep answering. -/
theorem frequently_drop {readings : ℕ → ι} {s : Set ι} (n : ℕ)
    (h : ∃ᶠ k in Filter.atTop, readings k∈s) : ∃ᶠ k in Filter.atTop, readings (n+k)∈s := by
  rw [Filter.frequently_atTop] at h ⊢
  intro k
  obtain ⟨j,hj,hs⟩ := h (n+k)
  exact ⟨j-n,by omega,by rwa [Nat.add_sub_cancel' (by omega)]⟩

/-- A result is returned at once. -/
theorem returns_pure {answers : Set ι → Prop} (a : α) :
    Returns answers (pure a : Polled ι ω α) :=
  fun _ _ => ⟨0,a,[],takes_pure.mpr ⟨rfl,rfl,rfl⟩⟩

/-- Accesses are made at once. -/
theorem returns_emit {answers : Set ι → Prop} (accesses : List ω) :
    Returns answers (emit accesses : Polled ι ω Unit) :=
  fun _ _ => ⟨0,(),accesses,takes_emit.mpr ⟨rfl,rfl⟩⟩

/-- A sequence returns when its parts do. -/
theorem Returns.bind {answers : Set ι → Prop} {x : Polled ι ω α} {f : α → Polled ι ω β}
    (hx : Returns answers x) (hf : ∀ a, Returns answers (f a)) : Returns answers (x >>= f) := by
  intro readings h
  obtain ⟨n,a,first,hfirst⟩ := hx readings h
  obtain ⟨m,b,second,hsecond⟩ := hf a (fun k => readings (n+k)) fun s hs => frequently_drop n (h s hs)
  refine ⟨n+m,b,first++second,takes_bind.mpr ⟨_,_,a,first,second,?_,rfl,hfirst,hsecond⟩⟩
  rw [List.range_add,List.map_append,List.map_map]
  rfl

/-- A loop returns when one of the answers ends it. -/
theorem returns_loop {answers : Set ι → Prop} {turn : ι → List ω×Option α}
    (h : answers {r | (turn r).2.isSome=true}) : Returns answers (loop turn) := by
  intro readings hreadings
  have hex : ∃ n, (turn (readings n)).2.isSome=true := (hreadings _ h).exists
  obtain ⟨a,ha⟩ := Option.isSome_iff_exists.mp (Nat.find_spec hex)
  refine ⟨Nat.find hex+1,a,_,takes_loop.mpr ⟨(List.range (Nat.find hex)).map readings,_,?_,?_,ha,rfl⟩⟩
  · rw [List.range_succ,List.map_append]
    rfl
  · intro w hw
    obtain ⟨k,hk,rfl⟩ := List.mem_map.mp hw
    rw [←Option.not_isSome_iff_eq_none]
    exact Nat.find_min hex (List.mem_range.mp hk)

/-- A loop that every reading ends takes one reading. -/
theorem returns_loop_of_forall {answers : Set ι → Prop} {turn : ι → List ω×Option α}
    (h : ∀ r, ∃ a, (turn r).2=some a) : Returns answers (loop turn) := by
  intro readings _
  obtain ⟨a,ha⟩ := h (readings 0)
  exact ⟨1,a,_,takes_loop.mpr ⟨[],readings 0,rfl,fun w hw => absurd hw List.not_mem_nil,ha,rfl⟩⟩

end Polled

end WebDataLogger.PolledIo
