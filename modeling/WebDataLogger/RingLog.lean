import Mathlib.Data.Nat.Notation
import Mathlib.Data.Set.Operations

/-!
# Records kept in a ring of slots

Record number `k` of a log goes to slot `k` modulo the capacity. A recorded
entry overwrites the oldest slot. An attempt that fails may leave anything in
that slot, so that one entry less is certain to be kept.
-/

namespace WebDataLogger.RingLog

/-- The slot of every one of the last `window` of `total` records holds it. -/
def Retains (capacity window total : ℕ) (holds : ℕ → ℕ → Prop) : Prop :=
  ∀ k, k<total → total≤k+window → holds (k%capacity) k

/-- Records less than a whole round apart lie in different slots. -/
theorem slot_ne {capacity k total : ℕ} (hlt : k<total) (hround : total<k+capacity) :
    k%capacity≠total%capacity := by
  intro h
  have hdvd := Nat.sub_mod_eq_zero_of_mod_eq h.symm
  have hpos : total-k<capacity := by omega
  rw [Nat.mod_eq_of_lt hpos] at hdvd
  omega

/-- The records of the last round lie in slots of their own. -/
theorem slot_injOn (capacity total : ℕ) :
    Set.InjOn (fun k => k%capacity) {k | k<total ∧ total≤k+capacity} := by
  rintro j ⟨hj,hjround⟩ k ⟨hk,hkround⟩ hslot
  rcases Nat.lt_trichotomy j k with hlt|heq|hgt
  · exact absurd hslot (slot_ne hlt (by omega))
  · exact heq
  · exact absurd hslot.symm (slot_ne hgt (by omega))

/-- An empty log retains its records. -/
theorem retains_zero (capacity window : ℕ) (holds : ℕ → ℕ → Prop) :
    Retains capacity window 0 holds := fun _ hk => absurd hk (Nat.not_lt_zero _)

/-- Recording the next entry in its slot keeps the window. -/
theorem Retains.record {capacity window total : ℕ} {holds holds' : ℕ → ℕ → Prop}
    (h : Retains capacity window total holds) (hw : window≤capacity)
    (hnew : holds' (total%capacity) total)
    (hkeep : ∀ k, k<total → k%capacity≠total%capacity → holds (k%capacity) k →
      holds' (k%capacity) k) :
    Retains capacity window (total+1) holds' := by
  intro k hk hwindow
  rcases Nat.lt_or_ge k total with hlt|hge
  · exact hkeep k hlt (slot_ne hlt (by omega)) (h k hlt (by omega))
  · have heq : k=total := by omega
    rw [heq]
    exact hnew

/-- An attempt that fails may destroy the slot of the next entry. What a window
below the capacity retains is not there. -/
theorem Retains.spoil {capacity window total : ℕ} {holds holds' : ℕ → ℕ → Prop}
    (h : Retains capacity window total holds) (hw : window<capacity)
    (hkeep : ∀ k, k<total → k%capacity≠total%capacity → holds (k%capacity) k →
      holds' (k%capacity) k) :
    Retains capacity window total holds' :=
  fun k hk hwindow => hkeep k hk (slot_ne hk (by omega)) (h k hk hwindow)

/-- Changes outside the ring keep the window. -/
theorem Retains.mono {capacity window total : ℕ} {holds holds' : ℕ → ℕ → Prop}
    (h : Retains capacity window total holds)
    (hkeep : ∀ k, k<total → holds (k%capacity) k → holds' (k%capacity) k) :
    Retains capacity window total holds' :=
  fun k hk hwindow => hkeep k hk (h k hk hwindow)

/-- Stepping the index with a reset at the capacity follows the count of records. -/
theorem next_index {capacity index total : ℕ} (hpos : 0<capacity) (h : index=total%capacity) :
    (if capacity ≤ index+1 then 0 else index+1)=(total+1)%capacity := by
  have hlt := Nat.mod_lt total hpos
  rw [Nat.add_mod,←h]
  rcases Nat.lt_or_ge 1 capacity with hone|hone
  · rw [Nat.mod_eq_of_lt hone]
    split
    next hfull =>
      have heq : index+1=capacity := by omega
      rw [heq,Nat.mod_self]
    next hroom => rw [Nat.mod_eq_of_lt (by omega)]
  · have heq : capacity=1 := by omega
    subst heq
    simp [Nat.mod_one]

end WebDataLogger.RingLog
