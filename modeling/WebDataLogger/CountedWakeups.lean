import Mathlib.Algebra.BigOperators.Ring.Finset
import Mathlib.Data.Fintype.Basic
import Mathlib.Tactic.Ring

/-!
# Counted wakeups

Tasks wait in a list for units of something, such as messages or free places. A unit that
comes wakes the first of them, or is counted while the list is locked, so that the lock wakes
as many when it is released. A count goes no further than the number of tasks, which is
enough to wake them all. No wakeup is lost: while any task waits, each unit that is there has
a task that was woken and will look for it.
-/

namespace WebDataLogger.CountedWakeups

section Counting

variable {τ : Type*} [Fintype τ] [DecidableEq τ]

/-- Tasks that are going to look for a unit and do not wait. -/
def ready (looks : τ → Bool) (waiting : List τ) : ℕ :=
  (Finset.univ.filter fun t => looks t=true ∧ t∉waiting).card

/-- One when a task is going to look. -/
def one (looks : τ → Bool) (waiting : List τ) (t : τ) : ℕ :=
  if looks t=true ∧ t∉waiting then 1 else 0

/-- Only one task has changed. -/
theorem ready_change {looks looks' : τ → Bool} {waiting waiting' : List τ} (t : τ)
    (h : ∀ x≠t, (looks x=true ∧ x∉waiting ↔ looks' x=true ∧ x∉waiting')) :
    ready looks waiting+one looks' waiting' t=ready looks' waiting'+one looks waiting t := by
  unfold ready one
  rw [Finset.card_filter,Finset.card_filter,←Finset.add_sum_erase _ _ (Finset.mem_univ t),
    ←Finset.add_sum_erase (Finset.univ) (fun x => if looks' x=true ∧ x∉waiting' then 1 else 0)
      (Finset.mem_univ t)]
  have hrest : ∑ x∈Finset.univ.erase t, (if looks x=true ∧ x∉waiting then 1 else 0)=
      ∑ x∈Finset.univ.erase t, (if looks' x=true ∧ x∉waiting' then 1 else 0) := by
    refine Finset.sum_congr rfl fun x hx => ?_
    rw [if_congr (h x (Finset.ne_of_mem_erase hx)) rfl rfl]
  rw [hrest]
  ring

/-- One task may begin to look. -/
theorem ready_mono {looks looks' : τ → Bool} {waiting : List τ} (t : τ)
    (h : ∀ x≠t, looks x=looks' x) (hlooks : looks t=true → looks' t=true) :
    ready looks waiting≤ready looks' waiting := by
  have hchange := @ready_change τ _ _ looks looks' waiting waiting t fun x hx => by rw [h x hx]
  have hone : one looks waiting t≤one looks' waiting t := by
    unfold one
    by_cases ht : looks t=true ∧ t∉waiting
    · rw [if_pos ht,if_pos ⟨hlooks ht.1,ht.2⟩]
    · rw [if_neg ht]
      exact Nat.zero_le _
  omega

/-- One task may stop looking. -/
theorem ready_le_succ {looks looks' : τ → Bool} {waiting : List τ} (t : τ)
    (h : ∀ x≠t, looks x=looks' x) : ready looks waiting≤ready looks' waiting+1 := by
  have hchange := @ready_change τ _ _ looks looks' waiting waiting t fun x hx => by rw [h x hx]
  have hone : one looks waiting t≤1 := by
    unfold one
    split <;> omega
  omega

/-- Waking the first task that waits. -/
theorem ready_tail {looks : τ → Bool} {first : τ} {waiting : List τ}
    (hnodup : (first::waiting).Nodup) (hlooks : looks first=true) :
    ready looks waiting=ready looks (first::waiting)+1 := by
  have hnot := (List.nodup_cons.mp hnodup).1
  have hchange := @ready_change τ _ _ looks looks (first::waiting) waiting first (by
    intro x hx
    rw [List.mem_cons,not_or]
    exact ⟨fun h => ⟨h.1,h.2.2⟩,fun h => ⟨h.1,hx,h.2⟩⟩)
  rw [one,one,if_pos ⟨hlooks,hnot⟩,if_neg (fun h => h.2 List.mem_cons_self)] at hchange
  exact hchange.symm

/-- Waking tasks from the front. -/
theorem ready_drop {looks : τ → Bool} {waiting : List τ} (hnodup : waiting.Nodup)
    (hlooks : ∀ t∈waiting, looks t=true) (k : ℕ) :
    ready looks (waiting.drop k)=ready looks waiting+min k waiting.length := by
  induction waiting generalizing k with
  | nil => rw [List.drop_nil,List.length_nil,Nat.min_zero]; rfl
  | cons first waiting ih =>
    cases k with
    | zero => rw [List.drop_zero,Nat.zero_min]; rfl
    | succ k =>
      have hrest := ih hnodup.of_cons (fun t ht => hlooks t (List.mem_cons_of_mem _ ht)) k
      have htail := ready_tail hnodup (hlooks first List.mem_cons_self)
      rw [List.drop_succ_cons,hrest,htail,List.length_cons]
      omega

/-- Waking a task wherever it waits. -/
theorem ready_erase {looks : τ → Bool} {waiting : List τ} (hnodup : waiting.Nodup) {t : τ}
    (ht : t∈waiting) (hlooks : looks t=true) :
    ready looks (waiting.erase t)=ready looks waiting+1 := by
  have hchange := @ready_change τ _ _ looks looks waiting (waiting.erase t) t (by
    intro x hx
    rw [hnodup.mem_erase_iff,not_and]
    exact and_congr_right fun _ => ⟨fun h _ => h,fun h => h hx⟩)
  rw [one,one,if_pos ⟨hlooks,hnodup.not_mem_erase⟩,if_neg (fun h => h.2 ht)] at hchange
  exact hchange.symm

end Counting

section Levels

/-- While tasks wait, the units are matched by tasks that look and by the count of the lock, or
this count is enough to wake all. -/
def Matched (tasks amount waiting ready : ℕ) (lock : ℤ) : Prop :=
  waiting≠0 → amount≤ready+lock.toNat ∨ (tasks : ℤ)≤lock

/-- The units that have come since the list was locked are counted. -/
def Covered (tasks amount : ℕ) (lock : ℤ) : Prop := amount≤lock.toNat ∨ (tasks : ℤ)≤lock

variable {tasks amount waiting ready : ℕ} {lock : ℤ}

/-- Where there is nothing, nobody need look. -/
theorem matched_zero : Matched tasks 0 waiting ready lock := fun _ => Or.inl (Nat.zero_le _)

/-- Fewer units and more tasks that look. -/
theorem Matched.calm (h : Matched tasks amount waiting ready lock) {amount' ready' : ℕ}
    (hamount : amount'≤amount) (hready : ready≤ready') :
    Matched tasks amount' waiting ready' lock := by
  intro hne
  have hmatched := h hne
  omega

/-- A task that looked has taken a unit. -/
theorem Matched.take (h : Matched tasks amount waiting ready lock) {amount' ready' : ℕ}
    (hamount : amount'≤amount-1) (hready : ready≤ready'+1) :
    Matched tasks amount' waiting ready' lock := by
  intro hne
  have hmatched := h hne
  omega

/-- A unit has come and woken a task, if one waited. -/
theorem Matched.wake (h : Matched tasks amount waiting ready lock) {amount' waiting' ready' : ℕ}
    (hamount : amount'≤amount+1) (hwaiting : waiting=0 → waiting'=0)
    (hready : waiting≠0 → ready'=ready+1) : Matched tasks amount' waiting' ready' lock := by
  intro hne
  have hsome : waiting≠0 := fun hzero => hne (hwaiting hzero)
  have hmatched := h hsome
  have hwoken := hready hsome
  omega

/-- A unit has come and been counted. -/
theorem Matched.count (h : Matched tasks amount waiting ready lock) {amount' : ℕ}
    (hlock : 0≤lock) (hamount : amount'≤amount+1) :
    Matched tasks amount' waiting ready (if lock<tasks then lock+1 else lock) := by
  intro hne
  have hmatched := h hne
  split <;> omega

/-- A counted unit is covered. -/
theorem Covered.count (h : Covered tasks amount lock) {amount' : ℕ} (hlock : 0≤lock)
    (hamount : amount'≤amount+1) : Covered tasks amount' (if lock<tasks then lock+1 else lock) := by
  unfold Covered at *
  split <;> omega

/-- A task that waits while all units are covered. -/
theorem Covered.matched (h : Covered tasks amount lock) :
    Matched tasks amount waiting ready lock := by
  intro _
  unfold Covered at h
  omega

/-- The lock is released and wakes as many tasks as it has counted. -/
theorem Matched.release (h : Matched tasks amount waiting ready lock) (hfew : waiting≤tasks)
    {free : ℤ} : Matched tasks amount (waiting-lock.toNat) (ready+min lock.toNat waiting) free := by
  intro hne
  have hmatched := h (by omega)
  omega

end Levels

end WebDataLogger.CountedWakeups
