import Mathlib.Data.Int.ModEq
import Mathlib.Data.List.GetD

/-!
# A ring of slots in memory

A stretch of memory is cut into slots of one size, which are used in turn. Items lie in the
slots one after the other, from a first one on. An item copied into a slot that is not in
use leaves the others as they are.
-/

namespace WebDataLogger.SlotRing

/-- The bytes of a piece of memory. -/
def bytesAt (memory : ℤ → UInt8) (address : ℤ) (size : ℕ) : List UInt8 :=
  (List.range size).map fun i : ℕ => memory (address+i)

/-- Memory with bytes copied into it. -/
def memcpy (memory : ℤ → UInt8) (address : ℤ) (bytes : List UInt8) : ℤ → UInt8 := fun a =>
  if address≤a ∧ a<address+bytes.length then bytes.getD (a-address).toNat 0 else memory a

/-- Bytes are read back where they were copied. -/
theorem bytesAt_memcpy (memory : ℤ → UInt8) (address : ℤ) (bytes : List UInt8) :
    bytesAt (memcpy memory address bytes) address bytes.length=bytes := by
  refine List.ext_getElem ?_ fun i h h' => ?_
  · rw [bytesAt,List.length_map,List.length_range]
  · simp only [bytesAt,List.getElem_map,List.getElem_range]
    rw [memcpy,if_pos (by omega),show (address+(i : ℤ)-address).toNat=i by omega,
      List.getD_eq_getElem _ _ h']

/-- Bytes elsewhere stay as they are. -/
theorem bytesAt_memcpy_of_apart (memory : ℤ → UInt8) {address other : ℤ} {bytes : List UInt8}
    {size : ℕ} (h : other+size≤address ∨ address+bytes.length≤other) :
    bytesAt (memcpy memory address bytes) other size=bytesAt memory other size := by
  refine List.map_congr_left fun i hi => ?_
  have hlt := List.mem_range.mp hi
  rw [memcpy,if_neg (by omega)]

/-- The address of a slot. -/
def slot (base : ℤ) (size n k : ℕ) : ℤ := base+((k%n)*size : ℕ)

variable {base : ℤ} {size n : ℕ}

/-- The slots come round. -/
theorem slot_add_turn (k : ℕ) : slot base size n (k+n)=slot base size n k := by
  unfold slot
  rw [Nat.add_mod_right]

/-- Different slots share no byte. -/
theorem slot_apart {k j : ℕ} (h : k%n≠j%n) :
    slot base size n k+size ≤ slot base size n j ∨ slot base size n j+size ≤ slot base size n k := by
  unfold slot
  rcases Nat.lt_or_gt_of_ne h with hlt|hlt
  · have hle := Nat.mul_le_mul_right size hlt
    rw [Nat.succ_mul] at hle
    omega
  · have hle := Nat.mul_le_mul_right size hlt
    rw [Nat.succ_mul] at hle
    omega

/-- The place after a slot in its turn. -/
theorem succ_mod (hn : 0<n) (k : ℕ) : (k+1)%n=if k%n+1=n then 0 else k%n+1 := by
  have hlt := Nat.mod_lt k hn
  rw [Nat.add_mod]
  by_cases hone : n=1
  · subst hone
    rw [Nat.mod_one,Nat.mod_one]
    rfl
  · rw [Nat.mod_eq_of_lt (show 1<n by omega)]
    split
    next h => rw [h,Nat.mod_self]
    · exact Nat.mod_eq_of_lt (by omega)

/-- The end of the last slot is the end of all. -/
theorem slot_last {k : ℕ} (h : k%n+1=n) : slot base size n k+size=base+(n*size : ℕ) := by
  have heq : k%n*size+size=n*size := by
    rw [←Nat.succ_mul]
    exact congrArg (·*size) h
  unfold slot
  omega

/-- The end of another slot is the start of the next one. -/
theorem slot_inner {k : ℕ} (hn : 0<n) (h : k%n+1≠n) :
    slot base size n (k+1)=slot base size n k+size := by
  unfold slot
  rw [succ_mod hn,if_neg h,Nat.succ_mul]
  omega

/-- The slot after the last one is the first one. -/
theorem slot_first {k : ℕ} (hn : 0<n) (h : k%n+1=n) : slot base size n (k+1)=base := by
  unfold slot
  rw [succ_mod hn,if_pos h,Nat.zero_mul]
  exact add_zero base

/-- One slot on, and from the last one to the first. -/
theorem slot_next (hsize : 0<size) (hn : 0<n) (k : ℕ) :
    (if base+(n*size : ℕ) ≤ slot base size n k+size then base else slot base size n k+size)=
      slot base size n (k+1) := by
  by_cases hlast : k%n+1=n
  · rw [slot_last hlast,if_pos le_rfl,slot_first hn hlast]
  · have hlt := Nat.mod_lt k hn
    have hle := Nat.mul_le_mul_right size (show k%n+1+1≤n by omega)
    rw [Nat.succ_mul,Nat.succ_mul] at hle
    rw [slot_inner hn hlast,if_neg]
    unfold slot
    omega

/-- One slot back, and from the first one to the last. -/
theorem slot_previous (hsize : 0<size) (hn : 0<n) (k : ℕ) :
    (if slot base size n (k+1)-size<base then base+(n*size : ℕ)-size
      else slot base size n (k+1)-size)=slot base size n k := by
  by_cases hlast : k%n+1=n
  · rw [slot_first hn hlast,if_pos (by omega),←slot_last hlast]
    omega
  · rw [slot_inner hn hlast,add_sub_cancel_right,if_neg]
    unfold slot
    omega

/-- Items lie in the slots from a first one on. -/
def Laid (memory : ℤ → UInt8) (base : ℤ) (size n : ℕ) : ℕ → List (List UInt8) → Prop
  | _,[] => True
  | first,item::items =>
    bytesAt memory (slot base size n first) size=item ∧ Laid memory base size n (first+1) items

/-- Only the place in the turn counts. -/
theorem laid_add_turn {memory : ℤ → UInt8} {first : ℕ} {items : List (List UInt8)} :
    Laid memory base size n (first+n) items ↔ Laid memory base size n first items := by
  induction items generalizing first with
  | nil => exact Iff.rfl
  | cons item items ih =>
    have hrest := @ih (first+1)
    rw [Nat.add_right_comm] at hrest
    rw [Laid,Laid,slot_add_turn,hrest]

/-- One more item behind the others. -/
theorem Laid.snoc {memory : ℤ → UInt8} {first : ℕ} {items : List (List UInt8)} {item : List UInt8}
    (h : Laid memory base size n first items)
    (hitem : bytesAt memory (slot base size n (first+items.length)) size=item) :
    Laid memory base size n first (items++[item]) := by
  induction items generalizing first with
  | nil => exact ⟨hitem,trivial⟩
  | cons head items ih =>
    refine ⟨h.1,ih h.2 ?_⟩
    rw [Nat.add_right_comm,Nat.add_assoc]
    exact hitem

/-- Two places less than a turn apart are different. -/
theorem mod_ne_of_lt {first d : ℕ} (hpos : 0<d) (hlt : d<n) : first%n≠(first+d)%n := by
  intro h
  have hdvd : n∣first+d-first := (Nat.modEq_iff_dvd' (Nat.le_add_right first d)).mp h
  rw [Nat.add_sub_cancel_left] at hdvd
  exact absurd (Nat.le_of_dvd hpos hdvd) (Nat.not_le_of_lt hlt)

/-- A copy into a slot behind the items, less than a turn from the first, leaves them. -/
theorem Laid.memcpy {memory : ℤ → UInt8} {first d : ℕ} {items : List (List UInt8)}
    {bytes : List UInt8} (h : Laid memory base size n first items) (hbytes : bytes.length=size)
    (hbehind : items.length≤d) (hlt : d<n) :
    Laid (memcpy memory (slot base size n (first+d)) bytes) base size n first items := by
  induction items generalizing first d with
  | nil => trivial
  | cons item items ih =>
    rw [List.length_cons] at hbehind
    constructor
    · rw [bytesAt_memcpy_of_apart,h.1]
      rw [hbytes]
      exact slot_apart (mod_ne_of_lt (by omega) hlt)
    · have hrest := @ih (first+1) (d-1) h.2 (by omega) (by omega)
      rw [show first+1+(d-1)=first+d by omega] at hrest
      exact hrest

end WebDataLogger.SlotRing
