import Mathlib.Algebra.GroupWithZero.Nat
import Mathlib.Data.Fin.Basic
import Mathlib.Logic.Function.Basic

/-!
# Flat arrays, overlays and paged arrays

A flat array is a function from addresses to cells. An overlay replaces one
block of it. A paged array stores the same cells page by page, and a burst that
passes the end of its page goes on at the start of the same page. A burst that
fits into its page is an overlay of the flat view.
-/

namespace WebDataLogger.FlatStore

variable {β : Type*}

/-- The block of `count` cells from `start` on replaced by `data`. -/
def overlay (base : ℕ → β) (start count : ℕ) (data : ℕ → β) : ℕ → β :=
  fun a => if start≤a ∧ a<start+count then data (a-start) else base a

/-- Cells of the block are replaced. -/
theorem overlay_inside {base : ℕ → β} {start count a : ℕ} {data : ℕ → β}
    (hlow : start≤a) (hhigh : a<start+count) : overlay base start count data a=data (a-start) :=
  if_pos ⟨hlow,hhigh⟩

/-- Cells outside the block are kept. -/
theorem overlay_outside {base : ℕ → β} {start count a : ℕ} {data : ℕ → β}
    (h : a<start ∨ start+count≤a) : overlay base start count data a=base a :=
  if_neg (by omega)

/-- An empty block replaces nothing. -/
@[simp] theorem overlay_zero (base : ℕ → β) (start : ℕ) (data : ℕ → β) :
    overlay base start 0 data=base := by
  funext a
  exact overlay_outside (by omega)

/-- Two adjacent blocks of the same data are one block. -/
theorem overlay_append (base : ℕ → β) (start first second : ℕ) (data : ℕ → β) :
    overlay (overlay base start first data) (start+first) second (fun i => data (first+i))=
      overlay base start (first+second) data := by
  funext a
  rcases Nat.lt_or_ge a (start+first) with hlt|hge
  · rw [overlay_outside (Or.inl hlt)]
    rcases Nat.lt_or_ge a start with hlow|hlow
    · rw [overlay_outside (Or.inl hlow),overlay_outside (Or.inl hlow)]
    · rw [overlay_inside hlow hlt,overlay_inside hlow (by omega)]
  · rcases Nat.lt_or_ge a (start+first+second) with hhigh|hhigh
    · rw [overlay_inside hge hhigh,overlay_inside (by omega) (by omega)]
      congr 1
      omega
    · rw [overlay_outside (Or.inr hhigh),overlay_outside (Or.inr hge),
        overlay_outside (Or.inr (by omega))]

/-- Equal cells below a bound. -/
def AgreeBelow (bound : ℕ) (first second : ℕ → β) : Prop := ∀ a, a<bound → first a=second a

/-- Every array agrees with itself. -/
theorem AgreeBelow.refl (bound : ℕ) (base : ℕ → β) : AgreeBelow bound base base := fun _ _ => rfl

/-- Agreement is symmetric. -/
theorem AgreeBelow.symm {bound : ℕ} {first second : ℕ → β} (h : AgreeBelow bound first second) :
    AgreeBelow bound second first := fun a ha => (h a ha).symm

/-- Agreement is transitive. -/
theorem AgreeBelow.trans {bound : ℕ} {first second third : ℕ → β}
    (h : AgreeBelow bound first second) (h' : AgreeBelow bound second third) :
    AgreeBelow bound first third := fun a ha => (h a ha).trans (h' a ha)

/-- Overlays of agreeing arrays agree. -/
theorem AgreeBelow.overlay {bound : ℕ} {first second : ℕ → β} (h : AgreeBelow bound first second)
    (start count : ℕ) (data : ℕ → β) :
    AgreeBelow bound (overlay first start count data) (overlay second start count data) := by
  intro a ha
  unfold FlatStore.overlay
  rw [h a ha]

/-- The cells from `start` on hold the first `count` cells of `data`. -/
def HoldsAt (base : ℕ → β) (start count : ℕ) (data : ℕ → β) : Prop :=
  ∀ j, j<count → base (start+j)=data j

/-- An overlaid block holds its data. -/
theorem holdsAt_overlay (base : ℕ → β) (start count : ℕ) (data : ℕ → β) :
    HoldsAt (overlay base start count data) start count data := by
  intro j hj
  rw [overlay_inside (by omega) (by omega),Nat.add_sub_cancel_left]

/-- A block disjoint from an overlay keeps what it holds. -/
theorem HoldsAt.overlay_disjoint {base : ℕ → β} {start count start' count' : ℕ} {data data' : ℕ → β}
    (h : HoldsAt base start count data) (hd : start+count ≤ start' ∨ start'+count' ≤ start) :
    HoldsAt (overlay base start' count' data') start count data := by
  intro j hj
  rw [overlay_outside (by omega)]
  exact h j hj

/-- Agreeing arrays hold the same blocks below the bound. -/
theorem HoldsAt.congr {bound start count : ℕ} {first second data : ℕ → β}
    (h : HoldsAt first start count data) (hs : AgreeBelow bound first second)
    (hb : start+count≤bound) : HoldsAt second start count data := by
  intro j hj
  rw [←hs (start+j) (by omega)]
  exact h j hj

/-- Cells stored page by page. -/
abbrev Paged (pages size : ℕ) (β : Type*) := Fin pages → Fin size → β

section Paged

variable {pages size : ℕ} [NeZero pages] [NeZero size]

/-- Cell at a flat address. Addresses past the last page start again at page 0. -/
def flat (cells : Paged pages size β) (a : ℕ) : β :=
  cells (Fin.ofNat pages (a/size)) (Fin.ofNat size a)

/-- Replace one cell. -/
def setCell (cells : Paged pages size β) (page : Fin pages) (offset : Fin size) (b : β) :
    Paged pages size β :=
  Function.update cells page (Function.update (cells page) offset b)

/-- A burst of `count` cells addressed at `address`. The page is latched from the
address; only the offset in the page advances, and it rolls over. -/
def burst (cells : Paged pages size β) (address : ℕ) (data : ℕ → β) : ℕ → Paged pages size β
  | 0 => cells
  | count+1 => setCell (burst cells address data count) (Fin.ofNat pages (address/size))
      (Fin.ofNat size (address+count)) (data count)

/-- Every cell is seen in the flat view. -/
theorem eq_of_agreeBelow {first second : Paged pages size β}
    (h : AgreeBelow (pages*size) (flat first) (flat second)) : first=second := by
  have hsize : 0<size := Nat.pos_of_ne_zero (NeZero.ne size)
  have hcell : ∀ (cells : Paged pages size β) (page : Fin pages) (offset : Fin size),
      flat cells (size*page.val+offset.val)=cells page offset := by
    intro cells page offset
    have hpage : Fin.ofNat pages ((size*page.val+offset.val)/size)=page := by
      apply Fin.ext
      rw [Fin.val_ofNat,Nat.mul_add_div hsize,Nat.div_eq_of_lt offset.isLt,Nat.add_zero,
        Nat.mod_eq_of_lt page.isLt]
    have hoffset : Fin.ofNat size (size*page.val+offset.val)=offset := by
      apply Fin.ext
      rw [Fin.val_ofNat,Nat.mul_add_mod,Nat.mod_eq_of_lt offset.isLt]
    rw [flat,hpage,hoffset]
  funext page offset
  have hlt : size*page.val+offset.val<pages*size := by
    have hrow := Nat.mul_le_mul_left size (Nat.succ_le_of_lt page.isLt)
    have hcol := offset.isLt
    rw [Nat.mul_succ,Nat.mul_comm size pages] at hrow
    omega
  rw [←hcell first page offset,←hcell second page offset]
  exact h _ hlt

/-- Replacing the cell at an address changes the flat view there only. -/
theorem flat_setCell (cells : Paged pages size β) {address a : ℕ} (b : β)
    (haddress : address<pages*size) (ha : a<pages*size) :
    flat (setCell cells (Fin.ofNat pages (address/size)) (Fin.ofNat size address) b) a=
      if a=address then b else flat cells a := by
  have hsize : 0<size := Nat.pos_of_ne_zero (NeZero.ne size)
  have hpage : ∀ x, x<pages*size → x/size<pages := fun x hx =>
    (Nat.div_lt_iff_lt_mul hsize).mpr hx
  unfold flat setCell
  by_cases heq : a=address
  · rw [if_pos heq,heq,Function.update_self,Function.update_self]
  · rw [if_neg heq]
    by_cases hp : a/size=address/size
    · have hoffset : a%size≠address%size := by
        intro hm
        apply heq
        rw [←Nat.div_add_mod a size,←Nat.div_add_mod address size,hp,hm]
      rw [hp,Function.update_self,Function.update_of_ne]
      exact fun h => hoffset (Fin.val_eq_of_eq h)
    · rw [Function.update_of_ne]
      intro h
      have hv := Fin.val_eq_of_eq h
      rw [Fin.val_ofNat,Fin.val_ofNat,Nat.mod_eq_of_lt (hpage a ha),
        Nat.mod_eq_of_lt (hpage address haddress)] at hv
      exact hp hv

/-- A burst that stays in its page is an overlay of the flat view. -/
theorem flat_burst (cells : Paged pages size β) {address count : ℕ} (data : ℕ → β)
    (hpage : address%size+count ≤ size) (hend : address+count≤pages*size) :
    AgreeBelow (pages*size) (flat (burst cells address data count))
      (overlay (flat cells) address count data) := by
  induction count with
  | zero =>
    intro a _
    rw [overlay_zero]
    rfl
  | succ count ih =>
    intro a ha
    -- The next cell lies in the page of the address, since the burst has room there.
    have hsame : (address+count)/size=address/size := by
      rw [Nat.div_eq_iff (by omega)]
      have hdiv := Nat.div_add_mod address size
      rw [Nat.mul_comm] at hdiv
      omega
    rw [burst,←hsame,flat_setCell _ _ (by omega) ha,ih (by omega) (by omega) a ha]
    by_cases heq : a=address+count
    · rw [if_pos heq,overlay_inside (by omega) (by omega),heq,Nat.add_sub_cancel_left]
    · rw [if_neg heq]
      unfold overlay
      by_cases hin : address≤a ∧ a<address+count
      · rw [if_pos hin,if_pos (by omega)]
      · rw [if_neg hin,if_neg (by omega)]

end Paged

end WebDataLogger.FlatStore
