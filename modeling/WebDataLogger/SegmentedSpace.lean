import Mathlib.Data.List.Chain
import Mathlib.Algebra.BigOperators.Group.List.Basic
import Mathlib.Algebra.GroupWithZero.Nat

/-!
# A space cut into segments

A space of addresses is cut into consecutive segments, each of them live or not. The blocks
of one kind are listed with their addresses. They lie in the space in order and do not
overlap, and their sizes add up. A free segment that is merged with its free neighbours
keeps the segments free of adjacent free ones.
-/

namespace WebDataLogger.SegmentedSpace

/-- A piece of memory. -/
structure Block where
  address : ℕ
  size : ℕ
  deriving DecidableEq

/-- The end of a block. -/
def Block.stop (block : Block) : ℕ := block.address+block.size

/-- A piece of the space, which is in use or free. -/
structure Segment where
  size : ℕ
  live : Bool
  deriving DecidableEq

/-- Addresses covered by segments. -/
def span (segments : List Segment) : ℕ := (segments.map Segment.size).sum

/-- The blocks of one kind, from an address on. -/
def blocks (kind : Bool) : ℕ → List Segment → List Block
  | _,[] => []
  | base,segment::segments =>
    if segment.live=kind then ⟨base,segment.size⟩::blocks kind (base+segment.size) segments
    else blocks kind (base+segment.size) segments

@[simp] theorem span_nil : span []=0 := rfl

@[simp] theorem span_cons (segment : Segment) (segments : List Segment) :
    span (segment::segments)=segment.size+span segments := rfl

@[simp] theorem span_append (first second : List Segment) :
    span (first++second)=span first+span second := by
  rw [span,List.map_append,List.sum_append]
  rfl

/-- The first segment is of the kind. -/
theorem blocks_cons_eq {kind : Bool} {base : ℕ} {segment : Segment} {segments : List Segment}
    (h : segment.live=kind) : blocks kind base (segment::segments)=
      ⟨base,segment.size⟩::blocks kind (base+segment.size) segments := if_pos h

/-- The first segment is of the other kind. -/
theorem blocks_cons_ne {kind : Bool} {base : ℕ} {segment : Segment} {segments : List Segment}
    (h : segment.live≠kind) : blocks kind base (segment::segments)=
      blocks kind (base+segment.size) segments := if_neg h

/-- A free segment is a free block. -/
@[simp] theorem blocks_free (base size : ℕ) (segments : List Segment) :
    blocks false base (⟨size,false⟩::segments)=⟨base,size⟩::blocks false (base+size) segments := rfl

/-- A live segment is a live block. -/
@[simp] theorem blocks_live (base size : ℕ) (segments : List Segment) :
    blocks true base (⟨size,true⟩::segments)=⟨base,size⟩::blocks true (base+size) segments := rfl

/-- A live segment is no free block. -/
@[simp] theorem blocks_free_live (base size : ℕ) (segments : List Segment) :
    blocks false base (⟨size,true⟩::segments)=blocks false (base+size) segments := rfl

/-- A free segment is no live block. -/
@[simp] theorem blocks_live_free (base size : ℕ) (segments : List Segment) :
    blocks true base (⟨size,false⟩::segments)=blocks true (base+size) segments := rfl

/-- Blocks of two stretches of segments. -/
theorem blocks_append (kind : Bool) (base : ℕ) (first second : List Segment) :
    blocks kind base (first++second)=
      blocks kind base first++blocks kind (base+span first) second := by
  induction first generalizing base with
  | nil => rfl
  | cons segment first ih =>
    have hrest := ih (base+segment.size)
    rw [Nat.add_assoc] at hrest
    by_cases h : segment.live=kind
    · rw [List.cons_append,blocks_cons_eq h,blocks_cons_eq h,hrest]
      rfl
    · rw [List.cons_append,blocks_cons_ne h,blocks_cons_ne h,hrest]
      rfl

/-- A block is a segment at its place. -/
theorem mem_blocks {kind : Bool} {base : ℕ} {segments : List Segment} {block : Block}
    (h : block∈blocks kind base segments) : ∃ before after,
      segments=before++⟨block.size,kind⟩::after ∧ block.address=base+span before := by
  induction segments generalizing base with
  | nil => cases h
  | cons segment segments ih =>
    by_cases hkind : segment.live=kind
    · rw [blocks_cons_eq hkind] at h
      rcases List.mem_cons.mp h with rfl|h
      · refine ⟨[],segments,?_,rfl⟩
        rw [←hkind]
        rfl
      · obtain ⟨before,after,rfl,haddress⟩ := ih h
        exact ⟨segment::before,after,rfl,by rw [haddress,span_cons,Nat.add_assoc]⟩
    · rw [blocks_cons_ne hkind] at h
      obtain ⟨before,after,rfl,haddress⟩ := ih h
      exact ⟨segment::before,after,rfl,by rw [haddress,span_cons,Nat.add_assoc]⟩

/-- Blocks lie in the space. -/
theorem blocks_bounds {kind : Bool} {base : ℕ} {segments : List Segment} {block : Block}
    (h : block∈blocks kind base segments) :
    base≤block.address ∧ block.stop≤base+span segments := by
  obtain ⟨before,after,rfl,haddress⟩ := mem_blocks h
  rw [Block.stop,span_append,span_cons]
  dsimp only
  omega

/-- Blocks of one kind follow each other without overlap. -/
theorem blocks_pairwise (kind : Bool) (base : ℕ) (segments : List Segment) :
    (blocks kind base segments).Pairwise (fun a b => a.stop≤b.address) := by
  induction segments generalizing base with
  | nil => exact List.Pairwise.nil
  | cons segment segments ih =>
    by_cases hkind : segment.live=kind
    · rw [blocks_cons_eq hkind]
      exact List.Pairwise.cons (fun block hblock => (blocks_bounds hblock).1) (ih _)
    · rw [blocks_cons_ne hkind]
      exact ih _

/-- Two blocks share no address. -/
def Block.Disjoint (a b : Block) : Prop := a.stop≤b.address ∨ b.stop≤a.address

/-- Blocks of different kinds share no address. -/
theorem blocks_disjoint {base : ℕ} {segments : List Segment} {a b : Block}
    (ha : a∈blocks true base segments) (hb : b∈blocks false base segments) : a.Disjoint b := by
  induction segments generalizing base with
  | nil => cases ha
  | cons segment segments ih =>
    cases hkind : segment.live with
    | true =>
      rw [blocks_cons_ne (by rw [hkind]; decide)] at hb
      rw [blocks_cons_eq hkind] at ha
      rcases List.mem_cons.mp ha with rfl|ha
      · exact Or.inl (blocks_bounds hb).1
      · exact ih ha hb
    | false =>
      rw [blocks_cons_ne (by rw [hkind]; decide)] at ha
      rw [blocks_cons_eq hkind] at hb
      rcases List.mem_cons.mp hb with rfl|hb
      · exact Or.inr (blocks_bounds ha).1
      · exact ih ha hb

/-- Sum of the sizes of blocks. -/
def total (list : List Block) : ℕ := (list.map Block.size).sum

@[simp] theorem total_nil : total []=0 := rfl

@[simp] theorem total_cons (block : Block) (list : List Block) :
    total (block::list)=block.size+total list := rfl

@[simp] theorem total_append (first second : List Block) :
    total (first++second)=total first+total second := by
  rw [total,List.map_append,List.sum_append]
  rfl

/-- Live and free blocks cover the space. -/
theorem total_blocks (base : ℕ) (segments : List Segment) :
    total (blocks true base segments)+total (blocks false base segments)=span segments := by
  induction segments generalizing base with
  | nil => rfl
  | cons segment segments ih =>
    have hrest := ih (base+segment.size)
    cases hkind : segment.live with
    | true =>
      rw [blocks_cons_eq hkind,blocks_cons_ne (by rw [hkind]; decide),total_cons,span_cons]
      dsimp only
      omega
    | false =>
      rw [blocks_cons_ne (by rw [hkind]; decide),blocks_cons_eq hkind,total_cons,span_cons]
      dsimp only
      omega

/-- Two neighbours are not both free. -/
def Apart (a b : Segment) : Prop := a.live=true ∨ b.live=true

/-- Segments in good order: none is empty, and free ones are never neighbours. -/
structure Arranged (segments : List Segment) : Prop where
  positive : ∀ s∈segments, 0<s.size
  apart : segments.IsChain Apart

/-- Free blocks of arranged segments have something between them. -/
theorem Arranged.gaps {segments : List Segment} (h : Arranged segments) (base : ℕ) :
    (blocks false base segments).Pairwise (fun a b => a.stop<b.address) := by
  obtain ⟨hpositive,hapart⟩ := h
  induction segments generalizing base with
  | nil => exact List.Pairwise.nil
  | cons segment segments ih =>
    have hrest := fun base => ih base (fun s hs => hpositive s (List.mem_cons_of_mem _ hs)) hapart.tail
    cases hkind : segment.live with
    | true =>
      rw [blocks_cons_ne (by rw [hkind]; decide)]
      exact hrest _
    | false =>
      rw [blocks_cons_eq hkind]
      refine List.Pairwise.cons (fun block hblock => ?_) (hrest _)
      cases segments with
      | nil => cases hblock
      | cons next segments =>
        have hnext : next.live=true := by
          rcases (List.isChain_cons_cons.mp hapart).1 with h|h
          · rw [hkind] at h
            cases h
          · exact h
        have hsize := hpositive next (List.mem_cons_of_mem _ List.mem_cons_self)
        rw [blocks_cons_ne (by rw [hnext]; decide)] at hblock
        have hlow := (blocks_bounds hblock).1
        change base+segment.size<block.address
        omega

/-- With no live block there is a single free one. -/
theorem Arranged.single {segments : List Segment} (h : Arranged segments) {base : ℕ}
    (hnone : blocks true base segments=[]) (hspan : 0<span segments) :
    blocks false base segments=[⟨base,span segments⟩] := by
  obtain ⟨-,hapart⟩ := h
  cases segments with
  | nil => exact absurd hspan (Nat.lt_irrefl 0)
  | cons first segments =>
    cases hfirst : first.live with
    | true =>
      rw [blocks_cons_eq hfirst] at hnone
      cases hnone
    | false =>
      cases segments with
      | nil =>
        rw [blocks_cons_eq hfirst]
        rfl
      | cons second segments =>
        rcases (List.isChain_cons_cons.mp hapart).1 with h|h
        · rw [hfirst] at h
          cases h
        · rw [blocks_cons_ne (by rw [hfirst]; decide),blocks_cons_eq h] at hnone
          cases hnone

/-- Two stretches in good order, which are not both free where they meet. -/
theorem Arranged.append {first second : List Segment} (h : Arranged first) (h' : Arranged second)
    (hmeet : ∀ x∈first.getLast?, ∀ y∈second.head?, Apart x y) : Arranged (first++second) where
  positive s hs := (List.mem_append.mp hs).elim (h.positive s) (h'.positive s)
  apart := h.apart.append h'.apart hmeet

/-- The parts of arranged segments. -/
theorem Arranged.parts {first second : List Segment} (h : Arranged (first++second)) :
    Arranged first ∧ Arranged second ∧ ∀ x∈first.getLast?, ∀ y∈second.head?, Apart x y := by
  obtain ⟨hpositive,hapart⟩ := h
  obtain ⟨hfirst,hsecond,hmeet⟩ := List.isChain_append.mp hapart
  exact ⟨⟨fun s hs => hpositive s (List.mem_append_left _ hs),hfirst⟩,
    ⟨fun s hs => hpositive s (List.mem_append_right _ hs),hsecond⟩,hmeet⟩

/-- One more segment in front. -/
theorem Arranged.cons {segment : Segment} {segments : List Segment} (h : Arranged segments)
    (hpositive : 0<segment.size) (hmeet : ∀ y∈segments.head?, Apart segment y) :
    Arranged (segment::segments) where
  positive s hs := by
    rcases List.mem_cons.mp hs with rfl|hs
    · exact hpositive
    · exact h.positive s hs
  apart := h.apart.cons hmeet

/-- A free segment taken as a whole. -/
theorem Arranged.take {before after : List Segment} {size : ℕ}
    (h : Arranged (before++⟨size,false⟩::after)) : Arranged (before++⟨size,true⟩::after) := by
  obtain ⟨hbefore,hrest,-⟩ := h.parts
  obtain ⟨-,hafter,-⟩ := @Arranged.parts [⟨size,false⟩] after hrest
  refine hbefore.append (hafter.cons (hrest.positive ⟨size,false⟩ List.mem_cons_self) ?_) ?_
  · exact fun y _ => Or.inl rfl
  · intro x _ y hy
    cases hy
    exact Or.inr rfl

/-- A free segment of which the first part is taken. -/
theorem Arranged.split {before after : List Segment} {taken rest : ℕ}
    (h : Arranged (before++⟨taken+rest,false⟩::after)) (htaken : 0<taken) (hrest : 0<rest) :
    Arranged (before++⟨taken,true⟩::⟨rest,false⟩::after) := by
  obtain ⟨hbefore,hstart,-⟩ := h.parts
  obtain ⟨-,hafter,hmeet⟩ := @Arranged.parts [⟨taken+rest,false⟩] after hstart
  have hfree : Arranged (⟨rest,false⟩::after) := by
    refine hafter.cons hrest fun y hy => ?_
    rcases hmeet _ rfl y hy with hlive|hlive
    · cases hlive
    · exact Or.inr hlive
  refine hbefore.append (hfree.cons htaken fun y _ => Or.inl rfl) ?_
  intro x _ y hy
  cases hy
  exact Or.inr rfl

/-- A free segment in front, merged with the one after it if that is free. -/
def joinNext (size : ℕ) : List Segment → List Segment
  | ⟨next,false⟩::after => ⟨size+next,false⟩::after
  | after => ⟨size,false⟩::after

/-- A live segment made free and merged with its free neighbours. -/
def released (before : List Segment) (size : ℕ) (after : List Segment) : List Segment :=
  match before.getLast? with
  | some ⟨previous,false⟩ => before.dropLast++joinNext (previous+size) after
  | _ => before++joinNext size after

/-- Merging with the next segment moves no live block and covers the same addresses. -/
theorem joinNext_blocks (size base : ℕ) (after : List Segment) :
    blocks true base (joinNext size after)=blocks true (base+size) after ∧
      span (joinNext size after)=size+span after := by
  unfold joinNext
  split
  next next after =>
    refine ⟨?_,by rw [span_cons,span_cons,Nat.add_assoc]⟩
    rw [blocks_cons_ne Bool.false_ne_true,blocks_cons_ne Bool.false_ne_true,Nat.add_assoc]
  · exact ⟨blocks_cons_ne Bool.false_ne_true,rfl⟩

/-- Merging with the next segment keeps the order good. -/
theorem joinNext_arranged {before after : List Segment} {size : ℕ} (hbefore : Arranged before)
    (hafter : Arranged after) (hsize : 0<size) (hlast : ∀ x∈before.getLast?, x.live=true) :
    Arranged (before++joinNext size after) := by
  have hmeet : ∀ {free : Segment} {rest : List Segment},
      ∀ x∈before.getLast?, ∀ y∈(free::rest).head?, Apart x y :=
    fun x hx _ _ => Or.inl (hlast x hx)
  unfold joinNext
  split
  next next after =>
    obtain ⟨-,hrest,hnext⟩ := @Arranged.parts [⟨next,false⟩] after hafter
    refine hbefore.append (hrest.cons (Nat.add_pos_left hsize next) fun y hy => ?_) hmeet
    rcases hnext _ rfl y hy with hlive|hlive
    · cases hlive
    · exact Or.inr hlive
  next hother =>
    refine hbefore.append (hafter.cons hsize fun y hy => ?_) hmeet
    cases hlive : y.live with
    | true => exact Or.inr hlive
    | false =>
      obtain ⟨rest,hrest⟩ := List.head?_eq_some_iff.mp hy
      refine absurd hrest (hother y.size rest ∘ fun h => ?_)
      rw [h,←hlive]

/-- The shapes of what comes before a live segment that is made free. -/
theorem released_cases (before : List Segment) (size : ℕ) (after : List Segment) :
    (∃ front previous, before=front++[⟨previous,false⟩] ∧
        released before size after=front++joinNext (previous+size) after) ∨
      ((∀ x∈before.getLast?, x.live=true) ∧
        released before size after=before++joinNext size after) := by
  unfold released
  rcases List.eq_nil_or_concat before with rfl|⟨front,⟨previous,live⟩,rfl⟩
  · exact Or.inr ⟨fun x hx => absurd hx (Option.not_mem_none x),rfl⟩
  · rw [List.concat_eq_append,List.getLast?_concat]
    cases live with
    | false => exact Or.inl ⟨front,previous,rfl,by rw [List.dropLast_concat]⟩
    | true => exact Or.inr ⟨fun x hx => by cases hx; rfl,rfl⟩

/-- Making a segment free moves no other live block and covers the same addresses. -/
theorem released_blocks (base : ℕ) (before : List Segment) (size : ℕ) (after : List Segment) :
    blocks true base (released before size after)=
        blocks true base before++blocks true (base+span before+size) after ∧
      span (released before size after)=span before+size+span after := by
  rcases released_cases before size after with ⟨front,previous,rfl,hreleased⟩|⟨-,hreleased⟩
  · have hprevious : blocks true (base+span front) [⟨previous,false⟩]=[] :=
      blocks_cons_ne Bool.false_ne_true
    constructor
    · rw [hreleased,blocks_append,(joinNext_blocks _ _ _).1,blocks_append,hprevious,List.append_nil,
        span_append,span_cons,span_nil,Nat.add_zero,Nat.add_assoc,Nat.add_assoc,Nat.add_assoc]
    · rw [hreleased,span_append,(joinNext_blocks _ 0 _).2,span_append,span_cons,span_nil]
      dsimp only
      omega
  · rw [hreleased,blocks_append,(joinNext_blocks _ _ _).1,span_append,(joinNext_blocks _ 0 _).2]
    exact ⟨rfl,by omega⟩

/-- Making a segment free keeps the order good. -/
theorem Arranged.release {before after : List Segment} {size : ℕ}
    (h : Arranged (before++⟨size,true⟩::after)) : Arranged (released before size after) := by
  obtain ⟨hbefore,hrest,-⟩ := h.parts
  obtain ⟨-,hafter,-⟩ := @Arranged.parts [⟨size,true⟩] after hrest
  have hsize := hrest.positive ⟨size,true⟩ List.mem_cons_self
  rcases released_cases before size after with ⟨front,previous,rfl,hreleased⟩|⟨hlast,hreleased⟩
  · obtain ⟨hfront,hprevious,hmeet⟩ := hbefore.parts
    rw [hreleased]
    refine joinNext_arranged hfront hafter (Nat.add_pos_right previous hsize) fun x hx => ?_
    rcases hmeet x hx _ rfl with hlive|hlive
    · exact hlive
    · cases hlive
  · rw [hreleased]
    exact joinNext_arranged hbefore hafter hsize hlast

end WebDataLogger.SegmentedSpace
