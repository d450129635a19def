import WebDataLogger.HeapFour

/-!
# The heap as segments

The free list and the headers of the blocks in use are the segments of `ucHeap`, and the
counters tell the truth about them. Each function of the heap keeps this: `pvPortMalloc`
takes a free segment or a part of it, and `vPortFree` makes a live one free and merges it.
-/

namespace WebDataLogger.HeapFour

open SegmentedSpace TransitionRuns

/-- The adjusted size as a number. -/
theorem adjustedSize_toNat (xWantedSize : UInt32) : (adjustedSize xWantedSize).toNat=
    if xWantedSize.toNat=0 then 0
    else if (xWantedSize.toNat+15)/8*8<2^32 then (xWantedSize.toNat+15)/8*8 else 0 := by
  have hlt := xWantedSize.toNat_lt
  unfold adjustedSize
  by_cases hpositive : 0<xWantedSize
  · have hnat : 0<xWantedSize.toNat := UInt32.lt_iff_toNat_lt.mp hpositive
    rw [if_pos hpositive,if_neg (show ¬xWantedSize.toNat=0 by omega)]
    by_cases hlarge : 0xFFFFFFFF-8<xWantedSize
    · have hnat : 4294967287<xWantedSize.toNat := UInt32.lt_iff_toNat_lt.mp hlarge
      rw [if_pos hlarge,if_neg (show ¬(xWantedSize.toNat+15)/8*8<2^32 by omega)]
      rfl
    · have hnat : ¬4294967287<xWantedSize.toNat := fun h => hlarge (UInt32.lt_iff_toNat_lt.mpr h)
      have hsum : (xWantedSize+8).toNat=xWantedSize.toNat+8 := by
        rw [UInt32.toNat_add]
        change (xWantedSize.toNat+8)%2^32=_
        omega
      have hrest : ((xWantedSize+8)&&&7).toNat=(xWantedSize.toNat+8)%8 := by
        rw [UInt32.toNat_and,hsum]
        exact Nat.and_two_pow_sub_one_eq_mod _ 3
      rw [if_neg hlarge]
      dsimp only
      by_cases haligned : (xWantedSize+8)&&&7=0
      · rw [haligned] at hrest
        change 0=_ at hrest
        rw [if_neg (not_not_intro haligned),
          if_pos (show (xWantedSize.toNat+15)/8*8<2^32 by omega),hsum]
        omega
      · have hne : (xWantedSize.toNat+8)%8≠0 := by
          intro hcon
          rw [hcon] at hrest
          exact haligned (UInt32.toNat_inj.mp hrest)
        have hmore : (8-((xWantedSize+8)&&&7)).toNat=8-(xWantedSize.toNat+8)%8 := by
          rw [UInt32.toNat_sub_of_le _ _ (by rw [UInt32.le_iff_toNat_le,hrest]; change _≤8; omega),
            hrest]
          rfl
        have hroom : (0xFFFFFFFF-(8-((xWantedSize+8)&&&7))).toNat=
            4294967295-(8-(xWantedSize.toNat+8)%8) := by
          rw [UInt32.toNat_sub_of_le _ _
            (by rw [UInt32.le_iff_toNat_le,hmore]; change _≤4294967295; omega),hmore]
          rfl
        rw [if_pos haligned]
        by_cases hover : 0xFFFFFFFF-(8-((xWantedSize+8)&&&7))<xWantedSize+8
        · have hnat := UInt32.lt_iff_toNat_lt.mp hover
          rw [hroom,hsum] at hnat
          rw [if_pos hover,if_neg (show ¬(xWantedSize.toNat+15)/8*8<2^32 by omega)]
          rfl
        · have hnat : ¬_<_ := fun h => hover (UInt32.lt_iff_toNat_lt.mpr h)
          rw [hroom,hsum] at hnat
          rw [if_neg hover,if_pos (show (xWantedSize.toNat+15)/8*8<2^32 by omega),
            UInt32.toNat_add,hsum,hmore]
          omega
  · have hnat : ¬0<xWantedSize.toNat := fun h => hpositive (UInt32.lt_iff_toNat_lt.mpr h)
    rw [if_neg hpositive,if_pos (show xWantedSize.toNat=0 by omega)]
    omega

/-- No block of the list is large enough. -/
theorem takeBlock_eq_none {xWantedSize : ℕ} {free : List Block} :
    takeBlock xWantedSize free=none ↔ ∀ block∈free, block.size<xWantedSize := by
  induction free with
  | nil => exact ⟨fun _ block hblock => absurd hblock List.not_mem_nil,fun _ => rfl⟩
  | cons block free ih =>
    rw [takeBlock,List.forall_mem_cons]
    by_cases hsmall : block.size<xWantedSize
    · rw [if_pos hsmall,Option.map_eq_none_iff,ih]
      exact ⟨fun h => ⟨hsmall,h⟩,fun h => h.2⟩
    · rw [if_neg hsmall]
      refine ⟨fun h => ?_,fun h => absurd h.1 hsmall⟩
      split at h <;> cases h

/-- The segments after a free one was taken, in part or as a whole. -/
def taken (before : List Segment) (size : ℕ) (after : List Segment) (xWantedSize : ℕ) :
    List Segment :=
  if heapMinimumBlockSize<size-xWantedSize then
    before++⟨xWantedSize,true⟩::⟨size-xWantedSize,false⟩::after
  else before++⟨size,true⟩::after

/-- What is taken of a free segment. -/
def takenSize (size xWantedSize : ℕ) : ℕ :=
  if heapMinimumBlockSize<size-xWantedSize then xWantedSize else size

/-- The search takes the first free segment that is large enough. -/
theorem takeBlock_eq_some {xWantedSize base : ℕ} {segments : List Segment} {block : Block}
    {free : List Block} (h : takeBlock xWantedSize (blocks false base segments)=some (block,free)) :
    ∃ before size after, segments=before++⟨size,false⟩::after ∧ xWantedSize ≤ size ∧
      (∀ b∈blocks false base before, b.size<xWantedSize) ∧
      block=⟨base+span before,takenSize size xWantedSize⟩ ∧
      free=blocks false base (taken before size after xWantedSize) := by
  induction segments generalizing base free with
  | nil => cases h
  | cons segment segments ih =>
    obtain ⟨size,live⟩ := segment
    cases live with
    | true =>
      rw [blocks_free_live] at h
      obtain ⟨before,size',after,rfl,hle,hbefore,hblock,hfree⟩ := ih h
      refine ⟨⟨size,true⟩::before,size',after,rfl,hle,?_,?_,?_⟩
      · rw [blocks_free_live]
        exact hbefore
      · rw [hblock,span_cons,Nat.add_assoc]
      · rw [hfree]
        unfold taken
        split <;> rfl
    | false =>
      rw [blocks_free,takeBlock] at h
      dsimp only at h
      by_cases hsmall : size<xWantedSize
      · rw [if_pos hsmall] at h
        obtain ⟨⟨block',free'⟩,htake,heq⟩ := Option.map_eq_some_iff.mp h
        obtain ⟨rfl,rfl⟩ := Prod.mk.inj heq
        obtain ⟨before,size',after,rfl,hle,hbefore,hblock,hfree⟩ := ih htake
        refine ⟨⟨size,false⟩::before,size',after,rfl,hle,?_,?_,?_⟩
        · rw [blocks_free]
          exact List.forall_mem_cons.mpr ⟨hsmall,hbefore⟩
        · rw [hblock,span_cons,Nat.add_assoc]
        · rw [hfree]
          unfold taken
          split <;> rfl
      · rw [if_neg hsmall] at h
        refine ⟨[],size,segments,rfl,by omega,fun b hb => absurd hb List.not_mem_nil,?_⟩
        unfold taken takenSize
        split at h
        next hsplit =>
          obtain ⟨rfl,rfl⟩ := Prod.mk.inj (Option.some.inj h)
          rw [if_pos hsplit,if_pos hsplit]
          refine ⟨rfl,?_⟩
          rw [List.nil_append,blocks_free_live,blocks_free,show base+xWantedSize+(size-xWantedSize)=base+size by omega]
        next hwhole =>
          obtain ⟨rfl,rfl⟩ := Prod.mk.inj (Option.some.inj h)
          rw [if_neg hwhole,if_neg hwhole]
          exact ⟨rfl,rfl⟩

/-- A block before all others. -/
theorem insert_before {block : Block} {free : List Block} (h : ∀ b∈free, block.address≤b.address) :
    prvInsertBlockIntoFreeList block free=mergeAfter block free := by
  cases free with
  | nil => rfl
  | cons first free =>
    have hfirst : ¬first.address<block.address := Nat.not_lt_of_ge (h first List.mem_cons_self)
    cases free with
    | nil => rw [prvInsertBlockIntoFreeList,if_neg hfirst]
    | cons next after => rw [prvInsertBlockIntoFreeList,if_neg hfirst]

/-- A block that comes after `pxIterator` and before the rest. -/
theorem insert_after {block pxIterator : Block} {front after : List Block}
    (hfront : ∀ b∈front, b.address<block.address) (hit : pxIterator.address<block.address)
    (hafter : ∀ b∈after, block.address≤b.address) :
    prvInsertBlockIntoFreeList block (front++pxIterator::after)=
      front++mergeBefore pxIterator block after := by
  induction front with
  | nil =>
    rw [List.nil_append,List.nil_append]
    cases after with
    | nil => rw [prvInsertBlockIntoFreeList,if_pos hit]
    | cons next after =>
      rw [prvInsertBlockIntoFreeList,if_pos hit,
        if_neg (Nat.not_lt_of_ge (hafter next List.mem_cons_self))]
  | cons first front ih =>
    have hrest := ih fun b hb => hfront b (List.mem_cons_of_mem first hb)
    have hfirst := hfront first List.mem_cons_self
    cases front with
    | nil =>
      rw [List.cons_append,List.nil_append,prvInsertBlockIntoFreeList,if_pos hfirst,if_pos hit]
      exact congrArg (first::·) hrest
    | cons second front =>
      rw [List.cons_append,List.cons_append,prvInsertBlockIntoFreeList,if_pos hfirst,
        if_pos (hfront second (List.mem_cons_of_mem first List.mem_cons_self))]
      exact congrArg (first::·) hrest

/-- Merging a block with the one after it merges its segment with the next one. -/
theorem mergeAfter_blocks {address size : ℕ} {after : List Segment} (h : Arranged after) :
    mergeAfter ⟨address,size⟩ (blocks false (address+size) after)=
      blocks false address (joinNext size after) := by
  cases after with
  | nil => rfl
  | cons next after =>
    obtain ⟨next,live⟩ := next
    cases live with
    | false =>
      have hmerge : mergeAfter ⟨address,size⟩
          (⟨address+size,next⟩::blocks false (address+size+next) after)=
            ⟨address,size+next⟩::blocks false (address+size+next) after := if_pos rfl
      rw [joinNext,blocks_free,blocks_free,hmerge,Nat.add_assoc]
    | true =>
      have hsize := h.positive ⟨next,true⟩ List.mem_cons_self
      change mergeAfter _ (blocks false (address+size+next) after)=
        ⟨address,size⟩::blocks false (address+size+next) after
      cases hrest : blocks false (address+size+next) after with
      | nil => rfl
      | cons block rest =>
        have hlow := (blocks_bounds (hrest▸List.mem_cons_self : block∈blocks false _ after)).1
        rw [mergeAfter,if_neg]
        intro hstop
        change address+size=block.address at hstop
        dsimp only at hsize
        omega

/-- Putting a block back makes its segment free. -/
theorem insert_released {base size : ℕ} {before after : List Segment}
    (h : Arranged (before++⟨size,true⟩::after)) :
    prvInsertBlockIntoFreeList ⟨base+span before,size⟩
        (blocks false base before++blocks false (base+span before+size) after)=
      blocks false base (released before size after) := by
  obtain ⟨hbefore,hrest,-⟩ := h.parts
  obtain ⟨-,hafter,-⟩ := @Arranged.parts [⟨size,true⟩] after hrest
  have hhigh : ∀ b∈blocks false (base+span before+size) after, base+span before≤b.address :=
    fun b hb => (Nat.le_add_right _ _).trans (blocks_bounds hb).1
  have hlow : ∀ b∈blocks false base before, b.address<base+span before := by
    intro b hb
    obtain ⟨front,rest,rfl,haddress⟩ := mem_blocks hb
    have hpositive := hbefore.positive ⟨b.size,false⟩ (List.mem_append_right _ List.mem_cons_self)
    rw [haddress,span_append,span_cons]
    dsimp only at hpositive ⊢
    omega
  rcases released_cases before size after with ⟨front,previous,rfl,hreleased⟩|⟨hlast,hreleased⟩
  · -- The block before is free and ends where this one starts.
    have hprevious : blocks false base (front++[⟨previous,false⟩])=
        blocks false base front++[⟨base+span front,previous⟩] := blocks_append _ _ _ _
    have hspan : base+span (front++[⟨previous,false⟩])=base+span front+previous := by
      rw [span_append,span_cons,span_nil,Nat.add_zero,Nat.add_assoc]
    rw [hprevious] at hlow ⊢
    rw [List.append_assoc,List.singleton_append,insert_after
      (fun b hb => hlow b (List.mem_append_left _ hb))
      (hlow _ (List.mem_append_right _ List.mem_cons_self)) hhigh,hreleased,blocks_append]
    have hmerge : mergeBefore ⟨base+span front,previous⟩ ⟨base+span front+previous,size⟩
        (blocks false (base+span front+previous+size) after)=
          mergeAfter ⟨base+span front,previous+size⟩
            (blocks false (base+span front+previous+size) after) := if_pos rfl
    rw [hspan,hmerge,Nat.add_assoc (base+span front)]
    exact congrArg _ (mergeAfter_blocks hafter)
  · rw [hreleased,blocks_append,←mergeAfter_blocks hafter]
    rcases List.eq_nil_or_concat (blocks false base before) with hnone|⟨front,pxIterator,hsome⟩
    · rw [hnone]
      exact insert_before hhigh
    · rw [List.concat_eq_append] at hsome
      rw [hsome] at hlow ⊢
      rw [List.append_assoc,List.singleton_append,insert_after
        (fun b hb => hlow b (List.mem_append_left _ hb))
        (hlow _ (List.mem_append_right _ List.mem_cons_self)) hhigh,mergeBefore,if_neg,
        List.append_assoc]
      · rfl
      · -- A live segment lies between the block before and this one.
        have hmem : pxIterator∈blocks false base before := by
          rw [hsome]
          exact List.mem_append_right _ List.mem_cons_self
        rcases List.eq_nil_or_concat before with rfl|⟨segments,⟨last,live⟩,rfl⟩
        · cases hmem
        · rw [List.concat_eq_append] at hmem hlast hbefore ⊢
          have hlive : live=true := hlast ⟨last,live⟩ List.getLast?_concat
          have hpositive := hbefore.positive ⟨last,live⟩ (List.mem_append_right _ List.mem_cons_self)
          rw [hlive,blocks_append] at hmem
          have hin : pxIterator∈blocks false base segments := by
            rcases List.mem_append.mp hmem with hin|hin
            · exact hin
            · cases hin
          have hbound := (blocks_bounds hin).2
          rw [span_append,span_cons,span_nil]
          dsimp only at hpositive ⊢
          omega

/-- A common divisor of the sizes survives a merge. -/
theorem released_dvd {d size : ℕ} {before after : List Segment} (hsize : d∣size)
    (hbefore : ∀ s∈before, d∣s.size) (hafter : ∀ s∈after, d∣s.size) :
    ∀ s∈released before size after, d∣s.size := by
  have hjoin : ∀ {n : ℕ}, d∣n → ∀ s∈joinNext n after, d∣s.size := by
    intro n hn s hs
    unfold joinNext at hs
    split at hs
    next next rest =>
      rcases List.mem_cons.mp hs with rfl|hs
      · exact Nat.dvd_add hn (hafter _ List.mem_cons_self)
      · exact hafter s (List.mem_cons_of_mem _ hs)
    · rcases List.mem_cons.mp hs with rfl|hs
      · exact hn
      · exact hafter s hs
  intro s hs
  rcases released_cases before size after with ⟨front,previous,rfl,hreleased⟩|⟨-,hreleased⟩
  · rw [hreleased] at hs
    rcases List.mem_append.mp hs with hs|hs
    · exact hbefore s (List.mem_append_left _ hs)
    · exact hjoin (Nat.dvd_add (hbefore _ (List.mem_append_right _ List.mem_cons_self)) hsize) s hs
  · rw [hreleased] at hs
    rcases List.mem_append.mp hs with hs|hs
    · exact hbefore s hs
    · exact hjoin hsize s hs

/-- `ucHeap` has room for a free block between aligned addresses. -/
theorem usableSize_bounds (ucHeap : ℕ) :
    0<usableSize ucHeap ∧ usableSize ucHeap≤configTotalHeapSize ∧ 8∣usableSize ucHeap ∧
      8∣uxStartAddress ucHeap ∧ ucHeap≤uxStartAddress ucHeap ∧
      uxStartAddress ucHeap+usableSize ucHeap+xHeapStructSize≤ucHeap+configTotalHeapSize := by
  unfold usableSize uxEndAddress uxStartAddress configTotalHeapSize xHeapStructSize
  dsimp only
  split <;> omega

/-- The heap is cut into segments: its free list and its headers are their blocks, and its
counter is what is not allocated. -/
structure Cut (ucHeap : ℕ) (heap : Heap) (segments : List Segment) : Prop where
  started : heap.started=true
  arranged : Arranged segments
  aligned : ∀ s∈segments, 8∣s.size
  span_eq : span segments=usableSize ucHeap
  free_eq : heap.free=blocks false (uxStartAddress ucHeap) segments
  allocated_perm : heap.allocated.Perm (blocks true (uxStartAddress ucHeap) segments)
  remaining : heap.xFreeBytesRemaining.toNat+total heap.allocated=usableSize ucHeap
  minimum : heap.xMinimumEverFreeBytesRemaining.toNat≤heap.xFreeBytesRemaining.toNat

/-- The order of blocks does not matter for their total. -/
theorem total_perm {first second : List Block} (h : first.Perm second) :
    total first=total second := (h.map Block.size).sum_eq

/-- The counter is the total of the free list. -/
theorem Cut.remaining_eq {ucHeap : ℕ} {heap : Heap} {segments : List Segment}
    (h : Cut ucHeap heap segments) : heap.xFreeBytesRemaining.toNat=total heap.free := by
  have hall := total_blocks (uxStartAddress ucHeap) segments
  have hlive := total_perm h.allocated_perm
  have hremaining := h.remaining
  have hspan := h.span_eq
  rw [h.free_eq]
  omega

/-- A block is not larger than the total. -/
theorem size_le_total {list : List Block} {block : Block} (h : block∈list) :
    block.size≤total list := by
  obtain ⟨before,after,rfl⟩ := List.append_of_mem h
  rw [total_append,total_cons]
  omega

/-- `prvHeapInit` makes one free segment. -/
theorem prvHeapInit_cut (ucHeap : ℕ) {heap : Heap} (h : heap.allocated=[]) :
    Cut ucHeap (prvHeapInit ucHeap heap) [⟨usableSize ucHeap,false⟩] := by
  obtain ⟨hpos,hle,hdvd,-⟩ := usableSize_bounds ucHeap
  have hmax : configTotalHeapSize<2^32 := by decide
  have hsize : (UInt32.ofNat (usableSize ucHeap)).toNat=usableSize ucHeap := by
    rw [UInt32.toNat_ofNat']
    omega
  refine ⟨rfl,⟨fun s hs => ?_,List.isChain_singleton _⟩,fun s hs => ?_,?_,rfl,?_,?_,?_⟩
  · rw [List.mem_singleton.mp hs]
    exact hpos
  · rw [List.mem_singleton.mp hs]
    exact hdvd
  · rw [span_cons,span_nil]
    rfl
  · change heap.allocated.Perm []
    rw [h]
  · change (UInt32.ofNat (usableSize ucHeap)).toNat+total heap.allocated=_
    rw [hsize,h]
    rfl
  · exact Nat.le_refl _

/-- The heap that the search of `pvPortMalloc` sees. -/
def ready (ucHeap : ℕ) (heap : Heap) : Heap :=
  if heap.started=true then heap else prvHeapInit ucHeap heap

/-- The heap between two calls. -/
inductive Sound (ucHeap : ℕ) (heap : Heap) : Prop where
  /-- No call has started it. -/
  | unused (started : heap.started=false) (free : heap.free=[]) (allocated : heap.allocated=[])
      (remaining : heap.xFreeBytesRemaining=0) (minimum : heap.xMinimumEverFreeBytesRemaining=0)
  | cut {segments : List Segment} (h : Cut ucHeap heap segments)

/-- A sound heap is ready. -/
theorem Sound.ready {ucHeap : ℕ} {heap : Heap} (h : Sound ucHeap heap) :
    ∃ segments, Cut ucHeap (ready ucHeap heap) segments := by
  unfold HeapFour.ready
  cases h with
  | unused started free allocated =>
    rw [if_neg (by rw [started]; decide)]
    exact ⟨_,prvHeapInit_cut ucHeap allocated⟩
  | cut h =>
    rw [if_pos h.started]
    exact ⟨_,h⟩

/-- Taking a segment moves no other block and covers the same addresses. -/
theorem taken_blocks (base : ℕ) (before : List Segment) {size xWantedSize : ℕ} (after : List Segment)
    (h : xWantedSize ≤ size) : blocks true base (taken before size after xWantedSize)=
        blocks true base before++⟨base+span before,takenSize size xWantedSize⟩::
          blocks true (base+span before+size) after ∧
      span (taken before size after xWantedSize)=span (before++⟨size,false⟩::after) := by
  unfold taken takenSize
  split
  next hsplit =>
    rw [blocks_append,blocks_live,blocks_live_free,Nat.add_assoc _ xWantedSize,Nat.add_sub_cancel' h]
    refine ⟨rfl,?_⟩
    rw [span_append,span_append,span_cons,span_cons,span_cons]
    dsimp only
    omega
  · rw [blocks_append,blocks_live]
    refine ⟨rfl,?_⟩
    rw [span_append,span_append,span_cons,span_cons]

/-- Taking a segment keeps the order good. -/
theorem taken_arranged {before after : List Segment} {size xWantedSize : ℕ}
    (h : Arranged (before++⟨size,false⟩::after)) (hpos : 0<xWantedSize) (hle : xWantedSize ≤ size) :
    Arranged (taken before size after xWantedSize) := by
  unfold taken
  split
  next hsplit =>
    rw [←Nat.add_sub_cancel' hle] at h
    exact h.split hpos (by omega)
  · exact h.take

/-- The heap once a block has been handed out. -/
def granted (heap : Heap) (block : Block) (free : List Block) : Heap :=
  let remaining := heap.xFreeBytesRemaining-UInt32.ofNat block.size
  {heap with
    free := free
    allocated := block::heap.allocated
    xFreeBytesRemaining := remaining
    xMinimumEverFreeBytesRemaining :=
      if remaining<heap.xMinimumEverFreeBytesRemaining then remaining
      else heap.xMinimumEverFreeBytesRemaining
    xNumberOfSuccessfulAllocations := heap.xNumberOfSuccessfulAllocations+1}

/-- Handing out a block lowers the minimum to what remains. -/
theorem granted_minimum (heap : Heap) (block : Block) (free : List Block) :
    (granted heap block free).xMinimumEverFreeBytesRemaining.toNat=
      min (granted heap block free).xFreeBytesRemaining.toNat
        heap.xMinimumEverFreeBytesRemaining.toNat := by
  unfold granted
  dsimp only
  split
  next hlt => exact (Nat.min_eq_left (UInt32.lt_iff_toNat_lt.mp hlt).le).symm
  next hnot =>
    exact (Nat.min_eq_right (Nat.le_of_not_lt fun hlt => hnot (UInt32.lt_iff_toNat_lt.mpr hlt))).symm

/-- The heap once a block has been given back. -/
def returned (heap : Heap) (block : Block) : Heap :=
  {heap with
    free := prvInsertBlockIntoFreeList block heap.free
    allocated := heap.allocated.erase block
    xFreeBytesRemaining := heap.xFreeBytesRemaining+UInt32.ofNat block.size
    xNumberOfSuccessfulFrees := heap.xNumberOfSuccessfulFrees+1}

/-- What is handed out of a segment covers the wanted size and lies in the segment. -/
theorem takenSize_bounds {size xWantedSize : ℕ} (h : xWantedSize ≤ size) :
    xWantedSize≤takenSize size xWantedSize ∧ takenSize size xWantedSize ≤ size := by
  unfold takenSize
  split <;> omega

/-- All segments stay aligned when a part of one is taken. -/
theorem taken_aligned {d : ℕ} {before after : List Segment} {size xWantedSize : ℕ}
    (h : ∀ s∈before++⟨size,false⟩::after, d∣s.size) (hwanted : d∣xWantedSize) :
    ∀ s∈taken before size after xWantedSize, d∣s.size := by
  have hsize := h _ (List.mem_append_right _ List.mem_cons_self)
  have hbefore := fun s hs => h s (List.mem_append_left _ hs)
  have hafter := fun s hs => h s (List.mem_append_right _ (List.mem_cons_of_mem _ hs))
  unfold taken
  split
  · refine List.forall_mem_append.mpr ⟨hbefore,List.forall_mem_cons.mpr ⟨hwanted,?_⟩⟩
    exact List.forall_mem_cons.mpr ⟨Nat.dvd_sub hsize hwanted,hafter⟩
  · exact List.forall_mem_append.mpr ⟨hbefore,List.forall_mem_cons.mpr ⟨hsize,hafter⟩⟩

/-- A free segment is not larger than what remains. -/
theorem Cut.size_le {ucHeap : ℕ} {heap : Heap} {before after : List Segment} {size : ℕ}
    (h : Cut ucHeap heap (before++⟨size,false⟩::after)) :
    size≤heap.xFreeBytesRemaining.toNat := by
  rw [h.remaining_eq,h.free_eq,blocks_append,blocks_free,total_append,total_cons]
  dsimp only
  omega

/-- The counter after a block of a free segment was handed out. -/
theorem Cut.granted_remaining {ucHeap : ℕ} {heap : Heap} {before after : List Segment} {size n : ℕ}
    (h : Cut ucHeap heap (before++⟨size,false⟩::after)) (hn : n ≤ size) :
    (heap.xFreeBytesRemaining-UInt32.ofNat n).toNat=heap.xFreeBytesRemaining.toNat-n := by
  have hsize := h.size_le
  have hlt := heap.xFreeBytesRemaining.toNat_lt
  have hnat : (UInt32.ofNat n).toNat=n := by
    rw [UInt32.toNat_ofNat']
    omega
  rw [UInt32.toNat_sub_of_le _ _ (by rw [UInt32.le_iff_toNat_le]; omega),hnat]

/-- Handing out a block of a free segment. -/
theorem Cut.grant {ucHeap : ℕ} {heap : Heap} {before after : List Segment} {size w : ℕ}
    (h : Cut ucHeap heap (before++⟨size,false⟩::after)) (hpos : 0<w) (hle : w ≤ size) (hdvd : 8∣w) :
    Cut ucHeap (granted heap ⟨uxStartAddress ucHeap+span before,takenSize size w⟩
      (blocks false (uxStartAddress ucHeap) (taken before size after w)))
      (taken before size after w) := by
  obtain ⟨htaken,hspan⟩ := taken_blocks (uxStartAddress ucHeap) before after hle
  obtain ⟨-,hfits⟩ := takenSize_bounds hle
  have hremaining := h.granted_remaining hfits
  have hsize := h.size_le
  have hsum := h.remaining
  refine ⟨h.started,taken_arranged h.arranged hpos hle,taken_aligned h.aligned hdvd,
    hspan.trans h.span_eq,rfl,?_,?_,?_⟩
  · have hperm := h.allocated_perm
    rw [blocks_append,blocks_live_free] at hperm
    rw [htaken]
    exact (hperm.cons _).trans List.perm_middle.symm
  · change (heap.xFreeBytesRemaining-UInt32.ofNat (takenSize size w)).toNat+
      (takenSize size w+total heap.allocated)=_
    rw [hremaining]
    omega
  · rw [granted_minimum]
    exact Nat.min_le_left _ _

/-- Giving back a block in use. -/
theorem Cut.giveBack {ucHeap : ℕ} {heap : Heap} {segments : List Segment} {block : Block}
    (h : Cut ucHeap heap segments) (hmem : block∈heap.allocated) :
    heap.xFreeBytesRemaining.toNat≤(returned heap block).xFreeBytesRemaining.toNat ∧
      ∃ segments', Cut ucHeap (returned heap block) segments' := by
  obtain ⟨before,after,rfl,haddress⟩ := mem_blocks (h.allocated_perm.mem_iff.mp hmem)
  obtain ⟨address,size⟩ := block
  dsimp only at haddress
  subst haddress
  have hlive := h.allocated_perm
  have hsum := h.remaining
  have herase := List.perm_cons_erase hmem
  have htotal := total_perm herase
  have hsize := size_le_total hmem
  have hmax : configTotalHeapSize<2^32 := by decide
  have husable := (usableSize_bounds ucHeap).2.1
  rw [total_cons] at htotal
  dsimp only at htotal hsize
  have hremaining : (heap.xFreeBytesRemaining+UInt32.ofNat size).toNat=
      heap.xFreeBytesRemaining.toNat+size := by
    rw [UInt32.toNat_add,UInt32.toNat_ofNat']
    omega
  obtain ⟨hmoved,hspan⟩ := released_blocks (uxStartAddress ucHeap) before size after
  refine ⟨?_,_,h.started,h.arranged.release,?_,?_,?_,?_,?_,?_⟩
  · change _≤(heap.xFreeBytesRemaining+UInt32.ofNat size).toNat
    omega
  · refine released_dvd (h.aligned ⟨size,true⟩ (List.mem_append_right _ List.mem_cons_self)) ?_ ?_
    · exact fun s hs => h.aligned s (List.mem_append_left _ hs)
    · exact fun s hs => h.aligned s (List.mem_append_right _ (List.mem_cons_of_mem _ hs))
  · have hall := h.span_eq
    rw [span_append,span_cons] at hall
    rw [hspan]
    dsimp only at hall
    omega
  · rw [←insert_released h.arranged]
    change prvInsertBlockIntoFreeList _ heap.free=_
    rw [h.free_eq,blocks_append,blocks_free_live]
  · rw [hmoved]
    rw [blocks_append,blocks_live] at hlive
    exact (herase.symm.trans (hlive.trans List.perm_middle)).cons_inv
  · change (heap.xFreeBytesRemaining+UInt32.ofNat size).toNat+total (heap.allocated.erase _)=_
    omega
  · have hminimum := h.minimum
    change heap.xMinimumEverFreeBytesRemaining.toNat≤
      (heap.xFreeBytesRemaining+UInt32.ofNat size).toNat
    omega

end WebDataLogger.HeapFour
