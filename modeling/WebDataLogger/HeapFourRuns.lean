import WebDataLogger.HeapFourSegments
import Mathlib.Data.Nat.Bitwise
import Mathlib.Order.Bounds.Basic

/-!
# Runs of the heap

Calls of any tasks come in any order, since each runs with the scheduler suspended. In every
run in which callers give back only what they own, free blocks and blocks in use share no
byte, the free list is in order and merged, and nothing is lost. What one caller was given
stays apart from what others are given until it is given back.
-/

namespace WebDataLogger.HeapFour

open SegmentedSpace TransitionRuns

/-- Bytes that a caller asks for. -/
def HeapCall.requested : HeapCall → ℕ
  | .malloc xWantedSize => xWantedSize.toNat
  | .calloc xNum xSize => xNum.toNat*xSize.toNat
  | _ => 0

/-- What a call may do to a heap, and what it answers. -/
inductive Served (ucHeap : ℕ) (heap : Heap) (call : HeapCall) : Heap×List ℕ → Prop
  /-- A `NULL` that is given back, or a product of `pvPortCalloc` that overflows. -/
  | kept {answer : List ℕ} (h : ∀ pv∈answer, pv=0) : Served ucHeap heap call (heap,answer)
  /-- No memory, perhaps found out by the first call. -/
  | refused (h : call≠.resetMinimum) : Served ucHeap heap call (ready ucHeap heap,[0])
  | granted {before after : List Segment} {size w : ℕ}
      (cut : Cut ucHeap (ready ucHeap heap) (before++⟨size,false⟩::after)) (fits : w ≤ size)
      (aligned : 8∣w) (room : call.requested+xHeapStructSize≤w) (h : call≠.resetMinimum) :
      Served ucHeap heap call
        (granted (ready ucHeap heap) ⟨uxStartAddress ucHeap+span before,takenSize size w⟩
          (blocks false (uxStartAddress ucHeap) (taken before size after w)),
          [uxStartAddress ucHeap+span before+xHeapStructSize])
  | returned {block : Block} (mem : block∈heap.allocated)
      (h : call=.free (block.address+xHeapStructSize)) :
      Served ucHeap heap call (returned heap block,[])
  | reset (h : call=.resetMinimum) :
      Served ucHeap heap call (xPortResetHeapMinimumEverFreeHeapSize heap,[])

/-- A size with the top bit set is larger than any block. -/
theorem le_of_and_ne {n : UInt32} (h : n&&&0x80000000≠0) : 2^31≤n.toNat := by
  by_contra hlt
  have hmod : (n&&&0x80000000).toNat=0 := by
    rw [UInt32.toNat_and]
    change n.toNat&&&2^31=0
    rw [Nat.and_two_pow,Nat.testBit_lt_two_pow (by omega)]
    rfl
  exact h (UInt32.toNat_inj.mp hmod)

/-- The adjusted size is aligned, and has room for the header unless it is zero. -/
theorem adjustedSize_spec (xWantedSize : UInt32) : 8∣(adjustedSize xWantedSize).toNat ∧
    ((adjustedSize xWantedSize).toNat≠0 →
      xWantedSize.toNat+xHeapStructSize≤(adjustedSize xWantedSize).toNat) := by
  rw [adjustedSize_toNat]
  unfold xHeapStructSize
  split
  · exact ⟨Nat.dvd_zero 8,fun h => absurd rfl h⟩
  · split <;> omega

/-- `pvPortMalloc` fails when the size cannot be adjusted or no free block has it. Otherwise it
takes the first one that does. -/
theorem pvPortMalloc_cases {ucHeap : ℕ} {heap : Heap} {segments : List Segment}
    (h : Cut ucHeap (ready ucHeap heap) segments) (xWantedSize : UInt32) :
    (pvPortMalloc ucHeap heap xWantedSize=(ready ucHeap heap,0) ∧
        ((adjustedSize xWantedSize).toNat=0 ∨
          ∀ block∈(ready ucHeap heap).free, block.size<(adjustedSize xWantedSize).toNat)) ∨
      ∃ before size after, segments=before++⟨size,false⟩::after ∧
        0<(adjustedSize xWantedSize).toNat ∧ (adjustedSize xWantedSize).toNat ≤ size ∧
        (∀ b∈blocks false (uxStartAddress ucHeap) before,
          b.size<(adjustedSize xWantedSize).toNat) ∧
        pvPortMalloc ucHeap heap xWantedSize=(granted (ready ucHeap heap)
          ⟨uxStartAddress ucHeap+span before,takenSize size (adjustedSize xWantedSize).toNat⟩
          (blocks false (uxStartAddress ucHeap)
            (taken before size after (adjustedSize xWantedSize).toNat)),
          uxStartAddress ucHeap+span before+xHeapStructSize) := by
  have husable := (usableSize_bounds ucHeap).2.1
  have hmax : configTotalHeapSize<2^31 := by decide
  have hsum := h.remaining
  have hsmall : ∀ block∈(ready ucHeap heap).free,
      block.size≤(ready ucHeap heap).xFreeBytesRemaining.toNat := by
    intro block hblock
    rw [h.remaining_eq]
    exact size_le_total hblock
  have hmalloc : pvPortMalloc ucHeap heap xWantedSize=
      if adjustedSize xWantedSize&&&0x80000000=0 then
        if 0<adjustedSize xWantedSize ∧
            adjustedSize xWantedSize≤(ready ucHeap heap).xFreeBytesRemaining then
          (takeBlock (adjustedSize xWantedSize).toNat (ready ucHeap heap).free).elim
            (ready ucHeap heap,0)
            (fun result =>
              (granted (ready ucHeap heap) result.1 result.2,result.1.address+xHeapStructSize))
        else (ready ucHeap heap,0)
      else (ready ucHeap heap,0) := by
    unfold pvPortMalloc
    dsimp only
    rw [show (if heap.started=true then heap else prvHeapInit ucHeap heap)=ready ucHeap heap from
      rfl]
    cases takeBlock (adjustedSize xWantedSize).toNat (ready ucHeap heap).free with
    | none => rfl
    | some result => rfl
  rw [hmalloc]
  by_cases hvalid : adjustedSize xWantedSize&&&0x80000000=0
  · rw [if_pos hvalid]
    by_cases hroom : 0<adjustedSize xWantedSize ∧
        adjustedSize xWantedSize≤(ready ucHeap heap).xFreeBytesRemaining
    · rw [if_pos hroom]
      cases htake : takeBlock (adjustedSize xWantedSize).toNat (ready ucHeap heap).free with
      | none => exact Or.inl ⟨rfl,Or.inr (takeBlock_eq_none.mp htake)⟩
      | some result =>
        obtain ⟨block,free⟩ := result
        rw [h.free_eq] at htake
        obtain ⟨before,size,after,heq,hle,hbefore,rfl,rfl⟩ := takeBlock_eq_some htake
        exact Or.inr ⟨before,size,after,heq,UInt32.lt_iff_toNat_lt.mp hroom.1,hle,hbefore,rfl⟩
    · rw [if_neg hroom]
      refine Or.inl ⟨rfl,?_⟩
      by_cases hzero : (adjustedSize xWantedSize).toNat=0
      · exact Or.inl hzero
      · refine Or.inr fun block hblock => ?_
        have hlarge : ¬(adjustedSize xWantedSize).toNat≤
            (ready ucHeap heap).xFreeBytesRemaining.toNat := fun hle =>
          hroom ⟨UInt32.lt_iff_toNat_lt.mpr (Nat.pos_of_ne_zero hzero),
            UInt32.le_iff_toNat_le.mpr hle⟩
        have hblock := hsmall block hblock
        omega
  · rw [if_neg hvalid]
    refine Or.inl ⟨rfl,Or.inr fun block hblock => ?_⟩
    have hblock := hsmall block hblock
    have hlarge := le_of_and_ne hvalid
    omega

/-- `pvPortMalloc` serves a call that asks for no more. -/
theorem Sound.served_malloc {ucHeap : ℕ} {heap : Heap} (h : Sound ucHeap heap) {call : HeapCall}
    {xWantedSize : UInt32} (hcall : call≠.resetMinimum)
    (hrequested : call.requested=xWantedSize.toNat) :
    Served ucHeap heap call ((pvPortMalloc ucHeap heap xWantedSize).1,
      [(pvPortMalloc ucHeap heap xWantedSize).2]) := by
  obtain ⟨segments,hcut⟩ := h.ready
  obtain ⟨haligned,hroom⟩ := adjustedSize_spec xWantedSize
  rcases pvPortMalloc_cases hcut xWantedSize with ⟨heq,-⟩|
    ⟨before,size,after,rfl,hpos,hle,-,heq⟩
  · rw [heq]
    exact Served.refused hcall
  · rw [heq]
    refine Served.granted hcut hle haligned ?_ hcall
    rw [hrequested]
    exact hroom (Nat.ne_of_gt hpos)

/-- A product that `pvPortCalloc` accepts does not overflow. -/
theorem calloc_product {xNum xSize : UInt32} (h : ¬(0<xNum ∧ 0xFFFFFFFF/xNum<xSize)) :
    (xNum*xSize).toNat=xNum.toNat*xSize.toNat := by
  rw [UInt32.toNat_mul]
  apply Nat.mod_eq_of_lt
  by_cases hzero : xNum.toNat=0
  · rw [hzero,Nat.zero_mul]
    exact Nat.two_pow_pos 32
  · have hpos : 0<xNum.toNat := Nat.pos_of_ne_zero hzero
    have hle : xSize.toNat≤4294967295/xNum.toNat := by
      by_contra hlt
      refine h ⟨UInt32.lt_iff_toNat_lt.mpr hpos,UInt32.lt_iff_toNat_lt.mpr ?_⟩
      rw [UInt32.toNat_div]
      exact Nat.lt_of_not_le hlt
    have hmul := (Nat.le_div_iff_mul_le hpos).mp hle
    rw [Nat.mul_comm] at hmul
    omega

/-- Each call that its caller may make is served. -/
theorem Sound.served {ucHeap : ℕ} {heap : Heap} (h : Sound ucHeap heap) {call : HeapCall}
    (howned : Owned heap call) : Served ucHeap heap call ((heapMachine ucHeap).step heap call) := by
  cases call with
  | malloc xWantedSize => exact h.served_malloc (fun h => by cases h) rfl
  | calloc xNum xSize =>
    change Served ucHeap heap _ ((pvPortCalloc ucHeap heap xNum xSize).1,
      [(pvPortCalloc ucHeap heap xNum xSize).2])
    unfold pvPortCalloc
    by_cases hover : 0<xNum ∧ 0xFFFFFFFF/xNum<xSize
    · rw [if_pos hover]
      exact Served.kept fun pv hpv => List.mem_singleton.mp hpv
    · rw [if_neg hover]
      exact h.served_malloc (fun h => by cases h) (calloc_product hover).symm
  | free pv =>
    change Served ucHeap heap _ (vPortFree heap pv,[])
    unfold vPortFree
    rcases howned with rfl|⟨owned,hmem,rfl⟩
    · rw [if_neg (not_not_intro rfl)]
      exact Served.kept fun pv hpv => absurd hpv List.not_mem_nil
    · have hne : owned.address+xHeapStructSize≠0 := by
        unfold xHeapStructSize
        omega
      rw [if_pos hne]
      cases hfind : heap.allocated.find?
          fun block => block.address+xHeapStructSize=owned.address+xHeapStructSize with
      | none =>
        have hnot := List.find?_eq_none.mp hfind owned hmem
        exact absurd (decide_eq_true rfl) hnot
      | some block =>
        have htrue := List.find?_some hfind
        have haddress : block.address+xHeapStructSize=owned.address+xHeapStructSize :=
          of_decide_eq_true htrue
        exact Served.returned (List.mem_of_find?_eq_some hfind) (by rw [haddress])
  | resetMinimum => exact Served.reset rfl

/-- A heap with a block in use has been started. -/
theorem Sound.cut_of_mem {ucHeap : ℕ} {heap : Heap} (h : Sound ucHeap heap) {block : Block}
    (hmem : block∈heap.allocated) : ∃ segments, Cut ucHeap heap segments := by
  cases h with
  | unused started free allocated =>
    rw [allocated] at hmem
    cases hmem
  | cut h => exact ⟨_,h⟩

/-- A call leaves a sound heap sound. -/
theorem Served.sound {ucHeap : ℕ} {heap : Heap} {call : HeapCall} {result : Heap×List ℕ}
    (hserved : Served ucHeap heap call result) (h : Sound ucHeap heap) :
    Sound ucHeap result.1 := by
  cases hserved with
  | kept => exact h
  | refused =>
    obtain ⟨segments,hcut⟩ := h.ready
    exact Sound.cut hcut
  | granted cut fits aligned room =>
    exact Sound.cut (cut.grant ((Nat.add_pos_right _ (by decide)).trans_le room) fits aligned)
  | returned mem =>
    obtain ⟨segments,hcut⟩ := h.cut_of_mem mem
    obtain ⟨-,segments,hcut⟩ := hcut.giveBack mem
    exact Sound.cut hcut
  | reset =>
    cases h with
    | unused started free allocated remaining minimum =>
      exact Sound.unused started free allocated remaining remaining
    | cut h => exact Sound.cut ⟨h.started,h.arranged,h.aligned,h.span_eq,h.free_eq,
        h.allocated_perm,h.remaining,Nat.le_refl _⟩

/-- The heap is sound before the first call. -/
theorem sound_boot (ucHeap : ℕ) : Sound ucHeap heapBoot := Sound.unused rfl rfl rfl rfl rfl

/-- The heap is sound in every run. -/
theorem run_sound {ucHeap : ℕ} {calls : List HeapCall}
    (h : (heapMachine ucHeap).Guarded Owned heapBoot calls) :
    Sound ucHeap ((heapMachine ucHeap).run heapBoot calls) :=
  h.invariant (Sound ucHeap) (fun _ _ hsound howned => (hsound.served howned).sound hsound)
    (sound_boot ucHeap)

/-- The counters of calls differ by the number of blocks in use. -/
def Counted (heap : Heap) : Prop :=
  heap.xNumberOfSuccessfulAllocations=
    heap.xNumberOfSuccessfulFrees+UInt32.ofNat heap.allocated.length

/-- Starting the heap changes neither its headers nor the counters of calls. -/
theorem ready_fields (ucHeap : ℕ) (heap : Heap) :
    (ready ucHeap heap).allocated=heap.allocated ∧
      (ready ucHeap heap).xNumberOfSuccessfulAllocations=heap.xNumberOfSuccessfulAllocations ∧
      (ready ucHeap heap).xNumberOfSuccessfulFrees=heap.xNumberOfSuccessfulFrees := by
  unfold ready
  split <;> exact ⟨rfl,rfl,rfl⟩

/-- A call keeps count. -/
theorem Served.counted {ucHeap : ℕ} {heap : Heap} {call : HeapCall} {result : Heap×List ℕ}
    (hserved : Served ucHeap heap call result) (h : Counted heap) : Counted result.1 := by
  obtain ⟨hallocated,hallocations,hfrees⟩ := ready_fields ucHeap heap
  cases hserved with
  | kept => exact h
  | refused =>
    unfold Counted
    rw [hallocated,hallocations,hfrees]
    exact h
  | granted =>
    change (ready ucHeap heap).xNumberOfSuccessfulAllocations+1=
      (ready ucHeap heap).xNumberOfSuccessfulFrees+
        UInt32.ofNat ((ready ucHeap heap).allocated.length+1)
    rw [hallocated,hallocations,hfrees,UInt32.ofNat_add,h,UInt32.add_assoc]
    rfl
  | returned mem =>
    have hlength := (List.perm_cons_erase mem).length_eq
    rw [List.length_cons] at hlength
    change heap.xNumberOfSuccessfulAllocations=
      heap.xNumberOfSuccessfulFrees+1+UInt32.ofNat (heap.allocated.erase _).length
    rw [h,hlength,UInt32.ofNat_add,UInt32.add_assoc,UInt32.add_comm 1]
    rfl
  | reset => exact h

/-- The memory of a heap that has been started: free blocks in order with something in use
between any two, no byte in two blocks, and none lost. -/
structure Partitioned (ucHeap : ℕ) (heap : Heap) : Prop where
  merged : heap.free.Pairwise (fun a b => a.stop<b.address)
  disjoint : (heap.free++heap.allocated).Pairwise Block.Disjoint
  inside : ∀ block∈heap.free++heap.allocated, ucHeap≤block.address ∧
    block.stop≤ucHeap+configTotalHeapSize ∧ 8∣block.address ∧ 8∣block.size ∧ 0<block.size
  accounted : total heap.free+total heap.allocated=usableSize ucHeap
  remaining : heap.xFreeBytesRemaining.toNat=total heap.free
  counted : Counted heap
  /-- Once everything has been given back, the heap is whole again. -/
  whole : heap.allocated=[] → heap.free=[⟨uxStartAddress ucHeap,usableSize ucHeap⟩]

/-- Aligned segments span an aligned space. -/
theorem span_dvd {d : ℕ} {segments : List Segment} (h : ∀ s∈segments, d∣s.size) :
    d∣span segments := by
  induction segments with
  | nil => exact Nat.dvd_zero d
  | cons segment segments ih =>
    exact Nat.dvd_add (h segment List.mem_cons_self) (ih fun s hs => h s (List.mem_cons_of_mem _ hs))

/-- A block of either kind lies aligned in `ucHeap`. -/
theorem Cut.inside {ucHeap : ℕ} {heap : Heap} {segments : List Segment}
    (h : Cut ucHeap heap segments) {kind : Bool} {block : Block}
    (hblock : block∈blocks kind (uxStartAddress ucHeap) segments) :
    ucHeap≤block.address ∧ block.stop≤ucHeap+configTotalHeapSize ∧ 8∣block.address ∧
      8∣block.size ∧ 0<block.size := by
  obtain ⟨hlow,hhigh⟩ := blocks_bounds hblock
  obtain ⟨-,-,-,hstart,hbegin,hend⟩ := usableSize_bounds ucHeap
  obtain ⟨before,after,rfl,haddress⟩ := mem_blocks hblock
  rw [h.span_eq] at hhigh
  refine ⟨hbegin.trans hlow,?_,?_,?_,?_⟩
  · omega
  · rw [haddress]
    exact Nat.dvd_add hstart (span_dvd fun s hs => h.aligned s (List.mem_append_left _ hs))
  · exact h.aligned ⟨block.size,kind⟩ (List.mem_append_right _ List.mem_cons_self)
  · exact h.arranged.positive ⟨block.size,kind⟩ (List.mem_append_right _ List.mem_cons_self)

/-- Blocks in use share no byte. -/
theorem Cut.allocated_disjoint {ucHeap : ℕ} {heap : Heap} {segments : List Segment}
    (h : Cut ucHeap heap segments) : heap.allocated.Pairwise Block.Disjoint :=
  (h.allocated_perm.pairwise_iff Or.symm).mpr ((blocks_pairwise true _ _).imp Or.inl)

/-- The segments of a heap are its partition. -/
theorem Cut.partitioned {ucHeap : ℕ} {heap : Heap} {segments : List Segment}
    (h : Cut ucHeap heap segments) (hcounted : Counted heap) : Partitioned ucHeap heap where
  merged := by
    rw [h.free_eq]
    exact h.arranged.gaps _
  disjoint := by
    refine List.pairwise_append.mpr ⟨?_,h.allocated_disjoint,?_⟩
    · rw [h.free_eq]
      exact (blocks_pairwise false _ _).imp Or.inl
    · intro a ha b hb
      rw [h.free_eq] at ha
      exact (blocks_disjoint (h.allocated_perm.mem_iff.mp hb) ha).symm
  inside block hblock := by
    rcases List.mem_append.mp hblock with hblock|hblock
    · rw [h.free_eq] at hblock
      exact h.inside hblock
    · exact h.inside (h.allocated_perm.mem_iff.mp hblock)
  accounted := by
    rw [←h.remaining_eq]
    exact h.remaining
  remaining := h.remaining_eq
  counted := hcounted
  whole hnone := by
    have hempty := h.allocated_perm
    rw [hnone] at hempty
    have hspan := h.span_eq
    have hpos := (usableSize_bounds ucHeap).1
    rw [h.free_eq,h.arranged.single hempty.nil_eq.symm (by omega),hspan]

/-- In every run in which callers give back only what they own, and each block once, the heap
that the calls have started is partitioned into its free blocks and the blocks in use. -/
theorem heap_partitioned {ucHeap : ℕ} {calls : List HeapCall}
    (h : (heapMachine ucHeap).Guarded Owned heapBoot calls)
    (hstarted : ((heapMachine ucHeap).run heapBoot calls).started=true) :
    Partitioned ucHeap ((heapMachine ucHeap).run heapBoot calls) := by
  obtain ⟨hsound,hcounted⟩ := h.invariant (fun heap => Sound ucHeap heap ∧ Counted heap)
    (fun heap call hheap howned =>
      have hserved := hheap.1.served howned
      ⟨hserved.sound hheap.1,hserved.counted hheap.2⟩) ⟨sound_boot ucHeap,rfl⟩
  cases hsound with
  | unused started =>
    rw [started] at hstarted
    cases hstarted
  | cut hcut => exact hcut.partitioned hcounted

/-- Blocks taken and given back: one is split, and another merged with what was left of it. -/
def exchange : List HeapCall :=
  [.malloc 100,.calloc 5 4,.free 16,.malloc 24,.malloc 80,.resetMinimum,.free 128]

/-- An array that is not aligned, partitioned. -/
theorem exchange_partitioned : Partitioned 4 ((heapMachine 4).run heapBoot exchange) :=
  heap_partitioned (by decide) (by decide)

/-- A pointer is to a new block behind its header, with the bytes that were asked for. -/
theorem Served.handed_out {ucHeap : ℕ} {heap : Heap} {call : HeapCall} {result : Heap×List ℕ}
    (hserved : Served ucHeap heap call result) {pv : ℕ} (hanswer : result.2=[pv]) (hpv : pv≠0) :
    ∃ block, result.1.allocated=block::heap.allocated ∧ pv=block.address+xHeapStructSize ∧
      call.requested+xHeapStructSize≤block.size := by
  have hnil : ∀ {heap' : Heap}, (heap',([] : List ℕ)).2≠[pv] := fun h => List.cons_ne_nil pv [] h.symm
  cases hserved with
  | @kept answer h =>
    change answer=[pv] at hanswer
    exact absurd (h pv (by rw [hanswer]; exact List.mem_cons_self)) hpv
  | refused => exact absurd (List.cons.inj hanswer).1.symm hpv
  | @granted before after size w cut fits aligned room =>
    obtain ⟨rfl,-⟩ := List.cons.inj hanswer
    have hcovers := (takenSize_bounds fits).1
    refine ⟨⟨uxStartAddress ucHeap+span before,takenSize size w⟩,?_,rfl,?_⟩
    · rw [←(ready_fields ucHeap heap).1]
      rfl
    · exact room.trans hcovers
  | returned => exact absurd hanswer hnil
  | reset => exact absurd hanswer hnil

/-- A block stays in use until it is given back. -/
theorem Served.keeps {ucHeap : ℕ} {heap : Heap} {call : HeapCall} {result : Heap×List ℕ}
    (hserved : Served ucHeap heap call result) {block : Block} (hmem : block∈heap.allocated)
    (hcall : call≠.free (block.address+xHeapStructSize)) : block∈result.1.allocated := by
  have hready : block∈(ready ucHeap heap).allocated := by
    rw [(ready_fields ucHeap heap).1]
    exact hmem
  cases hserved with
  | kept => exact hmem
  | refused => exact hready
  | granted => exact List.mem_cons_of_mem _ hready
  | @returned other mem h =>
    refine (List.mem_erase_of_ne fun heq => ?_).mpr hmem
    rw [heq] at hcall
    exact hcall h
  | reset => exact hmem

/-- A block stays in use through a run that does not give it back. -/
theorem run_keeps {ucHeap : ℕ} {heap : Heap} (h : Sound ucHeap heap) {calls : List HeapCall}
    (howned : (heapMachine ucHeap).Guarded Owned heap calls) {block : Block}
    (hmem : block∈heap.allocated) (hkept : .free (block.address+xHeapStructSize)∉calls) :
    block∈((heapMachine ucHeap).run heap calls).allocated := by
  induction calls generalizing heap with
  | nil => exact hmem
  | cons call calls ih =>
    rw [List.mem_cons,not_or] at hkept
    have hserved := h.served howned.1
    exact ih (hserved.sound h) howned.2 (hserved.keeps hmem fun h => hkept.1 h.symm) hkept.2

/-- Where callers give back only what they own, what a call was given stays its own: until it is
given back, whatever calls come in between, no other call is given any of its bytes or those of
its header. All of it lies aligned in `ucHeap`. -/
theorem grants_stay_apart {ucHeap : ℕ} {past between : List HeapCall} {first second : HeapCall}
    {p q : ℕ} (h : (heapMachine ucHeap).Guarded Owned heapBoot (past++first::(between++[second])))
    (hp : ((heapMachine ucHeap).step ((heapMachine ucHeap).run heapBoot past) first).2=[p])
    (hp0 : p≠0) (hkept : .free p∉between)
    (hq : ((heapMachine ucHeap).step
      ((heapMachine ucHeap).run heapBoot (past++first::between)) second).2=[q]) (hq0 : q≠0) :
    (p+first.requested+xHeapStructSize≤q ∨ q+second.requested+xHeapStructSize≤p) ∧ 8∣p ∧
      ucHeap≤p ∧ p+first.requested≤ucHeap+configTotalHeapSize := by
  have hall : (heapMachine ucHeap).Guarded Owned heapBoot ((past++first::between)++[second]) := by
    rw [List.append_assoc]
    exact h
  obtain ⟨hbetween,hsecond,-⟩ := (heapMachine ucHeap).guarded_append.mp hall
  obtain ⟨hpast,hfirst,hrest⟩ := (heapMachine ucHeap).guarded_append.mp hbetween
  have hsound := run_sound hpast
  have hserved := hsound.served hfirst
  obtain ⟨block,hblock,rfl,hsize⟩ := hserved.handed_out hp hp0
  have hmem := run_keeps (hserved.sound hsound) hrest (hblock▸List.mem_cons_self) hkept
  have hkeeps : block∈((heapMachine ucHeap).run heapBoot (past++first::between)).allocated := by
    rw [Machine.run_append]
    exact hmem
  have hlater := run_sound hbetween
  have hlast := hlater.served hsecond
  obtain ⟨other,hother,rfl,hothersize⟩ := hlast.handed_out hq hq0
  obtain ⟨segments,hcut⟩ := (hlast.sound hlater).cut_of_mem (hother▸List.mem_cons_self)
  have hdisjoint := hcut.allocated_disjoint
  rw [hother] at hdisjoint
  obtain ⟨before,hbefore⟩ := hlater.cut_of_mem hkeeps
  obtain ⟨hlow,hhigh,haligned,-⟩ := hbefore.inside (hbefore.allocated_perm.mem_iff.mp hkeeps)
  rcases (List.pairwise_cons.mp hdisjoint).1 block hkeeps with hapart|hapart
  all_goals
    unfold Block.stop at hapart hhigh
    unfold xHeapStructSize at *
    omega

/-- The second block is kept while the first one is given back. -/
theorem exchange_stays_apart :
    (128+(HeapCall.calloc 5 4).requested+xHeapStructSize≤248 ∨
        248+(HeapCall.malloc 200).requested+xHeapStructSize≤128) ∧ 8∣128 ∧ 4≤128 ∧
      128+(HeapCall.calloc 5 4).requested≤4+configTotalHeapSize :=
  @grants_stay_apart 4 [.malloc 100] [.free 16,.malloc 24,.malloc 80,.resetMinimum] (.calloc 5 4)
    (.malloc 200) 128 248 (by decide) (by decide) (by decide) (by decide) (by decide) (by decide)

/-- The largest block of the statistics is smaller than a size when all blocks are. -/
theorem largest_lt {free : List Block} {stats : HeapStats} {size : ℕ} :
    (free.foldl (fun stats block =>
      ⟨if stats.xSizeOfLargestFreeBlockInBytes<block.size then block.size
          else stats.xSizeOfLargestFreeBlockInBytes,
        if block.size<stats.xSizeOfSmallestFreeBlockInBytes then block.size
          else stats.xSizeOfSmallestFreeBlockInBytes,
        stats.xNumberOfFreeBlocks+1⟩) stats).xSizeOfLargestFreeBlockInBytes<size ↔
      stats.xSizeOfLargestFreeBlockInBytes<size ∧ ∀ block∈free, block.size<size := by
  induction free generalizing stats with
  | nil => exact ⟨fun h => ⟨h,fun _ hblock => absurd hblock List.not_mem_nil⟩,fun h => h.1⟩
  | cons block free ih =>
    rw [List.foldl_cons,ih,List.forall_mem_cons,←and_assoc]
    dsimp only
    refine and_congr_left fun _ => ?_
    split <;> omega

/-- The free blocks after one was taken: what is left of it stays at its place. -/
theorem taken_free (base : ℕ) (before : List Segment) {size w : ℕ} (after : List Segment)
    (h : w ≤ size) : blocks false base (taken before size after w)=
      blocks false base before++(if heapMinimumBlockSize<size-w then
          [⟨base+span before+w,size-w⟩] else [])++
        blocks false (base+span before+size) after := by
  unfold taken
  split
  · rw [blocks_append,blocks_free_live,blocks_free,List.append_assoc,Nat.add_assoc _ w,
      Nat.add_sub_cancel' h]
    rfl
  · rw [blocks_append,blocks_free_live,List.append_nil]

/-- The adjusted size is the request behind a header, rounded up, and fails for no block that
has room for this. -/
theorem adjustedSize_fits (xWantedSize : UInt32) : ((adjustedSize xWantedSize).toNat≠0 →
      (adjustedSize xWantedSize).toNat=(xWantedSize.toNat+15)/8*8) ∧
    ∀ size<2^32, (adjustedSize xWantedSize).toNat=0 ∨ size<(adjustedSize xWantedSize).toNat →
      xWantedSize.toNat=0 ∨ size<(xWantedSize.toNat+15)/8*8 := by
  rw [adjustedSize_toNat]
  split
  next hzero => exact ⟨fun h => absurd rfl h,fun _ _ _ => Or.inl hzero⟩
  · split
    · exact ⟨fun _ => rfl,fun size _ h => Or.inr (by omega)⟩
    · exact ⟨fun h => absurd rfl h,fun size hsize _ => Or.inr (by omega)⟩

/-- In every run in which callers give back only what they own, `pvPortMalloc` answers `NULL`
exactly for an empty request and for one that, with its header and rounded up, is larger than the
largest free block that `vPortGetHeapStats` finds, and then changes nothing. Otherwise it takes
the first block in the free list that is large enough, and leaves the rest of it at its place. -/
theorem malloc_first_fit {ucHeap : ℕ} {calls : List HeapCall}
    (h : (heapMachine ucHeap).Guarded Owned heapBoot calls) (xWantedSize : UInt32) :
    let heap := ready ucHeap ((heapMachine ucHeap).run heapBoot calls)
    let result := pvPortMalloc ucHeap ((heapMachine ucHeap).run heapBoot calls) xWantedSize
    let w := (xWantedSize.toNat+15)/8*8
    (result.2=0 ↔ xWantedSize.toNat=0 ∨
        (vPortGetHeapStats heap).xSizeOfLargestFreeBlockInBytes<w) ∧
      (result.2=0 → result.1=heap) ∧
      (result.2≠0 → ∃ before block after, heap.free=before++block::after ∧
        (∀ b∈before, b.size<w) ∧ w≤block.size ∧ result.2=block.address+xHeapStructSize ∧
        result.1.free=before++(if heapMinimumBlockSize<block.size-w then
          [⟨block.address+w,block.size-w⟩] else [])++after) := by
  intro heap result w
  obtain ⟨segments,hcut⟩ := (run_sound h).ready
  have hlargest : ∀ {size}, 0<size →
      ((vPortGetHeapStats heap).xSizeOfLargestFreeBlockInBytes<size ↔
        ∀ block∈heap.free, block.size<size) := fun {size} hsize =>
    largest_lt.trans (and_iff_right hsize)
  have hw : xWantedSize.toNat≠0 → 0<w := fun hne => by
    change 0<(xWantedSize.toNat+15)/8*8
    omega
  obtain ⟨hadjusted,hfits⟩ := adjustedSize_fits xWantedSize
  rcases pvPortMalloc_cases hcut xWantedSize with ⟨heq,hfail⟩|
    ⟨before,size,after,rfl,hpos,hle,hfirst,heq⟩
  · have hresult : result=(heap,0) := heq
    rw [hresult]
    refine ⟨⟨fun _ => ?_,fun _ => rfl⟩,fun _ => rfl,fun hne => absurd rfl hne⟩
    by_cases hzero : xWantedSize.toNat=0
    · exact Or.inl hzero
    · refine Or.inr ((hlargest (hw hzero)).mpr fun block hblock => ?_)
      have hsmall : block.size<2^32 := by
        have hle := size_le_total hblock
        have hlt := heap.xFreeBytesRemaining.toNat_lt
        rw [hcut.remaining_eq] at hlt
        exact hle.trans_lt hlt
      exact (hfits block.size hsmall (hfail.imp_right fun hall => hall block hblock)).resolve_left
        hzero
  · have hnonzero : xWantedSize.toNat≠0 := by
      intro hzero
      rw [adjustedSize_toNat,if_pos hzero] at hpos
      exact Nat.lt_irrefl 0 hpos
    rw [hadjusted (Nat.ne_of_gt hpos)] at hle hfirst heq
    have hfree := hcut.free_eq
    rw [blocks_append,blocks_free] at hfree
    have hresult : result=_ := heq
    rw [hresult]
    have hpv : uxStartAddress ucHeap+span before+xHeapStructSize≠0 := by
      unfold xHeapStructSize
      omega
    refine ⟨⟨fun h => absurd h hpv,fun h => ?_⟩,fun h => absurd h hpv,fun _ => ?_⟩
    · rcases h with hzero|hlt
      · exact absurd hzero hnonzero
      · have hall := (hlargest (hw hnonzero)).mp hlt ⟨uxStartAddress ucHeap+span before,size⟩
          (by rw [hfree]; exact List.mem_append_right _ List.mem_cons_self)
        exact absurd hle (Nat.not_le_of_lt hall)
    · exact ⟨_,_,_,hfree,hfirst,hle,rfl,taken_free _ before after hle⟩

/-- Free memory in two pieces, and a request that only both together could meet. -/
theorem exchange_too_large :
    (pvPortMalloc 4 ((heapMachine 4).run heapBoot exchange) 40800).2=0 :=
  (malloc_first_fit (by decide) 40800).1.mpr (Or.inr (by decide))

/-- No less was ever left than the minimum. -/
theorem Sound.minimum_le {ucHeap : ℕ} {heap : Heap} (h : Sound ucHeap heap) :
    heap.xMinimumEverFreeBytesRemaining.toNat≤heap.xFreeBytesRemaining.toNat := by
  cases h with
  | unused _ _ _ remaining minimum => rw [remaining,minimum]
  | cut h => exact h.minimum

/-- A call other than `xPortResetHeapMinimumEverFreeHeapSize` lowers the minimum to what remains
after it, or sets it to that when it starts the heap. -/
theorem Served.minimum {ucHeap : ℕ} {heap : Heap} {call : HeapCall} {result : Heap×List ℕ}
    (hserved : Served ucHeap heap call result) (h : Sound ucHeap heap)
    (hcall : call≠.resetMinimum) (hstarted : result.1.started=true) :
    result.1.xMinimumEverFreeBytesRemaining.toNat=if heap.started=true then
      min heap.xMinimumEverFreeBytesRemaining.toNat result.1.xFreeBytesRemaining.toNat
      else result.1.xFreeBytesRemaining.toNat := by
  have hle := h.minimum_le
  have hready : (ready ucHeap heap).xMinimumEverFreeBytesRemaining.toNat=
      if heap.started=true then min heap.xMinimumEverFreeBytesRemaining.toNat
        (ready ucHeap heap).xFreeBytesRemaining.toNat
      else (ready ucHeap heap).xFreeBytesRemaining.toNat := by
    unfold ready
    split
    · exact (Nat.min_eq_left hle).symm
    · rfl
  cases hserved with
  | kept =>
    rw [if_pos hstarted]
    exact (Nat.min_eq_left hle).symm
  | refused => exact hready
  | @granted before after size w cut fits =>
    have hremaining := cut.granted_remaining (takenSize_bounds fits).2
    have hlower := granted_minimum (ready ucHeap heap)
      ⟨uxStartAddress ucHeap+span before,takenSize size w⟩
      (blocks false (uxStartAddress ucHeap) (taken before size after w))
    have hleft : (HeapFour.granted (ready ucHeap heap)
        ⟨uxStartAddress ucHeap+span before,takenSize size w⟩
        (blocks false (uxStartAddress ucHeap)
          (taken before size after w))).xFreeBytesRemaining.toNat=_ := hremaining
    rw [hleft] at hlower ⊢
    rw [hlower,hready]
    split <;> omega
  | returned mem =>
    obtain ⟨segments,hcut⟩ := h.cut_of_mem mem
    rw [if_pos hcut.started]
    exact (Nat.min_eq_left (hle.trans (hcut.giveBack mem).1)).symm
  | reset h => exact absurd h hcall

/-- A heap that has been started stays so. -/
theorem Served.started {ucHeap : ℕ} {heap : Heap} {call : HeapCall} {result : Heap×List ℕ}
    (hserved : Served ucHeap heap call result) (h : heap.started=true) : result.1.started=true := by
  have hready : (ready ucHeap heap).started=true := by
    unfold ready
    rw [if_pos h]
    exact h
  cases hserved with
  | kept => exact h
  | refused => exact hready
  | granted => exact hready
  | returned => exact h
  | reset => exact h

/-- A heap that has been started stays so in every run. -/
theorem run_started {ucHeap : ℕ} {heap : Heap} (h : Sound ucHeap heap) {calls : List HeapCall}
    (howned : (heapMachine ucHeap).Guarded Owned heap calls) (hstarted : heap.started=true) :
    ((heapMachine ucHeap).run heap calls).started=true :=
  (howned.invariant (fun heap => Sound ucHeap heap ∧ heap.started=true) (fun _ _ hheap hcall =>
    have hserved := hheap.1.served hcall
    ⟨hserved.sound hheap.1,hserved.started hheap.2⟩) ⟨h,hstarted⟩).2

/-- The numbers of free bytes after the calls since a point of a run, as far as the heap was
started. -/
def levels (ucHeap : ℕ) (old recent : List HeapCall) : Set ℕ :=
  {bytes | ∃ past rest, recent=past++rest ∧
    ((heapMachine ucHeap).run heapBoot (old++past)).started=true ∧
    bytes=((heapMachine ucHeap).run heapBoot (old++past)).xFreeBytesRemaining.toNat}

/-- One more call adds the number of free bytes after it. -/
theorem levels_snoc {ucHeap : ℕ} {old recent : List HeapCall} {call : HeapCall} {bytes : ℕ} :
    bytes∈levels ucHeap old (recent++[call]) ↔ bytes∈levels ucHeap old recent ∨
      ((heapMachine ucHeap).run heapBoot (old++(recent++[call]))).started=true ∧ bytes=
        ((heapMachine ucHeap).run heapBoot (old++(recent++[call]))).xFreeBytesRemaining.toNat := by
  constructor
  · rintro ⟨past,rest,hsplit,hstarted,rfl⟩
    rcases List.eq_nil_or_concat rest with rfl|⟨front,last,rfl⟩
    · rw [List.append_nil] at hsplit
      rw [hsplit]
      exact Or.inr ⟨hstarted,rfl⟩
    · rw [List.concat_eq_append,←List.append_assoc] at hsplit
      exact Or.inl ⟨past,front,(List.append_inj' hsplit rfl).1,hstarted,rfl⟩
  · rintro (⟨past,rest,rfl,hstarted,rfl⟩|⟨hstarted,rfl⟩)
    · exact ⟨past,rest++[call],List.append_assoc _ _ _,hstarted,rfl⟩
    · exact ⟨recent++[call],[],(List.append_nil _).symm,hstarted,rfl⟩

/-- Where callers give back only what they own, `xPortGetMinimumEverFreeHeapSize` is the least
number of free bytes that there was after any call since the last
`xPortResetHeapMinimumEverFreeHeapSize`, or since the heap was started. -/
theorem minimum_is_lowest {ucHeap : ℕ} {old recent : List HeapCall}
    (h : (heapMachine ucHeap).Guarded Owned heapBoot (old++recent))
    (hold : old=[] ∨ ∃ calls, old=calls++[.resetMinimum]) (hrecent : .resetMinimum∉recent)
    (hstarted : ((heapMachine ucHeap).run heapBoot (old++recent)).started=true) :
    IsLeast (levels ucHeap old recent)
      ((heapMachine ucHeap).run heapBoot (old++recent)).xMinimumEverFreeBytesRemaining.toNat := by
  induction recent using List.reverseRecOn with
  | nil =>
    rw [List.append_nil] at hstarted ⊢
    rcases hold with rfl|⟨calls,rfl⟩
    · cases hstarted
    · have hreset : ((heapMachine ucHeap).run heapBoot
          (calls++[.resetMinimum])).xMinimumEverFreeBytesRemaining=
          ((heapMachine ucHeap).run heapBoot (calls++[.resetMinimum])).xFreeBytesRemaining := by
        rw [Machine.run_snoc]
        rfl
      rw [hreset]
      refine ⟨⟨[],[],rfl,by rw [List.append_nil]; exact hstarted,by rw [List.append_nil]⟩,?_⟩
      rintro bytes ⟨past,rest,hsplit,-,rfl⟩
      obtain ⟨rfl,-⟩ := List.append_eq_nil_iff.mp hsplit.symm
      rw [List.append_nil]
  | append_singleton recent call ih =>
    rw [←List.append_assoc] at h
    obtain ⟨hbefore,howned,-⟩ := (heapMachine ucHeap).guarded_append.mp h
    have hsound := run_sound hbefore
    have hserved := hsound.served howned
    rw [List.mem_append,not_or,List.mem_singleton] at hrecent
    have hrun : (heapMachine ucHeap).run heapBoot (old++(recent++[call]))=
        ((heapMachine ucHeap).step ((heapMachine ucHeap).run heapBoot (old++recent)) call).1 := by
      rw [←List.append_assoc,Machine.run_snoc]
    have hminimum := hserved.minimum hsound (fun h => hrecent.2 h.symm) (hrun▸hstarted)
    rw [←hrun] at hminimum
    rw [hminimum]
    by_cases hearlier : ((heapMachine ucHeap).run heapBoot (old++recent)).started=true
    · obtain ⟨hmem,hlow⟩ := ih hbefore hrecent.1 hearlier
      rw [if_pos hearlier]
      constructor
      · rcases Nat.le_total ((heapMachine ucHeap).run heapBoot
            (old++recent)).xMinimumEverFreeBytesRemaining.toNat ((heapMachine ucHeap).run heapBoot
            (old++(recent++[call]))).xFreeBytesRemaining.toNat with hle|hle
        · rw [Nat.min_eq_left hle]
          exact levels_snoc.mpr (Or.inl hmem)
        · rw [Nat.min_eq_right hle]
          exact levels_snoc.mpr (Or.inr ⟨hstarted,rfl⟩)
      · intro bytes hbytes
        rcases levels_snoc.mp hbytes with hbytes|⟨-,rfl⟩
        · exact (Nat.min_le_left _ _).trans (hlow hbytes)
        · exact Nat.min_le_right _ _
    · rw [if_neg hearlier]
      refine ⟨levels_snoc.mpr (Or.inr ⟨hstarted,rfl⟩),fun bytes hbytes => ?_⟩
      rcases levels_snoc.mp hbytes with ⟨past,rest,hsplit,hpast,-⟩|⟨-,rfl⟩
      · -- A heap that was started before would still be.
        rw [hsplit,←List.append_assoc] at hbefore hearlier
        obtain ⟨hfirst,hsecond⟩ := (heapMachine ucHeap).guarded_append.mp hbefore
        refine absurd ?_ hearlier
        rw [Machine.run_append]
        exact run_started (run_sound hfirst) hsecond hpast
      · exact Nat.le_refl _

/-- The minimum since the reset, which comes after more had been in use. -/
theorem exchange_lowest : IsLeast (levels 4 (exchange.take 6) [.free 128,.malloc 200])
    ((heapMachine 4).run heapBoot
      (exchange.take 6++[.free 128,.malloc 200])).xMinimumEverFreeBytesRemaining.toNat :=
  minimum_is_lowest (by decide) (Or.inr ⟨exchange.take 5,rfl⟩) (by decide) (by decide)

end WebDataLogger.HeapFour
