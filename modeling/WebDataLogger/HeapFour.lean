import WebDataLogger.SegmentedSpace
import WebDataLogger.TransitionRuns

/-!
# The heap of the kernel

`heap_4.c` keeps its free blocks in a list ordered by their addresses. `pvPortMalloc` takes
the first block that is large enough and puts back what it does not need, and `vPortFree`
puts a block back at its place and merges it with its neighbours. The links between free
blocks are a list here, and the headers of allocated blocks are a list without an order.
Sizes that a caller may choose are `UInt32`, as `size_t` is.
-/

namespace WebDataLogger.HeapFour

open SegmentedSpace TransitionRuns

/-- `xHeapStructSize`, a `BlockLink_t` rounded up to `portBYTE_ALIGNMENT`. -/
def xHeapStructSize : ℕ := 8

/-- `heapMINIMUM_BLOCK_SIZE`. -/
def heapMinimumBlockSize : ℕ := 16

/-- `configTOTAL_HEAP_SIZE`. -/
def configTotalHeapSize : ℕ := 10240*4

/-- The first statement of `pvPortMalloc`: room for the header, rounded up, or zero when this
overflows. -/
def adjustedSize (xWantedSize : UInt32) : UInt32 :=
  if 0<xWantedSize then
    if 0xFFFFFFFF-8<xWantedSize then 0
    else
      let xWantedSize := xWantedSize+8
      if xWantedSize&&&7≠0 then
        let xAdditionalRequiredSize := 8-(xWantedSize&&&7)
        if 0xFFFFFFFF-xAdditionalRequiredSize<xWantedSize then 0
        else xWantedSize+xAdditionalRequiredSize
      else xWantedSize
  else xWantedSize

/-- The static variables of `heap_4.c`, and the headers of the blocks in use. -/
structure Heap where
  /-- `pxEnd` is not `NULL`. -/
  started : Bool
  /-- The list from `xStart` to `pxEnd`. -/
  free : List Block
  /-- Blocks whose header has the allocated bit set. -/
  allocated : List Block
  xFreeBytesRemaining : UInt32
  xMinimumEverFreeBytesRemaining : UInt32
  xNumberOfSuccessfulAllocations : UInt32
  xNumberOfSuccessfulFrees : UInt32

/-- The heap before the first call. -/
def heapBoot : Heap := ⟨false,[],[],0,0,0,0⟩

/-- `uxStartAddress`: the first aligned address of `ucHeap`. -/
def uxStartAddress (ucHeap : ℕ) : ℕ := if ucHeap%8≠0 then (ucHeap+7)/8*8 else ucHeap

/-- `uxEndAddress`: where `pxEnd` lies. -/
def uxEndAddress (ucHeap : ℕ) : ℕ :=
  let xTotalHeapSize := configTotalHeapSize-(uxStartAddress ucHeap-ucHeap)
  (uxStartAddress ucHeap+xTotalHeapSize-xHeapStructSize)/8*8

/-- Size of the first free block. -/
def usableSize (ucHeap : ℕ) : ℕ := uxEndAddress ucHeap-uxStartAddress ucHeap

/-- `prvHeapInit`. -/
def prvHeapInit (ucHeap : ℕ) (heap : Heap) : Heap :=
  {heap with
    started := true
    free := [⟨uxStartAddress ucHeap,usableSize ucHeap⟩]
    xFreeBytesRemaining := UInt32.ofNat (usableSize ucHeap)
    xMinimumEverFreeBytesRemaining := UInt32.ofNat (usableSize ucHeap)}

/-- The search of `pvPortMalloc`: the first block that is large enough, and the list without
it. What is left of the block goes back to its place when it is larger than the minimum. -/
def takeBlock (xWantedSize : ℕ) : List Block → Option (Block×List Block)
  | [] => none
  | block::rest =>
    if block.size<xWantedSize then
      (takeBlock xWantedSize rest).map fun taken => (taken.1,block::taken.2)
    else if heapMinimumBlockSize<block.size-xWantedSize then
      some (⟨block.address,xWantedSize⟩,
        ⟨block.address+xWantedSize,block.size-xWantedSize⟩::rest)
    else some (block,rest)

/-- `pvPortMalloc`, with the pointer it returns. -/
def pvPortMalloc (ucHeap : ℕ) (heap : Heap) (xWantedSize : UInt32) : Heap×ℕ :=
  let xWantedSize := adjustedSize xWantedSize
  let heap := if heap.started=true then heap else prvHeapInit ucHeap heap
  if xWantedSize&&&0x80000000=0 then
    if 0<xWantedSize ∧ xWantedSize≤heap.xFreeBytesRemaining then
      match takeBlock xWantedSize.toNat heap.free with
      | none => (heap,0)
      | some (block,free) =>
        let remaining := heap.xFreeBytesRemaining-UInt32.ofNat block.size
        ({heap with
          free := free
          allocated := block::heap.allocated
          xFreeBytesRemaining := remaining
          xMinimumEverFreeBytesRemaining :=
            if remaining<heap.xMinimumEverFreeBytesRemaining then remaining
            else heap.xMinimumEverFreeBytesRemaining
          xNumberOfSuccessfulAllocations := heap.xNumberOfSuccessfulAllocations+1},
          block.address+xHeapStructSize)
    else (heap,0)
  else (heap,0)

/-- `pvPortCalloc`. The bytes that it clears are not part of the model. -/
def pvPortCalloc (ucHeap : ℕ) (heap : Heap) (xNum xSize : UInt32) : Heap×ℕ :=
  if 0<xNum ∧ 0xFFFFFFFF/xNum<xSize then (heap,0) else pvPortMalloc ucHeap heap (xNum*xSize)

/-- The second half of `prvInsertBlockIntoFreeList`: the block and the one after it. -/
def mergeAfter (block : Block) : List Block → List Block
  | [] => [block]
  | next::after =>
    if block.stop=next.address then ⟨block.address,block.size+next.size⟩::after
    else block::next::after

/-- The first half: the block and the one before it. -/
def mergeBefore (pxIterator block : Block) (after : List Block) : List Block :=
  if pxIterator.stop=block.address then
    mergeAfter ⟨pxIterator.address,pxIterator.size+block.size⟩ after
  else pxIterator::mergeAfter block after

/-- `prvInsertBlockIntoFreeList`: past all blocks with lower addresses. -/
def prvInsertBlockIntoFreeList (block : Block) : List Block → List Block
  | [] => mergeAfter block []
  | [pxIterator] =>
    if pxIterator.address<block.address then mergeBefore pxIterator block []
    else mergeAfter block [pxIterator]
  | pxIterator::next::after =>
    if pxIterator.address<block.address then
      if next.address<block.address then
        pxIterator::prvInsertBlockIntoFreeList block (next::after)
      else mergeBefore pxIterator block (next::after)
    else mergeAfter block (pxIterator::next::after)

/-- `vPortFree`. A header without the allocated bit is left alone. -/
def vPortFree (heap : Heap) (pv : ℕ) : Heap :=
  if pv≠0 then
    match heap.allocated.find? fun block => block.address+xHeapStructSize=pv with
    | none => heap
    | some block =>
      {heap with
        free := prvInsertBlockIntoFreeList block heap.free
        allocated := heap.allocated.erase block
        xFreeBytesRemaining := heap.xFreeBytesRemaining+UInt32.ofNat block.size
        xNumberOfSuccessfulFrees := heap.xNumberOfSuccessfulFrees+1}
  else heap

/-- `xPortResetHeapMinimumEverFreeHeapSize`. -/
def xPortResetHeapMinimumEverFreeHeapSize (heap : Heap) : Heap :=
  {heap with xMinimumEverFreeBytesRemaining := heap.xFreeBytesRemaining}

/-- The block sizes in `HeapStats_t`. -/
structure HeapStats where
  xSizeOfLargestFreeBlockInBytes : ℕ
  xSizeOfSmallestFreeBlockInBytes : ℕ
  xNumberOfFreeBlocks : ℕ

/-- The loop of `vPortGetHeapStats`. -/
def vPortGetHeapStats (heap : Heap) : HeapStats :=
  heap.free.foldl (fun stats block =>
    ⟨if stats.xSizeOfLargestFreeBlockInBytes<block.size then block.size
        else stats.xSizeOfLargestFreeBlockInBytes,
      if block.size<stats.xSizeOfSmallestFreeBlockInBytes then block.size
        else stats.xSizeOfSmallestFreeBlockInBytes,
      stats.xNumberOfFreeBlocks+1⟩) ⟨0,0xFFFFFFFF,0⟩

/-- A call to the heap. -/
inductive HeapCall where
  | malloc (xWantedSize : UInt32)
  | calloc (xNum xSize : UInt32)
  | free (pv : ℕ)
  | resetMinimum
  deriving DecidableEq

/-- The heap under calls, with the pointers it returns. -/
def heapMachine (ucHeap : ℕ) : Machine Heap HeapCall ℕ where
  step heap
    | .malloc xWantedSize =>
      ((pvPortMalloc ucHeap heap xWantedSize).1,[(pvPortMalloc ucHeap heap xWantedSize).2])
    | .calloc xNum xSize =>
      ((pvPortCalloc ucHeap heap xNum xSize).1,[(pvPortCalloc ucHeap heap xNum xSize).2])
    | .free pv => (vPortFree heap pv,[])
    | .resetMinimum => (xPortResetHeapMinimumEverFreeHeapSize heap,[])

/-- Callers give back only what they were given, once, or `NULL`. -/
def Owned (heap : Heap) : HeapCall → Prop
  | .free pv => pv=0 ∨ ∃ block∈heap.allocated, pv=block.address+xHeapStructSize
  | _ => True

/-- The caller's side can be checked. -/
instance ownedDecidable (heap : Heap) (call : HeapCall) : Decidable (Owned heap call) :=
  match call with
  | .free _ => inferInstanceAs (Decidable (_ ∨ ∃ _∈_, _))
  | .malloc _ => isTrue trivial
  | .calloc _ _ => isTrue trivial
  | .resetMinimum => isTrue trivial

end WebDataLogger.HeapFour
