import WebDataLogger.KernelQueue

/-!
# The items of a queue

Whatever tasks and interrupts do, a queue is a list of items with a largest length: what is
received or peeked is the item at its head, items are sent to its back or to its front, and a
call that finds no place or no item says so when this is true.
-/

namespace WebDataLogger.KernelQueue

open SlotRing StableQueue TransitionRuns

/-- What an outcome says about a list of items, and how it changes it. -/
def deque (length : ℕ) (items : List (List UInt8)) : Outcome → Option (List (List UInt8))
  | .sent item .sendToBack => if items.length<length then some (items++[item]) else none
  | .sent item .sendToFront => if items.length<length then some (item::items) else none
  | .sent item .overwrite => if length=1 then some [item] else none
  | .received item => if items.head?=some item then some items.tail else none
  | .peeked item => if items.head?=some item then some items else none
  | .full => if items.length=length then some items else none
  | .empty => if items=[] then some items else none
  | .expired => some items

section Storage

variable {τ : Type*}

/-- The storage area of a queue holds items, from the place after its read pointer on. -/
structure Holds (queue : Queue τ) (items : List (List UInt8)) : Prop where
  count : items.length=queue.uxMessagesWaiting
  room : items.length≤queue.uxLength
  positive : 0<queue.uxLength
  sizes : ∀ item∈items, item.length=queue.uxItemSize
  slots : queue.uxItemSize≠0 → ∃ first,
    queue.pcTail=queue.pcHead+(queue.uxLength*queue.uxItemSize : ℕ) ∧
    queue.pcReadFrom=slot queue.pcHead queue.uxItemSize queue.uxLength (first+queue.uxLength-1) ∧
    queue.pcWriteTo=slot queue.pcHead queue.uxItemSize queue.uxLength (first+items.length) ∧
    Laid queue.storage queue.pcHead queue.uxItemSize queue.uxLength first items

/-- Event lists and locks are not part of the storage. -/
theorem Holds.withLists {queue : Queue τ} {items : List (List UInt8)} (h : Holds queue items)
    (waitingToSend waitingToReceive : List τ) (cRxLock cTxLock : ℤ) :
    Holds {queue with
      xTasksWaitingToSend := waitingToSend
      xTasksWaitingToReceive := waitingToReceive
      cRxLock := cRxLock
      cTxLock := cTxLock} items :=
  ⟨h.count,h.room,h.positive,h.sizes,h.slots⟩

/-- A new queue holds nothing. -/
theorem holds_new {uxQueueLength : ℕ} (h : 0<uxQueueLength) (uxItemSize : ℕ) (pcHead : ℤ)
    (storage : ℤ → UInt8) :
    Holds (prvInitialiseNewQueue uxQueueLength uxItemSize pcHead storage : Queue τ) [] := by
  refine ⟨rfl,Nat.zero_le _,h,fun _ hitem => absurd hitem List.not_mem_nil,fun _ =>
    ⟨0,rfl,?_,?_,trivial⟩⟩
  · change _=pcHead+((0+uxQueueLength-1)%uxQueueLength*uxItemSize : ℕ)
    rw [Nat.zero_add,Nat.mod_eq_of_lt (Nat.sub_lt h Nat.one_pos)]
    rfl
  · change pcHead=pcHead+((0+0)%uxQueueLength*uxItemSize : ℕ)
    rw [Nat.zero_mod,Nat.zero_mul]
    exact (add_zero pcHead).symm

/-- Items without bytes need no storage. -/
theorem Holds.count_only {queue : Queue τ} {items items' : List (List UInt8)} {n : ℕ}
    (h : Holds queue items) (hsize : queue.uxItemSize=0) (hcount : items'.length=n)
    (hroom : n≤queue.uxLength) (hsizes : ∀ item∈items', item.length=0) :
    Holds {queue with uxMessagesWaiting := n} items' where
  count := hcount
  room := hcount▸hroom
  positive := h.positive
  sizes item hitem := (hsizes item hitem).trans hsize.symm
  slots hne := absurd hsize hne

/-- An item sent to the back. -/
theorem Holds.sendToBack {queue : Queue τ} {items : List (List UInt8)} {item : List UInt8}
    (h : Holds queue items) (hroom : queue.uxMessagesWaiting<queue.uxLength)
    (hitem : item.length=queue.uxItemSize) :
    Holds (prvCopyDataToQueue queue item .sendToBack) (items++[item]) := by
  have hcount := h.count
  have hlength : (items++[item]).length=queue.uxMessagesWaiting+1 := by
    rw [List.length_append,List.length_singleton,hcount]
  have hsizes : ∀ x∈items++[item], x.length=queue.uxItemSize := by
    intro x hx
    rcases List.mem_append.mp hx with hx|hx
    · exact h.sizes x hx
    · rw [List.mem_singleton.mp hx,hitem]
  unfold prvCopyDataToQueue
  by_cases hsize : queue.uxItemSize=0
  · rw [if_pos hsize]
    exact h.count_only hsize hlength hroom fun x hx => (hsizes x hx).trans hsize
  · rw [if_neg hsize,if_pos rfl]
    obtain ⟨first,htail,hread,hwrite,hlaid⟩ := h.slots hsize
    refine ⟨hlength,by rw [hlength]; exact hroom,h.positive,hsizes,fun _ =>
      ⟨first,htail,hread,?_,?_⟩⟩
    · dsimp only
      rw [htail,hwrite,slot_next (Nat.pos_of_ne_zero hsize) h.positive,List.length_append]
      rfl
    · dsimp only
      rw [hwrite]
      refine (hlaid.memcpy hitem le_rfl (by omega)).snoc ?_
      rw [←hitem]
      exact bytesAt_memcpy _ _ _

/-- An item sent to the front. -/
theorem Holds.sendToFront {queue : Queue τ} {items : List (List UInt8)} {item : List UInt8}
    (h : Holds queue items) (hroom : queue.uxMessagesWaiting<queue.uxLength)
    (hitem : item.length=queue.uxItemSize) :
    Holds (prvCopyDataToQueue queue item .sendToFront) (item::items) := by
  have hcount := h.count
  have hlength : (item::items).length=queue.uxMessagesWaiting+1 := by
    rw [List.length_cons,hcount]
  have hsizes : ∀ x∈item::items, x.length=queue.uxItemSize :=
    List.forall_mem_cons.mpr ⟨hitem,h.sizes⟩
  unfold prvCopyDataToQueue
  by_cases hsize : queue.uxItemSize=0
  · rw [if_pos hsize]
    exact h.count_only hsize hlength hroom fun x hx => (hsizes x hx).trans hsize
  · rw [if_neg hsize,if_neg (by decide)]
    obtain ⟨first,htail,hread,hwrite,hlaid⟩ := h.slots hsize
    have hpositive := h.positive
    refine ⟨hlength,by rw [hlength]; exact hroom,hpositive,hsizes,fun _ =>
      ⟨first+queue.uxLength-1,htail,?_,?_,?_⟩⟩
    · dsimp only
      rw [htail,hread,←slot_add_turn (first+queue.uxLength-1),
        show first+queue.uxLength-1+queue.uxLength=
          first+queue.uxLength-1+queue.uxLength-1+1 by omega]
      exact slot_previous (Nat.pos_of_ne_zero hsize) hpositive _
    · dsimp only
      rw [hwrite,List.length_cons,←slot_add_turn (first+items.length)]
      exact congrArg _ (by omega)
    · dsimp only
      rw [hread]
      constructor
      · rw [←hitem]
        exact bytesAt_memcpy _ _ _
      · rw [show first+queue.uxLength-1+1=first+queue.uxLength by omega,laid_add_turn,
          show first+queue.uxLength-1=first+(queue.uxLength-1) by omega]
        exact hlaid.memcpy hitem (by omega) (by omega)

/-- The only item overwritten. -/
theorem Holds.overwrite {queue : Queue τ} {items : List (List UInt8)} {item : List UInt8}
    (h : Holds queue items) (hlength : queue.uxLength=1) (hsize : queue.uxItemSize≠0)
    (hitem : item.length=queue.uxItemSize) :
    Holds (prvCopyDataToQueue queue item .overwrite) [item] := by
  obtain ⟨first,htail,hread,hwrite,-⟩ := h.slots hsize
  have hhead : ∀ k, slot queue.pcHead queue.uxItemSize 1 k=queue.pcHead := by
    intro k
    unfold slot
    rw [Nat.mod_one,Nat.zero_mul]
    exact add_zero _
  have hcount := h.count
  have hroom := h.room
  rw [hlength] at htail hread hwrite hroom
  rw [hhead] at hread hwrite
  have hmessages : (if CopyPosition.overwrite=.overwrite ∧ 0<queue.uxMessagesWaiting then
      queue.uxMessagesWaiting-1 else queue.uxMessagesWaiting)+1=1 := by
    split
    · omega
    next hnone =>
      have hzero : ¬0<queue.uxMessagesWaiting := fun h => hnone ⟨rfl,h⟩
      omega
  unfold prvCopyDataToQueue
  rw [if_neg hsize,if_neg (by decide)]
  refine ⟨hmessages.symm,?_,h.positive,fun x hx => ?_,fun _ => ⟨0,?_,?_,?_,?_,trivial⟩⟩
  · dsimp only
    rw [hlength]
    exact le_rfl
  · rw [List.mem_singleton.mp hx,hitem]
  · dsimp only
    rw [hlength]
    exact htail
  · dsimp only
    rw [hlength,hhead,htail,hread,Nat.one_mul]
    split <;> omega
  · dsimp only
    rw [hlength,hhead]
    exact hwrite
  · dsimp only
    rw [hlength,hhead,hread,←hitem]
    exact bytesAt_memcpy _ _ _

/-- The item at the head is the one that is copied, and the read pointer goes on to it. -/
theorem Holds.copyFrom {queue : Queue τ} {item : List UInt8} {items : List (List UInt8)}
    (h : Holds queue (item::items)) : (prvCopyDataFromQueue queue).2=item ∧
      Holds {(prvCopyDataFromQueue queue).1 with
        uxMessagesWaiting := queue.uxMessagesWaiting-1} items := by
  obtain ⟨hitem,hsizes⟩ := List.forall_mem_cons.mp h.sizes
  have hcount := h.count
  have hroom := h.room
  rw [List.length_cons] at hcount hroom
  unfold prvCopyDataFromQueue
  by_cases hsize : queue.uxItemSize=0
  · rw [if_neg (not_not_intro hsize)]
    constructor
    · rw [hsize] at hitem
      exact (List.eq_nil_of_length_eq_zero hitem).symm
    · dsimp only
      exact h.count_only hsize (by omega) (by omega) fun x hx => (hsizes x hx).trans hsize
  · rw [if_pos hsize]
    obtain ⟨first,htail,hread,hwrite,hlaid⟩ := h.slots hsize
    have hpositive := h.positive
    have hnext : (if queue.pcTail≤queue.pcReadFrom+queue.uxItemSize then queue.pcHead
        else queue.pcReadFrom+queue.uxItemSize)=
          slot queue.pcHead queue.uxItemSize queue.uxLength first := by
      rw [htail,hread,slot_next (Nat.pos_of_ne_zero hsize) hpositive,
        show first+queue.uxLength-1+1=first+queue.uxLength by omega,slot_add_turn]
    dsimp only
    rw [hnext]
    refine ⟨hlaid.1,⟨?_,?_,hpositive,hsizes,fun _ => ⟨first+1,htail,?_,?_,hlaid.2⟩⟩⟩
    · dsimp only
      omega
    · dsimp only
      omega
    · dsimp only
      rw [show first+1+queue.uxLength-1=first+queue.uxLength by omega,slot_add_turn]
    · dsimp only
      rw [hwrite,List.length_cons]
      exact congrArg _ (by omega)

/-- Copying an item into a queue changes its storage area only. -/
theorem copyTo_frame (queue : Queue τ) (item : List UInt8) (position : CopyPosition) :
    (prvCopyDataToQueue queue item position).uxLength=queue.uxLength ∧
      (prvCopyDataToQueue queue item position).uxItemSize=queue.uxItemSize ∧
      (prvCopyDataToQueue queue item position).xTasksWaitingToSend=queue.xTasksWaitingToSend ∧
      (prvCopyDataToQueue queue item position).xTasksWaitingToReceive=
        queue.xTasksWaitingToReceive ∧
      (prvCopyDataToQueue queue item position).cRxLock=queue.cRxLock ∧
      (prvCopyDataToQueue queue item position).cTxLock=queue.cTxLock := by
  unfold prvCopyDataToQueue
  split
  · exact ⟨rfl,rfl,rfl,rfl,rfl,rfl⟩
  · split <;> exact ⟨rfl,rfl,rfl,rfl,rfl,rfl⟩

/-- Copying an item out of a queue moves its read pointer only. -/
theorem copyFrom_frame (queue : Queue τ) : ∃ pcReadFrom,
    (prvCopyDataFromQueue queue).1={queue with pcReadFrom := pcReadFrom} := by
  unfold prvCopyDataFromQueue
  split
  · exact ⟨_,rfl⟩
  · exact ⟨queue.pcReadFrom,rfl⟩

/-- What is sent to a queue with room is what its list of items then holds. -/
theorem Holds.sent {queue : Queue τ} {items : List (List UInt8)} {item : List UInt8}
    {position : CopyPosition} (h : Holds queue items) (hfits : Fits queue item position)
    (hroom : queue.uxMessagesWaiting<queue.uxLength ∨ position=.overwrite) :
    ∃ items', deque queue.uxLength items (.sent item position)=some items' ∧
      Holds (prvCopyDataToQueue queue item position) items' := by
  obtain ⟨hitem,hoverwrite⟩ := hfits
  have hcount := h.count
  cases position with
  | sendToBack =>
    have hlt := hroom.resolve_right (by decide)
    exact ⟨_,if_pos (hcount▸hlt),h.sendToBack hlt hitem⟩
  | sendToFront =>
    have hlt := hroom.resolve_right (by decide)
    exact ⟨_,if_pos (hcount▸hlt),h.sendToFront hlt hitem⟩
  | overwrite =>
    obtain ⟨hlength,hsize⟩ := hoverwrite rfl
    exact ⟨_,if_pos hlength,h.overwrite hlength hsize hitem⟩

/-- A queue with a message has an item at its head. -/
theorem Holds.exists_cons {queue : Queue τ} {items : List (List UInt8)} (h : Holds queue items)
    (hmessages : 0<queue.uxMessagesWaiting) : ∃ item rest, items=item::rest := by
  cases items with
  | nil => exact absurd h.count (Nat.ne_of_lt hmessages)
  | cons item rest => exact ⟨item,rest,rfl⟩

/-- The critical section of a call does to the list of items what its outcome says. -/
theorem Holds.section {queue queue' : Queue τ} {items : List (List UInt8)} {call : Call}
    {outcome : Outcome} (h : Holds queue items) (hfits : call.Fits queue)
    (hsection : call.section queue=some (queue',outcome)) :
    (∃ items', deque queue.uxLength items outcome=some items' ∧ Holds queue' items') ∧
      queue'.uxLength=queue.uxLength ∧ queue'.uxItemSize=queue.uxItemSize := by
  cases call with
  | genericSend item position wait =>
    obtain ⟨hlength,hsize,-⟩ := copyTo_frame queue item position
    change sendSection queue item position=_ at hsection
    unfold sendSection at hsection
    split at hsection
    next hroom =>
      obtain ⟨rfl,rfl⟩ := Prod.mk.inj (Option.some.inj hsection)
      obtain ⟨items',hdeque,hholds⟩ := h.sent hfits hroom
      exact ⟨⟨items',hdeque,hholds.withLists _ _ _ _⟩,hlength,hsize⟩
    · cases hsection
  | receive wait =>
    change receiveSection queue=_ at hsection
    unfold receiveSection at hsection
    split at hsection
    next hmessages =>
      obtain ⟨rfl,rfl⟩ := Prod.mk.inj (Option.some.inj hsection)
      obtain ⟨item,rest,rfl⟩ := h.exists_cons hmessages
      obtain ⟨hitem,hholds⟩ := h.copyFrom
      obtain ⟨pcReadFrom,hframe⟩ := copyFrom_frame queue
      refine ⟨⟨rest,if_pos (congrArg some hitem.symm),?_⟩,?_,?_⟩
      · exact hholds.withLists _ _ _ _
      · dsimp only
        rw [hframe]
      · dsimp only
        rw [hframe]
    · cases hsection
  | peek wait =>
    change peekSection queue=_ at hsection
    unfold peekSection at hsection
    split at hsection
    next hmessages =>
      obtain ⟨rfl,rfl⟩ := Prod.mk.inj (Option.some.inj hsection)
      obtain ⟨item,rest,rfl⟩ := h.exists_cons hmessages
      obtain ⟨hitem,-⟩ := h.copyFrom
      obtain ⟨pcReadFrom,hframe⟩ := copyFrom_frame queue
      refine ⟨⟨item::rest,if_pos (congrArg some hitem.symm),?_⟩,?_,?_⟩
      · dsimp only
        rw [hframe]
        exact h.withLists _ _ _ _
      · dsimp only
        rw [hframe]
      · dsimp only
        rw [hframe]
    · cases hsection
  | semaphoreTake wait =>
    change takeSection queue=_ at hsection
    unfold takeSection at hsection
    split at hsection
    next hmessages =>
      obtain ⟨rfl,rfl⟩ := Prod.mk.inj (Option.some.inj hsection)
      obtain ⟨item,rest,rfl⟩ := h.exists_cons hmessages
      have hsize : queue.uxItemSize=0 := hfits
      obtain ⟨hitem,hsizes⟩ := List.forall_mem_cons.mp h.sizes
      have hcount := h.count
      have hroom := h.room
      rw [List.length_cons] at hcount hroom
      rw [hsize] at hitem
      refine ⟨⟨rest,if_pos (congrArg some (List.eq_nil_of_length_eq_zero hitem)),?_⟩,rfl,rfl⟩
      exact (h.count_only hsize (show rest.length=queue.uxMessagesWaiting-1 by omega) (by omega)
        fun x hx => (hsizes x hx).trans hsize).withLists _ _ _ _
    · cases hsection

/-- A critical section that fails has found no place or no item. -/
theorem Holds.failure {queue : Queue τ} {items : List (List UInt8)} {call : Call}
    (h : Holds queue items) (hsection : call.section queue=none) :
    deque queue.uxLength items (if call.side=.send then .full else .empty)=some items := by
  have hcount := h.count
  have hroom := h.room
  have hempty : ¬0<queue.uxMessagesWaiting → deque queue.uxLength items .empty=some items :=
    fun hnone => if_pos (List.eq_nil_of_length_eq_zero (by omega))
  cases call with
  | genericSend item position wait =>
    change sendSection queue item position=none at hsection
    unfold sendSection at hsection
    split at hsection
    · cases hsection
    next hfull =>
      have hfull := mt Or.inl hfull
      exact if_pos (by omega)
  | receive wait =>
    change receiveSection queue=none at hsection
    unfold receiveSection at hsection
    split at hsection
    · cases hsection
    next hnone => exact hempty hnone
  | peek wait =>
    change peekSection queue=none at hsection
    unfold peekSection at hsection
    split at hsection
    · cases hsection
    next hnone => exact hempty hnone
  | semaphoreTake wait =>
    change takeSection queue=none at hsection
    unfold takeSection at hsection
    split at hsection
    · cases hsection
    next hnone => exact hempty hnone

/-- What happens to a queue keeps its length and the size of its items, and does to its list of
items what the outcomes say. -/
def Keeps (queue : Queue τ) (items : List (List UInt8)) (queue' : Queue τ)
    (outcomes : List Outcome) : Prop :=
  (∃ items', outcomes.foldlM (deque queue.uxLength) items=some items' ∧ Holds queue' items') ∧
    queue'.uxLength=queue.uxLength ∧ queue'.uxItemSize=queue.uxItemSize

/-- One outcome. -/
theorem Keeps.single {queue queue' : Queue τ} {items items' : List (List UInt8)}
    {outcome : Outcome} (hdeque : deque queue.uxLength items outcome=some items')
    (hholds : Holds queue' items')
    (hframe : queue'.uxLength=queue.uxLength ∧ queue'.uxItemSize=queue.uxItemSize) :
    Keeps queue items queue' [outcome] := by
  refine ⟨⟨items',?_,hholds⟩,hframe⟩
  rw [List.foldlM_cons,hdeque]
  rfl

/-- No outcome. -/
theorem Holds.keeps {queue queue' : Queue τ} {items : List (List UInt8)} (h : Holds queue' items)
    (hframe : queue'.uxLength=queue.uxLength ∧ queue'.uxItemSize=queue.uxItemSize) :
    Keeps queue items queue' [] := ⟨⟨items,rfl,h⟩,hframe⟩

/-- `xQueueGenericSendFromISR` does what its outcome says. -/
theorem Holds.sendFromISR {queue : Queue τ} {items : List (List UInt8)} (h : Holds queue items)
    {item : List UInt8} {position : CopyPosition} (hfits : Fits queue item position)
    (uxNumberOfTasks : ℕ) : Keeps queue items
      (xQueueGenericSendFromISR uxNumberOfTasks queue item position).1
      [(xQueueGenericSendFromISR uxNumberOfTasks queue item position).2] := by
  obtain ⟨hlength,hsize,-⟩ := copyTo_frame queue item position
  unfold xQueueGenericSendFromISR
  split
  next hroom =>
    obtain ⟨items',hdeque,hholds⟩ := h.sent hfits hroom
    dsimp only
    split
    · exact Keeps.single hdeque (hholds.withLists _ _ _ _) ⟨hlength,hsize⟩
    · exact Keeps.single hdeque (hholds.withLists _ _ _ _) ⟨hlength,hsize⟩
  next hfull =>
    have hfull := mt Or.inl hfull
    have hcount := h.count
    have hroom := h.room
    exact Keeps.single (if_pos (by omega)) h ⟨rfl,rfl⟩

/-- `xQueueGiveFromISR` does what its outcome says. -/
theorem Holds.giveFromISR {queue : Queue τ} {items : List (List UInt8)} (h : Holds queue items)
    (hsize : queue.uxItemSize=0) (uxNumberOfTasks : ℕ) : Keeps queue items
      (xQueueGiveFromISR uxNumberOfTasks queue).1
      [(xQueueGiveFromISR uxNumberOfTasks queue).2] := by
  have hcount := h.count
  have hroom := h.room
  unfold xQueueGiveFromISR
  split
  next hlt =>
    have hholds : Holds {queue with uxMessagesWaiting := queue.uxMessagesWaiting+1}
        (items++[[]]) := by
      refine h.count_only hsize ?_ hlt fun x hx => ?_
      · rw [List.length_append,hcount]
        rfl
      · rcases List.mem_append.mp hx with hx|hx
        · exact (h.sizes x hx).trans hsize
        · rw [List.mem_singleton.mp hx]
          rfl
    have hdeque : deque queue.uxLength items (.sent [] .sendToBack)=some (items++[[]]) :=
      if_pos (hcount▸hlt)
    dsimp only
    split
    · exact Keeps.single hdeque (hholds.withLists _ _ _ _) ⟨rfl,rfl⟩
    · exact Keeps.single hdeque (hholds.withLists _ _ _ _) ⟨rfl,rfl⟩
  next hfull => exact Keeps.single (if_pos (by omega)) h ⟨rfl,rfl⟩

/-- `xQueueReceiveFromISR` does what its outcome says. -/
theorem Holds.receiveFromISR {queue : Queue τ} {items : List (List UInt8)} (h : Holds queue items)
    (uxNumberOfTasks : ℕ) : Keeps queue items
      (xQueueReceiveFromISR uxNumberOfTasks queue).1
      [(xQueueReceiveFromISR uxNumberOfTasks queue).2] := by
  have hcount := h.count
  unfold xQueueReceiveFromISR
  split
  next hmessages =>
    obtain ⟨item,rest,rfl⟩ := h.exists_cons hmessages
    obtain ⟨hitem,hholds⟩ := h.copyFrom
    obtain ⟨pcReadFrom,hframe⟩ := copyFrom_frame queue
    have hdeque : deque queue.uxLength (item::rest)
        (.received (prvCopyDataFromQueue queue).2)=some rest := if_pos (congrArg some hitem.symm)
    have hfixed : (prvCopyDataFromQueue queue).1.uxLength=queue.uxLength ∧
        (prvCopyDataFromQueue queue).1.uxItemSize=queue.uxItemSize := by
      rw [hframe]
      exact ⟨rfl,rfl⟩
    dsimp only
    split
    · exact Keeps.single hdeque (hholds.withLists _ _ _ _) hfixed
    · exact Keeps.single hdeque (hholds.withLists _ _ _ _) hfixed
  next hnone =>
    exact Keeps.single (if_pos (List.eq_nil_of_length_eq_zero (by omega))) h ⟨rfl,rfl⟩

/-- What fits does so as long as the queue has its length and the size of its items. -/
theorem Call.Fits.of_eq {queue queue' : Queue τ} {call : Call} (h : call.Fits queue)
    (hframe : queue'.uxLength=queue.uxLength ∧ queue'.uxItemSize=queue.uxItemSize) :
    call.Fits queue' := by
  cases call with
  | genericSend item position wait =>
    change item.length=queue'.uxItemSize ∧
      (position=.overwrite → queue'.uxLength=1 ∧ queue'.uxItemSize≠0)
    rw [hframe.1,hframe.2]
    exact h
  | receive => trivial
  | peek => trivial
  | semaphoreTake => exact hframe.2.trans h

/-- A call whose time is over still fits. -/
theorem Call.Fits.timedOut {queue : Queue τ} {call : Call} (h : call.Fits queue) :
    call.timedOut.Fits queue := by
  cases call <;> exact h

end Storage

section Runs

variable {τ : Type*} [DecidableEq τ]

/-- Every call of a task fits the queue. -/
def AllFit (s : System τ) : Prop :=
  ∀ task call place, s.tasks task=some (call,place) → call.Fits s.queue

/-- A piece of a call does what its outcomes say. -/
theorem Holds.advance {s : System τ} {items : List (List UInt8)} (h : Holds s.queue items)
    (hfit : AllFit s) (xItemValue : τ → ℕ) (task : τ) (expired : Bool) :
    Keeps s.queue items (s.advance xItemValue task expired).1.queue
      (s.advance xItemValue task expired).2 := by
  have hsame : Keeps s.queue items s.queue [] := h.keeps ⟨rfl,rfl⟩
  unfold System.advance
  split
  · exact hsame
  next call htask =>
    split
    next queue outcome hsection =>
      obtain ⟨⟨items',hdeque,hholds⟩,hframe⟩ := h.section (hfit task call _ htask) hsection
      exact Keeps.single hdeque hholds hframe
    next hsection =>
      split
      · exact hsame
      · exact Keeps.single (h.failure hsection) h ⟨rfl,rfl⟩
  · exact hsame
  · exact (h.withLists _ _ _ _).keeps ⟨rfl,rfl⟩
  · split <;> exact hsame
  · exact hsame
  next call htask =>
    refine Holds.keeps ?_ ?_
    · cases call.side <;> exact h.withLists _ _ _ _
    · cases call.side <;> exact ⟨rfl,rfl⟩
  · exact (h.withLists _ _ _ _).keeps ⟨rfl,rfl⟩
  · exact (h.withLists _ _ _ _).keeps ⟨rfl,rfl⟩
  · split
    · exact hsame
    · split
      · exact Keeps.single rfl h ⟨rfl,rfl⟩
      · exact hsame
  next call htask =>
    split
    next hempty =>
      have hcount := h.count
      have hzero : s.queue.uxMessagesWaiting=0 := of_decide_eq_true hempty
      exact Keeps.single (if_pos (List.eq_nil_of_length_eq_zero (by omega))) h ⟨rfl,rfl⟩
    · exact hsame

/-- A task that goes on in a call that fits leaves all calls fitting. -/
theorem fits_of_goto {queue : Queue τ} {tasks : τ → Option (Call×Place)} {task : τ} {call : Call}
    {place : Place} (hfit : ∀ t c p, tasks t=some (c,p) → c.Fits queue) (hcall : call.Fits queue)
    {t : τ} {c : Call} {p : Place}
    (h : Function.update tasks task (some (call,place)) t=some (c,p)) : c.Fits queue := by
  by_cases ht : t=task
  · rw [ht,Function.update_self] at h
    cases h
    exact hcall
  · rw [Function.update_of_ne ht] at h
    exact hfit t c p h

/-- A task that returns leaves all calls fitting. -/
theorem fits_of_return {queue : Queue τ} {tasks : τ → Option (Call×Place)} {task : τ}
    (hfit : ∀ t c p, tasks t=some (c,p) → c.Fits queue) {t : τ} {c : Call} {p : Place}
    (h : Function.update tasks task none t=some (c,p)) : c.Fits queue := by
  by_cases ht : t=task
  · rw [ht,Function.update_self] at h
    cases h
  · rw [Function.update_of_ne ht] at h
    exact hfit t c p h

/-- After any piece of a call, the calls that tasks are in fit the queue that was there before. -/
theorem AllFit.fits_of_advance {s : System τ} (hfit : AllFit s) (xItemValue : τ → ℕ) (task : τ)
    (expired : Bool) {t : τ} {c : Call} {p : Place}
    (h : (s.advance xItemValue task expired).1.tasks t=some (c,p)) : c.Fits s.queue := by
  unfold System.advance at h
  split at h
  · exact hfit t c p h
  next call htask =>
    split at h
    · exact fits_of_return hfit h
    · split at h
      · exact fits_of_goto hfit (hfit task _ _ htask) h
      · exact fits_of_return hfit h
  next call htask => exact fits_of_goto hfit (hfit task _ _ htask) h
  next call htask => exact fits_of_goto hfit (hfit task _ _ htask) h
  next call htask =>
    split at h
    · exact fits_of_goto hfit (hfit task _ _ htask).timedOut h
    · exact fits_of_goto hfit (hfit task _ _ htask) h
  next call htask => exact fits_of_goto hfit (hfit task _ _ htask) h
  next call htask => exact fits_of_goto hfit (hfit task _ _ htask) h
  next call again htask => exact fits_of_goto hfit (hfit task _ _ htask) h
  next call again htask => exact fits_of_goto hfit (hfit task _ _ htask) h
  next call again htask =>
    split at h
    · exact fits_of_goto hfit (hfit task _ _ htask) h
    · split at h
      · exact fits_of_return hfit h
      · exact fits_of_goto hfit (hfit task _ _ htask) h
  next call htask =>
    split at h
    · exact fits_of_return hfit h
    · exact fits_of_goto hfit (hfit task _ _ htask) h

/-- What happens to a system does to the list of items what the outcomes say. -/
theorem Holds.step {s : System τ} {items : List (List UInt8)} (h : Holds s.queue items)
    (hfit : AllFit s) (xItemValue : τ → ℕ) (uxNumberOfTasks : ℕ) {event : Event τ}
    (hadmits : Admits s event) :
    Keeps s.queue items ((queueMachine xItemValue uxNumberOfTasks).step s event).1.queue
      ((queueMachine xItemValue uxNumberOfTasks).step s event).2 := by
  cases event with
  | call task call => exact h.keeps ⟨rfl,rfl⟩
  | advance task expired => exact h.advance hfit xItemValue task expired
  | timeout task => exact (h.withLists _ _ _ _).keeps ⟨rfl,rfl⟩
  | sendFromISR item position => exact h.sendFromISR hadmits uxNumberOfTasks
  | giveFromISR => exact h.giveFromISR hadmits uxNumberOfTasks
  | receiveFromISR => exact h.receiveFromISR uxNumberOfTasks

/-- All calls fit after what happens. -/
theorem AllFit.step {s : System τ} {items : List (List UInt8)} (hfit : AllFit s)
    (h : Holds s.queue items) (xItemValue : τ → ℕ) (uxNumberOfTasks : ℕ) {event : Event τ}
    (hadmits : Admits s event) :
    AllFit ((queueMachine xItemValue uxNumberOfTasks).step s event).1 := by
  have hframe := (h.step hfit xItemValue uxNumberOfTasks hadmits).2
  intro t c p ht
  refine Call.Fits.of_eq ?_ hframe
  cases event with
  | call task call =>
    change Function.update s.tasks task (some (call,.entry)) t=_ at ht
    exact fits_of_goto hfit hadmits.2.2 ht
  | advance task expired => exact hfit.fits_of_advance xItemValue task expired ht
  | timeout task => exact hfit t c p ht
  | sendFromISR item position => exact hfit t c p ht
  | giveFromISR => exact hfit t c p ht
  | receiveFromISR => exact hfit t c p ht

/-- The outcomes of a run are those of a list of items, and the queue holds what is left. -/
theorem run_items (xItemValue : τ → ℕ) (uxNumberOfTasks : ℕ) {s : System τ}
    {items : List (List UInt8)} (h : Holds s.queue items) (hfit : AllFit s)
    {events : List (Event τ)}
    (hadmits : (queueMachine xItemValue uxNumberOfTasks).Guarded Admits s events) :
    Keeps s.queue items ((queueMachine xItemValue uxNumberOfTasks).run s events).queue
      ((queueMachine xItemValue uxNumberOfTasks).trace s events) := by
  induction events generalizing s items with
  | nil => exact h.keeps ⟨rfl,rfl⟩
  | cons event events ih =>
    obtain ⟨⟨middle,hdeque,hholds⟩,hlength,hsize⟩ :=
      h.step hfit xItemValue uxNumberOfTasks hadmits.1
    obtain ⟨⟨last,hrest,hlast⟩,hlength',hsize'⟩ :=
      ih hholds (hfit.step h xItemValue uxNumberOfTasks hadmits.1) hadmits.2
    refine ⟨⟨last,?_,hlast⟩,hlength'.trans hlength,hsize'.trans hsize⟩
    rw [hlength] at hrest
    rw [Machine.trace,List.foldlM_append,hdeque]
    exact hrest

/-- A new queue that no task uses. -/
def newSystem (uxQueueLength uxItemSize : ℕ) (pcHead : ℤ) (storage : ℤ → UInt8) : System τ where
  queue := prvInitialiseNewQueue uxQueueLength uxItemSize pcHead storage
  suspended := none
  tasks _ := none

/-- Whatever tasks and interrupts do, a queue is a list of at most `uxLength` items: what is
received or peeked is the item at its head, items are sent to its back or to its front, a call
that fails for want of a place or an item does so when there is none, and `uxMessagesWaiting`
counts what the list holds. The calls are those that fit: in particular only a queue of one item
that is not empty is overwritten. -/
theorem queue_is_deque (xItemValue : τ → ℕ) (uxNumberOfTasks : ℕ) {uxQueueLength : ℕ}
    (hlength : 0<uxQueueLength) (uxItemSize : ℕ) (pcHead : ℤ) (storage : ℤ → UInt8)
    {events : List (Event τ)} (h : (queueMachine xItemValue uxNumberOfTasks).Guarded Admits
      (newSystem uxQueueLength uxItemSize pcHead storage) events) :
    ∃ items, ((queueMachine xItemValue uxNumberOfTasks).trace
        (newSystem uxQueueLength uxItemSize pcHead storage) events).foldlM (deque uxQueueLength) []=
          some items ∧
      items.length≤uxQueueLength ∧ items.length=((queueMachine xItemValue uxNumberOfTasks).run
        (newSystem uxQueueLength uxItemSize pcHead storage) events).queue.uxMessagesWaiting := by
  obtain ⟨⟨items,hdeque,hholds⟩,hkept,-⟩ := run_items xItemValue uxNumberOfTasks
    (holds_new hlength uxItemSize pcHead storage) (fun _ _ _ h => by cases h) h
  have hroom := hholds.room
  rw [hkept] at hroom
  exact ⟨items,hdeque,hroom,hholds.count⟩

/-- A message that comes after a receiver has seen the queue empty, and before it waits. -/
def lateMessage : List (Event Bool) :=
  [.call true (.receive true),.advance true false,.advance true false,.advance true false,
    .advance true false,.advance true false,.sendFromISR [1,2] .sendToBack,.advance true false,
    .advance true false,.advance true false,.advance true false,.advance true false,
    .call false (.genericSend [3,4] .sendToBack true),.advance false false,
    .call true (.peek false),.advance true false]

/-- The receiver has it, and the next one waits. -/
theorem lateMessage_deque :
    ∃ items, ((queueMachine (fun _ => 0) 2).trace (newSystem 1 2 96 fun _ => 0)
        lateMessage).foldlM (deque 1) []=some items ∧
      items.length≤1 ∧ items.length=((queueMachine (fun _ => 0) 2).run
        (newSystem 1 2 96 fun _ => 0) lateMessage).queue.uxMessagesWaiting :=
  queue_is_deque _ _ (by decide) _ _ _ (by decide)

/-- Items that were sent, in order. -/
def sentItems (outcomes : List Outcome) : List (List UInt8) := outcomes.filterMap fun outcome =>
  match outcome with
  | .sent item _ => some item
  | _ => none

/-- Items that were received, in order. -/
def receivedItems (outcomes : List Outcome) : List (List UInt8) :=
  outcomes.filterMap fun outcome =>
    match outcome with
    | .received item => some item
    | _ => none

/-- Items that are all sent to the back are received in order, and what is left is in the list. -/
theorem received_in_order {length : ℕ} {outcomes : List Outcome} {items items' : List (List UInt8)}
    (h : outcomes.foldlM (deque length) items=some items')
    (hback : ∀ item position, .sent item position∈outcomes → position=.sendToBack) :
    items++sentItems outcomes=receivedItems outcomes++items' := by
  induction outcomes generalizing items with
  | nil =>
    cases h
    exact List.append_nil _
  | cons outcome outcomes ih =>
    rw [List.foldlM_cons] at h
    obtain ⟨middle,hfirst,hrest⟩ := Option.bind_eq_some_iff.mp h
    have hih := ih hrest fun item position hmem => hback item position (List.mem_cons_of_mem _ hmem)
    cases outcome with
    | sent item position =>
      cases hback item position List.mem_cons_self
      obtain ⟨-,hmiddle⟩ := Option.ite_none_right_eq_some.mp hfirst
      cases hmiddle
      rw [List.append_assoc] at hih
      exact hih
    | received item =>
      obtain ⟨hhead,hmiddle⟩ := Option.ite_none_right_eq_some.mp hfirst
      cases hmiddle
      obtain ⟨rest,hitems⟩ := List.head?_eq_some_iff.mp hhead
      rw [hitems,List.tail_cons] at hih
      rw [hitems]
      exact congrArg (item::·) hih
    | peeked item =>
      obtain ⟨-,hmiddle⟩ := Option.ite_none_right_eq_some.mp hfirst
      cases hmiddle
      exact hih
    | full =>
      obtain ⟨-,hmiddle⟩ := Option.ite_none_right_eq_some.mp hfirst
      cases hmiddle
      exact hih
    | empty =>
      obtain ⟨-,hmiddle⟩ := Option.ite_none_right_eq_some.mp hfirst
      cases hmiddle
      exact hih
    | expired =>
      cases hfirst
      exact hih

/-- A queue whose senders all send to the back delivers every message once and in order, to
whatever tasks and interrupts receive: what was sent is what was received and what waits. -/
theorem queue_is_fifo (xItemValue : τ → ℕ) (uxNumberOfTasks : ℕ) {uxQueueLength : ℕ}
    (hlength : 0<uxQueueLength) (uxItemSize : ℕ) (pcHead : ℤ) (storage : ℤ → UInt8)
    {events : List (Event τ)} (h : (queueMachine xItemValue uxNumberOfTasks).Guarded Admits
      (newSystem uxQueueLength uxItemSize pcHead storage) events)
    (hback : ∀ item position, .sent item position∈(queueMachine xItemValue uxNumberOfTasks).trace
      (newSystem uxQueueLength uxItemSize pcHead storage) events → position=.sendToBack) :
    ∃ waiting, sentItems ((queueMachine xItemValue uxNumberOfTasks).trace
        (newSystem uxQueueLength uxItemSize pcHead storage) events)=
      receivedItems ((queueMachine xItemValue uxNumberOfTasks).trace
        (newSystem uxQueueLength uxItemSize pcHead storage) events)++waiting ∧
      waiting.length=((queueMachine xItemValue uxNumberOfTasks).run
        (newSystem uxQueueLength uxItemSize pcHead storage) events).queue.uxMessagesWaiting := by
  obtain ⟨⟨items,hdeque,hholds⟩,-⟩ := run_items xItemValue uxNumberOfTasks
    (holds_new hlength uxItemSize pcHead storage) (fun _ _ _ h => by cases h) h
  exact ⟨items,received_in_order hdeque hback,hholds.count⟩

/-- Two messages through a queue of one. -/
theorem lateMessage_fifo :
    ∃ waiting, sentItems ((queueMachine (fun _ => 0) 2).trace (newSystem 1 2 96 fun _ => 0)
        lateMessage)=
      receivedItems ((queueMachine (fun _ => 0) 2).trace (newSystem 1 2 96 fun _ => 0)
        lateMessage)++waiting ∧
      waiting.length=((queueMachine (fun _ => 0) 2).run (newSystem 1 2 96 fun _ => 0)
        lateMessage).queue.uxMessagesWaiting :=
  queue_is_fifo _ _ (by decide) _ _ _ (by decide) (by
    have htrace : (queueMachine (fun _ => 0) 2).trace (newSystem 1 2 96 fun _ => 0) lateMessage=
        [.sent [1,2] .sendToBack,.received [1,2],.sent [3,4] .sendToBack,.peeked [3,4]] := by
      decide
    intro item position hmem
    rw [htrace] at hmem
    grind)

end Runs

end WebDataLogger.KernelQueue
