import Mathlib.Logic.Function.Basic
import WebDataLogger.SlotRing
import WebDataLogger.StableQueue
import WebDataLogger.TransitionRuns

/-!
# The queues of the kernel

`queue.c` as tasks and interrupts use it at the same time. A call runs in pieces between which
interrupts come, and other tasks as long as the scheduler is not suspended: the critical
section that tries the operation, and for a call that may wait the way into an event list, with
the queue locked. Mailboxes and semaphores are queues, the latter with items of no bytes.
Mutexes and their priority inheritance are not part of the model.
-/

namespace WebDataLogger.KernelQueue

open SlotRing StableQueue TransitionRuns

/-- `xCopyPosition`. -/
inductive CopyPosition where
  | sendToBack
  | sendToFront
  | overwrite
  deriving DecidableEq

/-- `Queue_t`, with its storage area as memory and its event lists as lists of tasks. -/
structure Queue (τ : Type*) where
  pcHead : ℤ
  pcWriteTo : ℤ
  pcTail : ℤ
  pcReadFrom : ℤ
  storage : ℤ → UInt8
  xTasksWaitingToSend : List τ
  xTasksWaitingToReceive : List τ
  uxMessagesWaiting : ℕ
  uxLength : ℕ
  uxItemSize : ℕ
  cRxLock : ℤ
  cTxLock : ℤ

/-- `queueUNLOCKED`. -/
def queueUnlocked : ℤ := -1

/-- `queueLOCKED_UNMODIFIED`. -/
def queueLockedUnmodified : ℤ := 0

section Functions

variable {τ : Type*}

/-- `prvInitialiseNewQueue`, and `xQueueGenericReset` for a new queue. -/
def prvInitialiseNewQueue (uxQueueLength uxItemSize : ℕ) (pcHead : ℤ) (storage : ℤ → UInt8) :
    Queue τ where
  pcHead := pcHead
  pcWriteTo := pcHead
  pcTail := pcHead+(uxQueueLength*uxItemSize : ℕ)
  pcReadFrom := pcHead+((uxQueueLength-1)*uxItemSize : ℕ)
  storage := storage
  xTasksWaitingToSend := []
  xTasksWaitingToReceive := []
  uxMessagesWaiting := 0
  uxLength := uxQueueLength
  uxItemSize := uxItemSize
  cRxLock := queueUnlocked
  cTxLock := queueUnlocked

/-- `prvCopyDataToQueue`. -/
def prvCopyDataToQueue (queue : Queue τ) (item : List UInt8) (position : CopyPosition) : Queue τ :=
  if queue.uxItemSize=0 then {queue with uxMessagesWaiting := queue.uxMessagesWaiting+1}
  else if position=.sendToBack then
    let pcWriteTo := queue.pcWriteTo+queue.uxItemSize
    {queue with
      storage := memcpy queue.storage queue.pcWriteTo item
      pcWriteTo := if queue.pcTail≤pcWriteTo then queue.pcHead else pcWriteTo
      uxMessagesWaiting := queue.uxMessagesWaiting+1}
  else
    let pcReadFrom := queue.pcReadFrom-queue.uxItemSize
    let uxMessagesWaiting :=
      if position=.overwrite ∧ 0<queue.uxMessagesWaiting then queue.uxMessagesWaiting-1
      else queue.uxMessagesWaiting
    {queue with
      storage := memcpy queue.storage queue.pcReadFrom item
      pcReadFrom := if pcReadFrom<queue.pcHead then queue.pcTail-queue.uxItemSize else pcReadFrom
      uxMessagesWaiting := uxMessagesWaiting+1}

/-- `prvCopyDataFromQueue`, with the bytes that it copies. -/
def prvCopyDataFromQueue (queue : Queue τ) : Queue τ×List UInt8 :=
  if queue.uxItemSize≠0 then
    let pcReadFrom := queue.pcReadFrom+queue.uxItemSize
    let pcReadFrom := if queue.pcTail≤pcReadFrom then queue.pcHead else pcReadFrom
    ({queue with pcReadFrom := pcReadFrom},bytesAt queue.storage pcReadFrom queue.uxItemSize)
  else (queue,[])

/-- `xTaskRemoveFromEventList`, for a list that may be empty. -/
def xTaskRemoveFromEventList (list : List τ) : List τ := list.tail

/-- `prvLockQueue`. -/
def prvLockQueue (queue : Queue τ) : Queue τ :=
  {queue with
    cRxLock := if queue.cRxLock=queueUnlocked then queueLockedUnmodified else queue.cRxLock
    cTxLock := if queue.cTxLock=queueUnlocked then queueLockedUnmodified else queue.cTxLock}

/-- `prvIncrementQueueTxLock` and `prvIncrementQueueRxLock`. -/
def incrementLock (uxNumberOfTasks : ℕ) (lock : ℤ) : ℤ :=
  if lock<uxNumberOfTasks then lock+1 else lock

/-- The loops of `prvUnlockQueue`, which wake a task for each count of the lock. -/
def unlockLoop : ℕ → List τ → List τ
  | 0,list => list
  | _+1,[] => []
  | lock+1,list => unlockLoop lock (xTaskRemoveFromEventList list)

/-- The first critical section of `prvUnlockQueue`. -/
def unlockTx (queue : Queue τ) : Queue τ :=
  {queue with
    xTasksWaitingToReceive := unlockLoop queue.cTxLock.toNat queue.xTasksWaitingToReceive
    cTxLock := queueUnlocked}

/-- The second critical section of `prvUnlockQueue`. -/
def unlockRx (queue : Queue τ) : Queue τ :=
  {queue with
    xTasksWaitingToSend := unlockLoop queue.cRxLock.toNat queue.xTasksWaitingToSend
    cRxLock := queueUnlocked}

/-- `prvIsQueueEmpty`. -/
def prvIsQueueEmpty (queue : Queue τ) : Bool := queue.uxMessagesWaiting=0

/-- `prvIsQueueFull`. -/
def prvIsQueueFull (queue : Queue τ) : Bool := queue.uxMessagesWaiting=queue.uxLength

/-- What a call does to the items, or why it failed. -/
inductive Outcome where
  | sent (item : List UInt8) (position : CopyPosition)
  | received (item : List UInt8)
  | peeked (item : List UInt8)
  /-- `errQUEUE_FULL` of a call that found no place and does not wait. -/
  | full
  /-- `errQUEUE_EMPTY`. -/
  | empty
  /-- `errQUEUE_FULL` of a call whose time is over. -/
  | expired
  deriving DecidableEq

/-- The critical section of `xQueueGenericSend`. -/
def sendSection (queue : Queue τ) (item : List UInt8) (position : CopyPosition) :
    Option (Queue τ×Outcome) :=
  if queue.uxMessagesWaiting<queue.uxLength ∨ position=.overwrite then
    let queue := prvCopyDataToQueue queue item position
    some ({queue with
      xTasksWaitingToReceive := xTaskRemoveFromEventList queue.xTasksWaitingToReceive},
      .sent item position)
  else none

/-- The critical section of `xQueueReceive`. -/
def receiveSection (queue : Queue τ) : Option (Queue τ×Outcome) :=
  if 0<queue.uxMessagesWaiting then
    let copied := prvCopyDataFromQueue queue
    some ({copied.1 with
      uxMessagesWaiting := queue.uxMessagesWaiting-1
      xTasksWaitingToSend := xTaskRemoveFromEventList queue.xTasksWaitingToSend},
      .received copied.2)
  else none

/-- The critical section of `xQueuePeek`, which puts back the read pointer. -/
def peekSection (queue : Queue τ) : Option (Queue τ×Outcome) :=
  if 0<queue.uxMessagesWaiting then
    let pcOriginalReadPosition := queue.pcReadFrom
    let copied := prvCopyDataFromQueue queue
    some ({copied.1 with
      pcReadFrom := pcOriginalReadPosition
      xTasksWaitingToReceive := xTaskRemoveFromEventList queue.xTasksWaitingToReceive},
      .peeked copied.2)
  else none

/-- The critical section of `xQueueSemaphoreTake`. -/
def takeSection (queue : Queue τ) : Option (Queue τ×Outcome) :=
  if 0<queue.uxMessagesWaiting then
    some ({queue with
      uxMessagesWaiting := queue.uxMessagesWaiting-1
      xTasksWaitingToSend := xTaskRemoveFromEventList queue.xTasksWaitingToSend},.received [])
  else none

/-- `xQueueGenericSendFromISR`. -/
def xQueueGenericSendFromISR (uxNumberOfTasks : ℕ) (queue : Queue τ) (item : List UInt8)
    (position : CopyPosition) : Queue τ×Outcome :=
  if queue.uxMessagesWaiting<queue.uxLength ∨ position=.overwrite then
    let cTxLock := queue.cTxLock
    let queue := prvCopyDataToQueue queue item position
    if cTxLock=queueUnlocked then
      ({queue with
        xTasksWaitingToReceive := xTaskRemoveFromEventList queue.xTasksWaitingToReceive},
        .sent item position)
    else ({queue with cTxLock := incrementLock uxNumberOfTasks cTxLock},.sent item position)
  else (queue,.full)

/-- `xQueueGiveFromISR`. -/
def xQueueGiveFromISR (uxNumberOfTasks : ℕ) (queue : Queue τ) : Queue τ×Outcome :=
  if queue.uxMessagesWaiting<queue.uxLength then
    let cTxLock := queue.cTxLock
    let queue := {queue with uxMessagesWaiting := queue.uxMessagesWaiting+1}
    if cTxLock=queueUnlocked then
      ({queue with
        xTasksWaitingToReceive := xTaskRemoveFromEventList queue.xTasksWaitingToReceive},
        .sent [] .sendToBack)
    else ({queue with cTxLock := incrementLock uxNumberOfTasks cTxLock},.sent [] .sendToBack)
  else (queue,.full)

/-- `xQueueReceiveFromISR`. -/
def xQueueReceiveFromISR (uxNumberOfTasks : ℕ) (queue : Queue τ) : Queue τ×Outcome :=
  if 0<queue.uxMessagesWaiting then
    let cRxLock := queue.cRxLock
    let copied := prvCopyDataFromQueue queue
    let received := {copied.1 with uxMessagesWaiting := queue.uxMessagesWaiting-1}
    if cRxLock=queueUnlocked then
      ({received with
        xTasksWaitingToSend := xTaskRemoveFromEventList queue.xTasksWaitingToSend},
        .received copied.2)
    else ({received with cRxLock := incrementLock uxNumberOfTasks cRxLock},.received copied.2)
  else (queue,.empty)

end Functions

/-- A call of a task, and whether it may wait: `xTicksToWait` is not zero. -/
inductive Call where
  | genericSend (item : List UInt8) (position : CopyPosition) (wait : Bool)
  | receive (wait : Bool)
  | peek (wait : Bool)
  | semaphoreTake (wait : Bool)
  deriving DecidableEq

/-- What a call needs: a free place or a message. -/
inductive Side where
  | send
  | receive
  deriving DecidableEq

/-- Where a task is inside the loop of its call. -/
inductive Place where
  /-- Before the critical section. -/
  | entry
  /-- The section failed, and the call may wait. -/
  | failed
  /-- After `vTaskSuspendAll`. -/
  | suspended
  /-- After `prvLockQueue`. -/
  | locked
  /-- `xTaskCheckForTimeOut` says that there is time left. -/
  | inTime
  /-- `prvIsQueueEmpty` or `prvIsQueueFull` says that there is still nothing to do. -/
  | blocking
  /-- Before `prvUnlockQueue`, and whether the loop goes on after it. -/
  | unlocking (again : Bool)
  /-- Between its two critical sections. -/
  | halfUnlocked (again : Bool)
  /-- Before `xTaskResumeAll`. -/
  | resuming (again : Bool)
  /-- Before the last `prvIsQueueEmpty` of a receiver whose time is over. -/
  | rechecking
  deriving DecidableEq

/-- The side on which a call waits. -/
def Call.side : Call → Side
  | .genericSend _ _ _ => .send
  | _ => .receive

/-- `xTicksToWait` is not zero. -/
def Call.wait : Call → Bool
  | .genericSend _ _ wait => wait
  | .receive wait => wait
  | .peek wait => wait
  | .semaphoreTake wait => wait

/-- A call whose time is over: `xTaskCheckForTimeOut` has set `xTicksToWait` to zero. -/
def Call.timedOut : Call → Call
  | .genericSend item position _ => .genericSend item position false
  | .receive _ => .receive false
  | .peek _ => .peek false
  | .semaphoreTake _ => .semaphoreTake false

/-- The critical section at the start of the loop. -/
def Call.section {τ : Type*} (call : Call) (queue : Queue τ) : Option (Queue τ×Outcome) :=
  match call with
  | .genericSend item position _ => sendSection queue item position
  | .receive _ => receiveSection queue
  | .peek _ => peekSection queue
  | .semaphoreTake _ => takeSection queue

/-- A queue, the task that has suspended the scheduler, and the calls that tasks are in. -/
structure System (τ : Type*) where
  queue : Queue τ
  suspended : Option τ
  tasks : τ → Option (Call×Place)

/-- What happens to a queue. -/
inductive Event (τ : Type*) where
  | call (task : τ) (call : Call)
  /-- The next piece of a call, and what `xTaskCheckForTimeOut` says if that is it. -/
  | advance (task : τ) (expired : Bool)
  /-- The tick that ends the wait of a task. -/
  | timeout (task : τ)
  | sendFromISR (item : List UInt8) (position : CopyPosition)
  | giveFromISR
  | receiveFromISR
  deriving DecidableEq

section Steps

variable {τ : Type*} [DecidableEq τ]

/-- A task goes on to a place. -/
def System.goto (s : System τ) (task : τ) (call : Call) (place : Place) : System τ :=
  {s with tasks := Function.update s.tasks task (some (call,place))}

/-- A task returns from its call. -/
def System.return (s : System τ) (task : τ) : System τ :=
  {s with tasks := Function.update s.tasks task none}

/-- `vTaskPlaceOnEventList`: the list is ordered by `configMAX_PRIORITIES` less the priority. -/
def vTaskPlaceOnEventList (xItemValue : τ → ℕ) (queue : Queue τ) (side : Side) (task : τ) :
    Queue τ :=
  match side with
  | .send =>
    {queue with xTasksWaitingToSend := enqueue xItemValue task queue.xTasksWaitingToSend}
  | .receive =>
    {queue with xTasksWaitingToReceive := enqueue xItemValue task queue.xTasksWaitingToReceive}

/-- `prvIsQueueFull` or `prvIsQueueEmpty`, whichever the call asks. -/
def Side.blocked (side : Side) (queue : Queue τ) : Bool :=
  match side with
  | .send => prvIsQueueFull queue
  | .receive => prvIsQueueEmpty queue

/-- The next piece of a call. -/
def System.advance (xItemValue : τ → ℕ) (s : System τ) (task : τ) (expired : Bool) :
    System τ×List Outcome :=
  match s.tasks task with
  | none => (s,[])
  | some (call,.entry) =>
    match call.section s.queue with
    | some (queue,outcome) => ({s with queue := queue}.return task,[outcome])
    | none =>
      if call.wait=true then (s.goto task call .failed,[])
      else (s.return task,[if call.side=.send then .full else .empty])
  | some (call,.failed) => ({s with suspended := some task}.goto task call .suspended,[])
  | some (call,.suspended) => ({s with queue := prvLockQueue s.queue}.goto task call .locked,[])
  | some (call,.locked) =>
    if expired=true then (s.goto task call.timedOut (.unlocking false),[])
    else (s.goto task call .inTime,[])
  | some (call,.inTime) =>
    (s.goto task call (if call.side.blocked s.queue=true then .blocking else .unlocking true),[])
  | some (call,.blocking) =>
    ({s with queue := vTaskPlaceOnEventList xItemValue s.queue call.side task}.goto task call
      (.unlocking true),[])
  | some (call,.unlocking again) =>
    ({s with queue := unlockTx s.queue}.goto task call (.halfUnlocked again),[])
  | some (call,.halfUnlocked again) =>
    ({s with queue := unlockRx s.queue}.goto task call (.resuming again),[])
  | some (call,.resuming again) =>
    if again=true then ({s with suspended := none}.goto task call .entry,[])
    else if call.side=.send then ({s with suspended := none}.return task,[.expired])
    else ({s with suspended := none}.goto task call .rechecking,[])
  | some (call,.rechecking) =>
    if prvIsQueueEmpty s.queue=true then (s.return task,[.empty])
    else (s.goto task call .entry,[])

/-- The tick that ends the wait of a task takes it out of the event list. -/
def removeWaiting (queue : Queue τ) (task : τ) : Queue τ :=
  {queue with
    xTasksWaitingToSend := queue.xTasksWaitingToSend.erase task
    xTasksWaitingToReceive := queue.xTasksWaitingToReceive.erase task}

/-- A queue among tasks and interrupts, with the outcomes of all calls. -/
def queueMachine (xItemValue : τ → ℕ) (uxNumberOfTasks : ℕ) :
    Machine (System τ) (Event τ) Outcome where
  step s
    | .call task call => (s.goto task call .entry,[])
    | .advance task expired => s.advance xItemValue task expired
    | .timeout task => ({s with queue := removeWaiting s.queue task},[])
    | .sendFromISR item position =>
      let done := xQueueGenericSendFromISR uxNumberOfTasks s.queue item position
      ({s with queue := done.1},[done.2])
    | .giveFromISR =>
      let done := xQueueGiveFromISR uxNumberOfTasks s.queue
      ({s with queue := done.1},[done.2])
    | .receiveFromISR =>
      let done := xQueueReceiveFromISR uxNumberOfTasks s.queue
      ({s with queue := done.1},[done.2])

/-- An item for the queue. Only a queue of one message is overwritten. The assertions also let a
queue of empty items be overwritten, which then counts one message more than it has places: this
is excluded. -/
def Fits (queue : Queue τ) (item : List UInt8) (position : CopyPosition) : Prop :=
  item.length=queue.uxItemSize ∧
    (position=.overwrite → queue.uxLength=1 ∧ queue.uxItemSize≠0)

/-- A call that its assertions let pass, and that overwrites no queue of empty items. -/
def Call.Fits (queue : Queue τ) : Call → Prop
  | .genericSend item position _ => KernelQueue.Fits queue item position
  | .semaphoreTake _ => queue.uxItemSize=0
  | _ => True

/-- Tasks run unless they wait or another one has suspended the scheduler, ticks are held back
while it is suspended, and interrupts come at any time. -/
def Admits (s : System τ) : Event τ → Prop
  | .call task call => s.tasks task=none ∧ s.suspended=none ∧ call.Fits s.queue
  | .advance task _ => s.suspended=some task ∨ s.suspended=none ∧
    task∉s.queue.xTasksWaitingToSend ∧ task∉s.queue.xTasksWaitingToReceive
  | .timeout _ => s.suspended=none
  | .sendFromISR item position => Fits s.queue item position
  | .giveFromISR => s.queue.uxItemSize=0
  | .receiveFromISR => True

instance (queue : Queue τ) (item : List UInt8) (position : CopyPosition) :
    Decidable (Fits queue item position) :=
  inferInstanceAs (Decidable (_ ∧ _))

instance callFitsDecidable (queue : Queue τ) (call : Call) : Decidable (call.Fits queue) :=
  match call with
  | .genericSend _ _ _ => inferInstanceAs (Decidable (Fits _ _ _))
  | .semaphoreTake _ => inferInstanceAs (Decidable (_=0))
  | .receive _ => isTrue trivial
  | .peek _ => isTrue trivial

/-- What may happen can be checked. -/
instance admitsDecidable (s : System τ) (event : Event τ) : Decidable (Admits s event) :=
  match event with
  | .call _ _ => inferInstanceAs (Decidable (_ ∧ _))
  | .advance _ _ => inferInstanceAs (Decidable (_ ∨ _))
  | .timeout _ => inferInstanceAs (Decidable (_=none))
  | .sendFromISR _ _ => inferInstanceAs (Decidable (Fits _ _ _))
  | .giveFromISR => inferInstanceAs (Decidable (_=0))
  | .receiveFromISR => isTrue trivial

end Steps

end WebDataLogger.KernelQueue
