import WebDataLogger.StableQueue
import WebDataLogger.TransitionRuns
import WebDataLogger.WrappedTime

/-!
# Delayed tasks of the kernel

FreeRTOS counts ticks in 32 bits and keeps the tasks that wait for a tick in two ordered
lists, one for the wake times of this turn of the counter and one for those of the next.
The lists are exchanged when the counter wraps. Against it stands a clock that never wraps
and keeps its sleepers in the order in which they went to sleep.
-/

namespace WebDataLogger.KernelClock

open TransitionRuns StableQueue WrappedTime

/-- A task that waits for a tick. -/
structure Sleeper (κ τ : Type*) where
  /-- `xItemValue`, the tick at which the wait ends. -/
  wake : κ
  task : τ
  /-- Its `xEventListItem` is on a list as well, so that an event may end the wait. -/
  onEvent : Bool

/-- The task waits for an event. -/
def Sleeper.awaits {κ τ : Type*} [DecidableEq τ] (e : Sleeper κ τ) (task : τ) : Bool :=
  e.task=task && e.onEvent

/-- `portMAX_DELAY`. -/
def portMaxDelay : UInt32 := 0xFFFFFFFF

/-- Variables of the kernel, with the `xLastWakeTime` of every task. -/
structure Kernel (τ : Type*) where
  tickCount : UInt32
  delayed : List (Sleeper UInt32 τ)
  overflowDelayed : List (Sleeper UInt32 τ)
  /-- `xSuspendedTaskList`: the tasks that wait for an event without a limit. -/
  suspended : List τ
  nextTaskUnblockTime : UInt32
  lastWakeTime : τ → UInt32

/-- A call of a task, or for `signal` the event for which it waits. -/
inductive Call (τ : Type*) where
  /-- `xLastWakeTime = xTaskGetTickCount()`. -/
  | getTickCount (task : τ)
  /-- `vTaskDelay`. -/
  | delay (task : τ) (ticksToDelay : UInt32)
  /-- `vTaskDelayUntil` with its `xLastWakeTime`. -/
  | delayUntil (task : τ) (timeIncrement : UInt32)
  /-- `vTaskPlaceOnEventList`. Its callers return at once when the limit is zero. -/
  | placeOnEventList (task : τ) (ticksToWait : UInt32)
  /-- `xTaskRemoveFromEventList`. -/
  | signal (task : τ)

/-- What happens to the kernel. -/
inductive Event (τ : Type*) where
  /-- The interrupt of the system timer. -/
  | tick
  /-- A call, and what came while it had suspended the scheduler: the tasks for which events
  came, and the number of ticks. -/
  | call (c : Call τ) (pendingReady : List τ) (pendedTicks : UInt32)

/-- What can be seen of the kernel. -/
inductive Observation (τ : Type*) where
  /-- A tick was processed, and these tasks were made ready. -/
  | tick (woken : List τ)
  /-- The assertion that the list is empty where the lists are exchanged has failed. -/
  | assertionFailed

section Kernel

variable {τ : Type*}

/-- `vListInsert`. -/
def vListInsert (list : List (Sleeper UInt32 τ)) (item : Sleeper UInt32 τ) :
    List (Sleeper UInt32 τ) :=
  if item.wake=portMaxDelay then list++[item] else enqueue (fun e => e.wake.toNat) item list

/-- `prvAddCurrentTaskToDelayedList`. -/
def addCurrentTaskToDelayedList (s : Kernel τ) (task : τ) (onEvent : Bool) (ticksToWait : UInt32)
    (canBlockIndefinitely : Bool) : Kernel τ :=
  if ticksToWait=portMaxDelay ∧ canBlockIndefinitely=true then
    {s with suspended := s.suspended++[task]}
  else
    let timeToWake := s.tickCount+ticksToWait
    if timeToWake<s.tickCount then
      {s with overflowDelayed := vListInsert s.overflowDelayed ⟨timeToWake,task,onEvent⟩}
    else
      {s with
        delayed := vListInsert s.delayed ⟨timeToWake,task,onEvent⟩
        nextTaskUnblockTime :=
          if timeToWake<s.nextTaskUnblockTime then timeToWake else s.nextTaskUnblockTime}

/-- Whether `xTaskDelayUntil` blocks: both tests of an overflow. -/
def shouldDelay (tickCount previousWakeTime timeToWake : UInt32) : Bool :=
  if tickCount<previousWakeTime then
    timeToWake<previousWakeTime && tickCount<timeToWake
  else timeToWake<previousWakeTime || tickCount<timeToWake

/-- `xTaskDelayUntil`. -/
def taskDelayUntil [DecidableEq τ] (s : Kernel τ) (task : τ) (timeIncrement : UInt32) : Kernel τ :=
  let timeToWake := s.lastWakeTime task+timeIncrement
  let next := {s with lastWakeTime := Function.update s.lastWakeTime task timeToWake}
  if shouldDelay s.tickCount (s.lastWakeTime task) timeToWake=true then
    addCurrentTaskToDelayedList next task false (timeToWake-s.tickCount) false
  else next

/-- `xTaskRemoveFromEventList` for the task at the head of the event list. While the scheduler is
suspended the task leaves the list of its wake time later, in `xTaskResumeAll`. -/
def taskRemoveFromEventList [DecidableEq τ] (s : Kernel τ) (task : τ) : Kernel τ :=
  {s with
    delayed := s.delayed.filter (fun e => !e.awaits task)
    overflowDelayed := s.overflowDelayed.filter (fun e => !e.awaits task)
    suspended := s.suspended.filter (fun t => t≠task)}

/-- A call with the scheduler suspended. -/
def Call.run [DecidableEq τ] (s : Kernel τ) : Call τ → Kernel τ
  | .getTickCount task => {s with lastWakeTime := Function.update s.lastWakeTime task s.tickCount}
  | .delay task ticksToDelay =>
    if 0<ticksToDelay then addCurrentTaskToDelayedList s task false ticksToDelay false else s
  | .delayUntil task timeIncrement => taskDelayUntil s task timeIncrement
  | .placeOnEventList task ticksToWait =>
    if 0<ticksToWait then addCurrentTaskToDelayedList s task true ticksToWait true else s
  | .signal task => taskRemoveFromEventList s task

/-- `prvResetNextTaskUnblockTime`. -/
def nextUnblockTime : List (Sleeper UInt32 τ) → UInt32
  | [] => portMaxDelay
  | e::_ => e.wake

/-- `taskSWITCH_DELAYED_LISTS`. -/
def switchDelayedLists (s : Kernel τ) : Kernel τ×List (Observation τ) :=
  ({s with
      delayed := s.overflowDelayed
      overflowDelayed := s.delayed
      nextTaskUnblockTime := nextUnblockTime s.overflowDelayed},
    match s.delayed with
    | [] => []
    | _ => [.assertionFailed])

/-- The loop of `xTaskIncrementTick` over the delayed tasks: those whose time has come, the
others, and the new `xNextTaskUnblockTime`. -/
def unblockLoop (tickCount : UInt32) :
    List (Sleeper UInt32 τ) → List τ×List (Sleeper UInt32 τ)×UInt32
  | [] => ([],[],portMaxDelay)
  | e::rest =>
    if tickCount<e.wake then ([],e::rest,e.wake)
    else
      let unblocked := unblockLoop tickCount rest
      (e.task::unblocked.1,unblocked.2)

/-- The end of `xTaskIncrementTick`: the test of `xNextTaskUnblockTime`. -/
def unblockTasks (s : Kernel τ) : Kernel τ×List τ :=
  if s.nextTaskUnblockTime ≤ s.tickCount then
    let unblocked := unblockLoop s.tickCount s.delayed
    ({s with delayed := unblocked.2.1, nextTaskUnblockTime := unblocked.2.2},unblocked.1)
  else (s,[])

/-- The start of `xTaskIncrementTick`: the tick is counted, and the lists are exchanged when
the counter wraps. -/
def countTick (s : Kernel τ) : Kernel τ×List (Observation τ) :=
  let counted := {s with tickCount := s.tickCount+1}
  if counted.tickCount=0 then switchDelayedLists counted else (counted,[])

/-- `xTaskIncrementTick`. -/
def taskIncrementTick (s : Kernel τ) : Kernel τ×List (Observation τ) :=
  let counted := countTick s
  let unblocked := unblockTasks counted.1
  (unblocked.1,counted.2++[.tick unblocked.2])

/-- The loop of `xTaskResumeAll` over `xPendingReadyList`, and the reset after it. -/
def readyPending [DecidableEq τ] (s : Kernel τ) (pendingReady : List τ) : Kernel τ :=
  let readied := pendingReady.foldl taskRemoveFromEventList s
  match pendingReady with
  | [] => readied
  | _ => {readied with nextTaskUnblockTime := nextUnblockTime readied.delayed}

/-- The loop of `xTaskResumeAll` over the ticks that came in between. -/
def processPended (s : Kernel τ) : ℕ → Kernel τ×List (Observation τ)
  | 0 => (s,[])
  | pendedTicks+1 =>
    let ticked := taskIncrementTick s
    let processed := processPended ticked.1 pendedTicks
    (processed.1,ticked.2++processed.2)

/-- `xTaskResumeAll`. -/
def resumeAll [DecidableEq τ] (s : Kernel τ) (pendingReady : List τ) (pendedTicks : ℕ) :
    Kernel τ×List (Observation τ) := processPended (readyPending s pendingReady) pendedTicks

/-- The kernel after the start of the scheduler. -/
def kernelBoot : Kernel τ := ⟨0,[],[],[],portMaxDelay,fun _ => 0⟩

/-- The kernel under ticks and calls. -/
def kernel [DecidableEq τ] : Machine (Kernel τ) (Event τ) (Observation τ) where
  step s
    | .tick => taskIncrementTick s
    | .call c pendingReady pendedTicks => resumeAll (c.run s) pendingReady pendedTicks.toNat

/-- A task is on none of the ready lists. -/
def Kernel.Blocked (s : Kernel τ) (task : τ) : Prop :=
  (∃ e∈s.delayed, e.task=task) ∨ (∃ e∈s.overflowDelayed, e.task=task) ∨ task∈s.suspended

end Kernel

section Clock

variable {τ : Type*}

/-- A clock that never wraps. -/
structure Clock (τ : Type*) where
  /-- Ticks so far. -/
  now : ℕ
  /-- The tasks that wait for an instant, in the order in which they began to. -/
  sleepers : List (Sleeper ℕ τ)
  /-- The tasks that wait for an event without a limit. -/
  waiting : List τ
  /-- Start of the current period of every task. -/
  lastWake : τ → ℕ

/-- A task waits for an instant. -/
def Clock.sleep (s : Clock τ) (wake : ℕ) (task : τ) (onEvent : Bool) : Clock τ :=
  {s with sleepers := s.sleepers++[⟨wake,task,onEvent⟩]}

/-- An event ends the wait of a task. -/
def Clock.signal [DecidableEq τ] (s : Clock τ) (task : τ) : Clock τ :=
  {s with
    sleepers := s.sleepers.filter (fun e => !e.awaits task)
    waiting := s.waiting.filter (fun t => t≠task)}

/-- A call. -/
def Clock.call [DecidableEq τ] (s : Clock τ) : Call τ → Clock τ
  | .getTickCount task => {s with lastWake := Function.update s.lastWake task s.now}
  | .delay task ticksToDelay =>
    if 0<ticksToDelay then s.sleep (s.now+ticksToDelay.toNat) task false else s
  | .delayUntil task timeIncrement =>
    let wake := s.lastWake task+timeIncrement.toNat
    let next := {s with lastWake := Function.update s.lastWake task wake}
    if s.now<wake then next.sleep wake task false else next
  | .placeOnEventList task ticksToWait =>
    if ticksToWait=portMaxDelay then {s with waiting := s.waiting++[task]}
    else if 0<ticksToWait then s.sleep (s.now+ticksToWait.toNat) task true else s
  | .signal task => s.signal task

/-- A tick wakes those whose instant has come. -/
def Clock.tick (s : Clock τ) : Clock τ×List (Observation τ) :=
  ({s with now := s.now+1, sleepers := s.sleepers.filter (fun e => e.wake≠s.now+1)},
    [.tick ((s.sleepers.filter (fun e => e.wake=s.now+1)).map Sleeper.task)])

/-- Ticks one after the other. -/
def Clock.ticks (s : Clock τ) : ℕ → Clock τ×List (Observation τ)
  | 0 => (s,[])
  | count+1 =>
    let ticked := s.tick
    let rest := ticked.1.ticks count
    (rest.1,ticked.2++rest.2)

/-- Events and then ticks that came during a call. -/
def Clock.resume [DecidableEq τ] (s : Clock τ) (pendingReady : List τ) (pendedTicks : ℕ) :
    Clock τ×List (Observation τ) := (pendingReady.foldl Clock.signal s).ticks pendedTicks

/-- The clock at the start. -/
def clockBoot : Clock τ := ⟨0,[],[],fun _ => 0⟩

/-- The clock under ticks and calls. -/
def clock [DecidableEq τ] : Machine (Clock τ) (Event τ) (Observation τ) where
  step s
    | .tick => s.tick
    | .call c pendingReady pendedTicks => (s.call c).resume pendingReady pendedTicks.toNat

/-- A task waits. -/
def Clock.Blocked (s : Clock τ) (task : τ) : Prop := (∃ e∈s.sleepers, e.task=task) ∨ task∈s.waiting

/-- A call is made by a task that is not blocked, and `vTaskDelayUntil` less than one turn of
the tick counter after the start of its period. -/
def Clock.Admits (s : Clock τ) : Event τ → Prop
  | .tick => True
  | .call (.getTickCount task) _ _ => ¬s.Blocked task
  | .call (.delay task _) _ _ => ¬s.Blocked task
  | .call (.delayUntil task _) _ _ => ¬s.Blocked task ∧ s.now<s.lastWake task+2^32
  | .call (.placeOnEventList task _) _ _ => ¬s.Blocked task
  | .call (.signal _) _ _ => True

/-- Whether a task waits can be looked up. -/
instance [DecidableEq τ] (s : Clock τ) (task : τ) : Decidable (s.Blocked task) :=
  inferInstanceAs (Decidable ((∃ e∈s.sleepers, e.task=task) ∨ task∈s.waiting))

/-- Whether a call is admitted can be checked. -/
instance [DecidableEq τ] (s : Clock τ) : ∀ e, Decidable (s.Admits e)
  | .tick => inferInstanceAs (Decidable True)
  | .call (.getTickCount task) _ _ => inferInstanceAs (Decidable (¬s.Blocked task))
  | .call (.delay task _) _ _ => inferInstanceAs (Decidable (¬s.Blocked task))
  | .call (.delayUntil task _) _ _ =>
    inferInstanceAs (Decidable (¬s.Blocked task ∧ s.now<s.lastWake task+2^32))
  | .call (.placeOnEventList task _) _ _ => inferInstanceAs (Decidable (¬s.Blocked task))
  | .call (.signal _) _ _ => inferInstanceAs (Decidable True)

end Clock

end WebDataLogger.KernelClock
