import WebDataLogger.CountedWakeups
import WebDataLogger.KernelQueueItems

/-!
# Wakeups of a queue

A task that finds nothing to do locks the queue, looks again and puts itself into an event
list. Interrupts that come meanwhile only count, and unlocking wakes a task for each count. No
order of these pieces loses a wakeup: when the scheduler runs, each message that is there while
receivers wait has a receiver that was woken for it, and so for free places and senders.
-/

namespace WebDataLogger.KernelQueue

open SlotRing StableQueue CountedWakeups TransitionRuns

/-- The other side of a queue. -/
def Side.other : Side → Side
  | .send => .receive
  | .receive => .send

theorem Side.other_ne (side : Side) : side.other≠side := by
  cases side <;> decide

theorem Side.eq_of_ne_other {side' : Side} (side : Side) (h : side'≠side.other) : side'=side := by
  cases side <;> cases side' <;> first | rfl | exact absurd rfl h

/-- What tasks on a side wait for: free places or messages. -/
def Side.amount {τ : Type*} (side : Side) (queue : Queue τ) : ℕ :=
  match side with
  | .send => queue.uxLength-queue.uxMessagesWaiting
  | .receive => queue.uxMessagesWaiting

/-- The event list of a side. -/
def Side.waiting {τ : Type*} (side : Side) (queue : Queue τ) : List τ :=
  match side with
  | .send => queue.xTasksWaitingToSend
  | .receive => queue.xTasksWaitingToReceive

/-- The lock that counts what comes for a side. -/
def Side.lock {τ : Type*} (side : Side) (queue : Queue τ) : ℤ :=
  match side with
  | .send => queue.cRxLock
  | .receive => queue.cTxLock

/-- Places at which the scheduler is suspended. -/
def Place.inside : Place → Bool
  | .suspended => true
  | .locked => true
  | .inTime => true
  | .blocking => true
  | .unlocking _ => true
  | .halfUnlocked _ => true
  | .resuming _ => true
  | _ => false

/-- Places at which the queue is locked. -/
def Place.locks (side : Side) : Place → Bool
  | .locked => true
  | .inTime => true
  | .blocking => true
  | .unlocking _ => true
  | .halfUnlocked _ => side=.send
  | _ => false

/-- Places from which a task comes to the critical section. -/
def Place.again : Place → Bool
  | .entry => true
  | .unlocking again => again
  | .halfUnlocked again => again
  | .resuming again => again
  | _ => false

/-- A task has suspended the scheduler. -/
def inside (activity : Option (Call×Place)) : Bool := activity.any fun a => a.2.inside

/-- A task has locked the queue. -/
def holds (side : Side) (activity : Option (Call×Place)) : Bool :=
  activity.any fun a => a.2.locks side

/-- A task on a side is going to come to the critical section. -/
def looks (side : Side) (activity : Option (Call×Place)) : Bool :=
  activity.any fun a => a.1.side=side && a.2.again

section Units

variable {τ : Type*}

/-- What an operation does to the two sides of a queue that is not locked: a unit comes for one
side and wakes a task. -/
structure Given (side : Side) (queue queue' : Queue τ) : Prop where
  amount : side.amount queue' ≤ side.amount queue+1
  waiting : side.waiting queue'=(side.waiting queue).tail
  other : ∀ side'≠side, side'.waiting queue'=side'.waiting queue
  lock : ∀ side' : Side, side'.lock queue'=side'.lock queue

/-- Messages after an item was copied to a queue. -/
theorem copyTo_count {queue : Queue τ} {item : List UInt8} {position : CopyPosition}
    (hfits : Fits queue item position) (hroom : queue.uxMessagesWaiting≤queue.uxLength) :
    (prvCopyDataToQueue queue item position).uxMessagesWaiting=queue.uxMessagesWaiting+1 ∨
      (prvCopyDataToQueue queue item position).uxMessagesWaiting=queue.uxMessagesWaiting ∧
        queue.uxMessagesWaiting=queue.uxLength := by
  unfold prvCopyDataToQueue
  split
  · exact Or.inl rfl
  · split
    · exact Or.inl rfl
    · dsimp only
      split
      next hover =>
        have hlength := (hfits.2 hover.1).1
        omega
      · exact Or.inl rfl

/-- A message taken: the first task that waits to send is woken. -/
theorem given_of_take {queue : Queue τ} {pcReadFrom : ℤ}
    (hmessages : 0<queue.uxMessagesWaiting) :
    Given .send queue {queue with
        pcReadFrom := pcReadFrom
        uxMessagesWaiting := queue.uxMessagesWaiting-1
        xTasksWaitingToSend := xTaskRemoveFromEventList queue.xTasksWaitingToSend} ∧
      queue.uxMessagesWaiting-1≤queue.uxMessagesWaiting-1 := by
  refine ⟨⟨?_,rfl,fun side hne => ?_,fun side => ?_⟩,le_rfl⟩
  · change queue.uxLength-(queue.uxMessagesWaiting-1)≤queue.uxLength-queue.uxMessagesWaiting+1
    omega
  · cases Side.eq_of_ne_other .receive hne
    rfl
  · cases side <;> rfl

/-- A critical section that succeeds takes a unit of its side and gives one to the other side.
`xQueuePeek` takes nothing, and wakes the next task of its own side. -/
theorem section_given {queue queue' : Queue τ} {call : Call} {outcome : Outcome}
    (hfits : call.Fits queue) (hroom : queue.uxMessagesWaiting≤queue.uxLength)
    (hsection : call.section queue=some (queue',outcome)) :
    (Given call.side.other queue queue' ∧
        call.side.amount queue'≤call.side.amount queue-1) ∨
      (Given call.side queue queue' ∧ ∀ side : Side, side.amount queue'=side.amount queue) := by
  cases call with
  | genericSend item position wait =>
    obtain ⟨hlength,-,hsend,hreceive,hrx,htx⟩ := copyTo_frame queue item position
    have hcount := copyTo_count hfits hroom
    change sendSection queue item position=_ at hsection
    unfold sendSection at hsection
    split at hsection
    next hplace =>
      obtain ⟨rfl,-⟩ := Prod.mk.inj (Option.some.inj hsection)
      refine Or.inl ⟨⟨?_,?_,fun side hne => ?_,fun side => ?_⟩,?_⟩
      · change (prvCopyDataToQueue queue item position).uxMessagesWaiting≤
          queue.uxMessagesWaiting+1
        omega
      · exact congrArg List.tail hreceive
      · cases Side.eq_of_ne_other .send hne
        exact hsend
      · cases side with
        | send => exact hrx
        | receive => exact htx
      · change (prvCopyDataToQueue queue item position).uxLength-
          (prvCopyDataToQueue queue item position).uxMessagesWaiting≤
            queue.uxLength-queue.uxMessagesWaiting-1
        rw [hlength]
        omega
    · cases hsection
  | receive wait =>
    obtain ⟨pcReadFrom,hframe⟩ := copyFrom_frame queue
    change receiveSection queue=_ at hsection
    unfold receiveSection at hsection
    split at hsection
    next hmessages =>
      obtain ⟨rfl,-⟩ := Prod.mk.inj (Option.some.inj hsection)
      dsimp only
      rw [hframe]
      exact Or.inl (given_of_take hmessages)
    · cases hsection
  | peek wait =>
    obtain ⟨pcReadFrom,hframe⟩ := copyFrom_frame queue
    change peekSection queue=_ at hsection
    unfold peekSection at hsection
    split at hsection
    next hmessages =>
      obtain ⟨rfl,-⟩ := Prod.mk.inj (Option.some.inj hsection)
      dsimp only
      rw [hframe]
      refine Or.inr ⟨⟨Nat.le_succ _,rfl,fun side hne => ?_,fun side => ?_⟩,fun side => ?_⟩
      · cases Side.eq_of_ne_other .send hne
        rfl
      · cases side <;> rfl
      · cases side <;> rfl
    · cases hsection
  | semaphoreTake wait =>
    change takeSection queue=_ at hsection
    unfold takeSection at hsection
    split at hsection
    next hmessages =>
      obtain ⟨rfl,-⟩ := Prod.mk.inj (Option.some.inj hsection)
      exact Or.inl (@given_of_take τ queue queue.pcReadFrom hmessages)
    · cases hsection

/-- What an interrupt does to a queue when it gives a unit to a side: it wakes a task of the side,
or counts in the lock. -/
structure Interrupted (uxNumberOfTasks : ℕ) (side : Side) (queue queue' : Queue τ) : Prop where
  amount : side.amount queue' ≤ side.amount queue+1
  other : ∀ side'≠side, side'.waiting queue'=side'.waiting queue ∧
    side'.lock queue'=side'.lock queue ∧ side'.amount queue' ≤ side'.amount queue
  self : side.lock queue=queueUnlocked ∧ side.lock queue'=queueUnlocked ∧
      side.waiting queue'=(side.waiting queue).tail ∨
    side.lock queue≠queueUnlocked ∧
      side.lock queue'=incrementLock uxNumberOfTasks (side.lock queue) ∧
      side.waiting queue'=side.waiting queue

/-- An interrupt that has given a message wakes a receiver, or counts for it. -/
theorem interrupted_receive {queue given : Queue τ}
    (hcount : queue.uxMessagesWaiting≤given.uxMessagesWaiting ∧
      given.uxMessagesWaiting≤queue.uxMessagesWaiting+1)
    (hlength : given.uxLength=queue.uxLength)
    (hsend : given.xTasksWaitingToSend=queue.xTasksWaitingToSend)
    (hreceive : given.xTasksWaitingToReceive=queue.xTasksWaitingToReceive)
    (hrx : given.cRxLock=queue.cRxLock) (htx : given.cTxLock=queue.cTxLock)
    (uxNumberOfTasks : ℕ) :
    (queue.cTxLock=queueUnlocked → Interrupted uxNumberOfTasks .receive queue {given with
        xTasksWaitingToReceive := xTaskRemoveFromEventList given.xTasksWaitingToReceive}) ∧
      (queue.cTxLock≠queueUnlocked → Interrupted uxNumberOfTasks .receive queue {given with
        cTxLock := incrementLock uxNumberOfTasks queue.cTxLock}) := by
  have hspaces : given.uxLength-given.uxMessagesWaiting≤
      queue.uxLength-queue.uxMessagesWaiting := by
    rw [hlength]
    omega
  refine ⟨fun hfree => ⟨hcount.2,fun side hne => ?_,Or.inl ⟨hfree,htx.trans hfree,?_⟩⟩,
    fun hlocked => ⟨hcount.2,fun side hne => ?_,Or.inr ⟨hlocked,rfl,hreceive⟩⟩⟩
  · cases Side.eq_of_ne_other .send hne
    exact ⟨hsend,hrx,hspaces⟩
  · exact congrArg List.tail hreceive
  · cases Side.eq_of_ne_other .send hne
    exact ⟨hsend,hrx,hspaces⟩

/-- `xQueueGenericSendFromISR` gives a message. -/
theorem sendFromISR_interrupted {queue : Queue τ} {item : List UInt8} {position : CopyPosition}
    (hfits : Fits queue item position) (hroom : queue.uxMessagesWaiting≤queue.uxLength)
    (uxNumberOfTasks : ℕ) :
    (xQueueGenericSendFromISR uxNumberOfTasks queue item position).1=queue ∨
      Interrupted uxNumberOfTasks .receive queue
        (xQueueGenericSendFromISR uxNumberOfTasks queue item position).1 := by
  obtain ⟨hlength,-,hsend,hreceive,hrx,htx⟩ := copyTo_frame queue item position
  have hcount := copyTo_count hfits hroom
  obtain ⟨hfree,hlocked⟩ := interrupted_receive (by omega) hlength hsend hreceive hrx htx
    uxNumberOfTasks
  unfold xQueueGenericSendFromISR
  split
  · right
    dsimp only
    split
    next h => exact hfree h
    next h => exact hlocked h
  · exact Or.inl rfl

/-- `xQueueGiveFromISR` gives a message. -/
theorem giveFromISR_interrupted (queue : Queue τ) (uxNumberOfTasks : ℕ) :
    (xQueueGiveFromISR uxNumberOfTasks queue).1=queue ∨ Interrupted uxNumberOfTasks .receive queue
      (xQueueGiveFromISR uxNumberOfTasks queue).1 := by
  obtain ⟨hfree,hlocked⟩ := @interrupted_receive τ queue
    {queue with uxMessagesWaiting := queue.uxMessagesWaiting+1} ⟨Nat.le_succ _,le_rfl⟩ rfl rfl rfl
    rfl rfl uxNumberOfTasks
  unfold xQueueGiveFromISR
  split
  · right
    dsimp only
    split
    next h => exact hfree h
    next h => exact hlocked h
  · exact Or.inl rfl

/-- `xQueueReceiveFromISR` gives a free place. -/
theorem receiveFromISR_interrupted (queue : Queue τ) (uxNumberOfTasks : ℕ) :
    (xQueueReceiveFromISR uxNumberOfTasks queue).1=queue ∨ Interrupted uxNumberOfTasks .send queue
      (xQueueReceiveFromISR uxNumberOfTasks queue).1 := by
  obtain ⟨pcReadFrom,hframe⟩ := copyFrom_frame queue
  unfold xQueueReceiveFromISR
  split
  next hmessages =>
    have hspaces : queue.uxLength-(queue.uxMessagesWaiting-1)≤
        queue.uxLength-queue.uxMessagesWaiting+1 := by omega
    right
    dsimp only
    rw [hframe]
    split
    next hfree =>
      refine ⟨hspaces,fun side hne => ?_,Or.inl ⟨hfree,hfree,rfl⟩⟩
      cases Side.eq_of_ne_other .receive hne
      exact ⟨rfl,rfl,Nat.sub_le _ _⟩
    next hlocked =>
      refine ⟨hspaces,fun side hne => ?_,Or.inr ⟨hlocked,rfl,rfl⟩⟩
      cases Side.eq_of_ne_other .receive hne
      exact ⟨rfl,rfl,Nat.sub_le _ _⟩
  · exact Or.inl rfl

/-- A critical section that fails has found no unit of its side. -/
theorem amount_of_failure {queue : Queue τ} {call : Call}
    (hroom : queue.uxMessagesWaiting≤queue.uxLength) (hsection : call.section queue=none) :
    call.side.amount queue=0 := by
  cases call with
  | genericSend item position wait =>
    change sendSection queue item position=none at hsection
    unfold sendSection at hsection
    split at hsection
    · cases hsection
    next hfull =>
      have hfull := mt Or.inl hfull
      change queue.uxLength-queue.uxMessagesWaiting=0
      omega
  | receive wait =>
    change receiveSection queue=none at hsection
    unfold receiveSection at hsection
    split at hsection
    · cases hsection
    next hempty => exact Nat.eq_zero_of_not_pos hempty
  | peek wait =>
    change peekSection queue=none at hsection
    unfold peekSection at hsection
    split at hsection
    · cases hsection
    next hempty => exact Nat.eq_zero_of_not_pos hempty
  | semaphoreTake wait =>
    change takeSection queue=none at hsection
    unfold takeSection at hsection
    split at hsection
    · cases hsection
    next hempty => exact Nat.eq_zero_of_not_pos hempty

/-- `prvIsQueueFull` and `prvIsQueueEmpty` find no unit of their side. -/
theorem amount_of_blocked {queue : Queue τ} {side : Side} (h : side.blocked queue=true) :
    side.amount queue=0 := by
  cases side with
  | send =>
    have hfull : queue.uxMessagesWaiting=queue.uxLength := of_decide_eq_true h
    change queue.uxLength-queue.uxMessagesWaiting=0
    omega
  | receive => exact of_decide_eq_true h

end Units

/-- A task placed on an event list stands in the one of its side. -/
theorem place_frame {τ : Type*} (xItemValue : τ → ℕ) (queue : Queue τ) (side side' : Side)
    (task : τ) : side'.waiting (vTaskPlaceOnEventList xItemValue queue side task)=
        (if side'=side then enqueue xItemValue task (side.waiting queue)
          else side'.waiting queue) ∧
      side'.amount (vTaskPlaceOnEventList xItemValue queue side task)=side'.amount queue ∧
      side'.lock (vTaskPlaceOnEventList xItemValue queue side task)=side'.lock queue := by
  cases side <;> cases side' <;> exact ⟨rfl,rfl,rfl⟩

/-- The loops of `prvUnlockQueue` wake tasks from the front. -/
theorem unlockLoop_eq {τ : Type*} (lock : ℕ) (list : List τ) :
    unlockLoop lock list=list.drop lock := by
  induction lock generalizing list with
  | zero => cases list <;> rfl
  | succ lock ih =>
    cases list with
    | nil => rfl
    | cons first list => exact ih list

section Invariant

variable {τ : Type*} [Fintype τ] [DecidableEq τ]

/-- Tasks of a side that are going to come to the critical section and do not wait. -/
def System.ready (s : System τ) (side : Side) : ℕ :=
  CountedWakeups.ready (fun task => looks side (s.tasks task)) (side.waiting s.queue)

/-- The event lists are in order, the task that has suspended the scheduler is the one that
locks the queue, and no wakeup is lost. -/
structure Sound (xItemValue : τ → ℕ) (uxNumberOfTasks : ℕ) (s : System τ) : Prop where
  nodup : ∀ side : Side, (side.waiting s.queue).Nodup
  ordered : ∀ side : Side, Ordered xItemValue (side.waiting s.queue)
  waits : ∀ side : Side, ∀ task∈side.waiting s.queue, looks side (s.tasks task)=true
  suspended : ∀ task, s.suspended=some task ↔ inside (s.tasks task)=true
  unlocked : ∀ side : Side, (∀ task, holds side (s.tasks task)=false) →
    side.lock s.queue=queueUnlocked
  locked : ∀ (side : Side) task, holds side (s.tasks task)=true →
    0 ≤ side.lock s.queue ∧ side.lock s.queue≤uxNumberOfTasks
  covered : ∀ task call, s.tasks task=some (call,.blocking) →
    Covered uxNumberOfTasks (call.side.amount s.queue) (call.side.lock s.queue)
  matched : ∀ side : Side, Matched uxNumberOfTasks (side.amount s.queue)
    (side.waiting s.queue).length (s.ready side) (side.lock s.queue)

variable {xItemValue : τ → ℕ} {uxNumberOfTasks : ℕ}

/-- A queue is locked by a task that has suspended the scheduler. -/
theorem inside_of_holds {side : Side} {activity : Option (Call×Place)}
    (h : holds side activity=true) : inside activity=true := by
  cases activity with
  | none => cases h
  | some a =>
    obtain ⟨call,place⟩ := a
    cases place <;> first | rfl | cases h

/-- A lock that is not free has been taken by a task. -/
theorem Sound.lock_bounds {s : System τ} (h : Sound xItemValue uxNumberOfTasks s) (side : Side)
    (hlock : side.lock s.queue≠queueUnlocked) :
    0 ≤ side.lock s.queue ∧ side.lock s.queue≤uxNumberOfTasks := by
  by_contra hbounds
  refine hlock (h.unlocked side fun task => ?_)
  cases hholds : holds side (s.tasks task) with
  | true => exact absurd (h.locked side task hholds) hbounds
  | false => rfl

/-- While the scheduler runs the queue is not locked. -/
theorem Sound.free {s : System τ} (h : Sound xItemValue uxNumberOfTasks s)
    (hnone : s.suspended=none) (side : Side) : side.lock s.queue=queueUnlocked := by
  refine h.unlocked side fun task => ?_
  cases hholds : holds side (s.tasks task) with
  | true =>
    have hsuspended := (h.suspended task).mpr (inside_of_holds hholds)
    rw [hnone] at hsuspended
    cases hsuspended
  | false => rfl

/-- Only the running task moves: what is left to show is about it, the lists and the locks. -/
theorem Sound.move {s : System τ} (h : Sound xItemValue uxNumberOfTasks s) {task : τ}
    (hrunning : s.suspended=some task ∨ s.suspended=none) {queue : Queue τ}
    {activity : Option (Call×Place)} {suspended : Option τ}
    (hsuspended : suspended=if inside activity=true then some task else none)
    (hnodup : ∀ side : Side, (side.waiting queue).Nodup)
    (hordered : ∀ side : Side, Ordered xItemValue (side.waiting queue))
    (hwaits : ∀ side : Side, ∀ t∈side.waiting queue,
      t=task ∧ looks side activity=true ∨ t≠task ∧ t∈side.waiting s.queue)
    (hunlocked : ∀ side : Side, holds side activity=false → side.lock queue=queueUnlocked)
    (hlocked : ∀ side : Side, holds side activity=true →
      0 ≤ side.lock queue ∧ side.lock queue≤uxNumberOfTasks)
    (hcovered : ∀ call, activity=some (call,.blocking) →
      Covered uxNumberOfTasks (call.side.amount queue) (call.side.lock queue))
    (hmatched : ∀ side : Side, Matched uxNumberOfTasks (side.amount queue)
      (side.waiting queue).length (CountedWakeups.ready
        (fun t => looks side (Function.update s.tasks task activity t)) (side.waiting queue))
      (side.lock queue)) :
    Sound xItemValue uxNumberOfTasks
      ⟨queue,suspended,Function.update s.tasks task activity⟩ := by
  have hothers : ∀ t≠task, inside (s.tasks t)=false := by
    intro t ht
    cases hin : inside (s.tasks t) with
    | false => rfl
    | true =>
      have hsuspended := (h.suspended t).mpr hin
      rcases hrunning with hsome|hnone
      · rw [hsome] at hsuspended
        exact absurd (Option.some.inj hsuspended).symm ht
      · rw [hnone] at hsuspended
        cases hsuspended
  refine ⟨hnodup,hordered,fun side t ht => ?_,fun t => ?_,fun side hall => ?_,
    fun side t ht => ?_,fun t call ht => ?_,hmatched⟩
  · rcases hwaits side t ht with ⟨rfl,hlooks⟩|⟨hne,hmem⟩
    · dsimp only
      rw [Function.update_self]
      exact hlooks
    · dsimp only
      rw [Function.update_of_ne hne]
      exact h.waits side t hmem
  · dsimp only
    rw [hsuspended]
    by_cases heq : t=task
    · rw [heq,Function.update_self]
      split
      next hin => exact ⟨fun _ => hin,fun _ => rfl⟩
      next hout => exact ⟨fun hcon => (by cases hcon),fun hin => absurd hin hout⟩
    · rw [Function.update_of_ne heq,hothers t heq]
      refine ⟨fun hcon => ?_,fun hcon => by cases hcon⟩
      split at hcon
      · exact absurd (Option.some.inj hcon).symm heq
      · cases hcon
  · refine hunlocked side ?_
    have hself := hall task
    dsimp only at hself
    rw [Function.update_self] at hself
    exact hself
  · dsimp only at ht
    by_cases heq : t=task
    · rw [heq,Function.update_self] at ht
      exact hlocked side ht
    · rw [Function.update_of_ne heq] at ht
      have hin := inside_of_holds ht
      rw [hothers t heq] at hin
      cases hin
  · dsimp only at ht
    by_cases heq : t=task
    · rw [heq,Function.update_self] at ht
      exact hcovered call ht
    · rw [Function.update_of_ne heq] at ht
      have hout := hothers t heq
      rw [ht] at hout
      cases hout

/-- A move that leaves the event lists as they are. -/
theorem Sound.goto {s : System τ} (h : Sound xItemValue uxNumberOfTasks s) {task : τ}
    (hrunning : s.suspended=some task ∨ s.suspended=none) {queue : Queue τ}
    {activity : Option (Call×Place)} {suspended : Option τ}
    (hsuspended : suspended=if inside activity=true then some task else none)
    (hlists : ∀ side : Side, side.waiting queue=side.waiting s.queue)
    (hstays : ∀ side : Side, looks side (s.tasks task)=true → looks side activity=true ∨
      task∉side.waiting s.queue)
    (hunlocked : ∀ side : Side, holds side activity=false → side.lock queue=queueUnlocked)
    (hlocked : ∀ side : Side, holds side activity=true →
      0 ≤ side.lock queue ∧ side.lock queue≤uxNumberOfTasks)
    (hcovered : ∀ call, activity=some (call,.blocking) →
      Covered uxNumberOfTasks (call.side.amount queue) (call.side.lock queue))
    (hmatched : ∀ side : Side, Matched uxNumberOfTasks (side.amount queue)
      (side.waiting s.queue).length (CountedWakeups.ready
        (fun t => looks side (Function.update s.tasks task activity t)) (side.waiting s.queue))
      (side.lock queue)) :
    Sound xItemValue uxNumberOfTasks
      ⟨queue,suspended,Function.update s.tasks task activity⟩ := by
  refine h.move hrunning hsuspended (fun side => ?_) (fun side => ?_) (fun side t ht => ?_) hunlocked hlocked
    hcovered (fun side => ?_)
  · rw [hlists]
    exact h.nodup side
  · rw [hlists]
    exact h.ordered side
  · rw [hlists] at ht
    by_cases heq : t=task
    · subst heq
      exact Or.inl ⟨rfl,(hstays side (h.waits side t ht)).resolve_right (not_not_intro ht)⟩
    · exact Or.inr ⟨heq,ht⟩
  · rw [hlists]
    exact hmatched side

/-- The tasks that look, when one task has moved and does not look less than before. -/
theorem ready_update_mono {s : System τ} {side : Side} {task : τ} {activity : Option (Call×Place)}
    (hlooks : looks side (s.tasks task)=true → looks side activity=true) :
    s.ready side≤CountedWakeups.ready
      (fun t => looks side (Function.update s.tasks task activity t)) (side.waiting s.queue) := by
  refine ready_mono task (fun x hx => ?_) fun h => ?_
  · rw [Function.update_of_ne hx]
  · rw [Function.update_self]
    exact hlooks h

/-- The tasks that look, when one task has moved. -/
theorem ready_update_le (s : System τ) (side : Side) (task : τ) (activity : Option (Call×Place)) :
    s.ready side≤CountedWakeups.ready
      (fun t => looks side (Function.update s.tasks task activity t))
        (side.waiting s.queue)+1 := by
  refine ready_le_succ task fun x hx => ?_
  rw [Function.update_of_ne hx]

/-- The running task is the one that has suspended the scheduler, if any has. -/
theorem Sound.suspended_eq {s : System τ} (h : Sound xItemValue uxNumberOfTasks s) {task : τ}
    (hrunning : s.suspended=some task ∨ s.suspended=none) :
    s.suspended=if inside (s.tasks task)=true then some task else none := by
  split
  next hin => exact (h.suspended task).mpr hin
  next hout =>
    rcases hrunning with hsome|hnone
    · exact absurd ((h.suspended task).mp hsome) hout
    · exact hnone

/-- The queue is not locked when the running task has not locked it. -/
theorem Sound.unlocked_of_running {s : System τ} (h : Sound xItemValue uxNumberOfTasks s) {task : τ}
    (hrunning : s.suspended=some task ∨ s.suspended=none) {side : Side}
    (hfree : holds side (s.tasks task)=false) : side.lock s.queue=queueUnlocked := by
  refine h.unlocked side fun t => ?_
  by_cases heq : t=task
  · rw [heq]
    exact hfree
  · cases hholds : holds side (s.tasks t) with
    | false => rfl
    | true =>
      have hsuspended := (h.suspended t).mpr (inside_of_holds hholds)
      rcases hrunning with hsome|hnone
      · rw [hsome] at hsuspended
        exact absurd (Option.some.inj hsuspended).symm heq
      · rw [hnone] at hsuspended
        cases hsuspended

/-- A move that leaves the queue as it is. -/
theorem Sound.quiet {s : System τ} (h : Sound xItemValue uxNumberOfTasks s) {task : τ}
    (hrunning : s.suspended=some task ∨ s.suspended=none) {activity : Option (Call×Place)}
    (hinside : inside activity=inside (s.tasks task))
    (hholds : ∀ side : Side, holds side activity=holds side (s.tasks task))
    (hstays : ∀ side : Side, looks side (s.tasks task)=true → looks side activity=true ∨
      side.amount s.queue=0 ∧ task∉side.waiting s.queue)
    (hempty : ∀ call, activity=some (call,.blocking) → call.side.amount s.queue=0) :
    Sound xItemValue uxNumberOfTasks
      {s with tasks := Function.update s.tasks task activity} := by
  have hsuspended := h.suspended_eq hrunning
  rw [←hinside] at hsuspended
  refine h.goto hrunning hsuspended (fun _ => rfl)
    (fun side hlooks => (hstays side hlooks).imp_right And.right)
    (fun side hfree => h.unlocked_of_running hrunning ((hholds side).symm.trans hfree))
    (fun side hheld => h.locked side task ((hholds side).symm.trans hheld))
    (fun call hcall => Or.inl (by rw [hempty call hcall]; exact Nat.zero_le _))
    (fun side => ?_)
  by_cases hzero : side.amount s.queue=0
  · rw [hzero]
    exact matched_zero
  · refine (h.matched side).calm le_rfl (ready_update_mono fun hlooks => ?_)
    exact (hstays side hlooks).resolve_right fun hboth => hzero hboth.1

/-- A task that does not come back to the critical section does not look. -/
theorem not_looks {call : Call} {place : Place} (h : place.again=false) (side : Side) :
    looks side (some (call,place))≠true := by
  change (decide (call.side=side) && place.again)≠true
  rw [h,Bool.and_false]
  decide

/-- A step of a task that does not come back to the critical section, inside or outside the
suspended scheduler and with the same sides locked. -/
theorem Sound.quiet_of_not_again {s : System τ} (h : Sound xItemValue uxNumberOfTasks s) {task : τ}
    (hrunning : s.suspended=some task ∨ s.suspended=none) {call : Call} {place : Place}
    (htask : s.tasks task=some (call,place)) (hagain : place.again=false)
    {activity : Option (Call×Place)} (hinside : inside activity=inside (some (call,place)))
    (hholds : ∀ side : Side, holds side activity=holds side (some (call,place)))
    (hempty : ∀ call, activity=some (call,.blocking) → call.side.amount s.queue=0) :
    Sound xItemValue uxNumberOfTasks
      {s with tasks := Function.update s.tasks task activity} := by
  rw [←htask] at hinside hholds
  refine h.quiet hrunning hinside hholds (fun side hlooks => ?_) hempty
  rw [htask] at hlooks
  exact absurd hlooks (not_looks hagain side)

/-- `vTaskSuspendAll`. -/
theorem Sound.suspend {s : System τ} (h : Sound xItemValue uxNumberOfTasks s) {task : τ} {call : Call}
    (hrunning : s.suspended=some task ∨ s.suspended=none)
    (htask : s.tasks task=some (call,.failed)) :
    Sound xItemValue uxNumberOfTasks
      ({s with suspended := some task}.goto task call .suspended) := by
  refine h.goto hrunning rfl (fun _ => rfl) (fun side hlooks => ?_) (fun side _ => ?_)
    (fun side hheld => ?_) (fun call hcall => ?_) (fun side => ?_)
  · rw [htask] at hlooks
    exact absurd hlooks (not_looks rfl side)
  · exact h.unlocked_of_running hrunning (by rw [htask]; rfl)
  · cases hheld
  · cases hcall
  · refine (h.matched side).calm le_rfl (ready_update_mono fun hlooks => ?_)
    rw [htask] at hlooks
    exact absurd hlooks (not_looks rfl side)

/-- `prvLockQueue`. -/
theorem Sound.lockQueue {s : System τ} (h : Sound xItemValue uxNumberOfTasks s) {task : τ}
    {call : Call} (hrunning : s.suspended=some task ∨ s.suspended=none)
    (htask : s.tasks task=some (call,.suspended)) :
    Sound xItemValue uxNumberOfTasks
      ({s with queue := prvLockQueue s.queue}.goto task call .locked) := by
  have hsuspended : s.suspended=some task := (h.suspended task).mpr (by rw [htask]; rfl)
  have hfree : ∀ side : Side, side.lock s.queue=queueUnlocked := fun side =>
    h.unlocked_of_running hrunning (by rw [htask]; rfl)
  have hlock : ∀ side : Side, side.lock (prvLockQueue s.queue)=0 := by
    intro side
    cases side with
    | send => exact if_pos (hfree .send)
    | receive => exact if_pos (hfree .receive)
  have hlists : ∀ side : Side, side.waiting (prvLockQueue s.queue)=side.waiting s.queue ∧
      side.amount (prvLockQueue s.queue)=side.amount s.queue := by
    intro side
    cases side <;> exact ⟨rfl,rfl⟩
  refine h.goto hrunning hsuspended (fun side => (hlists side).1) (fun side hlooks => ?_)
    (fun side hfree => ?_) (fun side _ => ?_) (fun call hcall => ?_) (fun side => ?_)
  · rw [htask] at hlooks
    exact absurd hlooks (not_looks rfl side)
  · cases hfree
  · rw [hlock side]
    exact ⟨le_rfl,Int.natCast_nonneg _⟩
  · cases hcall
  · have hmatched := (h.matched side).calm le_rfl
      (@ready_update_mono τ _ _ s side task (some (call,.locked)) fun hlooks => by
        rw [htask] at hlooks
        exact absurd hlooks (not_looks rfl side))
    rw [hfree side] at hmatched
    rw [hlock side,(hlists side).2]
    intro hne
    have hle := hmatched hne
    unfold queueUnlocked at hle
    omega

/-- `xTaskResumeAll`. -/
theorem Sound.resume {s : System τ} (h : Sound xItemValue uxNumberOfTasks s) {task : τ} {call : Call}
    {again : Bool} (hrunning : s.suspended=some task ∨ s.suspended=none)
    (htask : s.tasks task=some (call,.resuming again)) {activity : Option (Call×Place)}
    (hinside : inside activity=false) (hholds : ∀ side : Side, holds side activity=false)
    (hlooks : ∀ side : Side, looks side (some (call,.resuming again))=true →
      looks side activity=true) :
    Sound xItemValue uxNumberOfTasks
      ⟨s.queue,none,Function.update s.tasks task activity⟩ := by
  have hfree : ∀ side : Side, side.lock s.queue=queueUnlocked := fun side =>
    h.unlocked_of_running hrunning (by rw [htask]; rfl)
  refine h.goto hrunning (by rw [hinside]; rfl) (fun _ => rfl) (fun side hlook => ?_)
    (fun side _ => hfree side) (fun side hheld => ?_) (fun call hcall => ?_) (fun side => ?_)
  · rw [htask] at hlook
    exact Or.inl (hlooks side hlook)
  · rw [hholds side] at hheld
    cases hheld
  · rw [hcall] at hinside
    cases hinside
  · refine (h.matched side).calm le_rfl (ready_update_mono fun hlook => ?_)
    rw [htask] at hlook
    exact hlooks side hlook

/-- `vTaskPlaceOnEventList`. -/
theorem Sound.place {s : System τ} (h : Sound xItemValue uxNumberOfTasks s) {task : τ} {call : Call}
    (hrunning : s.suspended=some task ∨ s.suspended=none)
    (htask : s.tasks task=some (call,.blocking)) :
    Sound xItemValue uxNumberOfTasks
      ({s with queue := vTaskPlaceOnEventList xItemValue s.queue call.side task}.goto task call
        (.unlocking true)) := by
  have hsuspended : s.suspended=some task := (h.suspended task).mpr (by rw [htask]; rfl)
  have hnot : ∀ side : Side, task∉side.waiting s.queue := by
    intro side hmem
    have hlooks := h.waits side task hmem
    rw [htask] at hlooks
    exact absurd hlooks (not_looks rfl side)
  have hlocked : ∀ side : Side, 0 ≤ side.lock s.queue ∧ side.lock s.queue≤uxNumberOfTasks :=
    fun side => h.locked side task (by rw [htask]; rfl)
  have hframe := fun side => place_frame xItemValue s.queue call.side side task
  refine h.move hrunning hsuspended (fun side => ?_) (fun side => ?_) (fun side t ht => ?_)
    (fun side hfree => ?_) (fun side _ => ?_) (fun call hcall => ?_) (fun side => ?_)
  · rw [(hframe side).1]
    split
    · exact (enqueue_perm _ _ _).nodup_iff.mpr (List.nodup_cons.mpr ⟨hnot _,h.nodup _⟩)
    · exact h.nodup side
  · rw [(hframe side).1]
    split
    · exact (h.ordered _).enqueue _ task
    · exact h.ordered side
  · rw [(hframe side).1] at ht
    split at ht
    next hside =>
      subst hside
      rcases (mem_enqueue xItemValue).mp ht with rfl|hmem
      · refine Or.inl ⟨rfl,?_⟩
        change (decide (call.side=call.side) && true)=true
        rw [decide_eq_true rfl]
        rfl
      · exact Or.inr ⟨fun heq => hnot _ (heq▸hmem),hmem⟩
    · exact Or.inr ⟨fun heq => hnot _ (heq▸ht),ht⟩
  · cases hfree
  · rw [(hframe side).2.2]
    exact hlocked side
  · cases hcall
  · rw [(hframe side).2.1,(hframe side).2.2]
    by_cases hside : side=call.side
    · subst hside
      exact (h.covered task call htask).matched
    · rw [(hframe side).1,if_neg hside]
      refine (h.matched side).calm le_rfl (ready_update_mono fun hlooks => ?_)
      rw [htask] at hlooks
      exact absurd hlooks (not_looks rfl side)

/-- A critical section of `prvUnlockQueue`: the tasks of a side are woken for what was counted,
and its lock is free. -/
theorem Sound.release {s : System τ} (h : Sound xItemValue uxNumberOfTasks s)
    (htasks : Fintype.card τ≤uxNumberOfTasks) {task : τ}
    (hrunning : s.suspended=some task ∨ s.suspended=none) {side : Side}
    (hheld : holds side (s.tasks task)=true) {queue : Queue τ}
    (hself : side.waiting queue=(side.waiting s.queue).drop (side.lock s.queue).toNat)
    (hfree : side.lock queue=queueUnlocked)
    (hother : ∀ side'≠side, side'.waiting queue=side'.waiting s.queue ∧
      side'.lock queue=side'.lock s.queue)
    (hamount : ∀ side' : Side, side'.amount queue=side'.amount s.queue)
    {activity : Option (Call×Place)} (hinside : inside activity=true)
    (hholds : holds side activity=false ∧
      ∀ side'≠side, holds side' activity=holds side' (s.tasks task))
    (hlooks : ∀ side' : Side, looks side' activity=looks side' (s.tasks task))
    (hplace : ∀ call, activity≠some (call,.blocking)) :
    Sound xItemValue uxNumberOfTasks
      ⟨queue,s.suspended,Function.update s.tasks task activity⟩ := by
  have hsuspended : s.suspended=some task := (h.suspended task).mpr (inside_of_holds hheld)
  have hsame : ∀ side' : Side, (fun t => looks side' (Function.update s.tasks task activity t))=
      fun t => looks side' (s.tasks t) := by
    intro side'
    funext t
    by_cases heq : t=task
    · rw [heq,Function.update_self]
      exact hlooks side'
    · rw [Function.update_of_ne heq]
  refine h.move hrunning (by rw [hinside]; exact hsuspended) (fun side' => ?_) (fun side' => ?_)
    (fun side' t ht => ?_) (fun side' hnot => ?_) (fun side' hstill => ?_)
    (fun call hcall => absurd hcall (hplace call)) (fun side' => ?_)
  · by_cases heq : side'=side
    · rw [heq,hself]
      exact (h.nodup side).sublist (List.drop_sublist _ _)
    · rw [(hother side' heq).1]
      exact h.nodup side'
  · by_cases heq : side'=side
    · rw [heq,hself]
      exact (h.ordered side).sublist (List.drop_sublist _ _)
    · rw [(hother side' heq).1]
      exact h.ordered side'
  · have hmem : t∈side'.waiting s.queue := by
      by_cases heq : side'=side
      · rw [heq,hself] at ht
        rw [heq]
        exact List.mem_of_mem_drop ht
      · rw [(hother side' heq).1] at ht
        exact ht
    by_cases heq : t=task
    · subst heq
      exact Or.inl ⟨rfl,(hlooks side').trans (h.waits side' t hmem)⟩
    · exact Or.inr ⟨heq,hmem⟩
  · by_cases heq : side'=side
    · rw [heq]
      exact hfree
    · rw [(hother side' heq).2]
      exact h.unlocked_of_running hrunning ((hholds.2 side' heq).symm.trans hnot)
  · by_cases heq : side'=side
    · rw [heq,hholds.1] at hstill
      cases hstill
    · rw [(hother side' heq).2]
      exact h.locked side' task ((hholds.2 side' heq).symm.trans hstill)
  · rw [hamount side',hsame side']
    by_cases heq : side'=side
    · subst heq
      rw [hself,ready_drop (h.nodup side') (h.waits side'),List.length_drop]
      exact (h.matched side').release ((h.nodup side').length_le_card.trans htasks)
    · rw [(hother side' heq).1,(hother side' heq).2]
      exact h.matched side'

/-- Waking the first task of an event list, if there is one. -/
theorem Sound.ready_woken {s : System τ} (h : Sound xItemValue uxNumberOfTasks s) (side : Side)
    {looks' : τ → Bool}
    (hlooks : ∀ t∈side.waiting s.queue, looks' t=looks side (s.tasks t))
    (hsome : (side.waiting s.queue).length≠0) :
    CountedWakeups.ready looks' (side.waiting s.queue).tail=
      CountedWakeups.ready looks' (side.waiting s.queue)+1 := by
  have hnodup := h.nodup side
  have hwaits := h.waits side
  cases hwaiting : side.waiting s.queue with
  | nil =>
    rw [hwaiting] at hsome
    exact absurd rfl hsome
  | cons first waiting =>
    rw [hwaiting] at hnodup hlooks hwaits
    exact ready_tail hnodup
      ((hlooks first List.mem_cons_self).trans (hwaits first List.mem_cons_self))

/-- A critical section that succeeds. -/
theorem Sound.serve {s : System τ} (h : Sound xItemValue uxNumberOfTasks s) {task : τ} {call : Call}
    (hrunning : s.suspended=some task ∨ s.suspended=none)
    (htask : s.tasks task=some (call,.entry)) (hnot : ∀ side : Side, task∉side.waiting s.queue)
    {queue : Queue τ} {side : Side} (hgiven : Given side s.queue queue)
    (htaken : (side=call.side.other ∧ call.side.amount queue≤call.side.amount s.queue-1) ∨
      (side=call.side ∧ ∀ side' : Side, side'.amount queue=side'.amount s.queue)) :
    Sound xItemValue uxNumberOfTasks ({s with queue := queue}.return task) := by
  have hsuspended := h.suspended_eq hrunning
  rw [htask] at hsuspended
  have hfree : ∀ side : Side, side.lock s.queue=queueUnlocked := fun side =>
    h.unlocked_of_running hrunning (by rw [htask]; rfl)
  have hsub : ∀ side' : Side, (side'.waiting queue).Sublist (side'.waiting s.queue) := by
    intro side'
    by_cases heq : side'=side
    · rw [heq,hgiven.waiting]
      exact List.tail_sublist _
    · rw [hgiven.other side' heq]
  refine h.move hrunning hsuspended (fun side' => (h.nodup side').sublist (hsub side'))
    (fun side' => (h.ordered side').sublist (hsub side')) (fun side' t ht => ?_)
    (fun side' _ => (hgiven.lock side').trans (hfree side')) (fun side' hheld => ?_)
    (fun call hcall => ?_) (fun side' => ?_)
  · have hmem := (hsub side').subset ht
    exact Or.inr ⟨fun heq => hnot side' (heq▸hmem),hmem⟩
  · cases hheld
  · cases hcall
  · have hmatched := h.matched side'
    have hsucc := ready_update_le s side' task none
    have hmono : side'≠call.side → s.ready side'≤CountedWakeups.ready
        (fun t => looks side' (Function.update s.tasks task none t)) (side'.waiting s.queue) := by
      intro hne
      refine ready_update_mono fun hlooks => ?_
      rw [htask] at hlooks
      have hfalse : (decide (call.side=side') && Place.entry.again)=true := hlooks
      rw [decide_eq_false (Ne.symm hne)] at hfalse
      cases hfalse
    have hwoken := @Sound.ready_woken τ _ _ _ _ s h side'
      (fun t => looks side' (Function.update s.tasks task none t)) fun t ht => by
        have hne : t≠task := fun heq => hnot side' (heq▸ht)
        rw [Function.update_of_ne hne]
    rw [hfree side'] at hmatched
    rw [hgiven.lock,hfree]
    by_cases heq : side'=side
    · subst heq
      rw [hgiven.waiting,List.length_tail]
      rcases htaken with ⟨hother,-⟩|⟨-,hsame⟩
      · have hne : side'≠call.side := hother▸call.side.other_ne
        exact (hmatched.calm le_rfl (hmono hne)).wake hgiven.amount (fun hzero => by rw [hzero])
          hwoken
      · intro hne
        have hsome : (side'.waiting s.queue).length≠0 := by omega
        have hbound := hmatched hsome
        have hready := hwoken hsome
        rw [hsame]
        omega
    · rw [hgiven.other side' heq]
      rcases htaken with ⟨rfl,htake⟩|⟨rfl,hsame⟩
      · have hself := Side.eq_of_ne_other call.side heq
        subst hself
        exact hmatched.take htake hsucc
      · rw [hsame]
        exact hmatched.calm le_rfl (hmono heq)

/-- An interrupt. -/
theorem Sound.interrupt {s : System τ} (h : Sound xItemValue uxNumberOfTasks s) {side : Side}
    {queue : Queue τ} (hgiven : Interrupted uxNumberOfTasks side s.queue queue) :
    Sound xItemValue uxNumberOfTasks {s with queue := queue} := by
  have hsub : ∀ side' : Side, (side'.waiting queue).Sublist (side'.waiting s.queue) := by
    intro side'
    by_cases heq : side'=side
    · rcases hgiven.self with ⟨-,-,hwaiting⟩|⟨-,-,hwaiting⟩
      · rw [heq,hwaiting]
        exact List.tail_sublist _
      · rw [heq,hwaiting]
    · rw [(hgiven.other side' heq).1]
  refine ⟨fun side' => (h.nodup side').sublist (hsub side'),
    fun side' => (h.ordered side').sublist (hsub side'),
    fun side' t ht => h.waits side' t ((hsub side').subset ht),h.suspended,
    fun side' hall => ?_,fun side' t hheld => ?_,fun t call ht => ?_,fun side' => ?_⟩
  · have hfree := h.unlocked side' hall
    by_cases heq : side'=side
    · subst heq
      rcases hgiven.self with ⟨-,hlock,-⟩|⟨hlocked,-,-⟩
      · exact hlock
      · exact absurd hfree hlocked
    · exact (hgiven.other side' heq).2.1.trans hfree
  · obtain ⟨hlow,hhigh⟩ := h.locked side' t hheld
    by_cases heq : side'=side
    · subst heq
      rcases hgiven.self with ⟨hfree,-,-⟩|⟨-,hlock,-⟩
      · rw [hfree] at hlow
        exact absurd hlow (by decide)
      · dsimp only
        rw [hlock]
        unfold incrementLock
        split <;> omega
    · dsimp only
      rw [(hgiven.other side' heq).2.1]
      exact ⟨hlow,hhigh⟩
  · have hcovered := h.covered t call ht
    have hheld := h.locked call.side t (by rw [ht]; rfl)
    by_cases heq : call.side=side
    · subst heq
      rcases hgiven.self with ⟨hfree,-,-⟩|⟨-,hlock,-⟩
      · rw [hfree] at hheld
        exact absurd hheld.1 (by decide)
      · dsimp only
        rw [hlock]
        exact hcovered.count hheld.1 hgiven.amount
    · obtain ⟨-,hlock,hamount⟩ := hgiven.other call.side heq
      dsimp only
      rw [hlock]
      unfold Covered at *
      omega
  · have hmatched := h.matched side'
    by_cases heq : side'=side
    · subst heq
      rcases hgiven.self with ⟨hfree,hlock,hwaiting⟩|⟨hlocked,hlock,hwaiting⟩
      · dsimp only [System.ready]
        rw [hlock,hwaiting,List.length_tail]
        rw [hfree] at hmatched
        exact hmatched.wake hgiven.amount (fun hzero => by rw [hzero])
          (h.ready_woken side' fun _ _ => rfl)
      · dsimp only [System.ready]
        rw [hlock,hwaiting]
        exact hmatched.count (h.lock_bounds side' hlocked).1 hgiven.amount
    · obtain ⟨hwaiting,hlock,hamount⟩ := hgiven.other side' heq
      dsimp only [System.ready]
      rw [hlock,hwaiting]
      exact hmatched.calm hamount le_rfl

/-- The tick that ends the wait of a task. -/
theorem Sound.timeout {s : System τ} (h : Sound xItemValue uxNumberOfTasks s) (task : τ) :
    Sound xItemValue uxNumberOfTasks {s with queue := removeWaiting s.queue task} := by
  have hframe : ∀ side : Side,
      side.waiting (removeWaiting s.queue task)=(side.waiting s.queue).erase task ∧
      side.lock (removeWaiting s.queue task)=side.lock s.queue ∧
      side.amount (removeWaiting s.queue task)=side.amount s.queue := by
    intro side
    cases side <;> exact ⟨rfl,rfl,rfl⟩
  refine ⟨fun side => ?_,fun side => ?_,fun side t ht => ?_,h.suspended,fun side hall => ?_,
    fun side t hheld => ?_,fun t call ht => ?_,fun side => ?_⟩
  · rw [(hframe side).1]
    exact (h.nodup side).sublist List.erase_sublist
  · rw [(hframe side).1]
    exact (h.ordered side).sublist List.erase_sublist
  · rw [(hframe side).1] at ht
    exact h.waits side t (List.mem_of_mem_erase ht)
  · exact (hframe side).2.1.trans (h.unlocked side hall)
  · dsimp only
    rw [(hframe side).2.1]
    exact h.locked side t hheld
  · dsimp only
    rw [(hframe call.side).2.1,(hframe call.side).2.2]
    exact h.covered t call ht
  · have hmatched := h.matched side
    dsimp only [System.ready]
    rw [(hframe side).1,(hframe side).2.1,(hframe side).2.2]
    by_cases hmem : task∈side.waiting s.queue
    · have hready := @ready_erase τ _ _ (fun t => looks side (s.tasks t)) _ (h.nodup side) task
        hmem (h.waits side task hmem)
      rw [List.length_erase_of_mem hmem]
      exact hmatched.wake (Nat.le_succ _) (fun hzero => by rw [hzero]) fun _ => hready
    · rw [List.erase_of_not_mem hmem]
      exact hmatched

/-- A call of a task that is in none. -/
theorem Sound.call {s : System τ} (h : Sound xItemValue uxNumberOfTasks s) {task : τ}
    (hnone : s.suspended=none) (htask : s.tasks task=none) (call : Call) :
    Sound xItemValue uxNumberOfTasks (s.goto task call .entry) := by
  refine h.quiet (Or.inr hnone) (by rw [htask]; rfl) (fun side => by rw [htask]; rfl)
    (fun side hlooks => ?_) fun other hother => ?_
  · rw [htask] at hlooks
    cases hlooks
  · cases hother

/-- The next piece of a call. -/
theorem Sound.advance {s : System τ} (h : Sound xItemValue uxNumberOfTasks s)
    (htasks : Fintype.card τ≤uxNumberOfTasks) {items : List (List UInt8)}
    (hholds : Holds s.queue items) (hfit : AllFit s) {task : τ} {expired : Bool}
    (hadmits : Admits s (.advance task expired)) :
    Sound xItemValue uxNumberOfTasks (s.advance xItemValue task expired).1 := by
  have hrunning : s.suspended=some task ∨ s.suspended=none := hadmits.imp_right And.left
  have hroom : s.queue.uxMessagesWaiting ≤ s.queue.uxLength := hholds.count▸hholds.room
  unfold System.advance
  split
  · exact h
  next call htask =>
    have hnot : ∀ side : Side, task∉side.waiting s.queue := by
      rcases hadmits with hsuspended|⟨-,hsend,hreceive⟩
      · have hinside := (h.suspended task).mp hsuspended
        rw [htask] at hinside
        cases hinside
      · intro side
        cases side with
        | send => exact hsend
        | receive => exact hreceive
    split
    next queue outcome hsection =>
      rcases section_given (hfit task call _ htask) hroom hsection with ⟨hgiven,htake⟩|⟨hgiven,hsame⟩
      · exact h.serve hrunning htask hnot hgiven (Or.inl ⟨rfl,htake⟩)
      · exact h.serve hrunning htask hnot hgiven (Or.inr ⟨rfl,hsame⟩)
    next hsection =>
      have hzero := amount_of_failure hroom hsection
      have hstays : ∀ {activity : Option (Call×Place)} (side : Side),
          looks side (s.tasks task)=true → looks side activity=true ∨
            side.amount s.queue=0 ∧ task∉side.waiting s.queue := by
        intro activity side hlooks
        rw [htask] at hlooks
        have hside := of_decide_eq_true (Bool.and_eq_true_iff.mp hlooks).1
        exact Or.inr ⟨hside▸hzero,hnot side⟩
      split
      · refine h.quiet hrunning (by rw [htask]; rfl) (fun side => by rw [htask]; rfl) hstays ?_
        intro other hother
        cases hother
      · refine h.quiet hrunning (by rw [htask]; rfl) (fun side => by rw [htask]; rfl) hstays ?_
        intro other hother
        cases hother
  next call htask => exact h.suspend hrunning htask
  next call htask => exact h.lockQueue hrunning htask
  next call htask =>
    split
    · refine h.quiet_of_not_again hrunning htask rfl rfl (fun _ => rfl) fun other hother => ?_
      cases hother
    · refine h.quiet_of_not_again hrunning htask rfl rfl (fun _ => rfl) fun other hother => ?_
      cases hother
  next call htask =>
    by_cases hblocked : call.side.blocked s.queue=true
    · rw [if_pos hblocked]
      refine h.quiet_of_not_again hrunning htask rfl rfl (fun _ => rfl) fun other hother => ?_
      cases hother
      exact amount_of_blocked hblocked
    · rw [if_neg hblocked]
      refine h.quiet_of_not_again hrunning htask rfl rfl (fun _ => rfl) fun other hother => ?_
      cases hother
  next call htask => exact h.place hrunning htask
  next call again htask =>
    refine @Sound.release τ _ _ _ _ s h htasks task hrunning .receive (by rw [htask]; rfl)
      (unlockTx s.queue) (unlockLoop_eq _ _) rfl (fun side hne => ?_) (fun side => ?_)
      (some (call,.halfUnlocked again)) rfl ⟨rfl,fun side hne => ?_⟩ (fun side => ?_)
      fun other hother => ?_
    · cases Side.eq_of_ne_other .send hne
      exact ⟨rfl,rfl⟩
    · cases side <;> rfl
    · cases Side.eq_of_ne_other .send hne
      rw [htask]
      rfl
    · rw [htask]
      rfl
    · cases hother
  next call again htask =>
    refine @Sound.release τ _ _ _ _ s h htasks task hrunning .send (by rw [htask]; rfl)
      (unlockRx s.queue) (unlockLoop_eq _ _) rfl (fun side hne => ?_) (fun side => ?_)
      (some (call,.resuming again)) rfl ⟨rfl,fun side hne => ?_⟩ (fun side => ?_)
      fun other hother => ?_
    · cases Side.eq_of_ne_other .receive hne
      exact ⟨rfl,rfl⟩
    · cases side <;> rfl
    · cases Side.eq_of_ne_other .receive hne
      rw [htask]
      rfl
    · rw [htask]
      rfl
    · cases hother
  next call again htask =>
    split
    next hagain =>
      rw [hagain] at htask
      exact h.resume hrunning htask rfl (fun _ => rfl) fun _ hlooks => hlooks
    next hagain =>
      rw [Bool.eq_false_of_not_eq_true hagain] at htask
      split
      · exact h.resume hrunning htask rfl (fun _ => rfl) fun side hlooks =>
          absurd hlooks (not_looks rfl side)
      · exact h.resume hrunning htask rfl (fun _ => rfl) fun side hlooks =>
          absurd hlooks (not_looks rfl side)
  next call htask =>
    split
    · refine h.quiet_of_not_again hrunning htask rfl rfl (fun _ => rfl) fun other hother => ?_
      cases hother
    · refine h.quiet_of_not_again hrunning htask rfl rfl (fun _ => rfl) fun other hother => ?_
      cases hother

/-- Nothing that may happen to a sound system makes it unsound. -/
theorem Sound.step {s : System τ} (h : Sound xItemValue uxNumberOfTasks s)
    (htasks : Fintype.card τ≤uxNumberOfTasks) {items : List (List UInt8)}
    (hholds : Holds s.queue items) (hfit : AllFit s) {event : Event τ} (hadmits : Admits s event) :
    Sound xItemValue uxNumberOfTasks
      ((queueMachine xItemValue uxNumberOfTasks).step s event).1 := by
  have hroom : s.queue.uxMessagesWaiting ≤ s.queue.uxLength := hholds.count▸hholds.room
  cases event with
  | call task call => exact h.call hadmits.2.1 hadmits.1 call
  | advance task expired => exact h.advance htasks hholds hfit hadmits
  | timeout task => exact h.timeout task
  | sendFromISR item position =>
    rcases sendFromISR_interrupted hadmits hroom uxNumberOfTasks with hsame|hgiven
    · change Sound xItemValue uxNumberOfTasks
        {s with queue := (xQueueGenericSendFromISR uxNumberOfTasks s.queue item position).1}
      rw [hsame]
      exact h
    · exact h.interrupt hgiven
  | giveFromISR =>
    rcases giveFromISR_interrupted s.queue uxNumberOfTasks with hsame|hgiven
    · change Sound xItemValue uxNumberOfTasks
        {s with queue := (xQueueGiveFromISR uxNumberOfTasks s.queue).1}
      rw [hsame]
      exact h
    · exact h.interrupt hgiven
  | receiveFromISR =>
    rcases receiveFromISR_interrupted s.queue uxNumberOfTasks with hsame|hgiven
    · change Sound xItemValue uxNumberOfTasks
        {s with queue := (xQueueReceiveFromISR uxNumberOfTasks s.queue).1}
      rw [hsame]
      exact h
    · exact h.interrupt hgiven

/-- A new queue is sound. -/
theorem sound_new (uxQueueLength uxItemSize : ℕ) (pcHead : ℤ) (storage : ℤ → UInt8) :
    Sound xItemValue uxNumberOfTasks
      (newSystem uxQueueLength uxItemSize pcHead storage : System τ) where
  nodup side := by cases side <;> exact List.nodup_nil
  ordered side := by cases side <;> exact List.Pairwise.nil
  waits side task htask := by cases side <;> cases htask
  suspended task := ⟨fun h => (by cases h),fun h => (by cases h)⟩
  unlocked side _ := by cases side <;> rfl
  locked side task h := by cases h
  covered task call h := by cases h
  matched side hne := by cases side <;> exact absurd rfl hne

/-- In every run the system is sound, and its queue holds no more than its length. -/
theorem run_sound (htasks : Fintype.card τ≤uxNumberOfTasks) {uxQueueLength : ℕ}
    (hlength : 0<uxQueueLength) (uxItemSize : ℕ) (pcHead : ℤ) (storage : ℤ → UInt8)
    {events : List (Event τ)} (h : (queueMachine xItemValue uxNumberOfTasks).Guarded Admits
      (newSystem uxQueueLength uxItemSize pcHead storage) events) :
    Sound xItemValue uxNumberOfTasks ((queueMachine xItemValue uxNumberOfTasks).run
      (newSystem uxQueueLength uxItemSize pcHead storage) events) := by
  have hrun := h.invariant (fun s => Sound xItemValue uxNumberOfTasks s ∧
    (∃ items, Holds s.queue items) ∧ AllFit s) (fun s event hs hadmits => ?_)
    ⟨sound_new uxQueueLength uxItemSize pcHead storage,
      ⟨[],holds_new hlength uxItemSize pcHead storage⟩,fun _ _ _ h => by cases h⟩
  · exact hrun.1
  · obtain ⟨hsound,⟨items,hholds⟩,hfit⟩ := hs
    obtain ⟨⟨items',-,hholds'⟩,-⟩ := hholds.step hfit xItemValue uxNumberOfTasks hadmits
    exact ⟨hsound.step htasks hholds hfit hadmits,⟨items',hholds'⟩,
      hfit.step hholds xItemValue uxNumberOfTasks hadmits⟩

/-- Tasks of a side that are about to enter the critical section and do not wait. -/
def System.entering (s : System τ) (side : Side) : Finset τ :=
  Finset.univ.filter fun task =>
    (s.tasks task).any (fun a => a.1.side=side && a.2=.entry)=true ∧ task∉side.waiting s.queue

/-- Outside the part with the scheduler suspended, a task that looks is about to enter. -/
theorem looks_eq_entering {activity : Option (Call×Place)} (hout : inside activity≠true)
    (side : Side) : looks side activity=
      activity.any fun a => a.1.side=side && a.2=.entry := by
  cases activity with
  | none => rfl
  | some a =>
    obtain ⟨call,place⟩ := a
    cases place <;> first | rfl | exact absurd rfl hout

/-- While the scheduler runs, the tasks that are going to come to the critical section are before
it. -/
theorem Sound.ready_eq {s : System τ} (h : Sound xItemValue uxNumberOfTasks s)
    (hnone : s.suspended=none) (side : Side) : s.ready side=(s.entering side).card := by
  refine congrArg Finset.card (Finset.filter_congr fun task _ => and_congr_left fun _ => ?_)
  have hout : inside (s.tasks task)≠true := by
    intro hin
    have hsuspended := (h.suspended task).mpr hin
    rw [hnone] at hsuspended
    cases hsuspended
  exact iff_of_eq (congrArg (·=true) (looks_eq_entering hout side))

/-- While the scheduler runs and tasks wait, what they wait for has others that are about to take
it. -/
theorem Sound.amount_le {s : System τ} (h : Sound xItemValue uxNumberOfTasks s)
    (hnone : s.suspended=none) {side : Side} (hwaiting : side.waiting s.queue≠[]) :
    side.amount s.queue≤(s.entering side).card := by
  have hmatched := h.matched side (List.length_pos_iff.mpr hwaiting).ne'
  rw [h.free hnone side,h.ready_eq hnone side] at hmatched
  unfold queueUnlocked at hmatched
  omega

/-- When nobody is about to enter there is nothing to take. -/
theorem Sound.amount_zero {s : System τ} (h : Sound xItemValue uxNumberOfTasks s)
    (hnone : s.suspended=none)
    (hwait : ∀ task, s.tasks task=none ∨ ∃ side : Side, task∈side.waiting s.queue) {side : Side}
    (hwaiting : side.waiting s.queue≠[]) : side.amount s.queue=0 := by
  have hnobody : s.entering side=∅ := by
    refine Finset.filter_eq_empty_iff.mpr fun task _ hentering => ?_
    obtain ⟨henter,hnot⟩ := hentering
    obtain ⟨⟨call,place⟩,htask,hplace⟩ := (Option.any_eq_true _ _).mp henter
    have hside : call.side=side := of_decide_eq_true (Bool.and_eq_true_iff.mp hplace).1
    rcases hwait task with hidle|⟨other,hmem⟩
    · rw [htask] at hidle
      cases hidle
    · have hlooks := h.waits other task hmem
      rw [htask] at hlooks
      have hother : call.side=other := of_decide_eq_true (Bool.and_eq_true_iff.mp hlooks).1
      rw [←hother,hside] at hmem
      exact hnot hmem
  have hle := h.amount_le hnone hwaiting
  rw [hnobody,Finset.card_empty] at hle
  exact Nat.le_zero.mp hle

/-- Whatever tasks, ticks and interrupts do, no wakeup is lost: when the scheduler runs, the queue
is not locked, and while tasks wait for messages or free places there are as many others about to
take them as there are of these. The locks never count further than the number of tasks, and the
event lists keep the order in which tasks are to be woken. -/
theorem no_wakeup_lost (htasks : Fintype.card τ≤uxNumberOfTasks) {uxQueueLength : ℕ}
    (hlength : 0<uxQueueLength) (uxItemSize : ℕ) (pcHead : ℤ) (storage : ℤ → UInt8)
    {events : List (Event τ)} (h : (queueMachine xItemValue uxNumberOfTasks).Guarded Admits
      (newSystem uxQueueLength uxItemSize pcHead storage) events) (side : Side) :
    let s := (queueMachine xItemValue uxNumberOfTasks).run
      (newSystem uxQueueLength uxItemSize pcHead storage) events
    queueUnlocked ≤ side.lock s.queue ∧ side.lock s.queue≤uxNumberOfTasks ∧
      Ordered xItemValue (side.waiting s.queue) ∧
      (s.suspended=none → side.lock s.queue=queueUnlocked ∧
        (side.waiting s.queue≠[] → side.amount s.queue≤(s.entering side).card)) := by
  intro s
  have hsound : Sound xItemValue uxNumberOfTasks s :=
    run_sound htasks hlength uxItemSize pcHead storage h
  have hbounds : queueUnlocked ≤ side.lock s.queue ∧ side.lock s.queue≤uxNumberOfTasks := by
    by_cases hfree : side.lock s.queue=queueUnlocked
    · rw [hfree]
      unfold queueUnlocked
      omega
    · have hbounds := hsound.lock_bounds side hfree
      unfold queueUnlocked
      omega
  refine ⟨hbounds.1,hbounds.2,hsound.ordered side,fun hnone => ?_⟩
  exact ⟨hsound.free hnone side,hsound.amount_le hnone⟩

/-- Two takers that wait, and a semaphore that is given once. -/
def bothWait : List (Event Bool) :=
  [.call true (.semaphoreTake true),.advance true false,.advance true false,.advance true false,
    .advance true false,.advance true false,.advance true false,.advance true false,
    .advance true false,.advance true false,.call false (.semaphoreTake true),
    .advance false false,.advance false false,.advance false false,.advance false false,
    .advance false false,.advance false false,.advance false false,.advance false false,
    .advance false false,.giveFromISR]

/-- The first of them is about to take it while the second still waits. -/
theorem bothWait_not_lost :
    let s := (queueMachine (fun _ => 0) 2).run (newSystem 3 0 96 fun _ => 0) bothWait
    (s.suspended=none ∧ Side.receive.waiting s.queue=[false] ∧ Side.receive.amount s.queue=1) ∧
      queueUnlocked≤Side.receive.lock s.queue ∧ Side.receive.lock s.queue≤(2 : ℕ) ∧
      Ordered (fun _ => 0) (Side.receive.waiting s.queue) ∧
      (s.suspended=none → Side.receive.lock s.queue=queueUnlocked ∧
        (Side.receive.waiting s.queue≠[] →
          Side.receive.amount s.queue≤(s.entering .receive).card)) :=
  ⟨by decide,no_wakeup_lost (by decide) (by decide) _ _ _ (by decide) .receive⟩

/-- A queue never stalls: when the scheduler runs and every task that is in a call waits, receivers
wait only for an empty queue and senders for a full one, and never both. -/
theorem queue_never_stalls (htasks : Fintype.card τ≤uxNumberOfTasks) {uxQueueLength : ℕ}
    (hlength : 0<uxQueueLength) (uxItemSize : ℕ) (pcHead : ℤ) (storage : ℤ → UInt8)
    {events : List (Event τ)} (h : (queueMachine xItemValue uxNumberOfTasks).Guarded Admits
      (newSystem uxQueueLength uxItemSize pcHead storage) events)
    (hnone : ((queueMachine xItemValue uxNumberOfTasks).run
      (newSystem uxQueueLength uxItemSize pcHead storage) events).suspended=none)
    (hwait : ∀ task, ((queueMachine xItemValue uxNumberOfTasks).run
      (newSystem uxQueueLength uxItemSize pcHead storage) events).tasks task=none ∨
      ∃ side : Side, task∈side.waiting ((queueMachine xItemValue uxNumberOfTasks).run
        (newSystem uxQueueLength uxItemSize pcHead storage) events).queue) :
    let queue := ((queueMachine xItemValue uxNumberOfTasks).run
      (newSystem uxQueueLength uxItemSize pcHead storage) events).queue
    (queue.xTasksWaitingToReceive≠[] → queue.uxMessagesWaiting=0) ∧
      (queue.xTasksWaitingToSend≠[] → queue.uxMessagesWaiting=uxQueueLength) ∧
      (queue.xTasksWaitingToReceive=[] ∨ queue.xTasksWaitingToSend=[]) := by
  intro queue
  have hsound := @run_sound τ _ _ xItemValue _ htasks _ hlength uxItemSize pcHead storage _ h
  obtain ⟨⟨items,-,hholds⟩,hkept,-⟩ := run_items xItemValue uxNumberOfTasks
    (holds_new hlength uxItemSize pcHead storage) (fun _ _ _ h => by cases h) h
  have hroom := hholds.room
  rw [hholds.count,hkept] at hroom
  have hreceive : queue.xTasksWaitingToReceive≠[] → queue.uxMessagesWaiting=0 := fun hwaiting =>
    @Sound.amount_zero τ _ _ _ _ _ hsound hnone hwait .receive hwaiting
  have hsend : queue.xTasksWaitingToSend≠[] → queue.uxMessagesWaiting=uxQueueLength := by
    intro hwaiting
    have hfull : queue.uxLength-queue.uxMessagesWaiting=0 :=
      @Sound.amount_zero τ _ _ _ _ _ hsound hnone hwait .send hwaiting
    have hlength' : queue.uxLength=uxQueueLength := hkept
    have hroom' : queue.uxMessagesWaiting≤uxQueueLength := hroom
    omega
  refine ⟨hreceive,hsend,?_⟩
  by_contra hboth
  obtain ⟨hreceivers,hsenders⟩ := not_or.mp hboth
  have hzero := hreceive hreceivers
  have hall := hsend hsenders
  omega

/-- A receiver that waits, and a semaphore that is given between two takers. -/
def oneWaits : List (Event Bool) :=
  [.call true (.semaphoreTake true),.advance true false,.advance true false,.advance true false,
    .advance true false,.advance true false,.advance true false,.advance true false,
    .advance true false,.advance true false,.giveFromISR,.call false (.semaphoreTake false),
    .advance false false,.advance true false,.advance true false,.advance true false,
    .advance true false,.advance true false,.advance true false,.advance true false,
    .advance true false,.advance true false]

/-- The receiver whose message another one took waits again, and for an empty queue. -/
theorem oneWaits_not_stalled :
    let queue := ((queueMachine (fun _ => 0) 2).run (newSystem 3 0 96 fun _ => 0) oneWaits).queue
    (queue.xTasksWaitingToReceive≠[] → queue.uxMessagesWaiting=0) ∧
      (queue.xTasksWaitingToSend≠[] → queue.uxMessagesWaiting=3) ∧
      (queue.xTasksWaitingToReceive=[] ∨ queue.xTasksWaitingToSend=[]) :=
  queue_never_stalls (by decide) (by decide) _ _ _ (by decide) (by decide) fun task =>
    match task with
    | false => Or.inl (by decide)
    | true => Or.inr ⟨.receive,by decide⟩

end Invariant

end WebDataLogger.KernelQueue
