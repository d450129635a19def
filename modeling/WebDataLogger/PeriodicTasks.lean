import WebDataLogger.KernelClockRuns

/-!
# Periodic tasks do not drift

The tasks of the firmware read the tick count once and then call `vTaskDelayUntil` at the end
of every loop. Whatever else a loop waits for, and however long it takes up to a turn of the tick
counter, the loop after the next call starts on the grid of its period.
-/

namespace WebDataLogger.KernelClock

open TransitionRuns

section Ticks

variable {τ : Type*}

/-- Ticks advance the clock. -/
theorem Clock.ticks_now (c : Clock τ) (count : ℕ) : (c.ticks count).1.now=c.now+count := by
  induction count generalizing c with
  | zero => rfl
  | succ count ih =>
    rw [Clock.ticks]
    dsimp only
    rw [ih]
    exact Nat.succ_add_eq_add_succ c.now count

/-- What comes during a call advances the clock by its ticks. -/
theorem Clock.resume_now [DecidableEq τ] (c : Clock τ) (pendingReady : List τ) (pendedTicks : ℕ) :
    (c.resume pendingReady pendedTicks).1.now=c.now+pendedTicks := by
  have hsignals : (pendingReady.foldl Clock.signal c).now=c.now :=
    List.foldlRecOn (motive := fun c' : Clock τ => c'.now=c.now) pendingReady Clock.signal rfl
      fun _ h _ _ => h
  rw [Clock.resume,Clock.ticks_now,hsignals]

/-- It does not move the starts of the periods. -/
theorem Clock.resume_lastWake [DecidableEq τ] (c : Clock τ) (pendingReady : List τ)
    (pendedTicks : ℕ) : (c.resume pendingReady pendedTicks).1.lastWake=c.lastWake :=
  Clock.resume_invariant (fun c' => c'.lastWake=c.lastWake) (fun _ _ h => h) (fun _ h => h) rfl
    pendingReady pendedTicks

/-- A task waits for an instant and for nothing else, until it has come. -/
structure Clock.WaitsFor (c : Clock τ) (task : τ) (wake : ℕ) : Prop where
  alone : ∀ e∈c.sleepers, e.task=task → e.wake=wake ∧ e.onEvent=false
  noEvent : task∉c.waiting
  until_wake : (∃ e∈c.sleepers, e.task=task) ↔ c.now<wake

/-- The task is blocked until the instant. -/
theorem Clock.WaitsFor.blocked_iff {c : Clock τ} {task : τ} {wake : ℕ} (h : c.WaitsFor task wake) :
    c.Blocked task ↔ c.now<wake := by
  rw [←h.until_wake,Clock.Blocked,or_iff_left h.noEvent]

/-- A tick ends the wait when the instant has come. -/
theorem Clock.WaitsFor.tick {c : Clock τ} {task : τ} {wake : ℕ} (h : c.WaitsFor task wake) :
    c.tick.1.WaitsFor task wake := by
  refine ⟨fun e he => h.alone e (List.mem_filter.mp he).1,h.noEvent,?_⟩
  constructor
  · rintro ⟨e,he,htask⟩
    obtain ⟨hmem,hne⟩ := List.mem_filter.mp he
    have hwake := (h.alone e hmem htask).1
    have hlt := h.until_wake.mp ⟨e,hmem,htask⟩
    have hne' : e.wake≠c.now+1 := by simpa using hne
    exact show c.now+1<wake by omega
  · intro hlt
    have hlt' : c.now+1<wake := hlt
    obtain ⟨e,hmem,htask⟩ := h.until_wake.mpr (by omega)
    have hwake := (h.alone e hmem htask).1
    refine ⟨e,List.mem_filter.mpr ⟨hmem,?_⟩,htask⟩
    rw [decide_eq_true_eq]
    omega

/-- An event does not end the wait. -/
theorem Clock.WaitsFor.signal [DecidableEq τ] {c : Clock τ} {task : τ} {wake : ℕ}
    (h : c.WaitsFor task wake) (other : τ) : (c.signal other).WaitsFor task wake := by
  refine ⟨fun e he => h.alone e (List.mem_filter.mp he).1,
    fun hmem => h.noEvent (List.mem_filter.mp hmem).1,?_⟩
  refine Iff.trans ?_ h.until_wake
  constructor
  · rintro ⟨e,he,htask⟩
    exact ⟨e,(List.mem_filter.mp he).1,htask⟩
  · rintro ⟨e,he,htask⟩
    refine ⟨e,List.mem_filter.mpr ⟨he,?_⟩,htask⟩
    rw [Sleeper.awaits,(h.alone e he htask).2,Bool.and_false,Bool.not_false]

/-- Another task may go to sleep. -/
theorem Clock.WaitsFor.sleep {c : Clock τ} {task : τ} {wake : ℕ} (h : c.WaitsFor task wake)
    (wake' : ℕ) {other : τ} (onEvent : Bool) (hother : other≠task) :
    (c.sleep wake' other onEvent).WaitsFor task wake := by
  have hmem : ∀ e∈(c.sleep wake' other onEvent).sleepers, e.task=task → e∈c.sleepers := by
    intro e he htask
    rcases List.mem_append.mp he with he|he
    · exact he
    · rw [List.mem_singleton.mp he] at htask
      exact absurd htask hother
  refine ⟨fun e he htask => h.alone e (hmem e he htask) htask,h.noEvent,?_⟩
  constructor
  · rintro ⟨e,he,htask⟩
    exact h.until_wake.mp ⟨e,hmem e he htask,htask⟩
  · intro hlt
    obtain ⟨e,he,htask⟩ := h.until_wake.mpr hlt
    exact ⟨e,List.mem_append_left _ he,htask⟩

end Ticks

section Grid

variable {τ : Type*} [DecidableEq τ]

/-- Ticks processed in an event. -/
def Event.ticks : Event τ → ℕ
  | .tick => 1
  | .call _ _ pendedTicks => pendedTicks.toNat

/-- Ticks processed in a run. -/
def elapsed (events : List (Event τ)) : ℕ := (events.map Event.ticks).sum

/-- The task that makes a call. -/
def Call.caller : Call τ → Option τ
  | .getTickCount task => some task
  | .delay task _ => some task
  | .delayUntil task _ => some task
  | .placeOnEventList task _ => some task
  | .signal _ => none

/-- A call of a task. -/
def Event.IsCallOf (task : τ) : Event τ → Prop
  | .tick => False
  | .call c _ _ => c.caller=some task

/-- A call of `vTaskDelayUntil` by a task. -/
def Event.endsPeriodOf (task : τ) : Event τ → Bool
  | .call (.delayUntil other _) _ _ => other=task
  | _ => false

/-- A task keeps to its period: it does not read the tick count again and calls
`vTaskDelayUntil` with the same increment. It may wait for other things. -/
def Event.KeepsPeriod (task : τ) (period : UInt32) : Event τ → Prop
  | .call (.getTickCount other) _ _ => other≠task
  | .call (.delayUntil other timeIncrement) _ _ => other=task → timeIncrement=period
  | _ => True

/-- A call takes no time of its own. -/
theorem Clock.call_now (c : Clock τ) (k : Call τ) : (c.call k).now=c.now := by
  cases k with
  | getTickCount task => rfl
  | delay task ticksToDelay =>
    rw [Clock.call]
    split <;> rfl
  | delayUntil task timeIncrement =>
    rw [Clock.call]
    split <;> rfl
  | placeOnEventList task ticksToWait =>
    rw [Clock.call]
    split
    · rfl
    · split <;> rfl
  | signal task => rfl

/-- The clock shows the ticks of the run. -/
theorem clock_now (events : List (Event τ)) : (clock.run clockBoot events).now=elapsed events := by
  induction events using List.reverseRecOn with
  | nil => rfl
  | append_singleton events e ih =>
    have hsum : elapsed (events++[e])=elapsed events+e.ticks := by
      rw [elapsed,List.map_append,List.sum_append,List.map_singleton,List.sum_singleton]
      rfl
    rw [Machine.run_snoc,hsum,←ih]
    cases e with
    | tick => rfl
    | call k pendingReady pendedTicks =>
      change ((Clock.call _ k).resume _ _).1.now=_
      rw [Clock.resume_now,Clock.call_now]
      rfl

/-- What a call does to the start of the period of a task. -/
theorem Clock.call_lastWake (c : Clock τ) (k : Call τ) (task : τ) : (c.call k).lastWake task=
    match k with
    | .getTickCount other => if other=task then c.now else c.lastWake task
    | .delayUntil other timeIncrement =>
      if other=task then c.lastWake task+timeIncrement.toNat else c.lastWake task
    | _ => c.lastWake task := by
  have hupdate : ∀ (other : τ) (wake : ℕ), Function.update c.lastWake other wake task=
      if other=task then wake else c.lastWake task := by
    intro other wake
    rw [Function.update_apply]
    exact if_congr eq_comm rfl rfl
  cases k with
  | getTickCount other => exact hupdate other c.now
  | delay other ticksToDelay =>
    rw [Clock.call]
    split <;> rfl
  | delayUntil other timeIncrement =>
    have hlast : (c.call (.delayUntil other timeIncrement)).lastWake=
        Function.update c.lastWake other (c.lastWake other+timeIncrement.toNat) := by
      rw [Clock.call]
      split <;> rfl
    rw [hlast,hupdate]
    dsimp only
    split
    next heq => rw [heq]
    next => rfl
  | placeOnEventList other ticksToWait =>
    rw [Clock.call]
    split
    · rfl
    · split <;> rfl
  | signal other => rfl

/-- The start of a period moves by its length with every call that ends one. -/
theorem lastWake_step {task : τ} {period : UInt32} {e : Event τ} (h : e.KeepsPeriod task period)
    (c : Clock τ) : (clock.step c e).1.lastWake task=
      c.lastWake task+(if e.endsPeriodOf task=true then 1 else 0)*period.toNat := by
  cases e with
  | tick => simp [Event.endsPeriodOf,clock,Clock.tick]
  | call k pendingReady pendedTicks =>
    change ((c.call k).resume _ _).1.lastWake task=_
    rw [Clock.resume_lastWake,Clock.call_lastWake]
    cases k with
    | getTickCount other => simpa [Event.endsPeriodOf] using fun heq => absurd heq h
    | delayUntil other timeIncrement =>
      by_cases heq : other=task
      · simp [Event.endsPeriodOf,heq,h heq]
      · simp [Event.endsPeriodOf,heq]
    | _ => simp [Event.endsPeriodOf]

/-- Over a run the period starts on its grid. -/
theorem lastWake_run {task : τ} {period : UInt32} {events : List (Event τ)}
    (h : ∀ e∈events, e.KeepsPeriod task period) (c : Clock τ) :
    (clock.run c events).lastWake task=
      c.lastWake task+events.countP (Event.endsPeriodOf task)*period.toNat := by
  induction events generalizing c with
  | nil => exact (Nat.zero_mul _ ▸ rfl)
  | cons e events ih =>
    rw [Machine.run,ih (fun e' he' => h e' (List.mem_cons_of_mem e he')),
      lastWake_step (h e List.mem_cons_self),List.countP_cons,Nat.add_mul,Nat.add_assoc,
      Nat.add_comm (_*_)]

/-- Calls of other tasks, and events, leave the wait as it is. -/
theorem Clock.WaitsFor.call {c : Clock τ} {task : τ} {wake : ℕ} (h : c.WaitsFor task wake)
    {k : Call τ} (hk : k.caller≠some task) : (c.call k).WaitsFor task wake := by
  cases k with
  | getTickCount other => exact ⟨h.alone,h.noEvent,h.until_wake⟩
  | delay other ticksToDelay =>
    have hother : other≠task := fun heq => hk (congrArg some heq)
    rw [Clock.call]
    split
    · exact h.sleep _ false hother
    · exact h
  | delayUntil other timeIncrement =>
    have hother : other≠task := fun heq => hk (congrArg some heq)
    have hset : ∀ last, {c with lastWake := last}.WaitsFor task wake := fun _ =>
      ⟨h.alone,h.noEvent,h.until_wake⟩
    rw [Clock.call]
    split
    · exact (hset _).sleep _ false hother
    · exact hset _
  | placeOnEventList other ticksToWait =>
    have hother : other≠task := fun heq => hk (congrArg some heq)
    rw [Clock.call]
    split
    · refine ⟨h.alone,fun hmem => ?_,h.until_wake⟩
      rcases List.mem_append.mp hmem with hmem|hmem
      · exact h.noEvent hmem
      · exact hother (List.mem_singleton.mp hmem).symm
    · split
      · exact h.sleep _ true hother
      · exact h
  | signal other => exact h.signal other

/-- So does what comes during a call. -/
theorem Clock.WaitsFor.resume {c : Clock τ} {task : τ} {wake : ℕ} (h : c.WaitsFor task wake)
    (pendingReady : List τ) (pendedTicks : ℕ) :
    (c.resume pendingReady pendedTicks).1.WaitsFor task wake :=
  Clock.resume_invariant (fun c' => c'.WaitsFor task wake) (fun _ other hc => hc.signal other)
    (fun _ => Clock.WaitsFor.tick) h pendingReady pendedTicks

/-- The wait over a run without calls of the task. -/
theorem Clock.WaitsFor.run {c : Clock τ} {task : τ} {wake : ℕ} (h : c.WaitsFor task wake)
    {events : List (Event τ)} (hevents : ∀ e∈events, ¬e.IsCallOf task) :
    (clock.run c events).WaitsFor task wake := by
  induction events generalizing c with
  | nil => exact h
  | cons e events ih =>
    refine ih ?_ fun e' he' => hevents e' (List.mem_cons_of_mem e he')
    cases e with
    | tick => exact h.tick
    | call k pendingReady pendedTicks =>
      exact (h.call (hevents _ List.mem_cons_self)).resume _ _

/-- After `vTaskDelayUntil` a task waits for the start of its next period. -/
theorem waitsFor_delayUntil {c : Clock τ} {task : τ} (hready : ¬c.Blocked task)
    (timeIncrement : UInt32) : (c.call (.delayUntil task timeIncrement)).WaitsFor task
      (c.lastWake task+timeIncrement.toNat) := by
  have hnone : ∀ e∈c.sleepers, e.task≠task := fun e he htask => hready (Or.inl ⟨e,he,htask⟩)
  have hwaiting : task∉c.waiting := fun hmem => hready (Or.inr hmem)
  rw [Clock.call]
  split
  next hlater =>
    refine ⟨fun e he htask => ?_,hwaiting,iff_of_true ⟨_,List.mem_append_right _
      List.mem_cons_self,rfl⟩ hlater⟩
    rcases List.mem_append.mp he with he|he
    · exact absurd htask (hnone e he)
    · rw [List.mem_singleton.mp he]
      exact ⟨rfl,rfl⟩
  next hnow =>
    refine ⟨fun e he htask => absurd htask (hnone e he),hwaiting,iff_of_false ?_ hnow⟩
    rintro ⟨e,he,htask⟩
    exact hnone e he htask

/-- A task that read the tick count once and since then called `vTaskDelayUntil` with one
increment is blocked after such a call exactly until that many periods have passed since it
read the count, whatever else it waited for, and however late it was for a period, as long as
it called `vTaskDelayUntil` less than one turn of the tick counter after the period began. -/
theorem released_on_grid {task : τ} {period startPended endPended : UInt32}
    {startReady endReady : List τ} {past body tail events : List (Event τ)}
    (hevents : events=past++.call (.getTickCount task) startReady startPended::
      (body++.call (.delayUntil task period) endReady endPended::tail))
    (h : Admissible events) (hbody : ∀ e∈body, e.KeepsPeriod task period)
    (htail : ∀ e∈tail, ¬e.IsCallOf task) :
    (kernel.run kernelBoot events).Blocked task ↔
      elapsed events<elapsed past+(body.countP (Event.endsPeriodOf task)+1)*period.toNat := by
  rw [(kernel_keeps_time h).2,←clock_now events]
  have hstart : (clock.run clockBoot
      (past++[.call (.getTickCount task) startReady startPended])).lastWake task=elapsed past := by
    rw [Machine.run_snoc,←clock_now past]
    change ((Clock.call _ _).resume _ _).1.lastWake task=_
    rw [Clock.resume_lastWake,Clock.call_lastWake]
    exact if_pos rfl
  have hsplit : events=(past++.call (.getTickCount task) startReady startPended::body)++
      .call (.delayUntil task period) endReady endPended::tail := by
    rw [hevents,List.append_assoc,List.cons_append]
  have hready := (Machine.Guarded.split (hsplit▸h)).1
  have hgrid : (clock.run clockBoot
      (past++.call (.getTickCount task) startReady startPended::body)).lastWake task=
        elapsed past+body.countP (Event.endsPeriodOf task)*period.toNat := by
    rw [List.append_cons,Machine.run_append,lastWake_run hbody,hstart]
  have hwaits := (waitsFor_delayUntil hready period).resume endReady endPended.toNat
  have hrun := Clock.WaitsFor.run hwaits htail
  rw [hsplit,Machine.run_append]
  rw [hgrid] at hrun
  rw [Nat.add_mul,Nat.one_mul,←Nat.add_assoc]
  exact hrun.blocked_iff

/-- In a run with a late loop the task is released at the third tick of its grid of two. -/
theorem lateLoop_released : (kernel.run kernelBoot lateLoop).Blocked true ↔
    elapsed lateLoop<elapsed ([] : List (Event Bool))+(2+1)*2 := by
  have hbody : ∀ e∈(lateLoop.drop 1).take 9, e.KeepsPeriod true 2 := by
    simp [lateLoop,Event.KeepsPeriod]
  have htail : ∀ e∈lateLoop.drop 11, ¬e.IsCallOf true := by
    simp [lateLoop,Event.IsCallOf,Call.caller]
  exact @released_on_grid Bool _ true 2 0 1 [] [false] [] _ _ lateLoop rfl (by decide) hbody htail

end Grid

end WebDataLogger.KernelClock
