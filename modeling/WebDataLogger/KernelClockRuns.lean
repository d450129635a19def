import Mathlib.Data.List.Basic
import WebDataLogger.KernelClock

/-!
# The kernel keeps time

In every run the kernel makes the same tasks ready at the same ticks and in the same order
as the clock that never wraps.
-/

namespace WebDataLogger.KernelClock

open TransitionRuns StableQueue WrappedTime

section Shows

variable {τ : Type*}

/-- A sleeper as the kernel stores it. -/
def shown (e : Sleeper ℕ τ) : Sleeper UInt32 τ := ⟨UInt32.ofNat e.wake,e.task,e.onEvent⟩

/-- The kernel shows the clock. The sleepers of this turn of the tick counter and those of
the next are kept apart, each in the order of their instants. -/
structure Shows (s : Kernel τ) (c : Clock τ) (current next : List (Sleeper ℕ τ)) : Prop where
  tick : s.tickCount.toNat=c.now%2^32
  delayed : s.delayed=current.map shown
  overflowDelayed : s.overflowDelayed=next.map shown
  currentOrdered : Ordered Sleeper.wake current
  nextOrdered : Ordered Sleeper.wake next
  currentTurn : ∀ e∈current, c.now<e.wake ∧ e.wake/2^32=c.now/2^32
  nextTurn : ∀ e∈next, e.wake/2^32=c.now/2^32+1
  /-- Those of one instant stand in the order in which they came. -/
  history : ∀ w, (current++next).filter (fun e => e.wake=w)=c.sleepers.filter (fun e => e.wake=w)
  /-- The next scan of the list comes in time. -/
  unblock : ∀ e∈current, s.nextTaskUnblockTime.toNat≤e.wake%2^32
  suspended : s.suspended=c.waiting
  lastWake : ∀ task, (s.lastWakeTime task).toNat=c.lastWake task%2^32

/-- The stored value is the instant modulo the counter. -/
theorem shown_wake (e : Sleeper ℕ τ) : (shown e).wake.toNat=e.wake%2^32 := UInt32.toNat_ofNat

/-- Insertion into a list of the kernel is insertion by the instants. -/
theorem vListInsert_shown {list : List (Sleeper ℕ τ)} {e : Sleeper ℕ τ}
    (hturn : ∀ b∈list, b.wake/2^32=e.wake/2^32) :
    vListInsert (list.map shown) (shown e)=(enqueue Sleeper.wake e list).map shown := by
  have hinsert : vListInsert (list.map shown) (shown e)=
      enqueue (fun e => e.wake.toNat) (shown e) (list.map shown) := by
    unfold vListInsert
    split
    next hmax =>
      refine (enqueue_of_le (fun e : Sleeper UInt32 τ => e.wake.toNat) ?_).symm
      intro b _
      have hlt := b.wake.toNat_lt
      have hvalue : (shown e).wake.toNat=4294967295 := congrArg UInt32.toNat hmax
      omega
    next => rfl
  refine hinsert.trans (map_enqueue Sleeper.wake fun b hb => ?_).symm
  rw [shown_wake,shown_wake]
  exact (mod_le_mod_iff (hturn b hb)).symm

/-- The scan of the delayed list makes ready those whose instant has come. -/
theorem unblockLoop_shown {tickCount : UInt32} {now : ℕ} {list : List (Sleeper ℕ τ)}
    (htick : tickCount.toNat=now%2^32) (hordered : Ordered Sleeper.wake list)
    (hturn : ∀ e∈list, now≤e.wake ∧ e.wake/2^32=now/2^32) :
    (unblockLoop tickCount (list.map shown)).1=
        (list.filter (fun e => e.wake=now)).map Sleeper.task ∧
      (unblockLoop tickCount (list.map shown)).2.1=
        (list.filter (fun e => e.wake≠now)).map shown ∧
      ∀ e∈list.filter (fun e => e.wake≠now),
        (unblockLoop tickCount (list.map shown)).2.2.toNat≤e.wake%2^32 := by
  induction list with
  | nil => exact ⟨rfl,rfl,nofun⟩
  | cons e list ih =>
    obtain ⟨hhead,htail⟩ := List.pairwise_cons.mp hordered
    obtain ⟨hnow,hsame⟩ := hturn e List.mem_cons_self
    have hlt : tickCount<(shown e).wake ↔ now<e.wake := by
      rw [UInt32.lt_iff_toNat_lt,htick,shown_wake]
      exact mod_lt_mod_iff hsame.symm
    rw [List.map_cons,unblockLoop]
    by_cases hlater : now<e.wake
    · -- The list is ordered, so that no task behind this one is due.
      have hall : ∀ b∈e::list, now<b.wake := by
        intro b hb
        rcases List.mem_cons.mp hb with rfl|hb
        · exact hlater
        · exact hlater.trans_le (hhead b hb)
      have hnone : (e::list).filter (fun b => b.wake=now)=[] := by
        rw [List.filter_eq_nil_iff]
        intro b hb
        simpa using (hall b hb).ne'
      have hrest : (e::list).filter (fun b => b.wake≠now)=e::list := by
        rw [List.filter_eq_self]
        intro b hb
        simpa using (hall b hb).ne'
      rw [if_pos (hlt.mpr hlater),hnone,hrest]
      refine ⟨rfl,rfl,fun b hb => ?_⟩
      rw [shown_wake]
      rcases List.mem_cons.mp hb with rfl|hb'
      · exact le_refl _
      · exact (mod_le_mod_iff (hsame.trans (hturn b hb).2.symm)).mpr (hhead b hb')
    · have heq : e.wake=now := by omega
      obtain ⟨hwoken,hleft,hnext⟩ := ih htail (fun b hb => hturn b (List.mem_cons_of_mem e hb))
      rw [if_neg (fun h => hlater (hlt.mp h)),List.filter_cons_of_pos (by simpa using heq),
        List.filter_cons_of_neg (by simpa using heq)]
      exact ⟨congrArg (List.cons e.task) hwoken,hleft,hnext⟩

/-- The end of a tick, with the list of the present turn. -/
theorem unblockTasks_shown {s : Kernel τ} {now : ℕ} {list : List (Sleeper ℕ τ)}
    (htick : s.tickCount.toNat=now%2^32) (hdelayed : s.delayed=list.map shown)
    (hordered : Ordered Sleeper.wake list)
    (hturn : ∀ e∈list, now≤e.wake ∧ e.wake/2^32=now/2^32)
    (hunblock : ∀ e∈list, s.nextTaskUnblockTime.toNat≤e.wake%2^32) :
    ∃ nextTaskUnblockTime, unblockTasks s=
        ({s with
          delayed := (list.filter (fun e => e.wake≠now)).map shown
          nextTaskUnblockTime},(list.filter (fun e => e.wake=now)).map Sleeper.task) ∧
      ∀ e∈list.filter (fun e => e.wake≠now), nextTaskUnblockTime.toNat≤e.wake%2^32 := by
  unfold unblockTasks
  split
  next =>
    obtain ⟨hwoken,hleft,hnext⟩ := unblockLoop_shown htick hordered hturn
    refine ⟨(unblockLoop s.tickCount (list.map shown)).2.2,?_,hnext⟩
    dsimp only
    rw [hdelayed,hwoken,hleft]
  next hearly =>
    -- No task of the list is due before the recorded time.
    have hlater : ∀ e∈list, e.wake≠now := by
      rintro e he rfl
      have hlow := hunblock e he
      rw [UInt32.le_iff_toNat_le,htick] at hearly
      exact hearly hlow
    have hnone : list.filter (fun e => e.wake=now)=[] := by
      rw [List.filter_eq_nil_iff]
      intro e he
      simpa using hlater e he
    have hrest : list.filter (fun e => e.wake≠now)=list := by
      rw [List.filter_eq_self]
      intro e he
      simpa using hlater e he
    refine ⟨s.nextTaskUnblockTime,?_,?_⟩
    · rw [hnone,hrest,←hdelayed]
      rfl
    · rw [hrest]
      exact hunblock

/-- The kernel between the two halves of a tick: the tick is counted, and those that wait for
it are in the list of the present turn. -/
structure Counted (s : Kernel τ) (c : Clock τ) (list later : List (Sleeper ℕ τ)) : Prop where
  tick : s.tickCount.toNat=(c.now+1)%2^32
  delayed : s.delayed=list.map shown
  overflowDelayed : s.overflowDelayed=later.map shown
  listOrdered : Ordered Sleeper.wake list
  laterOrdered : Ordered Sleeper.wake later
  listTurn : ∀ e∈list, c.now+1≤e.wake ∧ e.wake/2^32=(c.now+1)/2^32
  laterTurn : ∀ e∈later, e.wake/2^32=(c.now+1)/2^32+1
  history : ∀ w, (list++later).filter (fun e => e.wake=w)=c.sleepers.filter (fun e => e.wake=w)
  unblock : ∀ e∈list, s.nextTaskUnblockTime.toNat≤e.wake%2^32
  suspended : s.suspended=c.waiting
  lastWake : ∀ task, (s.lastWakeTime task).toNat=c.lastWake task%2^32

/-- The recorded time of a list is that of its first task. -/
theorem nextUnblockTime_le {list : List (Sleeper ℕ τ)} (hordered : Ordered Sleeper.wake list)
    {turn : ℕ} (hturn : ∀ e∈list, e.wake/2^32=turn) :
    ∀ e∈list, (nextUnblockTime (list.map shown)).toNat≤e.wake%2^32 := by
  cases list with
  | nil => exact nofun
  | cons first rest =>
    intro e he
    have hfirst := hturn first List.mem_cons_self
    rw [List.map_cons,nextUnblockTime,shown_wake]
    rcases List.mem_cons.mp he with rfl|hrest
    · exact le_refl _
    · exact (mod_le_mod_iff (hfirst.trans (hturn e he).symm)).mpr
        ((List.pairwise_cons.mp hordered).1 e hrest)

/-- The first half of a tick. Where the counter wraps, the list that is given away is empty. -/
theorem Shows.count {s : Kernel τ} {c : Clock τ} {current next : List (Sleeper ℕ τ)}
    (h : Shows s c current next) :
    (countTick s).2=[] ∧ ∃ list later, Counted (countTick s).1 c list later := by
  have htick : (s.tickCount+1).toNat=(c.now+1)%2^32 := by
    rw [UInt32.toNat_add,h.tick]
    exact mod_add c.now 1
  have hzero : s.tickCount+1=0 ↔ (c.now+1)%2^32=0 := by
    rw [←UInt32.toNat_inj,htick]
    rfl
  have hsucc : (c.now+1)/2^32=c.now/2^32+if (c.now+1)%2^32=0 then 1 else 0 := turn_succ c.now
  by_cases hwrap : (c.now+1)%2^32=0
  · rw [if_pos hwrap] at hsucc
    have hempty : current=[] := by
      rw [List.eq_nil_iff_forall_not_mem]
      intro e he
      obtain ⟨hlater,hturn⟩ := h.currentTurn e he
      have hmono : (c.now+1)/2^32≤e.wake/2^32 := Nat.div_le_div_right hlater
      omega
    have hcount : countTick s=switchDelayedLists {s with tickCount := s.tickCount+1} :=
      if_pos (hzero.mpr hwrap)
    have hnone : s.delayed=[] := by rw [h.delayed,hempty,List.map_nil]
    rw [hcount]
    constructor
    · rw [switchDelayedLists,hnone]
    · refine ⟨next,[],⟨htick,h.overflowDelayed,hnone,h.nextOrdered,List.Pairwise.nil,?_,nofun,?_,?_,
        h.suspended,h.lastWake⟩⟩
      · intro e he
        have hturn := h.nextTurn e he
        refine ⟨?_,hturn.trans hsucc.symm⟩
        by_contra hlow
        have hmono : e.wake/2^32≤c.now/2^32 := Nat.div_le_div_right (by omega)
        omega
      · intro w
        rw [List.append_nil,←h.history w,hempty,List.nil_append]
      · dsimp only [switchDelayedLists]
        rw [h.overflowDelayed]
        exact nextUnblockTime_le h.nextOrdered h.nextTurn
  · rw [if_neg hwrap,Nat.add_zero] at hsucc
    have hcount : countTick s=({s with tickCount := s.tickCount+1},[]) :=
      if_neg (fun hz => hwrap (hzero.mp hz))
    rw [hcount]
    refine ⟨rfl,current,next,⟨htick,h.delayed,h.overflowDelayed,h.currentOrdered,h.nextOrdered,
      ?_,?_,h.history,h.unblock,h.suspended,h.lastWake⟩⟩
    · intro e he
      rw [hsucc]
      exact h.currentTurn e he
    · intro e he
      rw [hsucc]
      exact h.nextTurn e he

/-- The second half of a tick. -/
theorem Counted.unblock_step {s : Kernel τ} {c : Clock τ} {list later : List (Sleeper ℕ τ)}
    (h : Counted s c list later) :
    [.tick (unblockTasks s).2]=c.tick.2 ∧
      Shows (unblockTasks s).1 c.tick.1 (list.filter (fun e => e.wake≠c.now+1)) later := by
  obtain ⟨nextTaskUnblockTime,hscan,hnext⟩ :=
    unblockTasks_shown h.tick h.delayed h.listOrdered h.listTurn h.unblock
  have hnotnow : ∀ e∈later, e.wake≠c.now+1 := by
    rintro e he heq
    have hturn := h.laterTurn e he
    rw [heq] at hturn
    omega
  have hwoken : list.filter (fun e => e.wake=c.now+1)=
      c.sleepers.filter (fun e => e.wake=c.now+1) := by
    have hnone : later.filter (fun e => e.wake=c.now+1)=[] := by
      rw [List.filter_eq_nil_iff]
      intro e he
      simpa using hnotnow e he
    rw [←h.history,List.filter_append,hnone,List.append_nil]
  have hleft : list.filter (fun e => e.wake≠c.now+1)++later=
      (list++later).filter (fun e => e.wake≠c.now+1) := by
    have hall : later.filter (fun e => e.wake≠c.now+1)=later := by
      rw [List.filter_eq_self]
      intro e he
      simpa using hnotnow e he
    rw [List.filter_append,hall]
  rw [hscan]
  constructor
  · rw [Clock.tick,hwoken]
  · refine ⟨h.tick,rfl,h.overflowDelayed,List.Pairwise.filter _ h.listOrdered,h.laterOrdered,?_,
      h.laterTurn,?_,hnext,h.suspended,h.lastWake⟩
    · intro e he
      obtain ⟨hmem,hne⟩ := List.mem_filter.mp he
      obtain ⟨hge,hturn⟩ := h.listTurn e hmem
      have hne' : e.wake≠c.now+1 := by simpa using hne
      exact ⟨show c.now+1<e.wake by omega,hturn⟩
    · intro w
      rw [hleft,List.filter_comm,h.history,List.filter_comm]
      rfl

/-- A tick of the kernel shows a tick of the clock. -/
theorem Shows.increment {s : Kernel τ} {c : Clock τ} {current next : List (Sleeper ℕ τ)}
    (h : Shows s c current next) :
    (taskIncrementTick s).2=c.tick.2 ∧
      ∃ current' next', Shows (taskIncrementTick s).1 c.tick.1 current' next' := by
  obtain ⟨hquiet,list,later,hcounted⟩ := h.count
  obtain ⟨hanswer,hshows⟩ := hcounted.unblock_step
  refine ⟨?_,_,_,hshows⟩
  rw [taskIncrementTick]
  dsimp only
  rw [hquiet,List.nil_append,hanswer]

/-- A task begins to wait for an instant less than one turn ahead. -/
theorem Shows.sleep {s : Kernel τ} {c : Clock τ} {current next : List (Sleeper ℕ τ)}
    (h : Shows s c current next) (task : τ) (onEvent : Bool) {ticksToWait : UInt32}
    (hpos : 0<ticksToWait) {canBlockIndefinitely : Bool}
    (hlimit : ¬(ticksToWait=portMaxDelay ∧ canBlockIndefinitely=true)) :
    ∃ current' next', Shows
      (addCurrentTaskToDelayedList s task onEvent ticksToWait canBlockIndefinitely)
      (c.sleep (c.now+ticksToWait.toNat) task onEvent) current' next' := by
  have hticks := ticksToWait.toNat_lt
  have hpositive : 0<ticksToWait.toNat := UInt32.lt_iff_toNat_lt.mp hpos
  have hle : c.now≤c.now+ticksToWait.toNat := Nat.le_add_right _ _
  have hlt : c.now+ticksToWait.toNat<c.now+2^32 := by omega
  have hwake : (s.tickCount+ticksToWait).toNat=(c.now+ticksToWait.toNat)%2^32 := by
    rw [UInt32.toNat_add,h.tick]
    exact mod_add _ _
  have hover : s.tickCount+ticksToWait<s.tickCount ↔
      (c.now+ticksToWait.toNat)/2^32=c.now/2^32+1 := by
    rw [UInt32.lt_iff_toNat_lt,hwake,h.tick]
    exact wrapped_iff hle hlt
  generalize he : (⟨c.now+ticksToWait.toNat,task,onEvent⟩ : Sleeper ℕ τ)=e
  have hewake : e.wake=c.now+ticksToWait.toNat := by rw [←he]
  have hitem : (⟨s.tickCount+ticksToWait,task,onEvent⟩ : Sleeper UInt32 τ)=shown e := by
    rw [←he,shown,Sleeper.mk.injEq]
    refine ⟨?_,rfl,rfl⟩
    rw [←UInt32.toNat_inj,hwake]
    exact UInt32.toNat_ofNat.symm
  have hsleep : c.sleep (c.now+ticksToWait.toNat) task onEvent=
      {c with sleepers := c.sleepers++[e]} := by rw [Clock.sleep,he]
  rw [addCurrentTaskToDelayedList,if_neg hlimit,hsleep]
  dsimp only
  rw [hitem]
  by_cases hturn : (c.now+ticksToWait.toNat)/2^32=c.now/2^32+1
  · rw [if_pos (hover.mpr hturn),h.overflowDelayed,
      vListInsert_shown fun b hb => by rw [h.nextTurn b hb,hewake,hturn]]
    refine ⟨current,enqueue Sleeper.wake e next,⟨h.tick,h.delayed,rfl,h.currentOrdered,
      h.nextOrdered.enqueue _ e,h.currentTurn,?_,?_,h.unblock,h.suspended,h.lastWake⟩⟩
    · intro b hb
      rcases (mem_enqueue _).mp hb with rfl|hb
      · rw [hewake]
        exact hturn
      · exact h.nextTurn b hb
    · intro w
      rw [List.filter_append,filter_enqueue _ h.nextOrdered,←List.filter_append,←List.append_assoc,
        List.filter_append,h.history,List.filter_append]
  · have hsame : (c.now+ticksToWait.toNat)/2^32=c.now/2^32 :=
      (turn_cases hle hlt).resolve_right hturn
    rw [if_neg (fun hw => hturn (hover.mp hw)),h.delayed,
      vListInsert_shown fun b hb => by rw [(h.currentTurn b hb).2,hewake,hsame]]
    refine ⟨enqueue Sleeper.wake e current,next,⟨h.tick,rfl,h.overflowDelayed,
      h.currentOrdered.enqueue _ e,h.nextOrdered,?_,h.nextTurn,?_,?_,h.suspended,h.lastWake⟩⟩
    · intro b hb
      rcases (mem_enqueue _).mp hb with rfl|hb
      · rw [hewake]
        exact ⟨show c.now<_ by omega,hsame⟩
      · exact h.currentTurn b hb
    · intro w
      -- No sleeper of the next turn waits for the same instant.
      have hother : e.wake=w → next.filter (fun b => b.wake=w)=[] := by
        intro hw
        rw [List.filter_eq_nil_iff]
        intro b hb
        have hb' := h.nextTurn b hb
        rw [decide_eq_true_eq]
        intro hbw
        rw [hbw,←hw,hewake,hsame] at hb'
        omega
      have hhistory := h.history w
      rw [List.filter_append] at hhistory
      rw [List.filter_append,filter_enqueue _ h.currentOrdered,List.filter_append,
        List.filter_append,←hhistory]
      by_cases hw : e.wake=w
      · rw [hother hw,List.append_nil,List.append_nil]
      · rw [List.filter_cons_of_neg (by simpa using hw),List.filter_nil,List.append_nil,
          List.append_nil]
    · intro b hb
      have hvalue : (s.tickCount+ticksToWait).toNat=e.wake%2^32 := by rw [hwake,hewake]
      dsimp only
      split
      next hlow =>
        rw [UInt32.lt_iff_toNat_lt] at hlow
        rcases (mem_enqueue _).mp hb with rfl|hb
        · exact hvalue.le
        · exact hlow.le.trans (h.unblock b hb)
      next hhigh =>
        rw [UInt32.lt_iff_toNat_lt,Nat.not_lt] at hhigh
        rcases (mem_enqueue _).mp hb with rfl|hb
        · exact hhigh.trans hvalue.le
        · exact h.unblock b hb

/-- An event ends the wait of a task. -/
theorem Shows.signal [DecidableEq τ] {s : Kernel τ} {c : Clock τ}
    {current next : List (Sleeper ℕ τ)} (h : Shows s c current next) (task : τ) :
    ∃ current' next', Shows (taskRemoveFromEventList s task) (c.signal task) current' next' := by
  have hshown : ∀ list : List (Sleeper ℕ τ), (list.map shown).filter (fun e => !e.awaits task)=
      (list.filter (fun e => !e.awaits task)).map shown := fun list => List.filter_map
  refine ⟨current.filter (fun e => !e.awaits task),next.filter (fun e => !e.awaits task),
    ⟨h.tick,?_,?_,List.Pairwise.filter _ h.currentOrdered,List.Pairwise.filter _ h.nextOrdered,
      fun e he => h.currentTurn e (List.mem_filter.mp he).1,
      fun e he => h.nextTurn e (List.mem_filter.mp he).1,?_,
      fun e he => h.unblock e (List.mem_filter.mp he).1,?_,h.lastWake⟩⟩
  · rw [taskRemoveFromEventList,h.delayed]
    exact hshown current
  · rw [taskRemoveFromEventList,h.overflowDelayed]
    exact hshown next
  · intro w
    rw [←List.filter_append,List.filter_comm,h.history,List.filter_comm]
    rfl
  · rw [taskRemoveFromEventList,h.suspended]
    rfl

/-- Events that came while the scheduler was suspended end the waits of their tasks, and the next
scan of the list still comes in time. -/
theorem Shows.pending [DecidableEq τ] {s : Kernel τ} {c : Clock τ}
    {current next : List (Sleeper ℕ τ)} (h : Shows s c current next) (pendingReady : List τ) :
    ∃ current' next', Shows (readyPending s pendingReady) (pendingReady.foldl Clock.signal c)
      current' next' := by
  have hfold : ∃ current' next', Shows (pendingReady.foldl taskRemoveFromEventList s)
      (pendingReady.foldl Clock.signal c) current' next' := by
    induction pendingReady generalizing s c current next with
    | nil => exact ⟨current,next,h⟩
    | cons task pendingReady ih =>
      obtain ⟨current',next',hsignal⟩ := h.signal task
      exact ih hsignal
  obtain ⟨current',next',hreadied⟩ := hfold
  refine ⟨current',next',?_⟩
  unfold readyPending
  split
  · exact hreadied
  · refine {hreadied with unblock := ?_}
    dsimp only
    rw [hreadied.delayed]
    exact nextUnblockTime_le hreadied.currentOrdered fun e he => (hreadied.currentTurn e he).2

/-- The kernel and the clock take the same start of a period. -/
theorem Shows.setLastWake [DecidableEq τ] {s : Kernel τ} {c : Clock τ}
    {current next : List (Sleeper ℕ τ)} (h : Shows s c current next) (task : τ) {value : UInt32}
    {wake : ℕ} (hvalue : value.toNat=wake%2^32) :
    Shows {s with lastWakeTime := Function.update s.lastWakeTime task value}
      {c with lastWake := Function.update c.lastWake task wake} current next := by
  refine {h with lastWake := fun other => ?_}
  dsimp only
  by_cases heq : other=task
  · rw [heq,Function.update_self,Function.update_self]
    exact hvalue
  · rw [Function.update_of_ne heq,Function.update_of_ne heq]
    exact h.lastWake other

/-- `xTaskDelayUntil` blocks exactly while the new wake time lies ahead. -/
theorem shouldDelay_iff {tickCount previousWakeTime timeIncrement : UInt32} {now last : ℕ}
    (htick : tickCount.toNat=now%2^32) (hlast : previousWakeTime.toNat=last%2^32)
    (hle : last≤now) (hlt : now<last+2^32) :
    shouldDelay tickCount previousWakeTime (previousWakeTime+timeIncrement)=true ↔
      now<last+timeIncrement.toNat := by
  have hinc := timeIncrement.toNat_lt
  have hwake : (previousWakeTime+timeIncrement).toNat=(last+timeIncrement.toNat)%2^32 := by
    rw [UInt32.toNat_add,hlast]
    exact mod_add _ _
  have hnow := wrapped_iff hle hlt
  have hnext := wrapped_iff (Nat.le_add_right last timeIncrement.toNat) (show _<last+2^32 by omega)
  have hnowturn := turn_cases hle hlt
  have hnextturn := turn_cases (Nat.le_add_right last timeIncrement.toNat)
    (show _<last+2^32 by omega)
  have hsame : (last+timeIncrement.toNat)/2^32=now/2^32 →
      (now%2^32<(last+timeIncrement.toNat)%2^32 ↔ now<last+timeIncrement.toNat) := fun h =>
    mod_lt_mod_iff h.symm
  have hmono : now<last+timeIncrement.toNat → now/2^32≤(last+timeIncrement.toNat)/2^32 := fun h =>
    Nat.div_le_div_right h.le
  have hmono' : last+timeIncrement.toNat≤now → (last+timeIncrement.toNat)/2^32≤now/2^32 := fun h =>
    Nat.div_le_div_right h
  unfold shouldDelay
  simp only [UInt32.lt_iff_toNat_lt,htick,hlast,hwake]
  generalize (last+timeIncrement.toNat)/2^32=turn at *
  generalize (last+timeIncrement.toNat)%2^32=value at *
  split <;> simp only [Bool.and_eq_true,Bool.or_eq_true,decide_eq_true_eq] <;> omega

end Shows

section Periods

variable {τ : Type*}

/-- The period of a task has begun, or the task waits for its begin and for nothing else. -/
def Clock.Started (c : Clock τ) : Prop :=
  ∀ task, c.lastWake task≤c.now ∨
    ∃ e∈c.sleepers, e.task=task ∧ e.onEvent=false ∧ e.wake=c.lastWake task

/-- The period of a task that runs has begun. -/
theorem Clock.Started.le {c : Clock τ} (h : c.Started) {task : τ} (hready : ¬c.Blocked task) :
    c.lastWake task≤c.now := by
  rcases h task with hle|⟨e,he,htask,-,-⟩
  · exact hle
  · exact absurd (Or.inl ⟨e,he,htask⟩) hready

/-- A tick begins the periods of those that it wakes. -/
theorem Clock.Started.tick {c : Clock τ} (h : c.Started) : c.tick.1.Started := by
  intro task
  rcases h task with hle|⟨e,he,htask,hevent,hwake⟩
  · exact Or.inl (Nat.le_succ_of_le hle)
  · by_cases hnow : e.wake=c.now+1
    · exact Or.inl (hwake.symm.trans hnow).le
    · exact Or.inr ⟨e,List.mem_filter.mpr ⟨he,by simpa using hnow⟩,htask,hevent,hwake⟩

/-- A wait that begins takes nothing away. -/
theorem Clock.Started.sleep {c : Clock τ} (h : c.Started) (wake : ℕ) (task : τ) (onEvent : Bool) :
    (c.sleep wake task onEvent).Started := by
  intro other
  rcases h other with hle|⟨e,he,hother⟩
  · exact Or.inl hle
  · exact Or.inr ⟨e,List.mem_append_left _ he,hother⟩

/-- A period that has begun is in order. -/
theorem Clock.Started.setLastWake [DecidableEq τ] {c : Clock τ} (h : c.Started) (task : τ) {wake : ℕ}
    (hwake : wake≤c.now) : {c with lastWake := Function.update c.lastWake task wake}.Started := by
  intro other
  dsimp only
  by_cases heq : other=task
  · rw [heq,Function.update_self]
    exact Or.inl hwake
  · rw [Function.update_of_ne heq]
    exact h other

/-- An event ends no wait for the begin of a period. -/
theorem Clock.Started.signal [DecidableEq τ] {c : Clock τ} (h : c.Started) (task : τ) :
    (c.signal task).Started := by
  intro other
  rcases h other with hle|⟨e,he,htask,hevent,hwake⟩
  · exact Or.inl hle
  · refine Or.inr ⟨e,List.mem_filter.mpr ⟨he,?_⟩,htask,hevent,hwake⟩
    rw [Sleeper.awaits,hevent,Bool.and_false,Bool.not_false]

/-- A call keeps the periods in order. -/
theorem Clock.Started.call [DecidableEq τ] {c : Clock τ} (h : c.Started) (k : Call τ) :
    (c.call k).Started := by
  cases k with
  | getTickCount task => exact h.setLastWake task (le_refl _)
  | delay task ticksToDelay =>
    rw [Clock.call]
    split
    · exact h.sleep _ _ _
    · exact h
  | delayUntil task timeIncrement =>
    rw [Clock.call]
    split
    next =>
      intro other
      by_cases heq : other=task
      · refine Or.inr ⟨⟨_,task,false⟩,List.mem_append_right _ List.mem_cons_self,heq.symm,rfl,?_⟩
        rw [heq]
        exact (Function.update_self task (c.lastWake task+timeIncrement.toNat) c.lastWake).symm
      · have hlast : Function.update c.lastWake task (c.lastWake task+timeIncrement.toNat) other=
            c.lastWake other := Function.update_of_ne heq _ _
        rcases h other with hle|⟨e,he,htask,hevent,hwake⟩
        · exact Or.inl (hlast.trans_le hle)
        · exact Or.inr ⟨e,List.mem_append_left _ he,htask,hevent,hwake.trans hlast.symm⟩
    next hnow => exact h.setLastWake task (Nat.le_of_not_lt hnow)
  | placeOnEventList task ticksToWait =>
    rw [Clock.call]
    split
    · exact h
    · split
      · exact h.sleep _ _ _
      · exact h
  | signal task => exact h.signal task

/-- What ticks keep one by one. -/
theorem Clock.ticks_invariant (I : Clock τ → Prop) (htick : ∀ c, I c → I c.tick.1) {c : Clock τ}
    (h : I c) (count : ℕ) : I (c.ticks count).1 := by
  induction count generalizing c with
  | zero => exact h
  | succ count ih => exact ih (htick c h)

/-- What events and ticks keep one by one. -/
theorem Clock.resume_invariant [DecidableEq τ] (I : Clock τ → Prop)
    (hsignal : ∀ c task, I c → I (c.signal task)) (htick : ∀ c, I c → I c.tick.1) {c : Clock τ}
    (h : I c) (pendingReady : List τ) (pendedTicks : ℕ) :
    I (c.resume pendingReady pendedTicks).1 :=
  Clock.ticks_invariant I htick
    (List.foldlRecOn pendingReady Clock.signal h fun c hc task _ => hsignal c task hc) pendedTicks

/-- The kernel shows the clock, whose periods are in order. -/
def Follows (s : Kernel τ) (c : Clock τ) : Prop :=
  (∃ current next, Shows s c current next) ∧ c.Started

/-- The ticks that came while the scheduler was suspended. -/
theorem Shows.processPended {s : Kernel τ} {c : Clock τ} {current next : List (Sleeper ℕ τ)}
    (h : Shows s c current next) (pendedTicks : ℕ) :
    (processPended s pendedTicks).2=(c.ticks pendedTicks).2 ∧ ∃ current' next',
      Shows (processPended s pendedTicks).1 (c.ticks pendedTicks).1 current' next' := by
  induction pendedTicks generalizing s c current next with
  | zero => exact ⟨rfl,current,next,h⟩
  | succ pendedTicks ih =>
    obtain ⟨hanswer,current',next',htick⟩ := h.increment
    obtain ⟨hrest,hstate⟩ := ih htick
    refine ⟨?_,hstate⟩
    rw [KernelClock.processPended,Clock.ticks]
    dsimp only
    rw [hanswer,hrest]

/-- What came while the scheduler was suspended. -/
theorem Follows.resume [DecidableEq τ] {s : Kernel τ} {c : Clock τ} (h : Follows s c)
    (pendingReady : List τ) (pendedTicks : ℕ) :
    (resumeAll s pendingReady pendedTicks).2=(c.resume pendingReady pendedTicks).2 ∧
      Follows (resumeAll s pendingReady pendedTicks).1 (c.resume pendingReady pendedTicks).1 := by
  obtain ⟨⟨current,next,hshows⟩,hstarted⟩ := h
  obtain ⟨current',next',hpending⟩ := hshows.pending pendingReady
  obtain ⟨hanswer,hticks⟩ := hpending.processPended pendedTicks
  exact ⟨hanswer,hticks,Clock.resume_invariant Clock.Started (fun _ task h => h.signal task)
    (fun _ => Clock.Started.tick) hstarted pendingReady pendedTicks⟩

/-- A call of a task that runs. -/
theorem Follows.call [DecidableEq τ] {s : Kernel τ} {c : Clock τ} (h : Follows s c) {k : Call τ}
    {pendingReady : List τ} {pendedTicks : UInt32}
    (hadmits : c.Admits (.call k pendingReady pendedTicks)) :
    Follows (k.run s) (c.call k) := by
  obtain ⟨⟨current,next,hshows⟩,hstarted⟩ := h
  refine ⟨?_,hstarted.call k⟩
  cases k with
  | getTickCount task => exact ⟨current,next,hshows.setLastWake task hshows.tick⟩
  | delay task ticksToDelay =>
    rw [Call.run,Clock.call]
    split
    next hpos => exact hshows.sleep task false hpos (show ¬(_ ∧ false=true) by simp)
    next => exact ⟨current,next,hshows⟩
  | delayUntil task timeIncrement =>
    obtain ⟨hready,hlt⟩ := hadmits
    have hle := hstarted.le hready
    have hwake : (s.lastWakeTime task+timeIncrement).toNat=
        (c.lastWake task+timeIncrement.toNat)%2^32 := by
      rw [UInt32.toNat_add,hshows.lastWake]
      exact mod_add _ _
    have hset := hshows.setLastWake task hwake
    have hdecide := @shouldDelay_iff _ _ timeIncrement _ _ hshows.tick (hshows.lastWake task) hle hlt
    rw [Call.run,Clock.call,taskDelayUntil]
    by_cases hlater : c.now<c.lastWake task+timeIncrement.toNat
    · rw [if_pos (hdecide.mpr hlater),if_pos hlater]
      -- The time left is less than a turn, so that no bit of it is lost.
      have hinc := timeIncrement.toNat_lt
      have hleft : (s.lastWakeTime task+timeIncrement-s.tickCount).toNat=
          c.lastWake task+timeIncrement.toNat-c.now := by
        rw [UInt32.toNat_sub,hwake,hshows.tick]
        omega
      have hpos : 0<s.lastWakeTime task+timeIncrement-s.tickCount := by
        rw [UInt32.lt_iff_toNat_lt,hleft]
        exact Nat.sub_pos_of_lt hlater
      have hsleep := hset.sleep task false hpos (show ¬(_ ∧ false=true) by simp)
      rw [hleft,Nat.add_sub_cancel' hlater.le] at hsleep
      exact hsleep
    · rw [if_neg (fun h => hlater (hdecide.mp h)),if_neg hlater]
      exact ⟨current,next,hset⟩
  | placeOnEventList task ticksToWait =>
    rw [Call.run,Clock.call]
    by_cases hmax : ticksToWait=portMaxDelay
    · rw [if_pos hmax,if_pos (by rw [hmax]; decide),addCurrentTaskToDelayedList,if_pos ⟨hmax,rfl⟩]
      exact ⟨current,next,{hshows with suspended := by rw [hshows.suspended]}⟩
    · rw [if_neg hmax]
      split
      next hpos => exact hshows.sleep task true hpos fun h => hmax h.1
      next => exact ⟨current,next,hshows⟩
  | signal task => exact hshows.signal task

/-- At the start of the scheduler. -/
theorem follows_boot : Follows (kernelBoot : Kernel τ) clockBoot :=
  ⟨⟨[],[],⟨rfl,rfl,rfl,List.Pairwise.nil,List.Pairwise.nil,nofun,nofun,fun _ => rfl,nofun,rfl,
    fun _ => rfl⟩⟩,fun _ => Or.inl (Nat.le_refl 0)⟩

/-- A task is blocked in the kernel exactly while it waits on the clock. -/
theorem Follows.blocked_iff {s : Kernel τ} {c : Clock τ} (h : Follows s c) (task : τ) :
    s.Blocked task ↔ c.Blocked task := by
  obtain ⟨⟨current,next,hshows⟩,-⟩ := h
  have hmem : ∀ e, e∈current++next ↔ e∈c.sleepers := by
    intro e
    have hsame := hshows.history e.wake
    constructor
    · intro he
      have hin : e∈(current++next).filter (fun b => b.wake=e.wake) :=
        List.mem_filter.mpr ⟨he,by simp⟩
      rw [hsame] at hin
      exact (List.mem_filter.mp hin).1
    · intro he
      have hin : e∈c.sleepers.filter (fun b => b.wake=e.wake) := List.mem_filter.mpr ⟨he,by simp⟩
      rw [←hsame] at hin
      exact (List.mem_filter.mp hin).1
  have hshown : ∀ list : List (Sleeper ℕ τ),
      (∃ e∈list.map shown, e.task=task) ↔ ∃ e∈list, e.task=task := by
    intro list
    simp only [List.mem_map,exists_exists_and_eq_and]
    rfl
  unfold Kernel.Blocked Clock.Blocked
  rw [hshows.delayed,hshows.overflowDelayed,hshows.suspended,hshown,hshown,←or_assoc]
  refine or_congr ?_ Iff.rfl
  simp only [←hmem,List.mem_append,or_and_right,exists_or]

end Periods

section Runs

variable {τ : Type*} [DecidableEq τ]

/-- Every call is made by a task that runs, and none to `vTaskDelayUntil` a turn of the tick
counter late. -/
abbrev Admissible (events : List (Event τ)) : Prop := clock.Guarded Clock.Admits clockBoot events

/-- A step of the kernel answers as the clock does. -/
theorem Follows.step {s : Kernel τ} {c : Clock τ} (h : Follows s c) {e : Event τ}
    (hadmits : c.Admits e) :
    (kernel.step s e).2=(clock.step c e).2 ∧ Follows (kernel.step s e).1 (clock.step c e).1 := by
  cases e with
  | tick =>
    obtain ⟨⟨current,next,hshows⟩,hstarted⟩ := h
    obtain ⟨hanswer,htick⟩ := hshows.increment
    exact ⟨hanswer,htick,hstarted.tick⟩
  | call k pendingReady pendedTicks => exact (h.call hadmits).resume _ _

/-- In every run the kernel answers every tick as the clock does, so that a task is made ready
exactly at its tick and in the order of the calls, and the assertion about the lists never
fails. The same tasks are blocked at the end. -/
theorem kernel_keeps_time {events : List (Event τ)} (h : Admissible events) :
    kernel.trace kernelBoot events=clock.trace clockBoot events ∧
      ∀ task, (kernel.run kernelBoot events).Blocked task ↔
        (clock.run clockBoot events).Blocked task := by
  obtain ⟨htrace,hrun⟩ := Machine.guarded_simulation Follows Clock.Admits
    (fun s c e hfollows hadmits => hfollows.step hadmits) follows_boot h
  exact ⟨htrace,hrun.blocked_iff⟩

/-- Two tasks, one of which is late for its period and loses no time. -/
def lateLoop : List (Event Bool) :=
  [.call (.getTickCount true) [] 0,.call (.delay false 2) [] 1,.call (.delayUntil true 2) [] 0,.tick,
    .tick,.tick,.call (.delayUntil true 2) [] 0,.tick,.tick,.call (.placeOnEventList false 9) [] 0,
    .call (.delayUntil true 2) [false] 1,.call (.placeOnEventList false portMaxDelay) [] 0,
    .call (.signal false) [] 0]

/-- The kernel keeps time for them. -/
theorem lateLoop_keeps_time :
    kernel.trace kernelBoot lateLoop=clock.trace clockBoot lateLoop ∧
      ∀ task, (kernel.run kernelBoot lateLoop).Blocked task ↔
        (clock.run clockBoot lateLoop).Blocked task :=
  kernel_keeps_time (by decide)

end Runs

end WebDataLogger.KernelClock
