import Mathlib.Algebra.GroupWithZero.Nat
import Mathlib.Data.List.Chain
import Mathlib.Data.List.Nodup
import WebDataLogger.LwipTimeoutsRuns

/-!
# Cyclic timers of the network stack

Each timer of the stack arms itself again when its handler has returned, one interval after the
instant at which it was due, so that late calls do not add up. Only where that instant has passed
already it starts anew from the clock, and is on its grid again from there. At every time each of
these timers is pending once or its handler runs, and the timer of TCP is so exactly while it is
marked as active. That does not depend on the clock.
-/

namespace WebDataLogger.LwipTimeouts

open TransitionRuns StableQueue

/-- The event comes from outside the module, which alone can name the functions of its timers. -/
def Event.foreign : Event → Bool
  | .startCyclic _ => false
  | .timeout _ h _ => h.foreign
  | .untimeout h _ => h.foreign
  | _ => true

/-- The function of such a timeout runs. -/
def Position.runs {τ : Type*} (p : Handler → ℕ → Bool) : Position τ → Bool
  | .inHandler _ h arg => p h arg
  | _ => false

/-- Timeouts of a kind that are pending or whose function runs. -/
def System.inService {τ : Type*} (s : System τ) (p : Handler → ℕ → Bool) : ℕ :=
  s.timeouts.nextTimeout.countP (fun t => p t.h t.arg)+(s.position.runs p).toNat

/-- The kind of a cyclic timer. -/
def isCyclic (i : ℕ) (h : Handler) (arg : ℕ) : Bool := decide (h=.lwipCyclicTimer) && decide (arg=i)

/-- The kind of the TCP timer. -/
def isTcp (h : Handler) (_ : ℕ) : Bool := decide (h=.tcpipTcpTimer)

/-- A call of a cyclic timer's handler. -/
structure Call where
  /-- The instant at which the timer was due. -/
  due : ℕ
  /-- The timer had started anew from the clock since the call before. -/
  restarted : Bool
  deriving DecidableEq

/-- The start of a timer, from which its first interval is counted. -/
def Call.atStart (instant : ℕ) : Call := ⟨instant,false⟩

/-- The calls of a cyclic timer's handler, and whether it started anew since the last one. -/
structure Calls where
  made : List Call
  restarted : Bool

/-- What an observation says about a cyclic timer. -/
def Calls.observe (i : ℕ) (calls : Calls) : Observation → Calls
  | .overload arg => if arg=i then {calls with restarted := true} else calls
  | .expired instant h arg late =>
    if isCyclic i h arg=true then ⟨calls.made++[⟨instant-late,calls.restarted⟩],false⟩ else calls
  | _ => calls

/-- The calls of a cyclic timer's handler in a trace. -/
def callsOf (i : ℕ) (trace : List Observation) : Calls := trace.foldl (Calls.observe i) ⟨[],false⟩

/-- One interval lies between two calls, and more than two only where the timer started anew. -/
def Spaced (i : ℕ) (before next : Call) : Prop :=
  match next.restarted with
  | true => before.due+2*intervalMs i<next.due
  | false => next.due=before.due+intervalMs i

/-- The instant at which a cyclic timer is started. -/
def startOf (instant : ℕ) (passing : ℕ → ℕ) (i : ℕ) : ℕ :=
  instant+((List.range' 1 (i-1)).map passing).sum

section Kinds

variable {τ : Type*} {p : Handler → ℕ → Bool} {queue : List (SysTimeo ℕ)} {t : SysTimeo ℕ}

/-- Only the kind of a timeout gains by its insertion. -/
theorem filter_enqueue_of_not (h : p t.h t.arg=false) :
    (enqueue SysTimeo.time t queue).filter (fun u => p u.h u.arg)=
      queue.filter (fun u => p u.h u.arg) := by
  induction queue with
  | nil => exact List.filter_cons_of_neg (by rw [h]; decide)
  | cons u queue ih =>
    unfold enqueue
    split
    · rw [List.filter_cons,ih,List.filter_cons]
    · exact List.filter_cons_of_neg (by rw [h]; decide)

/-- The first timeout of a kind. -/
theorem filter_enqueue_of_nil (h : p t.h t.arg=true)
    (hnone : queue.filter (fun u => p u.h u.arg)=[]) :
    (enqueue SysTimeo.time t queue).filter (fun u => p u.h u.arg)=[t] := by
  have hperm := (enqueue_perm SysTimeo.time t queue).filter (fun u => p u.h u.arg)
  rw [List.filter_cons_of_pos (by exact h),hnone] at hperm
  exact List.perm_singleton.mp hperm

/-- Taking off a timeout of another kind leaves a kind as it is. -/
theorem filter_eraseP_of_not {queue : List (SysTimeo τ)} {h : Handler} {arg : ℕ}
    (hnot : p h arg=false) :
    (queue.eraseP (fun u => u.isFor h arg)).filter (fun u => p u.h u.arg)=
      queue.filter (fun u => p u.h u.arg) := by
  induction queue with
  | nil => rfl
  | cons u queue ih =>
    by_cases hfor : u.isFor h arg=true
    · obtain ⟨rfl,rfl⟩ : u.h=h ∧ u.arg=arg := by simpa [SysTimeo.isFor] using hfor
      rw [show (u::queue).eraseP (fun v => v.isFor u.h u.arg)=queue from
          List.eraseP_cons_of_pos hfor,List.filter_cons_of_neg (by rw [hnot]; decide)]
    · rw [show (u::queue).eraseP (fun v => v.isFor h arg)=
          u::queue.eraseP (fun v => v.isFor h arg) from List.eraseP_cons_of_neg hfor,
        List.filter_cons,ih,List.filter_cons]

/-- A kind that only the module can name. -/
def Private (p : Handler → ℕ → Bool) : Prop := ∀ h arg, h.foreign=true → p h arg=false

theorem isCyclic_private (i : ℕ) : Private (isCyclic i) := by
  intro h arg hforeign
  cases h with
  | lwipCyclicTimer => cases hforeign
  | _ => rfl

theorem isTcp_private : Private isTcp := by
  intro h arg hforeign
  cases h with
  | tcpipTcpTimer => cases hforeign
  | _ => rfl

end Kinds

section Grid

variable {s t : System ℕ} {trace obs : List Observation} {start i : ℕ}

/-- A cyclic timer is pending once or its handler runs, and the instants at which it is due
follow each other on its grid. -/
structure OnGrid (start i : ℕ) (trace : List Observation) (s : System ℕ) : Prop where
  called : (Call.atStart start::(callsOf i trace).made).IsChain (Spaced i)
  running : s.position.runs (isCyclic i)=true →
    s.timeouts.nextTimeout.filter (fun t => isCyclic i t.h t.arg)=[] ∧
      (callsOf i trace).restarted=false ∧
        ∃ last, (Call.atStart start::(callsOf i trace).made).getLast?=some last ∧
          last.due=s.timeouts.currentTimeoutDueTime
  pending : s.position≠.halted → s.position.runs (isCyclic i)=false →
    ∃ due, s.timeouts.nextTimeout.filter (fun t => isCyclic i t.h t.arg)=
        [⟨due,.lwipCyclicTimer,i⟩] ∧
      (Call.atStart start::(callsOf i trace).made++
        [(⟨due,(callsOf i trace).restarted⟩ : Call)]).IsChain (Spaced i)

theorem callsOf_append (first second : List Observation) :
    callsOf i (first++second)=second.foldl (Calls.observe i) (callsOf i first) := List.foldl_append

/-- The timer is not touched. -/
theorem OnGrid.untouched (h : OnGrid start i trace s)
    (hcalls : callsOf i (trace++obs)=callsOf i trace)
    (hfilter : t.timeouts.nextTimeout.filter (fun t => isCyclic i t.h t.arg)=
      s.timeouts.nextTimeout.filter (fun t => isCyclic i t.h t.arg))
    (hcurrent : s.position.runs (isCyclic i)=true →
      t.timeouts.currentTimeoutDueTime=s.timeouts.currentTimeoutDueTime)
    (hlive : s.position≠.halted)
    (hruns : t.position.runs (isCyclic i)=s.position.runs (isCyclic i)) :
    OnGrid start i (trace++obs) t := by
  constructor
  · rw [hcalls]
    exact h.called
  · rw [hruns,hfilter,hcalls]
    intro hruns'
    rw [hcurrent hruns']
    exact h.running hruns'
  · rw [hruns,hfilter,hcalls]
    exact fun _ => h.pending hlive

/-- The timer is armed again after its handler, anew from the clock or not. -/
theorem OnGrid.rearmed (h : OnGrid start i trace s) {restarted : Bool}
    (hcalls : callsOf i (trace++obs)=⟨(callsOf i trace).made,(callsOf i trace).restarted || restarted⟩)
    (hruns : s.position.runs (isCyclic i)=true) {due : ℕ}
    (hlist : t.timeouts.nextTimeout=
      enqueue SysTimeo.time ⟨due,.lwipCyclicTimer,i⟩ s.timeouts.nextTimeout)
    (hreturned : t.position.runs (isCyclic i)=false)
    (hnext : ∀ last : Call, last.due=s.timeouts.currentTimeoutDueTime →
      Spaced i last ⟨due,restarted⟩) : OnGrid start i (trace++obs) t := by
  obtain ⟨hnone,hcalm,last,hlast,hdue⟩ := h.running hruns
  rw [hcalm,Bool.false_or] at hcalls
  constructor
  · rw [hcalls]
    exact h.called
  · intro hruns'
    rw [hreturned] at hruns'
    cases hruns'
  · intro _ _
    refine ⟨due,?_,?_⟩
    · rw [hlist]
      exact filter_enqueue_of_nil (by simp [isCyclic]) hnone
    · rw [hcalls]
      refine List.isChain_append.mpr ⟨h.called,List.isChain_singleton _,?_⟩
      intro before hb first hf
      obtain rfl : last=before := Option.some.inj (hlast.symm.trans hb)
      obtain rfl : ⟨due,restarted⟩=first := Option.some.inj hf
      exact hnext last hdue

/-- The timer's handler is called. -/
theorem OnGrid.called_at (h : OnGrid start i trace s) (hlive : s.position≠.halted)
    (hidle : s.position.runs (isCyclic i)=false) {u : SysTimeo ℕ} {rest : List (SysTimeo ℕ)}
    (hl : s.timeouts.nextTimeout=u::rest) (hkind : isCyclic i u.h u.arg=true)
    (hcalls : callsOf i (trace++obs)=
      ⟨(callsOf i trace).made++[⟨u.time,(callsOf i trace).restarted⟩],false⟩)
    (hlist : t.timeouts.nextTimeout=rest) (hcurrent : t.timeouts.currentTimeoutDueTime=u.time)
    (hruns : t.position.runs (isCyclic i)=true) : OnGrid start i (trace++obs) t := by
  obtain ⟨due,hfilter,hchain⟩ := h.pending hlive hidle
  rw [hl,List.filter_cons_of_pos (by exact hkind)] at hfilter
  obtain ⟨rfl,hrest⟩ := List.cons.inj hfilter
  constructor
  · rw [hcalls]
    exact hchain
  · intro _
    rw [hlist,hcalls,hcurrent]
    dsimp only
    rw [←List.cons_append,List.getLast?_concat]
    exact ⟨hrest,rfl,_,rfl,rfl⟩
  · intro _ hidle'
    rw [hruns] at hidle'
    cases hidle'

/-- After a failed assertion no handler is called. -/
theorem OnGrid.halts (h : OnGrid start i trace s)
    (hcalls : (callsOf i (trace++obs)).made=(callsOf i trace).made) (hp : t.position=.halted) :
    OnGrid start i (trace++obs) t := by
  constructor
  · rw [hcalls]
    exact h.called
  · rw [hp]
    exact fun h => by cases h
  · exact fun h => absurd hp h

/-- The handler of a timeout of another kind runs. -/
theorem runs_other {now arg : ℕ} {hd : Handler} (hp : s.position=.inHandler now hd arg)
    (hkind : isCyclic i hd arg=false) : s.position.runs (isCyclic i)=false := by
  rw [hp]
  exact hkind

/-- What the call of a handler says about a timer. -/
theorem observe_expired (calls : Calls) (u : SysTimeo ℕ) {instant : ℕ} (hle : u.time ≤ instant) :
    calls.observe i (.expired instant u.h u.arg (instant-u.time))=
      if isCyclic i u.h u.arg=true then ⟨calls.made++[⟨u.time,calls.restarted⟩],false⟩
      else calls := by
  rw [Calls.observe,Nat.sub_sub_self hle]

/-- An event keeps a cyclic timer on its grid, or lets it start again after an overload. -/
theorem Effect.onGrid {e : Event} (heffect : Effect s e t obs) (hw : Within s)
    (hforeign : e.foreign=true) (h : OnGrid start i trace s) (hlive : s.position≠.halted) :
    OnGrid start i (trace++obs) t := by
  have hcalls := @callsOf_append i trace obs
  cases heffect with
  | passes msecs => exact h.untouched hcalls rfl (fun _ => rfl) hlive rfl
  | stays => exact h.untouched hcalls rfl (fun _ => rfl) hlive rfl
  | waits => exact h.untouched hcalls rfl (fun _ => rfl) hlive rfl
  | begins hp => exact h.untouched hcalls rfl (fun _ => rfl) hlive (by rw [hp]; rfl)
  | returns hp => exact h.untouched hcalls rfl (fun _ => rfl) hlive (by rw [hp]; rfl)
  | @retires now arg hd pcbs hp hcyclic htcp =>
    have hother := @runs_other s i now arg hd hp (by simp [isCyclic,hcyclic])
    exact h.untouched hcalls rfl (fun _ => rfl) hlive (by rw [hother]; rfl)
  | halts hfault hi hl hfree hp ho =>
    refine h.halts ?_ hp
    rw [hcalls]
    rcases ho with rfl|⟨j,rfl⟩
    · rfl
    · simp only [List.foldl_cons,List.foldl_nil,Calls.observe]
      split <;> rfl
  | removes hd arg hany =>
    exact h.untouched hcalls (filter_eraseP_of_not (isCyclic_private i hd arg hforeign))
      (fun _ => rfl) hlive rfl
  | @expires now u rest hp hl hle =>
    have hidle : s.position.runs (isCyclic i)=false := by rw [hp]; rfl
    have hbegun := hw.begun now (by rw [hp]; rfl)
    rw [List.foldl_cons,List.foldl_nil,observe_expired _ u (hle.trans hbegun)] at hcalls
    cases hkind : isCyclic i u.h u.arg with
    | true =>
      have hh : u.h=.lwipCyclicTimer := by
        simp only [isCyclic,Bool.and_eq_true,decide_eq_true_eq] at hkind
        exact hkind.1
      rw [if_pos hkind] at hcalls
      refine h.called_at hlive hidle hl hkind hcalls rfl rfl ?_
      dsimp only
      rw [if_neg (by rw [hh]; decide)]
      exact hkind
    | false =>
      rw [if_neg (by rw [hkind]; decide)] at hcalls
      refine h.untouched hcalls ?_ (fun hruns => ?_) hlive ?_
      · rw [hl,List.filter_cons_of_neg (by rw [hkind]; decide)]
      · rw [hidle] at hruns
        cases hruns
      · rw [hidle]
        dsimp only
        split
        · rfl
        · exact hkind
  | @arms _ position active u note free hcause hfree =>
    cases hcause with
    | started j => cases hforeign
    | asked msecs hd arg hm =>
      exact h.untouched hcalls (filter_enqueue_of_not (isCyclic_private i hd arg hforeign))
        (fun _ => rfl) hlive rfl
    | needed hidle =>
      exact h.untouched hcalls (filter_enqueue_of_not rfl) (fun _ => rfl) hlive rfl
    | @stillNeeded now arg hp =>
      exact h.untouched hcalls (filter_enqueue_of_not rfl) (fun _ => rfl) hlive
        (by rw [runs_other hp rfl]; rfl)
    | @onGrid now j pcbs hp hle =>
      by_cases hj : j=i
      · subst hj
        refine @OnGrid.rearmed s _ trace _ start j h false ?_
          (by rw [hp]; simp [Position.runs,isCyclic]) _ rfl rfl ?_
        · rw [hcalls,Bool.or_false]
          rfl
        · intro last hlast
          show s.timeouts.currentTimeoutDueTime+intervalMs j=last.due+intervalMs j
          rw [hlast]
      · have hother : isCyclic i .lwipCyclicTimer j=false := by simp [isCyclic,hj]
        exact h.untouched hcalls (filter_enqueue_of_not hother) (fun _ => rfl) hlive
          (by rw [runs_other hp hother]; rfl)
    | @overloaded now j pcbs hp hlt =>
      have hnoted : callsOf i (trace++([.overload j]++
          [.armed s.instant .lwipCyclicTimer j (s.instant+intervalMs j-s.instant)]))=
            (callsOf i trace).observe i (.overload j) := hcalls
      by_cases hj : j=i
      · subst hj
        refine @OnGrid.rearmed s _ trace _ start j h true ?_
          (by rw [hp]; simp [Position.runs,isCyclic]) _ rfl rfl ?_
        · rw [Bool.or_true]
          exact hnoted.trans (if_pos rfl)
        · intro last hlast
          show last.due+2*intervalMs j<s.instant+intervalMs j
          omega
      · have hother : isCyclic i .lwipCyclicTimer j=false := by simp [isCyclic,hj]
        exact h.untouched (hnoted.trans (if_neg hj)) (filter_enqueue_of_not hother)
          (fun _ => rfl) hlive (by rw [runs_other hp hother]; rfl)

end Grid

section Start

variable {s : System ℕ}

/-- One timer is started while the pool is not empty. -/
theorem startCyclic_step {free : ℕ} (hp : s.position=.outside) (hfree : s.timeouts.free=free+1)
    (i : ℕ) :
    (lwip ℕ).step s (.startCyclic i)=
      ({s with timeouts := {s.timeouts with
          nextTimeout := enqueue SysTimeo.time ⟨s.instant+intervalMs i,.lwipCyclicTimer,i⟩
            s.timeouts.nextTimeout
          free := free}},
        [.armed s.instant .lwipCyclicTimer i (s.instant+intervalMs i-s.instant)]) := by
  show s.step (.startCyclic i)=_
  unfold System.step
  rw [hp]
  show sysTimeout s (intervalMs i) .lwipCyclicTimer i=_
  rw [sysTimeout_of_le (intervalMs_lt i),sysTimeoutAbs]
  simp only [hfree,link_eq_enqueue,hp]
  rfl

/-- Time passes for a thread outside the check. -/
theorem advance_step (hp : s.position=.outside) (msecs : ℕ) :
    (lwip ℕ).step s (.advance msecs)=({s with instant := s.instant+msecs},[]) := by
  obtain ⟨instant,timeouts,position⟩ := s
  obtain rfl := hp
  rfl

/-- The first timers have been started, and nothing else has happened. -/
structure StartedTimers (instant : ℕ) (passing : ℕ → ℕ) (count : ℕ) (trace : List Observation)
    (s : System ℕ) : Prop where
  instant_eq : s.instant=startOf instant passing (count+1)
  outside : s.position=.outside
  free_eq : s.timeouts.free+count=memNumSysTimeout
  cyclic : ∀ t∈s.timeouts.nextTimeout,
    t=⟨startOf instant passing t.arg+intervalMs t.arg,.lwipCyclicTimer,t.arg⟩
  once : ∀ i, s.timeouts.nextTimeout.countP (fun t => isCyclic i t.h t.arg)=
    (List.range' 1 count).count i
  calls : ∀ i, callsOf i trace=⟨[],false⟩

/-- The start of the next timer comes after the time that has passed. -/
theorem startOf_succ (instant : ℕ) (passing : ℕ → ℕ) (count : ℕ) :
    startOf instant passing (count+1+1)=
      startOf instant passing (count+1)+passing (1+count) := by
  unfold startOf
  rw [Nat.add_sub_cancel,Nat.add_sub_cancel,List.range'_1_concat,List.map_append,List.sum_append,
    List.map_singleton,List.sum_singleton,Nat.add_assoc]

/-- `sys_timeouts_init` starts its timers one after the other. -/
theorem started_timers (instant : ℕ) (passing : ℕ → ℕ) {count : ℕ}
    (hle : count ≤ memNumSysTimeout) :
    StartedTimers instant passing count
      ((lwip ℕ).trace (boot ℕ instant)
        ((List.range' 1 count).flatMap fun i => [.startCyclic i,.advance (passing i)]))
      ((lwip ℕ).run (boot ℕ instant)
        ((List.range' 1 count).flatMap fun i => [.startCyclic i,.advance (passing i)])) := by
  induction count with
  | zero =>
    exact ⟨rfl,rfl,rfl,fun t ht => absurd ht List.not_mem_nil,fun i => rfl,fun i => rfl⟩
  | succ count ih =>
    have h := ih (by omega)
    obtain ⟨free,hfree⟩ := Nat.exists_eq_add_one.mpr
      (show 0 < ((lwip ℕ).run (boot ℕ instant) ((List.range' 1 count).flatMap
        fun i => [.startCyclic i,.advance (passing i)])).timeouts.free by
          have := h.free_eq; omega)
    have hstep := startCyclic_step h.outside hfree (1+count)
    rw [List.range'_1_concat,List.flatMap_append,Machine.trace_append,Machine.run_append]
    generalize (lwip ℕ).run (boot ℕ instant) ((List.range' 1 count).flatMap
      fun i => [.startCyclic i,.advance (passing i)])=s at h hfree hstep ⊢
    generalize (lwip ℕ).trace (boot ℕ instant) ((List.range' 1 count).flatMap
      fun i => [.startCyclic i,.advance (passing i)])=trace at h ⊢
    rw [List.flatMap_singleton,Machine.trace,Machine.run,hstep,Machine.trace,Machine.run]
    generalize hu : ({s with timeouts := {s.timeouts with
      nextTimeout := enqueue SysTimeo.time
        ⟨s.instant+intervalMs (1+count),.lwipCyclicTimer,1+count⟩ s.timeouts.nextTimeout
      free := free}} : System ℕ)=u
    have houtside : u.position=.outside := by rw [←hu,←h.outside]
    rw [advance_step houtside]
    subst hu
    refine ⟨?_,h.outside,?_,?_,?_,fun i => ?_⟩
    · rw [startOf_succ,←h.instant_eq]
      rfl
    · have hcount := h.free_eq
      show free+(count+1)=_
      omega
    · intro t ht
      rcases (mem_enqueue SysTimeo.time).mp ht with rfl|ht
      · rw [h.instant_eq,Nat.add_comm 1 count]
      · exact h.cyclic t ht
    · intro i
      show (enqueue SysTimeo.time _ s.timeouts.nextTimeout).countP _=_
      rw [(enqueue_perm SysTimeo.time _ _).countP_eq,List.countP_cons,h.once i,
        List.range'_1_concat,List.count_append,List.count_singleton]
      by_cases hi : 1+count=i
      · simp [isCyclic,hi]
      · simp [isCyclic,hi]
    · rw [callsOf_append,h.calls i]
      rfl

/-- A timer that was started once is on its grid. -/
theorem StartedTimers.onGrid {instant i count : ℕ} {passing : ℕ → ℕ} {trace : List Observation}
    (h : StartedTimers instant passing count trace s) (hone : (List.range' 1 count).count i=1) :
    OnGrid (startOf instant passing i) i trace s := by
  have hcalls := h.calls i
  constructor
  · rw [hcalls]
    exact List.isChain_singleton _
  · rw [h.outside]
    exact fun h => by cases h
  · intro _ _
    have hlength := h.once i
    rw [hone,List.countP_eq_length_filter,List.length_eq_one_iff] at hlength
    obtain ⟨t,ht⟩ := hlength
    have hmem : t∈s.timeouts.nextTimeout.filter (fun t => isCyclic i t.h t.arg) := by
      rw [ht]
      exact List.mem_singleton_self t
    obtain ⟨hpending,hkind⟩ := List.mem_filter.mp hmem
    have harg : t.arg=i := by
      simp only [isCyclic,Bool.and_eq_true,decide_eq_true_eq] at hkind
      exact hkind.2
    refine ⟨startOf instant passing i+intervalMs i,?_,?_⟩
    · rw [ht,h.cyclic t hpending,harg]
    · rw [hcalls]
      exact List.isChain_pair.mpr rfl

/-- A timer of the stack is on its grid after every run that stays on time. -/
theorem onGrid_run (instant : ℕ) (passing : ℕ → ℕ) {events : List Event}
    (hforeign : ∀ e∈events, e.foreign=true)
    (hon : (lwip ℕ).Guarded InTime (boot ℕ instant) (sysTimeoutsInit passing++events)) {i : ℕ}
    (hi : i∈List.range' 1 (lwipCyclicTimers.length-1)) :
    OnGrid (startOf instant passing i) i
      ((lwip ℕ).trace (boot ℕ instant) (sysTimeoutsInit passing++events))
      ((lwip ℕ).run (boot ℕ instant) (sysTimeoutsInit passing++events)) := by
  obtain ⟨hinit,hevents⟩ := (lwip ℕ).guarded_append.mp hon
  have hstarted : StartedTimers instant passing (lwipCyclicTimers.length-1)
      ((lwip ℕ).trace (boot ℕ instant) (sysTimeoutsInit passing))
      ((lwip ℕ).run (boot ℕ instant) (sysTimeoutsInit passing)) :=
    started_timers instant passing (by decide)
  have hone := List.count_eq_one_of_mem List.nodup_range' hi
  have hwithin := (runs_shown (boot_within instant) hinit).2.2
  rw [Machine.trace_append,Machine.run_append]
  refine (Machine.Guarded.history
    (fun trace s => Within s ∧ OnGrid (startOf instant passing i) i trace s)
    (show _ ∧ _ from ⟨hwithin,hstarted.onGrid hone⟩)
    (fun trace s e he ⟨hw,h⟩ hguard => ⟨(step_effect s e).within hw hguard,?_⟩) hevents).2
  by_cases hp : s.position=.halted
  · obtain ⟨later,-,hstep⟩ := step_halted hp e
    rw [hstep]
    exact h.halts (by rw [List.append_nil]) hp
  · exact (step_effect s e).onGrid hw (hforeign e he) h hp

/-- A cyclic timer is due one interval after the instant at which it was due before, the first
time one interval after it was started, however late in that interval its handler is called.
Only a call after an overload of the timer comes later, more than two intervals after the one
before. This holds while no timeout is overdue by `2^30` ms, and no check lasts as long, when
the module is used. -/
theorem cyclic_timers_on_grid (instant : ℕ) (passing : ℕ → ℕ) (events : List Event)
    (hforeign : ∀ e∈events, e.foreign=true)
    (hon : (lwip ℕ).Guarded InTime (boot ℕ instant) (sysTimeoutsInit passing++events)) (i : ℕ)
    (hi : i∈List.range' 1 (lwipCyclicTimers.length-1)) :
    (Call.atStart (startOf instant passing i)::(callsOf i ((lwip UInt32).trace
      (boot UInt32 instant) (sysTimeoutsInit passing++events))).made).IsChain (Spaced i) := by
  rw [(clock_wrap_unseen instant _ hon).1]
  exact (onGrid_run instant passing hforeign hon hi).called

/-- After the run across the wrap the timer of IGMP is called so late that its next instant has
passed, and then twice in time. -/
def overloadedRun : List Event :=
  wrappingRun++[.advance 300,.check,.next,.finish false,.next,.finish true,.next,.finish false,
    .next,.advance 110,.check,.next,.finish false,.next,.advance 100,.check,.next,.finish false,
    .next]

/-- The timer of IGMP stays on its grid across the wrap, and is on it again after the overload. -/
theorem overloadedRun_on_grid :
    (callsOf 5 ((lwip UInt32).trace (boot UInt32 (2^32-200)) overloadedRun)).made=
        [⟨2^32-96,false⟩,⟨2^32+4,false⟩,⟨2^32+104,false⟩,⟨2^32+426,true⟩,⟨2^32+526,false⟩] ∧
      (Call.atStart (startOf (2^32-200) (fun _ => 1) 5)::(callsOf 5 ((lwip UInt32).trace
        (boot UInt32 (2^32-200)) overloadedRun)).made).IsChain (Spaced 5) :=
  ⟨by decide +kernel,
    cyclic_timers_on_grid (2^32-200) (fun _ => 1) (overloadedRun.drop 12) (by decide +kernel)
      (by decide +kernel) 5 (by decide)⟩

end Start

section Service

variable {τ : Type*} {s : System τ} {started : List ℕ}

/-- Each cyclic timer that was started is in service once, and the timer of TCP exactly while it
is marked as active. -/
structure OnceEach (started : List ℕ) (s : System τ) : Prop where
  cyclic : ∀ i, s.inService (isCyclic i)=started.count i
  tcp : s.inService isTcp=s.timeouts.tcpipTcpTimerActive.toNat

/-- Timers that an event starts. -/
def Event.starts : Event → List ℕ
  | .startCyclic i => [i]
  | _ => []

/-- A timeout for a function outside this module. -/
theorem OnceEach.foreign {t : System τ} (h : OnceEach started s) {hd : Handler} {arg : ℕ}
    (hforeign : hd.foreign=true)
    (harmed : (∀ p, t.inService p=s.inService p+(p hd arg).toNat) ∧
      t.timeouts.tcpipTcpTimerActive=s.timeouts.tcpipTcpTimerActive) : OnceEach started t := by
  obtain ⟨harmed,hactive⟩ := harmed
  constructor
  · intro i
    rw [harmed,isCyclic_private i hd arg hforeign,h.cyclic i]
    rfl
  · rw [harmed,isTcp_private hd arg hforeign,hactive,h.tcp]
    rfl

/-- The thread leaves the handler of a timeout. -/
theorem inService_returned {now : τ} {hd : Handler} {arg : ℕ}
    (hp : s.position=.inHandler now hd arg) (p : Handler → ℕ → Bool) :
    ({s with position := .atLoop now} : System τ).inService p+(p hd arg).toNat=s.inService p := by
  unfold System.inService
  rw [hp]
  rfl

/-- `sys_untimeout` takes no timer of this module off. -/
theorem OnceEach.sysUntimeout (h : OnceEach started s) {hd : Handler} (hforeign : hd.foreign=true)
    (arg : ℕ) : OnceEach started (sysUntimeout s hd arg).1 := by
  unfold LwipTimeouts.sysUntimeout
  split
  · have herase {p : Handler → ℕ → Bool} (hp : Private p) :
        (s.timeouts.nextTimeout.eraseP (fun t => t.isFor hd arg)).countP
          (fun t => p t.h t.arg)=s.timeouts.nextTimeout.countP (fun t => p t.h t.arg) := by
      rw [List.countP_eq_length_filter,filter_eraseP_of_not (hp hd arg hforeign),
        ←List.countP_eq_length_filter]
    constructor
    · intro i
      exact (congrArg (·+_) (herase (isCyclic_private i))).trans (h.cyclic i)
    · exact (congrArg (·+_) (herase isTcp_private)).trans h.tcp
  · exact h

variable [TimeBase τ]

/-- Insertion adds one timeout. -/
theorem link_perm (timeout : SysTimeo τ) (queue : List (SysTimeo τ)) :
    (link timeout queue).Perm (timeout::queue) := by
  induction queue with
  | nil => exact List.Perm.refl _
  | cons t queue ih =>
    rw [link]
    split
    · exact List.Perm.refl _
    · exact (ih.cons t).trans (List.Perm.swap timeout t queue)

/-- The kind of the timer that was started. -/
theorem isCyclic_self (i j : ℕ) : (isCyclic i .lwipCyclicTimer j).toNat=[j].count i := by
  by_cases hj : j=i
  · simp [isCyclic,hj]
  · simp [isCyclic,hj]

/-- A timeout that is armed is in service, and nothing else changes. -/
theorem sysTimeoutAbs_inService {absTime : τ} {h : Handler} {arg : ℕ}
    (hlive : (sysTimeoutAbs s absTime h arg).1.position≠.halted) :
    (∀ p, (sysTimeoutAbs s absTime h arg).1.inService p=s.inService p+(p h arg).toNat) ∧
      (sysTimeoutAbs s absTime h arg).1.timeouts.tcpipTcpTimerActive=
        s.timeouts.tcpipTcpTimerActive := by
  unfold sysTimeoutAbs at hlive ⊢
  cases hfree : s.timeouts.free with
  | zero =>
    rw [hfree] at hlive
    exact absurd rfl hlive
  | succ free =>
    refine ⟨fun p => ?_,rfl⟩
    show (link _ s.timeouts.nextTimeout).countP _+(s.position.runs p).toNat=_
    rw [(link_perm _ _).countP_eq,List.countP_cons,System.inService]
    cases p h arg with
    | true => simp only [if_true,Bool.toNat_true]; omega
    | false => simp only [Bool.false_eq_true,if_false,Bool.toNat_false]; omega

/-- The same for a timeout that is asked for. -/
theorem sysTimeout_inService {msecs : ℕ} {h : Handler} {arg : ℕ}
    (hlive : (sysTimeout s msecs h arg).1.position≠.halted) :
    (∀ p, (sysTimeout s msecs h arg).1.inService p=s.inService p+(p h arg).toNat) ∧
      (sysTimeout s msecs h arg).1.timeouts.tcpipTcpTimerActive=
        s.timeouts.tcpipTcpTimerActive := by
  unfold sysTimeout at hlive ⊢
  split at hlive
  next hm =>
    rw [if_pos hm]
    exact sysTimeoutAbs_inService hlive
  next => exact absurd rfl hlive

/-- A cyclic timer is armed again. -/
theorem lwipCyclicTimer_inService {i : ℕ} (hlive : (lwipCyclicTimer s i).1.position≠.halted) :
    (∀ p, (lwipCyclicTimer s i).1.inService p=s.inService p+(p .lwipCyclicTimer i).toNat) ∧
      (lwipCyclicTimer s i).1.timeouts.tcpipTcpTimerActive=s.timeouts.tcpipTcpTimerActive := by
  unfold lwipCyclicTimer at hlive ⊢
  dsimp only at hlive ⊢
  split at hlive
  next hover =>
    rw [if_pos hover]
    exact sysTimeoutAbs_inService hlive
  next hover =>
    rw [if_neg hover]
    exact sysTimeoutAbs_inService hlive

/-- A round of the check moves a timeout from the list to its function. -/
theorem sysCheckTimeoutsRound_inService {now : τ} (hp : s.position=.atLoop now)
    {p : Handler → ℕ → Bool} (hnull : ∀ arg, p .null arg=false) :
    (sysCheckTimeoutsRound s now).1.inService p=s.inService p ∧
      (sysCheckTimeoutsRound s now).1.timeouts.tcpipTcpTimerActive=
        s.timeouts.tcpipTcpTimerActive := by
  unfold sysCheckTimeoutsRound System.inService
  rw [hp]
  cases hl : s.timeouts.nextTimeout with
  | nil => exact ⟨by rw [hl]; rfl,rfl⟩
  | cons t rest =>
    dsimp only
    split
    · exact ⟨by rw [hl]; rfl,rfl⟩
    · refine ⟨?_,rfl⟩
      have hruns : (if t.h=.null then Position.atLoop now else .inHandler now t.h t.arg).runs p=
          p t.h t.arg := by
        split
        next hn => rw [hn,hnull]; rfl
        · rfl
      rw [hruns,List.countP_cons]
      cases p t.h t.arg with
      | true => rfl
      | false => rfl

/-- `tcp_timer_needed` starts the timer of TCP when it is not marked as active. -/
theorem OnceEach.tcpTimerNeeded (h : OnceEach started s) {pcbs : Bool}
    (hlive : (tcpTimerNeeded s pcbs).1.position≠.halted) :
    OnceEach started (tcpTimerNeeded s pcbs).1 := by
  unfold LwipTimeouts.tcpTimerNeeded at hlive ⊢
  split at hlive
  next hneeded =>
    rw [if_pos hneeded]
    obtain ⟨harmed,hactive⟩ := sysTimeout_inService hlive
    have hidle := h.tcp
    rw [hneeded.1] at hidle
    constructor
    · intro i
      exact (harmed _).trans (h.cyclic i)
    · rw [harmed,hactive]
      exact congrArg (·+1) hidle
  next hneeded =>
    rw [if_neg hneeded]
    exact h

/-- The handler of a cyclic timer arms it again. -/
theorem OnceEach.lwipCyclicTimer (h : OnceEach started s) {now : τ} {arg : ℕ}
    (hp : s.position=.inHandler now .lwipCyclicTimer arg)
    (hlive : (lwipCyclicTimer {s with position := .atLoop now} arg).1.position≠.halted) :
    OnceEach started (lwipCyclicTimer {s with position := .atLoop now} arg).1 := by
  have hreturned := inService_returned hp
  obtain ⟨harmed,hactive⟩ := lwipCyclicTimer_inService hlive
  constructor
  · intro i
    exact (harmed _).trans ((hreturned _).trans (h.cyclic i))
  · exact (harmed _).trans ((hreturned _).trans
      (h.tcp.trans (congrArg Bool.toNat hactive.symm)))

/-- The handler of the TCP timer arms it again as long as there are connections. -/
theorem OnceEach.tcpipTcpTimer (h : OnceEach started s) {now : τ} {arg : ℕ} {pcbs : Bool}
    (hp : s.position=.inHandler now .tcpipTcpTimer arg)
    (hlive : (tcpipTcpTimer {s with position := .atLoop now} pcbs).1.position≠.halted) :
    OnceEach started (tcpipTcpTimer {s with position := .atLoop now} pcbs).1 := by
  have hreturned := inService_returned hp
  have hone := hreturned isTcp
  rw [h.tcp] at hone
  cases pcbs with
  | true =>
    have hlive : (sysTimeout ({s with position := .atLoop now} : System τ) tcpTmrInterval
      .tcpipTcpTimer 0).1.position≠.halted := hlive
    obtain ⟨harmed,hactive⟩ := sysTimeout_inService hlive
    constructor
    · intro i
      exact (harmed _).trans ((hreturned _).trans (h.cyclic i))
    · exact (harmed _).trans (hone.trans (congrArg Bool.toNat hactive.symm))
  | false =>
    have hactive := Bool.toNat_le s.timeouts.tcpipTcpTimerActive
    have hrun : (isTcp .tcpipTcpTimer arg).toNat=1 := rfl
    constructor
    · intro i
      exact (hreturned _).trans (h.cyclic i)
    · show ({s with position := .atLoop now} : System τ).inService isTcp=0
      omega

/-- An event keeps every timer in service as often as it should be. -/
theorem OnceEach.happen {e : Event} (h : OnceEach started s)
    (hallowed : e.foreign=true ∨ ∃ i, e=.startCyclic i)
    (hlive : (s.happen e).1.position≠.halted) : OnceEach (started++e.starts) (s.happen e).1 := by
  have hkept : OnceEach (started++[]) s := by rwa [List.append_nil]
  cases e with
  | advance msecs => exact ⟨hkept.cyclic,hkept.tcp⟩
  | startCyclic i =>
    obtain ⟨harmed,hactive⟩ := sysTimeout_inService hlive
    constructor
    · intro j
      exact (harmed _).trans (by rw [h.cyclic j,isCyclic_self,Event.starts,List.count_append])
    · exact (harmed _).trans (by rw [h.tcp]; exact congrArg Bool.toNat hactive.symm)
  | timeout msecs hd arg =>
    have hforeign : hd.foreign=true := hallowed.resolve_right nofun
    exact hkept.foreign hforeign (sysTimeout_inService hlive)
  | untimeout hd arg =>
    have hforeign : hd.foreign=true := hallowed.resolve_right nofun
    exact hkept.sysUntimeout hforeign arg
  | tcpNeeded pcbs => exact hkept.tcpTimerNeeded hlive
  | fetch =>
    show OnceEach _ (tcpipMboxFetch s).1
    have hlive : (tcpipMboxFetch s).1.position≠.halted := hlive
    unfold tcpipMboxFetch at hlive ⊢
    cases hsleep : sysTimeoutsSleeptime s with
    | none =>
      rw [hsleep] at hlive
      exact absurd rfl hlive
    | some sleeptime => exact hkept
  | check =>
    obtain ⟨instant,timeouts,position⟩ := s
    cases position with
    | _ => exact ⟨hkept.cyclic,hkept.tcp⟩
  | next =>
    rw [System.happen]
    cases hp : s.position with
    | atLoop now =>
      dsimp only
      constructor
      · intro i
        rw [(sysCheckTimeoutsRound_inService hp fun _ => rfl).1]
        exact hkept.cyclic i
      · obtain ⟨hservice,hactive⟩ :=
          @sysCheckTimeoutsRound_inService τ s _ now hp isTcp fun _ => rfl
        rw [hservice,hactive]
        exact hkept.tcp
    | _ => exact hkept
  | finish pcbs =>
    rw [System.happen] at hlive ⊢
    cases hp : s.position with
    | inHandler now hd arg =>
      rw [hp] at hlive
      dsimp only at hlive ⊢
      have hreturned := inService_returned hp
      cases hd with
      | lwipCyclicTimer => exact hkept.lwipCyclicTimer hp hlive
      | tcpipTcpTimer => exact hkept.tcpipTcpTimer hp hlive
      | null =>
        exact ⟨fun i => (hreturned _).trans (hkept.cyclic i),(hreturned _).trans hkept.tcp⟩
      | callback function =>
        exact ⟨fun i => (hreturned _).trans (hkept.cyclic i),(hreturned _).trans hkept.tcp⟩
    | _ => exact hkept

/-- After a failed assertion the thread stays where it is. -/
theorem step_of_halted (hp : s.position=.halted) (e : Event) :
    ((lwip τ).step s e).1.position=.halted := by
  obtain ⟨instant,timeouts,position⟩ := s
  obtain rfl := hp
  cases e with
  | _ => rfl

/-- Before that every event has its effect. -/
theorem step_of_live (hlive : s.position≠.halted) (e : Event) :
    (lwip τ).step s e=s.happen e := by
  obtain ⟨instant,timeouts,position⟩ := s
  cases position with
  | halted => exact absurd rfl hlive
  | _ => rfl

/-- After every run each timer is in service as often as it should be. -/
theorem onceEach_run (instant : ℕ) {events : List Event}
    (hallowed : ∀ e∈events, e.foreign=true ∨ ∃ i, e=.startCyclic i)
    (hlive : ((lwip τ).run (boot τ instant) events).position≠.halted) :
    OnceEach (events.flatMap Event.starts) ((lwip τ).run (boot τ instant) events) := by
  induction events using List.reverseRecOn with
  | nil => exact ⟨fun i => rfl,rfl⟩
  | append_singleton events e ih =>
    rw [Machine.run_snoc] at hlive ⊢
    rw [List.flatMap_append,List.flatMap_singleton]
    have hbefore : ((lwip τ).run (boot τ instant) events).position≠.halted := fun hp =>
      hlive (step_of_halted hp e)
    have h := ih (fun e he => hallowed e (List.mem_append_left _ he)) hbefore
    rw [step_of_live hbefore] at hlive ⊢
    exact h.happen (hallowed e (List.mem_append_right _ List.mem_cons_self)) hlive

/-- While no assertion has failed, each cyclic timer of the stack is pending once or its handler
runs, and the timer of TCP is so exactly while it is marked as active. -/
theorem timers_in_service_once (instant : ℕ) (passing : ℕ → ℕ) (events : List Event)
    (hforeign : ∀ e∈events, e.foreign=true)
    (hlive : ((lwip UInt32).run (boot UInt32 instant)
      (sysTimeoutsInit passing++events)).position≠.halted) :
    (∀ i∈List.range' 1 (lwipCyclicTimers.length-1),
      ((lwip UInt32).run (boot UInt32 instant)
        (sysTimeoutsInit passing++events)).inService (isCyclic i)=1) ∧
    ((lwip UInt32).run (boot UInt32 instant) (sysTimeoutsInit passing++events)).inService isTcp=
      ((lwip UInt32).run (boot UInt32 instant)
        (sysTimeoutsInit passing++events)).timeouts.tcpipTcpTimerActive.toNat := by
  have hallowed : ∀ e∈sysTimeoutsInit passing++events, e.foreign=true ∨ ∃ i, e=.startCyclic i := by
    intro e he
    rcases List.mem_append.mp he with he|he
    · obtain ⟨i,-,he⟩ := List.mem_flatMap.mp he
      rcases List.mem_pair.mp he with rfl|rfl
      · exact Or.inr ⟨i,rfl⟩
      · exact Or.inl rfl
    · exact Or.inl (hforeign e he)
  have hstarts : (sysTimeoutsInit passing++events).flatMap Event.starts=
      List.range' 1 (lwipCyclicTimers.length-1) := by
    have hnone : events.flatMap Event.starts=[] := by
      rw [List.flatMap_eq_nil_iff]
      intro e he
      cases e with
      | startCyclic i => cases hforeign _ he
      | _ => rfl
    rw [List.flatMap_append,hnone,List.append_nil]
    rfl
  have h := onceEach_run instant hallowed hlive
  rw [hstarts] at h
  exact ⟨fun i hi => (h.cyclic i).trans (List.count_eq_one_of_mem List.nodup_range' hi),h.tcp⟩

/-- After the run across the wrap the TCP timer is pending as well. -/
theorem wrappingRun_in_service :
    ((lwip UInt32).run (boot UInt32 (2^32-200)) wrappingRun).timeouts.tcpipTcpTimerActive=true ∧
      (∀ i∈List.range' 1 (lwipCyclicTimers.length-1),
        ((lwip UInt32).run (boot UInt32 (2^32-200)) wrappingRun).inService (isCyclic i)=1) ∧
      ((lwip UInt32).run (boot UInt32 (2^32-200)) wrappingRun).inService isTcp=
        ((lwip UInt32).run (boot UInt32 (2^32-200))
          wrappingRun).timeouts.tcpipTcpTimerActive.toNat :=
  ⟨by decide +kernel,
    timers_in_service_once (2^32-200) (fun _ => 1) (wrappingRun.drop 12) (by decide +kernel)
      (by decide +kernel)⟩

end Service

end WebDataLogger.LwipTimeouts
