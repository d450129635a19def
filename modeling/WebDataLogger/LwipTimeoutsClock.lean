import Mathlib.Algebra.Order.Group.Nat
import Mathlib.Data.List.GetD
import WebDataLogger.LwipTimeouts
import WebDataLogger.StableQueue

/-!
# Timeouts across the wrap of the clock

What one event does to the module over times that never wrap is said once, and every invariant
is derived from it. Timeouts are armed less than `2^30` ms ahead. While none is overdue by as
much, the differences in 32 bits tell earlier from later, and the module does the same as over
times that never wrap.
-/

namespace WebDataLogger.LwipTimeouts

open TransitionRuns StableQueue

/-- Above the milliseconds by which a timeout is armed ahead. -/
def span : ℕ := lwipUint32Max/4+1

/-- The time at which the running check has begun. -/
def Position.begun {τ : Type*} : Position τ → Option τ
  | .atLoop now => some now
  | .inHandler now _ _ => some now
  | _ => none

/-- Nothing but time goes on. -/
def Event.isAdvance : Event → Bool
  | .advance _ => true
  | _ => false

/-- No timeout is overdue by `2^30` ms, and no check takes as long. -/
def OnTime (s : System ℕ) : Prop :=
  (∀ t∈s.timeouts.nextTimeout, s.instant<t.time+span) ∧ ∀ now∈s.position.begun, s.instant<now+span

instance (s : System ℕ) : Decidable (OnTime s) :=
  inferInstanceAs (Decidable (_ ∧ _))

/-- The module is on time whenever it is used. -/
def InTime (s : System ℕ) (e : Event) : Prop := e.isAdvance=true ∨ OnTime s

instance (s : System ℕ) (e : Event) : Decidable (InTime s e) :=
  inferInstanceAs (Decidable (_ ∨ _))

section Effects

/-- Why a timeout is armed, with what else changes at that. -/
inductive Cause (s : System ℕ) : Event → Position ℕ → Bool → SysTimeo ℕ → List Observation → Prop
  | started (i : ℕ) : Cause s (.startCyclic i) s.position s.timeouts.tcpipTcpTimerActive
      ⟨s.instant+intervalMs i,.lwipCyclicTimer,i⟩ []
  | asked (msecs : ℕ) (h : Handler) (arg : ℕ) (hm : msecs<span) :
      Cause s (.timeout msecs h arg) s.position s.timeouts.tcpipTcpTimerActive
        ⟨s.instant+msecs,h,arg⟩ []
  | needed (hidle : s.timeouts.tcpipTcpTimerActive=false) :
      Cause s (.tcpNeeded true) s.position true ⟨s.instant+tcpTmrInterval,.tcpipTcpTimer,0⟩ []
  | onGrid {now i : ℕ} (pcbs : Bool) (hp : s.position=.inHandler now .lwipCyclicTimer i)
      (hle : s.instant ≤ s.timeouts.currentTimeoutDueTime+intervalMs i) :
      Cause s (.finish pcbs) (.atLoop now) s.timeouts.tcpipTcpTimerActive
        ⟨s.timeouts.currentTimeoutDueTime+intervalMs i,.lwipCyclicTimer,i⟩ []
  | overloaded {now i : ℕ} (pcbs : Bool) (hp : s.position=.inHandler now .lwipCyclicTimer i)
      (hlt : s.timeouts.currentTimeoutDueTime+intervalMs i<s.instant) :
      Cause s (.finish pcbs) (.atLoop now) s.timeouts.tcpipTcpTimerActive
        ⟨s.instant+intervalMs i,.lwipCyclicTimer,i⟩ [.overload i]
  | stillNeeded {now arg : ℕ} (hp : s.position=.inHandler now .tcpipTcpTimer arg) :
      Cause s (.finish true) (.atLoop now) s.timeouts.tcpipTcpTimerActive
        ⟨s.instant+tcpTmrInterval,.tcpipTcpTimer,0⟩ []

/-- How a thread waits for a message when these timeouts are pending. -/
def waitFor (instant : ℕ) : List (SysTimeo ℕ) → Wait
  | [] => .forever
  | first::_ => if first.time ≤ instant then .check else .upTo (first.time-instant)

/-- Why an assertion fails. -/
inductive Fault (s : System ℕ) : Event → Prop
  | poolEmpty (e : Event) (hfree : s.timeouts.free=0) : Fault s e
  | tooLong {msecs : ℕ} (h : Handler) (arg : ℕ) (hm : span ≤ msecs) :
      Fault s (.timeout msecs h arg)
  | sleeptime {t : SysTimeo ℕ} (ht : t∈s.timeouts.nextTimeout)
      (hfar : s.instant+lwipMaxTimeout.toNat<t.time) : Fault s .fetch

/-- What an event can do to the module over times that never wrap. -/
inductive Effect (s : System ℕ) : Event → System ℕ → List Observation → Prop
  | passes (msecs : ℕ) : Effect s (.advance msecs) {s with instant := s.instant+msecs} []
  | stays (e : Event) : Effect s e s []
  | halts {e : Event} {t : System ℕ} {obs : List Observation} (hfault : Fault s e)
      (hi : t.instant=s.instant) (hl : t.timeouts.nextTimeout=s.timeouts.nextTimeout)
      (hfree : t.timeouts.free=s.timeouts.free) (hp : t.position=.halted)
      (ho : obs=[.assertionFailed] ∨ ∃ i, obs=[.overload i,.assertionFailed]) :
      Effect s e t obs
  | arms {e : Event} {position : Position ℕ} {active : Bool} {t : SysTimeo ℕ}
      {note : List Observation} {free : ℕ} (hcause : Cause s e position active t note)
      (hfree : s.timeouts.free=free+1) :
      Effect s e {s with
          timeouts := ⟨enqueue SysTimeo.time t s.timeouts.nextTimeout,
            s.timeouts.currentTimeoutDueTime,active,free⟩
          position := position}
        (note++[.armed s.instant t.h t.arg (t.time-s.instant)])
  | removes (h : Handler) (arg : ℕ)
      (hany : s.timeouts.nextTimeout.any (fun t => t.isFor h arg)=true) :
      Effect s (.untimeout h arg) {s with timeouts := {s.timeouts with
          nextTimeout := s.timeouts.nextTimeout.eraseP (fun t => t.isFor h arg)
          free := s.timeouts.free+1}} [.removed h arg]
  | begins (hp : s.position=.outside) :
      Effect s .check {s with position := .atLoop s.instant} []
  | returns {now : ℕ} (hp : s.position=.atLoop now)
      (hnone : ∀ t∈s.timeouts.nextTimeout.head?, now<t.time) :
      Effect s .next {s with position := .outside} [.checked s.instant (s.instant-now)]
  | expires {now : ℕ} {t : SysTimeo ℕ} {rest : List (SysTimeo ℕ)} (hp : s.position=.atLoop now)
      (hl : s.timeouts.nextTimeout=t::rest) (hle : t.time≤now) :
      Effect s .next
        {s with
          timeouts := {s.timeouts with
            nextTimeout := rest
            currentTimeoutDueTime := t.time
            free := s.timeouts.free+1}
          position := if t.h=.null then .atLoop now else .inHandler now t.h t.arg}
        [.expired s.instant t.h t.arg (s.instant-t.time)]
  | retires {now arg : ℕ} {h : Handler} (pcbs : Bool) (hp : s.position=.inHandler now h arg)
      (hcyclic : h≠.lwipCyclicTimer) (htcp : h=.tcpipTcpTimer → pcbs=false) :
      Effect s (.finish pcbs)
        {s with
          timeouts := {s.timeouts with tcpipTcpTimerActive :=
            if h=.tcpipTcpTimer then false else s.timeouts.tcpipTcpTimerActive}
          position := .atLoop now} []
  | waits (hsoon : ∀ t∈s.timeouts.nextTimeout.head?, t.time ≤ s.instant+lwipMaxTimeout.toNat) :
      Effect s .fetch s [.waits s.instant (waitFor s.instant s.timeouts.nextTimeout)]

/-- Over times that never wrap, a timeout goes behind those that are not due later. -/
theorem link_eq_enqueue (t : SysTimeo ℕ) (queue : List (SysTimeo ℕ)) :
    link t queue=enqueue SysTimeo.time t queue := by
  induction queue with
  | nil => rfl
  | cons u queue ih =>
    rw [link,enqueue,ih]
    by_cases hle : u.time≤t.time
    · rw [if_pos hle,if_neg (by simpa [timeLessThan] using hle)]
    · rw [if_neg hle,if_pos (by simpa [timeLessThan] using hle)]

variable {s : System ℕ}

/-- What is noted before a timeout is armed. -/
theorem Cause.note_cases {e : Event} {position : Position ℕ} {active : Bool} {t : SysTimeo ℕ}
    {note : List Observation} (h : Cause s e position active t note) :
    note=[] ∨ ∃ i, note=[.overload i] := by
  cases h with
  | overloaded pcbs hp hlt => exact Or.inr ⟨_,rfl⟩
  | _ => exact Or.inl rfl

/-- A timeout is armed, or the pool is empty. -/
theorem Cause.effect {e : Event} {position : Position ℕ} {active : Bool} {t : SysTimeo ℕ}
    {note : List Observation} (h : Cause s e position active t note) :
    Effect s e (sysTimeoutAbs ⟨s.instant,{s.timeouts with tcpipTcpTimerActive := active},position⟩
        t.time t.h t.arg).1
      (note++(sysTimeoutAbs ⟨s.instant,{s.timeouts with tcpipTcpTimerActive := active},position⟩
        t.time t.h t.arg).2) := by
  cases hfree : s.timeouts.free with
  | zero =>
    rw [sysTimeoutAbs]
    simp only [hfree]
    refine .halts (.poolEmpty e hfree) rfl rfl hfree.symm rfl ?_
    rcases h.note_cases with rfl|⟨i,rfl⟩
    · exact Or.inl rfl
    · exact Or.inr ⟨i,rfl⟩
  | succ free =>
    rw [sysTimeoutAbs]
    simp only [hfree,link_eq_enqueue]
    exact .arms h hfree

/-- A failed assertion. -/
theorem Fault.effect {e : Event} (h : Fault s e) :
    Effect s e s.assertionFailed.1 s.assertionFailed.2 :=
  .halts h rfl rfl rfl rfl (Or.inl rfl)

/-- A timeout that is asked for so much later. -/
theorem sysTimeout_of_le {τ : Type*} [TimeBase τ] {s : System τ} {msecs : ℕ} (hm : msecs<span)
    (h : Handler) (arg : ℕ) :
    sysTimeout s msecs h arg=sysTimeoutAbs s (after (sysNow s.instant) msecs) h arg :=
  if_pos (Nat.lt_succ_iff.mp hm)

/-- The interval of a timer is allowed for a timeout. -/
theorem intervalMs_lt (i : ℕ) : intervalMs i<span := by
  unfold intervalMs
  by_cases hi : i<lwipCyclicTimers.length
  · rw [List.getD_eq_getElem _ _ hi]
    have hall : ∀ m∈lwipCyclicTimers, m<span := by decide
    exact hall _ (List.getElem_mem hi)
  · rw [List.getD_eq_default _ _ (not_lt.mp hi)]
    decide

/-- Effect of the return of a cyclic timer's handler. -/
theorem lwipCyclicTimer_effect {now i : ℕ} (pcbs : Bool)
    (hp : s.position=.inHandler now .lwipCyclicTimer i) :
    Effect s (.finish pcbs) (lwipCyclicTimer {s with position := .atLoop now} i).1
      (lwipCyclicTimer {s with position := .atLoop now} i).2 := by
  unfold lwipCyclicTimer
  by_cases hlt : s.timeouts.currentTimeoutDueTime+intervalMs i<s.instant
  · simp only [timeLessThan,after,sysNow,hlt,decide_true,if_true]
    exact (Cause.overloaded pcbs hp hlt).effect
  · simp only [timeLessThan,after,sysNow,hlt,decide_false,Bool.false_eq_true,if_false]
    exact (Cause.onGrid pcbs hp (not_lt.mp hlt)).effect

/-- Effect of the return of a timeout's function. -/
theorem afterHandler_effect {now arg : ℕ} {h : Handler} (pcbs : Bool)
    (hp : s.position=.inHandler now h arg) :
    Effect s (.finish pcbs) (afterHandler {s with position := .atLoop now} h arg pcbs).1
      (afterHandler {s with position := .atLoop now} h arg pcbs).2 := by
  cases h with
  | lwipCyclicTimer => exact lwipCyclicTimer_effect pcbs hp
  | tcpipTcpTimer =>
    cases pcbs with
    | true => exact (Cause.stillNeeded hp).effect
    | false => exact .retires false hp (by decide) (fun _ => rfl)
  | null => exact .retires pcbs hp (by decide) (fun h => absurd h (by decide))
  | callback function =>
    exact .retires pcbs hp (fun h => Handler.noConfusion h) (fun h => Handler.noConfusion h)

/-- Effect of a round of the check. -/
theorem sysCheckTimeoutsRound_effect {now : ℕ} (hp : s.position=.atLoop now) :
    Effect s .next (sysCheckTimeoutsRound s now).1 (sysCheckTimeoutsRound s now).2 := by
  unfold sysCheckTimeoutsRound
  cases hl : s.timeouts.nextTimeout with
  | nil => exact .returns hp (by simp [hl])
  | cons t rest =>
    by_cases hlt : now<t.time
    · simp only [timeLessThan,hlt,decide_true,if_true]
      refine .returns hp ?_
      rw [hl]
      intro u hu
      obtain rfl : t=u := by simpa using hu
      exact hlt
    · simp only [timeLessThan,hlt,decide_false,Bool.false_eq_true,if_false]
      exact .expires hp hl (not_lt.mp hlt)

/-- Effect of the thread's look at the first timeout. -/
theorem tcpipMboxFetch_effect :
    Effect s .fetch (tcpipMboxFetch s).1 (tcpipMboxFetch s).2 := by
  unfold tcpipMboxFetch sysTimeoutsSleeptime
  cases hl : s.timeouts.nextTimeout with
  | nil =>
    have hw := @Effect.waits s (by simp [hl])
    rw [hl] at hw
    exact hw
  | cons t rest =>
    by_cases hlt : t.time<s.instant
    · have hw := @Effect.waits s (by simp [hl]; omega)
      rw [hl,waitFor,if_pos hlt.le] at hw
      simp only [timeLessThan,sysNow,hlt,decide_true,if_true]
      exact hw
    · simp only [timeLessThan,sysNow,since,hlt,decide_false,Bool.false_eq_true,if_false]
      by_cases hle : t.time-s.instant≤lwipMaxTimeout.toNat
      · have hmax : lwipMaxTimeout.toNat=0x7fffffff := rfl
        have hw := @Effect.waits s (by simp [hl]; omega)
        rw [hl,waitFor] at hw
        rw [if_pos hle]
        dsimp only
        rw [if_neg (show ¬t.time-s.instant=sleeptimeInfinite by unfold sleeptimeInfinite; omega)]
        by_cases hdue : t.time ≤ s.instant
        · rw [if_pos hdue] at hw
          rw [if_pos (show t.time-s.instant=0 by omega)]
          exact hw
        · rw [if_neg hdue] at hw
          rw [if_neg (show ¬t.time-s.instant=0 by omega)]
          exact hw
      · rw [if_neg hle]
        exact (Fault.sleeptime (by rw [hl]; exact List.mem_cons_self) (by omega)).effect

/-- What an event does over times that never wrap. -/
theorem step_effect (s : System ℕ) (e : Event) :
    Effect s e ((lwip ℕ).step s e).1 ((lwip ℕ).step s e).2 := by
  show Effect s e (s.step e).1 (s.step e).2
  unfold System.step
  split
  · cases e with
    | advance msecs => exact .passes msecs
    | _ => exact .stays _
  · cases e with
    | advance msecs => exact .passes msecs
    | startCyclic i =>
      rw [System.happen,sysTimeout_of_le (intervalMs_lt i)]
      exact (Cause.started i).effect
    | timeout msecs h arg =>
      by_cases hm : msecs<span
      · rw [System.happen,sysTimeout_of_le hm]
        exact (Cause.asked msecs h arg hm).effect
      · rw [System.happen,sysTimeout,if_neg (fun h' => hm (Nat.lt_succ_iff.mpr h'))]
        exact (Fault.tooLong h arg (not_lt.mp hm)).effect
    | untimeout h arg =>
      rw [System.happen,sysUntimeout]
      by_cases hany : s.timeouts.nextTimeout.any (fun t => t.isFor h arg)=true
      · rw [if_pos hany]
        exact .removes h arg hany
      · rw [if_neg hany]
        exact .stays _
    | tcpNeeded pcbs =>
      rw [System.happen,tcpTimerNeeded]
      by_cases hneeded : s.timeouts.tcpipTcpTimerActive=false ∧ pcbs=true
      · obtain ⟨hidle,rfl⟩ := hneeded
        rw [if_pos ⟨hidle,rfl⟩]
        exact (Cause.needed hidle).effect
      · rw [if_neg hneeded]
        exact .stays _
    | fetch => exact tcpipMboxFetch_effect
    | check =>
      cases hp : s.position with
      | outside =>
        simp only [System.happen,hp]
        exact .begins hp
      | _ =>
        simp only [System.happen,hp]
        exact .stays _
    | next =>
      cases hp : s.position with
      | atLoop now =>
        simp only [System.happen,hp]
        exact sysCheckTimeoutsRound_effect hp
      | _ =>
        simp only [System.happen,hp]
        exact .stays _
    | finish pcbs =>
      cases hp : s.position with
      | inHandler now h arg =>
        simp only [System.happen,hp]
        exact afterHandler_effect pcbs hp
      | _ =>
        simp only [System.happen,hp]
        exact .stays _

/-- After a failed assertion nothing happens but that time goes on. -/
theorem step_halted (hp : s.position=.halted) (e : Event) :
    ∃ instant, s.instant ≤ instant ∧
      (lwip ℕ).step s e=({s with instant := instant},[]) := by
  obtain ⟨instant,timeouts,position⟩ := s
  obtain rfl : position=.halted := hp
  cases e with
  | advance msecs => exact ⟨instant+msecs,Nat.le_add_right _ _,rfl⟩
  | _ => exact ⟨instant,le_rfl,rfl⟩

/-- A timeout is armed at the earliest for the instant at which that happens. -/
theorem Cause.instant_le {e : Event} {position : Position ℕ} {active : Bool} {t : SysTimeo ℕ}
    {note : List Observation} (h : Cause s e position active t note) : s.instant≤t.time := by
  cases h with
  | onGrid pcbs hp hle => exact hle
  | _ => exact Nat.le_add_right _ _

/-- How far times reach from the instant of the module. -/
structure Within (s : System ℕ) : Prop where
  /-- Timeouts are due soon. -/
  soon : ∀ t∈s.timeouts.nextTimeout, t.time<s.instant+span
  /-- The check has begun. -/
  begun : ∀ now∈s.position.begun, now ≤ s.instant
  /-- The timeout whose function runs was due when the check began, and not long before. -/
  due : ∀ now h arg, s.position=.inHandler now h arg →
    s.timeouts.currentTimeoutDueTime≤now ∧ now<s.timeouts.currentTimeoutDueTime+span

/-- A timeout is armed for an instant that is not far away. -/
theorem Cause.soon {e : Event} {position : Position ℕ} {active : Bool} {t : SysTimeo ℕ}
    {note : List Observation} (h : Cause s e position active t note) (hw : Within s) :
    t.time<s.instant+span := by
  have htcp : tcpTmrInterval<span := by decide
  cases h with
  | started i => exact Nat.add_lt_add_left (intervalMs_lt i) _
  | asked msecs h arg hm => exact Nat.add_lt_add_left hm _
  | needed hidle => exact Nat.add_lt_add_left htcp _
  | stillNeeded hp => exact Nat.add_lt_add_left htcp _
  | @overloaded now i pcbs hp hlt => exact Nat.add_lt_add_left (intervalMs_lt i) _
  | @onGrid now i pcbs hp hle =>
    have hcurrent := (hw.due now _ i hp).1
    have hnow := hw.begun now (by rw [hp]; rfl)
    exact Nat.add_lt_add_of_le_of_lt (hcurrent.trans hnow) (intervalMs_lt i)

/-- Arming a timeout may end the function of another, but the check goes on. -/
theorem Cause.position_cases {e : Event} {position : Position ℕ} {active : Bool} {t : SysTimeo ℕ}
    {note : List Observation} (h : Cause s e position active t note) :
    position=s.position ∨ ∃ now h arg, s.position=.inHandler now h arg ∧ position=.atLoop now := by
  cases h with
  | onGrid pcbs hp hle => exact Or.inr ⟨_,_,_,hp,rfl⟩
  | overloaded pcbs hp hlt => exact Or.inr ⟨_,_,_,hp,rfl⟩
  | stillNeeded hp => exact Or.inr ⟨_,_,_,hp,rfl⟩
  | _ => exact Or.inl rfl

/-- Times stay within reach while the module is on time. -/
theorem Effect.within {e : Event} {t : System ℕ} {obs : List Observation} (h : Effect s e t obs)
    (hw : Within s) (hon : InTime s e) : Within t := by
  cases h with
  | passes msecs =>
    exact ⟨fun u hu => (hw.soon u hu).trans_le (Nat.add_le_add_right (Nat.le_add_right _ _) _),
      fun now hnow => (hw.begun now hnow).trans (Nat.le_add_right _ _),hw.due⟩
  | stays => exact hw
  | waits => exact hw
  | halts hfault hi hl hfree hp ho =>
    refine ⟨fun u hu => ?_,fun now hnow => ?_,fun now h arg hrun => ?_⟩
    · rw [hi]
      exact hw.soon u (hl▸hu)
    · rw [hp] at hnow
      cases hnow
    · rw [hp] at hrun
      cases hrun
  | @arms _ position active u note free hcause hfree =>
    refine ⟨fun v hv => ?_,fun now hnow => ?_,fun now h arg hrun => ?_⟩
    · rcases (mem_enqueue SysTimeo.time).mp hv with rfl|hv
      · exact hcause.soon hw
      · exact hw.soon v hv
    · rcases hcause.position_cases with hp|⟨now',h,arg,hp,hp'⟩
      · exact hw.begun now (hp▸hnow)
      · have hnow : now∈position.begun := hnow
        rw [hp'] at hnow
        exact hw.begun now (by rw [hp]; exact hnow)
    · have hrun : position=.inHandler now h arg := hrun
      rcases hcause.position_cases with hp|⟨now',h',arg',hp,hp'⟩
      · exact hw.due now h arg (hp▸hrun)
      · rw [hp'] at hrun
        cases hrun
  | removes h arg hany =>
    exact ⟨fun u hu => hw.soon u (List.mem_of_mem_eraseP hu),hw.begun,hw.due⟩
  | begins hp =>
    refine ⟨hw.soon,fun now hnow => ?_,fun now h arg hrun => ?_⟩
    · obtain rfl : s.instant=now := Option.some.inj hnow
      exact le_rfl
    · cases hrun
  | returns hp hnone =>
    refine ⟨hw.soon,fun now hnow => ?_,fun now h arg hrun => ?_⟩
    · cases hnow
    · cases hrun
  | @expires now u rest hp hl hle =>
    have hbegun := hw.begun now (by rw [hp]; rfl)
    refine ⟨fun v hv => hw.soon v (by rw [hl]; exact List.mem_cons_of_mem u hv),?_,?_⟩
    · intro now' hnow
      obtain rfl : now=now' := by
        dsimp only at hnow
        split at hnow
        · exact Option.some.inj hnow
        · exact Option.some.inj hnow
      exact hbegun
    · intro now' h arg hrun
      dsimp only at hrun
      split at hrun
      · cases hrun
      · obtain ⟨rfl,-,-⟩ := Position.inHandler.inj hrun
        rcases hon with hadvance|hon
        · cases hadvance
        · have hfirst := hon.1 u (by rw [hl]; exact List.mem_cons_self)
          exact ⟨hle,hbegun.trans_lt hfirst⟩
  | @retires now arg h pcbs hp hcyclic htcp =>
    refine ⟨hw.soon,fun now' hnow => ?_,fun now' h arg hrun => ?_⟩
    · obtain rfl : now=now' := Option.some.inj hnow
      exact hw.begun now (by rw [hp]; rfl)
    · cases hrun

end Effects

section Wrap

/-- A timeout as the clock of 32 bits shows it. -/
def SysTimeo.shown (t : SysTimeo ℕ) : SysTimeo UInt32 := ⟨sysNow t.time,t.h,t.arg⟩

/-- The place in a check as the clock of 32 bits shows it. -/
def Position.shown : Position ℕ → Position UInt32
  | .outside => .outside
  | .atLoop now => .atLoop (sysNow now)
  | .inHandler now h arg => .inHandler (sysNow now) h arg
  | .halted => .halted

/-- The module as the clock of 32 bits shows it. -/
def System.shown (s : System ℕ) : System UInt32 where
  instant := s.instant
  timeouts := ⟨s.timeouts.nextTimeout.map SysTimeo.shown,sysNow s.timeouts.currentTimeoutDueTime,
    s.timeouts.tcpipTcpTimerActive,s.timeouts.free⟩
  position := s.position.shown

/-- The effect of an event as the clock of 32 bits shows it. -/
def shownStep (p : System ℕ×List Observation) : System UInt32×List Observation := (p.1.shown,p.2)

/-- Times less than half a turn apart are told apart by their difference. -/
theorem timeLessThan_shown {t u : ℕ} (hlow : u≤t+2^31) (hhigh : t<u+2^31) :
    timeLessThan (sysNow t : UInt32) (sysNow u)=timeLessThan t u := by
  show decide (lwipMaxTimeout<UInt32.ofNat t-UInt32.ofNat u)=decide (t<u)
  rw [decide_eq_decide,UInt32.lt_iff_toNat_lt,UInt32.toNat_sub]
  rw [UInt32.toNat_ofNat',UInt32.toNat_ofNat',show lwipMaxTimeout.toNat=2^31-1 from rfl]
  omega

/-- The difference from an earlier time. -/
theorem since_shown {t base : ℕ} (hle : base≤t) (hlt : t<base+2^32) :
    since (sysNow t : UInt32) (sysNow base)=since t base := by
  show (UInt32.ofNat t-UInt32.ofNat base).toNat=t-base
  rw [UInt32.toNat_sub,UInt32.toNat_ofNat',UInt32.toNat_ofNat']
  omega

/-- A later time. -/
theorem after_shown (t msecs : ℕ) :
    after (sysNow t : UInt32) msecs=sysNow (after t msecs) :=
  (UInt32.ofNat_add t msecs).symm

variable {s : System ℕ}

/-- The instant is that of the observer. -/
theorem System.shown_instant (s : System ℕ) : s.shown.instant=s.instant := rfl

/-- The same timeouts are pending. -/
theorem System.shown_nextTimeout {queue : List (SysTimeo ℕ)}
    (h : s.timeouts.nextTimeout=queue) :
    s.shown.timeouts.nextTimeout=queue.map SysTimeo.shown :=
  congrArg (List.map SysTimeo.shown) h

/-- Insertion sees the same order on the clock of 32 bits. -/
theorem link_shown {t : SysTimeo ℕ} {queue : List (SysTimeo ℕ)}
    (h : ∀ u∈queue, u.time≤t.time+2^31 ∧ t.time<u.time+2^31) :
    link t.shown (queue.map SysTimeo.shown)=(link t queue).map SysTimeo.shown := by
  induction queue with
  | nil => rfl
  | cons u queue ih =>
    obtain ⟨hlow,hhigh⟩ := h u List.mem_cons_self
    rw [List.map_cons,link,link,ih (fun v hv => h v (List.mem_cons_of_mem u hv)),
      show timeLessThan t.shown.time u.shown.time=timeLessThan t.time u.time from
        timeLessThan_shown hlow hhigh]
    split
    · rfl
    · rfl

/-- Timeouts are armed alike on the clock of 32 bits. -/
theorem sysTimeoutAbs_shown {absTime : ℕ} (h : Handler) (arg : ℕ) (hle : s.instant≤absTime)
    (hlt : absTime<s.instant+span)
    (hlist : ∀ u∈s.timeouts.nextTimeout, u.time<s.instant+span ∧ s.instant<u.time+span) :
    sysTimeoutAbs s.shown (sysNow absTime) h arg=shownStep (sysTimeoutAbs s absTime h arg) := by
  have hspan : span=2^30 := rfl
  have hlink := @link_shown ⟨absTime,h,arg⟩ s.timeouts.nextTimeout (fun u hu => by
    have hu := hlist u hu
    dsimp only
    omega)
  have hsince := @since_shown absTime s.instant hle (by omega)
  cases hfree : s.timeouts.free with
  | zero =>
    have hfree' : s.shown.timeouts.free=0 := hfree
    simp only [sysTimeoutAbs,hfree',hfree]
    rfl
  | succ free =>
    simp only [sysTimeoutAbs,System.shown,hfree]
    rw [hsince]
    exact congrArg (fun queue => ((⟨s.instant,⟨queue,sysNow s.timeouts.currentTimeoutDueTime,
      s.timeouts.tcpipTcpTimerActive,free⟩,s.position.shown⟩ : System UInt32),_)) hlink

/-- Timeouts are asked for alike on the clock of 32 bits. -/
theorem sysTimeout_shown (msecs : ℕ) (h : Handler) (arg : ℕ)
    (hlist : ∀ u∈s.timeouts.nextTimeout, u.time<s.instant+span ∧ s.instant<u.time+span) :
    sysTimeout s.shown msecs h arg=shownStep (sysTimeout s msecs h arg) := by
  by_cases hm : msecs<span
  · rw [sysTimeout_of_le hm,sysTimeout_of_le hm,show s.shown.instant=s.instant from rfl,
      after_shown]
    exact sysTimeoutAbs_shown h arg (Nat.le_add_right _ _) (Nat.add_lt_add_left hm _) hlist
  · have hm' : ¬msecs≤lwipUint32Max/4 := fun h' => hm (Nat.lt_succ_iff.mpr h')
    rw [sysTimeout,if_neg hm',sysTimeout,if_neg hm']
    rfl

/-- A cyclic timer that would expire again at once. -/
theorem lwipCyclicTimer_overloaded {τ : Type*} [TimeBase τ] {s : System τ} {i : ℕ}
    (h : timeLessThan (after s.timeouts.currentTimeoutDueTime (intervalMs i))
      (sysNow s.instant)=true) :
    lwipCyclicTimer s i=
      ((sysTimeoutAbs s (after (sysNow s.instant) (intervalMs i)) .lwipCyclicTimer i).1,
        .overload i::
          (sysTimeoutAbs s (after (sysNow s.instant) (intervalMs i)) .lwipCyclicTimer i).2) :=
  if_pos h

/-- A cyclic timer that keeps its interval. -/
theorem lwipCyclicTimer_onGrid {τ : Type*} [TimeBase τ] {s : System τ} {i : ℕ}
    (h : timeLessThan (after s.timeouts.currentTimeoutDueTime (intervalMs i))
      (sysNow s.instant)=false) :
    lwipCyclicTimer s i=sysTimeoutAbs s
      (after s.timeouts.currentTimeoutDueTime (intervalMs i)) .lwipCyclicTimer i :=
  if_neg (by rw [h]; decide)

/-- A cyclic timer is armed again alike on the clock of 32 bits. -/
theorem lwipCyclicTimer_shown (i : ℕ)
    (hlist : ∀ u∈s.timeouts.nextTimeout, u.time<s.instant+span ∧ s.instant<u.time+span)
    (hle : s.timeouts.currentTimeoutDueTime ≤ s.instant)
    (hlt : s.instant<s.timeouts.currentTimeoutDueTime+2*span) :
    lwipCyclicTimer s.shown i=shownStep (lwipCyclicTimer s i) := by
  have hspan : span=2^30 := rfl
  have hi := intervalMs_lt i
  have hnext : after s.shown.timeouts.currentTimeoutDueTime (intervalMs i)=
      sysNow (s.timeouts.currentTimeoutDueTime+intervalMs i) := after_shown _ _
  have hless : timeLessThan (after s.shown.timeouts.currentTimeoutDueTime (intervalMs i))
      (sysNow s.shown.instant)=
        timeLessThan (after s.timeouts.currentTimeoutDueTime (intervalMs i)) (sysNow s.instant) := by
    rw [hnext]
    exact timeLessThan_shown
      (show s.instant ≤ s.timeouts.currentTimeoutDueTime+intervalMs i+2^31 by omega)
      (show s.timeouts.currentTimeoutDueTime+intervalMs i<s.instant+2^31 by omega)
  by_cases hover : s.timeouts.currentTimeoutDueTime+intervalMs i<s.instant
  · have hcode : timeLessThan (after s.timeouts.currentTimeoutDueTime (intervalMs i))
        (sysNow s.instant)=true := decide_eq_true hover
    have hrestart := @sysTimeoutAbs_shown s (s.instant+intervalMs i) .lwipCyclicTimer i
      (Nat.le_add_right _ _) (Nat.add_lt_add_left hi _) hlist
    rw [lwipCyclicTimer_overloaded hcode,lwipCyclicTimer_overloaded (hless.trans hcode),
      show after (sysNow s.shown.instant : UInt32) (intervalMs i)=
        sysNow (s.instant+intervalMs i) from after_shown _ _,hrestart]
    rfl
  · have hcode : timeLessThan (after s.timeouts.currentTimeoutDueTime (intervalMs i))
        (sysNow s.instant)=false := decide_eq_false hover
    rw [lwipCyclicTimer_onGrid hcode,lwipCyclicTimer_onGrid (hless.trans hcode),hnext]
    exact sysTimeoutAbs_shown _ i (not_lt.mp hover)
      (show s.timeouts.currentTimeoutDueTime+intervalMs i<s.instant+span by omega) hlist

/-- A round of the check is the same on the clock of 32 bits. -/
theorem sysCheckTimeoutsRound_shown {now : ℕ} (hbegun : now ≤ s.instant)
    (hlong : s.instant<now+span)
    (hlist : ∀ u∈s.timeouts.nextTimeout, u.time<s.instant+span ∧ s.instant<u.time+span) :
    sysCheckTimeoutsRound s.shown (sysNow now)=shownStep (sysCheckTimeoutsRound s now) := by
  have hspan : span=2^30 := rfl
  have hduration := @since_shown s.instant now hbegun (by omega)
  unfold sysCheckTimeoutsRound
  cases hl : s.timeouts.nextTimeout with
  | nil =>
    rw [System.shown_nextTimeout hl,List.map_nil]
    dsimp only
    rw [System.shown_instant,hduration]
    rfl
  | cons t rest =>
    have hfirst := hlist t (by rw [hl]; exact List.mem_cons_self)
    have hless : timeLessThan (sysNow now : UInt32) t.shown.time=timeLessThan now t.time :=
      timeLessThan_shown (by omega) (by omega)
    rw [System.shown_nextTimeout hl,List.map_cons]
    dsimp only
    rw [hless,System.shown_instant]
    by_cases hlt : now<t.time
    · have hcode : timeLessThan now t.time=true := decide_eq_true hlt
      rw [if_pos hcode,if_pos hcode,hduration]
      rfl
    · have hlate : since (sysNow s.instant : UInt32) t.shown.time=since s.instant t.time :=
        since_shown (by omega) (by omega)
      have hnot : ¬timeLessThan now t.time=true := by simpa [timeLessThan] using hlt
      rw [if_neg hnot,if_neg hnot,hlate]
      unfold shownStep System.shown
      dsimp only
      rw [apply_ite Position.shown]
      rfl

/-- The thread waits alike on the clock of 32 bits. -/
theorem tcpipMboxFetch_shown
    (hlist : ∀ u∈s.timeouts.nextTimeout, u.time<s.instant+span ∧ s.instant<u.time+span) :
    tcpipMboxFetch s.shown=shownStep (tcpipMboxFetch s) := by
  have hspan : span=2^30 := rfl
  have hsleep : sysTimeoutsSleeptime s.shown=sysTimeoutsSleeptime s := by
    unfold sysTimeoutsSleeptime
    cases hl : s.timeouts.nextTimeout with
    | nil =>
      rw [System.shown_nextTimeout hl,List.map_nil]
    | cons t rest =>
      have hfirst := hlist t (by rw [hl]; exact List.mem_cons_self)
      have hless : timeLessThan t.shown.time (sysNow s.instant : UInt32)=
          timeLessThan t.time (sysNow s.instant) :=
        timeLessThan_shown (by omega) (by omega)
      rw [System.shown_nextTimeout hl,List.map_cons]
      dsimp only
      rw [System.shown_instant,hless]
      by_cases hlt : t.time<s.instant
      · have hcode : timeLessThan t.time (sysNow s.instant)=true := decide_eq_true hlt
        rw [if_pos hcode,if_pos hcode]
      · have hnot : ¬timeLessThan t.time (sysNow s.instant)=true := by
          simpa [timeLessThan,sysNow] using hlt
        have hleft : since t.shown.time (sysNow s.instant : UInt32)=
            since t.time (sysNow s.instant) := since_shown (not_lt.mp hlt) (by omega)
        rw [if_neg hnot,if_neg hnot,hleft]
  unfold tcpipMboxFetch
  rw [hsleep]
  cases sysTimeoutsSleeptime s with
  | none => rfl
  | some sleeptime => rfl

/-- Taking a timeout off does not depend on the clock. -/
theorem sysUntimeout_shown (h : Handler) (arg : ℕ) :
    sysUntimeout s.shown h arg=shownStep (sysUntimeout s h arg) := by
  have hfor : (fun t : SysTimeo UInt32 => t.isFor h arg)∘SysTimeo.shown=
      fun t : SysTimeo ℕ => t.isFor h arg := rfl
  have hany : s.shown.timeouts.nextTimeout.any (fun t => t.isFor h arg)=
      s.timeouts.nextTimeout.any (fun t => t.isFor h arg) := by
    rw [show s.shown.timeouts.nextTimeout=s.timeouts.nextTimeout.map SysTimeo.shown from rfl,
      List.any_map,hfor]
  have herase : s.shown.timeouts.nextTimeout.eraseP (fun t => t.isFor h arg)=
      (s.timeouts.nextTimeout.eraseP (fun t => t.isFor h arg)).map SysTimeo.shown := by
    rw [show s.shown.timeouts.nextTimeout=s.timeouts.nextTimeout.map SysTimeo.shown from rfl,
      List.eraseP_map,hfor]
  unfold sysUntimeout
  rw [hany,herase]
  split
  · rfl
  · rfl

/-- While the module is on time, an event is the same on the clock of 32 bits. -/
theorem happen_shown {e : Event} (hw : Within s) (hon : InTime s e) :
    s.shown.happen e=shownStep (s.happen e) := by
  have hlist (hon : OnTime s) :
      ∀ u∈s.timeouts.nextTimeout, u.time<s.instant+span ∧ s.instant<u.time+span :=
    fun u hu => ⟨hw.soon u hu,hon.1 u hu⟩
  rcases hon with hadvance|hon
  · cases e with
    | advance msecs => rfl
    | _ => cases hadvance
  · cases e with
    | advance msecs => rfl
    | startCyclic i => exact sysTimeout_shown _ _ _ (hlist hon)
    | timeout msecs h arg => exact sysTimeout_shown msecs h arg (hlist hon)
    | untimeout h arg => exact sysUntimeout_shown h arg
    | tcpNeeded pcbs =>
      have harm := @sysTimeout_shown
        ⟨s.instant,{s.timeouts with tcpipTcpTimerActive := true},s.position⟩
        tcpTmrInterval .tcpipTcpTimer 0 (hlist hon)
      by_cases hneeded : s.timeouts.tcpipTcpTimerActive=false ∧ pcbs=true
      · rw [System.happen,System.happen,tcpTimerNeeded,tcpTimerNeeded,if_pos hneeded,
          if_pos (show s.shown.timeouts.tcpipTcpTimerActive=false ∧ pcbs=true from hneeded)]
        exact harm
      · rw [System.happen,System.happen,tcpTimerNeeded,tcpTimerNeeded,if_neg hneeded,
          if_neg (show ¬(s.shown.timeouts.tcpipTcpTimerActive=false ∧ pcbs=true) from hneeded)]
        rfl
    | fetch => exact tcpipMboxFetch_shown (hlist hon)
    | check =>
      obtain ⟨instant,timeouts,position⟩ := s
      cases position with
      | _ => rfl
    | next =>
      obtain ⟨instant,timeouts,position⟩ := s
      cases position with
      | atLoop now =>
        exact sysCheckTimeoutsRound_shown (hw.begun now rfl) (hon.2 now rfl) (hlist hon)
      | _ => rfl
    | finish pcbs =>
      obtain ⟨instant,timeouts,position⟩ := s
      cases position with
      | inHandler now h arg =>
        obtain ⟨hcurrent,hnow⟩ := hw.due now h arg rfl
        cases h with
        | lwipCyclicTimer =>
          have hlong := hon.2 now rfl
          exact @lwipCyclicTimer_shown ⟨instant,timeouts,.atLoop now⟩ arg (hlist hon)
            (hcurrent.trans (hw.begun now rfl)) (by dsimp only at hlong hnow ⊢; omega)
        | tcpipTcpTimer =>
          cases pcbs with
          | true =>
            exact @sysTimeout_shown ⟨instant,timeouts,.atLoop now⟩ tcpTmrInterval .tcpipTcpTimer 0
              (hlist hon)
          | false => rfl
        | _ => rfl
      | _ => rfl

/-- While the module is on time, a step is the same on the clock of 32 bits. -/
theorem step_shown {e : Event} (hw : Within s) (hon : InTime s e) :
    (lwip UInt32).step s.shown e=shownStep ((lwip ℕ).step s e) := by
  have hhappen := happen_shown hw hon
  show s.shown.step e=shownStep (s.step e)
  unfold System.step
  cases hp : s.position with
  | halted =>
    rw [show s.shown.position=.halted from congrArg Position.shown hp]
    cases e with
    | _ => rfl
  | outside =>
    rw [show s.shown.position=.outside from congrArg Position.shown hp]
    exact hhappen
  | atLoop now =>
    rw [show s.shown.position=.atLoop (sysNow now) from congrArg Position.shown hp]
    exact hhappen
  | inHandler now h arg =>
    rw [show s.shown.position=.inHandler (sysNow now) h arg from congrArg Position.shown hp]
    exact hhappen

/-- Nothing is pending at boot. -/
theorem boot_within (instant : ℕ) : Within (boot ℕ instant) where
  soon t ht := by cases ht
  begun now hnow := by cases hnow
  due now h arg hp := by cases hp

/-- Runs that stay on time are the same on the clock of 32 bits, wherever it wraps. -/
theorem runs_shown {start : System ℕ} (hw : Within start) {events : List Event}
    (hon : (lwip ℕ).Guarded InTime start events) :
    (lwip UInt32).trace start.shown events=(lwip ℕ).trace start events ∧
      (lwip UInt32).run start.shown events=((lwip ℕ).run start events).shown ∧
        Within ((lwip ℕ).run start events) := by
  refine Machine.guarded_simulation (fun s t => s=t.shown ∧ Within t) InTime ?_ ⟨rfl,hw⟩ hon
  rintro _ s e ⟨rfl,hw⟩ hon
  rw [step_shown hw hon]
  exact ⟨rfl,rfl,(step_effect s e).within hw hon⟩

/-- From boot the module does on the clock of 32 bits what it does over times that never wrap,
as long as no timeout is overdue by `2^30` ms, and no check lasts as long, when the module is
used. -/
theorem clock_wrap_unseen (instant : ℕ) (events : List Event)
    (hon : (lwip ℕ).Guarded InTime (boot ℕ instant) events) :
    (lwip UInt32).trace (boot UInt32 instant) events=(lwip ℕ).trace (boot ℕ instant) events ∧
      (lwip UInt32).run (boot UInt32 instant) events=
        ((lwip ℕ).run (boot ℕ instant) events).shown := by
  obtain ⟨htrace,hrun,-⟩ := runs_shown (boot_within instant) hon
  exact ⟨htrace,hrun⟩

/-- A run in which the clock wraps while timeouts are pending: 50 ms before that the timer of
IGMP is called late, and its handler asks for a timeout after the wrap. -/
def wrappingRun : List Event :=
  sysTimeoutsInit (fun _ => 1)++[.advance 150,.fetch,.check,.next,.timeout 70 (.callback 7) 3,
    .finish true,.next,.fetch,.advance 50,.check,.next,.finish true,.next,.tcpNeeded true,
    .advance 20,.check,.next,.untimeout .null 0,.finish false,.next,.fetch]

/-- The wrap is not seen in this run. -/
theorem wrappingRun_unseen :
    (lwip UInt32).trace (boot UInt32 (2^32-200)) wrappingRun=
        (lwip ℕ).trace (boot ℕ (2^32-200)) wrappingRun ∧
      (lwip UInt32).run (boot UInt32 (2^32-200)) wrappingRun=
        ((lwip ℕ).run (boot ℕ (2^32-200)) wrappingRun).shown :=
  clock_wrap_unseen (2^32-200) wrappingRun (by decide +kernel)

end Wrap

end WebDataLogger.LwipTimeouts
