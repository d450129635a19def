import Mathlib.Data.List.Basic
import WebDataLogger.TransitionRuns

/-!
# Timeouts of the network stack

lwIP keeps one list of timeouts, ordered by the times at which they are due. The thread of the
stack sleeps until the first of them, and then calls the functions of all that are due. Times
are those of a clock of 32 bits that wraps, so that they are compared by their difference.
The same functions over times that never wrap say what they are meant to do.
-/

namespace WebDataLogger.LwipTimeouts

open TransitionRuns

/-- `LWIP_MAX_TIMEOUT`. -/
def lwipMaxTimeout : UInt32 := 0x7fffffff

/-- `LWIP_UINT32_MAX`. -/
def lwipUint32Max : ℕ := 0xffffffff

/-- `SYS_TIMEOUTS_SLEEPTIME_INFINITE`. -/
def sleeptimeInfinite : ℕ := 0xFFFFFFFF

/-- Times as the functions of the module calculate with them. -/
class TimeBase (τ : Type*) where
  /-- What `sys_now` returns at an instant. -/
  sysNow : ℕ → τ
  /-- The time some milliseconds after another. -/
  after : τ → ℕ → τ
  /-- Milliseconds from the second time to the first. -/
  since : τ → τ → ℕ
  /-- `TIME_LESS_THAN`. -/
  timeLessThan : τ → τ → Bool

export TimeBase (sysNow after since timeLessThan)

/-- `u32_t` times. The tick of the kernel is one millisecond. -/
instance : TimeBase UInt32 where
  sysNow instant := UInt32.ofNat instant
  after t msecs := t+UInt32.ofNat msecs
  since t base := (t-base).toNat
  timeLessThan t compareTo := decide (lwipMaxTimeout<t-compareTo)

/-- Times that never wrap. -/
instance : TimeBase ℕ where
  sysNow instant := instant
  after t msecs := t+msecs
  since t base := t-base
  timeLessThan t compareTo := decide (t<compareTo)

/-- `sys_timeout_handler`: the two functions of this module that are passed as one, and those
of the rest of the stack. -/
inductive Handler where
  | null
  | lwipCyclicTimer
  | tcpipTcpTimer
  | callback (function : ℕ)
  deriving DecidableEq

/-- The function is not one that only this module can name. -/
def Handler.foreign : Handler → Bool
  | .null => true
  | .callback _ => true
  | _ => false

/-- `struct sys_timeo`. The argument of a cyclic timer is its place in the table. -/
structure SysTimeo (τ : Type*) where
  time : τ
  h : Handler
  arg : ℕ
  deriving DecidableEq

/-- A timeout is for this function and argument. -/
def SysTimeo.isFor {τ : Type*} (t : SysTimeo τ) (h : Handler) (arg : ℕ) : Bool :=
  decide (t.h=h) && decide (t.arg=arg)

/-- Variables of the module, and the free elements of its pool. -/
structure Timeouts (τ : Type*) where
  nextTimeout : List (SysTimeo τ)
  currentTimeoutDueTime : τ
  tcpipTcpTimerActive : Bool
  /-- Free elements of `MEMP_SYS_TIMEOUT`. -/
  free : ℕ

/-- `MEMP_NUM_SYS_TIMEOUT`. -/
def memNumSysTimeout : ℕ := 10

/-- `TCP_TMR_INTERVAL`. -/
def tcpTmrInterval : ℕ := 250

/-- Intervals of `lwip_cyclic_timers`: TCP, reassembly, ARP, coarse and fine DHCP, IGMP, DNS. -/
def lwipCyclicTimers : List ℕ := [tcpTmrInterval,1000,1000,60000,500,100,1000]

/-- `interval_ms` of a cyclic timer. -/
def intervalMs (i : ℕ) : ℕ := lwipCyclicTimers.getD i 0

/-- Where the thread is in `sys_check_timeouts`. -/
inductive Position (τ : Type*) where
  | outside
  /-- At the loop, with the time read before it. -/
  | atLoop (now : τ)
  /-- In the function of a timeout. -/
  | inHandler (now : τ) (h : Handler) (arg : ℕ)
  /-- In `sys_assert`, for ever. -/
  | halted
  deriving DecidableEq

/-- How the thread waits for a message. -/
inductive Wait where
  | forever
  /-- It does not: `sys_check_timeouts` comes first. -/
  | check
  | upTo (msecs : ℕ)
  deriving DecidableEq

/-- What can be seen of the module, at the instants of a clock that never wraps. -/
inductive Observation where
  /-- A timeout was put on the list that many milliseconds before it is due. -/
  | armed (instant : ℕ) (h : Handler) (arg : ℕ) (ahead : ℕ)
  /-- A timeout was taken off by `sys_untimeout`. -/
  | removed (h : Handler) (arg : ℕ)
  /-- A timeout was taken off and its function called that many milliseconds after it was due. -/
  | expired (instant : ℕ) (h : Handler) (arg : ℕ) (late : ℕ)
  /-- A cyclic timer starts again without correction. -/
  | overload (arg : ℕ)
  /-- `sys_check_timeouts` returned that many milliseconds after it had begun. -/
  | checked (instant : ℕ) (duration : ℕ)
  /-- The thread waits for a message. -/
  | waits (instant : ℕ) (wait : Wait)
  | assertionFailed
  deriving DecidableEq

/-- The module and the thread that works in it. -/
structure System (τ : Type*) where
  instant : ℕ
  timeouts : Timeouts τ
  position : Position τ

section Functions

variable {τ : Type*} [TimeBase τ]

/-- A failed `LWIP_ASSERT`. -/
def System.assertionFailed (s : System τ) : System τ×List Observation :=
  ({s with position := .halted},[.assertionFailed])

/-- The loop of `sys_timeout_abs`: before the first timeout that is due later. -/
def link (timeout : SysTimeo τ) : List (SysTimeo τ) → List (SysTimeo τ)
  | [] => [timeout]
  | t::rest =>
    if timeLessThan timeout.time t.time=true then timeout::t::rest else t::link timeout rest

/-- `sys_timeout_abs`. The pool must not be empty. -/
def sysTimeoutAbs (s : System τ) (absTime : τ) (h : Handler) (arg : ℕ) :
    System τ×List Observation :=
  match s.timeouts.free with
  | 0 => s.assertionFailed
  | free+1 =>
    ({s with timeouts := {s.timeouts with
        nextTimeout := link ⟨absTime,h,arg⟩ s.timeouts.nextTimeout
        free := free}},
      [.armed s.instant h arg (since absTime (sysNow s.instant))])

/-- `sys_timeout`. -/
def sysTimeout (s : System τ) (msecs : ℕ) (h : Handler) (arg : ℕ) :
    System τ×List Observation :=
  if msecs≤lwipUint32Max/4 then sysTimeoutAbs s (after (sysNow s.instant) msecs) h arg
  else s.assertionFailed

/-- `sys_untimeout`: the first timeout of the function and the argument. -/
def sysUntimeout (s : System τ) (h : Handler) (arg : ℕ) : System τ×List Observation :=
  if s.timeouts.nextTimeout.any (fun t => t.isFor h arg)=true then
    ({s with timeouts := {s.timeouts with
        nextTimeout := s.timeouts.nextTimeout.eraseP (fun t => t.isFor h arg)
        free := s.timeouts.free+1}},
      [.removed h arg])
  else (s,[])

/-- `lwip_cyclic_timer` after the handler of the timer. -/
def lwipCyclicTimer (s : System τ) (arg : ℕ) : System τ×List Observation :=
  let now := sysNow s.instant
  let nextTimeoutTime := after s.timeouts.currentTimeoutDueTime (intervalMs arg)
  if timeLessThan nextTimeoutTime now=true then
    let restarted := sysTimeoutAbs s (after now (intervalMs arg)) .lwipCyclicTimer arg
    (restarted.1,.overload arg::restarted.2)
  else sysTimeoutAbs s nextTimeoutTime .lwipCyclicTimer arg

/-- `tcpip_tcp_timer` after `tcp_tmr`. The timer is still needed while there are connections. -/
def tcpipTcpTimer (s : System τ) (pcbs : Bool) : System τ×List Observation :=
  if pcbs=true then sysTimeout s tcpTmrInterval .tcpipTcpTimer 0
  else ({s with timeouts := {s.timeouts with tcpipTcpTimerActive := false}},[])

/-- `tcp_timer_needed`. -/
def tcpTimerNeeded (s : System τ) (pcbs : Bool) : System τ×List Observation :=
  if s.timeouts.tcpipTcpTimerActive=false ∧ pcbs=true then
    sysTimeout {s with timeouts := {s.timeouts with tcpipTcpTimerActive := true}}
      tcpTmrInterval .tcpipTcpTimer 0
  else (s,[])

/-- One round of the loop in `sys_check_timeouts`, up to the call of the function. -/
def sysCheckTimeoutsRound (s : System τ) (now : τ) : System τ×List Observation :=
  let return_ := ({s with position := .outside},
    [Observation.checked s.instant (since (sysNow s.instant) now)])
  match s.timeouts.nextTimeout with
  | [] => return_
  | tmptimeout::rest =>
    if timeLessThan now tmptimeout.time=true then return_
    else
      ({s with
          timeouts := {s.timeouts with
            nextTimeout := rest
            currentTimeoutDueTime := tmptimeout.time
            free := s.timeouts.free+1}
          position := if tmptimeout.h=.null then .atLoop now
            else .inHandler now tmptimeout.h tmptimeout.arg},
        [.expired s.instant tmptimeout.h tmptimeout.arg
          (since (sysNow s.instant) tmptimeout.time)])

/-- What a function of this module does after its handler has returned. -/
def afterHandler (s : System τ) (h : Handler) (arg : ℕ) (pcbs : Bool) :
    System τ×List Observation :=
  match h with
  | .lwipCyclicTimer => lwipCyclicTimer s arg
  | .tcpipTcpTimer => tcpipTcpTimer s pcbs
  | _ => (s,[])

/-- `sys_timeouts_sleeptime`, which fails its assertion on a time above `LWIP_MAX_TIMEOUT`. -/
def sysTimeoutsSleeptime (s : System τ) : Option ℕ :=
  match s.timeouts.nextTimeout with
  | [] => some sleeptimeInfinite
  | first::_ =>
    if timeLessThan first.time (sysNow s.instant)=true then some 0
    else
      let ret := since first.time (sysNow s.instant)
      if ret≤lwipMaxTimeout.toNat then some ret else none

/-- `tcpip_mbox_fetch` up to its wait. -/
def tcpipMboxFetch (s : System τ) : System τ×List Observation :=
  match sysTimeoutsSleeptime s with
  | none => s.assertionFailed
  | some sleeptime =>
    (s,[.waits s.instant (
      if sleeptime=sleeptimeInfinite then .forever
      else if sleeptime=0 then .check
      else .upTo sleeptime)])

end Functions

/-- What happens to the module. What the functions of the timeouts do themselves comes between
the event that calls them and their return. -/
inductive Event where
  | advance (msecs : ℕ)
  /-- One round of the loop in `sys_timeouts_init`. -/
  | startCyclic (i : ℕ)
  | timeout (msecs : ℕ) (h : Handler) (arg : ℕ)
  | untimeout (h : Handler) (arg : ℕ)
  /-- `tcp_timer_needed`, and whether there are connections. -/
  | tcpNeeded (pcbs : Bool)
  | fetch
  /-- `sys_check_timeouts` is called. -/
  | check
  /-- Its loop goes on. -/
  | next
  /-- The handler of a timeout returns, and there are connections or not. -/
  | finish (pcbs : Bool)
  deriving DecidableEq

section Steps

variable {τ : Type*} [TimeBase τ]

/-- Effect of an event on a thread that has not failed an assertion. -/
def System.happen (s : System τ) : Event → System τ×List Observation
  | .advance msecs => ({s with instant := s.instant+msecs},[])
  | .startCyclic i => sysTimeout s (intervalMs i) .lwipCyclicTimer i
  | .timeout msecs h arg => sysTimeout s msecs h arg
  | .untimeout h arg => sysUntimeout s h arg
  | .tcpNeeded pcbs => tcpTimerNeeded s pcbs
  | .fetch => tcpipMboxFetch s
  | .check =>
    match s.position with
    | .outside => ({s with position := .atLoop (sysNow s.instant)},[])
    | _ => (s,[])
  | .next =>
    match s.position with
    | .atLoop now => sysCheckTimeoutsRound s now
    | _ => (s,[])
  | .finish pcbs =>
    match s.position with
    | .inHandler now h arg => afterHandler {s with position := .atLoop now} h arg pcbs
    | _ => (s,[])

/-- Effect of an event. After a failed assertion nothing happens but that time goes on. -/
def System.step (s : System τ) (e : Event) : System τ×List Observation :=
  match s.position with
  | .halted =>
    match e with
    | .advance msecs => ({s with instant := s.instant+msecs},[])
    | _ => (s,[])
  | _ => s.happen e

variable (τ) in
/-- The module over these times. -/
def lwip : Machine (System τ) Event Observation where
  step := System.step

variable (τ) in
/-- The module before `sys_timeouts_init`. -/
def boot (instant : ℕ) : System τ where
  instant := instant
  timeouts := ⟨[],sysNow 0,false,memNumSysTimeout⟩
  position := .outside

end Steps

/-- `sys_timeouts_init`: every timer but that of TCP, which is started on demand. Some time
passes after each start. -/
def sysTimeoutsInit (passing : ℕ → ℕ) : List Event :=
  (List.range' 1 (lwipCyclicTimers.length-1)).flatMap fun i => [.startCyclic i,.advance (passing i)]

end WebDataLogger.LwipTimeouts
