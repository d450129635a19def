import WebDataLogger.IndicatorService
import WebDataLogger.WebService

/-!
# From the control request to the LED

A request sets `g_web_control_active`, the main task polls it and holds LED 1 solid,
and the indicator task goes on with its ticks. Requests, polls and ticks come in any
order.
-/

namespace WebDataLogger.RemoteControl

open CText RealTimeClock SensorData TransitionRuns IndicatorService WebService

/-- `LED_1`. -/
def led1 : UInt8 := 1

/-- `LED_2`. -/
def led2 : UInt8 := 2

/-- `LED_3`. The engine has no LED of this index. -/
def led3 : UInt8 := 3

/-- The LEDs as `Init_Indicator_Task` leaves them. -/
def initIndicatorTask : LedArray :=
  ledServiceSetBlink led3 5000 (ledServiceSetBlink led2 2000 (ledServiceSetBlink led1 500
    ledServiceInit))

/-- The two tests of `g_web_control_active` in `MainApp_TASK`. -/
def pollControl (webControlActive : UInt8) (led : LedArray) : LedArray×List SetOutput :=
  let on := if webControlActive=1 then ledServiceSetSolid led1 true led else (led,[])
  let off := if webControlActive=0 then ledServiceSetSolid led1 false on.1 else (on.1,[])
  (off.1,on.2++off.2)

/-- Globals of the web service and of the indicator service. -/
structure ControlState (τ : Type*) where
  web : WebState τ
  led : LedArray

/-- A request handled, an iteration of the main task or a tick. -/
inductive Event (τ : Type*) where
  | controlPost (rxBuf : Text)
  | mainApp (mutexFree : Bool) (temp pressure : τ) (t : RtcTime)
  | task10ms

/-- An iteration of the main task. -/
def Event.IsMainApp {τ : Type*} : Event τ → Prop
  | .mainApp _ _ _ _ => True
  | _ => False

/-- An event other than a tick. -/
def Event.IsCommand {τ : Type*} : Event τ → Prop
  | .task10ms => False
  | _ => True

section Control

variable {τ : Type*}

/-- Requests, polls and ticks, with the writes to the pins. -/
def remoteControl : Machine (ControlState τ) (Event τ) SetOutput where
  step s
    | .controlPost rxBuf =>
      let handled := handleControlPost s.web.webControlActive rxBuf
      ({s with web := {s.web with webControlActive := handled.1}},[])
    | .mainApp mutexFree temp pressure t =>
      let web : WebState τ := {s.web with
        sensorData := webServiceUpdateSensorData mutexFree s.web.sensorData temp pressure t}
      let poll := pollControl web.webControlActive s.led
      (⟨web,poll.1⟩,poll.2)
    | .task10ms =>
      let tick := ledServiceTask10ms s.led
      ({s with led := tick.1},tick.2)

/-- The system when its tasks start. -/
def bootState (sensorData : WebSensorData τ τ) : ControlState τ :=
  ⟨⟨sensorData,0⟩,initIndicatorTask⟩

/-- The state after some events. -/
abbrev after (sensorData : WebSensorData τ τ) (events : List (Event τ)) : ControlState τ :=
  remoteControl.run (bootState sensorData) events

/-- The level last written to the pin of an LED, low before the first write. -/
abbrev levelAfter (sensorData : WebSensorData τ τ) (i : Fin 3) (events : List (Event τ)) : Bool :=
  pinLevel (ledPins i) false (remoteControl.trace (bootState sensorData) events)

/-- The control flag reaches LED 1 and nothing else. -/
structure Controlled (sensorData : WebSensorData τ τ) (events : List (Event τ)) : Prop where
  flag : (after sensorData events).web.webControlActive∈[0,1]
  level : ∀ past poll rest, events=past++poll::rest → poll.IsMainApp →
    (∀ e∈rest, ¬e.IsMainApp) →
      (levelAfter sensorData 1 events).toNat=(after sensorData past).web.webControlActive.toNat
  others : ∀ past e rest, events=past++e::rest → e.IsCommand → ∀ i, i≠1 →
    (after sensorData (past++[e])).led i=(after sensorData past).led i ∧
      levelAfter sensorData i (past++[e])=levelAfter sensorData i past

/-- A flag that is 0 or 1 is a level that the poll holds LED 1 at. -/
theorem pollControl_eq {webControlActive : UInt8} (h : webControlActive∈[0,1]) (led : LedArray) :
    pollControl webControlActive led=
      ledService.step led (.setSolid led1 (decide (webControlActive=1))) := by
  simp only [List.mem_cons,List.not_mem_nil,or_false] at h
  rcases h with rfl|rfl
  · rfl
  · rfl

/-- A command sets the flag to 0 or 1. -/
theorem handleControlPost_range {webControlActive : UInt8} (h : webControlActive∈[0,1])
    (rxBuf : Text) : (handleControlPost webControlActive rxBuf).1∈[0,1] := by
  unfold handleControlPost
  split
  · exact List.mem_cons_of_mem 0 List.mem_cons_self
  · split
    · exact List.mem_cons_self
    · exact h

/-- The flag is 0 or 1 after every event. -/
theorem flag_step {s : ControlState τ} (h : s.web.webControlActive∈[0,1]) (e : Event τ) :
    (remoteControl.step s e).1.web.webControlActive∈[0,1] := by
  cases e with
  | controlPost rxBuf => exact handleControlPost_range h rxBuf
  | mainApp mutexFree temp pressure t => exact h
  | task10ms => exact h

/-- The flag is 0 or 1 in every state. -/
theorem flag_run (sensorData : WebSensorData τ τ) (events : List (Event τ)) :
    (after sensorData events).web.webControlActive∈[0,1] :=
  remoteControl.run_invariant (fun s => s.web.webControlActive∈[0,1]) List.mem_cons_self
    (fun _ e h => flag_step h e) events

/-- Requests and polls leave the other LEDs and their pins alone. -/
theorem others_step {s : ControlState τ} (hflag : s.web.webControlActive∈[0,1]) {e : Event τ}
    (he : e.IsCommand) {i : Fin 3} (hi : i≠1) (level : Bool) :
    (remoteControl.step s e).1.led i=s.led i ∧
      pinLevel (ledPins i) level (remoteControl.step s e).2=level := by
  have hindex : ¬i.val=led1.toNat := fun h => hi (Fin.ext h)
  cases e with
  | controlPost rxBuf => exact ⟨rfl,rfl⟩
  | mainApp mutexFree temp pressure t =>
    simp only [remoteControl]
    rw [pollControl_eq hflag,ledService_led,ledService_pin,ledStep,pinStep,if_neg hindex,
      if_neg hindex]
    exact ⟨rfl,rfl⟩
  | task10ms => exact absurd he id

/-- A poll holds LED 1 at the flag and writes its pin. -/
theorem poll_step {s : ControlState τ} (hflag : s.web.webControlActive∈[0,1]) {poll : Event τ}
    (hpoll : poll.IsMainApp) (level : Bool) :
    ((remoteControl.step s poll).1.led 1).intervalTicks=0 ∧
      (pinLevel (ledPins 1) level (remoteControl.step s poll).2).toNat=
        s.web.webControlActive.toNat := by
  cases poll with
  | mainApp mutexFree temp pressure t =>
    have hindex : (1 : Fin 3).val=led1.toNat := rfl
    simp only [remoteControl]
    rw [pollControl_eq hflag,ledService_led,ledService_pin,ledStep,pinStep,if_pos hindex,
      if_pos hindex]
    refine ⟨rfl,?_⟩
    simp only [List.mem_cons,List.not_mem_nil,or_false] at hflag
    rcases hflag with hzero|hone
    · rw [hzero]
      rfl
    · rw [hone]
      rfl
  | controlPost rxBuf => exact absurd hpoll id
  | task10ms => exact absurd hpoll id

/-- Between two polls nothing changes LED 1 once it is solid, whatever ticks and requests
come. -/
theorem held_run {s : ControlState τ} {events : List (Event τ)} (hquiet : ∀ e∈events, ¬e.IsMainApp)
    (hsolid : (s.led 1).intervalTicks=0) (level : Bool) :
    pinLevel (ledPins 1) level (remoteControl.trace s events)=level := by
  induction events generalizing s with
  | nil => rfl
  | cons e events ih =>
    have hrest : ∀ e∈events, ¬e.IsMainApp := fun e' he' => hquiet e' (List.mem_cons_of_mem e he')
    have hstep : (remoteControl.step s e).1.led 1=s.led 1 ∧
        pinLevel (ledPins 1) level (remoteControl.step s e).2=level := by
      cases e with
      | controlPost rxBuf => exact ⟨rfl,rfl⟩
      | mainApp mutexFree temp pressure t => exact absurd trivial (hquiet _ List.mem_cons_self)
      | task10ms =>
        have hturn : ledTurn (s.led 1)=(s.led 1,none) := by rw [ledTurn,if_pos hsolid]
        refine ⟨congrArg Prod.fst hturn,?_⟩
        simp only [remoteControl]
        rw [task10ms_pin,hturn]
        rfl
    rw [Machine.trace,pinLevel_append,hstep.2]
    exact ih hrest (by rw [hstep.1]; exact hsolid)

/-- Remote control reaches LED 1 and stays there, in every order of events. -/
theorem remoteControl_controlled (sensorData : WebSensorData τ τ) (events : List (Event τ)) :
    Controlled sensorData events where
  flag := flag_run sensorData events
  level past poll rest hevents hpoll hquiet := by
    have hflag := flag_run sensorData past
    obtain ⟨hsolid,hlevel⟩ := poll_step hflag hpoll (levelAfter sensorData 1 past)
    rw [hevents,levelAfter,Machine.trace_append,pinLevel_append,Machine.trace,pinLevel_append,
      held_run hquiet hsolid]
    exact hlevel
  others past e rest hevents he i hi := by
    have hstep := others_step (flag_run sensorData past) he hi (levelAfter sensorData i past)
    rw [after,Machine.run_snoc,levelAfter,Machine.trace_snoc,pinLevel_append]
    exact hstep

end Control

end WebDataLogger.RemoteControl
