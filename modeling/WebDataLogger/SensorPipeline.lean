import WebDataLogger.DataLoggerRuns
import WebDataLogger.SensorData

/-!
# From the sensors to the log

The analog task fills its globals, the main task copies them to the web service,
and the data logger copies `g_CurrentSensorMetrics`. No task writes that mailbox,
so that every record is blank whatever was measured.
-/

namespace WebDataLogger.SensorPipeline

open TransitionRuns CText CivilCalendar EepromDriver DataLogger DataLoggerRuns RealTimeClock SensorData

/-- A pair read by `BMP280_ReadTempPressure`: temperature scaled by 100, pressure
scaled by 10. -/
structure Reading where
  temperature : Int16
  pressure : UInt32
  deriving DecidableEq

/-- One loop iteration of a task, with what the sensors deliver to it. -/
inductive Event where
  /-- `Analog_TASK`. A read that fails delivers nothing. -/
  | analogTask (bmp280 : Option Reading) (ds3231 : Option RtcTime)
  /-- `MainApp_TASK`. -/
  | mainAppTask
  /-- `Data_Logger_Task`. -/
  | dataLoggerTask
  deriving DecidableEq

/-- Globals of the tasks, all zero at boot. -/
structure PipelineState where
  /-- `temp` and `pressure` of the analog service. -/
  reading : Reading
  /-- `t` of the analog service. -/
  t : RtcTime
  /-- `g_sensor_data` of the web service. -/
  sensorData : WebSensorData Int16 UInt32
  /-- `g_CurrentSensorMetrics`. -/
  currentSensorMetrics : LogRecord
  /-- The data logger and its bus. -/
  logger : LoggerState

/-- The mailbox at boot. -/
def zeroRecord : LogRecord := ⟨0,0,0,0,0⟩

/-- The system at boot. -/
def bootState (bus : I2cBus) : PipelineState where
  reading := ⟨0,0⟩
  t := ⟨0,0,0,0,0,0,0⟩
  sensorData := ⟨9999,9990,formatTimestamp ⟨0,0,0,0,0,0,0⟩⟩
  currentSensorMetrics := zeroRecord
  logger := taskStart bus

/-- The three tasks. The write attempts of the data logger are observed. -/
def pipeline (outcomes : Outcomes) : Machine PipelineState Event WriteAttempt where
  step s
    | .analogTask bmp280 ds3231 =>
      ({s with reading := bmp280.getD s.reading, t := ds3231.getD s.t},[])
    | .mainAppTask =>
      let updated := webServiceUpdateSensorData true s.sensorData s.reading.temperature
        s.reading.pressure s.t
      ({s with sensorData := updated},[])
    | .dataLoggerTask =>
      let iteration := (DataLogger.dataLoggerTask outcomes).step s.logger
        ⟨s.currentSensorMetrics,s.currentSensorMetrics⟩
      ({s with logger := iteration.1},iteration.2)

/-- The last successful reading of the BMP280 in a run. -/
def latestReading (events : List Event) : Option Reading :=
  events.foldl (fun latest e => match e with
    | .analogTask (some reading) _ => some reading
    | _ => latest) none

/-- The last successful reading of the DS3231 in a run. -/
def latestTime (events : List Event) : Option RtcTime :=
  events.foldl (fun latest e => match e with
    | .analogTask _ (some t) => some t
    | _ => latest) none

/-- Unix time of a reading of the clock: 2000 began 946684800 s after 1970. -/
def unixEpoch (t : RtcTime) : ℕ := 946684800+toSeconds leapYear t.dateTime

/-- XOR of the bytes of a record before its checksum. -/
def xorOfBytes (record : LogRecord) : UInt8 :=
  ((recordBytes record).take 11).foldl (· ^^^ ·) 0

/-- A record carries a reading and a time under a correct checksum. -/
structure Carries (record : LogRecord) (reading : Reading) (t : RtcTime) : Prop where
  temperature : record.temperature=reading.temperature
  pressure : record.pressure=reading.pressure
  timestamp : record.timestamp.toNat=unixEpoch t
  checksum : record.checksum=xorOfBytes record

/-- Write attempts of the data logger iteration after some events. -/
abbrev attemptsAfter (outcomes : Outcomes) (bus : I2cBus) (before : List Event) :
    List WriteAttempt :=
  ((pipeline outcomes).step ((pipeline outcomes).run (bootState bus) before) .dataLoggerTask).2

/-- Every record written once both sensors were read carries the latest readings. -/
def LoggedIsMeasured (outcomes : Outcomes) (bus : I2cBus) (events : List Event) : Prop :=
  ∀ before after, events=before++.dataLoggerTask::after →
    ∀ reading t, latestReading before=some reading → latestTime before=some t →
      ∀ attempt∈attemptsAfter outcomes bus before, Carries attempt.record reading t

/-- No iteration of the data logger that completes a period of 30 s comes after both
sensors were read. -/
def NothingLoggedAfterReadings (events : List Event) : Prop :=
  ∀ before after, events=before++.dataLoggerTask::after →
    600∣before.count .dataLoggerTask+1 →
      latestReading before=none ∨ latestTime before=none

/-- No task writes the mailbox. -/
theorem mailbox_step (outcomes : Outcomes) (s : PipelineState) (e : Event) :
    ((pipeline outcomes).step s e).1.currentSensorMetrics=s.currentSensorMetrics := by
  cases e <;> rfl

/-- The mailbox is blank in every state. -/
theorem mailbox_zero (outcomes : Outcomes) (bus : I2cBus) (events : List Event) :
    ((pipeline outcomes).run (bootState bus) events).currentSensorMetrics=zeroRecord := by
  refine Machine.run_invariant (pipeline outcomes) (fun s => s.currentSensorMetrics=zeroRecord)
    rfl ?_ events
  intro s e h
  rw [mailbox_step,h]

/-- Every record written is blank. -/
theorem attempt_zero {outcomes : Outcomes} {bus : I2cBus} {before : List Event} :
    ∀ attempt∈attemptsAfter outcomes bus before, attempt.record=zeroRecord := by
  intro attempt h
  have hzero := mailbox_zero outcomes bus before
  have hsource : ∀ (s : LoggerState) (metrics : LogRecord), ∀ a∈((DataLogger.dataLoggerTask
      outcomes).step s ⟨metrics,metrics⟩).2, a.record=metrics := by
    intro s metrics a ha
    rcases dataLoggerTask_attempt a ha with ⟨-,hrecord⟩|⟨-,hrecord⟩ <;> exact hrecord
  exact (hsource _ _ attempt h).trans hzero

/-- A blank record carries no reading of the clock. -/
theorem not_carries_zero (reading : Reading) (t : RtcTime) : ¬Carries zeroRecord reading t := by
  intro h
  have hepoch : 0=946684800+toSeconds leapYear t.dateTime := h.timestamp
  omega

/-- The data logger runs as it does alone, one iteration for each of its turns. -/
theorem logger_inv (outcomes : Outcomes) (bus : I2cBus) (events : List Event) :
    ∃ highResRecords longTermRecords, LoggerInv 1 (events.count .dataLoggerTask)
      (FlatStore.flat bus.memory) highResRecords longTermRecords
        ((pipeline outcomes).run (bootState bus) events).logger := by
  refine (pipeline outcomes).history_invariant (fun (before : List Event) _ s =>
    ∃ highResRecords longTermRecords, LoggerInv 1 (before.count .dataLoggerTask)
      (FlatStore.flat bus.memory) highResRecords longTermRecords s.logger)
    ?_ ?_
  · exact ⟨[],[],loggerInv_start bus⟩
  rintro before e _ s - ⟨highResRecords,longTermRecords,h⟩
  rw [List.count_append]
  cases e with
  | analogTask bmp280 ds3231 => exact ⟨_,_,h⟩
  | mainAppTask => exact ⟨_,_,h⟩
  | dataLoggerTask =>
    have hspare : 1=1 ∨ 1=0 ∧ ∀ t, outcomes t=.success := Or.inl rfl
    exact ⟨_,_,(h.step hspare ⟨s.currentSensorMetrics,s.currentSensorMetrics⟩).inv⟩

/-- A turn of the data logger attempts the writes that are due. -/
theorem attemptsAfter_due (outcomes : Outcomes) (bus : I2cBus) (before : List Event) :
    (attemptsAfter outcomes bus before).map WriteAttempt.partition=
      dueAttempts (before.count .dataLoggerTask+1) := by
  obtain ⟨highResRecords,longTermRecords,h⟩ := logger_inv outcomes bus before
  have hspare : 1=1 ∨ 1=0 ∧ ∀ t, outcomes t=.success := Or.inl rfl
  exact (h.step hspare _).attempts

/-- Something is written exactly when a period of 30 s is complete. -/
theorem attemptsAfter_ne_nil (outcomes : Outcomes) (bus : I2cBus) (before : List Event) :
    attemptsAfter outcomes bus before≠[] ↔ 600∣before.count .dataLoggerTask+1 := by
  have hmap : (attemptsAfter outcomes bus before).map WriteAttempt.partition=[] ↔
      attemptsAfter outcomes bus before=[] := List.map_eq_nil_iff
  rw [ne_eq,←hmap,attemptsAfter_due,dueAttempts]
  constructor
  · intro h
    by_contra hnot
    have hlong : ¬12000∣before.count .dataLoggerTask+1 := fun hdvd =>
      hnot (Nat.dvd_trans (by decide) hdvd)
    rw [if_neg hnot,if_neg hlong] at h
    exact h rfl
  · intro hdue h
    rw [if_pos hdue] at h
    cases h

/-- A record written after both sensors were read does not carry what was read. -/
theorem not_measured {outcomes : Outcomes} {bus : I2cBus} {events before after : List Event}
    {reading : Reading} {t : RtcTime} (hsplit : events=before++.dataLoggerTask::after)
    (hdue : 600∣before.count .dataLoggerTask+1) (hreading : latestReading before=some reading)
    (ht : latestTime before=some t) : ¬LoggedIsMeasured outcomes bus events := by
  intro h
  obtain ⟨attempt,hattempt⟩ := List.exists_mem_of_ne_nil _
    ((attemptsAfter_ne_nil outcomes bus before).mpr hdue)
  have hcarries := h before after hsplit reading t hreading ht attempt hattempt
  rw [attempt_zero attempt hattempt] at hcarries
  exact not_carries_zero reading t hcarries

/-- What is logged is what was measured exactly in the runs that log nothing after
both sensors were read. -/
theorem logged_is_measured_iff (outcomes : Outcomes) (bus : I2cBus) (events : List Event) :
    LoggedIsMeasured outcomes bus events ↔ NothingLoggedAfterReadings events := by
  constructor
  · intro h before after hsplit hdue
    cases hreading : latestReading before with
    | none => exact Or.inl rfl
    | some reading =>
      cases ht : latestTime before with
      | none => exact Or.inr rfl
      | some t => exact absurd h (not_measured hsplit hdue hreading ht)
  · intro h before after hsplit reading t hreading ht attempt hattempt
    have hdue := (attemptsAfter_ne_nil outcomes bus before).mp (List.ne_nil_of_mem hattempt)
    rcases h before after hsplit hdue with hnone|hnone
    · rw [hreading] at hnone
      cases hnone
    · rw [ht] at hnone
      cases hnone

/-- A turn of a task, without what the sensors delivered. -/
def turn : Event → Event
  | .analogTask _ _ => .analogTask none none
  | e => e

/-- The data logger takes the same step whatever the sensors deliver. -/
theorem step_turn {outcomes : Outcomes} {s s' : PipelineState} (e : Event)
    (hlogger : s.logger=s'.logger) (hmetrics : s.currentSensorMetrics=s'.currentSensorMetrics) :
    ((pipeline outcomes).step s e).2=((pipeline outcomes).step s' (turn e)).2 ∧
      ((pipeline outcomes).step s e).1.logger=((pipeline outcomes).step s' (turn e)).1.logger := by
  cases e with
  | analogTask bmp280 ds3231 => exact ⟨rfl,hlogger⟩
  | mainAppTask => exact ⟨rfl,hlogger⟩
  | dataLoggerTask => simp only [pipeline,turn,hlogger,hmetrics,and_self]

/-- What is written does not depend on what the sensors deliver. -/
theorem trace_turns {outcomes : Outcomes} (events : List Event) (s s' : PipelineState)
    (hlogger : s.logger=s'.logger) (hmetrics : s.currentSensorMetrics=s'.currentSensorMetrics) :
    (pipeline outcomes).trace s events=(pipeline outcomes).trace s' (events.map turn) := by
  induction events generalizing s s' with
  | nil => rfl
  | cons e events ih =>
    obtain ⟨hwritten,hnext⟩ := step_turn e hlogger hmetrics
    have hmailbox := (mailbox_step outcomes s e).trans
      (hmetrics.trans (mailbox_step outcomes s' (turn e)).symm)
    rw [List.map_cons,Machine.trace,Machine.trace,hwritten,ih _ _ hnext hmailbox]

/-- One round of the analog task at a temperature, then 30 s of the data logger. -/
def halfMinute (temperature : Int16) : List Event :=
  .analogTask (some ⟨temperature,10132⟩) (some ⟨0,0,12,5,25,9,26⟩)::
    List.replicate 600 .dataLoggerTask

/-- With both sensors read, the record of the first 30 s does not carry what was
read, and two different temperatures write the same records. -/
theorem temperature_not_logged :
    ¬LoggedIsMeasured (fun _ => .success) ⟨fun _ _ => 0xFF,0⟩ (halfMinute 2150) ∧
      (pipeline (fun _ => .success)).trace (bootState ⟨fun _ _ => 0xFF,0⟩) (halfMinute 2150)=
        (pipeline (fun _ => .success)).trace (bootState ⟨fun _ _ => 0xFF,0⟩)
          (halfMinute 2370) := by
  have hsame : (pipeline (fun _ => .success)).trace (bootState ⟨fun _ _ => 0xFF,0⟩)
      (halfMinute 2150)=(pipeline (fun _ => .success)).trace (bootState ⟨fun _ _ => 0xFF,0⟩)
        (halfMinute 2370) := by
    rw [trace_turns (halfMinute 2150) _ _ rfl rfl,trace_turns (halfMinute 2370) _ _ rfl rfl]
    rfl
  have hlast : halfMinute 2150=(.analogTask (some ⟨2150,10132⟩) (some ⟨0,0,12,5,25,9,26⟩)::
      List.replicate 599 .dataLoggerTask)++.dataLoggerTask::[] := by
    rw [halfMinute,List.cons_append,←List.replicate_succ']
  have hquiet : ∀ n, latestReading (.analogTask (some ⟨2150,10132⟩) (some ⟨0,0,12,5,25,9,26⟩)::
      List.replicate n .dataLoggerTask)=some ⟨2150,10132⟩ ∧
      latestTime (.analogTask (some ⟨2150,10132⟩) (some ⟨0,0,12,5,25,9,26⟩)::
        List.replicate n .dataLoggerTask)=some ⟨0,0,12,5,25,9,26⟩ := by
    intro n
    induction n with
    | zero => exact ⟨rfl,rfl⟩
    | succ n ih =>
      rw [List.replicate_succ',←List.cons_append]
      simp only [latestReading,latestTime,List.foldl_append] at ih ⊢
      rw [ih.1,ih.2]
      exact ⟨rfl,rfl⟩
  refine ⟨not_measured hlast ⟨1,?_⟩ (hquiet 599).1 (hquiet 599).2,hsame⟩
  rw [List.count_cons_of_ne (by decide),List.count_replicate_self]

end WebDataLogger.SensorPipeline
