import WebDataLogger.DataLogger

/-!
# Two tasks on one I2C bus

`Analog_TASK` makes three transfers on LPI2C2 in every loop, and `Data_Logger_Task` one
for each chunk of a record. Each transfer is begun and ended in steps of its own. The
scheduler gives the processor to `Analog_TASK` whenever it is ready, and no lock guards
the bus.
-/

namespace WebDataLogger.I2cArbitration

open TransitionRuns EepromDriver DataLogger

/-- The transfers of a loop of `Analog_TASK`, in their order. -/
inductive AnalogTransfer where
  /-- `BMP280_WriteReg` of `BMP280_REG_CTRL_MEAS`. -/
  | bmp280Write
  /-- `BMP280_ReadRegs` of the measurement. -/
  | bmp280Read
  /-- The transfer of `DS3231_ReadTime`. -/
  | ds3231Read
  deriving DecidableEq

/-- Where `Analog_TASK` is. -/
inductive AnalogPlace where
  /-- Waiting in `vTaskDelayUntil`. -/
  | delayed
  | before (transfer : AnalogTransfer)
  /-- Between the begin and the end of `LPI2C_MasterTransferBlocking`. -/
  | during (transfer : AnalogTransfer)
  deriving DecidableEq

/-- A step of `Analog_TASK`. No status changes which transfer comes next. -/
def analogTask : AnalogPlace → AnalogPlace
  | .delayed => .delayed
  | .before transfer => .during transfer
  | .during .bmp280Write => .before .bmp280Read
  | .during .bmp280Read => .before .ds3231Read
  | .during .ds3231Read => .delayed

/-- Where `Data_Logger_Task` is. -/
inductive LoggerPlace where
  /-- Waiting in `vTaskDelayUntil`. -/
  | delayed
  /-- At the head of an iteration. -/
  | iteration
  /-- Before the block of the second ring. -/
  | longTerm
  /-- At the head of the loop of `EEPROM_Write_Bytes`. -/
  | writing (p : Partition) (bytesWritten : UInt16)
  /-- Between the begin and the end of `LPI2C_MasterTransferBlocking`. -/
  | during (p : Partition) (bytesWritten : UInt16)
  /-- Waiting in `vTaskDelay` after a record. -/
  | settling (p : Partition)
  deriving DecidableEq

/-- `Data_Logger_Task` with its indices and timers. -/
structure LoggerTask where
  place : LoggerPlace
  highRes : RingState
  longTerm : RingState

/-- The variables of a ring. -/
def LoggerTask.ring (task : LoggerTask) : Partition → RingState
  | .highRes => task.highRes
  | .longTerm => task.longTerm

/-- New variables of a ring, and the place after it. -/
def LoggerTask.goTo (task : LoggerTask) (p : Partition) (ring : RingState) (place : LoggerPlace) :
    LoggerTask :=
  match p with
  | .highRes => ⟨place,ring,task.longTerm⟩
  | .longTerm => ⟨place,task.highRes,ring⟩

/-- Where the task goes on after the block of a ring. -/
def afterPartition : Partition → LoggerPlace
  | .highRes => .longTerm
  | .longTerm => .delayed

/-- Address of the next record of a ring. -/
def targetAddr (p : Partition) (ring : RingState) : UInt16 := (layoutOf p).start+ring.index*12

/-- The test of a timer, and the range check of `EEPROM_Write_Bytes`. -/
def enterPartition (p : Partition) (task : LoggerTask) : LoggerTask :=
  let ring := task.ring p
  if (layoutOf p).periodMs ≤ ring.timerMs then
    if 4096<(targetAddr p ring).toUInt32+12 then
      task.goTo p {ring with timerMs := 0} (afterPartition p)
    else task.goTo p {ring with timerMs := 0} (.writing p 0)
  else {task with place := afterPartition p}

/-- The head of the loop of `EEPROM_Write_Bytes`: the next chunk, or the record is complete. -/
def nextChunk (p : Partition) (bytesWritten : UInt16) (task : LoggerTask) : LoggerTask :=
  let ring := task.ring p
  if bytesWritten<12 then {task with place := .during p bytesWritten}
  else
    let next := ring.index+1
    task.goTo p {ring with index := if (layoutOf p).maxRecords ≤ next then 0 else next} (.settling p)

/-- The end of a chunk. -/
def endChunk (status : Status) (p : Partition) (bytesWritten : UInt16) (task : LoggerTask) :
    LoggerTask :=
  let written := bytesWritten+(chunkSize (targetAddr p (task.ring p)) 12 bytesWritten).toUInt16
  match status with
  | .success => {task with place := .writing p written}
  | .fail => {task with place := afterPartition p}

/-- A step of `Data_Logger_Task`, with the status of the transfer if it ends one. -/
def dataLoggerTask (status : Status) (task : LoggerTask) : LoggerTask :=
  match task.place with
  | .delayed => task
  | .iteration => enterPartition .highRes ⟨task.place,tick task.highRes,tick task.longTerm⟩
  | .longTerm => enterPartition .longTerm task
  | .writing p bytesWritten => nextChunk p bytesWritten task
  | .during p bytesWritten => endChunk status p bytesWritten task
  | .settling _ => task

/-- A delay of `Data_Logger_Task` is over. -/
def wakeLogger (task : LoggerTask) : LoggerTask :=
  match task.place with
  | .delayed => {task with place := .iteration}
  | .settling p => {task with place := afterPartition p}
  | _ => task

/-- A delay of `Analog_TASK` is over. -/
def wakeAnalog : AnalogPlace → AnalogPlace
  | .delayed => .before .bmp280Write
  | place => place

/-- Both tasks. -/
structure BusTasks where
  analog : AnalogPlace
  logger : LoggerTask

/-- What the schedule decides. -/
inductive Event where
  /-- The delay of `Analog_TASK` expires. -/
  | analogReady
  /-- A delay of `Data_Logger_Task` expires. -/
  | loggerReady
  /-- The processor runs the ready task of the highest priority for a step. -/
  | cpu (status : Status)

/-- The scheduler. `Data_Logger_Task` runs only while `Analog_TASK` is delayed. -/
def busTasks : Machine BusTasks Event Empty where
  step s
    | .analogReady => ({s with analog := wakeAnalog s.analog},[])
    | .loggerReady => ({s with logger := wakeLogger s.logger},[])
    | .cpu status =>
      if s.analog=.delayed then ({s with logger := dataLoggerTask status s.logger},[])
      else ({s with analog := analogTask s.analog},[])

/-- Both tasks wait when the scheduler starts. -/
def boot : BusTasks := ⟨.delayed,⟨.delayed,⟨0,0⟩,⟨0,0⟩⟩⟩

/-- `Analog_TASK` is between the begin and the end of a transfer. -/
def AnalogPlace.InTransfer : AnalogPlace → Prop
  | .during _ => True
  | _ => False

/-- `Data_Logger_Task` is between the begin and the end of a transfer. -/
def LoggerPlace.InTransfer : LoggerPlace → Prop
  | .during _ _ => True
  | _ => False

/-- At most one task is in a transfer in every state of a schedule. -/
def NoOverlap (events : List Event) : Prop :=
  ∀ taken, taken<+:events →
    ¬((busTasks.run boot taken).analog.InTransfer ∧
      (busTasks.run boot taken).logger.place.InTransfer)

/-- `Analog_TASK` never gets the processor while `Data_Logger_Task` is in a transfer. -/
def PreemptsOutsideTransfers (events : List Event) : Prop :=
  ∀ past status rest, events=past++.cpu status::rest →
    (busTasks.run boot past).analog≠.delayed →
      ¬(busTasks.run boot past).logger.place.InTransfer

/-- The end of a delay begins no transfer of `Data_Logger_Task`. -/
theorem wakeLogger_place {task : LoggerTask} (h : (wakeLogger task).place.InTransfer) :
    task.place.InTransfer := by
  unfold wakeLogger at h
  cases hplace : task.place with
  | delayed => rw [hplace] at h; exact absurd h id
  | settling p => rw [hplace] at h; cases p <;> exact absurd h id
  | iteration => rw [hplace] at h; exact hplace ▸ h
  | longTerm => rw [hplace] at h; exact hplace ▸ h
  | writing p bytesWritten => rw [hplace] at h; exact hplace ▸ h
  | during p bytesWritten => trivial

/-- The end of its delay begins no transfer of `Analog_TASK`. -/
theorem wakeAnalog_place {place : AnalogPlace} (h : (wakeAnalog place).InTransfer) :
    place.InTransfer := by
  cases place with
  | delayed => exact absurd h id
  | before transfer => exact h
  | during transfer => exact h

/-- The bus is driven by one task as long as `Analog_TASK` gets the processor outside the
transfers of `Data_Logger_Task`. -/
theorem step_noOverlap {s : BusTasks} {e : Event}
    (h : s.analog.InTransfer → ¬s.logger.place.InTransfer)
    (hcpu : ∀ status, e=.cpu status → s.analog≠.delayed → ¬s.logger.place.InTransfer) :
    (busTasks.step s e).1.analog.InTransfer → ¬(busTasks.step s e).1.logger.place.InTransfer := by
  cases e with
  | analogReady => exact fun hanalog => h (wakeAnalog_place hanalog)
  | loggerReady => exact fun hanalog hlogger => h hanalog (wakeLogger_place hlogger)
  | cpu status =>
    intro hanalog
    by_cases hdelayed : s.analog=.delayed
    · -- `Data_Logger_Task` runs, and `Analog_TASK` stays delayed.
      rw [busTasks] at hanalog
      simp only [if_pos hdelayed] at hanalog
      rw [hdelayed] at hanalog
      exact absurd hanalog id
    · simp only [busTasks,if_neg hdelayed]
      exact hcpu status rfl hdelayed

/-- Transfers of the two tasks overlap in some state of a schedule exactly when `Analog_TASK`
preempts `Data_Logger_Task` within one. -/
theorem noOverlap_iff (events : List Event) : NoOverlap events ↔ PreemptsOutsideTransfers events := by
  constructor
  · intro h past status rest hevents hready hlogger
    have hbefore := h past (by rw [hevents]; exact List.prefix_append _ _)
    have hafter := h (past++[.cpu status]) (by
      rw [hevents]
      exact ⟨rest,by simp⟩)
    rw [Machine.run_snoc] at hafter
    generalize busTasks.run boot past=s at hready hlogger hbefore hafter
    simp only [busTasks,if_neg hready] at hafter
    cases hplace : s.analog with
    | delayed => exact hready hplace
    | before transfer => exact hafter ⟨by rw [hplace]; trivial,hlogger⟩
    | during transfer => exact hbefore ⟨by rw [hplace]; trivial,hlogger⟩
  · intro h taken htaken hboth
    have hrun : (busTasks.run boot taken).analog.InTransfer →
        ¬(busTasks.run boot taken).logger.place.InTransfer := by
      refine busTasks.history_invariant (fun before _ s => busTasks.run boot before=s ∧
        (s.analog.InTransfer → ¬s.logger.place.InTransfer)) ⟨rfl,fun hanalog => absurd hanalog id⟩
        ?_ |>.2
      rintro before e obs s hpart ⟨rfl,hs⟩
      refine ⟨busTasks.run_snoc boot before e,step_noOverlap hs ?_⟩
      rintro status rfl hready
      obtain ⟨rest,hrest⟩ := hpart.trans htaken
      exact h before status rest (by rw [←hrest]; simp) hready
    exact hrun hboth.1 hboth.2

/-- An iteration of `Data_Logger_Task` in which no timer expires. -/
def idleIteration : List Event := [.loggerReady,.cpu .success,.cpu .success]

/-- A schedule in which `Analog_TASK` wakes within the first chunk of the first record. -/
def preemptedSchedule : List Event :=
  (List.replicate 599 idleIteration).flatten++
    [.loggerReady,.cpu .success,.cpu .success,.analogReady,.cpu .success]

/-- Both tasks wait, with the timers of the rings at the same time. -/
def waiting (timerMs : UInt32) : BusTasks := ⟨.delayed,⟨.delayed,⟨0,timerMs⟩,⟨0,timerMs⟩⟩⟩

/-- An idle iteration advances the timers. -/
theorem idleIteration_run {timerMs : UInt32} (h : (timerMs+50).toNat<30000) :
    busTasks.run (waiting timerMs) idleIteration=waiting (timerMs+50) := by
  have hhigh : ¬(layoutOf .highRes).periodMs ≤ timerMs+50 := by
    rw [UInt32.le_iff_toNat_le]
    change ¬30000 ≤ (timerMs+50).toNat
    omega
  have hlong : ¬(layoutOf .longTerm).periodMs ≤ timerMs+50 := by
    rw [UInt32.le_iff_toNat_le]
    change ¬600000 ≤ (timerMs+50).toNat
    omega
  have hfirst : enterPartition .highRes ⟨.iteration,⟨0,timerMs+50⟩,⟨0,timerMs+50⟩⟩=
      ⟨.longTerm,⟨0,timerMs+50⟩,⟨0,timerMs+50⟩⟩ := if_neg hhigh
  have hsecond : enterPartition .longTerm ⟨.longTerm,⟨0,timerMs+50⟩,⟨0,timerMs+50⟩⟩=
      ⟨.delayed,⟨0,timerMs+50⟩,⟨0,timerMs+50⟩⟩ := if_neg hlong
  simp only [idleIteration,Machine.run,busTasks,waiting,wakeLogger,if_true,dataLoggerTask,tick,
    hfirst,hsecond]

/-- The timers before the first record. -/
theorem idle_run {n : ℕ} (h : n<600) :
    busTasks.run boot (List.replicate n idleIteration).flatten=waiting (50*n).toUInt32 := by
  induction n with
  | zero => rfl
  | succ n ih =>
    have htimer : ((50*n).toUInt32+50).toNat=50*(n+1) := by
      rw [UInt32.toNat_add]
      change (50*n%2^32+50)%2^32=_
      omega
    have hnext : (50*n).toUInt32+50=(50*(n+1)).toUInt32 := by
      apply UInt32.toNat.inj
      rw [htimer]
      change _=50*(n+1)%2^32
      omega
    rw [List.replicate_succ',List.flatten_concat,Machine.run_append,ih (by omega),
      idleIteration_run (by omega),hnext]

/-- The first record of the log is cut by the first transfer to the BMP280. -/
theorem record_preempted : (busTasks.run boot preemptedSchedule).analog=.during .bmp280Write ∧
    (busTasks.run boot preemptedSchedule).logger.place=.during .highRes 0 ∧
      ¬NoOverlap preemptedSchedule := by
  have hplaces : (busTasks.run boot preemptedSchedule).analog=.during .bmp280Write ∧
      (busTasks.run boot preemptedSchedule).logger.place=.during .highRes 0 := by
    rw [preemptedSchedule,Machine.run_append,idle_run (by decide)]
    decide
  refine ⟨hplaces.1,hplaces.2,fun h => ?_⟩
  refine h preemptedSchedule (List.prefix_refl _) ⟨?_,?_⟩
  · rw [hplaces.1]
    trivial
  · rw [hplaces.2]
    trivial

end WebDataLogger.I2cArbitration
