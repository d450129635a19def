import WebDataLogger.DataLogger

/-!
# Runs of the data logger over a failing bus

The step facts of the task are carried along a run that starts with both indices
at zero over any EEPROM content, whatever the snapshots and whichever transfers
fail.
-/

namespace WebDataLogger.DataLoggerRuns

open TransitionRuns FlatStore EepromDriver RingLog DataLogger

/-- State of the task after a list of iterations. -/
abbrev loggerRun (outcomes : Outcomes) (bus : I2cBus) (snapshots : List Snapshots) : LoggerState :=
  (dataLoggerTask outcomes).run (taskStart bus) snapshots

/-- Write attempts of a list of iterations. -/
abbrev loggerTrace (outcomes : Outcomes) (bus : I2cBus) (snapshots : List Snapshots) :
    List WriteAttempt := (dataLoggerTask outcomes).trace (taskStart bus) snapshots

/-- The fresh index of a ring fits records that fill whole rounds. -/
theorem ringInv_start {layout : PartitionLayout} {window : ℕ} {records : List LogRecord}
    {memory : ℕ → UInt8} (hround : records.length%layout.maxRecords.toNat=0)
    (hkept : Retains layout.maxRecords.toNat window records.length
      (SlotHolds layout memory records)) :
    RingInv layout window 0 records ⟨0,0⟩ memory where
  timer := by
    rw [Nat.zero_mod]
    rfl
  index := by
    rw [hround]
    rfl
  kept := hkept

/-- The facts of a start hold after every number of iterations. -/
theorem loggerInv_run {outcomes : Outcomes} {spare : ℕ} {base : ℕ → UInt8}
    {highResRecords longTermRecords : List LogRecord} {s : LoggerState}
    (h : LoggerInv spare 0 base highResRecords longTermRecords s)
    (hspare : spare=1 ∨ spare=0 ∧ ∀ t, outcomes t=.success) (snapshots : List Snapshots) :
    LoggerInv spare snapshots.length base
      (highResRecords++recordsOf .highRes ((dataLoggerTask outcomes).trace s snapshots))
      (longTermRecords++recordsOf .longTerm ((dataLoggerTask outcomes).trace s snapshots))
      ((dataLoggerTask outcomes).run s snapshots) := by
  refine (dataLoggerTask outcomes).history_invariant (fun before attempts state =>
    LoggerInv spare before.length base (highResRecords++recordsOf .highRes attempts)
      (longTermRecords++recordsOf .longTerm attempts) state) ?_ ?_
  · simpa [recordsOf] using h
  · intro before now attempts state _ hinv
    have hstep := (hinv.step hspare now).inv
    rw [recordsOf_append,recordsOf_append,←List.append_assoc,←List.append_assoc,
      List.length_append,List.length_singleton]
    exact hstep

/-- The facts of a start over any content, while transfers may fail. -/
theorem loggerInv_start (bus : I2cBus) :
    LoggerInv 1 0 (flat bus.memory) [] [] (taskStart bus) where
  highRes := ringInv_start rfl (retains_zero _ _ _)
  longTerm := ringInv_start rfl (retains_zero _ _ _)
  outside _ _ _ := rfl

/-- The facts of every run. -/
theorem loggerInv_of_run (outcomes : Outcomes) (bus : I2cBus) (snapshots : List Snapshots) :
    LoggerInv 1 snapshots.length (flat bus.memory)
      (recordsOf .highRes (loggerTrace outcomes bus snapshots))
      (recordsOf .longTerm (loggerTrace outcomes bus snapshots))
      (loggerRun outcomes bus snapshots) := by
  simpa only [List.nil_append] using
    loggerInv_run (loggerInv_start bus) (Or.inl rfl) snapshots

/-- What the next iteration of a run does. -/
theorem loggerStep_of_run (outcomes : Outcomes) (bus : I2cBus) (snapshots : List Snapshots)
    (now : Snapshots) :
    LoggerStep outcomes 1 snapshots.length (flat bus.memory)
      (recordsOf .highRes (loggerTrace outcomes bus snapshots))
      (recordsOf .longTerm (loggerTrace outcomes bus snapshots))
      (loggerRun outcomes bus snapshots)
      ((dataLoggerTask outcomes).step (loggerRun outcomes bus snapshots) now) :=
  (loggerInv_of_run outcomes bus snapshots).step (Or.inl rfl) now

/-- What the two rings promise of a run. -/
structure RingDiscipline (outcomes : Outcomes) (bus : I2cBus) (snapshots : List Snapshots) :
    Prop where
  /-- Writes are attempted every 600 and every 12000 iterations, and only then. -/
  attempts : ∀ before now after, snapshots=before++now::after →
    ((dataLoggerTask outcomes).step (loggerRun outcomes bus before) now).2.map
      WriteAttempt.partition=dueAttempts (before.length+1)
  /-- The indices count the successful records. -/
  indices :
    (loggerRun outcomes bus snapshots).highRes.index.toNat=
        (recordsOf .highRes (loggerTrace outcomes bus snapshots)).length%120 ∧
      (loggerRun outcomes bus snapshots).longTerm.index.toNat=
        (recordsOf .longTerm (loggerTrace outcomes bus snapshots)).length%72
  /-- The last 119 successful high-resolution records are in their slots. -/
  highResKept : ∀ k record, (recordsOf .highRes (loggerTrace outcomes bus snapshots))[k]?=some record →
    (recordsOf .highRes (loggerTrace outcomes bus snapshots)).length≤k+119 →
      HoldsAt (flat (loggerRun outcomes bus snapshots).bus.memory) (12*(k%120)) 12 (recordData record)
  /-- The last 71 successful long-term records are in their slots. -/
  longTermKept : ∀ k record, (recordsOf .longTerm (loggerTrace outcomes bus snapshots))[k]?=some record →
    (recordsOf .longTerm (loggerTrace outcomes bus snapshots)).length≤k+71 →
      HoldsAt (flat (loggerRun outcomes bus snapshots).bus.memory) (1440+12*(k%72)) 12
        (recordData record)
  /-- Bytes behind the two rings never change. -/
  outside : ∀ a, 2304≤a → a<4096 →
    flat (loggerRun outcomes bus snapshots).bus.memory a=flat bus.memory a
  /-- The write of one ring does not touch the other. -/
  separate : ∀ before now after, snapshots=before++now::after →
    ∀ ticked first second, ticked=tickTimers (loggerRun outcomes bus before) →
      first=(highResPhase outcomes ticked now.highRes).1 →
      second=(longTermPhase outcomes first now.longTerm).1 →
      (∀ a, 1440≤a → a<4096 → flat first.bus.memory a=flat ticked.bus.memory a) ∧
        ∀ a, a<1440 → flat second.bus.memory a=flat first.bus.memory a

/-- Every run of the logger over any content, with any snapshots and any failures of
the transfers, keeps the ring discipline. -/
theorem logger_keeps_rings (outcomes : Outcomes) (bus : I2cBus) (snapshots : List Snapshots) :
    RingDiscipline outcomes bus snapshots := by
  have hinv := loggerInv_of_run outcomes bus snapshots
  refine ⟨?_,⟨hinv.highRes.index,hinv.longTerm.index⟩,?_,?_,hinv.outside,?_⟩
  · intro before now after _
    exact (loggerStep_of_run outcomes bus before now).attempts
  · intro k record hrecord hwindow
    have hk := (List.getElem?_eq_some_iff.mp hrecord).1
    have hslot := hinv.highRes.kept k hk hwindow record hrecord
    change HoldsAt _ (0+12*(k%120)) 12 _ at hslot
    rwa [Nat.zero_add] at hslot
  · intro k record hrecord hwindow
    have hk := (List.getElem?_eq_some_iff.mp hrecord).1
    exact hinv.longTerm.kept k hk hwindow record hrecord
  · intro before now after _ ticked first second hticked hfirst hsecond
    have hbefore := loggerInv_of_run outcomes bus before
    have hspare : 1=1 ∨ 1=0 ∧ ∀ t, outcomes t=.success := Or.inl rfl
    have hhigh := (highResPhase_step hbefore hspare now.highRes).outside
    have hframe : ∀ a, 1440≤a → a<4096 →
        flat first.bus.memory a=flat (loggerRun outcomes bus before).bus.memory a := by
      intro a hlow hbound
      rw [hfirst,hticked]
      exact hhigh a hbound (Or.inr hlow)
    have hring : first.longTerm=(tickTimers (loggerRun outcomes bus before)).longTerm := by
      rw [hfirst,hticked]
      rfl
    have hlong := (longTermPhase_step hbefore hspare hframe now.longTerm).outside
    rw [←hring] at hlong
    refine ⟨?_,fun a hlow => ?_⟩
    · intro a hlow hbound
      rw [hframe a hlow hbound,hticked]
      rfl
    · rw [hsecond]
      exact hlong a (Nat.lt_trans hlow (by decide)) (Or.inl hlow)

end WebDataLogger.DataLoggerRuns
