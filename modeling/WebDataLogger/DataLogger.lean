import WebDataLogger.TransitionRuns
import WebDataLogger.EepromDriver
import WebDataLogger.RingLog

/-!
# The data logger and its two ring partitions

`Data_Logger_Task` writes a snapshot of the sensor metrics every 30 s into a ring
of 120 records and every 10 min into a ring of 72 records behind it. Both rings
follow one pattern, and so do the facts proved about them: the software timer
counts iterations, the index counts successful records, and every record of the
last round lies in its slot.
-/

namespace WebDataLogger.DataLogger

open TransitionRuns FlatStore EepromDriver RingLog

/-- `log_record_t`. -/
structure LogRecord where
  /-- Unix epoch time. -/
  timestamp : UInt32
  /-- Temperature scaled by 100. -/
  temperature : Int16
  /-- Pressure scaled by 10. -/
  pressure : UInt32
  /-- Status of the digital inputs. -/
  digitalIn : UInt8
  /-- XOR of the other bytes. -/
  checksum : UInt8
  deriving DecidableEq

/-- A 16-bit field in memory, least significant byte first. -/
def bytesOf16 (v : UInt16) : List UInt8 := [v.toUInt8,(v>>>8).toUInt8]

/-- A 32-bit field in memory, least significant byte first. -/
def bytesOf32 (v : UInt32) : List UInt8 :=
  [v.toUInt8,(v>>>8).toUInt8,(v>>>16).toUInt8,(v>>>24).toUInt8]

/-- The `LOG_RECORD_SIZE` bytes of a packed record. -/
def recordBytes (record : LogRecord) : List UInt8 :=
  bytesOf32 record.timestamp++bytesOf16 record.temperature.toUInt16++
    bytesOf32 record.pressure++[record.digitalIn,record.checksum]

/-- A record seen as the buffer handed to the driver. -/
def recordData (record : LogRecord) : ℕ → UInt8 := fun i => (recordBytes record).getD i 0

/-- `EEPROM_Write_Record`. -/
def eepromWriteRecord (outcomes : Outcomes) (bus : I2cBus) (address : UInt16)
    (record : LogRecord) : Status×I2cBus :=
  let written := eepromWriteBytes outcomes bus address (recordData record) 12
  if written.1=.ok then (.success,written.2) else (.fail,written.2)

/-- Place, size and period of a ring of records. The period is a number of the
50 ms iterations, and the ring lies in the EEPROM. -/
structure PartitionLayout where
  /-- Address of the first slot. -/
  start : UInt16
  /-- Number of slots. -/
  maxRecords : UInt16
  /-- Time between two write attempts. -/
  periodMs : UInt32
  maxRecords_pos : 0 < maxRecords.toNat
  fits : start.toNat+12*maxRecords.toNat≤4096
  period_pos : 0<periodMs.toNat
  period_whole : periodMs.toNat%50=0

/-- Iterations of the task between two write attempts. -/
def PartitionLayout.ticks (layout : PartitionLayout) : ℕ := layout.periodMs.toNat/50

/-- The two rings. -/
inductive Partition where
  | highRes
  | longTerm
  deriving DecidableEq

/-- `EEPROM_HIGH_RES_START`, `HIGH_RES_MAX_RECORDS` and 30 s. -/
def highResLayout : PartitionLayout where
  start := 0x0000
  maxRecords := 120
  periodMs := 30000
  maxRecords_pos := by decide
  fits := by decide
  period_pos := by decide
  period_whole := by decide

/-- `EEPROM_LONG_TERM_START`, `LONG_TERM_MAX_RECORDS` and 10 min. -/
def longTermLayout : PartitionLayout where
  start := 120*12
  maxRecords := 72
  periodMs := 600000
  maxRecords_pos := by decide
  fits := by decide
  period_pos := by decide
  period_whole := by decide

/-- Layout of each ring. -/
def layoutOf : Partition → PartitionLayout
  | .highRes => highResLayout
  | .longTerm => longTermLayout

/-- Variables the task keeps for one ring: `highResIndex` and `highResTimerMs`,
or `longTermIndex` and `longTermTimerMs`. -/
structure RingState where
  /-- Next slot to write. -/
  index : UInt16
  /-- Time since the last attempt. -/
  timerMs : UInt32

/-- A call of `EEPROM_Write_Record` by the task. -/
structure WriteAttempt where
  partition : Partition
  address : UInt16
  record : LogRecord
  /-- The call returned `kStatus_Success`. -/
  stored : Bool
  deriving DecidableEq

/-- The timer of a ring advances by `PERIOD_DATA_LOGGER_TASK_MS`. -/
def tick (ring : RingState) : RingState := {ring with timerMs := ring.timerMs+50}

/-- The block of the task for one ring: when its time has come, the snapshot goes
to the slot of the index, which advances only when the write succeeds. -/
def logPartition (outcomes : Outcomes) (p : Partition) (ring : RingState) (bus : I2cBus)
    (snapshot : LogRecord) : RingState×I2cBus×List WriteAttempt :=
  if (layoutOf p).periodMs≤ring.timerMs then
    let targetAddr := (layoutOf p).start+ring.index*12
    let written := eepromWriteRecord outcomes bus targetAddr snapshot
    match written.1 with
    | .success =>
      let next := ring.index+1
      (⟨if (layoutOf p).maxRecords≤next then 0 else next,0⟩,written.2,
        [⟨p,targetAddr,snapshot,true⟩])
    | .fail => (⟨ring.index,0⟩,written.2,[⟨p,targetAddr,snapshot,false⟩])
  else (ring,bus,[])

/-- State of `Data_Logger_Task` with the bus it writes to. -/
structure LoggerState where
  highRes : RingState
  longTerm : RingState
  bus : I2cBus

/-- The copies of `g_CurrentSensorMetrics` that an iteration would take for each ring. -/
structure Snapshots where
  highRes : LogRecord
  longTerm : LogRecord

/-- Both timers advance at the head of an iteration. -/
def tickTimers (s : LoggerState) : LoggerState :=
  {s with highRes := tick s.highRes, longTerm := tick s.longTerm}

/-- Partition 1 of the iteration. -/
def highResPhase (outcomes : Outcomes) (s : LoggerState) (snapshot : LogRecord) :
    LoggerState×List WriteAttempt :=
  let logged := logPartition outcomes .highRes s.highRes s.bus snapshot
  ({s with highRes := logged.1, bus := logged.2.1},logged.2.2)

/-- Partition 2 of the iteration. -/
def longTermPhase (outcomes : Outcomes) (s : LoggerState) (snapshot : LogRecord) :
    LoggerState×List WriteAttempt :=
  let logged := logPartition outcomes .longTerm s.longTerm s.bus snapshot
  ({s with longTerm := logged.1, bus := logged.2.1},logged.2.2)

/-- The loop of `Data_Logger_Task`, one iteration per step. -/
def dataLoggerTask (outcomes : Outcomes) : Machine LoggerState Snapshots WriteAttempt where
  step s now :=
    let first := highResPhase outcomes (tickTimers s) now.highRes
    let second := longTermPhase outcomes first.1 now.longTerm
    (second.1,first.2++second.2)

/-- The state in which the task starts: indices and timers are zero. -/
def taskStart (bus : I2cBus) : LoggerState := ⟨⟨0,0⟩,⟨0,0⟩,bus⟩

/-- Records successfully written to a ring, oldest first. -/
def recordsOf (p : Partition) (attempts : List WriteAttempt) : List LogRecord :=
  (attempts.filter (fun a => a.partition=p ∧ a.stored=true)).map WriteAttempt.record

/-- Slot number `slot` of a ring holds record number `k` of a list. -/
def SlotHolds (layout : PartitionLayout) (memory : ℕ → UInt8) (records : List LogRecord)
    (slot k : ℕ) : Prop :=
  ∀ record, records[k]?=some record →
    HoldsAt memory (layout.start.toNat+12*slot) 12 (recordData record)

/-- What holds of a ring after some iterations since the task started, with the
records written to it so far: timer and index count, and the last `window` records
are in their slots. -/
structure RingInv (layout : PartitionLayout) (window iterations : ℕ) (records : List LogRecord)
    (ring : RingState) (memory : ℕ → UInt8) : Prop where
  timer : ring.timerMs.toNat=50*(iterations%layout.ticks)
  index : ring.index.toNat=records.length%layout.maxRecords.toNat
  kept : Retains layout.maxRecords.toNat window records.length
    (SlotHolds layout memory records)

/-- A record write changes only its slot, and fills it when it succeeds. -/
theorem eepromWriteRecord_effect (outcomes : Outcomes) (bus : I2cBus) (address : UInt16)
    (record : LogRecord) (hend : address.toNat+12≤4096) :
    ∃ count, count≤12 ∧
      ((eepromWriteRecord outcomes bus address record).1=.success → count=12) ∧
      AgreeBelow 4096 (flat (eepromWriteRecord outcomes bus address record).2.memory)
        (overlay (flat bus.memory) address.toNat count (recordData record)) := by
  obtain ⟨count,hle,hok,heffect⟩ :=
    eepromWriteBytes_stores outcomes bus 12 (recordData record) hend
  refine ⟨count,hle,?_,?_⟩
  · unfold eepromWriteRecord
    dsimp only
    split
    next h => exact fun _ => hok h
    next h => exact fun h' => by cases h'
  · unfold eepromWriteRecord
    dsimp only
    split <;> exact heffect

/-- With a working bus a record write succeeds. -/
theorem eepromWriteRecord_success (outcomes : Outcomes) (bus : I2cBus) {address : UInt16}
    (record : LogRecord) (hend : address.toNat+12≤4096) (hall : ∀ t, outcomes t=.success) :
    (eepromWriteRecord outcomes bus address record).1=.success := by
  obtain ⟨hok,-⟩ := eepromWriteBytes_success outcomes bus 12 (recordData record) hend hall
  rw [eepromWriteRecord,if_pos hok]

/-- Iterations between two attempts are at least one. -/
theorem PartitionLayout.ticks_pos (layout : PartitionLayout) : 0<layout.ticks := by
  have hpos := layout.period_pos
  have hwhole := layout.period_whole
  unfold ticks
  omega

/-- The period is fifty milliseconds for each of these iterations. -/
theorem PartitionLayout.period_eq (layout : PartitionLayout) :
    layout.periodMs.toNat=50*layout.ticks := by
  have hwhole := layout.period_whole
  unfold ticks
  omega

/-- The timer after one more tick. -/
theorem RingInv.tick_timer {layout : PartitionLayout} {window iterations : ℕ}
    {records : List LogRecord} {ring : RingState} {memory : ℕ → UInt8}
    (h : RingInv layout window iterations records ring memory) :
    (tick ring).timerMs.toNat=50*(iterations%layout.ticks)+50 := by
  have hlt := Nat.mod_lt iterations layout.ticks_pos
  have hperiod := layout.period_eq
  have hbound := layout.periodMs.toNat_lt
  have htimer := h.timer
  change (ring.timerMs+50).toNat=_
  rw [UInt32.toNat_add]
  change (ring.timerMs.toNat+50)%2^32=_
  omega

/-- The timer reaches the period exactly in the iterations that complete one. -/
theorem RingInv.due_iff {layout : PartitionLayout} {window iterations : ℕ}
    {records : List LogRecord} {ring : RingState} {memory : ℕ → UInt8}
    (h : RingInv layout window iterations records ring memory) :
    layout.periodMs≤(tick ring).timerMs ↔ layout.ticks∣iterations+1 := by
  have hlt := Nat.mod_lt iterations layout.ticks_pos
  rw [UInt32.le_iff_toNat_le,h.tick_timer,layout.period_eq,Nat.dvd_iff_mod_eq_zero,Nat.add_mod]
  rcases Nat.lt_or_ge 1 layout.ticks with hone|hone
  · rw [Nat.mod_eq_of_lt hone]
    rcases Nat.lt_or_ge (iterations%layout.ticks+1) layout.ticks with hroom|hfull
    · rw [Nat.mod_eq_of_lt hroom]
      omega
    · have heq : iterations%layout.ticks+1=layout.ticks := by omega
      rw [heq,Nat.mod_self]
      omega
  · have heq : layout.ticks=1 := by omega
    simp [heq,Nat.mod_one]

/-- Address of the slot of the index. It does not wrap. -/
theorem RingInv.target {layout : PartitionLayout} {window iterations : ℕ}
    {records : List LogRecord} {ring : RingState} {memory : ℕ → UInt8}
    (h : RingInv layout window iterations records ring memory) :
    (layout.start+ring.index*12).toNat=
        layout.start.toNat+12*(records.length%layout.maxRecords.toNat) ∧
      records.length%layout.maxRecords.toNat<layout.maxRecords.toNat := by
  have hlt := Nat.mod_lt records.length layout.maxRecords_pos
  have hfits := layout.fits
  have hindex := h.index
  rw [UInt16.toNat_add,UInt16.toNat_mul]
  change (layout.start.toNat+ring.index.toNat*12%2^16)%2^16=_ ∧ _
  rw [hindex]
  omega

/-- Bytes outside the ring do not matter for it. -/
theorem RingInv.frame {layout : PartitionLayout} {window iterations : ℕ}
    {records : List LogRecord} {ring : RingState} {memory memory' : ℕ → UInt8}
    (h : RingInv layout window iterations records ring memory)
    (hsame : ∀ a, layout.start.toNat≤a → a<layout.start.toNat+12*layout.maxRecords.toNat →
      memory' a=memory a) : RingInv layout window iterations records ring memory' where
  timer := h.timer
  index := h.index
  kept := by
    refine h.kept.mono fun k hk hslot record hrecord j hj => ?_
    have hlt := Nat.mod_lt k layout.maxRecords_pos
    rw [hsame _ (by omega) (by omega)]
    exact hslot record hrecord j hj

/-- A block written into one slot leaves every other slot. -/
theorem SlotHolds.overlay {layout : PartitionLayout} {memory memory' : ℕ → UInt8}
    {records : List LogRecord} {slot k target count : ℕ} {data : ℕ → UInt8}
    (h : SlotHolds layout memory records slot k) (hne : slot≠target) (hcount : count≤12)
    (hslot : slot<layout.maxRecords.toNat)
    (hmemory : AgreeBelow 4096 memory'
      (FlatStore.overlay memory (layout.start.toNat+12*target) count data)) :
    SlotHolds layout memory' records slot k := by
  have hfits := layout.fits
  intro record hrecord
  exact ((h record hrecord).overlay_disjoint (by omega)).congr hmemory.symm (by omega)

/-- Records already written keep their numbers. -/
theorem SlotHolds.append {layout : PartitionLayout} {memory : ℕ → UInt8}
    {records : List LogRecord} {slot k : ℕ} (h : SlotHolds layout memory records slot k)
    (hk : k<records.length) (record : LogRecord) :
    SlotHolds layout memory (records++[record]) slot k := by
  intro r hr
  rw [List.getElem?_append_left hk] at hr
  exact h r hr

/-- A successful write records the snapshot and advances the index. -/
theorem RingInv.stored {layout : PartitionLayout} {window iterations : ℕ}
    {records : List LogRecord} {ring : RingState} {memory memory' : ℕ → UInt8}
    (h : RingInv layout window iterations records ring memory)
    (hwindow : window≤layout.maxRecords.toNat) (hdue : layout.ticks∣iterations+1)
    (record : LogRecord)
    (hmemory : AgreeBelow 4096 memory' (FlatStore.overlay memory
      (layout.start.toNat+12*(records.length%layout.maxRecords.toNat)) 12 (recordData record))) :
    RingInv layout window (iterations+1) (records++[record])
      ⟨if layout.maxRecords≤ring.index+1 then 0 else ring.index+1,0⟩ memory' where
  timer := by
    rw [Nat.mod_eq_zero_of_dvd hdue]
    rfl
  index := by
    have hindex := h.index
    have hlt := Nat.mod_lt records.length layout.maxRecords_pos
    have hfits := layout.fits
    have hnext : (ring.index+1).toNat=ring.index.toNat+1 := by
      rw [UInt16.toNat_add]
      change (ring.index.toNat+1)%2^16=_
      omega
    rw [List.length_append,List.length_singleton,←next_index layout.maxRecords_pos hindex]
    have hfull : layout.maxRecords≤ring.index+1 ↔
        layout.maxRecords.toNat≤ring.index.toNat+1 := by
      rw [UInt16.le_iff_toNat_le,hnext]
    dsimp only
    split
    next hc => rw [if_pos (hfull.mp hc)]; rfl
    next hc => rw [if_neg (fun hle => hc (hfull.mpr hle)),hnext]
  kept := by
    have hfits := layout.fits
    have hlt := Nat.mod_lt records.length layout.maxRecords_pos
    rw [List.length_append,List.length_singleton]
    refine h.kept.record hwindow ?_ ?_
    · intro r hr
      rw [List.getElem?_concat_length] at hr
      obtain rfl := Option.some.inj hr
      exact (holdsAt_overlay _ _ _ _).congr hmemory.symm (by omega)
    · intro k hk hne hslot
      have hk' := Nat.mod_lt k layout.maxRecords_pos
      exact (hslot.overlay hne (Nat.le_refl _) hk' hmemory).append hk record

/-- A failed write spoils at most the oldest slot. -/
theorem RingInv.failed {layout : PartitionLayout} {window iterations count : ℕ}
    {records : List LogRecord} {ring : RingState} {memory memory' data : ℕ → UInt8}
    (h : RingInv layout window iterations records ring memory)
    (hwindow : window<layout.maxRecords.toNat) (hdue : layout.ticks∣iterations+1)
    (hcount : count≤12)
    (hmemory : AgreeBelow 4096 memory' (FlatStore.overlay memory
      (layout.start.toNat+12*(records.length%layout.maxRecords.toNat)) count data)) :
    RingInv layout window (iterations+1) records ⟨ring.index,0⟩ memory' where
  timer := by
    rw [Nat.mod_eq_zero_of_dvd hdue]
    rfl
  index := h.index
  kept := by
    refine h.kept.spoil hwindow ?_
    intro k hk hne hslot
    exact hslot.overlay hne hcount (Nat.mod_lt k layout.maxRecords_pos) hmemory

/-- Between two attempts only the timer advances. -/
theorem RingInv.idle {layout : PartitionLayout} {window iterations : ℕ}
    {records : List LogRecord} {ring : RingState} {memory : ℕ → UInt8}
    (h : RingInv layout window iterations records ring memory)
    (hdue : ¬layout.ticks∣iterations+1) :
    RingInv layout window (iterations+1) records (tick ring) memory where
  timer := by
    have hlt := Nat.mod_lt iterations layout.ticks_pos
    rw [Nat.dvd_iff_mod_eq_zero,Nat.add_mod] at hdue
    rw [h.tick_timer]
    rcases Nat.lt_or_ge 1 layout.ticks with hone|hone
    · rw [Nat.mod_eq_of_lt hone] at hdue
      rcases Nat.lt_or_ge (iterations%layout.ticks+1) layout.ticks with hroom|hfull
      · rw [Nat.add_mod,Nat.mod_eq_of_lt hone,Nat.mod_eq_of_lt hroom]
        omega
      · have heq : iterations%layout.ticks+1=layout.ticks := by omega
        rw [heq,Nat.mod_self] at hdue
        exact absurd rfl hdue
    · have heq : layout.ticks=1 := by omega
      rw [heq,Nat.mod_one] at hdue
      exact absurd rfl hdue
  index := h.index
  kept := h.kept

/-- Records of a concatenation. -/
theorem recordsOf_append (p : Partition) (first second : List WriteAttempt) :
    recordsOf p (first++second)=recordsOf p first++recordsOf p second := by
  simp only [recordsOf,List.filter_append,List.map_append]

/-- Attempts on the other ring add no record. -/
theorem recordsOf_other {p q : Partition} (hne : p≠q) {attempts : List WriteAttempt}
    (h : ∀ a∈attempts, a.partition=p) : recordsOf q attempts=[] := by
  rw [recordsOf,List.map_eq_nil_iff,List.filter_eq_nil_iff]
  intro a ha
  simp [h a ha,hne]

/-- What one iteration does with one ring. -/
structure PartitionStep (outcomes : Outcomes) (p : Partition) (window iterations : ℕ)
    (records : List LogRecord) (bus : I2cBus) (logged : RingState×I2cBus×List WriteAttempt) :
    Prop where
  /-- What is said of the ring holds one iteration later. -/
  inv : RingInv (layoutOf p) window (iterations+1) (records++recordsOf p logged.2.2) logged.1
    (flat logged.2.1.memory)
  /-- A write is attempted exactly when a period is complete. -/
  attempts : logged.2.2.map WriteAttempt.partition=
    (if (layoutOf p).ticks∣iterations+1 then [p] else [])
  /-- Bytes outside the slot of the index are kept. -/
  outsideSlot : ∀ a, a<4096 →
    (a<(layoutOf p).start.toNat+12*(records.length%(layoutOf p).maxRecords.toNat) ∨
      (layoutOf p).start.toNat+12*(records.length%(layoutOf p).maxRecords.toNat)+12≤a) →
        flat logged.2.1.memory a=flat bus.memory a
  /-- Without an attempt the bus is not used. -/
  quiet : ¬(layoutOf p).ticks∣iterations+1 → logged.2.1=bus
  /-- With a working bus every attempt adds a record. -/
  count : (∀ t, outcomes t=.success) →
    (recordsOf p logged.2.2).length=(if (layoutOf p).ticks∣iterations+1 then 1 else 0)

/-- Bytes outside the ring are kept. -/
theorem PartitionStep.outside {outcomes : Outcomes} {p : Partition} {window iterations : ℕ}
    {records : List LogRecord} {bus : I2cBus} {logged : RingState×I2cBus×List WriteAttempt}
    (h : PartitionStep outcomes p window iterations records bus logged) :
    ∀ a, a<4096 → (a<(layoutOf p).start.toNat ∨
      (layoutOf p).start.toNat+12*(layoutOf p).maxRecords.toNat≤a) →
        flat logged.2.1.memory a=flat bus.memory a := by
  intro a ha hout
  have hlt := Nat.mod_lt records.length (layoutOf p).maxRecords_pos
  exact h.outsideSlot a ha (by omega)

/-- One iteration of the task for one ring. A working bus is assumed where no slot
is spared for a torn record. -/
theorem logPartition_step {outcomes : Outcomes} (p : Partition) {window iterations : ℕ}
    {records : List LogRecord} {ring : RingState} {bus : I2cBus}
    (h : RingInv (layoutOf p) window iterations records ring (flat bus.memory))
    (hwindow : window<(layoutOf p).maxRecords.toNat ∨
      window=(layoutOf p).maxRecords.toNat ∧ ∀ t, outcomes t=.success)
    (snapshot : LogRecord) :
    PartitionStep outcomes p window iterations records bus
      (logPartition outcomes p (tick ring) bus snapshot) := by
  unfold logPartition
  by_cases hdue : (layoutOf p).ticks∣iterations+1
  · rw [if_pos (h.due_iff.mpr hdue)]
    have hfits := (layoutOf p).fits
    obtain ⟨htarget,hslot⟩ := h.target
    dsimp only [tick]
    generalize (layoutOf p).start+ring.index*12=target at htarget ⊢
    have hend : target.toNat+12≤4096 := by omega
    obtain ⟨count,hcount,hfull,heffect⟩ := eepromWriteRecord_effect outcomes bus target snapshot hend
    have hworks := eepromWriteRecord_success outcomes bus snapshot hend
    rw [htarget] at heffect
    have houtside := fun a (ha : a<4096) (hout : a<(layoutOf p).start.toNat+
        12*(records.length%(layoutOf p).maxRecords.toNat) ∨ (layoutOf p).start.toNat+
        12*(records.length%(layoutOf p).maxRecords.toNat)+12≤a) =>
      (heffect a ha).trans (overlay_outside (by omega))
    cases hstatus : (eepromWriteRecord outcomes bus target snapshot).1 with
    | success =>
      rw [hfull hstatus] at heffect
      have hrecords : recordsOf p [⟨p,target,snapshot,true⟩]=[snapshot] := by simp [recordsOf]
      refine ⟨?_,by rw [if_pos hdue]; rfl,houtside,fun hnot => absurd hdue hnot,fun _ => ?_⟩
      · dsimp only
        rw [hrecords]
        exact h.stored (by omega) hdue snapshot heffect
      · dsimp only
        rw [hrecords,if_pos hdue]
        rfl
    | fail =>
      have hrecords : recordsOf p [⟨p,target,snapshot,false⟩]=[] := by simp [recordsOf]
      have hbroken : ¬∀ t, outcomes t=.success := by
        intro hall
        rw [hworks hall] at hstatus
        cases hstatus
      have hbelow := hwindow.resolve_right fun hall => hbroken hall.2
      refine ⟨?_,by rw [if_pos hdue]; rfl,houtside,fun hnot => absurd hdue hnot,
        fun hall => absurd hall hbroken⟩
      dsimp only
      rw [hrecords,List.append_nil]
      exact h.failed hbelow hdue hcount heffect
  · rw [if_neg (fun hle => hdue (h.due_iff.mp hle))]
    refine ⟨?_,by rw [if_neg hdue]; rfl,fun _ _ _ => rfl,fun _ => rfl,
      fun _ => by rw [if_neg hdue]; rfl⟩
    rw [show recordsOf p []=[] from rfl,List.append_nil]
    exact h.idle hdue

/-- Attempts that carry one partition have no records of the other. -/
theorem partition_of_due {p : Partition} {attempts : List WriteAttempt} {due : Prop} [Decidable due]
    (h : attempts.map WriteAttempt.partition=(if due then [p] else [])) :
    ∀ a∈attempts, a.partition=p := by
  intro a ha
  have hmem : a.partition∈attempts.map WriteAttempt.partition := List.mem_map_of_mem ha
  rw [h] at hmem
  split at hmem
  · exact List.mem_singleton.mp hmem
  · cases hmem

/-- What holds of the task after some iterations: both rings keep all but `spare`
records of their last round, and bytes behind the rings are as in `base`. -/
structure LoggerInv (spare iterations : ℕ) (base : ℕ → UInt8)
    (highResRecords longTermRecords : List LogRecord) (s : LoggerState) : Prop where
  highRes : RingInv highResLayout (120-spare) iterations highResRecords s.highRes
    (flat s.bus.memory)
  longTerm : RingInv longTermLayout (72-spare) iterations longTermRecords s.longTerm
    (flat s.bus.memory)
  outside : ∀ a, 2304≤a → a<4096 → flat s.bus.memory a=base a

/-- An iteration attempts the writes whose period is complete, high resolution first. -/
def dueAttempts (iteration : ℕ) : List Partition :=
  (if 600∣iteration then [Partition.highRes] else [])++
    (if 12000∣iteration then [Partition.longTerm] else [])

/-- An attempt of one ring writes the snapshot it was given. -/
theorem logPartition_attempt {outcomes : Outcomes} {p : Partition} {ring : RingState} {bus : I2cBus}
    {snapshot : LogRecord} :
    ∀ a∈(logPartition outcomes p ring bus snapshot).2.2, a.partition=p ∧ a.record=snapshot := by
  intro a ha
  unfold logPartition at ha
  dsimp only at ha
  split at ha
  · split at ha
    · rw [List.mem_singleton.mp ha]
      exact ⟨rfl,rfl⟩
    · rw [List.mem_singleton.mp ha]
      exact ⟨rfl,rfl⟩
  · cases ha

/-- An attempt of the task writes the snapshot taken for its ring. -/
theorem dataLoggerTask_attempt {outcomes : Outcomes} {s : LoggerState} {now : Snapshots} :
    ∀ a∈((dataLoggerTask outcomes).step s now).2,
      (a.partition=.highRes ∧ a.record=now.highRes) ∨
        (a.partition=.longTerm ∧ a.record=now.longTerm) := by
  intro a ha
  exact (List.mem_append.mp ha).imp (logPartition_attempt a) (logPartition_attempt a)

section Iteration

variable {outcomes : Outcomes} {spare iterations : ℕ}

/-- The high-resolution part of an iteration. -/
theorem highResPhase_step {base : ℕ → UInt8} {highResRecords longTermRecords : List LogRecord}
    {s : LoggerState} (h : LoggerInv spare iterations base highResRecords longTermRecords s)
    (hspare : spare=1 ∨ spare=0 ∧ ∀ t, outcomes t=.success) (snapshot : LogRecord) :
    PartitionStep outcomes .highRes (120-spare) iterations highResRecords s.bus
      (logPartition outcomes .highRes (tickTimers s).highRes (tickTimers s).bus snapshot) := by
  refine logPartition_step .highRes h.highRes (hspare.imp ?_ ?_) snapshot
  · intro h1
    rw [h1]
    decide
  · intro h0
    exact ⟨by rw [h0.1]; rfl,h0.2⟩

/-- The long-term part of an iteration, with the bus as the first part left it. -/
theorem longTermPhase_step {base : ℕ → UInt8} {highResRecords longTermRecords : List LogRecord}
    {s : LoggerState} (h : LoggerInv spare iterations base highResRecords longTermRecords s)
    (hspare : spare=1 ∨ spare=0 ∧ ∀ t, outcomes t=.success) {bus : I2cBus}
    (hbus : ∀ a, 1440≤a → a<4096 → flat bus.memory a=flat s.bus.memory a) (snapshot : LogRecord) :
    PartitionStep outcomes .longTerm (72-spare) iterations longTermRecords bus
      (logPartition outcomes .longTerm (tickTimers s).longTerm bus snapshot) := by
  have hframe := h.longTerm.frame fun a hlow hbound =>
    hbus a hlow (Nat.lt_trans hbound (by decide))
  refine logPartition_step .longTerm hframe (hspare.imp ?_ ?_) snapshot
  · intro h1
    rw [h1]
    decide
  · intro h0
    exact ⟨by rw [h0.1]; rfl,h0.2⟩

/-- What one iteration of the task does. -/
structure LoggerStep (outcomes : Outcomes) (spare iterations : ℕ) (base : ℕ → UInt8)
    (highResRecords longTermRecords : List LogRecord) (s : LoggerState)
    (after : LoggerState×List WriteAttempt) : Prop where
  inv : LoggerInv spare (iterations+1) base (highResRecords++recordsOf .highRes after.2)
    (longTermRecords++recordsOf .longTerm after.2) after.1
  attempts : after.2.map WriteAttempt.partition=dueAttempts (iterations+1)
  /-- Of the first ring only the slot of its index is touched. -/
  highResSlot : ∀ a, a<1440 → (a<12*(highResRecords.length%120) ∨
    12*(highResRecords.length%120)+12≤a) → flat after.1.bus.memory a=flat s.bus.memory a
  /-- Without an attempt the bus is not used. -/
  quiet : ¬600∣iterations+1 → after.1.bus=s.bus
  /-- Without a long-term attempt the bytes behind the first ring are kept. -/
  longTermQuiet : ¬12000∣iterations+1 →
    ∀ a, 1440≤a → a<4096 → flat after.1.bus.memory a=flat s.bus.memory a
  /-- With a working bus every attempt adds a record. -/
  counts : (∀ t, outcomes t=.success) →
    (recordsOf .highRes after.2).length=(if 600∣iterations+1 then 1 else 0) ∧
      (recordsOf .longTerm after.2).length=(if 12000∣iterations+1 then 1 else 0)

/-- One iteration of the task keeps what is said of both rings. -/
theorem LoggerInv.step {base : ℕ → UInt8} {highResRecords longTermRecords : List LogRecord}
    {s : LoggerState} (h : LoggerInv spare iterations base highResRecords longTermRecords s)
    (hspare : spare=1 ∨ spare=0 ∧ ∀ t, outcomes t=.success) (now : Snapshots) :
    LoggerStep outcomes spare iterations base highResRecords longTermRecords s
      ((dataLoggerTask outcomes).step s now) := by
  have hfirst := highResPhase_step h hspare now.highRes
  unfold dataLoggerTask longTermPhase highResPhase
  dsimp only
  generalize logPartition outcomes .highRes (tickTimers s).highRes (tickTimers s).bus now.highRes=
    first at *
  have hfirstOutside : ∀ a, 1440≤a → a<4096 → flat first.2.1.memory a=flat s.bus.memory a :=
    fun a hlow hbound => hfirst.outside a hbound (Or.inr hlow)
  have hsecond := longTermPhase_step h hspare hfirstOutside now.longTerm
  generalize logPartition outcomes .longTerm (tickTimers s).longTerm first.2.1 now.longTerm=
    second at *
  have hsecondOutside : ∀ a, a<4096 → (a<1440 ∨ 2304≤a) →
    flat second.2.1.memory a=flat first.2.1.memory a := hsecond.outside
  have hfirstOther : recordsOf .longTerm first.2.2=[] :=
    recordsOf_other (by decide) (partition_of_due hfirst.attempts)
  have hsecondOther : recordsOf .highRes second.2.2=[] :=
    recordsOf_other (by decide) (partition_of_due hsecond.attempts)
  have hhighRes : recordsOf .highRes (first.2.2++second.2.2)=recordsOf .highRes first.2.2 := by
    rw [recordsOf_append,hsecondOther,List.append_nil]
  have hlongTerm : recordsOf .longTerm (first.2.2++second.2.2)=
      recordsOf .longTerm second.2.2 := by
    rw [recordsOf_append,hfirstOther,List.nil_append]
  refine ⟨⟨?_,?_,?_⟩,?_,?_,?_,?_,?_⟩
  · dsimp only
    rw [hhighRes]
    exact hfirst.inv.frame fun a _ hbound =>
      hsecondOutside a (Nat.lt_trans hbound (by decide)) (Or.inl hbound)
  · dsimp only
    rw [hlongTerm]
    exact hsecond.inv
  · intro a hlow hbound
    rw [hsecondOutside a hbound (Or.inr hlow),hfirstOutside a (by omega) hbound]
    exact h.outside a hlow hbound
  · rw [List.map_append,hfirst.attempts,hsecond.attempts]
    rfl
  · intro a hbound hslot
    have hfar : a<4096 := Nat.lt_trans hbound (by decide)
    rw [hsecondOutside a hfar (Or.inl hbound)]
    refine hfirst.outsideSlot a hfar ?_
    change a<0+12*(highResRecords.length%120) ∨ 0+12*(highResRecords.length%120)+12≤a
    omega
  · intro hnot
    have hlong : ¬12000∣iterations+1 := fun hdvd => hnot (Nat.dvd_trans (by decide) hdvd)
    exact (hsecond.quiet hlong).trans (hfirst.quiet hnot)
  · intro hnot a hlow hbound
    dsimp only
    rw [hsecond.quiet hnot]
    exact hfirstOutside a hlow hbound
  · intro hall
    dsimp only
    rw [hhighRes,hlongTerm]
    exact ⟨hfirst.count hall,hsecond.count hall⟩

end Iteration

end WebDataLogger.DataLogger
