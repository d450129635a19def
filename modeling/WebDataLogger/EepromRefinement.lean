import WebDataLogger.TransitionRuns
import WebDataLogger.EepromDriver

/-!
# The driver refines a flat array

The flat memory knows no pages: a write replaces the whole block, or the chunks
before its first failed transfer, and a read returns consecutive cells. With
transfers that fail without storing anything the driver gives the same answers
as the flat memory to every sequence of writes and reads.
-/

namespace WebDataLogger.EepromRefinement

open TransitionRuns FlatStore EepromDriver

/-- Outcomes of transfers that store all their bytes or none. -/
def outcomesOf (pattern : ℕ → Bool) : Outcomes :=
  fun t => if pattern t=true then .success else .failed 0

/-- A call made by a user of the driver. -/
inductive Operation where
  /-- `EEPROM_Write_Bytes`. -/
  | write (address len : UInt16) (data : ℕ → UInt8)
  /-- `EEPROM_Read_Bytes`. -/
  | read (address len : UInt16)

/-- What the call returns. -/
inductive Response where
  | wrote (status : EepromStatus)
  | read (status : EepromStatus) (bytes : List UInt8)

/-- The driver under a sequence of calls. -/
def driver (pattern : ℕ → Bool) : Machine I2cBus Operation Response where
  step bus
    | .write address len data =>
      let written := eepromWriteBytes (outcomesOf pattern) bus address data len
      (written.2,[.wrote written.1])
    | .read address len =>
      let result := eepromReadBytes (outcomesOf pattern) bus address len
      (result.2.2,[.read result.1 result.2.1])

/-- A flat array of 4096 cells behind a bus that may fail. -/
structure FlatMemory where
  /-- Contents by address. -/
  cells : ℕ → UInt8
  /-- Transfers made so far. -/
  transfers : ℕ

/-- Number of chunks of a block. -/
def chunkCount (address len : ℕ) : ℕ := if len=0 then 0 else (address%32+len+31)/32

/-- The first chunk whose transfer fails. -/
def firstFailure (pattern : ℕ → Bool) (transfers chunks : ℕ) : Option ℕ :=
  (List.range chunks).find? (fun i => !pattern (transfers+i))

/-- A write to the flat memory. -/
def flatWrite (pattern : ℕ → Bool) (memory : FlatMemory) (address len : ℕ) (data : ℕ → UInt8) :
    EepromStatus×FlatMemory :=
  if 4096<address+len then (.lengthOverflow,memory)
  else match firstFailure pattern memory.transfers (chunkCount address len) with
    | none => (.ok,⟨overlay memory.cells address len data,
        memory.transfers+chunkCount address len⟩)
    | some i => (.i2cError,⟨overlay memory.cells address (chunkStart address i) data,
        memory.transfers+i+1⟩)

/-- A read of the flat memory. -/
def flatRead (pattern : ℕ → Bool) (memory : FlatMemory) (address len : ℕ) :
    EepromStatus×List UInt8×FlatMemory :=
  if 4096<address+len then (.lengthOverflow,[],memory)
  else if pattern memory.transfers=true then
    (.ok,(List.range len).map (fun i => memory.cells (address+i)),
      ⟨memory.cells,memory.transfers+1⟩)
  else (.i2cError,[],⟨memory.cells,memory.transfers+1⟩)

/-- The flat memory under a sequence of calls. -/
def flatArray (pattern : ℕ → Bool) : Machine FlatMemory Operation Response where
  step memory
    | .write address len data =>
      let written := flatWrite pattern memory address.toNat len.toNat data
      (written.2,[.wrote written.1])
    | .read address len =>
      let result := flatRead pattern memory address.toNat len.toNat
      (result.2.2,[.read result.1 result.2.1])

/-- The paged device and the flat memory hold the same 4096 cells. -/
def SameCells (bus : I2cBus) (memory : FlatMemory) : Prop :=
  bus.transfers=memory.transfers ∧ AgreeBelow 4096 (flat bus.memory) memory.cells

/-- A transfer succeeds exactly where the pattern says so. -/
theorem outcomesOf_success {pattern : ℕ → Bool} {t : ℕ} :
    outcomesOf pattern t=.success ↔ pattern t=true := by
  unfold outcomesOf
  split
  next h => simp [h]
  next h => simp [h]

/-- A failed transfer stores nothing. -/
theorem outcomesOf_failed {pattern : ℕ → Bool} {t stored : ℕ} :
    outcomesOf pattern t=.failed stored ↔ pattern t=false ∧ stored=0 := by
  unfold outcomesOf
  split
  next h => simp [h]
  next h => simp [h,eq_comm]

/-- The chunks of a block are those that start in it. -/
theorem chunkStart_lt_iff (address len i : ℕ) :
    chunkStart address i<len ↔ i<chunkCount address len := by
  unfold chunkStart chunkCount
  split
  · omega
  · rw [Nat.lt_div_iff_mul_lt (by omega)]
    omega

/-- With transfers that store all or nothing, a write ends as in the flat memory. -/
theorem stopped_flat {pattern : ℕ → Bool} {address len transfers chunks count after : ℕ}
    {status : EepromStatus} (hdone : ChunksDone (outcomesOf pattern) address len transfers chunks)
    (h : Stopped (outcomesOf pattern) address len transfers chunks status count after) :
    (status=.ok ∧ count=len ∧ after=transfers+chunkCount address len ∧
        firstFailure pattern transfers (chunkCount address len)=none) ∨
      (status=.i2cError ∧ count=chunkStart address chunks ∧ after=transfers+chunks+1 ∧
        firstFailure pattern transfers (chunkCount address len)=some chunks) := by
  have hsuccess : ∀ i, i<chunks → pattern (transfers+i)=true := fun i hi =>
    outcomesOf_success.mp (hdone i hi).2
  cases h with
  | finished hlen =>
    have hcount : chunks=chunkCount address len := by
      have hle : ∀ i, i<chunks → i<chunkCount address len := fun i hi =>
        (chunkStart_lt_iff address len i).mp (hdone i hi).1
      have hge : ¬chunks<chunkCount address len := by
        rw [←chunkStart_lt_iff]
        omega
      have hlast := hle (chunks-1)
      omega
    refine Or.inl ⟨rfl,rfl,by rw [hcount],?_⟩
    rw [firstFailure,List.find?_eq_none,←hcount]
    intro i hi
    rw [hsuccess i (List.mem_range.mp hi)]
    decide
  | broken stored hlen hout =>
    obtain ⟨hfail,rfl⟩ := outcomesOf_failed.mp hout
    refine Or.inr ⟨rfl,?_,rfl,?_⟩
    · unfold chunkStart at *
      omega
    · rw [firstFailure,List.find?_range_eq_some]
      refine ⟨by rw [hfail]; rfl,List.mem_range.mpr ((chunkStart_lt_iff address len _).mp hlen),?_⟩
      intro i hi
      rw [hsuccess i hi]
      rfl

/-- One write of the driver is one write of the flat memory. -/
theorem write_step (pattern : ℕ → Bool) {bus : I2cBus} {memory : FlatMemory}
    (h : SameCells bus memory) (address len : UInt16) (data : ℕ → UInt8) :
    (eepromWriteBytes (outcomesOf pattern) bus address data len).1=
        (flatWrite pattern memory address.toNat len.toNat data).1 ∧
      SameCells (eepromWriteBytes (outcomesOf pattern) bus address data len).2
        (flatWrite pattern memory address.toNat len.toNat data).2 := by
  obtain ⟨htransfers,hcells⟩ := h
  unfold flatWrite
  split
  next hover =>
    rw [eepromWriteBytes,if_pos ((overflow_iff address len).mpr hover)]
    exact ⟨rfl,htransfers,hcells⟩
  next hfits =>
    obtain ⟨chunks,count,hdone,hstopped,heffect⟩ :=
      eepromWriteBytes_effect (outcomesOf pattern) bus data (Nat.le_of_not_lt hfits)
    have hagree := heffect.trans (hcells.overlay address.toNat count data)
    rcases stopped_flat hdone hstopped with ⟨hstatus,hcount,hafter,hfirst⟩|⟨hstatus,hcount,hafter,hfirst⟩
    · rw [←htransfers,hfirst,hstatus]
      rw [hcount] at hagree
      exact ⟨rfl,hafter,hagree⟩
    · rw [←htransfers,hfirst,hstatus]
      rw [hcount] at hagree
      exact ⟨rfl,hafter,hagree⟩

/-- One read of the driver is one read of the flat memory. -/
theorem read_step (pattern : ℕ → Bool) {bus : I2cBus} {memory : FlatMemory}
    (h : SameCells bus memory) (address len : UInt16) :
    (eepromReadBytes (outcomesOf pattern) bus address len).1=
        (flatRead pattern memory address.toNat len.toNat).1 ∧
      (eepromReadBytes (outcomesOf pattern) bus address len).2.1=
        (flatRead pattern memory address.toNat len.toNat).2.1 ∧
      SameCells (eepromReadBytes (outcomesOf pattern) bus address len).2.2
        (flatRead pattern memory address.toNat len.toNat).2.2 := by
  obtain ⟨htransfers,hcells⟩ := h
  unfold flatRead
  split
  next hover =>
    rw [eepromReadBytes,if_pos ((overflow_iff address len).mpr hover)]
    exact ⟨rfl,rfl,htransfers,hcells⟩
  next hfits =>
    rw [←htransfers]
    split
    next hsuccess =>
      rw [eepromReadBytes_success _ _ (Nat.le_of_not_lt hfits) (outcomesOf_success.mpr hsuccess)]
      refine ⟨rfl,List.map_congr_left fun i hi => ?_,rfl,hcells⟩
      have hlt := List.mem_range.mp hi
      exact hcells _ (by omega)
    next hfail =>
      rw [eepromReadBytes_failed _ _ (Nat.le_of_not_lt hfits)
        (outcomesOf_failed.mpr ⟨Bool.eq_false_iff.mpr hfail,rfl⟩)]
      exact ⟨rfl,rfl,rfl,hcells⟩

/-- Driver and flat memory answer every sequence of calls alike. -/
theorem driver_simulates (pattern : ℕ → Bool) (bus : I2cBus) (operations : List Operation) :
    (driver pattern).trace bus operations=
        (flatArray pattern).trace ⟨flat bus.memory,bus.transfers⟩ operations ∧
      SameCells ((driver pattern).run bus operations)
        ((flatArray pattern).run ⟨flat bus.memory,bus.transfers⟩ operations) := by
  refine Machine.simulation SameCells ?_ ⟨rfl,AgreeBelow.refl _ _⟩ operations
  intro bus memory operation h
  cases operation with
  | write address len data =>
    obtain ⟨hstatus,hsame⟩ := write_step pattern h address len data
    refine ⟨?_,hsame⟩
    simp only [driver,flatArray,hstatus]
  | read address len =>
    obtain ⟨hstatus,hbytes,hsame⟩ := read_step pattern h address len
    refine ⟨?_,hsame⟩
    simp only [driver,flatArray,hstatus,hbytes]

/-- The driver refines a flat array. A write is refused without a transfer exactly
when its block passes the last cell, stores the whole block when it succeeds, and
stores the chunks before the failed one when a transfer fails. Every sequence of
writes and reads is answered as by the flat array and leaves the same cells. -/
theorem eeprom_refines_flat_array (pattern : ℕ → Bool) (bus : I2cBus) :
    (∀ (address len : UInt16) (data : ℕ → UInt8) (status : EepromStatus) (after : I2cBus),
      eepromWriteBytes (outcomesOf pattern) bus address data len=(status,after) →
        status≠.invalidAddress ∧
        (status=.lengthOverflow ↔ 4096<address.toNat+len.toNat) ∧
        (status=.lengthOverflow → after=bus) ∧
        (status=.ok → AgreeBelow 4096 (flat after.memory)
          (overlay (flat bus.memory) address.toNat len.toNat data)) ∧
        (status=.i2cError → ∃ chunks, chunkStart address.toNat chunks<len.toNat ∧
          (∀ i, i<chunks → pattern (bus.transfers+i)=true) ∧
          pattern (bus.transfers+chunks)=false ∧
          AgreeBelow 4096 (flat after.memory) (overlay (flat bus.memory) address.toNat
            (chunkStart address.toNat chunks) data))) ∧
    ∀ operations, (driver pattern).trace bus operations=
        (flatArray pattern).trace ⟨flat bus.memory,bus.transfers⟩ operations ∧
      SameCells ((driver pattern).run bus operations)
        ((flatArray pattern).run ⟨flat bus.memory,bus.transfers⟩ operations) := by
  refine ⟨?_,driver_simulates pattern bus⟩
  intro address len data status after hresult
  rcases Nat.lt_or_ge 4096 (address.toNat+len.toNat) with hover|hfits
  · rw [eepromWriteBytes,if_pos ((overflow_iff address len).mpr hover)] at hresult
    obtain ⟨rfl,rfl⟩ := Prod.mk.inj hresult
    simp [hover]
  · obtain ⟨chunks,count,hdone,hstopped,heffect⟩ :=
      eepromWriteBytes_effect (outcomesOf pattern) bus data hfits
    rw [hresult] at hstopped heffect
    have hover : ¬4096<address.toNat+len.toNat := Nat.not_lt_of_ge hfits
    rcases stopped_flat hdone hstopped with ⟨rfl,rfl,-⟩|⟨rfl,rfl,-,hfirst⟩
    · simpa [hover] using heffect
    · have hlast := List.find?_range_eq_some.mp hfirst
      have hfail : pattern (bus.transfers+chunks)=false := by simpa using hlast.1
      refine ⟨by simp,by simp [hover],by simp,by simp,fun _ => ?_⟩
      refine ⟨chunks,?_,fun i hi => outcomesOf_success.mp (hdone i hi).2,hfail,heffect⟩
      exact (chunkStart_lt_iff _ _ _).mpr (List.mem_range.mp hlast.2.1)

end WebDataLogger.EepromRefinement
