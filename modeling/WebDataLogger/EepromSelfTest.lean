import WebDataLogger.EepromDriver

/-!
# The self test of the EEPROM

`EEPROM_Init` overwrites the first byte of the log, reads it back and restores it. Every
transfer that fails ends it where it stands, so that a failed verification leaves the
test byte in the log.
-/

namespace WebDataLogger.EepromSelfTest

open FlatStore EepromDriver

/-- The write transfers of the self test succeed: the one after a first read that succeeded,
and the one after a verification that did. -/
def WritesSucceed (outcomes : Outcomes) (transfers : ℕ) : Prop :=
  outcomes transfers=.success → outcomes (transfers+1)=.success ∧
    (outcomes (transfers+2)=.success → outcomes (transfers+3)=.success)

/-- No read transfer of the self test fails. The second one follows the first write. -/
def NoReadFailed (outcomes : Outcomes) (transfers : ℕ) : Prop :=
  outcomes transfers=.success ∧ outcomes (transfers+2)=.success

/-- The self test leaves the EEPROM as it was, and reports exactly the reads that failed. -/
def LeavesUntouched (outcomes : Outcomes) (bus : I2cBus) : Prop :=
  (eepromInit outcomes bus).2.memory=bus.memory ∧
    ((eepromInit outcomes bus).1=.ok ↔ NoReadFailed outcomes bus.transfers)

/-- The first byte can be addressed. -/
theorem firstByte_fits : (0 : UInt16).toNat+(1 : UInt16).toNat≤4096 := by decide

/-- A write of the first byte takes one transfer. -/
theorem writeByte_success {outcomes : Outcomes} (bus : I2cBus)
    (hout : outcomes bus.transfers=.success) (v : UInt8) :
    (eepromWriteBytes outcomes bus 0 (fun _ => v) 1).1=.ok ∧
      (eepromWriteBytes outcomes bus 0 (fun _ => v) 1).2.transfers=bus.transfers+1 ∧
        AgreeBelow 4096 (flat (eepromWriteBytes outcomes bus 0 (fun _ => v) 1).2.memory)
          (overlay (flat bus.memory) 0 1 (fun _ => v)) := by
  obtain ⟨chunks,count,hdone,hstopped,heffect⟩ :=
    eepromWriteBytes_effect outcomes bus (fun _ => v) firstByte_fits
  have hzero : (0 : UInt16).toNat=0 := rfl
  have hone : (1 : UInt16).toNat=1 := rfl
  rw [hzero,hone] at hdone hstopped
  rw [hzero] at heffect
  generalize (eepromWriteBytes outcomes bus 0 (fun _ => v) 1).1=status at hstopped ⊢
  generalize (eepromWriteBytes outcomes bus 0 (fun _ => v) 1).2=after at hstopped heffect ⊢
  generalize after.transfers=transfers at hstopped ⊢
  cases hstopped with
  | finished hlen =>
    -- The byte is one chunk, since the next one would start behind it.
    have hchunks : chunks=1 := by
      unfold chunkStart at hlen
      by_contra hne
      have hlater := (hdone 1 (by omega)).1
      unfold chunkStart at hlater
      omega
    exact ⟨rfl,by rw [hchunks],heffect⟩
  | broken stored hlen hfailed =>
    have hchunks : chunks=0 := by
      unfold chunkStart at hlen
      omega
    rw [hchunks,Nat.add_zero,hout] at hfailed
    cases hfailed

/-- A first read that fails ends the self test before it writes. -/
theorem eepromInit_firstFailed {outcomes : Outcomes} {bus : I2cBus} {stored : ℕ}
    (hout : outcomes bus.transfers=.failed stored) :
    eepromInit outcomes bus=(.i2cError,⟨bus.memory,bus.transfers+1⟩) := by
  rw [eepromInit,eepromReadBytes_failed outcomes bus firstByte_fits hout]
  rfl

/-- The byte that `EEPROM_Init` writes over an original one. -/
def testByteOf (original : UInt8) : UInt8 := if original=0xAA then 0x55 else 0xAA

/-- The test byte differs from the byte it replaces. -/
theorem testByteOf_ne (original : UInt8) : testByteOf original≠original := by
  unfold testByteOf
  split
  next h => rw [h]; decide
  next h => exact fun heq => h heq.symm

/-- Steps 4 and 5 of `EEPROM_Init`: the test byte is read back, and the original restored. -/
def verifyAndRestore (outcomes : Outcomes) (bus : I2cBus) (testByte originalByte : UInt8) :
    EepromStatus×I2cBus :=
  let verify := eepromReadBytes outcomes bus 0 1
  if verify.1≠.ok then (.i2cError,verify.2.2) else
  if verify.2.1.headD 0≠testByte then (.i2cError,verify.2.2) else
  let restored := eepromWriteBytes outcomes verify.2.2 0 (fun _ => originalByte) 1
  if restored.1≠.ok then (.i2cError,restored.2) else (.ok,restored.2)

/-- A first read and a first write that succeed lead to the verification, with the test byte
in the first cell. -/
theorem eepromInit_inverted (outcomes : Outcomes) (bus : I2cBus)
    (hout : outcomes bus.transfers=.success) (hwrite : outcomes (bus.transfers+1)=.success) :
    ∃ inverted : I2cBus, inverted.transfers=bus.transfers+2 ∧
      AgreeBelow 4096 (flat inverted.memory)
        (overlay (flat bus.memory) 0 1 (fun _ => testByteOf (flat bus.memory 0))) ∧
      eepromInit outcomes bus=
        verifyAndRestore outcomes inverted (testByteOf (flat bus.memory 0)) (flat bus.memory 0) := by
  have hread := eepromReadBytes_success outcomes bus firstByte_fits hout
  have hbyte : (List.range (1 : UInt16).toNat).map
      (fun i => flat bus.memory ((0 : UInt16).toNat+i))=[flat bus.memory 0] := rfl
  rw [hbyte] at hread
  obtain ⟨hok,htransfers,heffect⟩ := writeByte_success ⟨bus.memory,bus.transfers+1⟩ hwrite
    (testByteOf (flat bus.memory 0))
  refine ⟨_,htransfers,heffect,?_⟩
  unfold eepromInit verifyAndRestore
  simp only [hread,List.headD_cons,ne_eq,not_true_eq_false,if_false]
  change (if ¬(eepromWriteBytes outcomes ⟨bus.memory,bus.transfers+1⟩ 0
    (fun _ => testByteOf (flat bus.memory 0)) 1).1=.ok then _ else _)=_
  rw [if_neg (not_not_intro hok)]
  rfl

/-- A verification that fails ends the self test as the EEPROM stands. -/
theorem verifyAndRestore_failed {outcomes : Outcomes} {bus : I2cBus} {stored : ℕ}
    (hout : outcomes bus.transfers=.failed stored) (testByte originalByte : UInt8) :
    verifyAndRestore outcomes bus testByte originalByte=(.i2cError,⟨bus.memory,bus.transfers+1⟩) := by
  rw [verifyAndRestore,eepromReadBytes_failed outcomes bus firstByte_fits hout]
  rfl

/-- A verification that reads the test byte back leads to the restoration. -/
theorem verifyAndRestore_success {outcomes : Outcomes} {bus : I2cBus}
    (hout : outcomes bus.transfers=.success) (hrestore : outcomes (bus.transfers+1)=.success)
    (originalByte : UInt8) :
    (verifyAndRestore outcomes bus (flat bus.memory 0) originalByte).1=.ok ∧
      AgreeBelow 4096 (flat (verifyAndRestore outcomes bus (flat bus.memory 0) originalByte).2.memory)
        (overlay (flat bus.memory) 0 1 (fun _ => originalByte)) := by
  have hread := eepromReadBytes_success outcomes bus firstByte_fits hout
  have hbyte : (List.range (1 : UInt16).toNat).map
      (fun i => flat bus.memory ((0 : UInt16).toNat+i))=[flat bus.memory 0] := rfl
  rw [hbyte] at hread
  obtain ⟨hok,-,heffect⟩ := writeByte_success ⟨bus.memory,bus.transfers+1⟩ hrestore originalByte
  unfold verifyAndRestore
  simp only [hread,List.headD_cons,ne_eq,not_true_eq_false,if_false,hok]
  exact ⟨trivial,heffect⟩

/-- With writes that succeed, the self test leaves the log untouched and reports the failed
reads exactly when its first read fails or its verification does not. -/
theorem leavesUntouched_iff (outcomes : Outcomes) (bus : I2cBus)
    (hwrites : WritesSucceed outcomes bus.transfers) :
    LeavesUntouched outcomes bus ↔
      outcomes bus.transfers≠.success ∨ outcomes (bus.transfers+2)=.success := by
  unfold LeavesUntouched NoReadFailed
  cases hfirst : outcomes bus.transfers with
  | failed stored =>
    rw [eepromInit_firstFailed hfirst]
    simp
  | success =>
    obtain ⟨hwrite,hrestore⟩ := hwrites hfirst
    obtain ⟨inverted,htransfers,heffect,heq⟩ := eepromInit_inverted outcomes bus hfirst hwrite
    have htest : flat inverted.memory 0=testByteOf (flat bus.memory 0) := by
      rw [heffect 0 (by omega),overlay_inside (by omega) (by omega)]
    cases hverify : outcomes (bus.transfers+2) with
    | failed stored =>
      -- The test byte stays in the first cell.
      rw [heq,verifyAndRestore_failed (by rw [htransfers]; exact hverify)]
      have hchanged : inverted.memory≠bus.memory := by
        intro hmemory
        rw [hmemory] at htest
        exact testByteOf_ne _ htest.symm
      simp [hchanged]
    | success =>
      obtain ⟨hok,hrestored⟩ := verifyAndRestore_success
        (by rw [htransfers]; exact hverify) (by rw [htransfers]; exact hrestore hverify)
        (flat bus.memory 0)
      rw [htest,←heq] at hok hrestored
      have hmemory : (eepromInit outcomes bus).2.memory=bus.memory := by
        refine eq_of_agreeBelow fun a ha => ?_
        rw [hrestored a ha]
        rcases Nat.eq_zero_or_pos a with rfl|hpos
        · rw [overlay_inside (by omega) (by omega)]
        · rw [overlay_outside (by omega),heffect a ha,overlay_outside (by omega)]
      simp [hmemory,hok]

/-- An EEPROM before its first transfer, with 0 in every cell. -/
def blankBus : I2cBus := ⟨fun _ _ => 0,0⟩

/-- Only the verification fails. -/
def verificationFails : Outcomes := fun t => if t=2 then .failed 0 else .success

/-- The log is untouched when all four transfers of the self test succeed. -/
theorem leavesUntouched_succeeds : WritesSucceed (fun _ => .success) blankBus.transfers ∧
    LeavesUntouched (fun _ => .success) blankBus := by
  have hwrites : WritesSucceed (fun _ => .success) blankBus.transfers :=
    fun _ => ⟨rfl,fun _ => rfl⟩
  exact ⟨hwrites,(leavesUntouched_iff _ _ hwrites).mpr (Or.inr rfl)⟩

/-- A verification that fails leaves 0xAA in the first byte of the log. -/
theorem verification_corrupts : WritesSucceed verificationFails blankBus.transfers ∧
    flat blankBus.memory 0=0 ∧ flat (eepromInit verificationFails blankBus).2.memory 0=0xAA ∧
      ¬LeavesUntouched verificationFails blankBus := by
  have hcell : flat (eepromInit verificationFails blankBus).2.memory 0=0xAA := by
    obtain ⟨inverted,htransfers,heffect,heq⟩ :=
      eepromInit_inverted verificationFails blankBus rfl rfl
    have hverify : verificationFails inverted.transfers=.failed 0 := by
      rw [htransfers]
      rfl
    rw [heq,verifyAndRestore_failed hverify,heffect 0 (by omega)]
    rfl
  refine ⟨fun _ => ⟨rfl,fun h => rfl⟩,rfl,hcell,fun h => ?_⟩
  rw [h.1] at hcell
  exact absurd hcell (by decide)

end WebDataLogger.EepromSelfTest
