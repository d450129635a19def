import WebDataLogger.EepromDriver

/-!
# The calibration of the pressure and humidity sensor

`BMP280_Init` reads the trimming parameters from two blocks of registers and assembles
them in its handle. All of them come out as they are stored but for the two of twelve
bits, which are not extended by their sign.
-/

namespace WebDataLogger.SensorCalibration

open EepromDriver

/-- `bmp280_handle_t`. -/
structure Bmp280Handle where
  digT1 : UInt16
  digT2 : Int16
  digT3 : Int16
  digP1 : UInt16
  digP2 : Int16
  digP3 : Int16
  digP4 : Int16
  digP5 : Int16
  digP6 : Int16
  digP7 : Int16
  digP8 : Int16
  digP9 : Int16
  digH1 : UInt8
  digH2 : Int16
  digH3 : UInt8
  digH4 : Int16
  digH5 : Int16
  digH6 : Int8
  tFine : Int32
  isBME280 : Bool
  deriving DecidableEq

/-- `bmp280_status_t`. -/
inductive Bmp280Status where
  | ok
  | i2cError
  | unknownChipId
  deriving DecidableEq

/-- What the registers hold after some writes. How the sensor takes a write is left open. -/
abbrev Registers := List (UInt8×UInt8) → UInt8 → UInt8

/-- The bytes written to the sensor so far and the transfers started on its bus. -/
structure SensorBus where
  writes : List (UInt8×UInt8)
  transfers : ℕ

/-- The registers from an address on, which the sensor counts up by itself. -/
def readRange (registers : Registers) (writes : List (UInt8×UInt8)) (reg : UInt8) (len : ℕ) :
    List UInt8 :=
  (List.range len).map (fun i => registers writes (reg+i.toUInt8))

/-- `BMP280_WriteReg`. A transfer that fails may have reached the register. -/
def bmp280WriteReg (outcomes : Outcomes) (bus : SensorBus) (reg val : UInt8) : Status×SensorBus :=
  match outcomes bus.transfers with
  | .success => (.success,⟨bus.writes++[(reg,val)],bus.transfers+1⟩)
  | .failed 0 => (.fail,⟨bus.writes,bus.transfers+1⟩)
  | .failed _ => (.fail,⟨bus.writes++[(reg,val)],bus.transfers+1⟩)

/-- `BMP280_ReadRegs`. -/
def bmp280ReadRegs (outcomes : Outcomes) (registers : Registers) (bus : SensorBus) (reg : UInt8)
    (len : ℕ) : Status×List UInt8×SensorBus :=
  match outcomes bus.transfers with
  | .success => (.success,readRange registers bus.writes reg len,⟨bus.writes,bus.transfers+1⟩)
  | .failed _ => (.fail,[],⟨bus.writes,bus.transfers+1⟩)

/-- `calib[i]|(calib[i+1]<<8)`. -/
def pairAt (calib : List UInt8) (i : ℕ) : UInt32 :=
  (calib.getD i 0).toUInt32|||((calib.getD (i+1) 0).toUInt32<<<8)

/-- The temperature and pressure parameters from the 26 bytes of `calib`. -/
def loadCalib (handle : Bmp280Handle) (calib : List UInt8) : Bmp280Handle :=
  {handle with
    digT1 := (pairAt calib 0).toUInt16
    digT2 := (pairAt calib 2).toUInt16.toInt16
    digT3 := (pairAt calib 4).toUInt16.toInt16
    digP1 := (pairAt calib 6).toUInt16
    digP2 := (pairAt calib 8).toUInt16.toInt16
    digP3 := (pairAt calib 10).toUInt16.toInt16
    digP4 := (pairAt calib 12).toUInt16.toInt16
    digP5 := (pairAt calib 14).toUInt16.toInt16
    digP6 := (pairAt calib 16).toUInt16.toInt16
    digP7 := (pairAt calib 18).toUInt16.toInt16
    digP8 := (pairAt calib 20).toUInt16.toInt16
    digP9 := (pairAt calib 22).toUInt16.toInt16}

/-- The humidity parameters from the 7 bytes of `calibH`. -/
def loadCalibH (handle : Bmp280Handle) (calibH : List UInt8) : Bmp280Handle :=
  {handle with
    digH2 := (pairAt calibH 0).toUInt16.toInt16
    digH3 := calibH.getD 2 0
    digH4 := (((calibH.getD 3 0).toUInt32<<<4)|||((calibH.getD 4 0).toUInt32&&&0x0F)).toUInt16.toInt16
    digH5 := (((calibH.getD 5 0).toUInt32<<<4)|||((calibH.getD 4 0).toUInt32>>>4)).toUInt16.toInt16
    digH6 := (calibH.getD 6 0).toInt8}

/-- The end of `BMP280_Init`: `ctrl_meas` is written, whatever becomes of it. -/
def startMeasuring (outcomes : Outcomes) (bus : SensorBus) (handle : Bmp280Handle) :
    Bmp280Status×Bmp280Handle×SensorBus :=
  (.ok,handle,(bmp280WriteReg outcomes bus 0xF4 0x25).2)

/-- The part of `BMP280_Init` for a sensor with humidity. -/
def initHumidity (outcomes : Outcomes) (registers : Registers) (bus : SensorBus)
    (handle : Bmp280Handle) : Bmp280Status×Bmp280Handle×SensorBus :=
  let digH1 := bmp280ReadRegs outcomes registers bus 0xA1 1
  if digH1.1≠.success then (.i2cError,handle,digH1.2.2) else
  let handle := {handle with digH1 := digH1.2.1.getD 0 0}
  let calibH := bmp280ReadRegs outcomes registers digH1.2.2 0xE1 7
  if calibH.1≠.success then (.i2cError,handle,calibH.2.2) else
  startMeasuring outcomes (bmp280WriteReg outcomes calibH.2.2 0xF2 0x01).2
    (loadCalibH handle calibH.2.1)

/-- `BMP280_Init`. The soft reset is written, whatever becomes of it. -/
def bmp280Init (outcomes : Outcomes) (registers : Registers) (bus : SensorBus)
    (handle : Bmp280Handle) : Bmp280Status×Bmp280Handle×SensorBus :=
  let chip := bmp280ReadRegs outcomes registers bus 0xD0 1
  if chip.1≠.success then (.i2cError,handle,chip.2.2) else
  let chipId := chip.2.1.getD 0 0
  if chipId≠0x58 ∧ chipId≠0x60 then (.unknownChipId,handle,chip.2.2) else
  let handle := {handle with isBME280 := chipId == 0x60}
  let reset := bmp280WriteReg outcomes chip.2.2 0xE0 0xB6
  let calib := bmp280ReadRegs outcomes registers reset.2 0x88 26
  if calib.1≠.success then (.i2cError,handle,calib.2.2) else
  let handle := loadCalib handle calib.2.1
  if handle.isBME280 then initHumidity outcomes registers calib.2.2 handle
  else startMeasuring outcomes calib.2.2 handle

/-- A set of trimming parameters. Those of twelve bits are in two's complement. -/
structure Trim where
  digT1 : UInt16
  digT2 : Int16
  digT3 : Int16
  digP1 : UInt16
  digP2 : Int16
  digP3 : Int16
  digP4 : Int16
  digP5 : Int16
  digP6 : Int16
  digP7 : Int16
  digP8 : Int16
  digP9 : Int16
  digH1 : UInt8
  digH2 : Int16
  digH3 : UInt8
  digH4 : BitVec 12
  digH5 : BitVec 12
  digH6 : Int8

/-- The two bytes of a word, the low one first. -/
def littleEndian (v : UInt16) : List UInt8 := [v.toUInt8,(v>>>8).toUInt8]

/-- Registers 0x88 to 0xA1. The register 0xA0 is reserved. -/
def Trim.calibBlock (trim : Trim) (reserved : UInt8) : List UInt8 :=
  littleEndian trim.digT1++littleEndian trim.digT2.toUInt16++littleEndian trim.digT3.toUInt16++
    littleEndian trim.digP1++littleEndian trim.digP2.toUInt16++littleEndian trim.digP3.toUInt16++
    littleEndian trim.digP4.toUInt16++littleEndian trim.digP5.toUInt16++
    littleEndian trim.digP6.toUInt16++littleEndian trim.digP7.toUInt16++
    littleEndian trim.digP8.toUInt16++littleEndian trim.digP9.toUInt16++[reserved,trim.digH1]

/-- Registers 0xE1 to 0xE7. The register 0xE5 holds the low bits of both `digH4` and `digH5`. -/
def Trim.humidityBlock (trim : Trim) : List UInt8 :=
  littleEndian trim.digH2.toUInt16++[trim.digH3,UInt8.ofBitVec (trim.digH4.extractLsb' 4 8),
    UInt8.ofBitVec (trim.digH5.extractLsb' 0 4++trim.digH4.extractLsb' 0 4),
    UInt8.ofBitVec (trim.digH5.extractLsb' 4 8),trim.digH6.toUInt8]

/-- A sensor with humidity that holds the parameters, whatever is written to it. -/
structure Stores (registers : Registers) (trim : Trim) : Prop where
  chipId : ∀ writes, registers writes 0xD0=0x60
  calib : ∀ writes, ∃ reserved, readRange registers writes 0x88 26=trim.calibBlock reserved
  calibH : ∀ writes, readRange registers writes 0xE1 7=trim.humidityBlock

/-- The parameters of the handle are those of the sensor. -/
structure Carries (handle : Bmp280Handle) (trim : Trim) : Prop where
  digT1 : handle.digT1=trim.digT1
  digT2 : handle.digT2=trim.digT2
  digT3 : handle.digT3=trim.digT3
  digP1 : handle.digP1=trim.digP1
  digP2 : handle.digP2=trim.digP2
  digP3 : handle.digP3=trim.digP3
  digP4 : handle.digP4=trim.digP4
  digP5 : handle.digP5=trim.digP5
  digP6 : handle.digP6=trim.digP6
  digP7 : handle.digP7=trim.digP7
  digP8 : handle.digP8=trim.digP8
  digP9 : handle.digP9=trim.digP9
  digH1 : handle.digH1=trim.digH1
  digH2 : handle.digH2=trim.digH2
  digH3 : handle.digH3=trim.digH3
  digH4 : handle.digH4.toInt=trim.digH4.toInt
  digH5 : handle.digH5.toInt=trim.digH5.toInt
  digH6 : handle.digH6=trim.digH6

/-- The handle that the driver fills: the parameters of twelve bits are extended by zeros. -/
def Trim.loaded (trim : Trim) (handle : Bmp280Handle) : Bmp280Handle :=
  ⟨trim.digT1,trim.digT2,trim.digT3,trim.digP1,trim.digP2,trim.digP3,trim.digP4,trim.digP5,
    trim.digP6,trim.digP7,trim.digP8,trim.digP9,trim.digH1,trim.digH2,trim.digH3,
    Int16.ofBitVec (trim.digH4.setWidth 16),Int16.ofBitVec (trim.digH5.setWidth 16),trim.digH6,
    handle.tFine,true⟩

/-- A word comes out of its two bytes. -/
theorem pair_littleEndian (v : UInt16) :
    (v.toUInt8.toUInt32|||((v>>>8).toUInt8.toUInt32<<<8)).toUInt16=v := by
  have hlt := v.toNat_lt
  have hhigh : v.toNat>>>8=v.toNat/256 := Nat.shiftRight_eq_div_pow _ 8
  rw [←UInt16.toNat_inj]
  simp only [UInt32.toNat_toUInt16,UInt32.toNat_or,UInt32.toNat_shiftLeft,UInt8.toNat_toUInt32,
    UInt16.toNat_toUInt8,UInt16.toNat_shiftRight]
  change (v.toNat%256|||((v.toNat>>>8%256)<<<8)%2^32)%65536=v.toNat
  have hsmall : (v.toNat/256%256)<<<8%2^32=(v.toNat/256)<<<8 := by
    rw [Nat.shiftLeft_eq,Nat.shiftLeft_eq]
    omega
  rw [hhigh,hsmall,Nat.or_comm,shiftLeft_or _ (show v.toNat%256<2^8 by omega)]
  omega

/-- A parameter of twelve bits is assembled from its high byte and its low bits. -/
theorem nibble_assembled (v : BitVec 12) {low : UInt32} (hlow : low.toNat=v.toNat%16) :
    (((UInt8.ofBitVec (v.extractLsb' 4 8)).toUInt32<<<4)|||low).toUInt16.toInt16=
      Int16.ofBitVec (v.setWidth 16) := by
  have hlt := v.isLt
  have hhigh : (UInt8.ofBitVec (v.extractLsb' 4 8)).toNat=v.toNat/16 := by
    change (v.extractLsb' 4 8).toNat=_
    rw [BitVec.extractLsb'_toNat,Nat.shiftRight_eq_div_pow]
    omega
  have hword : (((UInt8.ofBitVec (v.extractLsb' 4 8)).toUInt32<<<4)|||low).toUInt16=
      UInt16.ofBitVec (v.setWidth 16) := by
    rw [←UInt16.toNat_inj,UInt32.toNat_toUInt16,UInt32.toNat_or,UInt32.toNat_shiftLeft,
      UInt8.toNat_toUInt32,hhigh,hlow]
    change ((v.toNat/16)<<<4%2^32|||v.toNat%16)%65536=(v.setWidth 16).toNat
    rw [BitVec.toNat_setWidth,Nat.mod_eq_of_lt (show (v.toNat/16)<<<4<2^32 by
      rw [Nat.shiftLeft_eq]; omega),shiftLeft_or _ (show v.toNat%16<2^4 by omega)]
    omega
  rw [hword]
  rfl

/-- The shared register holds the low bits of `digH4` in its low half and those of `digH5` in
its high half. -/
theorem shared_nibbles (h4 h5 : BitVec 12) :
    ((UInt8.ofBitVec (h5.extractLsb' 0 4++h4.extractLsb' 0 4)).toUInt32&&&0x0F).toNat=h4.toNat%16 ∧
      ((UInt8.ofBitVec (h5.extractLsb' 0 4++h4.extractLsb' 0 4)).toUInt32>>>4).toNat=
        h5.toNat%16 := by
  have hshared : (UInt8.ofBitVec (h5.extractLsb' 0 4++h4.extractLsb' 0 4)).toNat=
      h5.toNat%16*16+h4.toNat%16 := by
    change (h5.extractLsb' 0 4++h4.extractLsb' 0 4).toNat=_
    rw [BitVec.toNat_append,BitVec.extractLsb'_toNat,BitVec.extractLsb'_toNat]
    exact shiftLeft_or _ (Nat.mod_lt _ (by decide))
  constructor
  · rw [UInt32.toNat_and,UInt8.toNat_toUInt32,hshared]
    change _&&&15=_
    rw [show (15 : ℕ)=2^4-1 from rfl,Nat.and_two_pow_sub_one_eq_mod]
    omega
  · rw [UInt32.toNat_shiftRight,UInt8.toNat_toUInt32,hshared]
    change _>>>4=_
    rw [Nat.shiftRight_eq_div_pow]
    omega

/-- Extension by zeros keeps exactly the values that are not negative. -/
theorem setWidth_toInt_iff (v : BitVec 12) :
    (Int16.ofBitVec (v.setWidth 16)).toInt=v.toInt ↔ 0≤v.toInt := by
  have hlt := v.isLt
  change (v.setWidth 16).toInt=v.toInt ↔ _
  rw [BitVec.toInt_eq_toNat_cond,BitVec.toInt_eq_toNat_cond,BitVec.toNat_setWidth,
    Nat.mod_eq_of_lt (show v.toNat<2^16 by omega)]
  split <;> split <;> omega

/-- The temperature and pressure parameters are read as they are stored. -/
theorem loadCalib_block (trim : Trim) (reserved : UInt8) (handle : Bmp280Handle) :
    loadCalib handle (trim.calibBlock reserved)=
      ⟨trim.digT1,trim.digT2,trim.digT3,trim.digP1,trim.digP2,trim.digP3,trim.digP4,trim.digP5,
        trim.digP6,trim.digP7,trim.digP8,trim.digP9,handle.digH1,handle.digH2,handle.digH3,
        handle.digH4,handle.digH5,handle.digH6,handle.tFine,handle.isBME280⟩ := by
  simp only [loadCalib,pairAt,Trim.calibBlock,littleEndian,List.cons_append,List.nil_append,
    List.getD_cons_zero,List.getD_cons_succ,Nat.reduceAdd,pair_littleEndian,
    Int16.toInt16_toUInt16]

/-- The humidity parameters are read as they are stored, but for the signs of `digH4` and
`digH5`. -/
theorem loadCalibH_block (trim : Trim) (handle : Bmp280Handle) :
    loadCalibH handle trim.humidityBlock={handle with
      digH2 := trim.digH2
      digH3 := trim.digH3
      digH4 := Int16.ofBitVec (trim.digH4.setWidth 16)
      digH5 := Int16.ofBitVec (trim.digH5.setWidth 16)
      digH6 := trim.digH6} := by
  obtain ⟨hlow,hhigh⟩ := shared_nibbles trim.digH4 trim.digH5
  have hh4 := nibble_assembled trim.digH4 hlow
  have hh5 := nibble_assembled trim.digH5 hhigh
  simp only [loadCalibH,pairAt,Trim.humidityBlock,littleEndian,List.cons_append,List.nil_append,
    List.getD_cons_zero,List.getD_cons_succ,Nat.reduceAdd,pair_littleEndian,
    Int16.toInt16_toUInt16,Int8.toInt8_toUInt8,hh4,hh5]

/-- A read transfer that succeeds. -/
theorem bmp280ReadRegs_success {outcomes : Outcomes} {bus : SensorBus}
    (hout : outcomes bus.transfers=.success) (registers : Registers) (reg : UInt8) (len : ℕ) :
    bmp280ReadRegs outcomes registers bus reg len=
      (.success,readRange registers bus.writes reg len,⟨bus.writes,bus.transfers+1⟩) := by
  rw [bmp280ReadRegs,hout]

/-- A write transfer that succeeds. -/
theorem bmp280WriteReg_success {outcomes : Outcomes} {bus : SensorBus}
    (hout : outcomes bus.transfers=.success) (reg val : UInt8) :
    bmp280WriteReg outcomes bus reg val=(.success,⟨bus.writes++[(reg,val)],bus.transfers+1⟩) := by
  rw [bmp280WriteReg,hout]

/-- The single register read first and last of the calibration block. -/
theorem readRange_one (registers : Registers) (writes : List (UInt8×UInt8)) (reg : UInt8) :
    readRange registers writes reg 1=[registers writes reg] := by
  rw [readRange,List.range_one,List.map_singleton]
  exact congrArg (fun r => [registers writes r]) (UInt8.add_zero reg)

/-- The registers of a range that is read. -/
theorem readRange_getD (registers : Registers) (writes : List (UInt8×UInt8)) (reg : UInt8)
    {len i : ℕ} (hi : i<len) :
    (readRange registers writes reg len).getD i 0=registers writes (reg+i.toUInt8) := by
  rw [readRange,List.getD_eq_getElem?_getD,List.getElem?_map,List.getElem?_range hi,
    Option.map_some,Option.getD_some]

/-- The blocks have the sizes that the driver reads. -/
theorem Trim.block_length (trim : Trim) (reserved : UInt8) :
    (trim.calibBlock reserved).length=26 ∧ trim.humidityBlock.length=7 := by
  simp [Trim.calibBlock,Trim.humidityBlock,littleEndian]

/-- `digH1` is the last register of the first block. -/
theorem Stores.digH1 {registers : Registers} {trim : Trim} (h : Stores registers trim)
    (writes : List (UInt8×UInt8)) : registers writes 0xA1=trim.digH1 := by
  obtain ⟨reserved,hblock⟩ := h.calib writes
  have hlast : (trim.calibBlock reserved).getD 25 0=trim.digH1 := by
    simp only [Trim.calibBlock,littleEndian,List.cons_append,List.nil_append,
      List.getD_cons_succ,List.getD_cons_zero]
  have hread := readRange_getD registers writes 0x88 (show 25<26 by decide)
  rw [hblock,hlast] at hread
  exact hread.symm

/-- The part for a sensor with humidity fills the rest of the handle. -/
theorem initHumidity_loaded {outcomes : Outcomes} {registers : Registers} {trim : Trim}
    {bus : SensorBus} (handle : Bmp280Handle) (hfirst : outcomes bus.transfers=.success)
    (hsecond : outcomes (bus.transfers+1)=.success) (hstores : Stores registers trim) :
    (initHumidity outcomes registers bus handle).1=.ok ∧
      (initHumidity outcomes registers bus handle).2.1={handle with
        digH1 := trim.digH1
        digH2 := trim.digH2
        digH3 := trim.digH3
        digH4 := Int16.ofBitVec (trim.digH4.setWidth 16)
        digH5 := Int16.ofBitVec (trim.digH5.setWidth 16)
        digH6 := trim.digH6} := by
  have hh1 := bmp280ReadRegs_success hfirst registers 0xA1 1
  rw [readRange_one,hstores.digH1] at hh1
  have hblock : bmp280ReadRegs outcomes registers ⟨bus.writes,bus.transfers+1⟩ 0xE1 7=
      (.success,trim.humidityBlock,⟨bus.writes,bus.transfers+1+1⟩) := by
    rw [bmp280ReadRegs_success hsecond,hstores.calibH]
  unfold initHumidity
  simp only [hh1,hblock,ne_eq,not_true_eq_false,if_false,List.getD_cons_zero,startMeasuring,
    loadCalibH_block]
  exact ⟨trivial,trivial⟩

/-- When all transfers succeed, the handle of a sensor with humidity is filled. -/
theorem bmp280Init_loaded {outcomes : Outcomes} {registers : Registers} {trim : Trim}
    {bus : SensorBus} (handle : Bmp280Handle)
    (hsuccess : ∀ k<7, outcomes (bus.transfers+k)=.success) (hstores : Stores registers trim) :
    (bmp280Init outcomes registers bus handle).1=.ok ∧
      (bmp280Init outcomes registers bus handle).2.1=trim.loaded handle := by
  have hchip := bmp280ReadRegs_success (hsuccess 0 (by decide)) registers 0xD0 1
  rw [readRange_one,hstores.chipId] at hchip
  obtain ⟨writes,hreset⟩ : ∃ writes, (bmp280WriteReg outcomes
      ⟨bus.writes,bus.transfers+1⟩ 0xE0 0xB6).2=⟨writes,bus.transfers+2⟩ :=
    ⟨_,congrArg Prod.snd (bmp280WriteReg_success (hsuccess 1 (by decide)) 0xE0 0xB6)⟩
  obtain ⟨reserved,hblock⟩ := hstores.calib writes
  have hcalib : bmp280ReadRegs outcomes registers ⟨writes,bus.transfers+2⟩ 0x88 26=
      (.success,trim.calibBlock reserved,⟨writes,bus.transfers+3⟩) := by
    rw [bmp280ReadRegs_success (hsuccess 2 (by decide)),hblock]
  have hid : ¬((0x60 : UInt8)≠0x58 ∧ (0x60 : UInt8)≠0x60) := by decide
  unfold bmp280Init
  simp only [hchip,ne_eq,not_true_eq_false,if_false,List.getD_cons_zero,hreset,hcalib,
    loadCalib_block]
  exact initHumidity_loaded _ (hsuccess 3 (by decide)) (hsuccess 4 (by decide)) hstores

/-- A sensor that holds the parameters in the registers that the driver reads. -/
def sensorOf (trim : Trim) : Registers := fun _ reg =>
  if reg=0xD0 then 0x60
  else if reg<0xE1 then (trim.calibBlock 0).getD (reg-0x88).toNat 0
  else trim.humidityBlock.getD (reg-0xE1).toNat 0

/-- A block of registers is read byte by byte. -/
theorem readRange_block {registers : Registers} {writes : List (UInt8×UInt8)} {reg : UInt8}
    {len : ℕ} {block : List UInt8} (hlength : block.length=len)
    (h : ∀ i<len, registers writes (reg+i.toUInt8)=block.getD i 0) :
    readRange registers writes reg len=block := by
  refine List.ext_getElem (by simp [readRange,hlength]) fun i hread hblock => ?_
  simp only [readRange,List.getElem_map,List.getElem_range]
  rw [h i (hlength▸hblock),List.getD_eq_getElem?_getD,List.getElem?_eq_getElem hblock,
    Option.getD_some]

/-- Every set of parameters can be stored. -/
theorem stores_sensorOf (trim : Trim) : Stores (sensorOf trim) trim := by
  have hcalib : ∀ i : Fin 26, 0x88+i.val.toUInt8≠0xD0 ∧ 0x88+i.val.toUInt8<0xE1 ∧
      (0x88+i.val.toUInt8-0x88).toNat=i.val := by decide
  have hcalibH : ∀ i : Fin 7, 0xE1+i.val.toUInt8≠0xD0 ∧ ¬0xE1+i.val.toUInt8<0xE1 ∧
      (0xE1+i.val.toUInt8-0xE1).toNat=i.val := by decide
  obtain ⟨hlength,hlengthH⟩ := trim.block_length 0
  refine ⟨fun _ => rfl,fun writes => ⟨0,readRange_block hlength fun i hi => ?_⟩,
    fun writes => readRange_block hlengthH fun i hi => ?_⟩
  · obtain ⟨hne,hlt,hindex⟩ := hcalib ⟨i,hi⟩
    rw [sensorOf,if_neg hne,if_pos hlt,hindex]
  · obtain ⟨hne,hlt,hindex⟩ := hcalibH ⟨i,hi⟩
    rw [sensorOf,if_neg hne,if_neg hlt,hindex]

/-- With all transfers of a sensor with humidity successful, the handle carries the
parameters exactly when neither of the two of twelve bits is negative. -/
theorem bmp280Init_carries_iff {outcomes : Outcomes} {registers : Registers} {trim : Trim}
    {bus : SensorBus} (handle : Bmp280Handle)
    (hsuccess : ∀ k<7, outcomes (bus.transfers+k)=.success) (hstores : Stores registers trim) :
    ((bmp280Init outcomes registers bus handle).1=.ok ∧
      Carries (bmp280Init outcomes registers bus handle).2.1 trim) ↔
        0≤trim.digH4.toInt ∧ 0≤trim.digH5.toInt := by
  obtain ⟨hok,hloaded⟩ := bmp280Init_loaded handle hsuccess hstores
  rw [hok,hloaded]
  constructor
  · rintro ⟨-,h⟩
    exact ⟨(setWidth_toInt_iff _).mp h.digH4,(setWidth_toInt_iff _).mp h.digH5⟩
  · rintro ⟨hh4,hh5⟩
    exact ⟨rfl,⟨rfl,rfl,rfl,rfl,rfl,rfl,rfl,rfl,rfl,rfl,rfl,rfl,rfl,rfl,rfl,
      (setWidth_toInt_iff _).mpr hh4,(setWidth_toInt_iff _).mpr hh5,rfl⟩⟩

/-- The parameters of a sensor whose `digH4` and `digH5` are 313 and 50. -/
def dampTrim : Trim :=
  ⟨28485,26735,50,36738,-10635,3024,6980,-4,-7,9900,-10230,4285,75,362,0,313,50,30⟩

/-- The same with a `digH4` of -1. -/
def dryTrim : Trim := {dampTrim with digH4 := -1}

/-- An empty handle. -/
def emptyHandle : Bmp280Handle := ⟨0,0,0,0,0,0,0,0,0,0,0,0,0,0,0,0,0,0,0,false⟩

/-- A bus on which nothing has been transferred. -/
def idleBus : SensorBus := ⟨[],0⟩

/-- All transfers succeed. -/
def allSucceed : Outcomes := fun _ => .success

/-- Parameters that are not negative are carried. -/
theorem dampTrim_carried :
    (bmp280Init allSucceed (sensorOf dampTrim) idleBus emptyHandle).1=.ok ∧
      Carries (bmp280Init allSucceed (sensorOf dampTrim) idleBus emptyHandle).2.1 dampTrim :=
  (bmp280Init_carries_iff emptyHandle (fun _ _ => rfl) (stores_sensorOf dampTrim)).mpr
    ⟨by decide,by decide⟩

/-- A `digH4` of -1 is loaded as 4095. -/
theorem dryTrim_lost : Stores (sensorOf dryTrim) dryTrim ∧ dryTrim.digH4.toInt= -1 ∧
    (bmp280Init allSucceed (sensorOf dryTrim) idleBus emptyHandle).1=.ok ∧
      (bmp280Init allSucceed (sensorOf dryTrim) idleBus emptyHandle).2.1.digH4.toInt=4095 ∧
        ¬Carries (bmp280Init allSucceed (sensorOf dryTrim) idleBus emptyHandle).2.1 dryTrim := by
  have hstores := stores_sensorOf dryTrim
  have hsuccess : ∀ k<7, allSucceed (idleBus.transfers+k)=.success := fun _ _ => rfl
  obtain ⟨hok,hloaded⟩ := bmp280Init_loaded emptyHandle hsuccess hstores
  have hh4 : (dryTrim.loaded emptyHandle).digH4.toInt=4095 := by decide
  refine ⟨hstores,by decide,hok,by rw [hloaded]; exact hh4,fun h => ?_⟩
  have hcarried := h.digH4
  rw [hloaded,hh4] at hcarried
  exact absurd hcarried (by decide)

end WebDataLogger.SensorCalibration
