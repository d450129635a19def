import WebDataLogger.FlatStore

/-!
# The AT24C32 and its page-splitting driver

The EEPROM is 128 pages of 32 bytes. The driver cuts a block into chunks that
end at page boundaries and starts one I2C transfer for each. The outcome of
every transfer is left open: it succeeds, or it fails after the device stored
some first bytes of the chunk. Seen from above, the driver writes a flat array
of 4096 bytes.
-/

namespace WebDataLogger.EepromDriver

open FlatStore

/-- The device has pages. -/
instance devicePages_neZero : NeZero 128 := ⟨by decide⟩

/-- A page has cells. -/
instance pageSize_neZero : NeZero 32 := ⟨by decide⟩

/-- Cells of the AT24C32: 128 pages of `EEPROM_PAGE_SIZE` bytes. -/
abbrev At24c32 := Paged 128 32 UInt8

/-- What `LPI2C_MasterTransferBlocking` does on the bus. -/
inductive TransferOutcome where
  /-- The whole transfer was acknowledged. -/
  | success
  /-- The transfer broke off after the device stored this many bytes. -/
  | failed (stored : ℕ)
  deriving DecidableEq

/-- Only `kStatus_Success` is told apart by the callers. -/
inductive Status where
  | success
  | fail
  deriving DecidableEq

/-- `eeprom_status_t`. -/
inductive EepromStatus where
  | ok
  | i2cError
  | invalidAddress
  | lengthOverflow
  deriving DecidableEq

/-- The EEPROM and the number of transfers started on its bus so far. -/
structure I2cBus where
  /-- Contents of the device. -/
  memory : At24c32
  /-- Calls of `LPI2C_MasterTransferBlocking` so far. -/
  transfers : ℕ

/-- Outcome of every transfer, by the number of transfers before it. -/
abbrev Outcomes := ℕ → TransferOutcome

/-- Subaddress assembled from the two address bytes, most significant first. -/
def subaddressOf (address : UInt16) : UInt32 :=
  let high : UInt8 := ((address>>>8)&&&0xFF).toUInt8
  let low : UInt8 := (address&&&0xFF).toUInt8
  (high.toUInt32<<<8)|||low.toUInt32

/-- Bits put below others are added to them. -/
theorem shiftLeft_or {low k : ℕ} (high : ℕ) (h : low<2^k) : high<<<k|||low=high*2^k+low := by
  rw [←Nat.shiftLeft_add_eq_or_of_lt h,Nat.shiftLeft_eq]

/-- The two address bytes carry the whole 16-bit address. -/
theorem subaddressOf_toNat (address : UInt16) : (subaddressOf address).toNat=address.toNat := by
  have hlt := address.toNat_lt
  have hmask : ∀ x : ℕ, x&&&255=x%256 := fun x => Nat.and_two_pow_sub_one_eq_mod x 8
  have hhigh : address.toNat>>>8=address.toNat/256 := Nat.shiftRight_eq_div_pow _ 8
  simp only [subaddressOf,UInt32.toNat_or,UInt32.toNat_shiftLeft,UInt8.toNat_toUInt32,
    UInt16.toNat_toUInt8,UInt16.toNat_and,UInt16.toNat_shiftRight]
  change ((address.toNat>>>8&&&255)%256)<<<8%2^32|||((address.toNat&&&255)%256)=address.toNat
  rw [hmask,hmask,hhigh]
  have hs : (address.toNat/256%256%256)<<<8%2^32=(address.toNat/256)<<<8 := by
    rw [Nat.shiftLeft_eq,Nat.shiftLeft_eq]
    omega
  rw [hs,shiftLeft_or _ (show address.toNat%256%256<2^8 by omega)]
  omega

/-- A write transfer stores its bytes, or the first of them when it fails. -/
def masterTransferWrite (outcomes : Outcomes) (bus : I2cBus) (subaddress : UInt32)
    (data : ℕ → UInt8) (dataSize : ℕ) : Status×I2cBus :=
  match outcomes bus.transfers with
  | .success => (.success,⟨burst bus.memory subaddress.toNat data dataSize,bus.transfers+1⟩)
  | .failed stored =>
    (.fail,⟨burst bus.memory subaddress.toNat data (min stored dataSize),bus.transfers+1⟩)

/-- A read transfer delivers consecutive cells, rolling over at the last one. -/
def masterTransferRead (outcomes : Outcomes) (bus : I2cBus) (subaddress : UInt32)
    (dataSize : ℕ) : Status×List UInt8×I2cBus :=
  match outcomes bus.transfers with
  | .success => (.success,
      (List.range dataSize).map (fun i => flat bus.memory (subaddress.toNat+i)),
      ⟨bus.memory,bus.transfers+1⟩)
  | .failed _ => (.fail,[],⟨bus.memory,bus.transfers+1⟩)

/-- `EEPROM_Write_Raw_Page`: one transfer at a two-byte subaddress. -/
def eepromWriteRawPage (outcomes : Outcomes) (bus : I2cBus) (address : UInt16)
    (data : ℕ → UInt8) (len : UInt8) : Status×I2cBus :=
  masterTransferWrite outcomes bus (subaddressOf address) data len.toNat

/-- Size of the next chunk: what remains, clamped to the end of the page. -/
def chunkSize (address len bytesWritten : UInt16) : UInt8 :=
  let currentAddr := address+bytesWritten
  let pageOffset : UInt8 := (currentAddr%32).toUInt8
  let maxPageWritable : UInt8 := 32-pageOffset
  let remainingBytes := len-bytesWritten
  if remainingBytes < maxPageWritable.toUInt16 then remainingBytes.toUInt8 else maxPageWritable

/-- The chunk size on natural numbers. No truncation of the source loses a bit. -/
theorem chunkSize_toNat {address len bytesWritten : UInt16} (h : bytesWritten<len) :
    (chunkSize address len bytesWritten).toNat=
      min (len.toNat-bytesWritten.toNat) (32-(address.toNat+bytesWritten.toNat)%32) := by
  have hlt := UInt16.lt_iff_toNat_lt.mp h
  have hremaining : (len-bytesWritten).toNat=len.toNat-bytesWritten.toNat :=
    UInt16.toNat_sub_of_le _ _ (UInt16.le_iff_toNat_le.mpr hlt.le)
  have hoffset : ((address+bytesWritten)%32).toUInt8.toNat=(address.toNat+bytesWritten.toNat)%32 := by
    rw [UInt16.toNat_toUInt8,UInt16.toNat_mod,UInt16.toNat_add]
    change (address.toNat+bytesWritten.toNat)%2^16%32%2^8=_
    omega
  have hmax : (32-((address+bytesWritten)%32).toUInt8).toNat=
      32-(address.toNat+bytesWritten.toNat)%32 := by
    rw [UInt8.toNat_sub_of_le]
    · rw [hoffset]
      rfl
    · rw [UInt8.le_iff_toNat_le,hoffset]
      change _≤32
      omega
  unfold chunkSize
  dsimp only
  split
  next hc =>
    rw [UInt16.lt_iff_toNat_lt,hremaining,UInt8.toNat_toUInt16,hmax] at hc
    rw [UInt16.toNat_toUInt8,hremaining]
    omega
  next hc =>
    rw [UInt16.lt_iff_toNat_lt,hremaining,UInt8.toNat_toUInt16,hmax] at hc
    rw [hmax]
    omega

/-- The count of written bytes after a chunk does not wrap. -/
theorem bytesWritten_add (address : UInt16) {len bytesWritten : UInt16} (h : bytesWritten<len) :
    (bytesWritten+(chunkSize address len bytesWritten).toUInt16).toNat=
      bytesWritten.toNat+(chunkSize address len bytesWritten).toNat := by
  have hlt := UInt16.lt_iff_toNat_lt.mp h
  have hlen := len.toNat_lt
  have hchunk : (chunkSize address len bytesWritten).toNat≤len.toNat-bytesWritten.toNat := by
    rw [chunkSize_toNat h]
    exact Nat.min_le_left _ _
  rw [UInt16.toNat_add,UInt8.toNat_toUInt16]
  omega

/-- No chunk is empty. -/
theorem chunkSize_pos (address : UInt16) {len bytesWritten : UInt16} (h : bytesWritten<len) :
    0<(chunkSize address len bytesWritten).toNat := by
  have hlt := UInt16.lt_iff_toNat_lt.mp h
  rw [chunkSize_toNat h]
  omega

/-- The while loop of `EEPROM_Write_Bytes`. Every turn writes at least one byte. -/
def writeLoop (outcomes : Outcomes) (address len : UInt16) (data : ℕ → UInt8)
    (bytesWritten : UInt16) (bus : I2cBus) : EepromStatus×I2cBus :=
  if bytesWritten<len then
    let written := eepromWriteRawPage outcomes bus (address+bytesWritten)
      (fun i => data (bytesWritten.toNat+i)) (chunkSize address len bytesWritten)
    match written.1 with
    | .success => writeLoop outcomes address len data
        (bytesWritten+(chunkSize address len bytesWritten).toUInt16) written.2
    | .fail => (.i2cError,written.2)
  else (.ok,bus)
termination_by len.toNat-bytesWritten.toNat
decreasing_by
  rename_i h
  have hlt := UInt16.lt_iff_toNat_lt.mp h
  have hpos := chunkSize_pos address h
  rw [bytesWritten_add address h]
  omega

/-- `EEPROM_Write_Bytes`. The sum of the two `uint16_t` is taken as an `int`. -/
def eepromWriteBytes (outcomes : Outcomes) (bus : I2cBus) (address : UInt16) (data : ℕ → UInt8)
    (len : UInt16) : EepromStatus×I2cBus :=
  if 4096<address.toUInt32+len.toUInt32 then (.lengthOverflow,bus)
  else writeLoop outcomes address len data 0 bus

/-- `EEPROM_Read_Bytes`, with the bytes delivered when it succeeds. -/
def eepromReadBytes (outcomes : Outcomes) (bus : I2cBus) (address len : UInt16) :
    EepromStatus×List UInt8×I2cBus :=
  if 4096<address.toUInt32+len.toUInt32 then (.lengthOverflow,[],bus)
  else
    let transfer := masterTransferRead outcomes bus (subaddressOf address) len.toNat
    match transfer.1 with
    | .success => (.ok,transfer.2)
    | .fail => (.i2cError,transfer.2)

/-- `EEPROM_Init`: the cell at address 0 is inverted, read back and restored. -/
def eepromInit (outcomes : Outcomes) (bus : I2cBus) : EepromStatus×I2cBus :=
  let original := eepromReadBytes outcomes bus 0 1
  if original.1≠.ok then (.i2cError,original.2.2) else
  let originalByte := original.2.1.headD 0
  let testByte : UInt8 := if originalByte=0xAA then 0x55 else 0xAA
  let inverted := eepromWriteBytes outcomes original.2.2 0 (fun _ => testByte) 1
  if inverted.1≠.ok then (.i2cError,inverted.2) else
  let verify := eepromReadBytes outcomes inverted.2 0 1
  if verify.1≠.ok then (.i2cError,verify.2.2) else
  if verify.2.1.headD 0≠testByte then (.i2cError,verify.2.2) else
  let restored := eepromWriteBytes outcomes verify.2.2 0 (fun _ => originalByte) 1
  if restored.1≠.ok then (.i2cError,restored.2) else (.ok,restored.2)

/-- The range check is made without overflow. -/
theorem overflow_iff (address len : UInt16) :
    4096<address.toUInt32+len.toUInt32 ↔ 4096<address.toNat+len.toNat := by
  have ha := address.toNat_lt
  have hl := len.toNat_lt
  rw [UInt32.lt_iff_toNat_lt,UInt32.toNat_add,UInt16.toNat_toUInt32,UInt16.toNat_toUInt32]
  change 4096<(address.toNat+len.toNat)%2^32 ↔ _
  omega

/-- A transfer that stays in its page overlays the flat array with its bytes,
or with the first of them when it fails. -/
theorem eepromWriteRawPage_effect (outcomes : Outcomes) (bus : I2cBus) {address : UInt16}
    (data : ℕ → UInt8) {len : UInt8} (hpage : address.toNat%32+len.toNat≤32)
    (hend : address.toNat+len.toNat≤4096) :
    (eepromWriteRawPage outcomes bus address data len).2.transfers=bus.transfers+1 ∧
    ∃ count, AgreeBelow 4096 (flat (eepromWriteRawPage outcomes bus address data len).2.memory)
        (overlay (flat bus.memory) address.toNat count data) ∧
      (((eepromWriteRawPage outcomes bus address data len).1=.success ∧
          outcomes bus.transfers=.success ∧ count=len.toNat) ∨
        ((eepromWriteRawPage outcomes bus address data len).1=.fail ∧
          ∃ stored, outcomes bus.transfers=.failed stored ∧ count=min stored len.toNat)) := by
  have hburst : ∀ count, count≤len.toNat → AgreeBelow 4096
      (flat (burst bus.memory address.toNat data count))
      (overlay (flat bus.memory) address.toNat count data) := fun count hcount =>
    flat_burst bus.memory data (by omega) (show _≤128*32 by omega)
  unfold eepromWriteRawPage masterTransferWrite
  rw [subaddressOf_toNat]
  cases hout : outcomes bus.transfers with
  | success => exact ⟨rfl,len.toNat,hburst _ (Nat.le_refl _),Or.inl ⟨rfl,rfl,rfl⟩⟩
  | failed stored =>
    exact ⟨rfl,min stored len.toNat,hburst _ (Nat.min_le_right _ _),Or.inr ⟨rfl,stored,rfl,rfl⟩⟩

/-- Offset in a block at `address` where its chunk `j` starts. All chunks but
the first start at a page boundary. -/
def chunkStart (address j : ℕ) : ℕ := 32*j-address%32

/-- How a write ends after `chunks` transfers that succeeded, with the number of
bytes it stored and the transfers made on the bus since `transfers`. -/
inductive Stopped (outcomes : Outcomes) (address len transfers chunks : ℕ) :
    EepromStatus → ℕ → ℕ → Prop where
  /-- The block is complete. -/
  | finished (hlen : len≤chunkStart address chunks) :
    Stopped outcomes address len transfers chunks .ok len (transfers+chunks)
  /-- The next transfer failed and stored some first bytes of its chunk. -/
  | broken (stored : ℕ) (hlen : chunkStart address chunks<len)
      (hout : outcomes (transfers+chunks)=.failed stored) :
    Stopped outcomes address len transfers chunks .i2cError
      (min (chunkStart address chunks+stored) (min len (chunkStart address (chunks+1))))
      (transfers+chunks+1)

/-- Not more than the block is stored. -/
theorem Stopped.count_le {outcomes : Outcomes} {address len transfers chunks count after : ℕ}
    {status : EepromStatus} (h : Stopped outcomes address len transfers chunks status count after) :
    count≤len := by
  cases h with
  | finished hlen => exact Nat.le_refl _
  | broken stored hlen hout => omega

/-- A write that returns `kEeprom_Ok` stored its block. -/
theorem Stopped.count_ok {outcomes : Outcomes} {address len transfers chunks count after : ℕ}
    (h : Stopped outcomes address len transfers chunks .ok count after) : count=len := by
  cases h
  rfl

/-- Only a failed transfer stops a write before its end. -/
theorem Stopped.status_ok {outcomes : Outcomes} {address len transfers chunks count after : ℕ}
    {status : EepromStatus} (h : Stopped outcomes address len transfers chunks status count after)
    (hall : ∀ t, outcomes t=.success) : status=.ok := by
  cases h with
  | finished hlen => rfl
  | broken stored hlen hout =>
    rw [hall] at hout
    cases hout

/-- The chunks before number `j` lie in the block and their transfers succeeded. -/
def ChunksDone (outcomes : Outcomes) (address len transfers j : ℕ) : Prop :=
  ∀ i, i<j → chunkStart address i<len ∧ outcomes (transfers+i)=.success

/-- One more chunk is done. -/
theorem ChunksDone.succ {outcomes : Outcomes} {address len transfers j : ℕ}
    (h : ChunksDone outcomes address len transfers j) (hlen : chunkStart address j<len)
    (hout : outcomes (transfers+j)=.success) :
    ChunksDone outcomes address len transfers (j+1) := by
  intro i hi
  rcases Nat.lt_or_ge i j with hlt|hge
  · exact h i hlt
  · have heq : i=j := by omega
    rw [heq]
    exact ⟨hlen,hout⟩

/-- A chunk ends at the next page boundary or with the block. -/
theorem chunk_end {address len bytesWritten : UInt16} {j : ℕ} (h : bytesWritten<len)
    (hbytes : bytesWritten.toNat=min len.toNat (chunkStart address.toNat j)) :
    bytesWritten.toNat=chunkStart address.toNat j ∧
    bytesWritten.toNat+(chunkSize address len bytesWritten).toNat=
        min len.toNat (chunkStart address.toNat (j+1)) ∧
      (address.toNat+bytesWritten.toNat)%32+(chunkSize address len bytesWritten).toNat≤32 := by
  have hlt := UInt16.lt_iff_toNat_lt.mp h
  rw [chunkSize_toNat h]
  unfold chunkStart at *
  omega

/-- One turn of the loop extends the overlay by its chunk, or by the first bytes
of it when the transfer fails. -/
theorem turn_effect {outcomes : Outcomes} {address len bytesWritten : UInt16} {data : ℕ → UInt8}
    {base : ℕ → UInt8} {bus : I2cBus} (hend : address.toNat+len.toNat≤4096) (h : bytesWritten<len)
    (hpage : (address.toNat+bytesWritten.toNat)%32+(chunkSize address len bytesWritten).toNat≤32)
    (hmemory : AgreeBelow 4096 (flat bus.memory)
      (overlay base address.toNat bytesWritten.toNat data))
    {written : Status×I2cBus}
    (hwritten : written=eepromWriteRawPage outcomes bus (address+bytesWritten)
      (fun i => data (bytesWritten.toNat+i)) (chunkSize address len bytesWritten)) :
    written.2.transfers=bus.transfers+1 ∧
    ∃ count, AgreeBelow 4096 (flat written.2.memory)
        (overlay base address.toNat (bytesWritten.toNat+count) data) ∧
      ((written.1=.success ∧ outcomes bus.transfers=.success ∧
          count=(chunkSize address len bytesWritten).toNat) ∨
        (written.1=.fail ∧ ∃ stored, outcomes bus.transfers=.failed stored ∧
          count=min stored (chunkSize address len bytesWritten).toNat)) := by
  have hlt := UInt16.lt_iff_toNat_lt.mp h
  have hsize : (chunkSize address len bytesWritten).toNat≤len.toNat-bytesWritten.toNat := by
    rw [chunkSize_toNat h]
    exact Nat.min_le_left _ _
  have hcurrent : (address+bytesWritten).toNat=address.toNat+bytesWritten.toNat := by
    rw [UInt16.toNat_add]
    omega
  obtain ⟨htransfers,count,heffect,hcases⟩ := eepromWriteRawPage_effect outcomes bus
    (fun i => data (bytesWritten.toNat+i)) (by rw [hcurrent]; exact hpage)
    (by rw [hcurrent]; omega)
  rw [hcurrent] at heffect
  rw [hwritten]
  refine ⟨htransfers,count,?_,hcases⟩
  rw [←overlay_append]
  exact heffect.trans (hmemory.overlay _ _ _)

/-- The loop keeps the flat array equal to the old one overlaid with the bytes
written so far, up to its end. -/
theorem writeLoop_effect {outcomes : Outcomes} {address len : UInt16} {data : ℕ → UInt8}
    {base : ℕ → UInt8} {transfers : ℕ} (hend : address.toNat+len.toNat≤4096) (j : ℕ)
    (bytesWritten : UInt16) (bus : I2cBus)
    (hbytes : bytesWritten.toNat=min len.toNat (chunkStart address.toNat j))
    (hbus : bus.transfers=transfers+j)
    (hdone : ChunksDone outcomes address.toNat len.toNat transfers j)
    (hmemory : AgreeBelow 4096 (flat bus.memory)
      (overlay base address.toNat bytesWritten.toNat data)) :
    ∃ chunks count, ChunksDone outcomes address.toNat len.toNat transfers chunks ∧
      Stopped outcomes address.toNat len.toNat transfers chunks
        (writeLoop outcomes address len data bytesWritten bus).1 count
        (writeLoop outcomes address len data bytesWritten bus).2.transfers ∧
      AgreeBelow 4096 (flat (writeLoop outcomes address len data bytesWritten bus).2.memory)
        (overlay base address.toNat count data) := by
  induction bytesWritten,bus using writeLoop.induct outcomes address len data generalizing j with
  | case1 bytesWritten bus h written hsuccess ih =>
    have hlt := UInt16.lt_iff_toNat_lt.mp h
    obtain ⟨hstart,hchunk,hpage⟩ := chunk_end h hbytes
    obtain ⟨htransfers,count,heffect,hcases⟩ := turn_effect hend h hpage hmemory (Eq.refl written)
    rw [hbus] at htransfers hcases
    rcases hcases with ⟨-,hout,hcount⟩|⟨hfail,-⟩
    · have hadd := bytesWritten_add address h
      rw [hcount,←hadd] at heffect
      rw [writeLoop,if_pos h]
      dsimp only
      rw [hsuccess]
      exact ih (j+1) (by rw [hadd,hchunk]) htransfers (hdone.succ (by omega) hout) heffect
    · rw [hsuccess] at hfail
      cases hfail
  | case2 bytesWritten bus h written hfailed =>
    have hlt := UInt16.lt_iff_toNat_lt.mp h
    obtain ⟨hstart,hchunk,hpage⟩ := chunk_end h hbytes
    obtain ⟨htransfers,count,heffect,hcases⟩ := turn_effect hend h hpage hmemory (Eq.refl written)
    rw [hbus] at htransfers hcases
    rw [writeLoop,if_pos h]
    dsimp only
    rw [hfailed]
    rcases hcases with ⟨hsuccess,-⟩|⟨-,stored,hout,hcount⟩
    · rw [hfailed] at hsuccess
      cases hsuccess
    · refine ⟨j,_,hdone,?_,heffect⟩
      have htotal : bytesWritten.toNat+count=min (chunkStart address.toNat j+stored)
          (min len.toNat (chunkStart address.toNat (j+1))) := by omega
      rw [htotal,htransfers]
      exact Stopped.broken stored (by omega) hout
  | case3 bytesWritten bus h =>
    rw [UInt16.lt_iff_toNat_lt] at h
    rw [writeLoop,if_neg (by rw [UInt16.lt_iff_toNat_lt]; exact h)]
    have hfull : bytesWritten.toNat=len.toNat := by omega
    rw [hfull] at hmemory
    refine ⟨j,len.toNat,hdone,?_,hmemory⟩
    rw [hbus]
    exact Stopped.finished (by omega)

/-- A block that fits is written chunk by chunk until it is complete or a
transfer fails. -/
theorem eepromWriteBytes_effect (outcomes : Outcomes) (bus : I2cBus) {address len : UInt16}
    (data : ℕ → UInt8) (hend : address.toNat+len.toNat≤4096) :
    ∃ chunks count, ChunksDone outcomes address.toNat len.toNat bus.transfers chunks ∧
      Stopped outcomes address.toNat len.toNat bus.transfers chunks
        (eepromWriteBytes outcomes bus address data len).1 count
        (eepromWriteBytes outcomes bus address data len).2.transfers ∧
      AgreeBelow 4096 (flat (eepromWriteBytes outcomes bus address data len).2.memory)
        (overlay (flat bus.memory) address.toNat count data) := by
  rw [eepromWriteBytes,if_neg (by rw [overflow_iff]; omega)]
  refine writeLoop_effect hend 0 0 bus ?_ rfl (fun i hi => absurd hi (Nat.not_lt_zero i)) ?_
  · unfold chunkStart
    change 0=_
    omega
  · change AgreeBelow 4096 _ (overlay _ _ 0 _)
    rw [overlay_zero]
    exact AgreeBelow.refl _ _

/-- A write stores some first bytes of its block, and all of them when it
returns `kEeprom_Ok`. -/
theorem eepromWriteBytes_stores (outcomes : Outcomes) (bus : I2cBus) {address : UInt16} (len : UInt16)
    (data : ℕ → UInt8) (hend : address.toNat+len.toNat≤4096) :
    ∃ count, count≤len.toNat ∧
      ((eepromWriteBytes outcomes bus address data len).1=.ok → count=len.toNat) ∧
      AgreeBelow 4096 (flat (eepromWriteBytes outcomes bus address data len).2.memory)
        (overlay (flat bus.memory) address.toNat count data) := by
  obtain ⟨chunks,count,-,hstopped,heffect⟩ := eepromWriteBytes_effect outcomes bus data hend
  refine ⟨count,hstopped.count_le,fun hok => ?_,heffect⟩
  rw [hok] at hstopped
  exact hstopped.count_ok

/-- A write whose transfers all succeed returns `kEeprom_Ok`. -/
theorem eepromWriteBytes_success (outcomes : Outcomes) (bus : I2cBus) {address : UInt16} (len : UInt16)
    (data : ℕ → UInt8) (hend : address.toNat+len.toNat≤4096) (hall : ∀ t, outcomes t=.success) :
    (eepromWriteBytes outcomes bus address data len).1=.ok ∧
      AgreeBelow 4096 (flat (eepromWriteBytes outcomes bus address data len).2.memory)
        (overlay (flat bus.memory) address.toNat len.toNat data) := by
  obtain ⟨chunks,count,-,hstopped,heffect⟩ := eepromWriteBytes_effect outcomes bus data hend
  have hok := hstopped.status_ok hall
  rw [hok] at hstopped
  rw [hstopped.count_ok] at heffect
  exact ⟨hok,heffect⟩

/-- The memory is not changed by a read. -/
theorem eepromReadBytes_memory (outcomes : Outcomes) (bus : I2cBus) (address len : UInt16) :
    (eepromReadBytes outcomes bus address len).2.2.memory=bus.memory := by
  unfold eepromReadBytes masterTransferRead
  split
  · rfl
  · cases outcomes bus.transfers <;> rfl

/-- A read that succeeds delivers the cells of the flat array. -/
theorem eepromReadBytes_success (outcomes : Outcomes) (bus : I2cBus) {address len : UInt16}
    (hend : address.toNat+len.toNat≤4096) (hout : outcomes bus.transfers=.success) :
    eepromReadBytes outcomes bus address len=
      (.ok,(List.range len.toNat).map (fun i => flat bus.memory (address.toNat+i)),
        ⟨bus.memory,bus.transfers+1⟩) := by
  rw [eepromReadBytes,if_neg (by rw [overflow_iff]; omega),masterTransferRead,hout,
    subaddressOf_toNat]

/-- A read whose transfer fails delivers nothing. -/
theorem eepromReadBytes_failed (outcomes : Outcomes) (bus : I2cBus) {address len : UInt16}
    {stored : ℕ} (hend : address.toNat+len.toNat≤4096)
    (hout : outcomes bus.transfers=.failed stored) :
    eepromReadBytes outcomes bus address len=
      (.i2cError,[],⟨bus.memory,bus.transfers+1⟩) := by
  rw [eepromReadBytes,if_neg (by rw [overflow_iff]; omega),masterTransferRead,hout]

/-- With a working bus the self test succeeds and restores the cell it used. -/
theorem eepromInit_success (outcomes : Outcomes) (bus : I2cBus) (hall : ∀ t, outcomes t=.success) :
    (eepromInit outcomes bus).1=.ok ∧
      AgreeBelow 4096 (flat (eepromInit outcomes bus).2.memory) (flat bus.memory) := by
  have hrange : (0 : UInt16).toNat+(1 : UInt16).toNat≤4096 := by decide
  have hread : ∀ b : I2cBus, eepromReadBytes outcomes b 0 1=
      (.ok,[flat b.memory 0],⟨b.memory,b.transfers+1⟩) := fun b =>
    eepromReadBytes_success outcomes b hrange (hall _)
  have hwrite : ∀ (b : I2cBus) (v : UInt8),
      (eepromWriteBytes outcomes b 0 (fun _ => v) 1).1=.ok ∧
      AgreeBelow 4096 (flat (eepromWriteBytes outcomes b 0 (fun _ => v) 1).2.memory)
        (overlay (flat b.memory) 0 1 (fun _ => v)) := fun b v =>
    eepromWriteBytes_success outcomes b 1 (fun _ => v) hrange hall
  unfold eepromInit
  simp only [hread,hwrite,ne_eq,not_true_eq_false,if_false,List.headD_cons]
  generalize (if flat bus.memory 0=0xAA then (0x55 : UInt8) else 0xAA)=testByte
  obtain ⟨-,hinverted⟩ := hwrite ⟨bus.memory,bus.transfers+1⟩ testByte
  generalize (eepromWriteBytes outcomes ⟨bus.memory,bus.transfers+1⟩ 0 (fun _ => testByte) 1).2=
    inverted at hinverted ⊢
  have hverify : flat inverted.memory 0=testByte := by
    rw [hinverted 0 (by omega),overlay_inside (by omega) (by omega)]
  rw [if_neg (by rw [hverify]; exact not_not_intro rfl)]
  refine ⟨rfl,?_⟩
  obtain ⟨-,hrestored⟩ := hwrite ⟨inverted.memory,inverted.transfers+1⟩ (flat bus.memory 0)
  intro a ha
  rw [hrestored a ha]
  rcases Nat.eq_zero_or_pos a with hzero|hpos
  · rw [hzero,overlay_inside (by omega) (by omega)]
  · rw [overlay_outside (by omega),hinverted a ha,overlay_outside (by omega)]

end WebDataLogger.EepromDriver
