import WebDataLogger.Lpi2cMaster
import WebDataLogger.EepromDriver

/-!
# What a blocking transfer puts on the wire

The command words are decoded as the peripheral does. A transfer that succeeds has written
exactly its start, its subaddress from the most significant byte on, its data or its repeated
start and read commands, and its stop. A transfer that fails has written some first commands
of these and, after the FIFOs were reset, nothing but stops.
-/

namespace WebDataLogger.Lpi2cWire

open PolledIo Lpi2cMaster

/-- A command of the transmit FIFO. -/
inductive Command where
  /-- A start or a repeated start, and the address byte. -/
  | start (slaveAddress : ℕ) (direction : Direction)
  | send (byte : UInt8)
  | receive (count : ℕ)
  | stop
  deriving DecidableEq

/-- The command in a word of `MTDR`: bits 8 to 10 hold the kind and bits 0 to 7 the data. -/
def Command.ofWord (word : UInt32) : Option Command :=
  match (word>>>8&&&7).toNat with
  | 0 => some (.send (word&&&0xFF).toUInt8)
  | 1 => some (.receive ((word&&&0xFF).toNat+1))
  | 2 => some .stop
  | 4 => some (.start ((word&&&0xFF).toNat/2) (if (word&&&0xFF).toNat%2=0 then .write else .read))
  | _ => none

/-- The kind of a word is its second byte, up to the bits not used. -/
theorem kind_toNat (word : UInt32) : (word>>>8&&&7).toNat=word.toNat/256%8 := by
  rw [UInt32.toNat_and,UInt32.toNat_shiftRight]
  change word.toNat>>>8&&&2^3-1=_
  rw [Nat.and_two_pow_sub_one_eq_mod,Nat.shiftRight_eq_div_pow]

/-- The data of a word are its first byte. -/
theorem data_toNat (word : UInt32) : (word&&&0xFF).toNat=word.toNat%256 := by
  rw [UInt32.toNat_and]
  exact Nat.and_two_pow_sub_one_eq_mod word.toNat 8

/-- A byte pushed as it is gets sent. -/
theorem ofWord_byte (byte : UInt8) : Command.ofWord byte.toUInt32=some (.send byte) := by
  have hlt := byte.toNat_lt
  have hkind : (byte.toUInt32>>>8&&&7).toNat=0 := by
    rw [kind_toNat,UInt8.toNat_toUInt32]
    omega
  have hdata : (byte.toUInt32&&&0xFF).toUInt8=byte := by
    apply UInt8.toNat_inj.mp
    rw [UInt32.toNat_toUInt8,data_toNat,UInt8.toNat_toUInt32]
    omega
  unfold Command.ofWord
  rw [hkind,hdata]
  rfl

/-- The start word as a number. -/
theorem startWord_toNat {slaveAddress : UInt16} (h : slaveAddress.toNat<128)
    (direction : Direction) :
    (startWord slaveAddress direction).toNat=1024+2*slaveAddress.toNat+direction.code.toNat := by
  have hcode : direction.code.toNat<2 := by cases direction <;> decide
  unfold startWord
  rw [UInt16.toNat_or,UInt16.toNat_or,UInt16.toNat_shiftLeft]
  change 1<<<10|||(slaveAddress.toNat<<<1%2^16|||direction.code.toNat)=_
  have hshift : slaveAddress.toNat<<<1%2^16=slaveAddress.toNat<<<1 := by
    rw [Nat.shiftLeft_eq]
    omega
  rw [hshift,@EepromDriver.shiftLeft_or _ 1 slaveAddress.toNat hcode,
    @EepromDriver.shiftLeft_or _ 10 1 (by omega)]
  omega

/-- The start word of a 7-bit address is a start with this address. -/
theorem ofWord_startWord {slaveAddress : UInt16} (h : slaveAddress.toNat<128)
    (direction : Direction) :
    Command.ofWord (startWord slaveAddress direction).toUInt32=
      some (.start slaveAddress.toNat direction) := by
  have hword := startWord_toNat h direction
  have hcode : direction.code.toNat<2 := by cases direction <;> decide
  have hkind : ((startWord slaveAddress direction).toUInt32>>>8&&&7).toNat=4 := by
    rw [kind_toNat,UInt16.toNat_toUInt32,hword]
    omega
  have hdata : ((startWord slaveAddress direction).toUInt32&&&0xFF).toNat=
      2*slaveAddress.toNat+direction.code.toNat := by
    rw [data_toNat,UInt16.toNat_toUInt32,hword]
    omega
  unfold Command.ofWord
  rw [hkind]
  change some (Command.start (((startWord slaveAddress direction).toUInt32&&&0xFF).toNat/2)
    (if ((startWord slaveAddress direction).toUInt32&&&0xFF).toNat%2=0 then .write else .read))=_
  rw [hdata,show (2*slaveAddress.toNat+direction.code.toNat)/2=slaveAddress.toNat by omega,
    show (2*slaveAddress.toNat+direction.code.toNat)%2=direction.code.toNat by omega]
  cases direction <;> rfl

/-- The stop word is a stop. -/
theorem ofWord_stopCmd : Command.ofWord stopCmd=some .stop := rfl

/-- A receive command asks for the bytes it was made for. -/
theorem ofWord_receive {count : ℕ} (hpos : 1≤count) (hle : count≤256) :
    Command.ofWord (rxDataCmd|||(UInt32.ofNat (count-1)&&&0xFF))=some (.receive count) := by
  have hlow : (UInt32.ofNat (count-1)&&&0xFF).toNat=count-1 := by
    rw [data_toNat,UInt32.toNat_ofNat']
    omega
  have hword : (rxDataCmd|||(UInt32.ofNat (count-1)&&&0xFF)).toNat=256+(count-1) := by
    rw [UInt32.toNat_or,hlow]
    change 1<<<8|||(count-1)=_
    rw [@EepromDriver.shiftLeft_or _ 8 1 (by omega)]
    omega
  have hkind : ((rxDataCmd|||(UInt32.ofNat (count-1)&&&0xFF))>>>8&&&7).toNat=1 := by
    rw [kind_toNat,hword]
    omega
  unfold Command.ofWord
  rw [hkind]
  change some (Command.receive (((rxDataCmd|||(UInt32.ofNat (count-1)&&&0xFF))&&&0xFF).toNat+1))=_
  rw [data_toNat,hword]
  congr 2
  omega

/-- Receive commands of one to 256 bytes each. -/
structure Counts (total : ℕ) where
  counts : List ℕ
  inRange : ∀ count∈counts, 1≤count ∧ count≤256
  sum_eq : counts.sum=total

/-- The receive commands of a read ask for its bytes, less those asked for before. -/
theorem decode_receiveWords {rxSize chunkSize : ℕ} (h : chunkSize≤rxSize) :
    ∃ counts : Counts (rxSize-chunkSize), (receiveWords rxSize chunkSize).map Command.ofWord=
      counts.counts.map (fun count => some (.receive count)) := by
  induction rxSize generalizing chunkSize with
  | zero => exact ⟨⟨[],fun _ hc => absurd hc List.not_mem_nil,by simp⟩,rfl⟩
  | succ rxSize ih =>
    rw [receiveWords,List.map_append]
    unfold requestWords requested
    by_cases hfew : chunkSize<4 ∧ chunkSize<rxSize+1
    · rw [if_pos hfew,if_pos hfew]
      generalize hcount : min (rxSize+1-chunkSize) 256=count
      have hpos : 1≤count := by omega
      have hle : count≤256 := by omega
      obtain ⟨rest,hrest⟩ := ih (show chunkSize+count-1≤rxSize by omega)
      refine ⟨⟨count::rest.counts,?_,?_⟩,?_⟩
      · intro c hc
        rcases List.mem_cons.mp hc with rfl|hc
        · exact ⟨hpos,hle⟩
        · exact rest.inRange c hc
      · rw [List.sum_cons,rest.sum_eq]
        omega
      · rw [hrest,List.map_cons,List.map_cons,ofWord_receive hpos hle]
        rfl
    · rw [if_neg hfew,if_neg hfew]
      obtain ⟨rest,hrest⟩ := ih (show chunkSize-1≤rxSize by omega)
      refine ⟨⟨rest.counts,rest.inRange,?_⟩,hrest⟩
      rw [rest.sum_eq]
      omega

/-- A start with the address of the device. -/
def startCommand (transfer : Transfer) (direction : Direction) : Command :=
  .start transfer.slaveAddress.toNat direction

/-- The commands before the data: start, subaddress, and the repeated start of a read that
has a subaddress. -/
def headCommands (transfer : Transfer) : List Command :=
  (if transfer.flags&&&transferNoStartFlag=0 then
      [startCommand transfer transfer.firstDirection] else []) ++
    (subaddressBytes transfer.subaddress transfer.subaddressSize).map Command.send ++
    if transfer.dataSize≠0 ∧ transfer.direction=Direction.read then
      if transfer.firstDirection=Direction.write then [startCommand transfer .read] else []
    else []

/-- The commands of the data phase. -/
def dataCommands (transfer : Transfer) (counts : Counts transfer.received) : List Command :=
  match transfer.direction with
  | .write => transfer.txBuff.map .send
  | .read => counts.counts.map .receive

/-- All commands of a transfer. -/
def commands (transfer : Transfer) (counts : Counts transfer.received) : List Command :=
  headCommands transfer++dataCommands transfer counts++
    if transfer.flags&&&transferNoStopFlag=0 then [.stop] else []

/-- The words of the command buffer are commands. -/
theorem decode_commandBuffer {transfer : Transfer} (h : transfer.slaveAddress.toNat<128) :
    (transfer.commandBuffer.map UInt16.toUInt32).map Command.ofWord=
      (headCommands transfer).map some := by
  have hstart : ∀ direction, (Command.ofWord∘UInt16.toUInt32)
      (startWord transfer.slaveAddress direction)=some (startCommand transfer direction) :=
    ofWord_startWord h
  unfold Transfer.commandBuffer headCommands
  simp only [List.map_append,List.map_map]
  congr 1
  · congr 1
    · split
      · simp only [List.map_cons,List.map_nil,hstart]
      · rfl
    · exact List.map_congr_left fun byte _ => ofWord_byte byte
  · split
    · split
      · simp only [List.map_cons,List.map_nil,hstart]
      · rfl
    · rfl

/-- The words of a transfer are its commands. -/
theorem decode_bodyWords {transfer : Transfer} (h : transfer.slaveAddress.toNat<128) :
    ∃ counts : Counts transfer.received, transfer.bodyWords.map Command.ofWord=
      (headCommands transfer++dataCommands transfer counts).map some := by
  have hdata : ∃ counts : Counts transfer.received, transfer.dataWords.map Command.ofWord=
      (dataCommands transfer counts).map some := by
    unfold Transfer.dataWords dataCommands Transfer.received
    cases transfer.direction with
    | write =>
      refine ⟨⟨[],fun _ hc => absurd hc List.not_mem_nil,rfl⟩,?_⟩
      dsimp only
      rw [List.map_map,List.map_map]
      exact List.map_congr_left fun byte _ => ofWord_byte byte
    | read =>
      obtain ⟨counts,hcounts⟩ := decode_receiveWords (Nat.zero_le transfer.dataSize)
      refine ⟨counts,?_⟩
      dsimp only
      rw [hcounts,List.map_map]
      rfl
  obtain ⟨counts,hcounts⟩ := hdata
  refine ⟨counts,?_⟩
  rw [Transfer.bodyWords,List.map_append,decode_commandBuffer h,hcounts,←List.map_append]

/-- The number written by bytes of which the first is the most significant one. -/
def bigEndian (bytes : List UInt8) : ℕ := bytes.foldl (fun value byte => 256*value+byte.toNat) 0

/-- Bytes added in front add their multiples of the next power. -/
theorem foldl_bigEndian (bytes : List UInt8) (value : ℕ) :
    bytes.foldl (fun value byte => 256*value+byte.toNat) value=
      256^bytes.length*value+bigEndian bytes := by
  unfold bigEndian
  induction bytes generalizing value with
  | nil => simp
  | cons byte bytes ih =>
    rw [List.foldl_cons,List.foldl_cons,ih,ih (256*0+byte.toNat),List.length_cons,pow_succ,
      Nat.mul_zero,Nat.zero_add,Nat.mul_add,Nat.mul_assoc,Nat.add_assoc]

/-- A subaddress has as many bytes as it should. -/
theorem subaddressBytes_length (subaddress : UInt32) (size : ℕ) :
    (subaddressBytes subaddress size).length=size := by
  induction size with
  | zero => rfl
  | succ size ih => rw [subaddressBytes,List.length_cons,ih]

/-- The bytes of a subaddress write its low bytes. -/
theorem bigEndian_subaddressBytes (subaddress : UInt32) {size : ℕ} (h : size≤4) :
    bigEndian (subaddressBytes subaddress size)=subaddress.toNat%256^size := by
  induction size with
  | zero => rw [pow_zero,Nat.mod_one]; rfl
  | succ size ih =>
    have hshift : (8*UInt32.ofNat size).toNat%32=8*size := by
      rw [UInt32.toNat_mul,UInt32.toNat_ofNat']
      change 8*(size%2^32)%2^32%32=_
      omega
    have hbyte : (subaddress>>>(8*UInt32.ofNat size)&&&0xFF).toUInt8.toNat=
        subaddress.toNat/256^size%256 := by
      rw [UInt32.toNat_toUInt8,data_toNat,UInt32.toNat_shiftRight,hshift,
        Nat.shiftRight_eq_div_pow,pow_mul]
      exact Nat.mod_mod_of_dvd _ (by decide)
    have hsplit := @Nat.mod_mul (256^size) 256 subaddress.toNat
    rw [subaddressBytes,bigEndian,List.foldl_cons,foldl_bigEndian,subaddressBytes_length,
      ih (by omega),hbyte,pow_succ,hsplit,Nat.mul_zero,Nat.zero_add,Nat.add_comm]

/-- The three answers that a transfer waits for: room in the transmit FIFO, a byte in the
receive FIFO, and the stop with the transmit FIFO empty. An error ends every wait. -/
inductive Answers : Set Registers → Prop where
  | room : Answers {r | 8-(r.mfsr&&&0xF)≠0 ∨ r.msr&&&masterErrorFlags≠0}
  | byte : Answers {r | r.mrdr&&&0x4000=0 ∨ r.msr&&&masterErrorFlags≠0}
  | stop : Answers {r | (r.msr&&&masterStopDetectFlag≠0 ∧ r.msr&&&masterTxReadyFlag≠0) ∨
      r.msr&&&masterErrorFlags≠0}

/-- Waiting for room ends with room. -/
theorem masterWaitForTxReady_returns : masterWaitForTxReady.Returns Answers := by
  refine Polled.returns_loop ?_
  convert Answers.room using 1
  ext r
  unfold waitForTxReadyTurn
  by_cases herror : r.msr&&&masterErrorFlags=0
  · by_cases hroom : 8-(r.mfsr&&&0xF)=0 <;>
      simp [masterCheckAndClearError_steady herror,herror,hroom]
  · simp [(masterCheckAndClearError_error herror).2.1,herror]

/-- Waiting for a byte ends with a byte. -/
theorem receiveTurn_returns : (Polled.loop receiveTurn : Call _).Returns Answers := by
  refine Polled.returns_loop ?_
  convert Answers.byte using 1
  ext r
  unfold receiveTurn
  by_cases herror : r.msr&&&masterErrorFlags=0
  · by_cases hempty : r.mrdr&&&0x4000=0 <;>
      simp [masterCheckAndClearError_steady herror,herror,hempty]
  · simp [(masterCheckAndClearError_error herror).2.1,herror]

/-- Waiting for the stop ends with the stop. -/
theorem stopTurn_returns : (Polled.loop stopTurn : Call _).Returns Answers := by
  refine Polled.returns_loop ?_
  convert Answers.stop using 1
  ext r
  unfold stopTurn
  by_cases hseen : r.msr&&&masterStopDetectFlag≠0 ∧ r.msr&&&masterTxReadyFlag≠0
  · simp [hseen]
  · by_cases herror : r.msr&&&masterErrorFlags=0
    · simp [masterCheckAndClearError_steady herror,herror,hseen]
    · simp [(masterCheckAndClearError_error herror).2.1,herror,hseen]

/-- A stop returns. -/
theorem masterStop_returns : masterStop.Returns Answers := by
  refine masterWaitForTxReady_returns.bind fun result => (Polled.returns_emit _).bind fun _ => ?_
  split
  · exact Polled.returns_pure _
  · exact stopTurn_returns

/-- Pushing words returns. -/
theorem pushWords_returns (ws : List UInt32) : (pushWords ws).Returns Answers := by
  induction ws with
  | nil => exact Polled.returns_pure _
  | cons word ws ih =>
    refine masterWaitForTxReady_returns.bind fun result => ?_
    split
    · exact Polled.returns_pure _
    · exact (Polled.returns_emit _).bind fun _ => ih

/-- Asking for a chunk returns. -/
theorem requestChunk_returns (rxSize chunkSize : ℕ) :
    (requestChunk rxSize chunkSize).Returns Answers := by
  unfold requestChunk
  split
  · refine masterWaitForTxReady_returns.bind fun result => ?_
    split
    · exact Polled.returns_pure _
    · exact (Polled.returns_emit _).bind fun _ => Polled.returns_pure _
  · exact Polled.returns_pure _

/-- A receive returns. -/
theorem receiveLoop_returns (rxSize chunkSize : ℕ) :
    (receiveLoop rxSize chunkSize).Returns Answers := by
  induction rxSize generalizing chunkSize with
  | zero => exact Polled.returns_pure _
  | succ rxSize ih =>
    refine (requestChunk_returns _ _).bind fun request => ?_
    split
    · exact Polled.returns_pure _
    · refine receiveTurn_returns.bind fun received => ?_
      split
      · exact Polled.returns_pure _
      · exact (ih _).bind fun rest => Polled.returns_pure _

/-- A blocking transfer returns. -/
theorem masterTransferBlocking_returns (transfer : Transfer) :
    (masterTransferBlocking transfer).Returns Answers := by
  have hcheck : checkForBusyBus.Returns Answers := by
    refine Polled.returns_loop_of_forall fun r => ?_
    dsimp only
    split
    · exact ⟨_,rfl⟩
    · exact ⟨_,rfl⟩
  have hdata : ∀ result, (transferData transfer result).Returns Answers := by
    intro result
    unfold transferData
    split
    · exact Polled.returns_pure _
    · split
      · exact (pushWords_returns _).bind fun _ => Polled.returns_pure _
      · exact receiveLoop_returns _ _
  refine hcheck.bind fun result => ?_
  split
  · exact Polled.returns_pure _
  · refine (Polled.returns_emit _).bind fun _ => (pushWords_returns _).bind fun result =>
      (hdata result).bind fun moved => ?_
    split
    · exact masterStop_returns.bind fun _ => Polled.returns_pure _
    · exact Polled.returns_pure _

/-- No FIFO is reset in a transfer that goes well. -/
theorem resetFifos_not_mem {log : List Access} (h : ∀ a∈log, a.Steady) : Access.resetFifos∉log :=
  fun hmem => h _ hmem

/-- How a transfer ends, seen on the wire. The words `wire` decode to `sent` before an error,
and only stops come after it. -/
inductive OnWire (sent : List Command) (releases : Prop) : Lpi2cStatus → List Access → Prop where
  /-- All commands were written and no FIFO was reset. -/
  | complete {log : List Access} (noReset : Access.resetFifos∉log)
    (hwords : (words log).map Command.ofWord=sent.map some) : OnWire sent releases .success log
  /-- Some first commands were written, and then stops. -/
  | cut {before after : List Access} {result : Lpi2cStatus} (hsuccess : result≠.success)
    (hbusy : result≠.busy) (noReset : Access.resetFifos∉before)
    (hwords : (words before).map Command.ofWord<+:sent.map some)
    (stops : ∀ word∈words after, Command.ofWord word=some .stop)
    (release : releases → words after≠[]) :
    OnWire sent releases result (before++.resetFifos::after)

/-- The accesses before the FIFOs are reset after an error. -/
theorem onWire_cut {sent : List Command} {releases : Prop} {log tail : List Access}
    {flags first : UInt32} (steady : ∀ a∈log, a.Steady) (error : flags&&&masterErrorFlags≠0)
    (hwords : (words log).map Command.ofWord<+:sent.map some)
    (stops : ∀ word∈words tail, word=stopCmd) (release : releases → words tail≠[]) :
    OnWire sent releases (masterCheckAndClearError flags).2
      (opening first++(log++errorAccesses flags++tail)) := by
  obtain ⟨-,hsuccess,hbusy⟩ := masterCheckAndClearError_error error
  have hlog : opening first++(log++errorAccesses flags++tail)=
      (opening first++log++[.getStatusFlags flags,.clearStatusFlags (flags&&&masterErrorFlags)])++
        .resetFifos::tail := by
    simp [errorAccesses]
  rw [hlog]
  refine .cut hsuccess hbusy ?_ ?_ (fun word hword => ?_) release
  · simp [opening,resetFifos_not_mem steady]
  · rw [words_append,words_append]
    simpa [opening,words] using hwords
  · rw [stops word hword]
    exact ofWord_stopCmd

/-- A transfer that is not refused is seen on the wire. -/
theorem finishes_onWire {transfer : Transfer} {counts : Counts transfer.received}
    (hbody : transfer.bodyWords.map Command.ofWord=
      (headCommands transfer++dataCommands transfer counts).map some)
    {result : Lpi2cStatus} {bytes : List UInt8} {rest : List Access}
    (h : transfer.Finishes result bytes rest) (first : UInt32) :
    bytes=popped rest ∧ OnWire (commands transfer counts)
      (transfer.flags&&&transferNoStopFlag=0) result (opening first++rest) := by
  unfold Transfer.Finishes at h
  unfold commands
  by_cases hstop : transfer.flags&&&transferNoStopFlag=0
  · rw [if_pos hstop] at h ⊢
    have hall : (transfer.bodyWords++[stopCmd]).map Command.ofWord=
        (headCommands transfer++dataCommands transfer counts++[Command.stop]).map some := by
      rw [List.map_append,List.map_append,hbody]
      rfl
    cases h with
    | @stopped log flags steady hwords clean seen empty =>
      refine ⟨by simp [popped],.complete ?_ ?_⟩
      · simp [opening,resetFifos_not_mem steady]
      · rw [words_append,words_append,hwords,←hall]
        simp [opening,words]
    | @broken log tail flags steady error hwords aftermath released =>
      refine ⟨?_,onWire_cut steady error ?_ aftermath.stops fun _ => List.ne_nil_of_mem released⟩
      · rw [popped_append,popped_append,aftermath.quiet,popped_errorAccesses,List.append_nil,
          List.append_nil]
      · rw [←hall]
        exact hwords.map _
  · rw [if_neg hstop] at h ⊢
    rw [List.append_nil]
    cases h with
    | well steady hwords =>
      refine ⟨rfl,.complete ?_ ?_⟩
      · simp [opening,resetFifos_not_mem steady]
      · rw [words_append,hwords,←hbody]
        simp [opening,words]
    | @broken log flags steady error hwords =>
      refine ⟨by simp,?_⟩
      rw [←List.append_nil (log++errorAccesses flags)]
      refine onWire_cut steady error ?_ (fun word hword => absurd hword List.not_mem_nil)
        fun hc => absurd hc hstop
      rw [←hbody]
      exact hwords.map _

/-- A blocking transfer returns on every bus that keeps answering, and whatever it polled, its
words are the commands of the transfer: all of them when it succeeds, with the bytes it took
out of the receive FIFO put into the buffer; none of them when the bus was busy; and some
first ones, followed by a reset of the FIFOs and by stops only, when it fails. The subaddress
goes out from its most significant byte on, and the receive commands ask for `dataSize`
bytes in all. -/
theorem transfer_on_wire (transfer : Transfer) (haddress : transfer.slaveAddress.toNat<128)
    (hsize : transfer.subaddressSize≤4) :
    (masterTransferBlocking transfer).Returns Answers ∧
    bigEndian (subaddressBytes transfer.subaddress transfer.subaddressSize)=
      transfer.subaddress.toNat%256^transfer.subaddressSize ∧
    ∃ counts : Counts transfer.received, ∀ taken result bytes log,
      (masterTransferBlocking transfer).Takes taken (result,bytes) log →
        bytes=popped log ∧ (result=.success → bytes.length=transfer.received) ∧
          ((result=.busy ∧ words log=[]) ∨ OnWire (commands transfer counts)
            (transfer.flags&&&transferNoStopFlag=0) result log) := by
  refine ⟨masterTransferBlocking_returns transfer,bigEndian_subaddressBytes _ hsize,?_⟩
  obtain ⟨counts,hbody⟩ := decode_bodyWords haddress
  refine ⟨counts,fun taken result bytes log h => ?_⟩
  obtain ⟨flags,⟨rfl,rfl,rfl,-⟩|⟨rest,rfl,hfinishes,hlength⟩⟩ := masterTransferBlocking_takes h
  · exact ⟨rfl,⟨fun hr => absurd hr (by decide),Or.inl ⟨rfl,rfl⟩⟩⟩
  · obtain ⟨hbytes,hwire⟩ := finishes_onWire hbody hfinishes flags
    exact ⟨hbytes,hlength,Or.inr hwire⟩

/-- A read of one cell of the EEPROM. -/
def cellRead : Transfer := ⟨0,0x50,.read,0x0FFF,2,fun _ => 0,1⟩

/-- Nine polls that all show room, a byte and a stop. -/
def promptPolls : List Registers := List.replicate 9 ⟨0x201,0,0x5A⟩

/-- The read of one cell succeeds and is seen on the wire. -/
theorem cellRead_on_wire : ∃ log counts,
    (masterTransferBlocking cellRead).Takes promptPolls (.success,[0x5A]) log ∧
      OnWire (commands cellRead counts) (cellRead.flags&&&transferNoStopFlag=0) .success log := by
  obtain ⟨-,-,counts,h⟩ := transfer_on_wire cellRead (by decide) (by decide)
  obtain ⟨log,htakes⟩ : ∃ log, (masterTransferBlocking cellRead).Takes promptPolls
      (.success,[0x5A]) log := ⟨_,rfl⟩
  obtain ⟨-,-,⟨hbusy,-⟩|hwire⟩ := h _ _ _ _ htakes
  · cases hbusy
  · exact ⟨log,counts,htakes,hwire⟩

end WebDataLogger.Lpi2cWire
