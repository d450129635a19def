import WebDataLogger.PolledIo

/-!
# The polling master of the LPI2C driver

`LPI2C_MasterTransferBlocking` pushes command words into the transmit FIFO and polls the
status register between them. What the registers show is left open: every poll sees an
arbitrary `MSR`, `MFSR` and `MRDR`, so words may wait for room and bytes may be late, and
an error may show up in any poll. `I2C_RETRY_TIMES` is zero: the driver polls for ever.
-/

namespace WebDataLogger.Lpi2cMaster

open PolledIo

/-- `status_t` as the master returns it. -/
inductive Lpi2cStatus where
  | success
  | busy
  | nak
  | fifoError
  | arbitrationLost
  | pinLowTimeout
  deriving DecidableEq

/-- What the registers show in one turn of a polling loop. -/
structure Registers where
  /-- Status flags. -/
  msr : UInt32
  /-- Fill of the FIFOs. -/
  mfsr : UInt32
  /-- Head of the receive FIFO. -/
  mrdr : UInt32

/-- An access of the driver to its registers, in the order of the accesses. -/
inductive Access where
  /-- `LPI2C_MasterGetStatusFlags` returned these flags. -/
  | getStatusFlags (flags : UInt32)
  /-- `LPI2C_MasterClearStatusFlags`. -/
  | clearStatusFlags (flags : UInt32)
  /-- `MCR |= LPI2C_MCR_RRF_MASK | LPI2C_MCR_RTF_MASK`. -/
  | resetFifos
  /-- `MCFGR1 &= ~LPI2C_MCFGR1_AUTOSTOP_MASK`. -/
  | autoStopOff
  /-- A word is written to `MTDR`. -/
  | mtdr (word : UInt32)
  /-- `MRDR` was read. A byte read from it leaves the receive FIFO. -/
  | mrdr (value : UInt32)
  deriving DecidableEq

/-- A call of the driver. -/
abbrev Call := Polled Registers Access

/-- `kLPI2C_MasterTxReadyFlag`. -/
def masterTxReadyFlag : UInt32 := 0x1

/-- `kLPI2C_MasterStopDetectFlag`. -/
def masterStopDetectFlag : UInt32 := 0x200

/-- `kLPI2C_MasterNackDetectFlag`. -/
def masterNackDetectFlag : UInt32 := 0x400

/-- `kLPI2C_MasterArbitrationLostFlag`. -/
def masterArbitrationLostFlag : UInt32 := 0x800

/-- `kLPI2C_MasterFifoErrFlag`. -/
def masterFifoErrFlag : UInt32 := 0x1000

/-- `kLPI2C_MasterPinLowTimeoutFlag`. -/
def masterPinLowTimeoutFlag : UInt32 := 0x2000

/-- `kLPI2C_MasterBusyFlag`. -/
def masterBusyFlag : UInt32 := 0x1000000

/-- `kLPI2C_MasterBusBusyFlag`. -/
def masterBusBusyFlag : UInt32 := 0x2000000

/-- `kLPI2C_MasterErrorFlags`. -/
def masterErrorFlags : UInt32 :=
  masterNackDetectFlag|||masterArbitrationLostFlag|||masterFifoErrFlag|||masterPinLowTimeoutFlag

/-- `kLPI2C_MasterClearFlags`: end of packet, stop, data match and the errors. -/
def masterClearFlags : UInt32 := 0x100|||masterStopDetectFlag|||0x4000|||masterErrorFlags

/-- `kRxDataCmd`. -/
def rxDataCmd : UInt32 := 0x100

/-- `kStopCmd`. -/
def stopCmd : UInt32 := 0x200

/-- `kStartCmd`. -/
def startCmd : UInt16 := 0x400

/-- `LPI2C_MasterCheckAndClearError`: the accesses and the status. -/
def masterCheckAndClearError (status : UInt32) : List Access×Lpi2cStatus :=
  let status := status&&&masterErrorFlags
  if status≠0 then
    let result :=
      if status&&&masterPinLowTimeoutFlag≠0 then .pinLowTimeout
      else if status&&&masterArbitrationLostFlag≠0 then .arbitrationLost
      else if status&&&masterNackDetectFlag≠0 then .nak
      else if status&&&masterFifoErrFlag≠0 then .fifoError
      else .success
    ([.clearStatusFlags status,.resetFifos],result)
  else ([],.success)

/-- A turn of `LPI2C_MasterWaitForTxReady`. The FIFO has 8 words. -/
def waitForTxReadyTurn (registers : Registers) : List Access×Option Lpi2cStatus :=
  let txCount := 8-(registers.mfsr&&&0xF)
  let checked := masterCheckAndClearError registers.msr
  (.getStatusFlags registers.msr::checked.1,
    if checked.2≠.success then some checked.2 else if txCount=0 then none else some checked.2)

/-- `LPI2C_MasterWaitForTxReady`. -/
def masterWaitForTxReady : Call Lpi2cStatus := .loop waitForTxReadyTurn

/-- `LPI2C_CheckForBusyBus`: one reading. A bus is free when this master drives it. -/
def checkForBusyBus : Call Lpi2cStatus :=
  .loop fun registers => ([.getStatusFlags registers.msr],
    if registers.msr&&&masterBusBusyFlag≠0 ∧ registers.msr&&&masterBusyFlag=0 then some .busy
    else some .success)

/-- A turn of the loop of `LPI2C_MasterStop`. After an error the FIFOs are empty and the
stop is written again. -/
def stopTurn (registers : Registers) : List Access×Option Lpi2cStatus :=
  let checked := masterCheckAndClearError registers.msr
  let again := if checked.2≠.success then [Access.mtdr stopCmd] else []
  if registers.msr&&&masterStopDetectFlag≠0 ∧ registers.msr&&&masterTxReadyFlag≠0 then
    (.getStatusFlags registers.msr::checked.1++again++[.clearStatusFlags masterStopDetectFlag],
      some checked.2)
  else
    (.getStatusFlags registers.msr::checked.1++again,
      if checked.2≠.success then some checked.2 else none)

/-- `LPI2C_MasterStop`. The stop is written even when waiting for room failed. -/
def masterStop : Call Lpi2cStatus := do
  let result ← masterWaitForTxReady
  .emit [.mtdr stopCmd]
  if result≠.success then return result else .loop stopTurn

/-- Words that are pushed one by one, each when there is room for it. -/
def pushWords : List UInt32 → Call Lpi2cStatus
  | [] => return .success
  | word::words => do
    let result ← masterWaitForTxReady
    if result≠.success then return result
    else
      .emit [.mtdr word]
      pushWords words

/-- `LPI2C_MasterSend`. -/
def masterSend (txBuff : List UInt8) : Call Lpi2cStatus := pushWords (txBuff.map UInt8.toUInt32)

/-- A turn of the inner loop of `LPI2C_MasterReceive`. -/
def receiveTurn (registers : Registers) : List Access×Option (Lpi2cStatus×UInt32) :=
  let checked := masterCheckAndClearError registers.msr
  if checked.2≠.success then
    (.getStatusFlags registers.msr::checked.1,some (checked.2,0))
  else
    (.getStatusFlags registers.msr::checked.1++[.mrdr registers.mrdr],
      if registers.mrdr&&&0x4000≠0 then none else some (checked.2,registers.mrdr))

/-- The head of a turn of `LPI2C_MasterReceive`: the next receive command is pushed while
fewer than four bytes are asked for. It returns the bytes asked for and not yet received. -/
def requestChunk (rxSize chunkSize : ℕ) : Call (Lpi2cStatus×ℕ) :=
  if chunkSize<4 ∧ chunkSize<rxSize then do
    let result ← masterWaitForTxReady
    if result≠.success then return (result,chunkSize)
    else
      let tmpChunk := min (rxSize-chunkSize) 256
      .emit [.mtdr (rxDataCmd|||(UInt32.ofNat (tmpChunk-1)&&&0xFF))]
      return (.success,chunkSize+tmpChunk)
  else return (.success,chunkSize)

/-- The loop of `LPI2C_MasterReceive`, with the bytes put into the buffer. -/
def receiveLoop : ℕ → ℕ → Call (Lpi2cStatus×List UInt8)
  | 0,_ => return (.success,[])
  | rxSize+1,chunkSize => do
    let request ← requestChunk (rxSize+1) chunkSize
    if request.1≠.success then return (request.1,[])
    else
      let received ← Polled.loop receiveTurn
      if received.1≠.success then return (received.1,[])
      else
        let rest ← receiveLoop rxSize (request.2-1)
        return (rest.1,(received.2&&&0xFF).toUInt8::rest.2)

/-- `LPI2C_MasterReceive`. -/
def masterReceive (rxSize : ℕ) : Call (Lpi2cStatus×List UInt8) := receiveLoop rxSize 0

/-- `lpi2c_direction_t`. -/
inductive Direction where
  | write
  | read
  deriving DecidableEq

/-- The bit of the address byte. -/
def Direction.code : Direction → UInt16
  | .write => 0
  | .read => 1

/-- `lpi2c_master_transfer_t`. -/
structure Transfer where
  flags : UInt32
  /-- 7-bit address of the device. -/
  slaveAddress : UInt16
  direction : Direction
  subaddress : UInt32
  subaddressSize : ℕ
  /-- Bytes to write. A read ignores them. -/
  data : ℕ → UInt8
  dataSize : ℕ

/-- `kLPI2C_TransferNoStartFlag`. -/
def transferNoStartFlag : UInt32 := 0x01

/-- `kLPI2C_TransferNoStopFlag`. -/
def transferNoStopFlag : UInt32 := 0x04

/-- The start command with the address byte. -/
def startWord (slaveAddress : UInt16) (direction : Direction) : UInt16 :=
  startCmd|||(slaveAddress<<<1|||direction.code)

/-- The loop over the subaddress, most significant byte first. -/
def subaddressBytes (subaddress : UInt32) : ℕ → List UInt8
  | 0 => []
  | subaddressRemaining+1 =>
    (subaddress>>>(8*UInt32.ofNat subaddressRemaining)&&&0xFF).toUInt8::
      subaddressBytes subaddress subaddressRemaining

/-- Direction of the first address byte. A subaddress is always written. -/
def Transfer.firstDirection (transfer : Transfer) : Direction :=
  if transfer.subaddressSize≠0 then .write else transfer.direction

/-- `commandBuffer` of `LPI2C_MasterTransferBlocking`. -/
def Transfer.commandBuffer (transfer : Transfer) : List UInt16 :=
  (if transfer.flags&&&transferNoStartFlag=0 then
      [startWord transfer.slaveAddress transfer.firstDirection] else []) ++
    (subaddressBytes transfer.subaddress transfer.subaddressSize).map UInt8.toUInt16 ++
    if transfer.dataSize≠0 ∧ transfer.direction=.read then
      if transfer.firstDirection=.write then [startWord transfer.slaveAddress .read] else []
    else []

/-- The bytes of a write, in their order. -/
def Transfer.txBuff (transfer : Transfer) : List UInt8 :=
  (List.range transfer.dataSize).map transfer.data

/-- The data phase of `LPI2C_MasterTransferBlocking` after the status of the command
buffer, with the bytes received. -/
def transferData (transfer : Transfer) (result : Lpi2cStatus) : Call (Lpi2cStatus×List UInt8) :=
  if result≠.success then return (result,[])
  else match transfer.direction with
    | .write => do
      let result ← masterSend transfer.txBuff
      return (result,[])
    | .read => masterReceive transfer.dataSize

/-- `LPI2C_MasterTransferBlocking`, with the bytes put into the buffer of a read. -/
def masterTransferBlocking (transfer : Transfer) : Call (Lpi2cStatus×List UInt8) := do
  let result ← checkForBusyBus
  if result≠.success then return (result,[])
  else
    .emit [.clearStatusFlags masterClearFlags,.autoStopOff]
    let result ← pushWords (transfer.commandBuffer.map UInt16.toUInt32)
    let moved ← transferData transfer result
    if transfer.flags&&&transferNoStopFlag=0 then
      let stopResult ← masterStop
      return (if moved.1=.success then stopResult else moved.1,moved.2)
    else return moved

/-- The words written to `MTDR`. -/
def words (log : List Access) : List UInt32 :=
  log.filterMap fun
    | .mtdr word => some word
    | _ => none

/-- The bytes taken out of the receive FIFO. -/
def popped (log : List Access) : List UInt8 :=
  log.filterMap fun
    | .mrdr value => if value&&&0x4000=0 then some (value&&&0xFF).toUInt8 else none
    | _ => none

/-- An access of a transfer that goes well: no poll shows an error and no FIFO is reset. -/
def Access.Steady : Access → Prop
  | .getStatusFlags flags => flags&&&masterErrorFlags=0
  | .mtdr _ => True
  | .mrdr _ => True
  | _ => False

/-- The accesses after a poll that shows an error. -/
def errorAccesses (flags : UInt32) : List Access :=
  [.getStatusFlags flags,.clearStatusFlags (flags&&&masterErrorFlags),.resetFifos]

@[simp] theorem words_append (log log' : List Access) : words (log++log')=words log++words log' :=
  List.filterMap_append

@[simp] theorem popped_append (log log' : List Access) :
    popped (log++log')=popped log++popped log' :=
  List.filterMap_append

@[simp] theorem words_errorAccesses (flags : UInt32) : words (errorAccesses flags)=[] := rfl

@[simp] theorem popped_errorAccesses (flags : UInt32) : popped (errorAccesses flags)=[] := rfl

/-- Conjunction distributes over disjunction. -/
theorem and_or_distrib (a b c : UInt32) : a&&&(b|||c)=a&&&b|||a&&&c := by
  apply UInt32.toBitVec_inj.mp
  exact BitVec.and_or_distrib_left

/-- Flags without an error are left alone. -/
theorem masterCheckAndClearError_steady {flags : UInt32} (h : flags&&&masterErrorFlags=0) :
    masterCheckAndClearError flags=([],.success) := by
  unfold masterCheckAndClearError
  dsimp only
  rw [if_neg (not_not_intro h)]

/-- Flags with an error are cleared with a reset of the FIFOs, and the status says so: the
last branch of the source, which keeps `kStatus_Success`, is never taken. -/
theorem masterCheckAndClearError_error {flags : UInt32} (h : flags&&&masterErrorFlags≠0) :
    (masterCheckAndClearError flags).1=
        [.clearStatusFlags (flags&&&masterErrorFlags),.resetFifos] ∧
      (masterCheckAndClearError flags).2≠.success ∧ (masterCheckAndClearError flags).2≠.busy := by
  unfold masterCheckAndClearError
  dsimp only
  rw [if_pos h]
  refine ⟨rfl,?_⟩
  dsimp only
  split
  · simp
  next hpin =>
    split
    · simp
    next harbitration =>
      split
      · simp
      next hnak =>
        split
        · simp
        next hfifo =>
          exfalso
          rw [ne_eq,not_not] at hpin harbitration hnak hfifo
          apply h
          have hself : flags&&&masterErrorFlags=flags&&&masterErrorFlags&&&masterErrorFlags := by
            rw [UInt32.and_assoc,UInt32.and_self]
          rw [hself]
          conv_lhs => arg 2; unfold masterErrorFlags
          simp only [and_or_distrib,hpin,harbitration,hnak,hfifo]
          rfl

/-- How a part of a transfer ends that writes the words `ws`: well, with all of them
written, or in an error with some first of them written. The bytes are those taken out of
the receive FIFO. -/
inductive Moves (ws : List UInt32) : Lpi2cStatus → List UInt8 → List Access → Prop where
  /-- No poll showed an error. -/
  | well {log : List Access} (steady : ∀ a∈log, a.Steady) (hwords : words log=ws) :
    Moves ws .success (popped log) log
  /-- The last poll showed an error. -/
  | broken {log : List Access} {flags : UInt32} (steady : ∀ a∈log, a.Steady)
    (error : flags&&&masterErrorFlags≠0) (hwords : words log<+:ws) :
    Moves ws (masterCheckAndClearError flags).2 (popped log) (log++errorAccesses flags)

/-- A part that goes well and one after it. -/
theorem Moves.append {ws ws' : List UInt32} {result : Lpi2cStatus} {bytes bytes' : List UInt8}
    {log log' : List Access} (h : Moves ws .success bytes log) (h' : Moves ws' result bytes' log') :
    Moves (ws++ws') result (bytes++bytes') (log++log') := by
  generalize hresult : Lpi2cStatus.success=first at h
  cases h with
  | broken steady error hwords => exact absurd hresult.symm (masterCheckAndClearError_error error).2.1
  | well steady hwords =>
    have hboth : ∀ {second : List Access}, (∀ a∈second, a.Steady) → ∀ a∈log++second, a.Steady :=
      fun hsecond a ha => (List.mem_append.mp ha).elim (steady a) (hsecond a)
    cases h' with
    | well steady' hwords' =>
      rw [←popped_append]
      exact .well (hboth steady') (by rw [words_append,hwords,hwords'])
    | broken steady' error' hwords' =>
      rw [←popped_append,←List.append_assoc]
      refine .broken (hboth steady') error' ?_
      rw [words_append,hwords,List.prefix_append_right_inj]
      exact hwords'

/-- A part that breaks off leaves out what was to follow. -/
theorem Moves.stop {ws : List UInt32} {result : Lpi2cStatus} {bytes : List UInt8}
    {log : List Access} (h : Moves ws result bytes log) (hresult : result≠.success)
    (ws' : List UInt32) : Moves (ws++ws') result bytes log := by
  cases h with
  | well steady hwords => exact absurd rfl hresult
  | broken steady error hwords => exact .broken steady error (List.prefix_append_of_prefix hwords)

/-- Nothing is moved. -/
theorem Moves.nil : Moves [] .success [] [] :=
  .well (fun _ ha => absurd ha List.not_mem_nil) rfl

/-- A word is moved. -/
theorem Moves.word (word : UInt32) : Moves [word] .success [] [.mtdr word] := by
  refine @Moves.well [word] [.mtdr word] (fun a ha => ?_) rfl
  rw [List.mem_singleton.mp ha]
  trivial

/-- The first poll shows an error. -/
theorem Moves.atOnce {ws : List UInt32} {flags : UInt32} (error : flags&&&masterErrorFlags≠0) :
    Moves ws (masterCheckAndClearError flags).2 [] (errorAccesses flags) :=
  @Moves.broken ws [] flags (fun _ ha => absurd ha List.not_mem_nil) error List.nil_prefix

/-- A polling loop that moves no word. Its waiting turns and a turn that ends it well are
steady, and every other turn shows an error. -/
theorem moves_loop {α : Type} {turn : Registers → List Access×Option α} (status : α → Lpi2cStatus)
    (bytes : α → List UInt8)
    (hwait : ∀ r, (turn r).2=none →
      (∀ a∈(turn r).1, a.Steady) ∧ words (turn r).1=[] ∧ popped (turn r).1=[])
    (hend : ∀ r a, (turn r).2=some a → Moves [] (status a) (bytes a) (turn r).1)
    {taken : List Registers} {a : α} {log : List Access}
    (h : (Polled.loop turn : Call α).Takes taken a log) : Moves [] (status a) (bytes a) log := by
  obtain ⟨waited,last,-,hnone,hlast,rfl⟩ := Polled.takes_loop.mp h
  have hquiet : Moves [] .success [] (waited.flatMap fun w => (turn w).1) := by
    clear h
    induction waited with
    | nil => exact .nil
    | cons w waited ih =>
      obtain ⟨hsteady,hwords,hpopped⟩ := hwait w (hnone w List.mem_cons_self)
      have hfirst := Moves.well hsteady hwords
      rw [hpopped] at hfirst
      exact hfirst.append (ih fun v hv => hnone v (List.mem_cons_of_mem w hv))
  exact hquiet.append (hend last a hlast)

/-- Waiting for room moves nothing. -/
theorem masterWaitForTxReady_moves {taken : List Registers} {result : Lpi2cStatus}
    {log : List Access} (h : masterWaitForTxReady.Takes taken result log) :
    Moves [] result [] log := by
  refine moves_loop id (fun _ => []) ?_ ?_ h
  · intro r hwait
    unfold waitForTxReadyTurn at hwait ⊢
    by_cases herror : r.msr&&&masterErrorFlags=0
    · rw [masterCheckAndClearError_steady herror]
      refine ⟨fun a ha => ?_,rfl,rfl⟩
      rw [List.mem_singleton.mp ha]
      exact herror
    · simp [(masterCheckAndClearError_error herror).2.1] at hwait
  · intro r result hend
    unfold waitForTxReadyTurn at hend ⊢
    by_cases herror : r.msr&&&masterErrorFlags=0
    · rw [masterCheckAndClearError_steady herror] at hend ⊢
      dsimp only at hend ⊢
      rw [if_neg (not_not_intro rfl)] at hend
      split at hend
      · cases hend
      · cases hend
        refine @Moves.well [] [.getStatusFlags r.msr] (fun a ha => ?_) rfl
        rw [List.mem_singleton.mp ha]
        exact herror
    · obtain ⟨haccesses,hne,-⟩ := masterCheckAndClearError_error herror
      dsimp only at hend ⊢
      rw [if_pos hne] at hend
      cases hend
      rw [haccesses]
      exact .atOnce herror

/-- Words are pushed in their order, up to the first error. -/
theorem pushWords_moves {ws : List UInt32} {taken : List Registers} {result : Lpi2cStatus}
    {log : List Access} (h : (pushWords ws).Takes taken result log) : Moves ws result [] log := by
  induction ws generalizing taken result log with
  | nil =>
    obtain ⟨-,rfl,rfl⟩ := Polled.takes_pure.mp h
    exact .nil
  | cons word ws ih =>
    rw [pushWords,Polled.takes_bind] at h
    obtain ⟨_,_,waited,_,_,-,rfl,hwait,h⟩ := h
    have hmoves := masterWaitForTxReady_moves hwait
    by_cases hwell : waited=.success
    · rw [if_neg (not_not_intro hwell),Polled.takes_bind] at h
      obtain ⟨_,_,_,_,_,-,rfl,hword,hrest⟩ := h
      obtain ⟨-,rfl⟩ := Polled.takes_emit.mp hword
      rw [hwell] at hmoves
      exact hmoves.append ((Moves.word word).append (ih hrest))
    · rw [if_pos hwell] at h
      obtain ⟨-,rfl,rfl⟩ := Polled.takes_pure.mp h
      rw [List.append_nil]
      exact hmoves.stop hwell (word::ws)

/-- The receive command pushed at the head of a turn. -/
def requestWords (rxSize chunkSize : ℕ) : List UInt32 :=
  if chunkSize<4 ∧ chunkSize<rxSize then
    [rxDataCmd|||(UInt32.ofNat (min (rxSize-chunkSize) 256-1)&&&0xFF)]
  else []

/-- Bytes asked for and not yet received, after the head of a turn. -/
def requested (rxSize chunkSize : ℕ) : ℕ :=
  if chunkSize<4 ∧ chunkSize<rxSize then chunkSize+min (rxSize-chunkSize) 256 else chunkSize

/-- The head of a turn pushes at most one command. -/
theorem requestChunk_moves {rxSize chunkSize : ℕ} {taken : List Registers} {result : Lpi2cStatus}
    {chunk : ℕ} {log : List Access}
    (h : (requestChunk rxSize chunkSize).Takes taken (result,chunk) log) :
    Moves (requestWords rxSize chunkSize) result [] log ∧
      (result=.success → chunk=requested rxSize chunkSize) := by
  unfold requestChunk at h
  unfold requestWords requested
  split at h
  next hfew =>
    rw [if_pos hfew,if_pos hfew]
    rw [Polled.takes_bind] at h
    obtain ⟨_,_,waited,_,_,-,rfl,hwait,h⟩ := h
    have hmoves := masterWaitForTxReady_moves hwait
    by_cases hwell : waited=.success
    · rw [if_neg (not_not_intro hwell),Polled.takes_bind] at h
      obtain ⟨_,_,_,_,_,-,rfl,hword,hrest⟩ := h
      obtain ⟨-,rfl⟩ := Polled.takes_emit.mp hword
      obtain ⟨-,heq,rfl⟩ := Polled.takes_pure.mp hrest
      obtain ⟨rfl,rfl⟩ := Prod.mk.inj heq
      rw [hwell] at hmoves
      rw [List.append_nil]
      exact ⟨hmoves.append (Moves.word _),fun _ => rfl⟩
    · rw [if_pos hwell] at h
      obtain ⟨-,heq,rfl⟩ := Polled.takes_pure.mp h
      obtain ⟨rfl,rfl⟩ := Prod.mk.inj heq
      rw [List.append_nil]
      exact ⟨hmoves.stop hwell _,fun hr => absurd hr hwell⟩
  next hfew =>
    rw [if_neg hfew,if_neg hfew]
    obtain ⟨-,heq,rfl⟩ := Polled.takes_pure.mp h
    obtain ⟨rfl,rfl⟩ := Prod.mk.inj heq
    exact ⟨.nil,fun _ => rfl⟩

/-- The byte that a turn hands on. -/
def handedOn (received : Lpi2cStatus×UInt32) : List UInt8 :=
  if received.1=.success then [(received.2&&&0xFF).toUInt8] else []

/-- The inner loop of a receive takes one byte out of the FIFO, or none when it ends in an
error. -/
theorem receiveTurn_moves {taken : List Registers} {received : Lpi2cStatus×UInt32}
    {log : List Access} (h : (Polled.loop receiveTurn : Call _).Takes taken received log) :
    Moves [] received.1 (handedOn received) log := by
  refine moves_loop Prod.fst handedOn ?_ ?_ h
  · intro r hwait
    unfold receiveTurn at hwait ⊢
    by_cases herror : r.msr&&&masterErrorFlags=0
    · rw [masterCheckAndClearError_steady herror] at hwait ⊢
      dsimp only at hwait ⊢
      rw [if_neg (not_not_intro rfl)] at hwait ⊢
      have hempty : r.mrdr&&&0x4000≠0 := by
        intro hfull
        rw [if_neg (not_not_intro hfull)] at hwait
        cases hwait
      refine ⟨?_,rfl,?_⟩
      · intro a ha
        rcases List.mem_cons.mp ha with rfl|ha
        · exact herror
        · rw [List.mem_singleton.mp ha]
          trivial
      · simp [popped,hempty]
    · simp [(masterCheckAndClearError_error herror).2.1] at hwait
  · intro r received hend
    unfold receiveTurn at hend ⊢
    by_cases herror : r.msr&&&masterErrorFlags=0
    · rw [masterCheckAndClearError_steady herror] at hend ⊢
      dsimp only at hend ⊢
      rw [if_neg (not_not_intro rfl)] at hend ⊢
      split at hend
      · cases hend
      next hfull =>
        cases hend
        have hbyte : popped [.getStatusFlags r.msr,.mrdr r.mrdr]=[(r.mrdr&&&0xFF).toUInt8] := by
          rw [ne_eq,not_not] at hfull
          simp [popped,hfull]
        change Moves [] .success [(r.mrdr&&&0xFF).toUInt8] [.getStatusFlags r.msr,.mrdr r.mrdr]
        rw [←hbyte]
        refine .well ?_ rfl
        intro a ha
        rcases List.mem_cons.mp ha with rfl|ha
        · exact herror
        · rw [List.mem_singleton.mp ha]
          trivial
    · obtain ⟨haccesses,hne,-⟩ := masterCheckAndClearError_error herror
      dsimp only at hend ⊢
      rw [if_pos hne] at hend ⊢
      cases hend
      rw [haccesses,handedOn,if_neg hne]
      exact .atOnce herror

/-- The receive commands of a read. -/
def receiveWords : ℕ → ℕ → List UInt32
  | 0,_ => []
  | rxSize+1,chunkSize =>
    requestWords (rxSize+1) chunkSize++receiveWords rxSize (requested (rxSize+1) chunkSize-1)

/-- A receive hands on the bytes it takes out of the FIFO, and all of them when it goes well. -/
theorem receiveLoop_moves {rxSize chunkSize : ℕ} {taken : List Registers} {result : Lpi2cStatus}
    {bytes : List UInt8} {log : List Access}
    (h : (receiveLoop rxSize chunkSize).Takes taken (result,bytes) log) :
    Moves (receiveWords rxSize chunkSize) result bytes log ∧
      (result=.success → bytes.length=rxSize) := by
  induction rxSize generalizing chunkSize taken result bytes log with
  | zero =>
    obtain ⟨-,heq,rfl⟩ := Polled.takes_pure.mp h
    obtain ⟨rfl,rfl⟩ := Prod.mk.inj heq
    exact ⟨.nil,fun _ => rfl⟩
  | succ rxSize ih =>
    rw [receiveLoop,Polled.takes_bind] at h
    rw [receiveWords]
    obtain ⟨_,_,⟨asked,chunk⟩,_,_,-,rfl,hrequest,h⟩ := h
    obtain ⟨hmoves,hchunk⟩ := requestChunk_moves hrequest
    by_cases hasked : asked=.success
    · rw [if_neg (not_not_intro hasked),Polled.takes_bind] at h
      obtain ⟨_,_,received,_,_,-,rfl,hreceived,h⟩ := h
      have hbyte := receiveTurn_moves hreceived
      rw [hasked] at hmoves
      by_cases hwell : received.1=.success
      · rw [if_neg (not_not_intro hwell),Polled.takes_bind] at h
        obtain ⟨_,_,⟨_,_⟩,_,_,-,rfl,hrest,h⟩ := h
        obtain ⟨-,heq,rfl⟩ := Polled.takes_pure.mp h
        obtain ⟨rfl,rfl⟩ := Prod.mk.inj heq
        rw [hchunk hasked] at hrest
        obtain ⟨hrestMoves,hlength⟩ := ih hrest
        rw [handedOn,if_pos hwell,hwell] at hbyte
        rw [List.append_nil]
        refine ⟨hmoves.append (hbyte.append hrestMoves),fun hr => ?_⟩
        rw [List.length_cons,hlength hr]
      · rw [if_pos hwell] at h
        obtain ⟨-,heq,rfl⟩ := Polled.takes_pure.mp h
        obtain ⟨rfl,rfl⟩ := Prod.mk.inj heq
        rw [handedOn,if_neg hwell] at hbyte
        rw [List.append_nil]
        exact ⟨hmoves.append (hbyte.stop hwell _),fun hr => absurd hr hwell⟩
    · rw [if_pos hasked] at h
      obtain ⟨-,heq,rfl⟩ := Polled.takes_pure.mp h
      obtain ⟨rfl,rfl⟩ := Prod.mk.inj heq
      rw [List.append_nil]
      exact ⟨hmoves.stop hasked _,fun hr => absurd hr hasked⟩

/-- What the driver still does after an error: it pushes stops. -/
structure Aftermath (log : List Access) : Prop where
  stops : ∀ word∈words log, word=stopCmd
  quiet : popped log=[]

/-- One aftermath and then another. -/
theorem Aftermath.append {log log' : List Access} (h : Aftermath log) (h' : Aftermath log') :
    Aftermath (log++log') where
  stops word hword := by
    rw [words_append] at hword
    exact (List.mem_append.mp hword).elim (h.stops word) (h'.stops word)
  quiet := by rw [popped_append,h.quiet,h'.quiet,List.append_nil]

/-- A part that moves no word is an aftermath. -/
theorem Moves.aftermath {result : Lpi2cStatus} {log : List Access} (h : Moves [] result [] log) :
    Aftermath log := by
  generalize hbytes : ([] : List UInt8)=bytes at h
  generalize hws : ([] : List UInt32)=ws at h
  cases h with
  | well steady hwords =>
    rw [←hws] at hwords
    refine ⟨fun word hword => ?_,hbytes.symm⟩
    rw [hwords] at hword
    cases hword
  | @broken log flags steady error hwords =>
    rw [←hws] at hwords
    have hnone := List.prefix_nil.mp hwords
    refine ⟨fun word hword => ?_,?_⟩
    · rw [words_append,hnone,words_errorAccesses,List.append_nil] at hword
      cases hword
    · rw [popped_append,←hbytes,popped_errorAccesses,List.append_nil]

/-- A stop that was pushed. -/
theorem Aftermath.stop : Aftermath [.mtdr stopCmd] :=
  ⟨fun _ hword => List.mem_singleton.mp hword,rfl⟩

/-- How a transfer ends that writes the words `ws`. The log is that of the accesses after
its start. -/
inductive Ends (ws : List UInt32) : Lpi2cStatus → List UInt8 → List Access → Prop where
  /-- The stop was seen on the bus with the transmit FIFO empty. -/
  | stopped {log : List Access} {flags : UInt32} (steady : ∀ a∈log, a.Steady) (hwords : words log=ws)
    (clean : flags&&&masterErrorFlags=0) (seen : flags&&&masterStopDetectFlag≠0)
    (empty : flags&&&masterTxReadyFlag≠0) :
    Ends ws .success (popped log)
      (log++[.getStatusFlags flags,.clearStatusFlags masterStopDetectFlag])
  /-- A poll showed an error. Nothing but stops is pushed after it, and at least one. -/
  | broken {log tail : List Access} {flags : UInt32} (steady : ∀ a∈log, a.Steady)
    (error : flags&&&masterErrorFlags≠0) (hwords : words log<+:ws) (aftermath : Aftermath tail)
    (hstop : stopCmd∈words tail) :
    Ends ws (masterCheckAndClearError flags).2 (popped log) (log++errorAccesses flags++tail)

/-- A part that goes well before the end. -/
theorem Ends.after {ws ws' : List UInt32} {result : Lpi2cStatus} {bytes bytes' : List UInt8}
    {log log' : List Access} (h : Moves ws .success bytes log) (h' : Ends ws' result bytes' log') :
    Ends (ws++ws') result (bytes++bytes') (log++log') := by
  cases h' with
  | stopped steady hwords clean seen empty =>
    generalize hresult : Lpi2cStatus.success=first at h
    cases h with
    | broken _ error _ => exact absurd hresult.symm (masterCheckAndClearError_error error).2.1
    | well before hbefore =>
      rw [←popped_append,←List.append_assoc]
      refine .stopped (fun a ha => (List.mem_append.mp ha).elim (before a) (steady a)) ?_ clean seen
        empty
      rw [words_append,hbefore,hwords]
  | @broken log₂ tail flags steady error hwords aftermath hstop =>
    have hboth := h.append (Moves.broken steady error hwords)
    rw [←List.append_assoc] at hboth ⊢
    rw [←List.append_assoc]
    generalize hresult : Lpi2cStatus.success=first at h
    cases h with
    | broken _ error _ => exact absurd hresult.symm (masterCheckAndClearError_error error).2.1
    | well before hbefore =>
      rw [←popped_append]
      refine .broken (fun a ha => (List.mem_append.mp ha).elim (before a) (steady a)) error ?_
        aftermath hstop
      rw [words_append,hbefore,List.prefix_append_right_inj]
      exact hwords

/-- A part that breaks off before the aftermath. -/
theorem Ends.brokenOff {ws : List UInt32} {result : Lpi2cStatus} {bytes : List UInt8}
    {log tail : List Access} (h : Moves ws result bytes log) (hresult : result≠.success)
    (aftermath : Aftermath tail) (hstop : stopCmd∈words tail) :
    Ends ws result bytes (log++tail) := by
  cases h with
  | well _ _ => exact absurd rfl hresult
  | broken steady error hwords => exact .broken steady error hwords aftermath hstop

/-- The loop of a stop ends with the stop on the bus or with an error. -/
theorem stopTurn_ends {taken : List Registers} {result : Lpi2cStatus} {log : List Access}
    (h : (Polled.loop stopTurn : Call _).Takes taken result log) : Ends [] result [] log := by
  obtain ⟨waited,last,-,hnone,hlast,rfl⟩ := Polled.takes_loop.mp h
  have hquiet : Moves [] .success [] (waited.flatMap fun w => (stopTurn w).1) := by
    clear h
    induction waited with
    | nil => exact .nil
    | cons w waited ih =>
      have hw := hnone w List.mem_cons_self
      have hsteady : w.msr&&&masterErrorFlags=0 ∧ (stopTurn w).1=[.getStatusFlags w.msr] := by
        unfold stopTurn at hw ⊢
        dsimp only at hw ⊢
        by_cases hseen : w.msr&&&masterStopDetectFlag≠0 ∧ w.msr&&&masterTxReadyFlag≠0
        · rw [if_pos hseen] at hw
          cases hw
        · rw [if_neg hseen] at hw ⊢
          by_cases herror : w.msr&&&masterErrorFlags=0
          · rw [masterCheckAndClearError_steady herror]
            exact ⟨herror,rfl⟩
          · simp [(masterCheckAndClearError_error herror).2.1] at hw
      rw [List.flatMap_cons,hsteady.2]
      refine (@Moves.well [] [.getStatusFlags w.msr] (fun a ha => ?_) rfl).append
        (ih fun v hv => hnone v (List.mem_cons_of_mem w hv))
      rw [List.mem_singleton.mp ha]
      exact hsteady.1
  refine Ends.after hquiet ?_
  unfold stopTurn at hlast ⊢
  dsimp only at hlast ⊢
  by_cases herror : last.msr&&&masterErrorFlags=0
  · rw [masterCheckAndClearError_steady herror] at hlast ⊢
    dsimp only at hlast ⊢
    rw [if_neg (not_not_intro rfl)] at hlast ⊢
    split at hlast
    next hseen =>
      cases hlast
      rw [if_pos hseen]
      exact @Ends.stopped [] [] last.msr (fun _ ha => absurd ha List.not_mem_nil) rfl herror
        hseen.1 hseen.2
    · rw [if_neg (not_not_intro rfl)] at hlast
      cases hlast
  · obtain ⟨haccesses,hne,-⟩ := masterCheckAndClearError_error herror
    rw [haccesses,if_pos hne] at hlast ⊢
    have hbroken : ∀ {tail : List Access}, Aftermath tail → stopCmd∈words tail →
        Ends [] (masterCheckAndClearError last.msr).2 [] (errorAccesses last.msr++tail) :=
      fun haftermath hstop =>
        @Ends.broken [] [] _ last.msr (fun _ ha => absurd ha List.not_mem_nil) herror
          List.nil_prefix haftermath hstop
    split at hlast
    next hseen =>
      cases hlast
      rw [if_pos hseen]
      exact hbroken (Aftermath.stop.append ⟨fun _ hw => absurd hw List.not_mem_nil,rfl⟩)
        List.mem_cons_self
    next hgoing =>
      cases hlast
      rw [if_neg hgoing]
      exact hbroken Aftermath.stop List.mem_cons_self

/-- `LPI2C_MasterStop` pushes a stop and sees it on the bus, or ends in an error. -/
theorem masterStop_ends {taken : List Registers} {result : Lpi2cStatus} {log : List Access}
    (h : masterStop.Takes taken result log) : Ends [stopCmd] result [] log := by
  unfold masterStop at h
  rw [Polled.takes_bind] at h
  obtain ⟨_,_,waited,_,_,-,rfl,hwait,h⟩ := h
  have hmoves := masterWaitForTxReady_moves hwait
  rw [Polled.takes_bind] at h
  obtain ⟨_,_,_,_,_,-,rfl,hstop,h⟩ := h
  obtain ⟨-,rfl⟩ := Polled.takes_emit.mp hstop
  by_cases hwell : waited=.success
  · rw [if_neg (not_not_intro hwell)] at h
    rw [hwell] at hmoves
    exact Ends.after hmoves (Ends.after (Moves.word stopCmd) (stopTurn_ends h))
  · rw [if_pos hwell] at h
    obtain ⟨-,rfl,rfl⟩ := Polled.takes_pure.mp h
    exact Ends.brokenOff (hmoves.stop hwell [stopCmd]) hwell Aftermath.stop List.mem_cons_self

/-- A stop after an error is its aftermath, whatever the stop itself returns. -/
theorem masterStop_aftermath {taken : List Registers} {result : Lpi2cStatus} {log : List Access}
    (h : masterStop.Takes taken result log) : Aftermath log ∧ stopCmd∈words log := by
  have hends := masterStop_ends h
  generalize hbytes : ([] : List UInt8)=bytes at hends
  cases hends with
  | @stopped log flags steady hwords clean seen empty =>
    refine ⟨⟨?_,?_⟩,?_⟩
    · intro word hword
      rw [words_append,hwords] at hword
      exact List.mem_singleton.mp (by simpa [words] using hword)
    · rw [popped_append,←hbytes]
      rfl
    · rw [words_append,hwords]
      exact List.mem_cons_self
  | @broken log tail flags steady error hwords aftermath hstop =>
    refine ⟨⟨?_,?_⟩,?_⟩
    · intro word hword
      rw [words_append,words_append,words_errorAccesses,List.append_nil] at hword
      rcases List.mem_append.mp hword with hfirst|htail
      · exact List.mem_singleton.mp (hwords.subset hfirst)
      · exact aftermath.stops word htail
    · rw [popped_append,popped_append,←hbytes,aftermath.quiet]
      rfl
    · rw [words_append]
      exact List.mem_append_right _ hstop

/-- Words of the data phase. -/
def Transfer.dataWords (transfer : Transfer) : List UInt32 :=
  match transfer.direction with
  | .write => transfer.txBuff.map UInt8.toUInt32
  | .read => receiveWords transfer.dataSize 0

/-- Words of a transfer up to its stop. -/
def Transfer.bodyWords (transfer : Transfer) : List UInt32 :=
  transfer.commandBuffer.map UInt16.toUInt32++transfer.dataWords

/-- Bytes that a transfer that goes well puts into the buffer. -/
def Transfer.received (transfer : Transfer) : ℕ :=
  match transfer.direction with
  | .write => 0
  | .read => transfer.dataSize

/-- The data phase writes its words and hands on its bytes. -/
theorem transferData_moves {transfer : Transfer} {taken : List Registers} {result : Lpi2cStatus}
    {bytes : List UInt8} {log : List Access}
    (h : (transferData transfer .success).Takes taken (result,bytes) log) :
    Moves transfer.dataWords result bytes log ∧
      (result=.success → bytes.length=transfer.received) := by
  rw [transferData,if_neg (not_not_intro rfl)] at h
  unfold Transfer.dataWords Transfer.received
  cases hdirection : transfer.direction with
  | write =>
    rw [hdirection] at h
    dsimp only at h ⊢
    rw [Polled.takes_bind] at h
    obtain ⟨_,_,result',_,_,-,rfl,hsend,h⟩ := h
    obtain ⟨-,heq,rfl⟩ := Polled.takes_pure.mp h
    obtain ⟨rfl,rfl⟩ := Prod.mk.inj heq
    rw [List.append_nil]
    exact ⟨pushWords_moves hsend,fun _ => rfl⟩
  | read =>
    rw [hdirection] at h
    exact receiveLoop_moves h

/-- How the accesses of a transfer end after its start. -/
def Transfer.Finishes (transfer : Transfer) (result : Lpi2cStatus) (bytes : List UInt8)
    (log : List Access) : Prop :=
  if transfer.flags&&&transferNoStopFlag=0 then Ends (transfer.bodyWords++[stopCmd]) result bytes log
  else Moves transfer.bodyWords result bytes log

/-- The accesses before the first word. -/
def opening (flags : UInt32) : List Access :=
  [.getStatusFlags flags,.clearStatusFlags masterClearFlags,.autoStopOff]

/-- The bus test takes one reading. -/
theorem checkForBusyBus_takes {taken : List Registers} {result : Lpi2cStatus} {log : List Access}
    (h : checkForBusyBus.Takes taken result log) :
    ∃ flags, log=[.getStatusFlags flags] ∧ ((result=.success ∧
        ¬(flags&&&masterBusBusyFlag≠0 ∧ flags&&&masterBusyFlag=0)) ∨ (result=.busy ∧
          flags&&&masterBusBusyFlag≠0 ∧ flags&&&masterBusyFlag=0)) := by
  obtain ⟨waited,last,-,hnone,hlast,rfl⟩ := Polled.takes_loop.mp h
  have hwaited : waited=[] := by
    refine List.eq_nil_iff_forall_not_mem.mpr fun w hw => ?_
    have hw := hnone w hw
    dsimp only at hw
    split at hw <;> cases hw
  rw [hwaited]
  refine ⟨last.msr,rfl,?_⟩
  dsimp only at hlast
  split at hlast
  next hbusy =>
    cases hlast
    exact Or.inr ⟨rfl,hbusy⟩
  next hfree =>
    cases hlast
    exact Or.inl ⟨rfl,hfree⟩

/-- A transfer is refused on a busy bus, and else it writes its words. -/
theorem masterTransferBlocking_takes {transfer : Transfer} {taken : List Registers}
    {result : Lpi2cStatus} {bytes : List UInt8} {log : List Access}
    (h : (masterTransferBlocking transfer).Takes taken (result,bytes) log) :
    ∃ flags, (result=.busy ∧ bytes=[] ∧ log=[.getStatusFlags flags] ∧
        flags&&&masterBusBusyFlag≠0 ∧ flags&&&masterBusyFlag=0) ∨
      ∃ rest, log=opening flags++rest ∧ transfer.Finishes result bytes rest ∧
        (result=.success → bytes.length=transfer.received) := by
  unfold masterTransferBlocking at h
  rw [Polled.takes_bind] at h
  obtain ⟨_,_,checked,_,_,-,rfl,hcheck,h⟩ := h
  obtain ⟨flags,rfl,⟨rfl,-⟩|⟨rfl,hbusy⟩⟩ := checkForBusyBus_takes hcheck
  · rw [if_neg (not_not_intro rfl),Polled.takes_bind] at h
    obtain ⟨_,_,_,_,_,-,rfl,hopening,h⟩ := h
    obtain ⟨-,rfl⟩ := Polled.takes_emit.mp hopening
    rw [Polled.takes_bind] at h
    obtain ⟨_,_,pushed,commandLog,_,-,rfl,hpush,h⟩ := h
    rw [Polled.takes_bind] at h
    obtain ⟨_,_,moved,dataLog,_,-,rfl,hdata,h⟩ := h
    refine ⟨flags,Or.inr ⟨_,rfl,?_⟩⟩
    have hpushed := pushWords_moves hpush
    have hbody : Moves transfer.bodyWords moved.1 moved.2 (commandLog++dataLog) ∧
        (moved.1=.success → moved.2.length=transfer.received) := by
      by_cases hwell : pushed=.success
      · rw [hwell] at hpushed hdata
        obtain ⟨hmoves,hlength⟩ := transferData_moves hdata
        exact ⟨hpushed.append hmoves,hlength⟩
      · rw [transferData,if_pos hwell] at hdata
        obtain ⟨-,rfl,rfl⟩ := Polled.takes_pure.mp hdata
        rw [List.append_nil]
        exact ⟨hpushed.stop hwell _,fun hr => absurd hr hwell⟩
    rw [←List.append_assoc]
    unfold Transfer.Finishes
    by_cases hstop : transfer.flags&&&transferNoStopFlag=0
    · rw [if_pos hstop] at h ⊢
      rw [Polled.takes_bind] at h
      obtain ⟨_,_,stopResult,_,_,-,rfl,hstopped,h⟩ := h
      obtain ⟨-,heq,rfl⟩ := Polled.takes_pure.mp h
      obtain ⟨rfl,rfl⟩ := Prod.mk.inj heq
      rw [List.append_nil]
      by_cases hwell : moved.1=.success
      · rw [if_pos hwell]
        rw [hwell] at hbody
        have hends := Ends.after hbody.1 (masterStop_ends hstopped)
        rw [List.append_nil] at hends
        exact ⟨hends,fun _ => hbody.2 rfl⟩
      · rw [if_neg hwell]
        obtain ⟨haftermath,hmem⟩ := masterStop_aftermath hstopped
        exact ⟨Ends.brokenOff (hbody.1.stop hwell _) hwell haftermath hmem,fun hr => absurd hr hwell⟩
    · rw [if_neg hstop] at h ⊢
      obtain ⟨-,rfl,rfl⟩ := Polled.takes_pure.mp h
      rw [List.append_nil]
      exact hbody
  · rw [if_pos (by decide)] at h
    obtain ⟨-,heq,rfl⟩ := Polled.takes_pure.mp h
    obtain ⟨rfl,rfl⟩ := Prod.mk.inj heq
    exact ⟨flags,Or.inl ⟨rfl,rfl,rfl,hbusy⟩⟩

end WebDataLogger.Lpi2cMaster
