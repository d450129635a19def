import WebDataLogger.EepromBus
import WebDataLogger.EepromRefinement

/-!
# The EEPROM driver on its registers

`EEPROM_Write_Bytes` and `EEPROM_Read_Bytes` run on the polling master, on a bus whose device
may refuse any byte and whose registers may show an error at any time. Every sequence of
calls answers as the driver does over transfers with suitable outcomes, and leaves the same
memory. A transfer that fails has stored some first bytes of its chunk.
-/

namespace WebDataLogger.EepromWire

open TransitionRuns FlatStore PolledIo Lpi2cMaster Lpi2cWire EepromBus
open EepromRefinement (Operation Response)
open EepromDriver hiding Status eepromWriteRawPage writeLoop eepromWriteBytes eepromReadBytes

/-- Stops leave the memory alone, acknowledged or not. -/
theorem stops_memory {sent : List (Command×Bool)} (h : ∀ s∈sent, s.1=.stop) (slave : Slave) :
    (slaveMachine.run slave sent).memory=slave.memory := by
  induction sent generalizing slave with
  | nil => rfl
  | cons s sent ih =>
    obtain ⟨command,acked⟩ := s
    have hcommand : command=.stop := h _ List.mem_cons_self
    rw [Machine.run,ih fun s' hs' => h s' (List.mem_cons_of_mem _ hs'),hcommand]
    cases acked <;> rfl

/-- A device that is not addressed keeps its memory until the next start. -/
theorem idle_memory {sent : List (Command×Bool)} {slave : Slave} (hphase : slave.phase=.idle)
    (h : ∀ s∈sent, ∀ slaveAddress direction, s.1≠.start slaveAddress direction) :
    (slaveMachine.run slave sent).memory=slave.memory := by
  induction sent generalizing slave with
  | nil => rfl
  | cons s sent ih =>
    obtain ⟨command,acked⟩ := s
    have hrest := fun s' hs' => h s' (List.mem_cons_of_mem _ hs')
    have hstep : (slaveMachine.step slave (command,acked)).1.phase=.idle ∧
        (slaveMachine.step slave (command,acked)).1.memory=slave.memory := by
      cases acked with
      | false => exact ⟨rfl,rfl⟩
      | true =>
        change (slave.command command).1.phase=.idle ∧ (slave.command command).1.memory=slave.memory
        cases command with
        | start slaveAddress direction => exact absurd rfl (h _ List.mem_cons_self _ _)
        | send byte =>
          rw [Slave.command,Slave.byte,hphase]
          exact ⟨hphase,rfl⟩
        | receive count =>
          rw [Slave.command,if_neg (by rw [hphase]; decide)]
          exact ⟨hphase,rfl⟩
        | stop => exact ⟨rfl,rfl⟩
    rw [Machine.run,ih hstep.1 hrest,hstep.2]

/-- Without a byte sent to it the device keeps its memory. -/
theorem noSend_memory {sent : List (Command×Bool)} (slave : Slave)
    (h : ∀ s∈sent, ∀ byte, s.1≠.send byte) :
    (slaveMachine.run slave sent).memory=slave.memory := by
  induction sent generalizing slave with
  | nil => rfl
  | cons s sent ih =>
    obtain ⟨command,acked⟩ := s
    rw [Machine.run,ih _ fun s' hs' => h s' (List.mem_cons_of_mem _ hs')]
    cases acked with
    | false => rfl
    | true =>
      change (slave.command command).1.memory=slave.memory
      cases command with
      | start slaveAddress direction =>
        rw [Slave.command]
        split <;> rfl
      | send byte => exact absurd rfl (h _ List.mem_cons_self byte)
      | receive count =>
        rw [Slave.command]
        split <;> rfl
      | stop => rfl

/-- Only a byte sent in the data phase of a write changes the memory. -/
theorem byte_memory {slave : Slave} (h : slave.phase≠.writing) (byte : UInt8) :
    (slave.byte byte).memory=slave.memory := by
  unfold Slave.byte
  cases hphase : slave.phase with
  | writing => exact absurd hphase h
  | _ => rfl

/-- A command changes the memory in the data phase of a write only. -/
theorem step_memory {slave : Slave} (h : slave.phase≠.writing) (sent : Command×Bool) :
    (slaveMachine.step slave sent).1.memory=slave.memory := by
  obtain ⟨command,acked⟩ := sent
  cases acked with
  | false => rfl
  | true =>
    change (slave.command command).1.memory=slave.memory
    cases command with
    | start slaveAddress direction =>
      rw [Slave.command]
      split <;> rfl
    | send byte => exact byte_memory h byte
    | receive count =>
      rw [Slave.command]
      split <;> rfl
    | stop => rfl

/-- After a start the device waits for an address, or is read, or is not addressed. -/
theorem start_phase (slave : Slave) (slaveAddress : ℕ) (direction : Direction) (acked : Bool) :
    (slaveMachine.step slave (.start slaveAddress direction,acked)).1.memory=slave.memory ∧
    ((slaveMachine.step slave (.start slaveAddress direction,acked)).1.phase=.idle ∨
      (slaveMachine.step slave (.start slaveAddress direction,acked)).1.phase=.reading ∨
      (slaveMachine.step slave (.start slaveAddress direction,acked)).1.phase=.addressHigh) := by
  cases acked with
  | false => exact ⟨rfl,Or.inl rfl⟩
  | true =>
    change (slave.command (.start slaveAddress direction)).1.memory=_ ∧
      ((slave.command (.start slaveAddress direction)).1.phase=_ ∨
        (slave.command (.start slaveAddress direction)).1.phase=_ ∨
        (slave.command (.start slaveAddress direction)).1.phase=_)
    rw [Slave.command]
    split
    · cases direction
      · exact ⟨rfl,Or.inr (Or.inr rfl)⟩
      · exact ⟨rfl,Or.inr (Or.inl rfl)⟩
    · exact ⟨rfl,Or.inl rfl⟩

/-- The first byte after a start is not stored, and neither is the second one. -/
theorem send_phase {slave : Slave}
    (h : slave.phase=.idle ∨ slave.phase=.reading ∨ slave.phase=.addressHigh) (byte : UInt8)
    (acked : Bool) : (slaveMachine.step slave (.send byte,acked)).1.phase≠.writing := by
  cases acked with
  | false => exact fun hc => by cases hc
  | true =>
    change (slave.byte byte).phase≠.writing
    rcases h with h|h|h <;> rw [Slave.byte,h]
    · exact fun hc => by rw [h] at hc; cases hc
    · exact fun hc => by rw [h] at hc; cases hc
    · exact fun hc => by cases hc

/-- The commands sent before those of a transfer are stops. -/
theorem split_stops {stops rest : List Command} (hstops : ∀ c∈stops, c=.stop)
    {sent : List (Command×Bool)} (h : sent.map Prod.fst<+:stops++rest) :
    ∃ before after, sent=before++after ∧ (∀ s∈before, s.1=.stop) ∧
      after.map Prod.fst<+:rest ∧ (sent.map Prod.fst=stops++rest → after.map Prod.fst=rest) := by
  induction stops generalizing sent with
  | nil => exact ⟨[],sent,rfl,fun _ hs => absurd hs List.not_mem_nil,h,id⟩
  | cons first stops ih =>
    cases sent with
    | nil =>
      refine ⟨[],[],rfl,fun _ hs => absurd hs List.not_mem_nil,List.nil_prefix,fun hall => ?_⟩
      cases hall
    | cons s sent =>
      obtain ⟨hfirst,hrest⟩ := List.cons_prefix_cons.mp h
      obtain ⟨before,after,rfl,hbefore,hafter,hwhole⟩ :=
        ih (fun c hc => hstops c (List.mem_cons_of_mem first hc)) hrest
      refine ⟨s::before,after,rfl,?_,hafter,fun hall => hwhole (List.cons.inj hall).2⟩
      intro s' hs'
      rcases List.mem_cons.mp hs' with rfl|hs'
      · exact hfirst.trans (hstops first List.mem_cons_self)
      · exact hbefore s' hs'

/-- The data phase of a write at `address`, with `count` bytes stored before. -/
structure Storing (memory : At24c32) (address : ℕ) (data : ℕ → UInt8) (count : ℕ) (slave : Slave) :
    Prop where
  phase : slave.phase=.writing
  pointer : slave.pointer=address/32*32+(address+count)%32
  memory : slave.memory=burst memory address data count

/-- One more byte is stored. -/
theorem Storing.byte {memory : At24c32} {address count : ℕ} {data : ℕ → UInt8} {slave : Slave}
    (h : Storing memory address data count slave) :
    Storing memory address data (count+1) (slave.byte (data count)) := by
  have hpage : slave.pointer/32=address/32 := by
    rw [h.pointer]
    omega
  have hoffset : Fin.ofNat 32 slave.pointer=Fin.ofNat 32 (address+count) := by
    apply Fin.ext
    rw [Fin.val_ofNat,Fin.val_ofNat,h.pointer]
    omega
  have hbyte : slave.byte (data count)={slave with
      memory := setCell slave.memory (Fin.ofNat 128 (slave.pointer/32)) (Fin.ofNat 32 slave.pointer)
        (data count)
      pointer := slave.pointer/32*32+(slave.pointer+1)%32} := by
    rw [Slave.byte,h.phase]
  rw [hbyte]
  refine ⟨h.phase,?_,?_⟩
  · have hpointer := h.pointer
    dsimp only
    omega
  · dsimp only
    rw [h.memory,hpage,hoffset]
    rfl

/-- From this state on, the commands `rest`, begun and broken off anywhere, bring the bytes
stored by a write to at most `total`, and to `total` when all of them are acknowledged. -/
def Stores (memory : At24c32) (address : ℕ) (data : ℕ → UInt8) (total : ℕ) (slave : Slave)
    (rest : List Command) : Prop :=
  ∀ sent : List (Command×Bool), sent.map Prod.fst<+:rest → ∃ stored, stored≤total ∧
    (slaveMachine.run slave sent).memory=burst memory address data stored ∧
    ((∀ s∈sent, s.2=true) → sent.map Prod.fst=rest → stored=total)

/-- One more command in front. When it is not acknowledged the device is not addressed any
more. -/
theorem Stores.cons {memory : At24c32} {address count total : ℕ} {data : ℕ → UInt8} {slave : Slave}
    {command : Command} {rest : List Command}
    (h : Stores memory address data total (slave.command command).1 rest) (hcount : count≤total)
    (hmemory : slave.memory=burst memory address data count)
    (hrest : ∀ c∈rest, ∀ slaveAddress direction, c≠.start slaveAddress direction) :
    Stores memory address data total slave (command::rest) := by
  intro sent hsent
  cases sent with
  | nil => exact ⟨count,hcount,hmemory,fun _ hall => by cases hall⟩
  | cons s sent =>
    obtain ⟨sentCommand,acked⟩ := s
    obtain ⟨hcommand,htail⟩ := List.cons_prefix_cons.mp hsent
    change sentCommand=command at hcommand
    rw [hcommand]
    cases acked with
    | false =>
      refine ⟨count,hcount,?_,fun hacked _ => absurd (hacked _ List.mem_cons_self) Bool.false_ne_true⟩
      rw [Machine.run,←hmemory]
      exact idle_memory rfl fun s hs => hrest s.1 (htail.subset (List.mem_map_of_mem hs))
    | true =>
      obtain ⟨stored,hle,hstored,hall⟩ := h sent htail
      exact ⟨stored,hle,hstored,fun hacked hwhole =>
        hall (fun s hs => hacked s (List.mem_cons_of_mem _ hs)) (List.cons.inj hwhole).2⟩

/-- The commands of the data phase of a write, from byte `count` on. -/
def dataPhase (data : ℕ → UInt8) (count more : ℕ) : List Command :=
  ((List.range' count more).map fun i => Command.send (data i))++[.stop]

/-- No device is addressed in the data phase. -/
theorem dataPhase_noStart {data : ℕ → UInt8} {count more : ℕ} :
    ∀ c∈dataPhase data count more, ∀ slaveAddress direction, c≠.start slaveAddress direction := by
  intro c hc slaveAddress direction heq
  rw [heq] at hc
  rcases List.mem_append.mp hc with hc|hc
  · obtain ⟨i,-,hi⟩ := List.mem_map.mp hc
    cases hi
  · cases List.mem_singleton.mp hc

/-- The data phase of a write stores its bytes one by one. -/
theorem Storing.stores {memory : At24c32} {address count : ℕ} {data : ℕ → UInt8} {slave : Slave}
    (h : Storing memory address data count slave) (more : ℕ) :
    Stores memory address data (count+more) slave (dataPhase data count more) := by
  induction more generalizing count slave with
  | zero =>
    intro sent hsent
    refine ⟨count,Nat.le_refl _,?_,fun _ _ => rfl⟩
    rw [←h.memory]
    exact stops_memory (fun s hs => List.mem_singleton.mp (hsent.subset (List.mem_map_of_mem hs))) slave
  | succ more ih =>
    have hphase : dataPhase data count (more+1)=.send (data count)::dataPhase data (count+1) more := by
      rw [dataPhase,List.range'_succ,List.map_cons,List.cons_append]
      rfl
    rw [hphase,show count+(more+1)=count+1+more by omega]
    exact Stores.cons (ih h.byte) (by omega) h.memory dataPhase_noStart

/-- The transfer of `EEPROM_Write_Raw_Page` and of `EEPROM_Read_Bytes`. -/
def eepromTransfer (direction : Direction) (address : UInt16) (data : ℕ → UInt8) (dataSize : ℕ) :
    Transfer := ⟨0,0x50,direction,subaddressOf address,2,data,dataSize⟩

/-- The two bytes of the subaddress. -/
theorem eeprom_subaddress (address : UInt16) : ∃ high low : UInt8,
    subaddressBytes (subaddressOf address) 2=[high,low] ∧ 256*high.toNat+low.toNat=address.toNat := by
  have hvalue := bigEndian_subaddressBytes (subaddressOf address) (show 2≤4 by omega)
  have hlt := address.toNat_lt
  rw [subaddressOf_toNat,Nat.mod_eq_of_lt (by omega)] at hvalue
  refine ⟨_,_,rfl,?_⟩
  rw [←hvalue]
  simp only [subaddressBytes,bigEndian,List.foldl_cons,List.foldl_nil]
  omega

/-- The commands of an EEPROM transfer start with the address of the cell. -/
theorem eeprom_commands (direction : Direction) (address : UInt16) (data : ℕ → UInt8) (dataSize : ℕ)
    (counts : Counts (eepromTransfer direction address data dataSize).received) :
    ∃ high low : UInt8, 256*high.toNat+low.toNat=address.toNat ∧
      commands (eepromTransfer direction address data dataSize) counts=
        .start 0x50 .write::.send high::.send low::
          ((if dataSize≠0 ∧ direction=.read then [Command.start 0x50 .read] else []) ++
            dataCommands (eepromTransfer direction address data dataSize) counts++[.stop]) := by
  obtain ⟨high,low,hbytes,hvalue⟩ := eeprom_subaddress address
  refine ⟨high,low,hvalue,?_⟩
  have hfirst : (eepromTransfer direction address data dataSize).firstDirection=.write :=
    if_pos (show 2≠0 by decide)
  have hbuffer : (subaddressBytes (eepromTransfer direction address data dataSize).subaddress
      (eepromTransfer direction address data dataSize).subaddressSize)=[high,low] := hbytes
  have hstart : (eepromTransfer direction address data dataSize).flags&&&transferNoStartFlag=0 :=
    show (0 : UInt32)&&&transferNoStartFlag=0 by decide
  have hstop : (eepromTransfer direction address data dataSize).flags&&&transferNoStopFlag=0 :=
    show (0 : UInt32)&&&transferNoStopFlag=0 by decide
  unfold commands headCommands
  rw [if_pos hstart,if_pos hstop,hfirst,hbuffer,if_pos rfl]
  rfl

/-- A write to the EEPROM, begun and broken off anywhere, stores some first bytes of its data. -/
theorem write_sent {memory : At24c32} {slave : Slave} (hmemory : slave.memory=memory)
    {address : UInt16} {data : ℕ → UInt8} {dataSize : ℕ}
    {counts : Counts (eepromTransfer .write address data dataSize).received}
    {stops : List Command} (hstops : ∀ c∈stops, c=.stop) {sent : List (Command×Bool)}
    (hsent : sent.map Prod.fst<+:
      stops++commands (eepromTransfer .write address data dataSize) counts) :
    ∃ stored, stored≤dataSize ∧
      (slaveMachine.run slave sent).memory=burst memory address.toNat data stored ∧
      ((∀ s∈sent, s.2=true) →
        sent.map Prod.fst=stops++commands (eepromTransfer .write address data dataSize) counts →
          stored=dataSize) := by
  obtain ⟨before,after,rfl,hbefore,hafter,hwhole⟩ := split_stops hstops hsent
  obtain ⟨high,low,hvalue,hcommands⟩ := eeprom_commands .write address data dataSize counts
  have hdata : dataCommands (eepromTransfer .write address data dataSize) counts++[.stop]=
      dataPhase data 0 dataSize := by
    rw [dataPhase,←List.range_eq_range']
    exact congrArg (·++[Command.stop]) List.map_map
  rw [if_neg (by simp),List.nil_append,hdata] at hcommands
  rw [hcommands] at hafter hwhole ⊢
  rw [Machine.run_append]
  have hfirst := (stops_memory hbefore slave).trans hmemory
  generalize slaveMachine.run slave before=started at hfirst ⊢
  -- The start and the two address bytes bring the device to its data phase.
  have hstoring : Storing memory address.toNat data 0
      ⟨started.memory,256*high.toNat+low.toNat,.writing⟩ :=
    ⟨rfl,by dsimp only; omega,hfirst⟩
  have hstores : Stores memory address.toNat data dataSize started
      (.start 0x50 .write::.send high::.send low::dataPhase data 0 dataSize) := by
    have hdataPhase := hstoring.stores dataSize
    rw [Nat.zero_add] at hdataPhase
    have hlow : Stores memory address.toNat data dataSize
        ⟨started.memory,started.pointer,.addressLow high⟩ (.send low::dataPhase data 0 dataSize) :=
      Stores.cons hdataPhase (Nat.zero_le _) hfirst dataPhase_noStart
    have hhigh : Stores memory address.toNat data dataSize
        ⟨started.memory,started.pointer,.addressHigh⟩
        (.send high::.send low::dataPhase data 0 dataSize) := by
      refine Stores.cons hlow (Nat.zero_le _) hfirst fun c hc => ?_
      rcases List.mem_cons.mp hc with rfl|hc
      · exact fun _ _ => by simp
      · exact dataPhase_noStart c hc
    refine Stores.cons hhigh (Nat.zero_le _) hfirst fun c hc => ?_
    rcases List.mem_cons.mp hc with rfl|hc
    · exact fun _ _ => by simp
    · rcases List.mem_cons.mp hc with rfl|hc
      · exact fun _ _ => by simp
      · exact dataPhase_noStart c hc
  obtain ⟨stored,hle,hstored,hall⟩ := hstores after hafter
  exact ⟨stored,hle,hstored,fun hacked hsame =>
    hall (fun s hs => hacked s (List.mem_append_right before hs)) (hwhole hsame)⟩

/-- Receive commands of a read are answered by consecutive cells. -/
theorem receive_answers (memory : At24c32) (pointer : ℕ) (counts : List ℕ) (rest : List (Command×Bool)) :
    ∃ slave : Slave,
      slaveMachine.trace ⟨memory,pointer,.reading⟩
          ((counts.map fun count => (Command.receive count,true))++rest)=
        ((List.range counts.sum).map fun i => flat memory (pointer+i))++slaveMachine.trace slave rest := by
  induction counts generalizing pointer with
  | nil => exact ⟨_,rfl⟩
  | cons count counts ih =>
    obtain ⟨slave,htrace⟩ := ih (pointer+count)
    refine ⟨slave,?_⟩
    rw [List.map_cons,List.cons_append,Machine.trace]
    change ((List.range count).map fun i => flat memory (pointer+i))++
      slaveMachine.trace ⟨memory,pointer+count,.reading⟩ _=_
    rw [htrace,←List.append_assoc,List.sum_cons,List.range_add,List.map_append,List.map_map]
    congr 2
    exact List.map_congr_left fun i _ => by rw [Function.comp_apply,Nat.add_assoc]

/-- Commands that were all acknowledged. -/
theorem eq_map_acked {sent : List (Command×Bool)} (h : ∀ s∈sent, s.2=true) :
    sent=(sent.map Prod.fst).map fun c => (c,true) := by
  rw [List.map_map]
  conv_lhs => rw [←List.map_id sent]
  refine List.map_congr_left fun s hs => ?_
  exact Prod.ext rfl (h s hs)

/-- A read of the EEPROM leaves its memory alone, begun and broken off anywhere, and when it
is complete the device answers with the cells from the address on. -/
theorem read_sent {slave : Slave} {address : UInt16} {data : ℕ → UInt8} {dataSize : ℕ}
    {counts : Counts (eepromTransfer .read address data dataSize).received}
    {stops : List Command} (hstops : ∀ c∈stops, c=.stop) {sent : List (Command×Bool)}
    (hsent : sent.map Prod.fst<+:
      stops++commands (eepromTransfer .read address data dataSize) counts) :
    (slaveMachine.run slave sent).memory=slave.memory ∧
      ((∀ s∈sent, s.2=true) →
        sent.map Prod.fst=stops++commands (eepromTransfer .read address data dataSize) counts →
          slaveMachine.trace slave sent=
            (List.range dataSize).map fun i => flat slave.memory (address.toNat+i)) := by
  obtain ⟨before,after,rfl,hbefore,hafter,hwhole⟩ := split_stops hstops hsent
  obtain ⟨high,low,hvalue,hcommands⟩ := eeprom_commands .read address data dataSize counts
  have hdata : dataCommands (eepromTransfer .read address data dataSize) counts=
    counts.counts.map Command.receive := rfl
  have hfirst := stops_memory hbefore slave
  generalize htail : ((if dataSize≠0 ∧ Direction.read=Direction.read then
      [Command.start 0x50 .read] else [])++
        dataCommands (eepromTransfer .read address data dataSize) counts++[Command.stop])=tail
    at hcommands
  have hnoSend : ∀ c∈tail, ∀ byte, c≠.send byte := by
    intro c hc byte heq
    rw [←htail,hdata,heq] at hc
    rcases List.mem_append.mp hc with hc|hc
    · rcases List.mem_append.mp hc with hc|hc
      · split at hc
        · cases List.mem_singleton.mp hc
        · cases hc
      · obtain ⟨count,-,hcount⟩ := List.mem_map.mp hc
        cases hcount
    · cases List.mem_singleton.mp hc
  rw [hcommands] at hafter hwhole ⊢
  constructor
  · rw [Machine.run_append,←hfirst]
    generalize slaveMachine.run slave before=started
    cases after with
    | nil => rfl
    | cons s₁ after =>
      obtain ⟨command₁,acked₁⟩ := s₁
      obtain ⟨hcommand₁,hafter⟩ := List.cons_prefix_cons.mp hafter
      change command₁=.start 0x50 .write at hcommand₁
      obtain ⟨hmemory₁,hphase₁⟩ := start_phase started 0x50 .write acked₁
      rw [hcommand₁,Machine.run,←hmemory₁]
      generalize (slaveMachine.step started (.start 0x50 .write,acked₁)).1=slave₁ at hphase₁ ⊢
      have hfirstByte : slave₁.phase≠.writing := by
        rcases hphase₁ with h|h|h <;> rw [h] <;> decide
      cases after with
      | nil => rfl
      | cons s₂ after =>
        obtain ⟨command₂,acked₂⟩ := s₂
        obtain ⟨hcommand₂,hafter⟩ := List.cons_prefix_cons.mp hafter
        change command₂=.send high at hcommand₂
        have hsecondByte := send_phase hphase₁ high acked₂
        rw [hcommand₂,Machine.run,←step_memory hfirstByte (.send high,acked₂)]
        cases after with
        | nil => rfl
        | cons s₃ after =>
          obtain ⟨-,hafter⟩ := List.cons_prefix_cons.mp hafter
          rw [Machine.run,←step_memory hsecondByte s₃]
          exact noSend_memory _ fun s hs =>
            hnoSend s.1 (hafter.subset (List.mem_map_of_mem hs))
  · intro hacked hall
    have hafter := eq_map_acked fun s hs => hacked s (List.mem_append_right before hs)
    rw [hwhole hall] at hafter
    have hsilent : ∀ slave, slaveMachine.trace slave before=[] := by
      have hstopped : Stops before := fun s hs =>
        Prod.ext (hbefore s hs) (hacked s (List.mem_append_left after hs))
      exact fun slave => (hstopped.memory slave).2
    rw [Machine.trace_append,hsilent,List.nil_append,hafter,←hfirst]
    generalize slaveMachine.run slave before=started
    have hsum : counts.counts.sum=dataSize := counts.sum_eq
    change slaveMachine.trace ⟨started.memory,256*high.toNat+low.toNat,.writing⟩
      (tail.map fun c => (c,true))=_
    rw [hvalue,←htail,hdata]
    by_cases hsize : dataSize=0
    · have hnone : counts.counts=[] := by
        cases hcounts : counts.counts with
        | nil => rfl
        | cons count rest =>
          have hpos := (counts.inRange count (by rw [hcounts]; exact List.mem_cons_self)).1
          rw [hcounts,List.sum_cons] at hsum
          omega
      rw [hnone,if_neg fun hc => hc.1 hsize,hsize]
      rfl
    · rw [if_pos ⟨hsize,rfl⟩,List.append_assoc,List.map_append,List.map_append,List.map_map]
      obtain ⟨slave',htrace⟩ := receive_answers started.memory address.toNat counts.counts
        [(Command.stop,true)]
      have hstop : slaveMachine.trace slave' [(Command.stop,true)]=[] := rfl
      rw [hstop,List.append_nil,hsum] at htrace
      exact htrace

/-- `EEPROM_Write_Raw_Page`. -/
def eepromWriteRawPage (address : UInt16) (data : ℕ → UInt8) (len : UInt8) : Call Lpi2cStatus := do
  let transfer ← masterTransferBlocking (eepromTransfer .write address data len.toNat)
  return transfer.1

/-- The while loop of `EEPROM_Write_Bytes`. -/
def writeLoop (address len : UInt16) (data : ℕ → UInt8) (bytesWritten : UInt16) : Call EepromStatus :=
  if bytesWritten<len then do
    let written ← eepromWriteRawPage (address+bytesWritten) (fun i => data (bytesWritten.toNat+i))
      (chunkSize address len bytesWritten)
    if written≠.success then return .i2cError
    else writeLoop address len data (bytesWritten+(chunkSize address len bytesWritten).toUInt16)
  else return .ok
termination_by len.toNat-bytesWritten.toNat
decreasing_by
  rename_i h
  have hlt := UInt16.lt_iff_toNat_lt.mp h
  have hpos := chunkSize_pos address h
  rw [bytesWritten_add address h]
  omega

/-- `EEPROM_Write_Bytes`. -/
def eepromWriteBytes (address : UInt16) (data : ℕ → UInt8) (len : UInt16) : Call EepromStatus :=
  if 4096<address.toUInt32+len.toUInt32 then return .lengthOverflow
  else writeLoop address len data 0

/-- `EEPROM_Read_Bytes`, with the bytes delivered when it succeeds. -/
def eepromReadBytes (address len : UInt16) : Call (EepromStatus×List UInt8) :=
  if 4096<address.toUInt32+len.toUInt32 then return (.lengthOverflow,[])
  else do
    let transfer ← masterTransferBlocking (eepromTransfer .read address (fun _ => 0) len.toNat)
    if transfer.1≠.success then return (.i2cError,[]) else return (.ok,transfer.2)

/-- Outcomes of the first transfers, one by one. -/
def listed (outcomes : List TransferOutcome) : Outcomes := fun k => outcomes.getD k .success

/-- The outcome of the next transfer. -/
theorem listed_next (before after : List TransferOutcome) (outcome : TransferOutcome) :
    listed (before++outcome::after) before.length=outcome := by
  rw [listed,List.getD_eq_getElem?_getD,List.getElem?_append_right (Nat.le_refl _),Nat.sub_self]
  rfl

/-- The events of a call and of the one after it. -/
theorem accesses_eq_append {events : List BusEvent} {first second : List Access}
    (h : accesses events=first++second) :
    ∃ past future, events=past++future ∧ accesses past=first ∧ accesses future=second :=
  List.filterMap_eq_append_iff.mp h

/-- A bus without accesses stays quiet and keeps its memory. -/
theorem silent_quiet {bus : Bus} (hquiet : Quiet bus) {events : List BusEvent}
    (h : accesses events=[]) : Quiet (busMachine.run bus events) ∧
      (busMachine.run bus events).slave.memory=bus.slave.memory := by
  have hstops : ∀ word∈words (accesses events), Command.ofWord word=some .stop := by
    rw [h]
    exact fun word hword => absurd hword List.not_mem_nil
  exact ⟨(hquiet.run hstops).1,hquiet.run_memory hstops⟩

/-- What a call does to the bus is what it does over transfers, for some outcomes of these. -/
def Explained {α : Type} (driver : Outcomes → I2cBus → α×I2cBus) (bus : Bus) (result : α) (bus' : Bus) :
    Prop :=
  ∃ made, ∀ before after, driver (listed (before++(made++after))) ⟨bus.slave.memory,before.length⟩=
    (result,⟨bus'.slave.memory,before.length+made.length⟩)

/-- One write transfer is a transfer with some outcome. -/
theorem writeRawPage_explained {bus : Bus} (hquiet : Quiet bus) {events : List BusEvent}
    (hshows : busMachine.Guarded Shows bus events) {address : UInt16} {data : ℕ → UInt8}
    {len : UInt8} {taken : List Registers} {result : Lpi2cStatus}
    (h : (eepromWriteRawPage address data len).Takes taken result (accesses events)) :
    Quiet (busMachine.run bus events) ∧
      Explained (fun outcomes start => EepromDriver.eepromWriteRawPage outcomes start address data len)
        bus (if result=.success then .success else .fail) (busMachine.run bus events) := by
  unfold eepromWriteRawPage at h
  rw [Polled.takes_bind] at h
  obtain ⟨_,_,⟨_,bytes⟩,_,_,-,hlog,htransfer,h⟩ := h
  obtain ⟨-,rfl,rfl⟩ := Polled.takes_pure.mp h
  rw [List.append_nil] at hlog
  rw [←hlog] at htransfer
  obtain ⟨hstill,counts,sent,hsent,hmemory,hsuccess⟩ :=
    transfer_sent hquiet hshows (show (0x50 : UInt16).toNat<128 by decide)
      (show (0 : UInt32)&&&transferNoStopFlag=0 by decide) htransfer
  obtain ⟨stored,hle,hstored,hall⟩ := write_sent (Eq.refl bus.slave.memory) hquiet.stops hsent
  refine ⟨hstill,?_⟩
  by_cases hresult : result=.success
  · obtain ⟨hacked,hwhole,-⟩ := hsuccess hresult
    rw [hall hacked hwhole] at hstored
    refine ⟨[.success],fun before after => ?_⟩
    unfold EepromDriver.eepromWriteRawPage masterTransferWrite
    dsimp only
    rw [List.singleton_append,listed_next,subaddressOf_toNat,if_pos hresult,hmemory,hstored]
    rfl
  · refine ⟨[.failed stored],fun before after => ?_⟩
    unfold EepromDriver.eepromWriteRawPage masterTransferWrite
    dsimp only
    rw [List.singleton_append,listed_next,subaddressOf_toNat,if_neg hresult,hmemory,hstored]
    dsimp only
    rw [min_eq_left hle]
    rfl

/-- The loop of a write is the loop over transfers with some outcomes. -/
theorem writeLoop_explained {address len : UInt16} {data : ℕ → UInt8} (bytesWritten : UInt16)
    {bus : Bus} (hquiet : Quiet bus) {events : List BusEvent}
    (hshows : busMachine.Guarded Shows bus events) {taken : List Registers} {status : EepromStatus}
    (h : (writeLoop address len data bytesWritten).Takes taken status (accesses events)) :
    Quiet (busMachine.run bus events) ∧
      Explained (fun outcomes start =>
        EepromDriver.writeLoop outcomes address len data bytesWritten start)
        bus status (busMachine.run bus events) := by
  induction bytesWritten using writeLoop.induct address len generalizing bus events taken status with
  | case1 bytesWritten hlt ih =>
    rw [writeLoop,if_pos hlt,Polled.takes_bind] at h
    obtain ⟨_,_,written,first,second,-,hlog,hwrite,h⟩ := h
    obtain ⟨past,future,rfl,rfl,rfl⟩ := accesses_eq_append hlog
    obtain ⟨hpast,hfuture⟩ := busMachine.guarded_append.mp hshows
    obtain ⟨hstill,made,hmade⟩ := writeRawPage_explained hquiet hpast hwrite
    rw [Machine.run_append]
    by_cases hwell : written=.success
    · rw [if_neg (not_not_intro hwell)] at h
      obtain ⟨hend,more,hmore⟩ := ih hstill hfuture h
      refine ⟨hend,made++more,fun before after => ?_⟩
      have hnow := hmade before (more++after)
      have hlater := hmore (before++made) after
      rw [if_pos hwell] at hnow
      dsimp only at hnow hlater ⊢
      rw [EepromDriver.writeLoop,if_pos hlt]
      dsimp only
      rw [List.append_assoc made,hnow]
      rw [List.append_assoc before,List.length_append] at hlater
      rw [hlater,List.length_append,Nat.add_assoc]
    · rw [if_pos hwell] at h
      obtain ⟨-,rfl,hnone⟩ := Polled.takes_pure.mp h
      obtain ⟨hend,hmemory⟩ := silent_quiet hstill hnone
      refine ⟨hend,made,fun before after => ?_⟩
      have hnow := hmade before after
      rw [if_neg hwell] at hnow
      dsimp only at hnow ⊢
      rw [EepromDriver.writeLoop,if_pos hlt,hmemory]
      dsimp only
      rw [hnow]
  | case2 bytesWritten hlt =>
    rw [writeLoop,if_neg hlt] at h
    obtain ⟨-,rfl,hnone⟩ := Polled.takes_pure.mp h
    obtain ⟨hend,hmemory⟩ := silent_quiet hquiet hnone
    refine ⟨hend,[],fun before after => ?_⟩
    dsimp only
    rw [EepromDriver.writeLoop,if_neg hlt,hmemory]
    rfl

/-- `EEPROM_Write_Bytes` is the driver's over transfers with some outcomes. -/
theorem eepromWriteBytes_explained {address len : UInt16} {data : ℕ → UInt8} {bus : Bus}
    (hquiet : Quiet bus) {events : List BusEvent} (hshows : busMachine.Guarded Shows bus events)
    {taken : List Registers} {status : EepromStatus}
    (h : (eepromWriteBytes address data len).Takes taken status (accesses events)) :
    Quiet (busMachine.run bus events) ∧
      Explained (fun outcomes start => EepromDriver.eepromWriteBytes outcomes start address data len)
        bus status (busMachine.run bus events) := by
  unfold eepromWriteBytes at h
  unfold EepromDriver.eepromWriteBytes
  by_cases hover : 4096<address.toUInt32+len.toUInt32
  · rw [if_pos hover] at h
    obtain ⟨-,rfl,hnone⟩ := Polled.takes_pure.mp h
    obtain ⟨hend,hmemory⟩ := silent_quiet hquiet hnone
    refine ⟨hend,[],fun before after => ?_⟩
    dsimp only
    rw [if_pos hover,hmemory]
    rfl
  · rw [if_neg hover] at h
    simp only [if_neg hover]
    exact writeLoop_explained 0 hquiet hshows h

/-- `EEPROM_Read_Bytes` is the driver's over transfers with some outcomes. -/
theorem eepromReadBytes_explained {address len : UInt16} {bus : Bus} (hquiet : Quiet bus)
    {events : List BusEvent} (hshows : busMachine.Guarded Shows bus events)
    {taken : List Registers} {result : EepromStatus×List UInt8}
    (h : (eepromReadBytes address len).Takes taken result (accesses events)) :
    Quiet (busMachine.run bus events) ∧
      Explained (fun outcomes start =>
          let read := EepromDriver.eepromReadBytes outcomes start address len
          ((read.1,read.2.1),read.2.2))
        bus result (busMachine.run bus events) := by
  unfold eepromReadBytes at h
  unfold EepromDriver.eepromReadBytes
  by_cases hover : 4096<address.toUInt32+len.toUInt32
  · rw [if_pos hover] at h
    obtain ⟨-,rfl,hnone⟩ := Polled.takes_pure.mp h
    obtain ⟨hend,hmemory⟩ := silent_quiet hquiet hnone
    refine ⟨hend,[],fun before after => ?_⟩
    dsimp only
    rw [if_pos hover,hmemory]
    rfl
  · rw [if_neg hover,Polled.takes_bind] at h
    obtain ⟨_,_,⟨read,bytes⟩,log,_,-,hlog,htransfer,h⟩ := h
    have hrest : (if read≠.success then (EepromStatus.i2cError,[]) else (.ok,bytes))=result ∧
        accesses events=log := by
      by_cases hread : read=.success
      · rw [if_neg (not_not_intro hread)] at h ⊢
        obtain ⟨-,rfl,rfl⟩ := Polled.takes_pure.mp h
        rw [List.append_nil] at hlog
        exact ⟨rfl,hlog⟩
      · rw [if_pos hread] at h ⊢
        obtain ⟨-,rfl,rfl⟩ := Polled.takes_pure.mp h
        rw [List.append_nil] at hlog
        exact ⟨rfl,hlog⟩
    rw [←hrest.2] at htransfer
    obtain ⟨hstill,counts,sent,hsent,hmemory,hsuccess⟩ :=
      transfer_sent hquiet hshows (show (0x50 : UInt16).toNat<128 by decide)
        (show (0 : UInt32)&&&transferNoStopFlag=0 by decide) htransfer
    obtain ⟨hkept,hanswers⟩ := read_sent hquiet.stops hsent
    refine ⟨hstill,?_⟩
    rw [←hrest.1]
    simp only [if_neg hover]
    unfold masterTransferRead
    by_cases hread : read=.success
    · obtain ⟨hacked,hwhole,hbytes⟩ := hsuccess hread
      rw [hanswers hacked hwhole] at hbytes
      refine ⟨[.success],fun before after => ?_⟩
      dsimp only
      rw [List.singleton_append,listed_next,subaddressOf_toNat,if_neg (not_not_intro hread),hbytes,
        hmemory,hkept]
      rfl
    · refine ⟨[.failed 0],fun before after => ?_⟩
      dsimp only
      rw [List.singleton_append,listed_next,if_pos hread,hmemory,hkept]
      rfl

/-- A call made by a user of the driver. -/
def call : Operation → Call Response
  | .write address len data => do
    let status ← eepromWriteBytes address data len
    return .wrote status
  | .read address len => do
    let result ← eepromReadBytes address len
    return .read result.1 result.2

/-- Calls made one after another. -/
def calls : List Operation → Call (List Response)
  | [] => return []
  | operation::operations => do
    let response ← call operation
    let responses ← calls operations
    return response::responses

/-- A call over transfers. -/
def callOver (outcomes : Outcomes) (bus : I2cBus) : Operation → Response×I2cBus
  | .write address len data =>
    let written := EepromDriver.eepromWriteBytes outcomes bus address data len
    (.wrote written.1,written.2)
  | .read address len =>
    let result := EepromDriver.eepromReadBytes outcomes bus address len
    (.read result.1 result.2.1,result.2.2)

/-- The driver over transfers with any outcomes. -/
def driverOver (outcomes : Outcomes) : Machine I2cBus Operation Response where
  step bus operation :=
    ((callOver outcomes bus operation).2,[(callOver outcomes bus operation).1])

/-- One call over transfers. -/
theorem driverOver_step (outcomes : Outcomes) (bus : I2cBus) (operation : Operation) :
    (driverOver outcomes).step bus operation=
      ((callOver outcomes bus operation).2,[(callOver outcomes bus operation).1]) := rfl

/-- A call on the registers is a call over transfers with some outcomes. -/
theorem call_explained {operation : Operation} {bus : Bus} (hquiet : Quiet bus)
    {events : List BusEvent} (hshows : busMachine.Guarded Shows bus events)
    {taken : List Registers} {response : Response}
    (h : (call operation).Takes taken response (accesses events)) :
    Quiet (busMachine.run bus events) ∧
      Explained (fun outcomes start => callOver outcomes start operation) bus response
        (busMachine.run bus events) := by
  cases operation with
  | write address len data =>
    rw [call,Polled.takes_bind] at h
    obtain ⟨_,_,status,_,_,-,hlog,hwrite,h⟩ := h
    obtain ⟨-,rfl,rfl⟩ := Polled.takes_pure.mp h
    rw [List.append_nil] at hlog
    rw [←hlog] at hwrite
    obtain ⟨hstill,made,hmade⟩ := eepromWriteBytes_explained hquiet hshows hwrite
    refine ⟨hstill,made,fun before after => ?_⟩
    have hnow := hmade before after
    dsimp only at hnow
    simp only [callOver,hnow]
  | read address len =>
    rw [call,Polled.takes_bind] at h
    obtain ⟨_,_,result,_,_,-,hlog,hread,h⟩ := h
    obtain ⟨-,rfl,rfl⟩ := Polled.takes_pure.mp h
    rw [List.append_nil] at hlog
    rw [←hlog] at hread
    obtain ⟨hstill,made,hmade⟩ := eepromReadBytes_explained hquiet hshows hread
    refine ⟨hstill,made,fun before after => ?_⟩
    obtain ⟨hresult,hbus⟩ := Prod.mk.inj (hmade before after)
    rw [←hresult,←hbus]
    rfl

/-- Calls on the registers are calls over transfers with some outcomes. -/
theorem calls_explained {operations : List Operation} {bus : Bus} (hquiet : Quiet bus)
    {events : List BusEvent} (hshows : busMachine.Guarded Shows bus events)
    {taken : List Registers} {responses : List Response}
    (h : (calls operations).Takes taken responses (accesses events)) :
    Quiet (busMachine.run bus events) ∧
      Explained (fun outcomes start => ((driverOver outcomes).trace start operations,
        (driverOver outcomes).run start operations)) bus responses (busMachine.run bus events) := by
  induction operations generalizing bus events taken responses with
  | nil =>
    obtain ⟨-,rfl,hnone⟩ := Polled.takes_pure.mp h
    obtain ⟨hend,hmemory⟩ := silent_quiet hquiet hnone
    refine ⟨hend,[],fun before after => ?_⟩
    rw [hmemory]
    rfl
  | cons operation operations ih =>
    rw [calls,Polled.takes_bind] at h
    obtain ⟨_,_,response,_,_,-,hlog,hcall,h⟩ := h
    obtain ⟨past,future,rfl,rfl,rfl⟩ := accesses_eq_append hlog
    obtain ⟨hpast,hfuture⟩ := busMachine.guarded_append.mp hshows
    obtain ⟨hstill,made,hmade⟩ := call_explained hquiet hpast hcall
    rw [Polled.takes_bind] at h
    obtain ⟨_,_,responses',_,_,-,hlog',hcalls,h⟩ := h
    obtain ⟨-,rfl,rfl⟩ := Polled.takes_pure.mp h
    rw [List.append_nil] at hlog'
    rw [←hlog'] at hcalls
    obtain ⟨hend,more,hmore⟩ := ih hstill hfuture hcalls
    rw [Machine.run_append]
    refine ⟨hend,made++more,fun before after => ?_⟩
    have hnow := hmade before (more++after)
    have hlater := hmore (before++made) after
    dsimp only at hnow hlater ⊢
    rw [List.append_assoc before,List.length_append] at hlater
    obtain ⟨htrace,hrun⟩ := Prod.mk.inj hlater
    rw [List.append_assoc made,Machine.trace,Machine.run,driverOver_step,hnow]
    dsimp only
    rw [htrace,hrun,List.length_append,Nat.add_assoc]
    rfl

/-- The driver on its registers refines the driver over transfers. Whatever the registers show
and whichever bytes the device refuses, calls that return have answered as over transfers with
some outcomes and have left the same memory, and the bus is quiet again. -/
theorem registers_refine_transfers {bus : Bus} (hquiet : Quiet bus) {events : List BusEvent}
    (hshows : busMachine.Guarded Shows bus events) {operations : List Operation}
    {taken : List Registers} {responses : List Response}
    (h : (calls operations).Takes taken responses (accesses events)) :
    Quiet (busMachine.run bus events) ∧ ∃ outcomes,
      (driverOver outcomes).trace ⟨bus.slave.memory,0⟩ operations=responses ∧
      ((driverOver outcomes).run ⟨bus.slave.memory,0⟩ operations).memory=
        (busMachine.run bus events).slave.memory := by
  obtain ⟨hend,made,hmade⟩ := calls_explained hquiet hshows h
  obtain ⟨htrace,hrun⟩ := Prod.mk.inj (hmade [] [])
  exact ⟨hend,_,htrace,congrArg I2cBus.memory hrun⟩

/-- The flat view of a bus holds a block. -/
def Holds (bus : I2cBus) (address len : UInt16) (data : ℕ → UInt8) : Prop :=
  HoldsAt (flat bus.memory) address.toNat len.toNat data

/-- A call that writes no cell of the block. -/
def Beside (address len : UInt16) : Operation → Prop
  | .write address' len' _ => address'.toNat+len'.toNat≤address.toNat ∨
      address.toNat+len.toNat≤address'.toNat
  | .read _ _ => True

/-- A call beside a block keeps what it holds. -/
theorem callOver_holds {outcomes : Outcomes} {bus : I2cBus} {address len : UInt16}
    {data : ℕ → UInt8} (h : Holds bus address len data) (hend : address.toNat+len.toNat≤4096)
    {operation : Operation} (hbeside : Beside address len operation) :
    Holds (callOver outcomes bus operation).2 address len data := by
  cases operation with
  | write address' len' data' =>
    change Holds (EepromDriver.eepromWriteBytes outcomes bus address' data' len').2 _ _ _
    rcases Nat.lt_or_ge 4096 (address'.toNat+len'.toNat) with hover|hfits
    · rw [EepromDriver.eepromWriteBytes,if_pos ((overflow_iff _ _).mpr hover)]
      exact h
    · obtain ⟨count,hcount,-,hstored⟩ :=
        eepromWriteBytes_stores outcomes bus len' data' hfits
      have hbeside' : address'.toNat+len'.toNat≤address.toNat ∨
          address.toNat+len.toNat≤address'.toNat := hbeside
      exact (h.overlay_disjoint (by omega)).congr hstored.symm hend
  | read address' len' =>
    change HoldsAt (flat (EepromDriver.eepromReadBytes outcomes bus address' len').2.2.memory) _ _ _
    rw [eepromReadBytes_memory]
    exact h

/-- Calls beside a block keep what it holds. -/
theorem driverOver_holds {outcomes : Outcomes} {bus : I2cBus} {address len : UInt16}
    {data : ℕ → UInt8} (h : Holds bus address len data) (hend : address.toNat+len.toNat≤4096)
    {operations : List Operation} (hbeside : ∀ operation∈operations, Beside address len operation) :
    Holds ((driverOver outcomes).run bus operations) address len data := by
  induction operations generalizing bus with
  | nil => exact h
  | cons operation operations ih =>
    exact ih (callOver_holds h hend (hbeside _ List.mem_cons_self)) fun operation' hmem =>
      hbeside operation' (List.mem_cons_of_mem _ hmem)

/-- The driver answers every call once. -/
theorem driverOver_length (outcomes : Outcomes) (bus : I2cBus) (operations : List Operation) :
    ((driverOver outcomes).trace bus operations).length=operations.length := by
  induction operations generalizing bus with
  | nil => rfl
  | cons operation operations ih =>
    rw [Machine.trace,List.length_append,ih,List.length_cons,Nat.add_comm]
    rfl

/-- A write that returned `kEeprom_Ok` is read back. Between it and a read of the same block
that returns `kEeprom_Ok` there may be any reads, and any writes beside the block, failed or
not. -/
theorem written_is_read_back {bus : Bus} (hquiet : Quiet bus) {events : List BusEvent}
    (hshows : busMachine.Guarded Shows bus events) {address len : UInt16} {data : ℕ → UInt8}
    {first between : List Operation} {taken : List Registers} {answers answers' : List Response}
    {bytes : List UInt8} (hfirst : answers.length=first.length)
    (hbetween : answers'.length=between.length)
    (hbeside : ∀ operation∈between, Beside address len operation)
    (h : (calls (first++.write address len data::(between++[.read address len]))).Takes taken
      (answers++.wrote .ok::(answers'++[.read .ok bytes])) (accesses events)) :
    bytes=(List.range len.toNat).map data := by
  obtain ⟨-,outcomes,htrace,-⟩ := registers_refine_transfers hquiet hshows h
  generalize (⟨bus.slave.memory,0⟩ : I2cBus)=start at htrace
  rw [Machine.trace_append] at htrace
  obtain ⟨-,htrace⟩ := List.append_inj htrace (by rw [driverOver_length,hfirst])
  generalize (driverOver outcomes).run start first=bus₁ at htrace
  rw [Machine.trace] at htrace
  obtain ⟨hwrote,htrace⟩ := List.cons.inj htrace
  have hok : (EepromDriver.eepromWriteBytes outcomes bus₁ address data len).1=.ok := by
    injection hwrote
  have hend : address.toNat+len.toNat≤4096 := by
    by_contra hcon
    rw [EepromDriver.eepromWriteBytes,if_pos ((overflow_iff _ _).mpr (Nat.lt_of_not_le hcon))] at hok
    cases hok
  obtain ⟨count,-,hcount,hstored⟩ := eepromWriteBytes_stores outcomes bus₁ len data hend
  rw [hcount hok] at hstored
  have hholds : Holds (callOver outcomes bus₁ (.write address len data)).2 address len data :=
    (holdsAt_overlay _ _ _ _).congr hstored.symm hend
  change (driverOver outcomes).trace (callOver outcomes bus₁ (.write address len data)).2 _=_ at htrace
  generalize (callOver outcomes bus₁ (.write address len data)).2=bus₂ at htrace hholds
  rw [Machine.trace_append] at htrace
  obtain ⟨-,htrace⟩ := List.append_inj htrace (by rw [driverOver_length,hbetween])
  have hheld := @driverOver_holds outcomes _ _ _ _ hholds hend _ hbeside
  generalize (driverOver outcomes).run bus₂ between=bus₃ at htrace hheld
  have hread : Response.read (EepromDriver.eepromReadBytes outcomes bus₃ address len).1
      (EepromDriver.eepromReadBytes outcomes bus₃ address len).2.1=.read .ok bytes :=
    (List.cons.inj htrace).1
  obtain ⟨hstatus,hbytes⟩ := Response.read.inj hread
  cases hout : outcomes bus₃.transfers with
  | success =>
    rw [eepromReadBytes_success _ _ hend hout] at hbytes
    rw [←hbytes]
    exact List.map_congr_left fun i hi => hheld i (List.mem_range.mp hi)
  | failed stored =>
    rw [eepromReadBytes_failed _ _ hend hout] at hstatus
    cases hstatus

/-- A bus on which every command is sent as soon as it is pushed. -/
def prompt (log : List Access) : List BusEvent :=
  log.flatMap fun a =>
    match a with
    | .mtdr _ => [.access a,.acked]
    | _ => [.access a]

/-- The accesses on a prompt bus. -/
theorem accesses_prompt (log : List Access) : accesses (prompt log)=log := by
  induction log with
  | nil => rfl
  | cons a log ih =>
    have hlog : accesses (prompt (a::log))=a::accesses (prompt log) := by
      cases a <;> rfl
    rw [hlog,ih]

/-- A call and those after it return. -/
theorem calls_cons {operation : Operation} {operations : List Operation}
    {taken taken' : List Registers} {response : Response} {responses : List Response}
    {log log' : List Access} (h : (call operation).Takes taken response log)
    (h' : (calls operations).Takes taken' responses log') :
    (calls (operation::operations)).Takes (taken++taken') (response::responses) (log++log') := by
  rw [calls,Polled.takes_bind]
  refine ⟨taken,taken',response,log,log',rfl,rfl,h,?_⟩
  rw [Polled.takes_bind]
  exact ⟨taken',[],responses,log',[],(List.append_nil _).symm,(List.append_nil _).symm,h',
    Polled.takes_pure.mpr ⟨rfl,rfl,rfl⟩⟩

/-- A write of one byte. -/
theorem eepromWriteBytes_byte {address : UInt16} (data : ℕ → UInt8)
    (hfits : ¬4096<address.toUInt32+(1 : UInt16).toUInt32)
    (hchunk : (0 : UInt16)+(chunkSize address 1 0).toUInt16=1) :
    eepromWriteBytes address data 1=(do
      let written ← eepromWriteRawPage (address+0) (fun i => data ((0 : UInt16).toNat+i))
        (chunkSize address 1 0)
      if written≠Lpi2cStatus.success then return .i2cError else return .ok) := by
  have hdone : writeLoop address 1 data 1=pure .ok := by
    rw [writeLoop,if_neg (by decide)]
  rw [eepromWriteBytes,if_neg hfits,writeLoop,if_pos (by decide),hchunk,hdone]

/-- The last two cells are written, from the last one on, and read. Before that another cell
is read. -/
def lastCells : List Operation :=
  [.read 0x0010 1,.write 0x0FFF 1 fun _ => 7,.write 0x0FFE 1 fun _ => 5,.read 0x0FFE 1,
    .read 0x0FFF 1]

/-- A new device behind an idle peripheral. -/
def newBus : Bus := ⟨⟨fun _ _ => 0xFF,0,.idle⟩,[],[],false⟩

/-- Polls that all show room, this byte and a stop. -/
def polls (count : ℕ) (byte : UInt32) : List Registers := List.replicate count ⟨0x201,0,byte⟩

/-- Words that are pushed while there is room. -/
def pushed (words : List UInt32) : List Access :=
  words.flatMap fun word => [.getStatusFlags 0x201,.mtdr word]

/-- The end of a transfer. -/
def stopped : List Access :=
  [.getStatusFlags 0x201,.clearStatusFlags masterStopDetectFlag]

/-- The accesses of a write of one byte. -/
def byteWritten (high low byte : UInt32) : List Access :=
  opening 0x201++pushed [0x4A0,high,low,byte,stopCmd]++stopped

/-- The accesses of a read of one byte. -/
def byteRead (high low byte : UInt32) : List Access :=
  opening 0x201++pushed [0x4A0,high,low,0x4A1,rxDataCmd]++[.getStatusFlags 0x201,.mrdr byte]++
    pushed [stopCmd]++stopped

/-- The polls of these calls. -/
def lastCellsPolls : List Registers :=
  polls 9 0xFF++(polls 7 0++(polls 7 0++(polls 9 5++(polls 9 7++[]))))

/-- The accesses of these calls. -/
def lastCellsLog : List Access :=
  byteRead 0x00 0x10 0xFF++(byteWritten 0x0F 0xFF 7++(byteWritten 0x0F 0xFE 5++
    (byteRead 0x0F 0xFE 5++(byteRead 0x0F 0xFF 7++[]))))

/-- The calls return. -/
theorem lastCells_takes :
    (calls lastCells).Takes lastCellsPolls
      [.read .ok [0xFF],.wrote .ok,.wrote .ok,.read .ok [5],.read .ok [7]] lastCellsLog := by
  refine calls_cons rfl (calls_cons ?_ (calls_cons ?_ (calls_cons rfl (calls_cons rfl
    (Polled.takes_pure.mpr ⟨rfl,rfl,rfl⟩)))))
  · rw [call,eepromWriteBytes_byte _ (by decide) (by decide)]
    rfl
  · rw [call,eepromWriteBytes_byte _ (by decide) (by decide)]
    rfl

/-- What the registers show is checked. -/
instance showsDecidable (bus : Bus) (event : BusEvent) : Decidable (Shows bus event) :=
  match event with
  | .access (.getStatusFlags _) => inferInstanceAs (Decidable ((_ → _) ∧ (_ → _)))
  | .access (.mrdr value) =>
    if h : value&&&0x4000=0 then
      decidable_of_iff (bus.rx.head?=some (value&&&0xFF).toUInt8) (by simp [Shows,h])
    else decidable_of_iff (bus.rx=[]) (by simp [Shows,h])
  | .access (.clearStatusFlags _) => isTrue trivial
  | .access .resetFifos => isTrue trivial
  | .access .autoStopOff => isTrue trivial
  | .access (.mtdr _) => isTrue trivial
  | .acked => isTrue trivial
  | .nacked => isTrue trivial

/-- The registers show the prompt bus. -/
theorem lastCells_shows : busMachine.Guarded Shows newBus (prompt lastCellsLog) := by
  decide +kernel

/-- The byte written to the last cell is read back after another write and another read. -/
theorem lastCells_read_back :
    [7]=(List.range (1 : UInt16).toNat).map fun _ => (7 : UInt8) :=
  @written_is_read_back newBus ⟨fun _ h => absurd h List.not_mem_nil,rfl⟩ (prompt lastCellsLog)
    lastCells_shows 0x0FFF 1 (fun _ => 7) [.read 0x0010 1]
    [.write 0x0FFE 1 fun _ => 5,.read 0x0FFE 1] lastCellsPolls [.read .ok [0xFF]]
    [.wrote .ok,.read .ok [5]] [7] rfl rfl (by
      intro operation hmem
      rcases List.mem_pair.mp hmem with rfl|rfl
      · exact Or.inl (by decide)
      · trivial)
    (by rw [accesses_prompt]; exact lastCells_takes)

/-- These calls answer as over transfers. -/
theorem lastCells_refine : Quiet (busMachine.run newBus (prompt lastCellsLog)) ∧ ∃ outcomes,
    (driverOver outcomes).trace ⟨newBus.slave.memory,0⟩ lastCells=
      [.read .ok [0xFF],.wrote .ok,.wrote .ok,.read .ok [5],.read .ok [7]] ∧
    ((driverOver outcomes).run ⟨newBus.slave.memory,0⟩ lastCells).memory=
      (busMachine.run newBus (prompt lastCellsLog)).slave.memory :=
  registers_refine_transfers ⟨fun _ h => absurd h List.not_mem_nil,rfl⟩ lastCells_shows
    (by rw [accesses_prompt]; exact lastCells_takes)

end WebDataLogger.EepromWire
