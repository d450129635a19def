import WebDataLogger.TransitionRuns
import WebDataLogger.Lpi2cWire

/-!
# The EEPROM behind the FIFOs of its master

The peripheral takes commands out of the transmit FIFO at any time, and the device may
refuse any address or byte. A refused command stops the bus until its flag is cleared, and a
reset of the FIFOs drops what was not sent. The driver sees all of this through its status
register only: the flag of a refused command, and the transmit FIFO flag, which is set when
the FIFO is empty.
-/

namespace WebDataLogger.EepromBus

open TransitionRuns FlatStore PolledIo Lpi2cMaster Lpi2cWire
open EepromDriver hiding Status

/-- What the AT24C32 expects next. -/
inductive Phase where
  /-- Not addressed. -/
  | idle
  | addressHigh
  | addressLow (high : UInt8)
  /-- Addressed for a write, with a pointer. -/
  | writing
  /-- Addressed for a read. -/
  | reading
  deriving DecidableEq

/-- The AT24C32 on the bus. -/
structure Slave where
  memory : At24c32
  /-- Address of the next cell. -/
  pointer : ℕ
  phase : Phase

/-- A byte sent to the device. In a write the pointer rolls over at the end of its page. -/
def Slave.byte (slave : Slave) (byte : UInt8) : Slave :=
  match slave.phase with
  | .addressHigh => {slave with phase := .addressLow byte}
  | .addressLow high => {slave with pointer := 256*high.toNat+byte.toNat, phase := .writing}
  | .writing =>
    {slave with
      memory := setCell slave.memory (Fin.ofNat 128 (slave.pointer/32)) (Fin.ofNat 32 slave.pointer) byte
      pointer := slave.pointer/32*32+(slave.pointer+1)%32}
  | _ => slave

/-- A command that the device takes part in, with the bytes seen by the master. A bus that no
device drives reads as ones. -/
def Slave.command (slave : Slave) : Command → Slave×List UInt8
  | .start slaveAddress direction =>
    if slaveAddress=0x50 then
      ({slave with phase := if direction=.write then .addressHigh else .reading},[])
    else ({slave with phase := .idle},[])
  | .send byte => (slave.byte byte,[])
  | .receive count =>
    if slave.phase=.reading then
      ({slave with pointer := slave.pointer+count},
        (List.range count).map fun i => flat slave.memory (slave.pointer+i))
    else (slave,List.replicate count 0xFF)
  | .stop => ({slave with phase := .idle},[])

/-- The device and the commands on its bus. After a command that is not acknowledged the
peripheral sends a stop. -/
def slaveMachine : Machine Slave (Command×Bool) UInt8 where
  step slave
    | (command,true) => slave.command command
    | (_,false) => ({slave with phase := .idle},[])

/-- The peripheral and the device. -/
structure Bus where
  slave : Slave
  /-- Commands not sent yet. -/
  tx : List Command
  /-- Bytes not read yet. -/
  rx : List UInt8
  /-- A command was not acknowledged, and its flag was not cleared yet. -/
  nak : Bool

/-- What happens on the bus. -/
inductive BusEvent where
  /-- The driver accesses a register. -/
  | access (a : Access)
  /-- The first command of the FIFO is sent. -/
  | acked
  /-- The first command of the FIFO is not acknowledged. -/
  | nacked

/-- Only addresses and bytes are acknowledged by the device. -/
def needsAck : Command → Bool
  | .start _ _ => true
  | .send _ => true
  | _ => false

/-- The commands sent at an event. -/
def wire (bus : Bus) : BusEvent → List (Command×Bool)
  | .access _ => []
  | .acked =>
    match bus.nak,bus.tx with
    | false,command::_ => [(command,true)]
    | _,_ => []
  | .nacked =>
    match bus.nak,bus.tx with
    | false,command::_ => if needsAck command=true then [(command,false)] else []
    | _,_ => []

/-- An access seen from the FIFOs. -/
def Bus.access (bus : Bus) : Access → Bus
  | .mtdr word => {bus with tx := bus.tx++(Command.ofWord word).toList}
  | .resetFifos => {bus with tx := [], rx := []}
  | .clearStatusFlags flags => {bus with nak := bus.nak && flags&&&masterNackDetectFlag=0}
  | .mrdr value => {bus with rx := if value&&&0x4000=0 then bus.rx.tail else bus.rx}
  | _ => bus

/-- The bus, with the commands sent on it. -/
def busMachine : Machine Bus BusEvent (Command×Bool) where
  step bus event :=
    (match event with
      | .access a => bus.access a
      | _ =>
        ⟨slaveMachine.run bus.slave (wire bus event),bus.tx.drop (wire bus event).length,
          bus.rx++slaveMachine.trace bus.slave (wire bus event),
          bus.nak || (wire bus event).any fun sent => !sent.2⟩,
      wire bus event)

/-- What the registers show. The transmit FIFO flag is set when the FIFO is empty, and the
flag of a command that was not acknowledged stays set until it is cleared. A byte read is the
head of the receive FIFO. -/
def Shows (bus : Bus) : BusEvent → Prop
  | .access (.getStatusFlags flags) =>
    (flags&&&masterTxReadyFlag≠0 → bus.tx=[]) ∧
      (bus.nak=true → flags&&&masterNackDetectFlag≠0)
  | .access (.mrdr value) =>
    if value&&&0x4000=0 then bus.rx.head?=some (value&&&0xFF).toUInt8 else bus.rx=[]
  | _ => True

/-- The accesses among the events. -/
def accesses (events : List BusEvent) : List Access :=
  events.filterMap fun
    | .access a => some a
    | _ => none

@[simp] theorem accesses_append (events events' : List BusEvent) :
    accesses (events++events')=accesses events++accesses events' :=
  List.filterMap_append

/-- An access is made at one of the events. -/
theorem accesses_split {events : List BusEvent} {before after : List Access} {a : Access}
    (h : accesses events=before++a::after) :
    ∃ past future, events=past++.access a::future ∧ accesses past=before ∧
      accesses future=after := by
  obtain ⟨past,rest,rfl,rfl,hrest⟩ := List.filterMap_eq_append_iff.mp h
  obtain ⟨silent,event,future,rfl,hsilent,hevent,rfl⟩ := List.filterMap_eq_cons_iff.mp hrest
  cases event with
  | access a' =>
    cases hevent
    refine ⟨past++silent,future,by rw [List.append_assoc],?_,rfl⟩
    rw [accesses_append]
    have hnone : accesses silent=[] := List.filterMap_eq_nil_iff.mpr hsilent
    rw [hnone,List.append_nil]
    rfl
  | acked => cases hevent
  | nacked => cases hevent

/-- What is sent leaves the transmit FIFO. -/
theorem wire_append_drop (bus : Bus) (event : BusEvent) :
    (wire bus event).map Prod.fst++bus.tx.drop (wire bus event).length=bus.tx := by
  cases event with
  | access a => rfl
  | acked =>
    unfold wire
    dsimp only
    split
    next htx => rw [htx]; rfl
    · rfl
  | nacked =>
    unfold wire
    dsimp only
    split
    next htx =>
      rw [htx]
      split <;> rfl
    · rfl

/-- Commands pushed by accesses. -/
def pushed (log : List Access) : List Command := (words log).filterMap Command.ofWord

@[simp] theorem pushed_append (log log' : List Access) :
    pushed (log++log')=pushed log++pushed log' := by
  rw [pushed,words_append,List.filterMap_append]
  rfl

/-- The accesses of a longer run. -/
theorem accesses_cons_access (a : Access) (events : List BusEvent) :
    accesses (.access a::events)=a::accesses events := rfl

/-- Without a reset no command is lost and none overtakes another: what was waiting and what
was pushed is what was sent and what is waiting. -/
theorem commands_conserved {bus : Bus} {events : List BusEvent}
    (h : Access.resetFifos∉accesses events) :
    bus.tx++pushed (accesses events)=
      (busMachine.trace bus events).map Prod.fst++(busMachine.run bus events).tx := by
  induction events generalizing bus with
  | nil => rw [Machine.trace_nil,Machine.run_nil]; exact List.append_nil _
  | cons event events ih =>
    rw [Machine.trace,Machine.run,List.map_append,List.append_assoc]
    cases event with
    | access a =>
      rw [accesses_cons_access,List.mem_cons,not_or] at h
      rw [←ih h.2,accesses_cons_access]
      change bus.tx++pushed (a::accesses events)=(bus.access a).tx++pushed (accesses events)
      cases a with
      | mtdr word =>
        change _=bus.tx++(Command.ofWord word).toList++pushed (accesses events)
        rw [List.append_assoc]
        congr 1
        change ((word::words (accesses events)).filterMap Command.ofWord)=_
        rw [List.filterMap_cons]
        cases Command.ofWord word <;> rfl
      | resetFifos => exact absurd rfl h.1
      | getStatusFlags flags => rfl
      | clearStatusFlags flags => rfl
      | autoStopOff => rfl
      | mrdr value => rfl
    | acked =>
      rw [←ih h,←List.append_assoc]
      exact congrArg (·++pushed (accesses events)) (wire_append_drop bus .acked).symm
    | nacked =>
      rw [←ih h,←List.append_assoc]
      exact congrArg (·++pushed (accesses events)) (wire_append_drop bus .nacked).symm

/-- The device does what is sent to it. -/
theorem run_slave (bus : Bus) (events : List BusEvent) :
    (busMachine.run bus events).slave=slaveMachine.run bus.slave (busMachine.trace bus events) := by
  induction events generalizing bus with
  | nil => rfl
  | cons event events ih =>
    rw [Machine.run,Machine.trace,ih,Machine.run_append]
    cases event with
    | access a => cases a <;> rfl
    | acked => rfl
    | nacked => rfl

/-- Without a reset no byte is lost: what was waiting and what the device sent is what was
read and what is waiting. -/
theorem bytes_conserved {bus : Bus} {events : List BusEvent}
    (h : Access.resetFifos∉accesses events) (hshows : busMachine.Guarded Shows bus events) :
    bus.rx++slaveMachine.trace bus.slave (busMachine.trace bus events)=
      popped (accesses events)++(busMachine.run bus events).rx := by
  induction events generalizing bus with
  | nil => exact List.append_nil _
  | cons event events ih =>
    rw [Machine.trace,Machine.run,Machine.trace_append]
    obtain ⟨hshow,hrest⟩ := hshows
    cases event with
    | access a =>
      rw [accesses_cons_access,List.mem_cons,not_or] at h
      have hih := ih h.2 hrest
      cases a with
      | mrdr value =>
        change (if value&&&0x4000=0 then bus.rx.tail else bus.rx)++_=_ at hih
        change (if value&&&0x4000=0 then _ else _) at hshow
        rw [accesses_cons_access]
        by_cases hbyte : value&&&0x4000=0
        · rw [if_pos hbyte] at hih hshow
          have hpop : popped (.mrdr value::accesses events)=
              (value&&&0xFF).toUInt8::popped (accesses events) := by
            simp [popped,hbyte]
          obtain ⟨tail,htail⟩ := List.head?_eq_some_iff.mp hshow
          rw [htail,List.tail_cons] at hih
          rw [hpop,List.cons_append,←hih,htail]
          rfl
        · rw [if_neg hbyte] at hih
          have hpop : popped (.mrdr value::accesses events)=popped (accesses events) := by
            simp [popped,hbyte]
          rw [hpop,←hih]
          rfl
      | resetFifos => exact absurd rfl h.1
      | getStatusFlags flags => exact hih
      | clearStatusFlags flags => exact hih
      | autoStopOff => exact hih
      | mtdr word => exact hih
    | acked =>
      have hih := ih h hrest
      rw [←List.append_assoc]
      exact hih
    | nacked =>
      have hih := ih h hrest
      rw [←List.append_assoc]
      exact hih

/-- While no flag is cleared, a bus that shows no refused command has sent none. -/
theorem all_acked {bus : Bus} {events : List BusEvent}
    (hclear : ∀ flags, Access.clearStatusFlags flags∉accesses events)
    (h : (busMachine.run bus events).nak=false) :
    bus.nak=false ∧ ∀ sent∈busMachine.trace bus events, sent.2=true := by
  induction events generalizing bus with
  | nil => exact ⟨h,fun _ hsent => absurd hsent List.not_mem_nil⟩
  | cons event events ih =>
    rw [Machine.run] at h
    cases event with
    | access a =>
      have hrest : ∀ flags, Access.clearStatusFlags flags∉accesses events := fun flags hmem =>
        hclear flags (List.mem_cons_of_mem a hmem)
      obtain ⟨hnak,htrace⟩ := ih hrest h
      refine ⟨?_,htrace⟩
      cases a with
      | clearStatusFlags flags => exact absurd List.mem_cons_self (hclear flags)
      | _ => exact hnak
    | acked =>
      obtain ⟨hnak,htrace⟩ := ih hclear h
      change (bus.nak || (wire bus .acked).any fun sent => !sent.2)=false at hnak
      obtain ⟨hbus,hwire⟩ := Bool.or_eq_false_iff.mp hnak
      refine ⟨hbus,fun sent hsent => ?_⟩
      rcases List.mem_append.mp hsent with hnow|hlater
      · simpa using List.any_eq_false.mp hwire sent hnow
      · exact htrace sent hlater
    | nacked =>
      obtain ⟨hnak,htrace⟩ := ih hclear h
      change (bus.nak || (wire bus .nacked).any fun sent => !sent.2)=false at hnak
      obtain ⟨hbus,hwire⟩ := Bool.or_eq_false_iff.mp hnak
      refine ⟨hbus,fun sent hsent => ?_⟩
      rcases List.mem_append.mp hsent with hnow|hlater
      · simpa using List.any_eq_false.mp hwire sent hnow
      · exact htrace sent hlater

/-- Between two transfers at most stops wait to be sent, and no byte waits to be read. -/
structure Quiet (bus : Bus) : Prop where
  stops : ∀ command∈bus.tx, command=.stop
  empty : bus.rx=[]

/-- Stops sent on the bus. -/
def Stops (sent : List (Command×Bool)) : Prop := ∀ s∈sent, s=(.stop,true)

/-- Stops leave the memory alone, and the device answers nothing. -/
theorem Stops.memory {sent : List (Command×Bool)} (h : Stops sent) (slave : Slave) :
    (slaveMachine.run slave sent).memory=slave.memory ∧ slaveMachine.trace slave sent=[] := by
  induction sent generalizing slave with
  | nil => exact ⟨rfl,rfl⟩
  | cons s sent ih =>
    rw [Machine.run,Machine.trace,h s List.mem_cons_self]
    exact ih (fun s' hs' => h s' (List.mem_cons_of_mem s hs')) _

/-- A quiet bus sends stops only. -/
theorem Quiet.wire {bus : Bus} (h : Quiet bus) (event : BusEvent) : Stops (wire bus event) := by
  intro s hs
  cases event with
  | access a => cases hs
  | acked =>
    unfold EepromBus.wire at hs
    dsimp only at hs
    split at hs
    next command rest hnak htx =>
      have hcommand : command=.stop := h.stops command (by rw [htx]; exact List.mem_cons_self)
      rw [List.mem_singleton.mp hs,hcommand]
    · cases hs
  | nacked =>
    unfold EepromBus.wire at hs
    dsimp only at hs
    split at hs
    next command rest hnak htx =>
      have hcommand : command=.stop := h.stops command (by rw [htx]; exact List.mem_cons_self)
      rw [hcommand] at hs
      cases hs
    · cases hs

/-- A bus on which only stops are pushed stays quiet. -/
theorem Quiet.step {bus : Bus} (h : Quiet bus) (event : BusEvent)
    (hstop : ∀ word, event=.access (.mtdr word) → Command.ofWord word=some .stop) :
    Quiet (busMachine.step bus event).1 := by
  have hsend : ∀ e, Quiet ⟨slaveMachine.run bus.slave (EepromBus.wire bus e),
      bus.tx.drop (EepromBus.wire bus e).length,
      bus.rx++slaveMachine.trace bus.slave (EepromBus.wire bus e),
      bus.nak || (EepromBus.wire bus e).any fun sent => !sent.2⟩ := fun e =>
    ⟨fun c hc => h.stops c (List.mem_of_mem_drop hc),
      by rw [h.empty,((h.wire e).memory bus.slave).2]; rfl⟩
  cases event with
  | access a =>
    cases a with
    | mtdr word =>
      refine ⟨fun c hc => ?_,h.empty⟩
      rcases List.mem_append.mp hc with hold|hnew
      · exact h.stops c hold
      · rw [hstop word rfl] at hnew
        exact List.mem_singleton.mp hnew
    | resetFifos => exact ⟨fun c hc => absurd hc List.not_mem_nil,rfl⟩
    | mrdr value =>
      refine ⟨h.stops,?_⟩
      change (if value&&&0x4000=0 then bus.rx.tail else bus.rx)=[]
      rw [h.empty]
      split <;> rfl
    | getStatusFlags flags => exact h
    | clearStatusFlags flags => exact ⟨h.stops,h.empty⟩
    | autoStopOff => exact h
  | acked => exact hsend .acked
  | nacked => exact hsend .nacked

/-- While only stops are pushed a quiet bus stays quiet and sends only stops. -/
theorem Quiet.run {bus : Bus} (h : Quiet bus) {events : List BusEvent}
    (hstops : ∀ word∈words (accesses events), Command.ofWord word=some .stop) :
    Quiet (busMachine.run bus events) ∧ Stops (busMachine.trace bus events) := by
  induction events generalizing bus with
  | nil => exact ⟨h,fun _ hs => absurd hs List.not_mem_nil⟩
  | cons event events ih =>
    have hfirst : ∀ word, event=.access (.mtdr word) → Command.ofWord word=some .stop := by
      rintro word rfl
      exact hstops word List.mem_cons_self
    have hrest : ∀ word∈words (accesses events), Command.ofWord word=some .stop := by
      intro word hword
      apply hstops
      have hsplit : accesses (event::events)=accesses [event]++accesses events :=
        accesses_append [event] events
      rw [hsplit,words_append]
      exact List.mem_append_right _ hword
    obtain ⟨hquiet,htrace⟩ := ih (h.step event hfirst) hrest
    refine ⟨hquiet,fun s hs => ?_⟩
    rcases List.mem_append.mp hs with hnow|hlater
    · exact h.wire event s hnow
    · exact htrace s hlater

/-- What a quiet bus sends leaves the memory alone. -/
theorem Quiet.run_memory {bus : Bus} (h : Quiet bus) {events : List BusEvent}
    (hstops : ∀ word∈words (accesses events), Command.ofWord word=some .stop) :
    (busMachine.run bus events).slave.memory=bus.slave.memory := by
  rw [run_slave]
  exact ((h.run hstops).2.memory bus.slave).1

/-- Bytes that a command asks for. -/
def asked : Command → ℕ
  | .receive count => count
  | _ => 0

/-- The master reads as many bytes as its commands ask for. -/
theorem answers_length {sent : List (Command×Bool)} (h : ∀ s∈sent, s.2=true) (slave : Slave) :
    (slaveMachine.trace slave sent).length=((sent.map Prod.fst).map asked).sum := by
  induction sent generalizing slave with
  | nil => rfl
  | cons s sent ih =>
    rw [Machine.trace,List.length_append,ih fun s' hs' => h s' (List.mem_cons_of_mem s hs'),
      List.map_cons,List.map_cons,List.sum_cons]
    congr 1
    obtain ⟨command,acked⟩ := s
    have hacked : acked=true := h _ List.mem_cons_self
    rw [hacked]
    change (slave.command command).2.length=asked command
    cases command with
    | start slaveAddress direction =>
      rw [Slave.command]
      split <;> rfl
    | send byte => rfl
    | receive count =>
      rw [Slave.command]
      split
      · rw [List.length_map,List.length_range]
        rfl
      · rw [List.length_replicate]
        rfl
    | stop => rfl

/-- Commands that ask for nothing. -/
theorem sum_asked_zero {sent : List Command} (h : ∀ command∈sent, asked command=0) :
    (sent.map asked).sum=0 := by
  induction sent with
  | nil => rfl
  | cons command sent ih =>
    rw [List.map_cons,List.sum_cons,h command List.mem_cons_self,
      ih fun c hc => h c (List.mem_cons_of_mem command hc)]

/-- A transfer asks for the bytes it receives. -/
theorem asked_commands {transfer : Transfer} (counts : Counts transfer.received) :
    ((commands transfer counts).map asked).sum=transfer.received := by
  have hhead : ((headCommands transfer).map asked).sum=0 := by
    refine sum_asked_zero fun command hcommand => ?_
    unfold headCommands startCommand at hcommand
    rcases List.mem_append.mp hcommand with hcommand|hcommand
    · rcases List.mem_append.mp hcommand with hcommand|hcommand
      · split at hcommand
        · rw [List.mem_singleton.mp hcommand]
          rfl
        · cases hcommand
      · obtain ⟨byte,-,rfl⟩ := List.mem_map.mp hcommand
        rfl
    · split at hcommand
      · split at hcommand
        · rw [List.mem_singleton.mp hcommand]
          rfl
        · cases hcommand
      · cases hcommand
  have hdata : ((dataCommands transfer counts).map asked).sum=transfer.received := by
    have hsum := counts.sum_eq
    unfold dataCommands
    split
    next hdirection =>
      have hzero : transfer.received=0 := by
        unfold Transfer.received
        rw [hdirection]
      rw [hzero]
      refine sum_asked_zero fun command hcommand => ?_
      obtain ⟨byte,-,rfl⟩ := List.mem_map.mp hcommand
      rfl
    next hdirection =>
      rw [List.map_map]
      change (counts.counts.map fun count => count).sum=_
      rw [List.map_id']
      exact hsum
  have hend : ((if transfer.flags&&&transferNoStopFlag=0 then [Command.stop] else []).map asked).sum=0 := by
    split <;> rfl
  rw [commands,List.map_append,List.map_append,List.sum_append,List.sum_append,hhead,hdata,hend]
  omega

/-- Words that decode to commands push these. -/
theorem pushed_of_decode {ws : List UInt32} {sent : List Command}
    (h : ws.map Command.ofWord<+:sent.map some) : ws.filterMap Command.ofWord<+:sent := by
  have hfilter := h.filterMap id
  rw [List.filterMap_map,List.filterMap_map] at hfilter
  simpa using hfilter

/-- Nothing was refused when the flag of a refused byte was cleared before the first command and
not after it, and is down at the end. -/
theorem acked_after_clear {bus : Bus} (hquiet : Quiet bus) {events : List BusEvent}
    {opened log : List Access} {flags : UInt32}
    (hevents : accesses events=opened++.clearStatusFlags flags::log) (hopened : words opened=[])
    (hclear : ∀ flags, Access.clearStatusFlags flags∉log)
    (hnak : (busMachine.run bus events).nak=false) : ∀ s∈busMachine.trace bus events, s.2=true := by
  obtain ⟨before,after,rfl,hbefore,hafter⟩ := accesses_split hevents
  rw [Machine.trace_append,Machine.trace]
  have hstops : Stops (busMachine.trace bus before) := by
    refine (hquiet.run ?_).2
    rw [hbefore,hopened]
    exact fun word hword => absurd hword List.not_mem_nil
  rw [Machine.run_append,Machine.run] at hnak
  intro s hs
  rcases List.mem_append.mp hs with hfirst|hlater
  · rw [hstops s hfirst]
  · exact (all_acked (by rw [hafter]; exact hclear) hnak).2 s hlater

/-- A transfer that waits for its stop on an empty FIFO, and then sees no error, has sent the
stops before it and all its commands. All were acknowledged, and its bytes are those of the
device. -/
theorem stopped_sent {bus : Bus} (hquiet : Quiet bus) {past future : List BusEvent}
    {first flags : UInt32}
    (hshows : busMachine.Guarded Shows bus (past++.access (.getStatusFlags flags)::future))
    {log : List Access} (hpast : accesses past=opening first++log) {transfer : Transfer}
    {counts : Counts transfer.received} (hall : (transfer.bodyWords++[stopCmd]).map Command.ofWord=
      (commands transfer counts).map some)
    (steady : ∀ a∈log, a.Steady) (hwords : words log=transfer.bodyWords++[stopCmd])
    (clean : flags&&&masterErrorFlags=0) (empty : flags&&&masterTxReadyFlag≠0)
    (hlength : (popped log).length=transfer.received) :
    Quiet (busMachine.run bus past) ∧ (∀ s∈busMachine.trace bus past, s.2=true) ∧
      (busMachine.trace bus past).map Prod.fst=bus.tx++commands transfer counts ∧
      popped log=slaveMachine.trace bus.slave (busMachine.trace bus past) := by
  obtain ⟨hdrained,hrefused⟩ := hshows.split
  have htx := hdrained empty
  have hnak : (busMachine.run bus past).nak=false := by
    by_contra hcon
    refine hrefused (Bool.eq_true_of_not_eq_false hcon) ?_
    have hpart : masterNackDetectFlag=masterErrorFlags&&&masterNackDetectFlag := by decide
    rw [hpart,←UInt32.and_assoc,clean]
    rfl
  have hreset : Access.resetFifos∉accesses past := by
    rw [hpast,List.mem_append]
    exact not_or.mpr ⟨by simp [opening],resetFifos_not_mem steady⟩
  have hsent : (busMachine.trace bus past).map Prod.fst=bus.tx++commands transfer counts := by
    have hconserved := @commands_conserved bus past hreset
    have hpushed : pushed log=commands transfer counts := by
      rw [pushed,hwords]
      have h := congrArg (List.filterMap id) hall
      rw [List.filterMap_map,List.filterMap_map] at h
      simpa using h
    have hopened : pushed (opening first)=[] := rfl
    rw [htx,List.append_nil,hpast,pushed_append,hpushed,hopened,List.nil_append] at hconserved
    exact hconserved.symm
  have hclear : ∀ flags, Access.clearStatusFlags flags∉.autoStopOff::log := by
    intro flags hmem
    rcases List.mem_cons.mp hmem with heq|hmem
    · cases heq
    · exact steady _ hmem
  have hacked : ∀ s∈busMachine.trace bus past, s.2=true :=
    acked_after_clear hquiet (show accesses past=[.getStatusFlags first]++
      .clearStatusFlags masterClearFlags::(.autoStopOff::log) from hpast) rfl hclear hnak
  have hbytes := bytes_conserved hreset (busMachine.guarded_append.mp hshows).1
  have hopened : popped (opening first)=[] := rfl
  rw [hquiet.empty,List.nil_append,hpast,popped_append,hopened,List.nil_append] at hbytes
  -- The device has answered as many bytes as were taken, so that none is left.
  have hempty : (busMachine.run bus past).rx=[] := by
    have hanswers := answers_length hacked bus.slave
    have hasked : ((commands transfer counts).map asked).sum=transfer.received :=
      asked_commands counts
    have hwaiting : (bus.tx.map asked).sum=0 :=
      sum_asked_zero fun c hc => by rw [hquiet.stops c hc]; rfl
    rw [hsent,List.map_append,List.sum_append,hasked,hwaiting,Nat.zero_add,hbytes,
      List.length_append,hlength] at hanswers
    exact List.eq_nil_of_length_eq_zero (by omega)
  rw [hempty,List.append_nil] at hbytes
  exact ⟨⟨fun c hc => absurd (by rwa [htx] at hc) List.not_mem_nil,hempty⟩,hacked,hsent,
    hbytes.symm⟩

/-- What a transfer does to the bus. It sends first the stops that were waiting and then some
first commands of its own, and when it succeeds it has sent them all, each was acknowledged,
and the bytes are those of the device. -/
theorem transfer_sent {bus : Bus} (hquiet : Quiet bus) {events : List BusEvent}
    (hshows : busMachine.Guarded Shows bus events) {transfer : Transfer}
    (haddress : transfer.slaveAddress.toNat<128)
    (hstop : transfer.flags&&&transferNoStopFlag=0) {taken : List Registers} {result : Lpi2cStatus}
    {bytes : List UInt8}
    (htakes : (masterTransferBlocking transfer).Takes taken (result,bytes) (accesses events)) :
    Quiet (busMachine.run bus events) ∧ ∃ counts sent,
      sent.map Prod.fst<+:bus.tx++commands transfer counts ∧
      (busMachine.run bus events).slave.memory=(slaveMachine.run bus.slave sent).memory ∧
      (result=.success → (∀ s∈sent, s.2=true) ∧
        sent.map Prod.fst=bus.tx++commands transfer counts ∧
        bytes=slaveMachine.trace bus.slave sent) := by
  obtain ⟨counts,hbody⟩ := decode_bodyWords haddress
  have hall : (transfer.bodyWords++[stopCmd]).map Command.ofWord=
      (commands transfer counts).map some := by
    rw [commands,if_pos hstop,List.map_append,List.map_append,hbody]
    rfl
  obtain ⟨first,⟨rfl,rfl,hlog,-⟩|⟨rest,hlog,hfinishes,hlength⟩⟩ := masterTransferBlocking_takes htakes
  · -- The bus was busy: only the waiting stops are sent.
    have hnone : ∀ word∈words (accesses events), Command.ofWord word=some .stop := by
      rw [hlog]
      exact fun word hword => absurd hword List.not_mem_nil
    refine ⟨(hquiet.run hnone).1,counts,[],List.nil_prefix,hquiet.run_memory hnone,?_⟩
    exact fun hr => absurd hr (by decide)
  · unfold Transfer.Finishes at hfinishes
    rw [if_pos hstop] at hfinishes
    cases hfinishes with
    | @stopped log flags steady hwords clean seen empty =>
      rw [←List.append_assoc] at hlog
      obtain ⟨past,future,rfl,hpast,hfuture⟩ := accesses_split hlog
      obtain ⟨hstill,hacked,hsent,hanswers⟩ :=
        stopped_sent hquiet hshows hpast hall steady hwords clean empty (hlength rfl)
      have hrest : ∀ word∈words (accesses (.access (.getStatusFlags flags)::future)),
          Command.ofWord word=some .stop := by
        rw [accesses_cons_access,hfuture]
        exact fun word hword => absurd hword List.not_mem_nil
      rw [Machine.run_append]
      refine ⟨(hstill.run hrest).1,counts,busMachine.trace bus past,?_,?_,fun _ =>
        ⟨hacked,hsent,hanswers⟩⟩
      · exact ⟨[],(List.append_nil _).trans hsent⟩
      · rw [hstill.run_memory hrest,run_slave]
    | @broken log tail flags steady error hwords aftermath released =>
      have hlog' : accesses events=
          (opening first++log++[.getStatusFlags flags,.clearStatusFlags (flags&&&masterErrorFlags)])++
            .resetFifos::tail := by
        rw [hlog]
        simp [errorAccesses]
      obtain ⟨past,future,rfl,hpast,hfuture⟩ := accesses_split hlog'
      have hreset : Access.resetFifos∉accesses past := by
        rw [hpast]
        simp [opening,resetFifos_not_mem steady]
      have hsent := @commands_conserved bus past hreset
      have hpushed : pushed (accesses past)<+:commands transfer counts := by
        have hpart : pushed (accesses past)=pushed log := by
          rw [hpast]
          simp [pushed,words,opening]
        rw [hpart]
        apply pushed_of_decode
        rw [←hall]
        exact hwords.map _
      -- The reset leaves nothing to send and nothing to read.
      have hstill : Quiet (busMachine.step (busMachine.run bus past) (.access .resetFifos)).1 :=
        ⟨fun c hc => absurd hc List.not_mem_nil,rfl⟩
      have hrest : ∀ word∈words (accesses future), Command.ofWord word=some .stop := by
        intro word hword
        rw [hfuture] at hword
        rw [aftermath.stops word hword]
        exact ofWord_stopCmd
      rw [Machine.run_append,Machine.run]
      refine ⟨(hstill.run hrest).1,counts,busMachine.trace bus past,?_,?_,fun hr => ?_⟩
      · have hprefix := (List.prefix_append_right_inj bus.tx).mpr hpushed
        rw [hsent] at hprefix
        exact (List.prefix_append _ _).trans hprefix
      · rw [hstill.run_memory hrest]
        change (busMachine.run bus past).slave.memory=_
        rw [run_slave]
      · exact absurd hr (masterCheckAndClearError_error error).2.1

end WebDataLogger.EepromBus
