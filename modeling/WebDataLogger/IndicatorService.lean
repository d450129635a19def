import Mathlib.Algebra.Order.Ring.Nat
import Mathlib.Data.Nat.Notation
import Mathlib.Logic.Function.Iterate
import WebDataLogger.TransitionRuns

/-!
# The blink engine of the LEDs

`led_service_task_10ms` counts ticks for each LED that blinks and inverts its level
when its interval is over. Commands set a blink interval or a solid level. The
levels written to the pins are observed.
-/

namespace WebDataLogger.IndicatorService

open TransitionRuns

/-- An output pin of a GPIO port. -/
structure GpioPin where
  port : ℕ
  pin : UInt8
  deriving DecidableEq

/-- `led_pins`. -/
def ledPins : Fin 3 → GpioPin
  | 0 => ⟨0,10⟩
  | 1 => ⟨0,27⟩
  | 2 => ⟨1,2⟩

/-- A call of `SetOutput`, with `LOGIC_LED_ON` or `LOGIC_LED_OFF`. -/
structure SetOutput where
  pin : GpioPin
  on : Bool
  deriving DecidableEq

/-- `led_driver_write`. -/
def ledDriverWrite (index : UInt8) (on : Bool) : List SetOutput :=
  if h : index.toNat<3 then [⟨ledPins ⟨index.toNat,h⟩,on⟩] else []

/-- `led_state_t`. An interval of 0 means solid. -/
structure LedState where
  intervalTicks : UInt32
  counter : UInt32
  level : Bool
  deriving DecidableEq

/-- `led`. -/
abbrev LedArray := Fin 3 → LedState

/-- `led_service_init`. -/
def ledServiceInit : LedArray := fun _ => ⟨0,0,false⟩

/-- `led_service_set_blink`. The level stays as it is. -/
def ledServiceSetBlink (index : UInt8) (intervalMs : UInt32) (led : LedArray) : LedArray :=
  if 3 ≤ index then led
  else fun i => if i.val=index.toNat then ⟨intervalMs/10,0,(led i).level⟩ else led i

/-- `led_service_set_solid`. The counter stays as it is. -/
def ledServiceSetSolid (index : UInt8) (on : Bool) (led : LedArray) : LedArray×List SetOutput :=
  if 3 ≤ index then (led,[])
  else (fun i => if i.val=index.toNat then ⟨0,(led i).counter,on⟩ else led i,
    ledDriverWrite index on)

/-- One turn of the loop of `led_service_task_10ms`, with the level written if it is inverted. -/
def ledTurn (led : LedState) : LedState×Option Bool :=
  if led.intervalTicks=0 then (led,none)
  else if led.intervalTicks ≤ led.counter+1 then
    (⟨led.intervalTicks,0,!led.level⟩,some (!led.level))
  else (⟨led.intervalTicks,led.counter+1,led.level⟩,none)

/-- `led_service_task_10ms`. -/
def ledServiceTask10ms (led : LedArray) : LedArray×List SetOutput :=
  (fun i => (ledTurn (led i)).1,(List.finRange 3).flatMap (fun i =>
    match (ledTurn (led i)).2 with
    | some level => ledDriverWrite i.val.toUInt8 level
    | none => []))

/-- The calls of the service. -/
inductive LedCall where
  | setBlink (index : UInt8) (intervalMs : UInt32)
  | setSolid (index : UInt8) (on : Bool)
  | task10ms
  deriving DecidableEq

/-- The service and its writes to the pins. -/
def ledService : Machine LedArray LedCall SetOutput where
  step led
    | .setBlink index intervalMs => (ledServiceSetBlink index intervalMs led,[])
    | .setSolid index on => ledServiceSetSolid index on led
    | .task10ms => ledServiceTask10ms led

/-- Level of a pin after some writes, from its level before them. -/
def pinLevel (pin : GpioPin) (level : Bool) (writes : List SetOutput) : Bool :=
  writes.foldl (fun last write => if write.pin=pin then write.on else last) level

/-- A call is a command on an LED. -/
def LedCall.commands (i : Fin 3) : LedCall → Bool
  | .setBlink index _ => index.toNat == i.val
  | .setSolid index _ => index.toNat == i.val
  | .task10ms => false

/-- What a call makes of one LED. -/
def ledStep (i : Fin 3) (led : LedState) : LedCall → LedState
  | .setBlink index intervalMs =>
    if i.val=index.toNat then ⟨intervalMs/10,0,led.level⟩ else led
  | .setSolid index on => if i.val=index.toNat then ⟨0,led.counter,on⟩ else led
  | .task10ms => (ledTurn led).1

/-- What a call writes to the pin of one LED. -/
def pinStep (i : Fin 3) (led : LedState) (level : Bool) : LedCall → Bool
  | .setBlink _ _ => level
  | .setSolid index on => if i.val=index.toNat then on else level
  | .task10ms => (ledTurn led).2.getD level

/-- Every LED has its own pin. -/
theorem ledPins_injective {i j : Fin 3} (h : ledPins i=ledPins j) : i=j := by
  revert i j
  decide

/-- Writes are taken in order. -/
theorem pinLevel_append (pin : GpioPin) (level : Bool) (first second : List SetOutput) :
    pinLevel pin level (first++second)=pinLevel pin (pinLevel pin level first) second :=
  List.foldl_append

/-- A write by the index of an LED reaches its pin only. -/
theorem pinLevel_ledDriverWrite (i : Fin 3) (level : Bool) (index : UInt8) (on : Bool) :
    pinLevel (ledPins i) level (ledDriverWrite index on)=
      if i.val=index.toNat then on else level := by
  unfold ledDriverWrite
  by_cases h : index.toNat<3
  · rw [dif_pos h]
    change (if ledPins ⟨index.toNat,h⟩=ledPins i then on else level)=_
    by_cases hi : i.val=index.toNat
    · rw [if_pos hi,if_pos (congrArg ledPins (Fin.ext hi.symm))]
    · rw [if_neg hi,if_neg (fun heq => hi (congrArg Fin.val (ledPins_injective heq)).symm)]
  · have hi := i.isLt
    rw [dif_neg h,if_neg (by omega)]
    rfl

/-- An index below the number of LEDs. -/
theorem index_lt_iff (index : UInt8) : 3 ≤ index ↔ ¬index.toNat<3 := by
  rw [UInt8.le_iff_toNat_le]
  change 3 ≤ index.toNat ↔ _
  omega

/-- Every call acts on each LED alone. -/
theorem ledService_led (led : LedArray) (call : LedCall) (i : Fin 3) :
    (ledService.step led call).1 i=ledStep i (led i) call := by
  have hi := i.isLt
  cases call with
  | setBlink index intervalMs =>
    simp only [ledService,ledServiceSetBlink,ledStep,index_lt_iff]
    split
    · rw [if_neg (by omega)]
    · rfl
  | setSolid index on =>
    simp only [ledService,ledServiceSetSolid,ledStep,index_lt_iff]
    split
    · rw [if_neg (by omega)]
    · rfl
  | task10ms => rfl

/-- The loop writes the pin of each LED alone. -/
theorem task10ms_pin (led : LedArray) (i : Fin 3) (level : Bool) :
    pinLevel (ledPins i) level (ledServiceTask10ms led).2=(ledTurn (led i)).2.getD level := by
  have hturn : ∀ (j : Fin 3) (l : Bool), pinLevel (ledPins i) l
      (match (ledTurn (led j)).2 with
        | some level => ledDriverWrite j.val.toUInt8 level
        | none => [])=if i=j then (ledTurn (led j)).2.getD l else l := by
    intro j l
    have hindex : j.val.toUInt8.toNat=j.val := by
      have hj := j.isLt
      change j.val%2^8=j.val
      omega
    cases (ledTurn (led j)).2 with
    | none => exact (ite_self l).symm
    | some on =>
      change pinLevel (ledPins i) l (ledDriverWrite j.val.toUInt8 on)=if i=j then on else l
      rw [pinLevel_ledDriverWrite,hindex]
      simp only [Fin.ext_iff]
  have hloop : List.finRange 3=[0,1,2] := by decide
  rw [ledServiceTask10ms,hloop]
  simp only [List.flatMap_cons,List.flatMap_nil,pinLevel_append,hturn]
  -- Only the turn of this LED touches its pin.
  match i with
  | 0 => rfl
  | 1 => rfl
  | 2 => rfl

/-- Every call writes the pin of each LED alone. -/
theorem ledService_pin (led : LedArray) (call : LedCall) (i : Fin 3) (level : Bool) :
    pinLevel (ledPins i) level (ledService.step led call).2=pinStep i (led i) level call := by
  have hi := i.isLt
  cases call with
  | setBlink index intervalMs => rfl
  | setSolid index on =>
    simp only [ledService,ledServiceSetSolid,pinStep,index_lt_iff]
    split
    · rw [if_neg (by omega)]
      rfl
    · exact pinLevel_ledDriverWrite i level index on
  | task10ms => exact task10ms_pin led i level

/-- The service after some calls, from its initial state. -/
abbrev ledAfter (calls : List LedCall) : LedArray := ledService.run ledServiceInit calls

/-- The level last written to the pin of an LED. The pins are low before the first write. -/
abbrev levelAfter (i : Fin 3) (calls : List LedCall) : Bool :=
  pinLevel (ledPins i) false (ledService.trace ledServiceInit calls)

/-- The blink intervals set are at least one tick long. -/
def Blinkable (calls : List LedCall) : Prop :=
  ∀ index intervalMs, LedCall.setBlink index intervalMs∈calls → 10 ≤ intervalMs

/-- No call is a command on the LED. -/
def NoCommand (i : Fin 3) (calls : List LedCall) : Prop := ∀ call∈calls, call.commands i=false

/-- The reference waveform of the LEDs over some calls. -/
structure Waveform (calls : List LedCall) : Prop where
  pin_level : ∀ i, levelAfter i calls=(ledAfter calls i).level
  solid : ∀ i past index on rest, calls=past++.setSolid index on::rest → index.toNat=i.val →
    NoCommand i rest → (ledAfter calls i).level=on
  blink : ∀ i past index intervalMs rest, calls=past++.setBlink index intervalMs::rest →
    index.toNat=i.val → NoCommand i rest → (ledAfter calls i).level=
      Bool.not^[rest.count .task10ms/(intervalMs.toNat/10)] (ledAfter past i).level
  untouched : ∀ i, NoCommand i calls → (ledAfter calls i).level=false
  frame : ∀ i past call rest, calls=past++call::rest → call≠.task10ms → call.commands i=false →
    ledAfter (past++[call]) i=ledAfter past i ∧
      levelAfter i (past++[call])=levelAfter i past
  counter_lt : ∀ i, (ledAfter calls i).intervalTicks≠0 →
    (ledAfter calls i).counter<(ledAfter calls i).intervalTicks ∧
      ((ledAfter calls i).counter+1).toNat=(ledAfter calls i).counter.toNat+1

/-- The counter of an LED that blinks is below its interval. -/
def LedState.Counting (led : LedState) : Prop :=
  led.intervalTicks≠0 → led.counter<led.intervalTicks

/-- A counter below its interval does not overflow. -/
theorem counter_add {led : LedState} (h : led.counter<led.intervalTicks) :
    (led.counter+1).toNat=led.counter.toNat+1 := by
  have hlt := UInt32.lt_iff_toNat_lt.mp h
  have hmax := led.intervalTicks.toNat_lt
  rw [UInt32.toNat_add]
  change (led.counter.toNat+1)%2^32=_
  omega

/-- The interval of a blinking LED in ticks. -/
theorem interval_toNat (intervalMs : UInt32) : (intervalMs/10).toNat=intervalMs.toNat/10 :=
  UInt32.toNat_div _ _

/-- A turn of the loop keeps the counter below the interval. -/
theorem ledTurn_counting {led : LedState} (h : led.Counting) : (ledTurn led).1.Counting := by
  unfold ledTurn
  split
  · exact h
  next hblink =>
    split
    · intro hne
      exact UInt32.pos_iff_ne_zero.mpr hne
    next hlt => exact fun _ => UInt32.not_le.mp hlt

/-- Every call whose interval is long enough keeps the counter below the interval. -/
theorem ledStep_counting {i : Fin 3} {led : LedState} {call : LedCall} (h : led.Counting)
    (hlong : ∀ index intervalMs, call=.setBlink index intervalMs → 10 ≤ intervalMs) :
    (ledStep i led call).Counting := by
  cases call with
  | setBlink index intervalMs =>
    rw [ledStep]
    split
    · intro hne
      exact UInt32.pos_iff_ne_zero.mpr hne
    · exact h
  | setSolid index on =>
    rw [ledStep]
    split
    · exact fun hne => absurd rfl hne
    · exact h
  | task10ms => exact ledTurn_counting h

/-- The level written is the level kept. -/
theorem pinStep_level (i : Fin 3) (led : LedState) (call : LedCall) :
    pinStep i led led.level call=(ledStep i led call).level := by
  cases call with
  | setBlink index intervalMs =>
    rw [pinStep,ledStep]
    split <;> rfl
  | setSolid index on =>
    rw [pinStep,ledStep]
    split <;> rfl
  | task10ms =>
    unfold pinStep ledStep ledTurn
    dsimp only
    split
    · rfl
    · split <;> rfl

/-- A call that is no command on an LED leaves it to the ticks. -/
theorem ledStep_noCommand {i : Fin 3} {led : LedState} {call : LedCall} (hno : call.commands i=false) :
    ledStep i led call=if call=.task10ms then (ledTurn led).1 else led := by
  cases call with
  | setBlink index intervalMs =>
    have hne : ¬i.val=index.toNat := fun h => by simp [LedCall.commands,h] at hno
    rw [ledStep,if_neg hne,if_neg nofun]
  | setSolid index on =>
    have hne : ¬i.val=index.toNat := fun h => by simp [LedCall.commands,h] at hno
    rw [ledStep,if_neg hne,if_neg nofun]
  | task10ms => rw [ledStep,if_pos rfl]

/-- A solid LED stays as it is until the next command on it. -/
theorem solid_run {i : Fin 3} {led : LedArray} {calls : List LedCall} (hno : NoCommand i calls)
    (hsolid : (led i).intervalTicks=0) : ledService.run led calls i=led i := by
  induction calls generalizing led with
  | nil => rfl
  | cons call calls ih =>
    have hstep : (ledService.step led call).1 i=led i := by
      rw [ledService_led,ledStep_noCommand (hno call List.mem_cons_self)]
      split
      · rw [ledTurn,if_pos hsolid]
      · rfl
    have hrest : NoCommand i calls := fun c hc => hno c (List.mem_cons_of_mem call hc)
    rw [Machine.run,ih hrest (by rw [hstep]; exact hsolid),hstep]

/-- A blinking LED counts the ticks until the next command on it, and inverts its level
whenever its interval is over. -/
theorem blink_run {i : Fin 3} {led : LedArray} {calls : List LedCall} (hno : NoCommand i calls)
    (hblink : (led i).intervalTicks≠0) (hcounter : (led i).counter<(led i).intervalTicks) :
    (ledService.run led calls i).level=
      Bool.not^[((led i).counter.toNat+calls.count .task10ms)/(led i).intervalTicks.toNat]
        (led i).level := by
  induction calls generalizing led with
  | nil =>
    have hlt := UInt32.lt_iff_toNat_lt.mp hcounter
    rw [List.count_nil,Nat.add_zero,Nat.div_eq_of_lt hlt]
    rfl
  | cons call calls ih =>
    have hrest : NoCommand i calls := fun c hc => hno c (List.mem_cons_of_mem call hc)
    have hstep := ledService_led led call i
    rw [ledStep_noCommand (hno call List.mem_cons_self)] at hstep
    rw [Machine.run]
    by_cases htick : call=.task10ms
    · have hlt := UInt32.lt_iff_toNat_lt.mp hcounter
      have hadd := counter_add hcounter
      rw [if_pos htick,ledTurn,if_neg hblink] at hstep
      rw [htick,List.count_cons_self]
      rw [htick] at hstep
      split at hstep
      next hover =>
        -- The interval is over: the count starts again at the inverted level.
        have hfull : (led i).counter.toNat+1=(led i).intervalTicks.toNat := by
          have hle := UInt32.le_iff_toNat_le.mp hover
          omega
        have hquotient : ((led i).counter.toNat+(calls.count .task10ms+1))/
            (led i).intervalTicks.toNat=calls.count .task10ms/(led i).intervalTicks.toNat+1 := by
          rw [←hfull,show (led i).counter.toNat+(calls.count LedCall.task10ms+1)=
            calls.count .task10ms+((led i).counter.toNat+1) by omega,
            Nat.add_div_right _ (Nat.succ_pos _)]
        have hzero : (0 : UInt32).toNat=0 := rfl
        rw [ih hrest (by rw [hstep]; exact hblink)
          (by rw [hstep]; exact UInt32.pos_iff_ne_zero.mpr hblink),hstep,hquotient,
          Function.iterate_succ_apply,hzero,Nat.zero_add]
      next hunder =>
        rw [ih hrest (by rw [hstep]; exact hblink)
          (by rw [hstep]; exact UInt32.not_le.mp hunder),hstep,hadd]
        rw [show (led i).counter.toNat+1+calls.count LedCall.task10ms=
          (led i).counter.toNat+(calls.count .task10ms+1) by omega]
    · rw [if_neg htick] at hstep
      rw [List.count_cons_of_ne htick,ih hrest (by rw [hstep]; exact hblink)
        (by rw [hstep]; exact hcounter),hstep]

/-- In every state the pins show the levels kept, and the counters are below their intervals. -/
theorem ledService_invariant {calls : List LedCall} (hlong : Blinkable calls) :
    ∀ i, levelAfter i calls=(ledAfter calls i).level ∧ (ledAfter calls i).Counting := by
  refine ledService.history_invariant (fun _ writes led => ∀ i,
    pinLevel (ledPins i) false writes=(led i).level ∧ (led i).Counting)
    (fun _ => ⟨rfl,fun hne => absurd rfl hne⟩) ?_
  intro before call writes led hpart h i
  obtain ⟨hlevel,hcounting⟩ := h i
  have hmem : call∈calls := hpart.subset (List.mem_append_right before List.mem_cons_self)
  rw [pinLevel_append,hlevel,ledService_pin,ledService_led,pinStep_level]
  exact ⟨rfl,ledStep_counting hcounting fun index intervalMs hcall =>
    hlong index intervalMs (hcall ▸ hmem)⟩

/-- The engine realises its reference waveform. -/
theorem ledService_waveform (calls : List LedCall) (hlong : Blinkable calls) : Waveform calls where
  pin_level i := (ledService_invariant hlong i).1
  solid i past index on rest hcalls hindex hno := by
    have hset : (ledService.step (ledAfter past) (.setSolid index on)).1 i=
        ⟨0,(ledAfter past i).counter,on⟩ := by
      rw [ledService_led,ledStep,if_pos hindex.symm]
    rw [hcalls,ledAfter,Machine.run_append,Machine.run,solid_run hno (by rw [hset]),hset]
  blink i past index intervalMs rest hcalls hindex hno := by
    have hmem : LedCall.setBlink index intervalMs∈calls := by
      rw [hcalls]
      exact List.mem_append_right past List.mem_cons_self
    have hlarge := UInt32.le_iff_toNat_le.mp (hlong index intervalMs hmem)
    have hset : (ledService.step (ledAfter past) (.setBlink index intervalMs)).1 i=
        ⟨intervalMs/10,0,(ledAfter past i).level⟩ := by
      rw [ledService_led,ledStep,if_pos hindex.symm]
    have hne : intervalMs/10≠0 := by
      intro hzero
      have hvalue := interval_toNat intervalMs
      rw [hzero] at hvalue
      change 0=_ at hvalue
      change 10 ≤ _ at hlarge
      omega
    have hzero : (0 : UInt32).toNat=0 := rfl
    rw [hcalls,ledAfter,Machine.run_append,Machine.run,
      blink_run hno (by rw [hset]; exact hne)
        (by rw [hset]; exact UInt32.pos_iff_ne_zero.mpr hne),hset,interval_toNat,hzero,Nat.zero_add]
  untouched i hno := by rw [ledAfter,solid_run hno rfl]; rfl
  frame i past call rest hcalls hne hno := by
    have hled : ledAfter (past++[call]) i=ledAfter past i := by
      rw [ledAfter,Machine.run_snoc,ledService_led,ledStep_noCommand hno,if_neg hne]
    have hpast : Blinkable past := fun index intervalMs hmem =>
      hlong index intervalMs (by rw [hcalls]; exact List.mem_append_left _ hmem)
    have hboth : Blinkable (past++[call]) := fun index intervalMs hmem =>
      hlong index intervalMs (by
        rw [hcalls,show past++call::rest=(past++[call])++rest by simp]
        exact List.mem_append_left _ hmem)
    exact ⟨hled,by rw [(ledService_invariant hboth i).1,(ledService_invariant hpast i).1,hled]⟩
  counter_lt i hne :=
    have hlt := (ledService_invariant hlong i).2 hne
    ⟨hlt,counter_add hlt⟩

/-- LED 1 blinks until it is held off, LED 2 is held on, and there is no LED 3. -/
theorem ledService_waveform_mixed : Waveform [.setBlink 1 500,.setSolid 2 true,.setBlink 3 5000,
    .task10ms,.setSolid 1 false,.task10ms] :=
  ledService_waveform _ (by
    intro index intervalMs h
    simp only [List.mem_cons,LedCall.setBlink.injEq,reduceCtorEq,List.not_mem_nil,or_false,
      false_or] at h
    rcases h with ⟨-,rfl⟩|⟨-,rfl⟩ <;> decide)

end WebDataLogger.IndicatorService
