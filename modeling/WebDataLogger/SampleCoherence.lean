import Mathlib.Data.List.Basic
import WebDataLogger.TransitionRuns
import WebDataLogger.SensorData

/-!
# Coherence of the served samples

`Analog_TASK` stores a reading of a sensor field by field, without a lock, while
`MainApp_TASK` may copy the fields between any two of these stores and the HTTP
task serves the copy under the mutex. A sample can mix two readings when the
copy is made while a reading is partly stored.
-/

namespace WebDataLogger.SampleCoherence

open TransitionRuns CText RealTimeClock SensorData

/-- Where `Analog_TASK` stands in its loop. -/
inductive AnalogPc (τ π : Type*) where
  | readBmp280
  /-- The BMP280 delivered a pair, nothing of it is stored. -/
  | storeTemp (temp : τ) (pressure : π)
  /-- The temperature is stored, the pressure is not. -/
  | storePressure (temp : τ) (pressure : π)
  | readDs3231
  /-- The DS3231 delivered a time; the fields before this one are stored. -/
  | storeTime (t : RtcTime) (field : ℕ)
  deriving DecidableEq

/-- Where the HTTP task stands in `send_sensor_json`. -/
inductive HttpPc where
  | idle
  /-- The mutex is taken, nothing is copied. -/
  | holding
  /-- The snapshot is copied, the mutex is still taken. -/
  | copied
  deriving DecidableEq

/-- Globals and positions of the tasks. The mutex is taken while the HTTP task is
not idle; `MainApp_TASK` takes and gives it within one step. -/
structure State (τ π : Type*) where
  temp : τ
  pressure : π
  t : RtcTime
  analog : AnalogPc τ π
  sensorData : WebSensorData τ π
  http : HttpPc

/-- One step of a task, with what the sensors deliver should it read them. -/
inductive Event (τ π : Type*) where
  | analog (bmp280 : Option (τ×π)) (ds3231 : Option RtcTime)
  | mainApp
  | http
  /-- The HTTP task does not get the mutex in time. -/
  | httpTimeout
  deriving DecidableEq

/-- What is seen of the sensors, the stores and the served samples. -/
inductive Observation (τ π : Type*) where
  /-- `BMP280_ReadTempPressure` got a result. -/
  | bmp280Read (temp : τ) (pressure : π)
  /-- It stored all of it. -/
  | bmp280Stored (temp : τ) (pressure : π)
  /-- `DS3231_ReadTime` got a result. -/
  | ds3231Read (t : RtcTime)
  /-- It stored all of it. -/
  | ds3231Stored (t : RtcTime)
  /-- `WebService_UpdateSensorData` ran with the mutex. -/
  | updated
  /-- `send_sensor_json` copied the sample that it formats. -/
  | served (sample : WebSensorData τ π)
  /-- `send_sensor_json` formats zeros. -/
  | servedZeros
  deriving DecidableEq

/-- One store of `DS3231_ReadTime`, the fields in program order. -/
def storeField (new t : RtcTime) : ℕ → RtcTime
  | 0 => {t with sec := new.sec}
  | 1 => {t with min := new.min}
  | 2 => {t with hour := new.hour}
  | 3 => {t with day := new.day}
  | 4 => {t with date := new.date}
  | 5 => {t with month := new.month}
  | _ => {t with year := new.year}

variable {τ π : Type*}

/-- The next step of `Analog_TASK`. -/
def analogStep (s : State τ π) (bmp280 : Option (τ×π)) (ds3231 : Option RtcTime) :
    State τ π×List (Observation τ π) :=
  match s.analog with
  | .readBmp280 =>
    match bmp280 with
    | some (temp,pressure) =>
      ({s with analog := .storeTemp temp pressure},[.bmp280Read temp pressure])
    | none => ({s with analog := .readDs3231},[])
  | .storeTemp temp pressure => ({s with temp := temp, analog := .storePressure temp pressure},[])
  | .storePressure temp pressure =>
    ({s with pressure := pressure, analog := .readDs3231},[.bmp280Stored temp pressure])
  | .readDs3231 =>
    match ds3231 with
    | some t => ({s with analog := .storeTime t 0},[.ds3231Read t])
    | none => ({s with analog := .readBmp280},[])
  | .storeTime new field =>
    if field<6 then
      ({s with t := storeField new s.t field, analog := .storeTime new (field+1)},[])
    else ({s with t := storeField new s.t field, analog := .readBmp280},[.ds3231Stored new])

/-- The next step of `send_sensor_json`. It formats its own copy, so that the sample
is settled when it is copied. -/
def httpStep (s : State τ π) : State τ π×List (Observation τ π) :=
  match s.http with
  | .idle => ({s with http := .holding},[])
  | .holding => ({s with http := .copied},[.served s.sensorData])
  | .copied => ({s with http := .idle},[])

/-- The three tasks, one step at a time. -/
def sampling : Machine (State τ π) (Event τ π) (Observation τ π) where
  step s
    | .analog bmp280 ds3231 => analogStep s bmp280 ds3231
    | .mainApp =>
      let data := webServiceUpdateSensorData (s.http == .idle) s.sensorData s.temp s.pressure s.t
      ({s with sensorData := data},if s.http=.idle then [.updated] else [])
    | .http => httpStep s
    | .httpTimeout => (s,if s.http=.idle then [.servedZeros] else [])

/-- `t` before its first reading. -/
def zeroTime : RtcTime := ⟨0,0,0,0,0,0,0⟩

/-- State at boot: zero globals, and the defaults set by `WebService_Init`. -/
def bootState (zeroTemp defaultTemp : τ) (zeroPressure defaultPressure : π) : State τ π where
  temp := zeroTemp
  pressure := zeroPressure
  t := zeroTime
  analog := .readBmp280
  sensorData := ⟨defaultTemp,defaultPressure,formatTimestamp zeroTime⟩
  http := .idle

/-- The last reading of the BMP280 that is completely stored. -/
def lastPair (obs : List (Observation τ π)) : Option (τ×π) :=
  obs.foldl (fun last o => match o with
    | .bmp280Stored temp pressure => some (temp,pressure)
    | _ => last) none

/-- The last reading of the DS3231 that is completely stored. -/
def lastTime (obs : List (Observation τ π)) : Option RtcTime :=
  obs.foldl (fun last o => match o with
    | .ds3231Stored t => some t
    | _ => last) none

/-- `t` when the first fields of a new reading are stored over an old one. -/
def mixTime (new old : RtcTime) (stored : ℕ) : RtcTime where
  sec := if 0<stored then new.sec else old.sec
  min := if 1<stored then new.min else old.min
  hour := if 2<stored then new.hour else old.hour
  day := if 3<stored then new.day else old.day
  date := if 4<stored then new.date else old.date
  month := if 5<stored then new.month else old.month
  year := if 6<stored then new.year else old.year

/-- The fields of a time that the timestamp shows. -/
def shown (t : RtcTime) : List UInt8 := [t.year,t.month,t.date,t.hour,t.min,t.sec]

/-- A reading is stored so far that the globals show neither it nor the one before. -/
def Torn (old : τ×π) (oldTime : RtcTime) : AnalogPc τ π → Prop
  | .storePressure temp pressure => old.1≠temp ∧ old.2≠pressure
  | .storeTime new field => shown (mixTime new oldTime field)≠shown oldTime ∧
      shown (mixTime new oldTime field)≠shown new
  | _ => False

section Runs

variable (start : State τ π) (events : List (Event τ π))

/-- No update that gets the mutex after the first readings finds a torn reading. -/
def UpdatesWhole : Prop :=
  ∀ before after, events=before++.mainApp::after →
    (sampling.run start before).http=.idle →
      ∀ old oldTime, lastPair (sampling.trace start before)=some old →
        lastTime (sampling.trace start before)=some oldTime →
          ¬Torn old oldTime (sampling.run start before).analog

/-- An update ran after the first readings of both sensors were complete. -/
def UpdatedSinceReadings (obs : List (Observation τ π)) : Prop :=
  ∃ first second, obs=first++.updated::second ∧ lastPair first≠none ∧ lastTime first≠none

/-- A sample shows one reading of each sensor. -/
def ShowsReadings (obs : List (Observation τ π)) (sample : WebSensorData τ π) : Prop :=
  (∃ t, .ds3231Read t∈obs ∧ sample.timestamp=formatTimestamp t) ∧
    .bmp280Read sample.temp sample.pressure∈obs

/-- Every sample served once an update ran after the first readings is coherent. -/
def SamplesCoherent : Prop :=
  ∀ before sample after, sampling.trace start events=before++.served sample::after →
    UpdatedSinceReadings before → ShowsReadings before sample

end Runs

/-- The timestamp shows six of the fields. -/
theorem formatTimestamp_shown {t t' : RtcTime} (h : shown t=shown t') :
    formatTimestamp t=formatTimestamp t' := by
  simp only [shown,List.cons.injEq,and_true] at h
  obtain ⟨hyear,hmonth,hdate,hhour,hmin,hsec⟩ := h
  rw [formatTimestamp,formatTimestamp,hyear,hmonth,hdate,hhour,hmin,hsec]

/-- Before the first store there is the old reading. -/
@[simp] theorem mixTime_zero (new old : RtcTime) : mixTime new old 0=old := rfl

/-- One more store. -/
theorem storeField_mixTime (new old : RtcTime) (stored : ℕ) :
    storeField new (mixTime new old stored) stored=mixTime new old (stored+1) := by
  rcases stored with _|_|_|_|_|_|_|stored <;> rfl

/-- The last pair after one more observation. -/
theorem lastPair_snoc (obs : List (Observation τ π)) (o : Observation τ π) :
    lastPair (obs++[o])=(match o with
      | .bmp280Stored temp pressure => some (temp,pressure)
      | _ => lastPair obs) := by
  rw [lastPair,List.foldl_append]
  rfl

/-- The last time after one more observation. -/
theorem lastTime_snoc (obs : List (Observation τ π)) (o : Observation τ π) :
    lastTime (obs++[o])=(match o with
      | .ds3231Stored t => some t
      | _ => lastTime obs) := by
  rw [lastTime,List.foldl_append]
  rfl

/-- What the position of the analog task says about its globals. The last complete
readings are the ones at boot as long as there are none. -/
structure GlobalsInv (boot : State τ π) (obs : List (Observation τ π)) (s : State τ π) : Prop where
  pair : match s.analog with
    | .storeTemp temp pressure => .bmp280Read temp pressure∈obs ∧
        (s.temp,s.pressure)=(lastPair obs).getD (boot.temp,boot.pressure)
    | .storePressure temp pressure => .bmp280Read temp pressure∈obs ∧
        (s.temp,s.pressure)=(temp,((lastPair obs).getD (boot.temp,boot.pressure)).2)
    | _ => (s.temp,s.pressure)=(lastPair obs).getD (boot.temp,boot.pressure)
  time : match s.analog with
    | .storeTime new field => field≤6 ∧ .ds3231Read new∈obs ∧
        s.t=mixTime new ((lastTime obs).getD boot.t) field
    | _ => s.t=(lastTime obs).getD boot.t
  pairRead : ∀ temp pressure, lastPair obs=some (temp,pressure) → .bmp280Read temp pressure∈obs
  timeRead : ∀ t, lastTime obs=some t → .ds3231Read t∈obs

/-- The last pair was read, also after an observation that is no stored pair. -/
theorem pairRead_snoc {obs : List (Observation τ π)} {o : Observation τ π}
    (h : ∀ temp pressure, lastPair obs=some (temp,pressure) → .bmp280Read temp pressure∈obs)
    (hsame : lastPair (obs++[o])=lastPair obs) (temp : τ) (pressure : π)
    (hlast : lastPair (obs++[o])=some (temp,pressure)) : .bmp280Read temp pressure∈obs++[o] :=
  List.mem_append_left _ (h temp pressure (hsame.symm.trans hlast))

/-- The last time was read, also after an observation that is no stored time. -/
theorem timeRead_snoc {obs : List (Observation τ π)} {o : Observation τ π}
    (h : ∀ t, lastTime obs=some t → .ds3231Read t∈obs)
    (hsame : lastTime (obs++[o])=lastTime obs) (t : RtcTime)
    (hlast : lastTime (obs++[o])=some t) : .ds3231Read t∈obs++[o] :=
  List.mem_append_left _ (h t (hsame.symm.trans hlast))

/-- The analog task keeps what its position says. -/
theorem globalsInv_analog {boot s : State τ π} {obs : List (Observation τ π)}
    (h : GlobalsInv boot obs s) (bmp280 : Option (τ×π)) (ds3231 : Option RtcTime) :
    GlobalsInv boot (obs++(analogStep s bmp280 ds3231).2) (analogStep s bmp280 ds3231).1 := by
  obtain ⟨hpair,htime,hpairRead,htimeRead⟩ := h
  unfold analogStep
  cases hpc : s.analog with
  | readBmp280 =>
    rw [hpc] at hpair htime
    rcases bmp280 with _|⟨temp,pressure⟩
    · rw [List.append_nil]
      exact ⟨hpair,htime,hpairRead,htimeRead⟩
    · have hsame := lastPair_snoc obs (.bmp280Read temp pressure)
      have hsameTime := lastTime_snoc obs (.bmp280Read temp pressure)
      refine ⟨⟨by simp,?_⟩,?_,pairRead_snoc hpairRead hsame,timeRead_snoc htimeRead hsameTime⟩
      · rw [hsame]
        exact hpair
      · rw [hsameTime]
        exact htime
  | storeTemp temp pressure =>
    rw [hpc] at hpair htime
    rw [List.append_nil]
    refine ⟨⟨hpair.1,?_⟩,htime,hpairRead,htimeRead⟩
    dsimp only
    rw [←hpair.2]
  | storePressure temp pressure =>
    rw [hpc] at hpair htime
    have hsameTime := lastTime_snoc obs (.bmp280Stored temp pressure)
    refine ⟨?_,?_,fun a b hab => ?_,timeRead_snoc htimeRead hsameTime⟩
    · rw [lastPair_snoc]
      exact Prod.ext (Prod.mk.inj hpair.2).1 rfl
    · rw [hsameTime]
      exact htime
    · rw [lastPair_snoc] at hab
      obtain ⟨rfl,rfl⟩ := Prod.mk.inj (Option.some.inj hab)
      exact List.mem_append_left _ hpair.1
  | readDs3231 =>
    rw [hpc] at hpair htime
    rcases ds3231 with _|t
    · rw [List.append_nil]
      exact ⟨hpair,htime,hpairRead,htimeRead⟩
    · have hsame := lastPair_snoc obs (.ds3231Read t)
      have hsameTime := lastTime_snoc obs (.ds3231Read t)
      refine ⟨?_,⟨Nat.zero_le _,by simp,?_⟩,pairRead_snoc hpairRead hsame,
        timeRead_snoc htimeRead hsameTime⟩
      · rw [hsame]
        exact hpair
      · rw [hsameTime,mixTime_zero]
        exact htime
  | storeTime new field =>
    rw [hpc] at hpair htime
    obtain ⟨hfield,hread,ht⟩ := htime
    dsimp only
    rw [ht,storeField_mixTime]
    split
    next hlt =>
      rw [List.append_nil]
      exact ⟨hpair,⟨hlt,hread,rfl⟩,hpairRead,htimeRead⟩
    next hlast =>
      have hsix : field=6 := by omega
      have hsame := lastPair_snoc obs (.ds3231Stored new)
      refine ⟨?_,?_,pairRead_snoc hpairRead hsame,fun a ha => ?_⟩
      · rw [hsame]
        exact hpair
      · rw [lastTime_snoc,hsix]
        rfl
      · rw [lastTime_snoc] at ha
        obtain rfl := Option.some.inj ha
        exact List.mem_append_left _ hread

/-- The other tasks do not touch the globals of the analog task. -/
theorem GlobalsInv.other {boot s s' : State τ π} {obs : List (Observation τ π)}
    (h : GlobalsInv boot obs s) {o : Observation τ π} (hpair : lastPair (obs++[o])=lastPair obs)
    (htime : lastTime (obs++[o])=lastTime obs)
    (hglobals : s'.temp=s.temp ∧ s'.pressure=s.pressure ∧ s'.t=s.t ∧ s'.analog=s.analog) :
    GlobalsInv boot (obs++[o]) s' := by
  obtain ⟨hp,ht,hpairRead,htimeRead⟩ := h
  obtain ⟨htemp,hpressure,htt,hanalog⟩ := hglobals
  refine ⟨?_,?_,pairRead_snoc hpairRead hpair,timeRead_snoc htimeRead htime⟩
  · rw [hanalog,htemp,hpressure,hpair]
    cases hpc : s.analog <;> rw [hpc] at hp <;>
      first
        | exact hp
        | exact ⟨List.mem_append_left _ hp.1,hp.2⟩
  · rw [hanalog,htt,htime]
    cases hpc : s.analog <;> rw [hpc] at ht <;>
      first
        | exact ht
        | exact ⟨ht.1,List.mem_append_left _ ht.2.1,ht.2.2⟩

/-- Globals that are not torn show one reading of each sensor. -/
theorem GlobalsInv.shows {boot s : State τ π} {obs : List (Observation τ π)}
    (h : GlobalsInv boot obs s) {old : τ×π} {oldTime : RtcTime} (hold : lastPair obs=some old)
    (holdTime : lastTime obs=some oldTime) (hwhole : ¬Torn old oldTime s.analog) :
    ShowsReadings obs ⟨s.temp,s.pressure,formatTimestamp s.t⟩ := by
  obtain ⟨hpair,htime,hpairRead,htimeRead⟩ := h
  have hpairOld := hpairRead old.1 old.2 hold
  have htimeOld := htimeRead oldTime holdTime
  rw [hold,Option.getD_some] at hpair
  rw [holdTime,Option.getD_some] at htime
  constructor
  · cases hpc : s.analog with
    | storeTime new field =>
      rw [hpc] at htime hwhole
      obtain ⟨-,hread,ht⟩ := htime
      by_cases hshown : shown (mixTime new oldTime field)=shown oldTime
      · exact ⟨oldTime,htimeOld,by rw [ht]; exact formatTimestamp_shown hshown⟩
      · have hnew := not_not.mp fun hne => hwhole ⟨hshown,hne⟩
        exact ⟨new,hread,by rw [ht]; exact formatTimestamp_shown hnew⟩
    | readBmp280 => rw [hpc] at htime; exact ⟨oldTime,htimeOld,by rw [htime]⟩
    | storeTemp temp pressure => rw [hpc] at htime; exact ⟨oldTime,htimeOld,by rw [htime]⟩
    | storePressure temp pressure => rw [hpc] at htime; exact ⟨oldTime,htimeOld,by rw [htime]⟩
    | readDs3231 => rw [hpc] at htime; exact ⟨oldTime,htimeOld,by rw [htime]⟩
  · have hwholeOld : (s.temp,s.pressure)=old → .bmp280Read s.temp s.pressure∈obs := by
      intro heq
      rw [←heq] at hpairOld
      exact hpairOld
    cases hpc : s.analog with
    | storePressure temp pressure =>
      rw [hpc] at hpair hwhole
      obtain ⟨hread,heq⟩ := hpair
      obtain ⟨htemp,hpressure⟩ := Prod.mk.inj heq
      by_cases hfirst : old.1=temp
      · exact hwholeOld (by rw [htemp,hpressure,←hfirst])
      · have hsecond := not_not.mp fun hne => hwhole ⟨hfirst,hne⟩
        dsimp only
        rw [htemp,hpressure,hsecond]
        exact hread
    | storeTemp temp pressure => rw [hpc] at hpair; exact hwholeOld hpair.2
    | readBmp280 => rw [hpc] at hpair; exact hwholeOld hpair
    | readDs3231 => rw [hpc] at hpair; exact hwholeOld hpair
    | storeTime new field => rw [hpc] at hpair; exact hwholeOld hpair

/-- A complete reading is not forgotten. -/
theorem lastPair_ne_none {first : List (Observation τ π)} (h : lastPair first≠none)
    (second : List (Observation τ π)) : lastPair (first++second)≠none := by
  induction second using List.reverseRecOn with
  | nil => rwa [List.append_nil]
  | append_singleton second o ih =>
    rw [←List.append_assoc,lastPair_snoc]
    cases o <;> first | exact ih | exact Option.some_ne_none _

/-- A complete time is not forgotten. -/
theorem lastTime_ne_none {first : List (Observation τ π)} (h : lastTime first≠none)
    (second : List (Observation τ π)) : lastTime (first++second)≠none := by
  induction second using List.reverseRecOn with
  | nil => rwa [List.append_nil]
  | append_singleton second o ih =>
    rw [←List.append_assoc,lastTime_snoc]
    cases o <;> first | exact ih | exact Option.some_ne_none _

/-- The place of an observation in a list with a last one. -/
theorem split_snoc {obs before after : List (Observation τ π)} {o o' : Observation τ π}
    (h : obs++[o]=before++o'::after) :
    (o=o' ∧ before=obs) ∨ ∃ rest, obs=before++o'::rest := by
  rcases List.eq_nil_or_concat after with rfl|⟨rest,last,rfl⟩
  · obtain ⟨hobs,ho⟩ := List.append_inj' h rfl
    exact Or.inl ⟨(List.cons.inj ho).1,hobs.symm⟩
  · refine Or.inr ⟨rest,?_⟩
    rw [List.concat_eq_append,←List.cons_append,←List.append_assoc] at h
    exact (List.append_inj' h rfl).1

/-- Once both sensors were read completely, they stay read. -/
theorem UpdatedSinceReadings.readings {obs : List (Observation τ π)} {o : Observation τ π}
    (h : UpdatedSinceReadings (obs++[o])) : lastPair obs≠none ∧ lastTime obs≠none := by
  obtain ⟨first,second,hsplit,hpair,htime⟩ := h
  rcases split_snoc hsplit with ⟨-,hfirst⟩|⟨rest,hobs⟩
  · rw [←hfirst]
    exact ⟨hpair,htime⟩
  · rw [hobs]
    exact ⟨lastPair_ne_none hpair _,lastTime_ne_none htime _⟩

/-- An observation other than an update adds no update. -/
theorem UpdatedSinceReadings.before {obs : List (Observation τ π)} {o : Observation τ π}
    (h : UpdatedSinceReadings (obs++[o])) (ho : o≠.updated) : UpdatedSinceReadings obs := by
  obtain ⟨first,second,hsplit,hpair,htime⟩ := h
  rcases split_snoc hsplit with ⟨heq,-⟩|⟨rest,hobs⟩
  · exact absurd heq ho
  · exact ⟨first,rest,hobs,hpair,htime⟩

/-- Later observations keep what a sample shows. -/
theorem ShowsReadings.mono {obs : List (Observation τ π)} {sample : WebSensorData τ π}
    (h : ShowsReadings obs sample) (more : List (Observation τ π)) :
    ShowsReadings (obs++more) sample := by
  obtain ⟨⟨t,hread,ht⟩,hpair⟩ := h
  exact ⟨⟨t,List.mem_append_left _ hread,ht⟩,List.mem_append_left _ hpair⟩

/-- The data of the web service and the samples served from it are coherent. -/
structure CoherenceInv (boot : State τ π) (obs : List (Observation τ π)) (s : State τ π) :
    Prop where
  globals : GlobalsInv boot obs s
  data : UpdatedSinceReadings obs → ShowsReadings obs s.sensorData
  samples : ∀ before sample after, obs=before++.served sample::after →
    UpdatedSinceReadings before → ShowsReadings before sample

/-- A step that neither updates nor serves keeps the samples coherent. -/
theorem CoherenceInv.quiet {boot s s' : State τ π} {obs : List (Observation τ π)}
    (h : CoherenceInv boot obs s) {o : Observation τ π} (hglobals : GlobalsInv boot (obs++[o]) s')
    (hdata : s'.sensorData=s.sensorData) (hupdated : o≠.updated)
    (hserved : ∀ sample, o≠.served sample) : CoherenceInv boot (obs++[o]) s' := by
  refine ⟨hglobals,fun hsince => ?_,fun before sample after hsplit => ?_⟩
  · rw [hdata]
    exact (h.data (hsince.before hupdated)).mono _
  · rcases split_snoc hsplit with ⟨heq,-⟩|⟨rest,hobs⟩
    · exact absurd heq (hserved sample)
    · exact h.samples before sample rest hobs

/-- A step of the analog task leaves the sensor data, and observes at most a sensor. -/
theorem analogStep_quiet (s : State τ π) (bmp280 : Option (τ×π)) (ds3231 : Option RtcTime) :
    (analogStep s bmp280 ds3231).1.sensorData=s.sensorData ∧
      ((analogStep s bmp280 ds3231).2=[] ∨ ∃ o, (analogStep s bmp280 ds3231).2=[o] ∧
        o≠.updated ∧ ∀ sample, o≠.served sample) := by
  unfold analogStep
  cases s.analog with
  | readBmp280 =>
    rcases bmp280 with _|⟨temp,pressure⟩
    · exact ⟨rfl,Or.inl rfl⟩
    · exact ⟨rfl,Or.inr ⟨_,rfl,nofun,nofun⟩⟩
  | storeTemp temp pressure => exact ⟨rfl,Or.inl rfl⟩
  | storePressure temp pressure => exact ⟨rfl,Or.inr ⟨_,rfl,nofun,nofun⟩⟩
  | readDs3231 =>
    rcases ds3231 with _|t
    · exact ⟨rfl,Or.inl rfl⟩
    · exact ⟨rfl,Or.inr ⟨_,rfl,nofun,nofun⟩⟩
  | storeTime new field =>
    dsimp only
    split
    · exact ⟨rfl,Or.inl rfl⟩
    · exact ⟨rfl,Or.inr ⟨_,rfl,nofun,nofun⟩⟩

/-- The analog task keeps the samples coherent. -/
theorem CoherenceInv.analog {boot s : State τ π} {obs : List (Observation τ π)}
    (h : CoherenceInv boot obs s) (bmp280 : Option (τ×π)) (ds3231 : Option RtcTime) :
    CoherenceInv boot (obs++(analogStep s bmp280 ds3231).2) (analogStep s bmp280 ds3231).1 := by
  have hglobals := globalsInv_analog h.globals bmp280 ds3231
  obtain ⟨hdata,hnone|⟨o,hone,hupdated,hserved⟩⟩ := analogStep_quiet s bmp280 ds3231
  · rw [hnone,List.append_nil] at hglobals ⊢
    exact ⟨hglobals,by rw [hdata]; exact h.data,h.samples⟩
  · rw [hone] at hglobals ⊢
    exact h.quiet hglobals hdata hupdated hserved

/-- An update that finds no torn reading keeps the samples coherent. -/
theorem CoherenceInv.update {boot s : State τ π} {obs : List (Observation τ π)}
    (h : CoherenceInv boot obs s) (hwhole : ∀ old oldTime, lastPair obs=some old →
      lastTime obs=some oldTime → ¬Torn old oldTime s.analog) :
    CoherenceInv boot (obs++[.updated])
      {s with sensorData := ⟨s.temp,s.pressure,formatTimestamp s.t⟩} := by
  refine ⟨h.globals.other (lastPair_snoc obs _) (lastTime_snoc obs _) ⟨rfl,rfl,rfl,rfl⟩,
    fun hsince => ?_,fun before sample after hsplit => ?_⟩
  · obtain ⟨hpair,htime⟩ := hsince.readings
    obtain ⟨old,hold⟩ := Option.ne_none_iff_exists'.mp hpair
    obtain ⟨oldTime,holdTime⟩ := Option.ne_none_iff_exists'.mp htime
    exact (h.globals.shows hold holdTime (hwhole old oldTime hold holdTime)).mono _
  · rcases split_snoc hsplit with ⟨heq,-⟩|⟨rest,hobs⟩
    · cases heq
    · exact h.samples before sample rest hobs

/-- A served sample is the sensor data. -/
theorem CoherenceInv.serve {boot s : State τ π} {obs : List (Observation τ π)}
    (h : CoherenceInv boot obs s) (http : HttpPc) :
    CoherenceInv boot (obs++[.served s.sensorData]) {s with http := http} := by
  refine ⟨h.globals.other (lastPair_snoc obs _) (lastTime_snoc obs _) ⟨rfl,rfl,rfl,rfl⟩,
    fun hsince => ?_,fun before sample after hsplit => ?_⟩
  · exact (h.data (hsince.before nofun)).mono _
  · rcases split_snoc hsplit with ⟨heq,hbefore⟩|⟨rest,hobs⟩
    · obtain rfl := Observation.served.inj heq
      rw [hbefore]
      exact h.data
    · exact h.samples before sample rest hobs

/-- A step of the HTTP task that observes nothing. -/
theorem CoherenceInv.setHttp {boot s : State τ π} {obs : List (Observation τ π)}
    (h : CoherenceInv boot obs s) (http : HttpPc) : CoherenceInv boot obs {s with http := http} :=
  ⟨⟨h.globals.pair,h.globals.time,h.globals.pairRead,h.globals.timeRead⟩,h.data,h.samples⟩

/-- Every step keeps the samples coherent, provided that an update finds no torn reading. -/
theorem CoherenceInv.step {boot s : State τ π} {obs : List (Observation τ π)}
    (h : CoherenceInv boot obs s) (e : Event τ π) (hwhole : e=.mainApp → s.http=.idle →
      ∀ old oldTime, lastPair obs=some old → lastTime obs=some oldTime →
        ¬Torn old oldTime s.analog) :
    CoherenceInv boot (obs++(sampling.step s e).2) (sampling.step s e).1 := by
  cases e with
  | analog bmp280 ds3231 => exact h.analog bmp280 ds3231
  | mainApp =>
    dsimp only [sampling]
    by_cases hidle : s.http=.idle
    · have hdata : webServiceUpdateSensorData (s.http == .idle) s.sensorData s.temp s.pressure
          s.t=⟨s.temp,s.pressure,formatTimestamp s.t⟩ := by
        rw [hidle]
        rfl
      rw [if_pos hidle,hdata]
      exact h.update (hwhole rfl hidle)
    · have hheld : (s.http == .idle)=false := beq_false_of_ne hidle
      rw [if_neg hidle,hheld,List.append_nil]
      exact h
  | http =>
    dsimp only [sampling,httpStep]
    cases hpc : s.http with
    | idle => rw [List.append_nil]; exact h.setHttp .holding
    | holding => exact h.serve .copied
    | copied => rw [List.append_nil]; exact h.setHttp .idle
  | httpTimeout =>
    dsimp only [sampling]
    by_cases hidle : s.http=.idle
    · rw [if_pos hidle]
      exact h.quiet (h.globals.other (lastPair_snoc obs _) (lastTime_snoc obs _)
        ⟨rfl,rfl,rfl,rfl⟩) rfl nofun nofun
    · rw [if_neg hidle,List.append_nil]
      exact h

/-- The samples are coherent at boot: nothing is served. -/
theorem coherenceInv_boot (zeroTemp defaultTemp : τ) (zeroPressure defaultPressure : π) :
    CoherenceInv (bootState zeroTemp defaultTemp zeroPressure defaultPressure) []
      (bootState zeroTemp defaultTemp zeroPressure defaultPressure) := by
  refine ⟨⟨rfl,rfl,nofun,nofun⟩,?_,?_⟩
  · rintro ⟨first,second,hsplit,-⟩
    simp at hsplit
  · intro before sample after hsplit
    simp at hsplit

/-- Every run whose updates find no torn reading keeps the samples coherent. -/
theorem coherence_run {boot : State τ π} (hstart : CoherenceInv boot [] boot)
    {events : List (Event τ π)} (hwhole : UpdatesWhole boot events) :
    CoherenceInv boot (sampling.trace boot events) (sampling.run boot events) := by
  suffices h : sampling.trace boot events=sampling.trace boot events ∧
      sampling.run boot events=sampling.run boot events ∧
        CoherenceInv boot (sampling.trace boot events) (sampling.run boot events) from h.2.2
  refine sampling.history_invariant (fun (before : List (Event τ π)) obs s =>
    obs=sampling.trace boot before ∧ s=sampling.run boot before ∧ CoherenceInv boot obs s) ?_ ?_
  · exact ⟨rfl,rfl,hstart⟩
  · rintro before e obs s ⟨after,hsplit⟩ ⟨rfl,rfl,h⟩
    rw [List.append_assoc] at hsplit
    refine ⟨(Machine.trace_snoc _ _ _ _).symm,(Machine.run_snoc _ _ _ _).symm,h.step e ?_⟩
    rintro rfl
    exact hwhole before after hsplit.symm

/-- Served samples are coherent in every run whose updates find no torn reading. -/
theorem samples_coherent (zeroTemp defaultTemp : τ) (zeroPressure defaultPressure : π)
    (events : List (Event τ π))
    (hwhole : UpdatesWhole (bootState zeroTemp defaultTemp zeroPressure defaultPressure) events) :
    SamplesCoherent (bootState zeroTemp defaultTemp zeroPressure defaultPressure) events :=
  (coherence_run (coherenceInv_boot _ _ _ _) hwhole).samples

/-- The analog task reads and stores a time. -/
def clockRound (t : RtcTime) : List (Event ℤ ℤ) :=
  .analog none (some t)::List.replicate 7 (.analog none none)

/-- The analog task reads and stores both sensors. -/
def sensorsRound (t : RtcTime) : List (Event ℤ ℤ) :=
  [.analog (some (2150,10132)) none,.analog none none,.analog none none]++clockRound t

/-- The analog task is at the next time, one second later, and has stored its seconds. -/
def secondsStored : List (Event ℤ ℤ) :=
  sensorsRound ⟨58,59,12,5,25,9,26⟩++
    [.analog none none,.analog none (some ⟨59,59,12,5,25,9,26⟩),.analog none none]

/-- A sample is updated inside a round, when the fields that the timestamp shows are those of
the new time, and served. -/
theorem first_sample_coherent :
    SamplesCoherent (bootState 0 9999 0 9990) (secondsStored++.mainApp::[.http,.http,.http]) := by
  refine samples_coherent 0 9999 0 9990 _
    fun before after hsplit _ old oldTime _ hlast htorn => ?_
  obtain ⟨rfl,-,-⟩ := (List.append_cons_inj_of_notMem (by decide) (by decide)).mp hsplit
  obtain rfl : ⟨58,59,12,5,25,9,26⟩=oldTime := Option.some.inj hlast
  exact htorn.2 rfl

/-- A first round with the clock at 12:59:59. -/
def firstRound : List (Event ℤ ℤ) := sensorsRound ⟨59,59,12,5,25,9,26⟩

/-- The next time is 13:00:00, an update comes before its hour is stored, and the
sample is served. -/
def tornRun : List (Event ℤ ℤ) :=
  firstRound++.mainApp::.analog none none::.analog none (some ⟨0,0,13,5,25,9,26⟩)::
    [.analog none none,.analog none none,.mainApp,.http,.http]

/-- The sample of the torn run shows 12:00:00, which the clock never read. -/
theorem torn_sample : ¬SamplesCoherent (bootState 0 9999 0 9990) tornRun := by
  intro h
  have htrace : sampling.trace (bootState 0 9999 0 9990) tornRun=
      [.bmp280Read 2150 10132,.bmp280Stored 2150 10132,.ds3231Read ⟨59,59,12,5,25,9,26⟩,
        .ds3231Stored ⟨59,59,12,5,25,9,26⟩,.updated,.ds3231Read ⟨0,0,13,5,25,9,26⟩,.updated]++
          .served ⟨2150,10132,formatTimestamp ⟨0,0,12,5,25,9,26⟩⟩::[] := by
    rfl
  have hsince := h _ _ _ htrace ⟨[.bmp280Read 2150 10132,.bmp280Stored 2150 10132,
    .ds3231Read ⟨59,59,12,5,25,9,26⟩,.ds3231Stored ⟨59,59,12,5,25,9,26⟩],_,rfl,nofun,nofun⟩
  obtain ⟨⟨t,hread,hshown⟩,-⟩ := hsince
  simp only [List.mem_cons,reduceCtorEq,Observation.ds3231Read.injEq,List.not_mem_nil,
    or_false,false_or] at hread
  rcases hread with rfl|rfl
  · exact absurd hshown (by decide)
  · exact absurd hshown (by decide)

end WebDataLogger.SampleCoherence
