import WebDataLogger.DecimalTruncation
import WebDataLogger.HttpConnections
import WebDataLogger.JsonText

/-!
# The reading that the dashboard shows

The sensor data are printed with `%d.%d`, parsed as JSON and shown by `updateDisplay`.
Between minus one and zero the sign is lost, and a temperature of zero is not shown.
-/

namespace WebDataLogger.Dashboard

open CText HttpMessage JsonText DecimalTruncation SensorData WebService HttpConnections TransitionRuns

/-- `" °C"`. -/
def degrees : Text := [32,194,176,67]

/-- A property of parsed data, with `none` inside for `undefined`. Null has none and throws. -/
def property (data : Json) (name : Text) : Option (Option Json) :=
  match data with
  | .null => none
  | .object members => some (member members name)
  | _ => some none

/-- What `||` takes for true. -/
def truthy : Option Json → Bool
  | none => false
  | some .null => false
  | some (.bool b) => b
  | some (.number value) => value != 0
  | some (.string spelling) => !spelling.isEmpty
  | some _ => true

/-- `toFixed(1)` of a number below 10^21. -/
def toFixed1 (value : ℚ) : Text :=
  let n := ⌊10*|value|+1/2⌋.toNat
  (if value<0 then [45] else [])++decimal (n/10)++[46,digitChar n]

/-- The temperature text after `updateDisplay`, or nothing if it throws. -/
def updateDisplay (temperature : Text) (data : Json) : Option Text := do
  let first ← property data (bytesOf "temp")
  let temp ← if truthy first then some first else property data (bytesOf "temperature")
  match temp with
  | none => return temperature
  | some (.number value) => return toFixed1 value++degrees
  | some _ => none

/-- The integer part of a reading is a value of `int`. -/
def FitsInt (x : ℚ) : Prop := -2147483648≤truncate x ∧ truncate x≤2147483647

instance (x : ℚ) : Decidable (FitsInt x) := inferInstanceAs (Decidable (_ ∧ _))

/-- A timestamp that fits its field and needs no escapes. -/
def PlainTimestamp (timestamp : Text) : Prop :=
  timestamp.length≤23 ∧ timestamp.all isPlain=true

/-- A snapshot of the sensor data. -/
structure Snapshot extends WebSensorData ℚ ℚ where
  temp_fits : FitsInt temp
  pressure_fits : FitsInt pressure
  timestamp_plain : PlainTimestamp timestamp

/-- The data that a client parses from the response. -/
def fetched (snap : Snapshot) : Option Json :=
  parse (bodyOf (sendSensorJson exactFloat true snap.toWebSensorData))

/-- A number among parsed data. -/
def numberOf (data : Json) (name : Text) : Option ℚ :=
  match property data name with
  | some (some (.number value)) => some value
  | _ => none

/-- Tenths with their sign and one decimal place. -/
def tenthsText (k : ℤ) : Text :=
  (if k<0 then [45] else [])++decimal (k.natAbs/10)++[46,digitChar k.natAbs]

/-- The readings of a snapshot are written truncated to one decimal place, and whatever
stood there, the dashboard then shows its temperature. -/
def ReadingShown (snap : Snapshot) : Prop :=
  ∃ data, fetched snap=some data ∧
    numberOf data (bytesOf "temp")=some ((tenthsOf snap.temp : ℚ)/10) ∧
    numberOf data (bytesOf "pressure")=some ((tenthsOf snap.pressure : ℚ)/10) ∧
    ∀ temperature, updateDisplay temperature data=some (tenthsText (tenthsOf snap.temp)++degrees)

/-- Neither reading lies where its sign is lost, and the temperature is a tenth or more
away from zero. -/
def ShowsExactly (snap : Snapshot) : Prop :=
  (snap.temp≤ -1 ∨ 1/10 ≤ snap.temp) ∧ (snap.pressure≤ -1 ∨ -1/10 < snap.pressure)

/-- The tenths that are printed. Where the integer part is zero they have no sign. -/
def printedTenths (x : ℚ) : ℤ := if truncate x=0 then |tenthsOf x| else tenthsOf x

/-- Digits need no escapes. -/
theorem isPlain_of_isDigit {c : UInt8} (h : isDigit c=true) : isPlain c=true := by
  simp only [isDigit,Bool.and_eq_true,decide_eq_true_eq,UInt8.le_iff_toNat_le] at h
  have hquote : c≠34 := by
    rintro rfl
    exact absurd h.1 (by decide)
  have hslash : c≠92 := by
    rintro rfl
    exact absurd h.2 (by decide)
  have hcontrol : ¬c<32 := by
    have hlow : 48≤c.toNat := h.1
    rw [UInt8.lt_iff_toNat_lt]
    change ¬c.toNat<32
    omega
  simp [isPlain,hquote,hslash,hcontrol]

/-- A timestamp of the service is plain. -/
theorem formatTimestamp_plain (t : RealTimeClock.RtcTime) : PlainTimestamp (formatTimestamp t) := by
  have hdecimal : ∀ v, (decimal02 v).all isPlain=true := by
    intro v
    rw [List.all_eq_true]
    intro c hc
    have hdigit : isDigit c=true := by
      unfold decimal02 twoDigits at hc
      split at hc
      · simp only [List.mem_cons,List.not_mem_nil,or_false] at hc
        rcases hc with rfl|rfl <;> exact isDigit_digitChar _
      · simp only [List.mem_cons,List.not_mem_nil,or_false] at hc
        rcases hc with rfl|rfl|rfl <;> exact isDigit_digitChar _
    exact isPlain_of_isDigit hdigit
  refine ⟨formatTimestamp_length t,?_⟩
  have hcentury : (bytesOf "20").all isPlain=true := by decide
  have hmarks : isPlain 45=true ∧ isPlain 32=true ∧ isPlain 58=true := by decide
  have hwhole : (bytesOf "20"++decimal02 t.year++45::(decimal02 t.month++45::(decimal02 t.date++
      32::(decimal02 t.hour++58::(decimal02 t.min++58::decimal02 t.sec))))).all isPlain=true := by
    simp only [List.all_append,List.all_cons,hdecimal,hcentury,hmarks,Bool.and_self]
  rw [List.all_eq_true] at hwhole ⊢
  exact fun c hc => hwhole c (List.mem_of_mem_take hc)

/-- The sensor data of every state of the service are a snapshot if the readings fit. -/
theorem snapshot_run (temp pressure : ℚ) (t : RealTimeClock.RtcTime) (events : List (Event ℚ))
    {data : WebSensorData ℚ ℚ} (hdata : ((webService exactFloat).run
      (webServiceInit exactFloat temp pressure t) events).sensorData=data)
    (htemp : FitsInt data.temp) (hpressure : FitsInt data.pressure) :
    ∃ snap : Snapshot, snap.toWebSensorData=data := by
  obtain ⟨t',hformatted⟩ := timestamp_formatted exactFloat temp pressure t events
  rw [hdata] at hformatted
  exact ⟨⟨data,htemp,hpressure,hformatted▸formatTimestamp_plain t'⟩,rfl⟩

/-- The conversion to `int` keeps the integer part. -/
theorem toInt_truncate {x : ℚ} (h : FitsInt x) : (exactFloat.toInt x).toInt=truncate x := by
  obtain ⟨hlow,hhigh⟩ := h
  change (Int32.ofInt (max (-2147483648) (min 2147483647 (truncate x)))).toInt=_
  rw [min_eq_right hhigh,max_eq_right hlow]
  exact Int32.toInt_ofInt_of_le hlow (by omega)

/-- A printed reading is its integer part and a digit. -/
theorem formatReading_eq {x : ℚ} (h : FitsInt x) : formatReading exactFloat x=
    decimalInt (truncate x)++[46,digitChar (tenthDigit x).natAbs] := by
  have hwhole := toInt_truncate h
  obtain ⟨hdigit,-,-⟩ := tenthDigit_bounds x
  have hfits : FitsInt ((x-(truncate x : ℚ))*10) := by
    change -2147483648≤tenthDigit x ∧ tenthDigit x≤2147483647
    omega
  have hfrac : (exactFloat.toInt (exactFloat.tenths x (exactFloat.toInt x))).toInt=tenthDigit x := by
    change (exactFloat.toInt ((x-((exactFloat.toInt x).toInt : ℚ))*10)).toInt=_
    rw [hwhole]
    exact toInt_truncate hfits
  have habs : (if exactFloat.toInt (exactFloat.tenths x (exactFloat.toInt x))<0 then
      -exactFloat.toInt (exactFloat.tenths x (exactFloat.toInt x)) else
        exactFloat.toInt (exactFloat.tenths x (exactFloat.toInt x))).toInt=(tenthDigit x).natAbs := by
    generalize exactFloat.toInt (exactFloat.tenths x (exactFloat.toInt x))=frac at hfrac ⊢
    split
    next hneg =>
      rw [Int32.lt_iff_toInt_lt,hfrac] at hneg
      change tenthDigit x<0 at hneg
      rw [Int32.toInt_neg,hfrac,Int.bmod_eq_of_le_mul_two (by omega) (by omega)]
      omega
    next hpos =>
      rw [Int32.lt_iff_toInt_lt,hfrac] at hpos
      change ¬tenthDigit x<0 at hpos
      omega
  have hprinted : decimalInt ((tenthDigit x).natAbs : ℤ)=[digitChar (tenthDigit x).natAbs] := by
    rw [decimalInt,if_neg (by omega),Int.natAbs_natCast,decimal_digit hdigit]
  unfold formatReading
  dsimp only
  rw [hwhole,habs,hprinted]

/-- The number that is printed. -/
theorem printedTenths_eq (x : ℚ) : (if truncate x<0 then
    -(((truncate x).natAbs : ℚ)+(tenthDigit x).natAbs/10) else
      ((truncate x).natAbs : ℚ)+(tenthDigit x).natAbs/10)=(printedTenths x : ℚ)/10 := by
  obtain ⟨-,hneg,hpos⟩ := tenthDigit_bounds x
  have htenths := tenthsOf_eq x
  have hvalue : printedTenths x=if truncate x<0 then
      -(10*((truncate x).natAbs : ℤ)+(tenthDigit x).natAbs) else
        10*((truncate x).natAbs : ℤ)+(tenthDigit x).natAbs := by
    unfold printedTenths
    split
    next hzero => rw [if_neg (by omega),htenths,Int.abs_eq_natAbs]; omega
    next hzero => split <;> omega
  rw [hvalue]
  generalize (truncate x).natAbs=whole
  generalize (tenthDigit x).natAbs=digit
  split
  · push_cast
    ring
  · push_cast
    ring

/-- A printed reading is read as the number that is printed. -/
theorem parseValue_reading {x : ℚ} (h : FitsInt x) (fuel : ℕ) (rest : Text) :
    parseValue (fuel+1) (formatReading exactFloat x++44::rest)=
      some (.number ((printedTenths x : ℚ)/10),44::rest) := by
  obtain ⟨hdigit,-,-⟩ := tenthDigit_bounds x
  have hcomma : ∀ c∈(44::rest).head?, isDigit c=false ∧ ¬(c=69 ∨ c=101) := by
    intro c hc
    obtain rfl := Option.some.inj hc
    decide
  have hnumber := scanNumber_tenths (truncate x) hdigit hcomma
  obtain ⟨c,start,hstart,hc⟩ := decimalInt_start (truncate x)
  rw [formatReading_eq h,List.append_assoc]
  rw [printedTenths_eq] at hnumber
  rw [hstart] at hnumber ⊢
  exact parseValue_number hc hnumber fuel

/-- The members that a client parses. -/
def fetchedMembers (snap : Snapshot) : List (Text×Json) :=
  [(bytesOf "temp",.number ((printedTenths snap.temp : ℚ)/10)),
    (bytesOf "pressure",.number ((printedTenths snap.pressure : ℚ)/10)),
    (bytesOf "timestamp",.string snap.timestamp)]

/-- The JSON text parses to three members. -/
theorem parse_formatBody (snap : Snapshot) :
    parse (formatBody exactFloat snap.toWebSensorData)=some (.object (fetchedMembers snap)) := by
  have htimestamp : parseMembers 2 (34::bytesOf "timestamp"++34::58::
      (34::snap.timestamp++34::[125]))=
        some ([(bytesOf "timestamp",.string snap.timestamp)],[]) :=
    parseMembers_last (by decide) (parseValue_plain snap.timestamp_plain.2 0 _)
  have hpressure := parseMembers_more (show (bytesOf "pressure").all isPlain=true by decide)
    (parseValue_reading snap.pressure_fits 1 _) htimestamp
  have htemp := parseMembers_more (show (bytesOf "temp").all isPlain=true by decide)
    (parseValue_reading snap.temp_fits 2 _) hpressure
  have hbody : formatBody exactFloat snap.toWebSensorData=123::34::(bytesOf "temp"++34::58::
      (formatReading exactFloat snap.temp++44::(34::bytesOf "pressure"++34::58::
        (formatReading exactFloat snap.pressure++44::(34::bytesOf "timestamp"++34::58::
          (34::snap.timestamp++34::[125])))))) := by
    simp only [formatBody,List.append_assoc]
    rfl
  rw [hbody]
  exact parse_members htemp rfl

/-- What a client parses. -/
theorem fetched_eq (snap : Snapshot) : fetched snap=some (.object (fetchedMembers snap)) := by
  rw [fetched,sendSensorJson_snap exactFloat (if_pos rfl) snap.timestamp_plain.1,
    bodyOf_formatResponse,parse_formatBody]

/-- Tenths are shown as they are. -/
theorem toFixed1_tenths (k : ℤ) : toFixed1 ((k : ℚ)/10)=tenthsText k := by
  have hround : ⌊10*|(k : ℚ)/10|+1/2⌋=(k.natAbs : ℤ) := by
    rw [abs_div,abs_of_pos (show (0 : ℚ)<10 by norm_num),mul_div_cancel₀ _ (by norm_num),
      ←Int.cast_abs,Int.abs_eq_natAbs,Int.floor_eq_iff]
    constructor
    · linarith
    · linarith
  have hsign : (k : ℚ)/10<0 ↔ k<0 := by
    rw [div_neg_iff]
    norm_num
  unfold toFixed1 tenthsText
  simp only [hround,hsign,Int.toNat_natCast]

/-- The dashboard shows the printed temperature unless it is zero. -/
theorem updateDisplay_fetched (temperature : Text) (snap : Snapshot) :
    updateDisplay temperature (.object (fetchedMembers snap))=
      some (if printedTenths snap.temp=0 then temperature
        else tenthsText (printedTenths snap.temp)++degrees) := by
  have htemp : property (.object (fetchedMembers snap)) (bytesOf "temp")=
      some (some (.number ((printedTenths snap.temp : ℚ)/10))) := rfl
  have htemperature : property (.object (fetchedMembers snap)) (bytesOf "temperature")=
      some none := rfl
  unfold updateDisplay
  rw [htemp,htemperature]
  by_cases hzero : printedTenths snap.temp=0
  · rw [if_pos hzero,hzero]
    simp [truthy]
  · have htrue : truthy (some (.number ((printedTenths snap.temp : ℚ)/10)))=true := by
      simp [truthy,hzero]
    rw [if_neg hzero,←toFixed1_tenths]
    simp [htrue]

/-- The sign is printed except between minus one and minus a tenth. -/
theorem printedTenths_eq_iff {x : ℚ} :
    printedTenths x=tenthsOf x ↔ x≤ -1 ∨ -1/10 < x := by
  have hneg : truncate x<0 ↔ x≤ -1 := truncate_neg_iff
  have hpos : 0<truncate x ↔ 1≤x := truncate_pos_iff
  have htenths : tenthsOf x<0 ↔ x*10≤ -1 := truncate_neg_iff
  unfold printedTenths
  split
  next hzero =>
    rw [abs_eq_self]
    constructor
    · intro h
      have hlow := mt htenths.mpr (by omega)
      exact Or.inr (by linarith)
    · rintro (h|h)
      · exact absurd (hneg.mpr h) (by omega)
      · by_contra hlow
        have := htenths.mp (by omega)
        linarith
  next hwhole =>
    refine iff_of_true rfl ?_
    rcases lt_or_gt_of_ne hwhole with h|h
    · exact Or.inl (hneg.mp h)
    · have hone := hpos.mp h
      exact Or.inr (by linarith)

/-- The temperature is printed and is not zero. -/
theorem shown_iff {x : ℚ} : printedTenths x=tenthsOf x ∧ tenthsOf x≠0 ↔ x≤ -1 ∨ 1/10≤x := by
  have hneg : tenthsOf x<0 ↔ x*10≤ -1 := truncate_neg_iff
  have hpos : 0<tenthsOf x ↔ 1≤x*10 := truncate_pos_iff
  rw [printedTenths_eq_iff]
  constructor
  · rintro ⟨h|h,hne⟩
    · exact Or.inl h
    · rcases lt_or_gt_of_ne hne with htenths|htenths
      · have hlow := hneg.mp htenths
        exact absurd h (by linarith)
      · have hhigh := hpos.mp htenths
        exact Or.inr (by linarith)
  · rintro (h|h)
    · have htenths := hneg.mpr (by linarith)
      exact ⟨Or.inl h,by omega⟩
    · have htenths := hpos.mpr (by linarith)
      exact ⟨Or.inr (by linarith),by omega⟩

/-- The reading shown, by what is printed. -/
theorem readingShown_printed (snap : Snapshot) : ReadingShown snap ↔
    printedTenths snap.temp=tenthsOf snap.temp ∧
      printedTenths snap.pressure=tenthsOf snap.pressure ∧
        ∀ temperature, (if printedTenths snap.temp=0 then temperature
          else tenthsText (printedTenths snap.temp)++degrees)=
            tenthsText (tenthsOf snap.temp)++degrees := by
  have htenth : ∀ j k : ℤ, some ((j : ℚ)/10)=some ((k : ℚ)/10) ↔ j=k := by
    intro j k
    rw [Option.some_inj,div_left_inj' (by norm_num),Int.cast_inj]
  have htemp : numberOf (.object (fetchedMembers snap)) (bytesOf "temp")=
      some ((printedTenths snap.temp : ℚ)/10) := rfl
  have hpressure : numberOf (.object (fetchedMembers snap)) (bytesOf "pressure")=
      some ((printedTenths snap.pressure : ℚ)/10) := rfl
  unfold ReadingShown
  constructor
  · rintro ⟨data,hdata,hfirst,hsecond,hshown⟩
    rw [fetched_eq] at hdata
    obtain rfl := Option.some.inj hdata
    rw [htemp] at hfirst
    rw [hpressure] at hsecond
    refine ⟨(htenth _ _).mp hfirst,(htenth _ _).mp hsecond,fun temperature => ?_⟩
    have h := hshown temperature
    rw [updateDisplay_fetched] at h
    exact Option.some.inj h
  · rintro ⟨hfirst,hsecond,hshown⟩
    refine ⟨_,fetched_eq snap,?_,?_,fun temperature => ?_⟩
    · rw [htemp,hfirst]
    · rw [hpressure,hsecond]
    · rw [updateDisplay_fetched,hshown]

/-- The readings are shown as they are stored exactly when neither lies above minus one and
at or below minus a tenth, and the temperature is at least a tenth away from zero. -/
theorem readingShown_iff (snap : Snapshot) : ReadingShown snap ↔ ShowsExactly snap := by
  rw [readingShown_printed,ShowsExactly,←shown_iff,←printedTenths_eq_iff]
  constructor
  · rintro ⟨htemp,hpressure,hshown⟩
    refine ⟨⟨htemp,fun hzero => ?_⟩,hpressure⟩
    have h := congrArg List.length (hshown [])
    rw [htemp,if_pos hzero] at h
    simp [degrees] at h
  · rintro ⟨⟨htemp,hne⟩,hpressure⟩
    refine ⟨htemp,hpressure,fun temperature => ?_⟩
    rw [htemp,if_neg hne]

/-- Half a degree below zero. -/
def frost : Snapshot where
  temp := -1/2
  pressure := 1013
  timestamp := bytesOf "2026-09-25 12:00:00"
  temp_fits := by decide +kernel
  pressure_fits := by decide +kernel
  timestamp_plain := ⟨by decide,by decide⟩

/-- Half a degree below zero is shown as half a degree above. -/
theorem frost_shown : ¬ReadingShown frost ∧ ∃ data, fetched frost=some data ∧
    ∀ temperature, updateDisplay temperature data=some (bytesOf "0.5"++degrees) := by
  have htenths : tenthsOf (-1/2)=-5 := by decide +kernel
  have hprinted : printedTenths (-1/2)=5 := by decide +kernel
  refine ⟨fun h => ?_,_,fetched_eq frost,fun temperature => ?_⟩
  · have htemp := ((readingShown_printed frost).mp h).1
    change printedTenths (-1/2)=tenthsOf (-1/2) at htemp
    rw [htenths,hprinted] at htemp
    cases htemp
  · rw [updateDisplay_fetched]
    change some (if printedTenths (-1/2)=0 then temperature
      else tenthsText (printedTenths (-1/2))++degrees)=_
    rw [hprinted,if_neg (by decide)]
    decide

end WebDataLogger.Dashboard
