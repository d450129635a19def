import WebDataLogger.SensorData

/-!
# From the build stamp to the timestamp served

The date and the time of the build go through the scanner, the BCD registers of the
clock and the formatter of the web service, and come out as they went in.
-/

namespace WebDataLogger.TimestampChain

open CText CivilCalendar EepromDriver RealTimeClock SensorData

/-- "yyyy-MM-dd hh:mm:ss" of a build. -/
def stamp (build : BuildTime) : Text :=
  digitChar 2::digitChar 0::twoDigits build.time.year++
    45::(twoDigits build.time.month++45::(twoDigits build.time.date++
      32::(twoDigits build.time.hour++58::(twoDigits build.time.minute++
        58::twoDigits build.time.second))))

/-- Fields in calendar range, with the weekday from 1 to 7. -/
structure InRange (t : RtcTime) : Prop where
  sec : t.sec.toNat<60
  min : t.min.toNat<60
  hour : t.hour.toNat<24
  day : 1 ≤ t.day.toNat ∧ t.day.toNat≤7
  date : 1 ≤ t.date.toNat ∧ t.date.toNat≤31
  month : 1 ≤ t.month.toNat ∧ t.month.toNat≤12
  year : t.year.toNat<100

/-- `%02d` prints a number of two digits as such. -/
theorem decimal02_toUInt8 {v : ℕ} (h : v<100) : decimal02 v.toUInt8=twoDigits v := by
  have hvalue : v.toUInt8.toNat=v := by
    change v%2^8=v
    omega
  have hlt : v.toUInt8<100 := by
    rw [UInt8.lt_iff_toNat_lt,hvalue]
    exact h
  rw [decimal02,if_pos hlt,hvalue]

/-- The timestamp of the fields of a build. -/
theorem formatTimestamp_build (build : BuildTime) (day : UInt8) :
    formatTimestamp (rtcTimeOf build.time day)=stamp build := by
  have hyear := build.year_lt
  have hmonth := build.valid.month_le
  have hdate := build.valid.date_le
  have hlast := daysInMonth_le leapYear build.time.year build.time.month
  have hhour := build.valid.hour_lt
  have hminute := build.valid.minute_lt
  have hsecond := build.valid.second_lt
  have hcentury : bytesOf "20"=[digitChar 2,digitChar 0] := by decide
  simp only [formatTimestamp,rtcTimeOf,Nat.mod_eq_of_lt hyear,decimal02_toUInt8 hyear,
    decimal02_toUInt8 (show build.time.month<100 by omega),
    decimal02_toUInt8 (show build.time.date<100 by omega),
    decimal02_toUInt8 (show build.time.hour<100 by omega),
    decimal02_toUInt8 (show build.time.minute<100 by omega),
    decimal02_toUInt8 (show build.time.second<100 by omega),hcentury]
  exact List.take_of_length_le (Nat.le_of_ble_eq_true rfl)

/-- BCD coding loses nothing of a byte of two digits. -/
theorem bcd_byte {v : UInt8} (h : v.toNat<100) : bcd2dec (dec2bcd v)=v := by
  have hround := bcd2dec_dec2bcd h
  rwa [show v.toNat.toUInt8=v from UInt8.ofNat_toNat] at hround

/-- The masks of the registers lose nothing of fields in range. -/
theorem mask_byte {v : UInt8} :
    (v.toNat<60 → dec2bcd v&&&0x7F=dec2bcd v) ∧ (v.toNat<40 → dec2bcd v&&&0x3F=dec2bcd v) ∧
      (v.toNat<20 → dec2bcd v&&&0x1F=dec2bcd v) ∧ (v.toNat<8 → v&&&0x07=v) := by
  have hv : v.toNat.toUInt8=v := UInt8.ofNat_toNat
  have hday : ∀ d : Fin 8, d.val.toUInt8&&&0x07=d.val.toUInt8 := by decide
  have h7 := @dec2bcd_and_7F v.toNat
  have h3 := @dec2bcd_and_3F v.toNat
  have h1 := @dec2bcd_and_1F v.toNat
  rw [hv] at h7 h3 h1
  refine ⟨h7,h3,h1,fun h => ?_⟩
  have hmask := hday ⟨v.toNat,h⟩
  rwa [hv] at hmask

/-- Fields in range pass through the registers. -/
theorem decode_encode {t : RtcTime} (h : InRange t) : decodeTime (encodeTime t)=t := by
  have hsec := h.sec
  have hmin := h.min
  have hhour := h.hour
  have hday := h.day.2
  have hdate := h.date.2
  have hmonth := h.month.2
  have hyear := h.year
  unfold decodeTime encodeTime
  dsimp only
  rw [mask_byte.1 hsec,mask_byte.1 hmin,mask_byte.2.1 (by omega),mask_byte.2.2.2 (by omega),
    mask_byte.2.1 (by omega),mask_byte.2.2.1 (by omega),bcd_byte (by omega),bcd_byte (by omega),
    bcd_byte (by omega),bcd_byte (by omega),bcd_byte (by omega),bcd_byte hyear]

/-- A clock set from a build and read back gives the timestamp of the build, and every time in
range is read as it was set. -/
theorem dateTime_survives {τ π : Type*} (build : BuildTime) (chip : Ds3231)
    {transfer : TransferOutcome} {written : Ds3231} (data : WebSensorData τ π) (temp : τ) (pressure : π)
    (before : RtcTime)
    (hset : rtcSetFromCompileTime transfer build.dateMacro build.timeMacro chip=
      some (.success,written)) :
    (webServiceUpdateSensorData true data temp pressure
        (ds3231ReadTime .success written before).2).timestamp=stamp build ∧
      ∀ t : RtcTime, InRange t →
        ds3231ReadTime .success (ds3231SetTime .success chip t).2 before=(.success,t) := by
  constructor
  · rw [rtcSetFromCompileTime,compileTimeFields_build,Option.map_some] at hset
    cases transfer with
    | failed stored => cases hset
    | success =>
      obtain rfl := (Prod.mk.inj (Option.some.inj hset)).2
      change formatTimestamp (decodeTime (encodeTime (rtcTimeOf build.time 1)))=stamp build
      rw [decodeTime_encodeTime build.valid]
      exact formatTimestamp_build build _
  · intro t ht
    change (Status.success,decodeTime (encodeTime t))=_
    rw [decode_encode ht]

/-- Build of 1 February 2024, 23:59:09. -/
def februaryBuild : BuildTime where
  time := ⟨24,2,1,23,59,9⟩
  valid := by constructor <;> decide
  year_lt := by decide

/-- The build of 1 February 2024 and its timestamp. -/
theorem februaryBuild_survives : februaryBuild.dateMacro=bytesOf "Feb  1 2024" ∧
    (webServiceUpdateSensorData true (⟨0,0,[]⟩ : WebSensorData ℕ ℕ) 21 1013
      (ds3231ReadTime .success (encodeTime (rtcTimeOf februaryBuild.time 1))
        ⟨0,0,0,0,0,0,0⟩).2).timestamp=bytesOf "2024-02-01 23:59:09" := by
  have hset : rtcSetFromCompileTime .success februaryBuild.dateMacro februaryBuild.timeMacro
      ⟨0,0,0,0,0,0,0⟩=some (.success,encodeTime (rtcTimeOf februaryBuild.time 1)) := by
    rw [rtcSetFromCompileTime,compileTimeFields_build]
    rfl
  exact ⟨by decide,(dateTime_survives februaryBuild ⟨0,0,0,0,0,0,0⟩ ⟨0,0,[]⟩ 21 1013
    ⟨0,0,0,0,0,0,0⟩ hset).1.trans (by decide)⟩

end WebDataLogger.TimestampChain
