import WebDataLogger.CText
import WebDataLogger.CivilCalendar
import WebDataLogger.EepromDriver

/-!
# The DS3231 and its driver

The chip keeps the time in seven BCD registers and counts seconds as the civil
calendar of 2000 to 2099 does. The driver decodes and encodes these registers.
At every boot the clock is set from the `__DATE__` and `__TIME__` of the build,
which are scanned with `sscanf`.
-/

namespace WebDataLogger.RealTimeClock

open CText CivilCalendar EepromDriver

/-- `rtc_time_t`, with the year counted from 2000. -/
structure RtcTime where
  sec : UInt8
  min : UInt8
  hour : UInt8
  day : UInt8
  date : UInt8
  month : UInt8
  year : UInt8
  deriving DecidableEq

/-- Registers 0x00 to 0x06 of the chip. -/
structure Ds3231 where
  seconds : UInt8
  minutes : UInt8
  hours : UInt8
  day : UInt8
  date : UInt8
  month : UInt8
  year : UInt8
  deriving DecidableEq

/-- `bcd2dec`. -/
def bcd2dec (val : UInt8) : UInt8 := (val>>>4)*10+(val&&&0x0F)

/-- `dec2bcd`. -/
def dec2bcd (val : UInt8) : UInt8 := ((val/10)<<<4)|||(val%10)

/-- The fields read from the registers. -/
def decodeTime (chip : Ds3231) : RtcTime where
  sec := bcd2dec (chip.seconds&&&0x7F)
  min := bcd2dec (chip.minutes&&&0x7F)
  hour := bcd2dec (chip.hours&&&0x3F)
  day := chip.day&&&0x07
  date := bcd2dec (chip.date&&&0x3F)
  month := bcd2dec (chip.month&&&0x1F)
  year := bcd2dec chip.year

/-- The registers written for a time. -/
def encodeTime (t : RtcTime) : Ds3231 where
  seconds := dec2bcd t.sec
  minutes := dec2bcd t.min
  hours := dec2bcd t.hour
  day := t.day
  date := dec2bcd t.date
  month := dec2bcd t.month
  year := dec2bcd t.year

/-- `DS3231_ReadTime`. A transfer that fails leaves `t` as it was. -/
def ds3231ReadTime (transfer : Status) (chip : Ds3231) (t : RtcTime) : Status×RtcTime :=
  match transfer with
  | .success => (.success,decodeTime chip)
  | .fail => (.fail,t)

/-- The first registers of a burst over those the chip held. -/
def Ds3231.store (chip burst : Ds3231) (stored : ℕ) : Ds3231 where
  seconds := if 0<stored then burst.seconds else chip.seconds
  minutes := if 1<stored then burst.minutes else chip.minutes
  hours := if 2<stored then burst.hours else chip.hours
  day := if 3<stored then burst.day else chip.day
  date := if 4<stored then burst.date else chip.date
  month := if 5<stored then burst.month else chip.month
  year := if 6<stored then burst.year else chip.year

/-- `DS3231_SetTime`: one burst over the seven registers. Where it breaks off, the chip has
stored the first of them. -/
def ds3231SetTime (transfer : TransferOutcome) (chip : Ds3231) (t : RtcTime) : Status×Ds3231 :=
  match transfer with
  | .success => (.success,encodeTime t)
  | .failed stored => (.fail,chip.store (encodeTime t) stored)

/-- Every fourth year is a leap year, as the chip counts until 2099. -/
def leapYear (year : ℕ) : Bool := year%4 == 0

/-- The date-time of a set of fields, with the year counted from 2000. -/
def RtcTime.dateTime (t : RtcTime) : DateTime where
  year := t.year.toNat
  month := t.month.toNat
  date := t.date.toNat
  hour := t.hour.toNat
  minute := t.min.toNat
  second := t.sec.toNat

/-- The fields of a date-time with a weekday. The year has two digits. -/
def rtcTimeOf (d : DateTime) (day : UInt8) : RtcTime where
  sec := d.second.toUInt8
  min := d.minute.toUInt8
  hour := d.hour.toUInt8
  day := day
  date := d.date.toUInt8
  month := d.month.toUInt8
  year := (d.year%100).toUInt8

/-- One second passes on the chip. The weekday advances at midnight. -/
def Ds3231.tick (chip : Ds3231) : Ds3231 :=
  let now := (decodeTime chip).dateTime
  let later := nextSecond leapYear now
  encodeTime (rtcTimeOf later (if later.date=now.date then chip.day else chip.day%7+1))

/-- `monthNames`. -/
def monthNames : List Text :=
  ["Jan","Feb","Mar","Apr","May","Jun","Jul","Aug","Sep","Oct","Nov","Dec"].map bytesOf

/-- `GetMonthFromStr`, with January for unknown names. -/
def getMonthFromStr (mmm : Text) : UInt8 :=
  match monthNames.findIdx? (fun name => sameFirst 3 mmm name) with
  | some i => (i+1).toUInt8
  | none => 1

/-- The fields that `RTC_SetFromCompileTime` scans from `__DATE__` and `__TIME__`.
Without all six conversions they are indeterminate. -/
def compileTimeFields (date time : Text) : Option RtcTime :=
  match sscanf [.word 3,.blank,.int,.blank,.int] date,
      sscanf [.int,.literal 58,.int,.literal 58,.int] time with
  | [.word monStr,.int day,.int year],[.int hour,.int min,.int sec] =>
    some ⟨UInt8.ofInt sec,UInt8.ofInt min,UInt8.ofInt hour,1,UInt8.ofInt day,
      getMonthFromStr monStr,UInt8.ofInt (year-2000)⟩
  | _,_ => none

/-- `RTC_SetFromCompileTime`. -/
def rtcSetFromCompileTime (transfer : TransferOutcome) (date time : Text) (chip : Ds3231) :
    Option (Status×Ds3231) :=
  (compileTimeFields date time).map (ds3231SetTime transfer chip)

/-- Date and time of a build, from 2000 to 2099. -/
structure BuildTime where
  time : DateTime
  valid : time.Valid leapYear
  year_lt : time.year<100

/-- `__DATE__` of a build: "Mmm dd yyyy", with a blank before a single-digit day. -/
def BuildTime.dateMacro (build : BuildTime) : Text :=
  monthNames.getD (build.time.month-1) []++32::
    (if build.time.date<10 then [32,digitChar build.time.date] else twoDigits build.time.date)++
      32::(digitChar 2::digitChar 0::twoDigits build.time.year)

/-- `__TIME__` of a build: "hh:mm:ss". -/
def BuildTime.timeMacro (build : BuildTime) : Text :=
  twoDigits build.time.hour++58::(twoDigits build.time.minute++58::twoDigits build.time.second)

/-- BCD coding loses nothing of a number of two digits. -/
theorem bcd2dec_dec2bcd {v : ℕ} (h : v<100) : bcd2dec (dec2bcd v.toUInt8)=v.toUInt8 := by
  have hall : ∀ v : Fin 100, bcd2dec (dec2bcd v.val.toUInt8)=v.val.toUInt8 := by decide
  exact hall ⟨v,h⟩

/-- Minutes and seconds fit the seven bits of their registers. -/
theorem dec2bcd_and_7F {v : ℕ} (h : v<60) : dec2bcd v.toUInt8&&&0x7F=dec2bcd v.toUInt8 := by
  have hall : ∀ v : Fin 60, dec2bcd v.val.toUInt8&&&0x7F=dec2bcd v.val.toUInt8 := by decide
  exact hall ⟨v,h⟩

/-- Hours and dates fit six bits. -/
theorem dec2bcd_and_3F {v : ℕ} (h : v<40) : dec2bcd v.toUInt8&&&0x3F=dec2bcd v.toUInt8 := by
  have hall : ∀ v : Fin 40, dec2bcd v.val.toUInt8&&&0x3F=dec2bcd v.val.toUInt8 := by decide
  exact hall ⟨v,h⟩

/-- Months fit five bits. -/
theorem dec2bcd_and_1F {v : ℕ} (h : v<20) : dec2bcd v.toUInt8&&&0x1F=dec2bcd v.toUInt8 := by
  have hall : ∀ v : Fin 20, dec2bcd v.val.toUInt8&&&0x1F=dec2bcd v.val.toUInt8 := by decide
  exact hall ⟨v,h⟩

/-- Reading back a time that was set gives the same fields. -/
theorem decodeTime_encodeTime {d : DateTime} (h : d.Valid leapYear) (day : UInt8) :
    decodeTime (encodeTime (rtcTimeOf d day))=rtcTimeOf d (day&&&0x07) := by
  have hmonth := h.month_le
  have hdate := h.date_le
  have hlast := daysInMonth_le leapYear d.year d.month
  have hhour := h.hour_lt
  have hminute := h.minute_lt
  have hsecond := h.second_lt
  have hyear := Nat.mod_lt d.year (show 0<100 by decide)
  simp only [decodeTime,encodeTime,rtcTimeOf,RtcTime.mk.injEq]
  refine ⟨?_,?_,?_,trivial,?_,?_,?_⟩
  · rw [dec2bcd_and_7F hsecond,bcd2dec_dec2bcd (by omega)]
  · rw [dec2bcd_and_7F hminute,bcd2dec_dec2bcd (by omega)]
  · rw [dec2bcd_and_3F (by omega),bcd2dec_dec2bcd (by omega)]
  · rw [dec2bcd_and_3F (by omega),bcd2dec_dec2bcd (by omega)]
  · rw [dec2bcd_and_1F (by omega),bcd2dec_dec2bcd (by omega)]
  · exact bcd2dec_dec2bcd hyear

/-- The fields of a date-time of the century give it back. -/
theorem dateTime_rtcTimeOf {d : DateTime} (h : d.Valid leapYear) (hyear : d.year<100)
    (day : UInt8) : (rtcTimeOf d day).dateTime=d := by
  have hmonth := h.month_le
  have hdate := h.date_le
  have hlast := daysInMonth_le leapYear d.year d.month
  have hhour := h.hour_lt
  have hminute := h.minute_lt
  have hsecond := h.second_lt
  have hbyte : ∀ n : ℕ, n<256 → n.toUInt8.toNat=n := fun n hn => by
    change n%2^8=n
    omega
  simp only [RtcTime.dateTime,rtcTimeOf,DateTime.ext_iff]
  exact ⟨by rw [hbyte _ (by omega)]; omega,hbyte _ (by omega),hbyte _ (by omega),
    hbyte _ (by omega),hbyte _ (by omega),hbyte _ (by omega)⟩

/-- Names of months have three letters. -/
theorem monthName_letters {month : ℕ} (hpos : 1 ≤ month) (hle : month≤12) :
    (monthNames.getD (month-1) []).length=3 ∧
      ∀ c∈monthNames.getD (month-1) [], isSpace c=false := by
  have hall : (monthNames.all fun name => name.length == 3 && name.all fun c => !isSpace c)=true := by
    decide
  have hmem : monthNames.getD (month-1) []∈monthNames := by
    have hlt : month-1 < monthNames.length := by
      change month-1<12
      omega
    rw [List.getD_eq_getElem?_getD,List.getElem?_eq_getElem hlt]
    exact List.getElem_mem hlt
  have hname := List.all_eq_true.mp hall _ hmem
  simp only [Bool.and_eq_true,beq_iff_eq,List.all_eq_true,Bool.not_eq_true'] at hname
  exact hname

/-- Every month is found by its name. -/
theorem getMonthFromStr_name {month : ℕ} (hpos : 1 ≤ month) (hle : month≤12) :
    getMonthFromStr (monthNames.getD (month-1) [])=month.toUInt8 := by
  have hall : ∀ i : Fin 12, getMonthFromStr (monthNames.getD i.val [])=(i.val+1).toUInt8 := by
    decide
  have hmonth := hall ⟨month-1,by omega⟩
  rwa [show month-1+1=month by omega] at hmonth

/-- The build date as it is scanned. -/
theorem sscanf_dateMacro (build : BuildTime) :
    sscanf [.word 3,.blank,.int,.blank,.int] build.dateMacro=
      [.word (monthNames.getD (build.time.month-1) []),.int build.time.date,
        .int (2000+build.time.year : ℕ)] := by
  obtain ⟨hlength,hletters⟩ := monthName_letters build.valid.month_pos build.valid.month_le
  have hdate := build.valid.date_le
  have hlast := daysInMonth_le leapYear build.time.year build.time.month
  have hyear := build.year_lt
  have hne : monthNames.getD (build.time.month-1) []≠[] := by
    intro h
    rw [h] at hlength
    cases hlength
  have hblank : isSpace 32=true := by decide
  have hstop : ∀ c∈(32::(digitChar 2::digitChar 0::twoDigits build.time.year)).head?,
      isDigit c=false := by
    intro c hc
    obtain rfl := Option.some.inj hc
    decide
  have hday : scanInt (((32::(if build.time.date<10 then [32,digitChar build.time.date]
        else twoDigits build.time.date))++32::(digitChar 2::digitChar 0::
          twoDigits build.time.year)).dropWhile isSpace)=
      some ((build.time.date : ℤ),32::(digitChar 2::digitChar 0::twoDigits build.time.year)) := by
    split
    next hone =>
      simp only [List.cons_append,List.nil_append]
      rw [List.dropWhile_cons_of_pos hblank,List.dropWhile_cons_of_pos hblank,
        List.dropWhile_cons_of_neg (by simp)]
      exact scanInt_digitChar hone hstop
    · rw [List.cons_append,List.dropWhile_cons_of_pos hblank,twoDigits,List.cons_append,
        List.dropWhile_cons_of_neg (by simp)]
      exact scanInt_twoDigits _ (by omega) _ hstop
  have hfour : scanInt (digitChar 2::digitChar 0::twoDigits build.time.year)=
      some (((2000+build.time.year : ℕ) : ℤ),[]) := by
    have hscan := scanInt_digits 2 (digitChar 2::digitChar 0::twoDigits build.time.year) []
      rfl (by simp [twoDigits]) (by simp)
    have hvalue : digitsValue (digitChar 2::digitChar 0::twoDigits build.time.year)=
        2000+build.time.year := by
      simp only [digitsValue,twoDigits,List.foldl_cons,List.foldl_nil,digitChar_toNat]
      omega
    rw [hvalue,List.append_nil] at hscan
    exact hscan
  unfold BuildTime.dateMacro
  rw [List.append_assoc,sscanf,scanWord_full hlength hne hletters]
  dsimp only
  rw [sscanf,sscanf,hday]
  dsimp only
  rw [sscanf,List.dropWhile_cons_of_pos hblank,List.dropWhile_cons_of_neg (by simp),sscanf,hfour]
  rfl

/-- The build time as it is scanned. -/
theorem sscanf_timeMacro (build : BuildTime) :
    sscanf [.int,.literal 58,.int,.literal 58,.int] build.timeMacro=
      [.int build.time.hour,.int build.time.minute,.int build.time.second] := by
  have hhour := build.valid.hour_lt
  have hminute := build.valid.minute_lt
  have hsecond := build.valid.second_lt
  have hcolon : ∀ s : Text, ∀ c∈(58::s : Text).head?, isDigit c=false := by
    intro s c hc
    obtain rfl := Option.some.inj hc
    decide
  have hlast : scanInt (twoDigits build.time.second)=some ((build.time.second : ℤ),[]) := by
    have hscan := scanInt_twoDigits build.time.second (by omega) [] (by simp)
    rwa [List.append_nil] at hscan
  unfold BuildTime.timeMacro
  rw [sscanf,scanInt_twoDigits _ (by omega) _ (hcolon _)]
  simp only [sscanf,if_true]
  rw [scanInt_twoDigits _ (by omega) _ (hcolon _)]
  simp only [if_true]
  rw [hlast]

/-- The clock is set to the time of the build. -/
theorem compileTimeFields_build (build : BuildTime) :
    compileTimeFields build.dateMacro build.timeMacro=some (rtcTimeOf build.time 1) := by
  have hyear := build.year_lt
  have hbyte : ∀ n : ℕ, UInt8.ofInt (n : ℤ)=n.toUInt8 := by
    intro n
    apply UInt8.toNat.inj
    change ((n : ℤ)%2^8).toNat%2^8=n%2^8
    omega
  have hcentury : ((2000+build.time.year : ℕ) : ℤ)-2000=(build.time.year : ℕ) := by omega
  rw [compileTimeFields,sscanf_dateMacro,sscanf_timeMacro]
  simp only [hcentury,hbyte,getMonthFromStr_name build.valid.month_pos build.valid.month_le,
    rtcTimeOf,Nat.mod_eq_of_lt hyear]

end WebDataLogger.RealTimeClock
