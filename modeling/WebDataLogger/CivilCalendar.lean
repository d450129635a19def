import Mathlib.Data.Nat.Notation
import Mathlib.Tactic.Common

/-!
# Civil date-times and their seconds

Date-times of a calendar with twelve months, counted from the start of year 0.
Which years are leap years is left open. The number of seconds before a date-time
grows by one with every tick of a clock and orders the date-times as their fields
do, the year first.
-/

namespace WebDataLogger.CivilCalendar

/-- A date and a time of day. Months and days count from one. -/
@[ext] structure DateTime where
  year : ℕ
  month : ℕ
  date : ℕ
  hour : ℕ
  minute : ℕ
  second : ℕ
  deriving DecidableEq

variable (leap : ℕ → Bool)

/-- Days of a month. -/
def daysInMonth (year month : ℕ) : ℕ :=
  if month=2 then (if leap year=true then 29 else 28)
  else if month=4 ∨ month=6 ∨ month=9 ∨ month=11 then 30 else 31

/-- Days of the first months of a year. -/
def daysBeforeMonth (year : ℕ) : ℕ → ℕ
  | 0 => 0
  | months+1 => daysBeforeMonth year months+daysInMonth leap year (months+1)

/-- Days of the first years. -/
def daysBeforeYear : ℕ → ℕ
  | 0 => 0
  | years+1 => daysBeforeYear years+daysBeforeMonth leap years 12

/-- The fields are in their ranges. -/
@[mk_iff] structure DateTime.Valid (d : DateTime) : Prop where
  month_pos : 1≤d.month
  month_le : d.month≤12
  date_pos : 1≤d.date
  date_le : d.date≤daysInMonth leap d.year d.month
  hour_lt : d.hour<24
  minute_lt : d.minute<60
  second_lt : d.second<60

instance (d : DateTime) : Decidable (d.Valid leap) :=
  decidable_of_iff' _ (DateTime.valid_iff leap d)

/-- Days before the day of a date-time. -/
def dayNumber (d : DateTime) : ℕ :=
  daysBeforeYear leap d.year+daysBeforeMonth leap d.year (d.month-1)+(d.date-1)

/-- Seconds since midnight. -/
def secondOfDay (d : DateTime) : ℕ := d.hour*3600+d.minute*60+d.second

/-- Seconds before a date-time. -/
def toSeconds (d : DateTime) : ℕ := dayNumber leap d*86400+secondOfDay d

/-- Midnight of the next day. -/
def nextDay (d : DateTime) : DateTime :=
  if d.date+1≤daysInMonth leap d.year d.month then ⟨d.year,d.month,d.date+1,0,0,0⟩
  else if d.month+1≤12 then ⟨d.year,d.month+1,1,0,0,0⟩
  else ⟨d.year+1,1,1,0,0,0⟩

/-- The date-time one second later. -/
def nextSecond (d : DateTime) : DateTime :=
  if d.second+1<60 then {d with second := d.second+1}
  else if d.minute+1<60 then {d with minute := d.minute+1, second := 0}
  else if d.hour+1<24 then {d with hour := d.hour+1, minute := 0, second := 0}
  else nextDay leap d

/-- The first date-time differs from the second first in a smaller field. -/
def Earlier (d e : DateTime) : Prop :=
  d.year<e.year ∨ d.year=e.year ∧ (d.month<e.month ∨ d.month=e.month ∧ (d.date<e.date ∨
    d.date=e.date ∧ (d.hour<e.hour ∨ d.hour=e.hour ∧ (d.minute<e.minute ∨
      d.minute=e.minute ∧ d.second<e.second))))

instance (d e : DateTime) : Decidable (Earlier d e) :=
  inferInstanceAs (Decidable (_ ∨ _))

/-- Every month has at least 28 days. -/
theorem daysInMonth_ge (year month : ℕ) : 28≤daysInMonth leap year month := by
  unfold daysInMonth
  split
  · split <;> omega
  · split <;> omega

/-- No month has more than 31 days. -/
theorem daysInMonth_le (year month : ℕ) : daysInMonth leap year month≤31 := by
  unfold daysInMonth
  split
  · split <;> omega
  · split <;> omega

/-- Later months have more days before them. -/
theorem daysBeforeMonth_mono (year : ℕ) {first second : ℕ} (h : first ≤ second) :
    daysBeforeMonth leap year first≤daysBeforeMonth leap year second := by
  induction h with
  | refl => exact Nat.le_refl _
  | step _ ih => exact Nat.le_trans ih (Nat.le_add_right _ _)

/-- Later years have more days before them. -/
theorem daysBeforeYear_mono {first second : ℕ} (h : first ≤ second) :
    daysBeforeYear leap first≤daysBeforeYear leap second := by
  induction h with
  | refl => exact Nat.le_refl _
  | step _ ih => exact Nat.le_trans ih (Nat.le_add_right _ _)

/-- A date lies in its month. -/
theorem month_day_lt {d : DateTime} (h : d.Valid leap) {month : ℕ} (hmonth : d.month ≤ month) :
    daysBeforeMonth leap d.year (d.month-1)+(d.date-1)<daysBeforeMonth leap d.year month := by
  have hpos := h.month_pos
  have hdate := h.date_le
  have hfirst := h.date_pos
  have hnext : daysBeforeMonth leap d.year d.month=
      daysBeforeMonth leap d.year (d.month-1)+daysInMonth leap d.year d.month := by
    obtain ⟨m,hm⟩ := Nat.exists_eq_add_of_le' hpos
    rw [hm]
    rfl
  have hmono := daysBeforeMonth_mono leap d.year hmonth
  omega

/-- A day lies in its year. -/
theorem dayNumber_lt {d : DateTime} (h : d.Valid leap) {year : ℕ} (hyear : d.year<year) :
    dayNumber leap d<daysBeforeYear leap year := by
  have hin := month_day_lt leap h h.month_le
  have hmono := daysBeforeYear_mono leap (Nat.succ_le_of_lt hyear)
  rw [Nat.succ_eq_add_one,daysBeforeYear] at hmono
  unfold dayNumber
  omega

/-- A time of day lies in its day. -/
theorem secondOfDay_lt {d : DateTime} (h : d.Valid leap) : secondOfDay d<86400 := by
  have hhour := h.hour_lt
  have hminute := h.minute_lt
  have hsecond := h.second_lt
  unfold secondOfDay
  omega

/-- An earlier day has a smaller number. -/
theorem toSeconds_lt_of_day {d e : DateTime} (h : d.Valid leap)
    (hday : dayNumber leap d<dayNumber leap e) : toSeconds leap d<toSeconds leap e := by
  have hlt := secondOfDay_lt leap h
  unfold toSeconds
  omega

/-- An earlier date-time has fewer seconds before it. -/
theorem toSeconds_lt_of_earlier {d e : DateTime} (hd : d.Valid leap) (h : Earlier d e) :
    toSeconds leap d<toSeconds leap e := by
  rcases h with hyear|⟨hyear,h⟩
  · refine toSeconds_lt_of_day leap hd (Nat.lt_of_lt_of_le (dayNumber_lt leap hd hyear) ?_)
    unfold dayNumber
    omega
  rcases h with hmonth|⟨hmonth,h⟩
  · have hin := month_day_lt leap hd (show d.month≤e.month-1 by omega)
    refine toSeconds_lt_of_day leap hd ?_
    unfold dayNumber
    rw [hyear] at hin ⊢
    omega
  rcases h with hdate|⟨hdate,h⟩
  · have hpos := hd.date_pos
    refine toSeconds_lt_of_day leap hd ?_
    unfold dayNumber
    rw [hyear,hmonth]
    omega
  · have hday : dayNumber leap d=dayNumber leap e := by
      unfold dayNumber
      rw [hyear,hmonth,hdate]
    have hminute := hd.minute_lt
    have hsecond := hd.second_lt
    unfold toSeconds secondOfDay
    rw [hday]
    omega

/-- Two date-times differ in a first field or not at all. -/
theorem earlier_trichotomy (d e : DateTime) : Earlier d e ∨ d=e ∨ Earlier e d := by
  unfold Earlier
  rw [DateTime.ext_iff]
  omega

/-- The seconds order date-times as their fields do. -/
theorem earlier_iff {d e : DateTime} (hd : d.Valid leap) (he : e.Valid leap) :
    Earlier d e ↔ toSeconds leap d<toSeconds leap e := by
  refine ⟨toSeconds_lt_of_earlier leap hd,fun h => ?_⟩
  rcases earlier_trichotomy d e with hlt|rfl|hgt
  · exact hlt
  · exact absurd h (Nat.lt_irrefl _)
  · exact absurd (toSeconds_lt_of_earlier leap he hgt) (Nat.not_lt_of_ge (Nat.le_of_lt h))

/-- The next day is a date. -/
theorem nextDay_valid {d : DateTime} (h : d.Valid leap) : (nextDay leap d).Valid leap := by
  have hmonth := h.month_pos
  have hfirst := daysInMonth_ge leap d.year (d.month+1)
  have hjanuary := daysInMonth_ge leap (d.year+1) 1
  unfold nextDay
  split
  next hroom => exact ⟨h.month_pos,h.month_le,by simp,hroom,by simp,by simp,by simp⟩
  · split
    next hnext => exact ⟨by simp,hnext,by simp,by dsimp only; omega,by simp,by simp,by simp⟩
    · exact ⟨by simp,by simp,by simp,by dsimp only; omega,by simp,by simp,by simp⟩

/-- The next day has the next number. -/
theorem dayNumber_nextDay {d : DateTime} (h : d.Valid leap) :
    dayNumber leap (nextDay leap d)=dayNumber leap d+1 := by
  have hpos := h.month_pos
  have hle := h.month_le
  have hdate := h.date_pos
  have hlast := h.date_le
  have hnext : daysBeforeMonth leap d.year d.month=
      daysBeforeMonth leap d.year (d.month-1)+daysInMonth leap d.year d.month := by
    obtain ⟨m,hm⟩ := Nat.exists_eq_add_of_le' hpos
    rw [hm]
    rfl
  unfold nextDay dayNumber
  split
  · dsimp only
    omega
  next hfull =>
    split
    · dsimp only
      rw [Nat.add_sub_cancel]
      omega
    next hnot =>
      have hdecember : d.month=12 := by omega
      rw [hdecember] at hnext hlast hfull ⊢
      dsimp only [daysBeforeYear]
      rw [show daysBeforeMonth leap (d.year+1) (1-1)=0 from rfl]
      omega

/-- The date-time one second later is one. -/
theorem nextSecond_valid {d : DateTime} (h : d.Valid leap) : (nextSecond leap d).Valid leap := by
  unfold nextSecond
  split
  next hs => exact {h with second_lt := hs}
  · split
    next hm => exact {h with minute_lt := hm, second_lt := by simp}
    · split
      next hh => exact {h with hour_lt := hh, minute_lt := by simp, second_lt := by simp}
      · exact nextDay_valid leap h

/-- A tick is one second. -/
theorem toSeconds_nextSecond {d : DateTime} (h : d.Valid leap) :
    toSeconds leap (nextSecond leap d)=toSeconds leap d+1 := by
  have hhour := h.hour_lt
  have hminute := h.minute_lt
  have hsecond := h.second_lt
  have hmidnight : secondOfDay (nextDay leap d)=0 := by
    unfold nextDay
    split
    · simp [secondOfDay]
    · split <;> simp [secondOfDay]
  have hday := dayNumber_nextDay leap h
  unfold nextSecond
  split
  · unfold toSeconds dayNumber secondOfDay
    dsimp only
    omega
  · split
    · unfold toSeconds dayNumber secondOfDay
      dsimp only
      omega
    · split
      · unfold toSeconds dayNumber secondOfDay
        dsimp only
        omega
      · unfold toSeconds
        rw [hday,hmidnight]
        unfold secondOfDay
        omega

end WebDataLogger.CivilCalendar
