import WebDataLogger.TransitionRuns
import WebDataLogger.RealTimeClock

/-!
# Reads of the clock across resets

The chip goes on counting while the MCU is reset, and every boot writes the time of
the build to it, or a first part of that time when the transfer breaks off. The reads
stay in order exactly when after every boot enough seconds pass for the clock to reach
what was read before it.
-/

namespace WebDataLogger.RealTimeClockRuns

open TransitionRuns CText CivilCalendar EepromDriver RealTimeClock

/-- What happens to the clock. -/
inductive Event where
  /-- One second passes on the chip. -/
  | tick
  /-- An MCU reset, after which `Init_Analog_service` sets the clock. -/
  | boot (transfer : TransferOutcome)
  /-- `Analog_TASK` reads the clock. -/
  | read (transfer : Status)
  deriving DecidableEq

/-- The chip and the variable `t` of the analog service. -/
structure ClockState where
  chip : Ds3231
  t : RtcTime

/-- `t` before its first read. -/
def zeroTime : RtcTime := ⟨0,0,0,0,0,0,0⟩

/-- The clock under ticks, boots of one firmware image and reads. The successful
reads are observed. -/
def clock (build : BuildTime) : Machine ClockState Event RtcTime where
  step s
    | .tick => ({s with chip := s.chip.tick},[])
    | .boot transfer =>
      match rtcSetFromCompileTime transfer build.dateMacro build.timeMacro s.chip with
      | some set => (⟨set.2,zeroTime⟩,[])
      | none => (⟨s.chip,zeroTime⟩,[])
    | .read transfer =>
      let result := ds3231ReadTime transfer s.chip s.t
      ({s with t := result.2},if result.1=.success then [result.2] else [])

/-- The chip before the first boot: its time is not behind the build. -/
structure FirstPower (build : BuildTime) where
  time : DateTime
  weekday : UInt8
  valid : time.Valid leapYear
  notBehind : ¬Earlier time build.time

/-- State before the first boot. -/
def FirstPower.state {build : BuildTime} (start : FirstPower build) : ClockState :=
  ⟨encodeTime (rtcTimeOf start.time start.weekday),zeroTime⟩

/-- A date-time whose first fields, in the order of the registers, are those of another. -/
def overwritten (d burst : DateTime) (stored : ℕ) : DateTime where
  year := if 6<stored then burst.year else d.year
  month := if 5<stored then burst.month else d.month
  date := if 4<stored then burst.date else d.date
  hour := if 2<stored then burst.hour else d.hour
  minute := if 1<stored then burst.minute else d.minute
  second := if 0<stored then burst.second else d.second

/-- What a boot leaves of the date-time on the clock. -/
def afterBoot (build : BuildTime) (transfer : TransferOutcome) (d : DateTime) : DateTime :=
  match transfer with
  | .success => build.time
  | .failed stored => overwritten d build.time stored

/-- The date-time on the clock after some events. -/
def shownAfter (build : BuildTime) (first : DateTime) (events : List Event) : DateTime :=
  events.foldl (fun d e => match e with
    | .tick => nextSecond leapYear d
    | .boot transfer => afterBoot build transfer d
    | .read _ => d) first

/-- The clock always shows a date of the years 2000 to 2099. A transfer that breaks off
can leave a day that its month does not have, from which the chip does not count. -/
def WithinCentury (build : BuildTime) (first : DateTime) (events : List Event) : Prop :=
  ∀ past, past<+:events →
    (shownAfter build first past).Valid leapYear ∧ (shownAfter build first past).year<100

/-- No read shows a date-time earlier than one read before it. -/
def ReadsInOrder {build : BuildTime} (start : FirstPower build) (events : List Event) : Prop :=
  ((clock build).trace start.state events).Pairwise (fun a b => ¬Earlier b.dateTime a.dateTime)

/-- From the last boot before a read to that read at least as many seconds pass as the
boot has set the clock behind any read before it. -/
def CatchesUp (build : BuildTime) (first : DateTime) (events : List Event) : Prop :=
  ∀ (before between last after : List Event) (transfer : TransferOutcome),
    events=before++.read .success::((between++.boot transfer::last)++.read .success::after) →
      (∀ transfer, .boot transfer∉last) →
        toSeconds leapYear (shownAfter build first before)≤
          toSeconds leapYear (afterBoot build transfer
            (shownAfter build first (before++.read .success::between)))+last.count .tick

/-- What the clock shows after one more event. -/
theorem shownAfter_snoc (build : BuildTime) (first : DateTime) (events : List Event) (e : Event) :
    shownAfter build first (events++[e])=(match e with
      | .tick => nextSecond leapYear (shownAfter build first events)
      | .boot transfer => afterBoot build transfer (shownAfter build first events)
      | .read _ => shownAfter build first events) := by
  rw [shownAfter,List.foldl_append]
  rfl

/-- Where every burst gets through, the clock shows a date. -/
theorem shownAfter_valid {build : BuildTime} {first : DateTime} {events : List Event}
    (hfirst : first.Valid leapYear) (h : ∀ stored, .boot (.failed stored)∉events) :
    (shownAfter build first events).Valid leapYear := by
  induction events using List.reverseRecOn with
  | nil => exact hfirst
  | append_singleton events e ih =>
    have hbefore := ih fun stored hmem => h stored (List.mem_append_left _ hmem)
    rw [shownAfter_snoc]
    cases e with
    | tick => exact nextSecond_valid leapYear hbefore
    | boot transfer =>
      cases transfer with
      | success => exact build.valid
      | failed stored => exact absurd (List.mem_append_right _ List.mem_cons_self) (h stored)
    | read transfer => exact hbefore

/-- So only bursts that break off ask for more than a year of the century. -/
theorem withinCentury_iff {build : BuildTime} (start : FirstPower build) {events : List Event}
    (h : ∀ stored, .boot (.failed stored)∉events) : WithinCentury build start.time events ↔
      ∀ past, past<+:events → (shownAfter build start.time past).year<100 :=
  forall₂_congr fun _ hpast => and_iff_right
    (shownAfter_valid start.valid fun stored hmem => h stored (hpast.subset hmem))

/-- A run within the century was so before. -/
theorem WithinCentury.before {build : BuildTime} {first : DateTime} {events past : List Event}
    (h : WithinCentury build first events) (hpast : past<+:events) :
    WithinCentury build first past := fun earlier hearlier => h earlier (hearlier.trans hpast)

/-- Without a boot every tick is a second. -/
theorem shownAfter_append {build : BuildTime} {first : DateTime} {events last : List Event}
    (hcentury : WithinCentury build first (events++last)) (h : ∀ transfer, .boot transfer∉last) :
    toSeconds leapYear (shownAfter build first (events++last))=
      toSeconds leapYear (shownAfter build first events)+last.count .tick := by
  induction last using List.reverseRecOn with
  | nil => simp
  | append_singleton last e ih =>
    rw [←List.append_assoc] at hcentury ⊢
    have hbefore := hcentury.before (List.prefix_append (events++last) [e])
    have hlast := ih hbefore fun transfer hmem => h transfer (List.mem_append_left _ hmem)
    obtain ⟨hvalid,-⟩ := hbefore _ (List.prefix_refl _)
    rw [List.count_append,←Nat.add_assoc,←hlast,shownAfter_snoc]
    generalize shownAfter build first (events++last)=d at hvalid
    cases e with
    | tick => exact toSeconds_nextSecond leapYear hvalid
    | boot transfer => exact absurd (List.mem_append_right _ List.mem_cons_self) (h transfer)
    | read transfer => exact (Nat.add_zero _).symm

/-- Events without a boot, or a last boot among them. -/
theorem last_boot (events : List Event) : (∀ transfer, .boot transfer∉events) ∨
    ∃ between transfer last, events=between++.boot transfer::last ∧
      ∀ transfer, .boot transfer∉last := by
  induction events using List.reverseRecOn with
  | nil => exact Or.inl fun _ => List.not_mem_nil
  | append_singleton events e ih =>
    have hsnoc : ∀ last : List Event, (∀ transfer, .boot transfer∉last) →
        (∀ transfer, e≠.boot transfer) → ∀ transfer, .boot transfer∉last++[e] := by
      intro last hlast he transfer hmem
      rcases List.mem_append.mp hmem with hmem|hmem
      · exact hlast transfer hmem
      · exact he transfer (List.mem_singleton.mp hmem).symm
    by_cases he : ∃ transfer, e=.boot transfer
    · obtain ⟨transfer,rfl⟩ := he
      exact Or.inr ⟨events,transfer,[],rfl,fun _ => List.not_mem_nil⟩
    · have he := not_exists.mp he
      rcases ih with hnone|⟨between,transfer,last,rfl,hlast⟩
      · exact Or.inl (hsnoc events hnone he)
      · exact Or.inr ⟨between,transfer,last++[e],by simp,hsnoc last hlast he⟩

/-- The chip shows a date-time. -/
def Shows (d : DateTime) (chip : Ds3231) : Prop := ∃ day, chip=encodeTime (rtcTimeOf d day)

/-- What is read from the chip. -/
theorem Shows.decode {d : DateTime} {chip : Ds3231} (h : Shows d chip) (hvalid : d.Valid leapYear)
    (hyear : d.year<100) : (decodeTime chip).dateTime=d := by
  obtain ⟨day,rfl⟩ := h
  rw [decodeTime_encodeTime hvalid,dateTime_rtcTimeOf hvalid hyear]

/-- A tick of the chip is one second. -/
theorem Shows.tick {d : DateTime} {chip : Ds3231} (h : Shows d chip) (hvalid : d.Valid leapYear)
    (hyear : d.year<100) : Shows (nextSecond leapYear d) chip.tick := by
  rw [Ds3231.tick,h.decode hvalid hyear]
  exact ⟨_,rfl⟩

/-- A burst that breaks off leaves a first part of its date-time on the chip. -/
theorem Shows.store {d : DateTime} {chip : Ds3231} (h : Shows d chip) (burst : DateTime)
    (day : UInt8) (stored : ℕ) :
    Shows (overwritten d burst stored) (chip.store (encodeTime (rtcTimeOf burst day)) stored) := by
  obtain ⟨day',rfl⟩ := h
  refine ⟨if 3<stored then day else day',?_⟩
  simp only [Ds3231.store,encodeTime,rtcTimeOf,overwritten,apply_ite Nat.toUInt8,
    apply_ite dec2bcd,apply_ite (fun year => year%100)]

/-- One event keeps what the chip shows. -/
theorem shows_step {build : BuildTime} {first : DateTime} {past : List Event} {s : ClockState}
    (e : Event) (h : Shows (shownAfter build first past) s.chip)
    (hcentury : WithinCentury build first past) :
    Shows (shownAfter build first (past++[e])) ((clock build).step s e).1.chip := by
  obtain ⟨hvalid,hyear⟩ := hcentury past (List.prefix_refl past)
  rw [shownAfter_snoc]
  have hset : ∀ transfer, rtcSetFromCompileTime transfer build.dateMacro build.timeMacro s.chip=
      some (ds3231SetTime transfer s.chip (rtcTimeOf build.time 1)) := fun transfer => by
    rw [rtcSetFromCompileTime,compileTimeFields_build]
    rfl
  cases e with
  | tick => exact h.tick hvalid hyear
  | boot transfer =>
    simp only [clock,hset]
    cases transfer with
    | success => exact ⟨1,rfl⟩
    | failed stored => exact h.store build.time 1 stored
  | read transfer => cases transfer <;> exact h

/-- The chip shows the date-time of the clock after every run. -/
theorem shows_run {build : BuildTime} (start : FirstPower build) {events : List Event}
    (hcentury : WithinCentury build start.time events) :
    Shows (shownAfter build start.time events) ((clock build).run start.state events).chip := by
  refine (clock build).history_invariant (fun before _ s =>
    Shows (shownAfter build start.time before) s.chip) ⟨start.weekday,rfl⟩ ?_
  intro before e _ s hbefore h
  exact shows_step e h (hcentury.before ((List.prefix_append before [e]).trans hbefore))

/-- What a read observes and when. -/
theorem mem_step {build : BuildTime} {s : ClockState} {e : Event} {t : RtcTime} :
    t∈((clock build).step s e).2 ↔ e=.read .success ∧ t=decodeTime s.chip := by
  rcases e with _|transfer|(_|_)
  · simp [clock]
  · simp only [clock]
    split <;> simp
  · simp [clock,ds3231ReadTime]
  · simp [clock,ds3231ReadTime]

/-- No event observes two times. -/
theorem step_pairwise {build : BuildTime} (s : ClockState) (e : Event)
    (R : RtcTime → RtcTime → Prop) : ((clock build).step s e).2.Pairwise R := by
  rcases e with _|transfer|(_|_)
  · exact List.Pairwise.nil
  · simp only [clock]
    split <;> exact List.Pairwise.nil
  · exact List.pairwise_singleton _ _
  · exact List.Pairwise.nil

/-- Two reads are in order when the clock has not gone back between them. -/
theorem read_order {build : BuildTime} (start : FirstPower build) {events first second : List Event}
    (hcentury : WithinCentury build start.time events) (hfirst : first<+:events)
    (hsecond : second<+:events) :
    ¬Earlier (decodeTime ((clock build).run start.state second).chip).dateTime
        (decodeTime ((clock build).run start.state first).chip).dateTime ↔
      toSeconds leapYear (shownAfter build start.time first)≤
        toSeconds leapYear (shownAfter build start.time second) := by
  obtain ⟨hvalid,hyear⟩ := hcentury first hfirst
  obtain ⟨hvalid',hyear'⟩ := hcentury second hsecond
  rw [(shows_run start (hcentury.before hfirst)).decode hvalid hyear,
    (shows_run start (hcentury.before hsecond)).decode hvalid' hyear',
    earlier_iff leapYear hvalid' hvalid,Nat.not_lt]

/-- Reads are in order when the clock does not go back from one to another. -/
theorem readsInOrder_iff_shown {build : BuildTime} (start : FirstPower build) {events : List Event}
    (hcentury : WithinCentury build start.time events) :
    ReadsInOrder start events ↔ ∀ past mid rest : List Event,
      events=past++.read .success::(mid++.read .success::rest) →
        toSeconds leapYear (shownAfter build start.time past)≤
          toSeconds leapYear (shownAfter build start.time (past++.read .success::mid)) := by
  have hreached : ∀ past mid rest : List Event, events=past++.read .success::(mid++.read .success::rest) →
      past<+:events ∧ past++.read .success::mid<+:events := fun past mid rest hsplit =>
    ⟨⟨_,hsplit.symm⟩,⟨.read .success::rest,by rw [hsplit]; simp⟩⟩
  unfold ReadsInOrder
  rw [Machine.trace_pairwise_iff]
  constructor
  · rintro ⟨-,hacross⟩ past mid rest hsplit
    obtain ⟨hpast,hmid⟩ := hreached past mid rest hsplit
    exact (read_order start hcentury hpast hmid).mp (hacross past _ mid _ rest hsplit _
      (mem_step.mpr ⟨rfl,rfl⟩) _ (mem_step.mpr ⟨rfl,rfl⟩))
  · intro hshown
    refine ⟨fun past e rest _ => step_pairwise _ e _,?_⟩
    intro past e mid e' rest hsplit o ho o' ho'
    obtain ⟨rfl,rfl⟩ := mem_step.mp ho
    obtain ⟨rfl,rfl⟩ := mem_step.mp ho'
    obtain ⟨hpast,hmid⟩ := hreached past mid rest hsplit
    exact (read_order start hcentury hpast hmid).mpr (hshown past mid rest hsplit)

/-- What the clock shows at a read after a boot. -/
theorem shown_after_boot {build : BuildTime} {first : DateTime} {past last rest : List Event}
    {transfer : TransferOutcome}
    (hcentury : WithinCentury build first (past++.boot transfer::(last++rest)))
    (hlast : ∀ transfer, .boot transfer∉last) :
    toSeconds leapYear (shownAfter build first (past++.boot transfer::last))=
      toSeconds leapYear (afterBoot build transfer (shownAfter build first past))+
        last.count .tick := by
  have hsplit : past++.boot transfer::last=(past++[.boot transfer])++last := by simp
  have hreached : past++.boot transfer::last<+:past++.boot transfer::(last++rest) :=
    ⟨rest,by simp⟩
  have hbefore := hcentury.before hreached
  rw [hsplit] at hbefore ⊢
  rw [shownAfter_append hbefore hlast,shownAfter_snoc]

/-- In every run that stays within the century, the clock never runs backwards exactly when
after every boot it catches up with the reads before that boot. -/
theorem reads_in_order_iff {build : BuildTime} (start : FirstPower build) (events : List Event)
    (hcentury : WithinCentury build start.time events) :
    ReadsInOrder start events ↔ CatchesUp build start.time events := by
  rw [readsInOrder_iff_shown start hcentury]
  have hboot : ∀ (past between last rest : List Event) (transfer : TransferOutcome),
      events=past++.read .success::((between++.boot transfer::last)++.read .success::rest) →
      (∀ transfer, .boot transfer∉last) →
        toSeconds leapYear (shownAfter build start.time
            (past++.read .success::(between++.boot transfer::last)))=
          toSeconds leapYear (afterBoot build transfer (shownAfter build start.time
            (past++.read .success::between)))+last.count .tick := by
    intro past between last rest transfer hsplit hlast
    have hset : past++Event.read .success::(between++.boot transfer::last)=
        (past++.read .success::between)++.boot transfer::last := by simp
    rw [hset]
    refine @shown_after_boot build start.time _ last (.read .success::rest) transfer ?_ hlast
    rw [hsplit] at hcentury
    simpa using hcentury
  constructor
  · intro h before between last after transfer hsplit hlast
    rw [←hboot before between last after transfer hsplit hlast]
    exact h before _ after hsplit
  · intro h past mid rest hsplit
    rcases last_boot mid with hnone|⟨between,transfer,last,rfl,hlast⟩
    · have hmid : past++.read .success::mid<+:events :=
        ⟨.read .success::rest,by rw [hsplit]; simp⟩
      rw [shownAfter_append (hcentury.before hmid) (by simp [hnone])]
      exact Nat.le_add_right _ _
    · rw [hboot past between last rest transfer hsplit hlast]
      exact h past between last rest transfer hsplit hlast

/-- Whether a run stays within the century can be checked. -/
instance (build : BuildTime) (first : DateTime) (events : List Event) :
    Decidable (WithinCentury build first events) :=
  decidable_of_iff (∀ past∈events.inits,
      (shownAfter build first past).Valid leapYear ∧ (shownAfter build first past).year<100)
    (by simp [WithinCentury,List.mem_inits])

/-- A firmware built on 25 September 2026 at noon. -/
def noonBuild : BuildTime where
  time := ⟨26,9,25,12,0,0⟩
  valid := by decide
  year_lt := by decide

/-- A clock that shows the time of that build. -/
def noonPower : FirstPower noonBuild where
  time := ⟨26,9,25,12,0,0⟩
  weekday := 5
  valid := noonBuild.valid
  notBehind := by decide

/-- Two boots, of which the second writes the seconds only. The clock catches up with both. -/
def noonRun : List Event :=
  [.boot .success,.tick,.read .success,.boot .success,.tick,.read .success,.tick,.read .success,
    .boot (.failed 1),.tick,.tick,.read .success]

/-- The reads of that run are in order, and the clock catches up. -/
theorem noon_reads_in_order :
    ReadsInOrder noonPower noonRun ∧ CatchesUp noonBuild noonPower.time noonRun := by
  have horder : ReadsInOrder noonPower noonRun := by
    unfold ReadsInOrder
    decide
  exact ⟨horder,(reads_in_order_iff noonPower noonRun (by decide)).mp horder⟩

/-- A read one second after a boot, a reset and the next read: the clock went back
by that second. -/
theorem reset_turns_clock_back :
    WithinCentury noonBuild noonPower.time
        [.boot .success,.tick,.read .success,.boot .success,.read .success] ∧
      ¬ReadsInOrder noonPower
        [.boot .success,.tick,.read .success,.boot .success,.read .success] := by
  refine ⟨by decide,?_⟩
  unfold ReadsInOrder
  decide

end WebDataLogger.RealTimeClockRuns
