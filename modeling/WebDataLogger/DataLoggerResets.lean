import Mathlib.Algebra.BigOperators.Group.List.Basic
import WebDataLogger.DataLoggerRuns

/-!
# The logged history across resets

A reset restarts both indices at zero while the records stay in the EEPROM. The
rings go on as one history exactly when every boot that writes records starts at
a whole number of rounds; a reset in the middle of a round lets the next boot
overwrite records that are still among the last ones.
-/

namespace WebDataLogger.DataLoggerResets

open TransitionRuns FlatStore EepromDriver RingLog DataLogger DataLoggerRuns

/-- A bus on which all transfers succeed. -/
def workingBus : Outcomes := fun _ => .success

/-- One boot until the next reset: `Init_Data_Logger_service` runs the self test of
the EEPROM, whose result it ignores, and the task starts with a fresh RAM. -/
def boot (bus : I2cBus) (snapshots : List Snapshots) : I2cBus×List WriteAttempt :=
  let ready := (eepromInit workingBus bus).2
  ((loggerRun workingBus ready snapshots).bus,loggerTrace workingBus ready snapshots)

/-- The logger across resets, one boot per step. -/
def resettingLogger : Machine I2cBus (List Snapshots) WriteAttempt where
  step := boot

/-- Records written to a ring in a sequence of boots, oldest first. -/
abbrev history (p : Partition) (bus : I2cBus) (boots : List (List Snapshots)) : List LogRecord :=
  recordsOf p (resettingLogger.trace bus boots)

/-- The last records, as many as a ring has slots, are stored there, each in a slot of its
own. -/
def KeptApart (start slots : ℕ) (memory : ℕ → UInt8) (records : List LogRecord) : Prop :=
  ∃ slot : ℕ → ℕ, Set.InjOn slot {k | k<records.length ∧ records.length≤k+slots} ∧
    ∀ k record, records[k]?=some record → records.length≤k+slots →
      slot k<slots ∧ HoldsAt memory (start+12*slot k) 12 (recordData record)

/-- The last round of records of both rings is still stored. -/
structure HistoryKept (bus : I2cBus) (boots : List (List Snapshots)) : Prop where
  highRes : KeptApart 0 120 (flat (resettingLogger.run bus boots).memory)
    (history .highRes bus boots)
  longTerm : KeptApart 1440 72 (flat (resettingLogger.run bus boots).memory)
    (history .longTerm bus boots)

/-- Every boot long enough to write to a ring starts when the boots before it have
filled whole rounds of that ring. The boots are given by their iterations. -/
def RoundsComplete (iterations : List ℕ) : Prop :=
  ∀ before n after, iterations=before++n::after →
    (600≤n → 120∣(before.map (·/600)).sum) ∧ (12000≤n → 72∣(before.map (·/12000)).sum)

/-- The self test succeeds and leaves the memory as it was. -/
theorem ready_memory (bus : I2cBus) :
    AgreeBelow 4096 (flat bus.memory) (flat (eepromInit workingBus bus).2.memory) :=
  (eepromInit_success workingBus bus fun _ => rfl).2.symm

/-- A working bus stores one record of each ring for every period. -/
theorem trace_counts (bus : I2cBus) (snapshots : List Snapshots) :
    (recordsOf .highRes (loggerTrace workingBus bus snapshots)).length=snapshots.length/600 ∧
      (recordsOf .longTerm (loggerTrace workingBus bus snapshots)).length=
        snapshots.length/12000 := by
  induction snapshots using List.reverseRecOn with
  | nil => exact ⟨rfl,rfl⟩
  | append_singleton before now ih =>
    obtain ⟨hhigh,hlong⟩ := (loggerStep_of_run workingBus bus before now).counts fun _ => rfl
    obtain ⟨ihHigh,ihLong⟩ := ih
    simp only [loggerTrace,Machine.trace_snoc,recordsOf_append,List.length_append,
      List.length_singleton,Nat.succ_div]
    exact ⟨by rw [ihHigh,hhigh],by rw [ihLong,hlong]⟩

/-- Before the first period is complete the bus is not used. -/
theorem quiet_run (bus : I2cBus) {snapshots : List Snapshots} (hshort : snapshots.length<600) :
    (loggerRun workingBus bus snapshots).bus=bus := by
  induction snapshots using List.reverseRecOn with
  | nil => rfl
  | append_singleton before now ih =>
    rw [List.length_append,List.length_singleton] at hshort
    have hnot : ¬600∣before.length+1 := Nat.not_dvd_of_pos_of_lt (Nat.succ_pos _) hshort
    have hquiet := (loggerStep_of_run workingBus bus before now).quiet hnot
    rw [loggerRun,Machine.run_snoc,hquiet]
    exact ih (by omega)

/-- Before the first long period is complete only the first ring is written. -/
theorem longTermQuiet_run (bus : I2cBus) {snapshots : List Snapshots}
    (hshort : snapshots.length<12000) {a : ℕ} (hlow : 1440≤a) (hbound : a<4096) :
    flat (loggerRun workingBus bus snapshots).bus.memory a=flat bus.memory a := by
  induction snapshots using List.reverseRecOn with
  | nil => rfl
  | append_singleton before now ih =>
    rw [List.length_append,List.length_singleton] at hshort
    have hnot : ¬12000∣before.length+1 := Nat.not_dvd_of_pos_of_lt (Nat.succ_pos _) hshort
    have hquiet := (loggerStep_of_run workingBus bus before now).longTermQuiet hnot
    rw [loggerRun,Machine.run_snoc,hquiet a hlow hbound]
    exact ih (by omega)

/-- Slots of the first ring that a boot has not reached keep their bytes. -/
theorem unreached_slots (bus : I2cBus) {snapshots : List Snapshots}
    (hround : snapshots.length/600≤120) {a : ℕ} (hlow : 12*(snapshots.length/600)≤a)
    (hbound : a<1440) :
    flat (loggerRun workingBus bus snapshots).bus.memory a=flat bus.memory a := by
  induction snapshots using List.reverseRecOn with
  | nil => rfl
  | append_singleton before now ih =>
    rw [List.length_append,List.length_singleton] at hround hlow
    have hmono : before.length/600≤(before.length+1)/600 :=
      Nat.div_le_div_right (Nat.le_succ before.length)
    have hstep := loggerStep_of_run workingBus bus before now
    rw [loggerRun,Machine.run_snoc]
    by_cases hdue : 600∣before.length+1
    · have hslot := hstep.highResSlot a hbound
      rw [(trace_counts bus before).1] at hslot
      rw [Nat.succ_div_of_dvd hdue] at hround hlow
      rw [Nat.mod_eq_of_lt (by omega)] at hslot
      rw [hslot (by omega)]
      exact ih (by omega) (by omega)
    · rw [hstep.quiet hdue]
      exact ih (by omega) (by omega)

/-- The last round of a ring's records is in its slots. -/
abbrev RingKept (layout : PartitionLayout) (bus : I2cBus) (records : List LogRecord) : Prop :=
  Retains layout.maxRecords.toNat layout.maxRecords.toNat records.length
    (SlotHolds layout (flat bus.memory) records)

/-- Equal bytes in a ring keep its records. -/
theorem RingKept.frame {layout : PartitionLayout} {bus bus' : I2cBus} {records : List LogRecord}
    (h : RingKept layout bus records) (hsame : ∀ a, layout.start.toNat≤a →
      a<layout.start.toNat+12*layout.maxRecords.toNat →
        flat bus'.memory a=flat bus.memory a) : RingKept layout bus' records := by
  refine h.mono fun k hk hslot record hrecord j hj => ?_
  have hlt := Nat.mod_lt k layout.maxRecords_pos
  rw [hsame _ (by omega) (by omega)]
  exact hslot record hrecord j hj

/-- The records of a boot that starts at a whole round continue the first ring. -/
theorem boot_highRes {bus : I2cBus} {records : List LogRecord} (snapshots : List Snapshots)
    (h : RingKept highResLayout bus records)
    (hround : 600 ≤ snapshots.length → 120∣records.length) :
    RingKept highResLayout (boot bus snapshots).1
      (records++recordsOf .highRes (boot bus snapshots).2) := by
  have hready := ready_memory bus
  have hstart : RingKept highResLayout (eepromInit workingBus bus).2 records :=
    h.frame fun a _ hbound => (hready a (Nat.lt_trans hbound (by decide))).symm
  unfold boot
  dsimp only
  generalize (eepromInit workingBus bus).2=ready at hstart ⊢
  rcases Nat.lt_or_ge snapshots.length 600 with hshort|hlong
  · have hcount := (trace_counts ready snapshots).1
    rw [Nat.div_eq_of_lt hshort,List.length_eq_zero_iff] at hcount
    rw [hcount,List.append_nil,quiet_run ready hshort]
    exact hstart
  · have hinv : LoggerInv 0 0 (flat ready.memory) records [] (taskStart ready) :=
      ⟨ringInv_start (Nat.mod_eq_zero_of_dvd (hround hlong)) hstart,
        ringInv_start rfl (retains_zero _ _ _),fun _ _ _ => rfl⟩
    exact (loggerInv_run hinv (Or.inr ⟨rfl,fun _ => rfl⟩) snapshots).highRes.kept

/-- The records of a boot that starts at a whole round continue the second ring. -/
theorem boot_longTerm {bus : I2cBus} {records : List LogRecord} (snapshots : List Snapshots)
    (h : RingKept longTermLayout bus records)
    (hround : 12000 ≤ snapshots.length → 72∣records.length) :
    RingKept longTermLayout (boot bus snapshots).1
      (records++recordsOf .longTerm (boot bus snapshots).2) := by
  have hready := ready_memory bus
  have hstart : RingKept longTermLayout (eepromInit workingBus bus).2 records :=
    h.frame fun a _ hbound => (hready a (Nat.lt_trans hbound (by decide))).symm
  unfold boot
  dsimp only
  generalize (eepromInit workingBus bus).2=ready at hstart ⊢
  rcases Nat.lt_or_ge snapshots.length 12000 with hshort|hlong
  · have hcount := (trace_counts ready snapshots).2
    rw [Nat.div_eq_of_lt hshort,List.length_eq_zero_iff] at hcount
    rw [hcount,List.append_nil]
    exact hstart.frame fun a hlow hbound =>
      longTermQuiet_run ready hshort hlow (Nat.lt_trans hbound (by decide))
  · have hinv : LoggerInv 0 0 (flat ready.memory) [] records (taskStart ready) :=
      ⟨ringInv_start rfl (retains_zero _ _ _),
        ringInv_start (Nat.mod_eq_zero_of_dvd (hround hlong)) hstart,fun _ _ _ => rfl⟩
    exact (loggerInv_run hinv (Or.inr ⟨rfl,fun _ => rfl⟩) snapshots).longTerm.kept

/-- Records of a sequence of boots, counted from their iterations. -/
theorem history_length (bus : I2cBus) (boots : List (List Snapshots)) :
    (history .highRes bus boots).length=((boots.map List.length).map (·/600)).sum ∧
      (history .longTerm bus boots).length=((boots.map List.length).map (·/12000)).sum := by
  induction boots using List.reverseRecOn with
  | nil => exact ⟨rfl,rfl⟩
  | append_singleton before snapshots ih =>
    obtain ⟨hhigh,hlong⟩ :=
      trace_counts (eepromInit workingBus (resettingLogger.run bus before)).2 snapshots
    obtain ⟨ihHigh,ihLong⟩ := ih
    simp only [history,Machine.trace_snoc,recordsOf_append,List.length_append,List.map_append,
      List.sum_append,List.map_cons,List.map_nil,List.sum_singleton]
    exact ⟨congrArg₂ _ ihHigh hhigh,congrArg₂ _ ihLong hlong⟩

/-- Both rings keep their last round as long as rounds are complete. -/
theorem rings_kept (bus : I2cBus) {boots : List (List Snapshots)}
    (h : RoundsComplete (boots.map List.length)) :
    RingKept highResLayout (resettingLogger.run bus boots) (history .highRes bus boots) ∧
      RingKept longTermLayout (resettingLogger.run bus boots) (history .longTerm bus boots) := by
  induction boots using List.reverseRecOn with
  | nil => exact ⟨retains_zero _ _ _,retains_zero _ _ _⟩
  | append_singleton before snapshots ih =>
    have hbefore : RoundsComplete (before.map List.length) := by
      intro past n after hsplit
      refine h past n (after++[snapshots.length]) ?_
      rw [List.map_append,hsplit,List.append_assoc]
      rfl
    obtain ⟨hhigh,hlong⟩ := ih hbefore
    obtain ⟨hhighCount,hlongCount⟩ := history_length bus before
    obtain ⟨hhighRound,hlongRound⟩ := h (before.map List.length) snapshots.length [] (by simp)
    rw [←hhighCount] at hhighRound
    rw [←hlongCount] at hlongRound
    simp only [history,Machine.trace_snoc,Machine.run_snoc,recordsOf_append]
    exact ⟨boot_highRes snapshots hhigh hhighRound,boot_longTerm snapshots hlong hlongRound⟩

/-- A ring that keeps its last round keeps its records apart. -/
theorem RingKept.apart {layout : PartitionLayout} {bus : I2cBus} {records : List LogRecord}
    (h : RingKept layout bus records) :
    KeptApart layout.start.toNat layout.maxRecords.toNat (flat bus.memory) records := by
  refine ⟨fun k => k%layout.maxRecords.toNat,slot_injOn _ _,fun k record hrecord hlast => ?_⟩
  exact ⟨Nat.mod_lt k layout.maxRecords_pos,
    h k (List.getElem?_eq_some_iff.mp hrecord).1 hlast record hrecord⟩

/-- Rounds stay complete when the run is cut off inside a boot. -/
theorem RoundsComplete.truncate {before after : List ℕ} {n m : ℕ}
    (h : RoundsComplete (before++(n+m)::after)) : RoundsComplete (before++[n]) := by
  have hlast : (600≤n → 120∣(before.map (·/600)).sum) ∧
      (12000≤n → 72∣(before.map (·/12000)).sum) := by
    obtain ⟨hhigh,hlong⟩ := h before (n+m) after rfl
    exact ⟨fun hn => hhigh (by omega),fun hn => hlong (by omega)⟩
  intro past k rest hsplit
  rcases List.append_eq_append_iff.mp hsplit with ⟨front,hpast,hn⟩|⟨back,hbefore,hk⟩
  · cases front with
    | nil =>
      obtain ⟨rfl,-⟩ := List.cons.inj hn
      rw [hpast,List.append_nil]
      exact hlast
    | cons x front =>
      have hlength := congrArg List.length hn
      simp at hlength
  · cases back with
    | nil =>
      obtain ⟨rfl,-⟩ := List.cons.inj hk
      rw [List.append_nil] at hbefore
      rw [←hbefore]
      exact hlast
    | cons x back =>
      obtain ⟨rfl,-⟩ := List.cons.inj hk
      exact h past k (back++(n+m)::after) (by rw [hbefore,List.append_assoc]; rfl)

/-- In every run whose boots complete their rounds, the last round of records of
both rings is stored in every state reached. -/
theorem history_survives (bus : I2cBus) (boots : List (List Snapshots))
    (h : RoundsComplete (boots.map List.length)) (past : List (List Snapshots))
    (current later : List Snapshots) (rest : List (List Snapshots))
    (hreached : boots=past++(current++later)::rest) : HistoryKept bus (past++[current]) := by
  have hcut : RoundsComplete ((past++[current]).map List.length) := by
    rw [hreached,List.map_append,List.map_cons,List.length_append] at h
    rw [List.map_append]
    exact h.truncate
  obtain ⟨hhigh,hlong⟩ := rings_kept bus hcut
  exact ⟨hhigh.apart,hlong.apart⟩

/-- A blank device. -/
def blankBus : I2cBus := ⟨fun _ _ => 0xFF,0⟩

/-- `g_CurrentSensorMetrics`, which no code writes. -/
def untouched : LogRecord := ⟨0,0,0,0,0⟩

/-- A boot of some iterations. -/
def bootOf (iterations : ℕ) : List Snapshots := List.replicate iterations ⟨untouched,untouched⟩

/-- A reset before the first record, a boot of twelve rounds of the first ring and one of the
second, and a boot of twenty minutes seen after half of them. -/
theorem history_survives_full_round :
    RoundsComplete [599,864000,24000] ∧
      HistoryKept blankBus ([bootOf 599,bootOf 864000]++[bootOf 12000]) := by
  have hrounds : RoundsComplete [599,864000,24000] := by
    intro before n after hsplit
    match before,hsplit with
    | [],_ => exact ⟨fun _ => Nat.dvd_zero _,fun _ => Nat.dvd_zero _⟩
    | [x],h =>
      obtain ⟨rfl,-⟩ := List.cons.inj h
      exact ⟨fun _ => Nat.dvd_zero _,fun _ => Nat.dvd_zero _⟩
    | [x,y],h =>
      obtain ⟨rfl,h'⟩ := List.cons.inj h
      obtain ⟨rfl,-⟩ := List.cons.inj h'
      exact ⟨fun _ => by decide,fun _ => by decide⟩
    | x::y::z::before,h =>
      have hlength := congrArg List.length h
      simp at hlength
  refine ⟨hrounds,history_survives blankBus _ ?_ _ _ (bootOf 12000) [] rfl⟩
  simp only [List.cons_append,List.nil_append,List.map_cons,List.map_nil,List.length_append,
    bootOf,List.length_replicate]
  exact hrounds

/-- Every record of a run is one of its snapshots. -/
theorem record_of_snapshot {outcomes : Outcomes} {bus : I2cBus} {snapshots : List Snapshots}
    {record : LogRecord} (h : record∈recordsOf .highRes (loggerTrace outcomes bus snapshots)) :
    ∃ now∈snapshots, record=now.highRes := by
  obtain ⟨attempt,hattempt,hrecord⟩ := List.mem_map.mp h
  obtain ⟨hmem,hkind⟩ := List.mem_filter.mp hattempt
  obtain ⟨past,now,future,hsplit,hstep⟩ := Machine.exists_step_of_mem_trace _ hmem
  refine ⟨now,by rw [hsplit]; simp,?_⟩
  rcases dataLoggerTask_attempt attempt hstep with ⟨-,hsource⟩|⟨hlong,-⟩
  · rw [←hrecord,hsource]
  · simp [hlong] at hkind

/-- A boot that ends after its first record wrote slot 0 of the first ring. -/
theorem boot_one_record (bus : I2cBus) {snapshots : List Snapshots} {now : Snapshots}
    (hperiod : snapshots.length=600) (hsteady : ∀ x∈snapshots, x=now) :
    recordsOf .highRes (boot bus snapshots).2=[now.highRes] ∧
      HoldsAt (flat (boot bus snapshots).1.memory) 0 12 (recordData now.highRes) ∧
      ∀ a, 12≤a → a<1440 → flat (boot bus snapshots).1.memory a=flat bus.memory a := by
  have hready := ready_memory bus
  unfold boot
  dsimp only
  generalize (eepromInit workingBus bus).2=ready at hready ⊢
  have hone : snapshots.length/600=1 := by rw [hperiod]
  have hrecords : recordsOf .highRes (loggerTrace workingBus ready snapshots)=[now.highRes] := by
    refine List.eq_replicate_iff.mpr ⟨(trace_counts ready snapshots).1.trans hone,fun record h => ?_⟩
    obtain ⟨source,hsource,hrecord⟩ := record_of_snapshot h
    rw [hrecord,hsteady source hsource]
  refine ⟨hrecords,?_,fun a hlow hbound => ?_⟩
  · have hkept := (loggerInv_of_run workingBus ready snapshots).highRes.kept
    rw [hrecords] at hkept
    exact hkept 0 Nat.one_pos (by rw [List.length_singleton]; omega) now.highRes rfl
  · rw [unreached_slots ready (by omega) (by omega) hbound,hready a (Nat.lt_trans hbound (by decide))]

/-- A record is lost when a reset stands between it and the next one: both were written to
slot 0, and the others are blank. -/
theorem second_boot_overwrites {first second : List Snapshots} {earlier later : Snapshots}
    (hfirst : first.length=600) (hfirstSteady : ∀ x∈first, x=earlier)
    (hsecond : second.length=600) (hsecondSteady : ∀ x∈second, x=later)
    (hearlier : recordData earlier.highRes 4≠0xFF) (hlater : recordData later.highRes 4≠0xFF) :
    ¬HistoryKept blankBus [first,second] := by
  intro h
  obtain ⟨hrecords,-,houtside⟩ := boot_one_record blankBus hfirst hfirstSteady
  obtain ⟨hrecords',-,houtside'⟩ := boot_one_record (boot blankBus first).1 hsecond hsecondSteady
  have hhistory : history .highRes blankBus [first,second]=[earlier.highRes,later.highRes] := by
    simp only [history,Machine.trace,resettingLogger,recordsOf_append,hrecords,hrecords']
    rfl
  obtain ⟨slot,hinj,hkept⟩ := h.highRes
  rw [hhistory] at hinj hkept
  -- The first byte of the temperature tells a record from the blank memory.
  have hzero : ∀ {slot : ℕ} {record : LogRecord}, slot<120 → recordData record 4≠0xFF →
      HoldsAt (flat (boot (boot blankBus first).1 second).1.memory) (0+12*slot) 12
        (recordData record) → slot=0 := by
    intro slot record hslot hrecord hholds
    have hbyte := hholds 4 (by decide)
    rcases Nat.eq_zero_or_pos slot with hfirst|hpos
    · exact hfirst
    · rw [houtside' _ (by omega) (by omega),houtside _ (by omega) (by omega)] at hbyte
      exact absurd hbyte.symm hrecord
  obtain ⟨hslot,hholds⟩ := hkept 0 earlier.highRes rfl (by simp)
  obtain ⟨hslot',hholds'⟩ := hkept 1 later.highRes rfl (by simp)
  have hsame : slot 0=slot 1 :=
    (hzero hslot hearlier hholds).trans (hzero hslot' hlater hholds').symm
  exact absurd (hinj (by simp) (by simp) hsame) (by decide)

/-- After one record, a reset and one more record, the first of the two is lost. -/
theorem reset_loses_record : ¬HistoryKept blankBus [bootOf 600,bootOf 600] :=
  second_boot_overwrites List.length_replicate (fun _ => List.eq_of_mem_replicate)
    List.length_replicate (fun _ => List.eq_of_mem_replicate) (by decide) (by decide)

end WebDataLogger.DataLoggerResets
