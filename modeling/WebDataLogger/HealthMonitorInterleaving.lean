import WebDataLogger.HealthMonitor

/-!
# The monitor loop under arbitrary check-ins

The loop is taken apart into its single reads and writes of the table, and
`Reset_HeltMonit_service` may run between any two of them. The number of
consecutive passes that found an entry not checked in is read off the
observations; the 8-bit counter of the entry holds it times ten modulo 256.
-/

namespace WebDataLogger.HealthMonitorInterleaving

open TransitionRuns HealthMonitor

/-- Where the monitor task stands in its loop. -/
inductive MonitorPc where
  /-- First loop, about to notify the task of entry `i`. -/
  | notify (i : ℕ)
  /-- Second loop, about to read the restflag of entry `i`. -/
  | check (i : ℕ)
  /-- The restflag was read as set: clear it and the counter. -/
  | clear (i : ℕ)
  /-- The restflag was read as clear: add ten to the counter. -/
  | bump (i : ℕ)
  /-- About to compare the counter with the timeout. -/
  | compare (i : ℕ)
  /-- Both loops are done. -/
  | feed
  deriving DecidableEq

/-- Shared table and local state of the monitor task. -/
structure MonitorState where
  /-- The service table, also written by the tasks that check in. -/
  table : ServiceTable
  /-- Position in the loop. -/
  pc : MonitorPc
  /-- Local flag of the current pass. -/
  systemHealthy : Bool

/-- One step of the interleaved system. -/
inductive Event where
  /-- The monitor task executes its next read or write. -/
  | monitor
  /-- Some task calls `Reset_HeltMonit_service`. -/
  | resetCall (taskId : UInt8)
  deriving DecidableEq

/-- What can be seen of the monitor task from outside. -/
inductive Observation where
  /-- The restflag of entry `i` was read with this value. -/
  | found (i : ℕ) (restflag : Bool)
  /-- The console line of a frozen task. -/
  | froze (alert : Alert)
  /-- A pass ended, with or without a call of `WWDT_Refresh`. -/
  | passEnd (refreshed : Bool)
  deriving DecidableEq

/-- The next read or write of the monitor task. -/
def monitorStep (s : MonitorState) : MonitorState×List Observation :=
  match s.pc with
  | .notify i =>
    if i<s.table.slots.length then
      ({s with table := updateSlot s.table i notifySlot, pc := .notify (i+1)},[])
    else ({s with pc := .check 0},[])
  | .check i =>
    match s.table.slots[i]? with
    | some slot =>
      ({s with pc := if slot.reg.restflag=true then .clear i else .bump i},
        [.found i slot.reg.restflag])
    | none => ({s with pc := .feed},[])
  | .clear i => ({s with table := updateSlot s.table i clearSlot, pc := .compare i},[])
  | .bump i => ({s with table := updateSlot s.table i bumpSlot, pc := .compare i},[])
  | .compare i =>
    match s.table.slots[i]? with
    | some slot =>
      if slotExpired slot=true then
        ({s with systemHealthy := false, pc := .check (i+1)},[.froze (alertOf slot)])
      else ({s with pc := .check (i+1)},[])
    | none => ({s with pc := .check (i+1)},[])
  | .feed => ({s with systemHealthy := true, pc := .notify 0},[.passEnd s.systemHealthy])

/-- The monitor task together with the tasks that check in. -/
def interleaved : Machine MonitorState Event Observation where
  step s e :=
    match e with
    | .monitor => monitorStep s
    | .resetCall taskId => ({s with table := resetHeltMonitService s.table taskId},[])

/-- The monitor task at its first loop, with all counters cleared. -/
def startState (table : ServiceTable) : MonitorState := ⟨clearCounters table,.notify 0,true⟩

/-- Observations of a run from the start of the monitor task. -/
def monitorTrace (table : ServiceTable) (events : List Event) : List Observation :=
  interleaved.trace (startState table) events

/-- Timeouts of the registered entries in milliseconds. -/
def timeoutsOf (table : ServiceTable) : List ℕ :=
  table.slots.map (fun slot => slot.reg.timeoutValue.toNat)

/-- Values read from the restflag of entry `i`, oldest first. -/
def checksOf (i : ℕ) (obs : List Observation) : List Bool :=
  obs.filterMap fun
    | .found j restflag => if i=j then some restflag else none
    | _ => none

/-- Entry `i` was found not checked in by each of the last `m` passes. -/
def FoundMissed (i m : ℕ) (obs : List Observation) : Prop :=
  List.replicate m false<:+checksOf i obs

instance (i m : ℕ) (obs : List Observation) : Decidable (FoundMissed i m obs) :=
  inferInstanceAs (Decidable (_<:+_))

/-- Effect of one observation on the number of passes in a row that missed `i`. -/
def countMissed (i streak : ℕ) : Observation → ℕ
  | .found j restflag => if i=j then (if restflag=true then 0 else streak+1) else streak
  | _ => streak

/-- Number of passes in a row, up to now, that found entry `i` not checked in. -/
def missedStreak (i : ℕ) (obs : List Observation) : ℕ := obs.foldl (countMissed i) 0

/-- One more observation changes the streak as counted. -/
theorem missedStreak_snoc (i : ℕ) (obs : List Observation) (o : Observation) :
    missedStreak i (obs++[o])=countMissed i (missedStreak i obs) o := by
  rw [missedStreak,List.foldl_append]
  rfl

/-- The streak is the largest number of passes in a row that missed entry `i`. -/
theorem foundMissed_iff (i m : ℕ) (obs : List Observation) :
    FoundMissed i m obs ↔ m ≤ missedStreak i obs := by
  unfold FoundMissed
  induction obs using List.reverseRecOn generalizing m with
  | nil => simp [checksOf,missedStreak]
  | append_singleton obs o ih =>
    have hsplit : checksOf i (obs++[o])=checksOf i obs++checksOf i [o] := List.filterMap_append
    rw [missedStreak_snoc,hsplit]
    cases o with
    | found j restflag =>
      rcases eq_or_ne i j with rfl|hj
      · cases m with
        | zero => simp
        | succ m =>
          have hlast : checksOf i [Observation.found i restflag]=[restflag] := by simp [checksOf]
          rw [hlast,List.replicate_succ',
            List.suffix_append_inj_of_length_eq (show [false].length=[restflag].length from rfl)]
          cases restflag with
          | true => simp [countMissed]
          | false => simp [countMissed,ih]
      · simpa [checksOf,countMissed,hj] using ih m
    | froze alert => simpa [checksOf,countMissed] using ih m
    | passEnd refreshed => simpa [checksOf,countMissed] using ih m

/-- Number of entries whose counter this pass has already compared. -/
def comparedCount (pc : MonitorPc) (serviceCount : ℕ) : ℕ :=
  match pc with
  | .notify _ => 0
  | .check i => i
  | .clear i => i
  | .bump i => i
  | .compare i => i
  | .feed => serviceCount

/-- The counter of entry `j` once the decision already read for it is carried out. -/
def settledCount (pc : MonitorPc) (j count : ℕ) : ℕ :=
  match pc with
  | .clear i => if i=j then 0 else count
  | .bump i => if i=j then (count+10)%256 else count
  | _ => count

/-- What holds between any two steps. The counter of every entry, once the
pending decision is carried out, is ten times its streak modulo 256. -/
structure MonitorInv (timeouts : List ℕ) (obs : List Observation) (s : MonitorState) : Prop where
  /-- Registered timeouts never change. -/
  timeouts_eq : timeoutsOf s.table=timeouts
  /-- The 8-bit counter follows the streak modulo its width. -/
  counter : ∀ j slot, s.table.slots[j]?=some slot →
    settledCount s.pc j slot.timercount.toNat=10*missedStreak j obs%256
  /-- The local flag summarises the entries compared so far. -/
  healthy : s.systemHealthy=true ↔ ∀ j slot, j<comparedCount s.pc s.table.slots.length →
    s.table.slots[j]?=some slot → slotExpired slot=false

/-- An update that keeps the timeouts of all entries keeps the list of timeouts. -/
theorem timeoutsOf_updateSlot (table : ServiceTable) (i : ℕ) (f : ServiceSlot → ServiceSlot)
    (hf : ∀ slot, (f slot).reg.timeoutValue=slot.reg.timeoutValue) :
    timeoutsOf (updateSlot table i f)=timeoutsOf table := by
  apply List.ext_getElem?
  intro j
  simp only [timeoutsOf,List.getElem?_map,updateSlot_getElem?,Option.map_map]
  congr 1
  funext slot
  simp only [Function.comp]
  split
  · rw [hf]
  · rfl

/-- The entry that an update leaves at one index. -/
theorem updateSlot_slot {table : ServiceTable} {i j : ℕ} {f : ServiceSlot → ServiceSlot}
    {slot : ServiceSlot} (h : (updateSlot table i f).slots[j]?=some slot) :
    ∃ old, table.slots[j]?=some old ∧ slot=if i=j then f old else old := by
  rw [updateSlot_getElem?] at h
  obtain ⟨old,hold,rfl⟩ := Option.map_eq_some_iff.mp h
  exact ⟨old,hold,rfl⟩

/-- An update that keeps timeouts, counters and expiry of all entries keeps the
invariant at the same place of the loop. -/
theorem MonitorInv.of_update {timeouts : List ℕ} {obs : List Observation} {s : MonitorState}
    (h : MonitorInv timeouts obs s) (i : ℕ) (f : ServiceSlot → ServiceSlot)
    (hreg : ∀ slot, (f slot).reg.timeoutValue=slot.reg.timeoutValue)
    (hcount : ∀ slot, (f slot).timercount=slot.timercount) :
    MonitorInv timeouts obs {s with table := updateSlot s.table i f} := by
  have hsame : ∀ j old, (if i=j then f old else old).timercount=old.timercount ∧
      slotExpired (if i=j then f old else old)=slotExpired old := by
    intro j old
    split
    · exact ⟨hcount old,by simp only [slotExpired,hreg,hcount]⟩
    · exact ⟨rfl,rfl⟩
  refine ⟨(timeoutsOf_updateSlot _ _ _ hreg).trans h.timeouts_eq,?_,?_⟩
  · intro j slot hj
    obtain ⟨old,hold,rfl⟩ := updateSlot_slot hj
    rw [(hsame j old).1]
    exact h.counter j old hold
  · dsimp only
    rw [h.healthy,updateSlot_length]
    constructor
    · intro hall j slot hlt hj
      obtain ⟨old,hold,rfl⟩ := updateSlot_slot hj
      rw [(hsame j old).2]
      exact hall j old hlt hold
    · intro hall j old hlt hold
      rw [←(hsame j old).2]
      exact hall j _ hlt (by rw [updateSlot_getElem?,hold]; rfl)

/-- A check-in between any two steps of the monitor keeps the invariant. -/
theorem monitorInv_resetCall {timeouts : List ℕ} {obs : List Observation} {s : MonitorState}
    (h : MonitorInv timeouts obs s) (taskId : UInt8) :
    MonitorInv timeouts obs {s with table := resetHeltMonitService s.table taskId} := by
  rw [resetHeltMonitService_eq]
  exact h.of_update _ _ (fun _ => rfl) (fun _ => rfl)

/-- Carrying out a pending decision on entry `i` settles its counter and leaves
the entries compared before it alone. -/
theorem MonitorInv.of_settle {timeouts : List ℕ} {obs : List Observation} {s : MonitorState}
    (h : MonitorInv timeouts obs s) (i : ℕ) (f : ServiceSlot → ServiceSlot)
    (hpc : comparedCount s.pc s.table.slots.length=i)
    (hreg : ∀ slot, (f slot).reg.timeoutValue=slot.reg.timeoutValue)
    (hsettle : ∀ slot j, settledCount s.pc j slot.timercount.toNat=
      if i=j then (f slot).timercount.toNat else slot.timercount.toNat) :
    MonitorInv timeouts obs {s with table := updateSlot s.table i f, pc := .compare i} := by
  refine ⟨(timeoutsOf_updateSlot _ _ _ hreg).trans h.timeouts_eq,?_,?_⟩
  · intro j slot hj
    obtain ⟨old,hold,rfl⟩ := updateSlot_slot hj
    have hc := h.counter j old hold
    rw [hsettle old j] at hc
    simp only [settledCount,←hc]
    split <;> rfl
  · dsimp only [comparedCount]
    rw [h.healthy,hpc]
    constructor
    · intro hall j slot hlt hj
      obtain ⟨old,hold,rfl⟩ := updateSlot_slot hj
      rw [if_neg (by omega)]
      exact hall j old hlt hold
    · intro hall j old hlt hold
      refine hall j old hlt ?_
      rw [updateSlot_getElem?,hold,Option.map_some,if_neg (by omega)]

/-- Reading the restflag of entry `i` starts or extends its streak and leaves
the counter to the following step. -/
theorem monitorInv_check {timeouts : List ℕ} {obs : List Observation} {s : MonitorState}
    {i : ℕ} {slot : ServiceSlot} (h : MonitorInv timeouts obs s) (hpc : s.pc=.check i) :
    MonitorInv timeouts (obs++[.found i slot.reg.restflag])
      {s with pc := if slot.reg.restflag=true then .clear i else .bump i} := by
  have hcounter := h.counter
  have hhealthy := h.healthy
  rw [hpc] at hcounter hhealthy
  dsimp only [settledCount,comparedCount] at hcounter hhealthy
  refine ⟨h.timeouts_eq,?_,?_⟩
  · intro j other hj
    have hc := hcounter j other hj
    rw [missedStreak_snoc]
    cases slot.reg.restflag with
    | true =>
      rcases eq_or_ne i j with rfl|hne
      · simp [settledCount,countMissed]
      · simpa [settledCount,countMissed,hne,hne.symm] using hc
    | false =>
      rcases eq_or_ne i j with rfl|hne
      · simp only [settledCount,countMissed,Bool.false_eq_true,if_false,if_true]
        omega
      · simpa [settledCount,countMissed,hne,hne.symm] using hc
  · cases slot.reg.restflag <;> exact hhealthy

/-- Comparing entry `i` extends the entries summarised by the local flag. -/
theorem monitorInv_compare {timeouts : List ℕ} {obs : List Observation} {s : MonitorState} {i : ℕ}
    (h : MonitorInv timeouts obs s) (hpc : s.pc=.compare i) :
    MonitorInv timeouts obs {s with
      systemHealthy := s.systemHealthy && s.table.slots[i]?.all (fun slot => !slotExpired slot),
      pc := .check (i+1)} := by
  have hcounter := h.counter
  have hhealthy := h.healthy
  rw [hpc] at hcounter hhealthy
  refine ⟨h.timeouts_eq,hcounter,?_⟩
  simp only [comparedCount,Bool.and_eq_true] at hhealthy ⊢
  rw [hhealthy]
  constructor
  · rintro ⟨hall,hi⟩ j slot hlt hj
    rcases eq_or_ne j i with rfl|hne
    · simpa [hj] using hi
    · exact hall j slot (by omega) hj
  · intro hall
    refine ⟨fun j slot hlt hj => hall j slot (by omega) hj,?_⟩
    cases hi : s.table.slots[i]? with
    | none => rfl
    | some slot => simpa using hall i slot (by omega) hi

/-- Every step of the monitor task keeps the invariant. -/
theorem monitorInv_monitor {timeouts : List ℕ} {obs : List Observation} {s : MonitorState}
    (h : MonitorInv timeouts obs s) :
    MonitorInv timeouts (obs++(monitorStep s).2) (monitorStep s).1 := by
  obtain ⟨table,pc,systemHealthy⟩ := s
  cases pc with
  | notify i =>
    unfold monitorStep
    dsimp only
    split
    · have hn := h.of_update i notifySlot (fun _ => by rw [notifySlot_reg])
        notifySlot_timercount
      rw [List.append_nil]
      exact ⟨hn.timeouts_eq,hn.counter,hn.healthy⟩
    · rw [List.append_nil]
      exact ⟨h.timeouts_eq,h.counter,h.healthy⟩
  | check i =>
    unfold monitorStep
    dsimp only
    split
    next slot _ => exact monitorInv_check h rfl
    next hnone =>
      -- Past the last entry every index below the count has been compared.
      have hle : table.slots.length ≤ i := List.getElem?_eq_none_iff.mp hnone
      rw [List.append_nil]
      refine ⟨h.timeouts_eq,h.counter,h.healthy.trans ?_⟩
      dsimp only [comparedCount]
      constructor
      · exact fun hall j slot hlt hj => hall j slot (by omega) hj
      · exact fun hall j slot _ hj => hall j slot (List.getElem?_eq_some_iff.mp hj).1 hj
  | clear i =>
    simpa only [monitorStep,List.append_nil] using
      h.of_settle i clearSlot rfl (fun _ => rfl) (fun _ _ => rfl)
  | bump i =>
    simpa only [monitorStep,List.append_nil] using
      h.of_settle i bumpSlot rfl (fun _ => rfl) (fun slot j => by
        rw [bumpSlot_timercount]
        rfl)
  | compare i =>
    have hc := monitorInv_compare h rfl
    unfold monitorStep
    dsimp only at hc ⊢
    cases hi : table.slots[i]? with
    | none => simpa [hi] using hc
    | some slot =>
      dsimp only
      split
      next hx =>
        have hf : MonitorInv timeouts obs ⟨table,.check (i+1),false⟩ := by simpa [hi,hx] using hc
        refine ⟨hf.timeouts_eq,fun j other hj => ?_,hf.healthy⟩
        rw [missedStreak_snoc]
        exact hf.counter j other hj
      next hx => simpa [hi,hx] using hc
  | feed =>
    refine ⟨h.timeouts_eq,?_,by simp [monitorStep,comparedCount]⟩
    intro j slot hj
    unfold monitorStep
    rw [missedStreak_snoc]
    exact h.counter j slot hj

/-- The invariant holds when the monitor task enters its loop. -/
theorem monitorInv_start (table : ServiceTable) :
    MonitorInv (timeoutsOf table) [] (startState table) := by
  refine ⟨?_,?_,?_⟩
  · simp only [timeoutsOf,startState,clearCounters,List.map_map]
    rfl
  · intro j slot hj
    simp only [startState,clearCounters,List.getElem?_map] at hj
    obtain ⟨old,-,rfl⟩ := Option.map_eq_some_iff.mp hj
    rfl
  · simp [startState,comparedCount]

/-- The invariant holds after every interleaving of passes and check-ins. -/
theorem monitorInv_run (table : ServiceTable) (events : List Event) :
    MonitorInv (timeoutsOf table) (monitorTrace table events)
      (interleaved.run (startState table) events) := by
  refine interleaved.history_invariant (fun _ obs s => MonitorInv (timeoutsOf table) obs s)
    (monitorInv_start table) ?_
  intro before e obs s _ h
  cases e with
  | monitor => exact monitorInv_monitor h
  | resetCall taskId => simpa only [interleaved,List.append_nil] using monitorInv_resetCall h taskId

/-- Only the last step of a pass reports its end. -/
theorem feed_of_passEnd_mem {s : MonitorState} {refreshed : Bool}
    (h : .passEnd refreshed∈(monitorStep s).2) : s.pc=.feed := by
  obtain ⟨table,pc,systemHealthy⟩ := s
  cases pc with
  | feed => rfl
  | notify i =>
    unfold monitorStep at h
    dsimp only at h
    split at h <;> cases h
  | check i =>
    unfold monitorStep at h
    dsimp only at h
    split at h <;> simp at h
  | compare i =>
    unfold monitorStep at h
    dsimp only at h
    split at h
    · split at h <;> simp at h
    · cases h
  | clear i => cases h
  | bump i => cases h

/-- The end of a pass is the only observation of its step, and it reports the
local flag. -/
theorem step_passEnd {s : MonitorState} {e : Event} {refreshed : Bool} {left right : List Observation}
    (h : (interleaved.step s e).2=left++.passEnd refreshed::right) :
    s.pc=.feed ∧ left=[] ∧ s.systemHealthy=refreshed := by
  cases e with
  | resetCall taskId => simp [interleaved] at h
  | monitor =>
    have hpc : s.pc=.feed := by
      apply feed_of_passEnd_mem
      change .passEnd refreshed∈(interleaved.step s .monitor).2
      rw [h]
      exact List.mem_append_right left List.mem_cons_self
    simp only [interleaved,monitorStep,hpc] at h
    cases left with
    | nil => exact ⟨hpc,rfl,Observation.passEnd.inj (List.cons.inj h).1⟩
    | cons o left => simp at h

/-- A pass feeds the watchdog exactly when the streak of every entry, times ten
and modulo 256, is below its timeout. -/
theorem passEnd_refreshed {table : ServiceTable} {events : List Event} {refreshed : Bool}
    {before after : List Observation}
    (h : monitorTrace table events=before++.passEnd refreshed::after) :
    refreshed=true ↔ ∀ j timeout, (timeoutsOf table)[j]?=some timeout →
      10*missedStreak j before%256<timeout := by
  obtain ⟨past,e,future,left,right,-,hstep,rfl⟩ := interleaved.trace_split h
  obtain ⟨hpc,rfl,hflag⟩ := step_passEnd hstep
  have hinv := monitorInv_run table past
  have hcounter := hinv.counter
  have hhealthy := hinv.healthy
  rw [hpc] at hcounter hhealthy
  dsimp only [settledCount,comparedCount] at hcounter hhealthy
  rw [List.append_nil,←hflag,hhealthy,←hinv.timeouts_eq]
  simp only [timeoutsOf,List.getElem?_map]
  constructor
  · intro hall j timeout hj
    obtain ⟨slot,hslot,rfl⟩ := Option.map_eq_some_iff.mp hj
    have hx := hall j slot (List.getElem?_eq_some_iff.mp hslot).1 hslot
    rw [Bool.eq_false_iff,ne_eq,slotExpired_iff,hcounter j slot hslot] at hx
    change 10*missedStreak j (monitorTrace table past)%256<_
    omega
  · intro hall j slot _ hslot
    have hx := hall j slot.reg.timeoutValue.toNat (by rw [hslot]; rfl)
    rw [Bool.eq_false_iff,ne_eq,slotExpired_iff,hcounter j slot hslot]
    change 10*missedStreak j (monitorTrace table past)%256<_ at hx
    omega

/-- No pass feeds the watchdog once some entry was missed by the last `m` passes
and ten milliseconds for each of them reach its timeout. -/
def WithholdsOverdueFeed (timeouts : List ℕ) (trace : List Observation) : Prop :=
  ∀ before refreshed after, trace=before++.passEnd refreshed::after →
    ∀ i timeout m, timeouts[i]?=some timeout → FoundMissed i m before → timeout≤10*m →
      refreshed=false

/-- At every pass with an overdue entry, the missed time of some entry still
reaches its timeout when it is taken modulo the 256 of the counter. -/
def OverdueSurvivesWrap (timeouts : List ℕ) (trace : List Observation) : Prop :=
  ∀ before refreshed after, trace=before++.passEnd refreshed::after →
    (∃ i timeout, timeouts[i]?=some timeout ∧ timeout≤10*missedStreak i before) →
      ∃ j timeout, timeouts[j]?=some timeout ∧ timeout≤10*missedStreak j before%256

/-- The feed is withheld from every overdue pass of a run exactly when no pass
of the run has all its overdue entries hidden by the wrap of the counters. -/
theorem withholdsOverdueFeed_iff (table : ServiceTable) (events : List Event) :
    WithholdsOverdueFeed (timeoutsOf table) (monitorTrace table events) ↔
      OverdueSurvivesWrap (timeoutsOf table) (monitorTrace table events) := by
  constructor
  · rintro hw before refreshed after hsplit ⟨i,timeout,hi,hover⟩
    have hfalse := hw before refreshed after hsplit i timeout _ hi
      ((foundMissed_iff i _ before).mpr (Nat.le_refl _)) hover
    by_contra hnone
    have hall : ∀ j due, (timeoutsOf table)[j]?=some due → 10*missedStreak j before%256<due :=
      fun j due hj => Nat.lt_of_not_le fun hdue => hnone ⟨j,due,hj,hdue⟩
    rw [(passEnd_refreshed hsplit).mpr hall] at hfalse
    cases hfalse
  · intro hs before refreshed after hsplit i timeout m hi hm hover
    have hstreak := (foundMissed_iff i m before).mp hm
    obtain ⟨j,due,hj,hdue⟩ := hs before refreshed after hsplit ⟨i,timeout,hi,by omega⟩
    rw [Bool.eq_false_iff,ne_eq,passEnd_refreshed hsplit]
    intro hall
    have hlt := hall j due hj
    omega

/-- The table after the registration of the indicator task alone. -/
def indicatorTable : ServiceTable :=
  ⟨[⟨⟨"Indicator_Task".toList,0,200,true,some (some 0)⟩,0,false⟩],by decide⟩

/-- The indicator task checks in once and then stops. Its counter goes from 250
to 4 on the 26th missed pass, and the watchdog is fed although the task has been
silent for 260 of its 200 ms. -/
theorem indicator_fed_after_wrap :
    registorServices emptyTable [⟨"Indicator_Task".toList,200,true,some (some 0)⟩]=
        some indicatorTable ∧
      ¬WithholdsOverdueFeed (timeoutsOf indicatorTable)
        (monitorTrace indicatorTable (List.replicate 189 .monitor)) := by
  refine ⟨rfl,fun h => ?_⟩
  have hfed := h ((monitorTrace indicatorTable (List.replicate 189 .monitor)).take 59) true []
    (by decide +kernel) 0 200 26 rfl (by decide +kernel) (by decide)
  cases hfed

/-- While no entry has been missed for more than 25 passes in a row no counter
has wrapped, so that an overdue entry keeps its own counter at its timeout. -/
theorem overdueSurvivesWrap_of_short_streaks {timeouts : List ℕ} {trace : List Observation}
    (h : ∀ before after refreshed, trace=before++.passEnd refreshed::after →
      ∀ i, i<timeouts.length → missedStreak i before≤25) :
    OverdueSurvivesWrap timeouts trace := by
  rintro before refreshed after hsplit ⟨i,timeout,hi,hover⟩
  have hlt := (List.getElem?_eq_some_iff.mp hi).1
  have hstreak := h before after refreshed hsplit i hlt
  exact ⟨i,timeout,hi,by omega⟩

/-- An 8-bit counter never reaches a timeout above 255 ms: a table of such
timeouts is fed in every pass, whatever its tasks do. -/
theorem fed_of_wide_timeouts {table : ServiceTable} {events : List Event} {refreshed : Bool}
    (hwide : ∀ timeout∈timeoutsOf table,255<timeout)
    (h : .passEnd refreshed∈monitorTrace table events) : refreshed=true := by
  obtain ⟨before,after,hsplit⟩ := List.append_of_mem h
  rw [passEnd_refreshed hsplit]
  intro j timeout hj
  have hlarge := hwide timeout (List.mem_of_getElem? hj)
  omega

/-- An update at the first entry of the remaining part of the table. -/
theorem updateSlot_split {table : ServiceTable} {settled rest : List ServiceSlot} {slot : ServiceSlot}
    (h : table.slots=settled++slot::rest) (f : ServiceSlot → ServiceSlot) :
    (updateSlot table settled.length f).slots=(settled++[f slot])++rest := by
  unfold updateSlot
  dsimp only
  rw [h,List.modify_eq_take_drop]
  simp

/-- Without interruption the first loop notifies the remaining entries. -/
theorem notifyLoop (rest : List ServiceSlot) :
    ∀ (settled : List ServiceSlot) (table : ServiceTable), table.slots=settled++rest →
      ∃ notified : ServiceTable, notified.slots=settled++rest.map notifySlot ∧
        interleaved.run ⟨table,.notify settled.length,true⟩
          (List.replicate (rest.length+1) .monitor)=⟨notified,.check 0,true⟩ := by
  induction rest with
  | nil =>
    intro settled table h
    refine ⟨table,by simpa using h,?_⟩
    simp [Machine.run,interleaved,monitorStep,h]
  | cons slot rest ih =>
    intro settled table h
    have hlt : settled.length<table.slots.length := by rw [h]; simp
    obtain ⟨notified,hslots,hrun⟩ := ih (settled++[notifySlot slot])
      (updateSlot table settled.length notifySlot) (updateSlot_split h notifySlot)
    refine ⟨notified,by simpa using hslots,?_⟩
    rw [List.length_append,List.length_singleton] at hrun
    rw [List.length_cons,List.replicate_succ,Machine.run]
    simpa only [interleaved,monitorStep,if_pos hlt] using hrun

/-- Without interruption the restflag is read, carried out and compared in three
steps, which settle the entry. -/
theorem checkEntry {table : ServiceTable} {settled rest : List ServiceSlot} {slot : ServiceSlot}
    (h : table.slots=settled++slot::rest) (healthy : Bool) :
    interleaved.run ⟨table,.check settled.length,healthy⟩ (List.replicate 3 .monitor)=
      ⟨updateSlot table settled.length checkSlot,.check (settled.length+1),
        healthy && !slotExpired (checkSlot slot)⟩ := by
  have hslot : table.slots[settled.length]?=some slot := by rw [h]; simp
  have hread : (updateSlot table settled.length checkSlot).slots[settled.length]?=
      some (checkSlot slot) := by simp [hslot]
  -- The decision read from the restflag is the one `checkSlot` takes.
  have hsettle : interleaved.run ⟨table,.check settled.length,healthy⟩ [.monitor,.monitor]=
      ⟨updateSlot table settled.length checkSlot,.compare settled.length,healthy⟩ := by
    have hchoice : updateSlot table settled.length checkSlot=updateSlot table settled.length
        (if slot.reg.restflag=true then clearSlot else bumpSlot) := by
      ext1
      rw [updateSlot_split h,updateSlot_split h,checkSlot]
      split <;> rfl
    rw [hchoice]
    simp only [Machine.run,interleaved,monitorStep,hslot]
    cases slot.reg.restflag <;> rfl
  have hthree : List.replicate 3 Event.monitor=[.monitor,.monitor]++[.monitor] := rfl
  rw [hthree,Machine.run_append,hsettle]
  simp only [Machine.run,interleaved,monitorStep,hread]
  cases slotExpired (checkSlot slot) <;> simp

/-- Without interruption the second loop settles the remaining entries. -/
theorem checkLoop (rest : List ServiceSlot) :
    ∀ (settled : List ServiceSlot) (table : ServiceTable) (healthy : Bool),
      table.slots=settled++rest →
      ∃ done : ServiceTable, done.slots=settled++(processSlots rest).1 ∧
        interleaved.run ⟨table,.check settled.length,healthy⟩
          (List.replicate (3*rest.length+1) .monitor)=
            ⟨done,.feed,healthy && (processSlots rest).2.1⟩ := by
  induction rest with
  | nil =>
    intro settled table healthy h
    refine ⟨table,by simpa [processSlots] using h,?_⟩
    simp [Machine.run,interleaved,monitorStep,h,processSlots]
  | cons slot rest ih =>
    intro settled table healthy h
    obtain ⟨done,hslots,hrun⟩ := ih (settled++[checkSlot slot])
      (updateSlot table settled.length checkSlot)
      (healthy && !slotExpired (checkSlot slot)) (updateSlot_split h checkSlot)
    refine ⟨done,?_,?_⟩
    · rw [hslots,processSlots]
      split <;> simp
    · have hcount : 3*(slot::rest).length+1=3+(3*rest.length+1) := by
        rw [List.length_cons]
        omega
      rw [List.length_append,List.length_singleton] at hrun
      rw [hcount,←List.replicate_append_replicate,Machine.run_append,checkEntry h,hrun,processSlots]
      split
      next hx => simp [hx]
      next hx => simp [hx]

/-- A pass that no check-in interrupts is one step of `healthMonitorPass`: it
leaves the same table and ends by reporting the same decision. -/
theorem monitor_pass_uninterrupted (table : ServiceTable) :
    ∃ steps earlier, interleaved.run ⟨table,.notify 0,true⟩ (List.replicate steps .monitor)=
        ⟨(healthMonitorPass table).1,.notify 0,true⟩ ∧
      interleaved.trace ⟨table,.notify 0,true⟩ (List.replicate steps .monitor)=
        earlier++[.passEnd (healthMonitorPass table).2.refreshed] := by
  obtain ⟨notified,hnotified,hfirst⟩ := notifyLoop table.slots [] table rfl
  obtain ⟨done,hdone,hsecond⟩ := checkLoop notified.slots [] notified true rfl
  simp only [List.nil_append,List.length_nil,Bool.true_and] at hnotified hfirst hdone hsecond
  have htable : done=(healthMonitorPass table).1 := by
    ext1
    rw [hdone,hnotified]
    rfl
  have hflag : (processSlots notified.slots).2.1=(healthMonitorPass table).2.refreshed := by
    rw [hnotified]
    rfl
  rw [htable,hflag] at hsecond
  have hloops : interleaved.run ⟨table,.notify 0,true⟩ (List.replicate
      ((table.slots.length+1)+(3*notified.slots.length+1)) .monitor)=
        ⟨(healthMonitorPass table).1,.feed,(healthMonitorPass table).2.refreshed⟩ := by
    rw [←List.replicate_append_replicate,Machine.run_append,hfirst,hsecond]
  refine ⟨(table.slots.length+1)+(3*notified.slots.length+1)+1,
    interleaved.trace ⟨table,.notify 0,true⟩ (List.replicate
      ((table.slots.length+1)+(3*notified.slots.length+1)) .monitor),?_,?_⟩
  · rw [List.replicate_succ',Machine.run_snoc,hloops]
    rfl
  · rw [List.replicate_succ',Machine.trace_snoc,hloops]
    rfl

end WebDataLogger.HealthMonitorInterleaving
