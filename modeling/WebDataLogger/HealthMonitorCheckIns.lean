import Mathlib.Data.List.Infix
import WebDataLogger.HealthMonitor

/-!
# Check-ins through notifications

A pass of the monitor notifies every live task; a task that reaches its loop
head consumes a pending notification and resets its own entry. The loop heads
between two passes form one gap. When every window of gaps of the right width
holds a loop head of each task, no pass withholds the watchdog feed.
-/

namespace WebDataLogger.HealthMonitorCheckIns

open TransitionRuns HealthMonitor

/-- A successful `xTaskNotifyWait` takes the notification. -/
def consumeNotification (slot : ServiceSlot) : ServiceSlot := {slot with notified := false}

/-- Loop head of the task registered under `taskId`. The wait has no timeout,
so that a task without a pending notification goes on at once. -/
def taskLoopHead (table : ServiceTable) (taskId : UInt8) : ServiceTable :=
  match table.slots[taskId.toNat]? with
  | some slot =>
    if slot.notified=true then
      resetHeltMonitService (updateSlot table taskId.toNat consumeNotification) taskId
    else table
  | none => table

/-- One step of the monitor and the registered tasks. -/
inductive Event where
  /-- A whole pass of the monitor loop. -/
  | pass
  /-- The task with this id reaches its loop head. -/
  | loopHead (taskId : UInt8)
  deriving DecidableEq

/-- The monitor and the registered tasks, observed through the passes. -/
def checkIns : Machine ServiceTable Event PassReport where
  step table e :=
    match e with
    | .pass => ((healthMonitorPass table).1,[(healthMonitorPass table).2])
    | .loopHead taskId => (taskLoopHead table taskId,[])

/-- Loop heads since the latest pass, if there was one, and the closed gaps. -/
structure GapView where
  /-- Loop heads after the latest pass. -/
  current : Option (List ℕ)
  /-- Loop heads between consecutive passes, oldest gap first. -/
  closed : List (List ℕ)

/-- A pass closes the current gap and opens the next one. -/
def gapStep (view : GapView) : Event → GapView
  | .pass => ⟨some [],view.closed++view.current.toList⟩
  | .loopHead taskId => ⟨view.current.map (·++[taskId.toNat]),view.closed⟩

/-- The gaps seen by a run. -/
def gapView (events : List Event) : GapView := events.foldl gapStep ⟨none,[]⟩

/-- The gaps between consecutive passes of a run. -/
def gapsOf (events : List Event) : List (List ℕ) := (gapView events).closed

/-- Every `width` consecutive gaps contain a loop head of task `i`. -/
def HeadInEveryWindow (i width : ℕ) (gaps : List (List ℕ)) : Prop :=
  ∀ window, window<:+:gaps → window.length=width → ∃ gap∈window,i∈gap

/-- Whether every window contains a loop head can be checked. -/
instance (i width : ℕ) (gaps : List (List ℕ)) : Decidable (HeadInEveryWindow i width gaps) :=
  decidable_of_iff (∀ rest∈gaps.tails, ∀ window∈rest.inits, window.length=width →
      ∃ gap∈window,i∈gap) (by
    simp only [List.mem_tails,List.mem_inits,HeadInEveryWindow,List.infix_iff_prefix_suffix]
    exact ⟨fun h window ⟨rest,hwindow,hrest⟩ => h rest hrest window hwindow,
      fun h rest hrest window hwindow => h window ⟨rest,hwindow,hrest⟩⟩)

/-- Number of gaps at the end without a loop head of task `i`. -/
def dryGaps (i : ℕ) (gaps : List (List ℕ)) : ℕ :=
  gaps.foldl (fun dry gap => if i∈gap then 0 else dry+1) 0

/-- One more event changes the gaps as seen. -/
theorem gapView_snoc (events : List Event) (e : Event) :
    gapView (events++[e])=gapStep (gapView events) e := by
  rw [gapView,List.foldl_append]
  rfl

/-- Later events only append closed gaps. -/
theorem gapsOf_mono {before events : List Event} (h : before<+:events) :
    gapsOf before<+:gapsOf events := by
  obtain ⟨after,rfl⟩ := h
  induction after using List.reverseRecOn with
  | nil =>
    have hsame : gapsOf (before++[])=gapsOf before := congrArg gapsOf (List.append_nil before)
    exact hsame.symm ▸ List.prefix_refl _
  | append_singleton after e ih =>
    refine ih.trans ?_
    rw [←List.append_assoc,gapsOf,gapsOf,gapView_snoc]
    cases e with
    | pass => exact List.prefix_append _ _
    | loopHead taskId => exact List.prefix_refl _

/-- One more gap ends or extends the dry gaps. -/
theorem dryGaps_snoc (i : ℕ) (gaps : List (List ℕ)) (gap : List ℕ) :
    dryGaps i (gaps++[gap])=if i∈gap then 0 else dryGaps i gaps+1 := by
  rw [dryGaps,List.foldl_append]
  rfl

/-- The dry gaps are a window without a loop head. -/
theorem dryGaps_window (i : ℕ) (gaps : List (List ℕ)) :
    ∃ window, window<:+gaps ∧ window.length=dryGaps i gaps ∧ ∀ gap∈window,i∉gap := by
  induction gaps using List.reverseRecOn with
  | nil => exact ⟨[],List.suffix_refl [],rfl,by simp⟩
  | append_singleton gaps gap ih =>
    obtain ⟨window,hsuffix,hlength,hdry⟩ := ih
    rw [dryGaps_snoc]
    split
    · exact ⟨[],List.nil_suffix,rfl,by simp⟩
    next hi =>
      obtain ⟨earlier,rfl⟩ := hsuffix
      refine ⟨window++[gap],⟨earlier,by simp⟩,by simp [hlength],?_⟩
      intro g hg
      rcases List.mem_append.mp hg with hg|hg
      · exact hdry g hg
      · rwa [List.mem_singleton.mp hg]

/-- Where every window of the given width holds a loop head, fewer gaps than
that are dry at the end. -/
theorem dryGaps_lt {i width : ℕ} {gaps : List (List ℕ)} (h : HeadInEveryWindow i width gaps) :
    dryGaps i gaps<width := by
  obtain ⟨window,hsuffix,hlength,hdry⟩ := dryGaps_window i gaps
  by_contra hge
  obtain ⟨gap,hgap,hi⟩ := h (window.take width)
    (List.IsInfix.trans ⟨[],_,List.take_append_drop width window⟩ hsuffix.isInfix)
    (by rw [List.length_take]; omega)
  exact hdry gap (List.mem_of_mem_take hgap) hi

/-- A window condition on a run holds on every beginning of the run. -/
theorem HeadInEveryWindow.mono {i width : ℕ} {first gaps : List (List ℕ)}
    (h : HeadInEveryWindow i width gaps) (hfirst : first<+:gaps) :
    HeadInEveryWindow i width first :=
  fun window hw => h window (hw.trans hfirst.isInfix)

/-- What the gaps seen so far say about one entry. Since the latest pass the
restflag and the notification tell whether the task came to its loop head, and
the counter holds ten times the dry gaps at the end, modulo its width. -/
def EntryTracks (view : GapView) (i : ℕ) (slot : ServiceSlot) : Prop :=
  match view.current with
  | none => view.closed=[] ∧ slot.reg.restflag=true
  | some gap => slot.reg.restflag=decide (i∈gap) ∧ slot.notified=decide (i∉gap) ∧
      slot.timercount.toNat=10*dryGaps i view.closed%256

/-- Joint invariant of all entries, with their registered data. -/
structure CheckInInv (start : ServiceTable) (view : GapView) (table : ServiceTable) : Prop where
  /-- Number, timeouts and handles of the entries are those registered. -/
  registered : table.slots.map (fun slot => (slot.reg.timeoutValue,slot.reg.taskHandle))=
    start.slots.map (fun slot => (slot.reg.timeoutValue,slot.reg.taskHandle))
  /-- Every entry tracks the loop heads of its own task. -/
  tracks : ∀ i slot, table.slots[i]?=some slot → EntryTracks view i slot

/-- The registered entry behind an entry of a later table. -/
theorem CheckInInv.origin {start table : ServiceTable} {view : GapView} {i : ℕ} {slot : ServiceSlot}
    (h : CheckInInv start view table) (hslot : table.slots[i]?=some slot) :
    ∃ old, start.slots[i]?=some old ∧ slot.reg.timeoutValue=old.reg.timeoutValue ∧
      slot.reg.taskHandle=old.reg.taskHandle := by
  have hi := congrArg (·[i]?) h.registered
  simp only [List.getElem?_map,hslot,Option.map_some] at hi
  obtain ⟨old,hold,heq⟩ := Option.map_eq_some_iff.mp hi.symm
  exact ⟨old,hold,(Prod.mk.inj heq).1.symm,(Prod.mk.inj heq).2.symm⟩

/-- A pass settles an entry with a live handle and closes its gap. -/
theorem entryTracks_pass {view : GapView} {i : ℕ} {slot : ServiceSlot} {task : ℕ}
    (h : EntryTracks view i slot) (hlive : slot.reg.taskHandle=some (some task)) :
    EntryTracks (gapStep view .pass) i (checkSlot (notifySlot slot)) := by
  have hnotified : (notifySlot slot).notified=true := by rw [notifySlot,hlive]
  refine ⟨by simp,by simp [hnotified],?_⟩
  unfold EntryTracks at h
  cases hcurrent : view.current with
  | none =>
    rw [hcurrent] at h
    -- Before the first pass the restflag is still set from the registration.
    rw [checkSlot,notifySlot_reg,if_pos h.2]
    simp only [gapStep,hcurrent,h.1]
    rfl
  | some gap =>
    rw [hcurrent] at h
    obtain ⟨hflag,-,hcount⟩ := h
    simp only [gapStep,hcurrent,Option.toList_some,dryGaps_snoc]
    by_cases hi : i∈gap
    · rw [if_pos hi,checkSlot,notifySlot_reg,if_pos (by rw [hflag]; exact decide_eq_true hi)]
      rfl
    · rw [if_neg hi,checkSlot,notifySlot_reg,if_neg (by simp [hflag,hi]),bumpSlot_timercount,
        notifySlot_timercount]
      omega

/-- A loop head of the task of an entry consumes the pending notification, if
any, and leaves the restflag set. -/
theorem entryTracks_loopHead {view : GapView} {taskId : UInt8} {slot : ServiceSlot}
    (h : EntryTracks view taskId.toNat slot) :
    EntryTracks (gapStep view (.loopHead taskId)) taskId.toNat
      (if slot.notified=true then setRestflag (consumeNotification slot) else slot) := by
  unfold EntryTracks at h ⊢
  cases hcurrent : view.current with
  | none =>
    simp only [hcurrent,gapStep,Option.map_none] at h ⊢
    split
    · exact ⟨h.1,rfl⟩
    · exact h
  | some gap =>
    simp only [hcurrent,gapStep,Option.map_some] at h ⊢
    obtain ⟨hflag,hnotified,hcount⟩ := h
    by_cases hi : taskId.toNat∈gap
    · rw [if_neg (by simp [hnotified,hi])]
      simp [hflag,hnotified,hcount,hi]
    · rw [if_pos (by simp [hnotified,hi])]
      exact ⟨by simp [setRestflag],by simp [setRestflag,consumeNotification],hcount⟩

/-- A loop head of another task leaves the entry as it is. -/
theorem entryTracks_loopHead_other {view : GapView} {taskId : UInt8} {i : ℕ} {slot : ServiceSlot}
    (h : EntryTracks view i slot) (hi : i≠taskId.toNat) :
    EntryTracks (gapStep view (.loopHead taskId)) i slot := by
  unfold EntryTracks at h ⊢
  cases hcurrent : view.current with
  | none => simpa only [hcurrent,gapStep,Option.map_none] using h
  | some gap =>
    simp only [hcurrent,gapStep,Option.map_some,List.mem_append,List.mem_singleton,hi,or_false] at h ⊢
    exact h

/-- The entries after a loop head: only a notified entry of that task changes. -/
theorem taskLoopHead_getElem? (table : ServiceTable) (taskId : UInt8) (i : ℕ) :
    (taskLoopHead table taskId).slots[i]?=table.slots[i]?.map (fun slot =>
      if taskId.toNat=i ∧ slot.notified=true then setRestflag (consumeNotification slot) else slot) := by
  unfold taskLoopHead
  cases hslot : table.slots[taskId.toNat]? with
  | none =>
    rcases eq_or_ne taskId.toNat i with rfl|hi
    · simp [hslot]
    · simp [hi]
  | some slot =>
    dsimp only
    split
    next hnotified =>
      rw [resetHeltMonitService_eq,updateSlot_getElem?,updateSlot_getElem?,Option.map_map]
      rcases eq_or_ne taskId.toNat i with rfl|hi
      · simp [hslot,hnotified]
      · simp [Function.comp_def,hi]
    next hnotified =>
      rcases eq_or_ne taskId.toNat i with rfl|hi
      · simp [hslot,hnotified]
      · simp [hi]

/-- Every step keeps the joint invariant, provided all handles are live. -/
theorem checkInInv_step {start table : ServiceTable} {view : GapView} (e : Event)
    (hlive : ∀ slot∈start.slots,∃ task,slot.reg.taskHandle=some (some task))
    (h : CheckInInv start view table) :
    CheckInInv start (gapStep view e) (checkIns.step table e).1 := by
  cases e with
  | pass =>
    constructor
    · simp only [checkIns,healthMonitorPass_slots,List.map_map,←h.registered]
      simp [Function.comp_def]
    · intro i slot hslot
      simp only [checkIns,healthMonitorPass_slots,List.getElem?_map] at hslot
      obtain ⟨old,hold,rfl⟩ := Option.map_eq_some_iff.mp hslot
      obtain ⟨first,hfirst,-,hhandle⟩ := h.origin hold
      obtain ⟨task,htask⟩ := hlive first (List.mem_of_getElem? hfirst)
      exact entryTracks_pass (h.tracks i old hold) (hhandle.trans htask)
  | loopHead taskId =>
    constructor
    · rw [←h.registered]
      apply List.ext_getElem?
      intro i
      simp only [checkIns,List.getElem?_map,taskLoopHead_getElem?,Option.map_map]
      congr 1
      funext slot
      simp only [Function.comp]
      split <;> rfl
    · intro i slot hslot
      simp only [checkIns,taskLoopHead_getElem?] at hslot
      obtain ⟨old,hold,rfl⟩ := Option.map_eq_some_iff.mp hslot
      rcases eq_or_ne i taskId.toNat with rfl|hi
      · simpa using entryTracks_loopHead (h.tracks _ old hold)
      · simpa [hi.symm] using entryTracks_loopHead_other (h.tracks i old hold) hi

/-- The joint invariant holds of a table whose registrations set the restflag. -/
theorem checkInInv_start {table : ServiceTable}
    (hflag : ∀ slot∈table.slots,slot.reg.restflag=true) :
    CheckInInv table ⟨none,[]⟩ (clearCounters table) := by
  constructor
  · simp [clearCounters,Function.comp_def]
  · intro i slot hslot
    simp only [clearCounters,List.getElem?_map] at hslot
    obtain ⟨old,hold,rfl⟩ := Option.map_eq_some_iff.mp hslot
    exact ⟨rfl,hflag old (List.mem_of_getElem? hold)⟩

/-- A pass feeds the watchdog when the dry gaps it closes leave every entry
below its timeout. -/
theorem pass_refreshes {start table : ServiceTable} {view : GapView} (width : ℕ → ℕ)
    (hlive : ∀ slot∈start.slots,∃ task,slot.reg.taskHandle=some (some task))
    (h : CheckInInv start view table)
    (hwidth : ∀ i slot, start.slots[i]?=some slot →
      0<slot.reg.timeoutValue.toNat ∧ 10*(width i-1)<slot.reg.timeoutValue.toNat ∧
        dryGaps i (gapStep view .pass).closed<width i) :
    (healthMonitorPass table).2.refreshed=true := by
  rw [healthMonitorPass_refreshed]
  intro slot hmem
  obtain ⟨i,hi,rfl⟩ := List.getElem_of_mem hmem
  have hslot := List.getElem?_eq_getElem hi
  obtain ⟨first,hfirst,htimeout,hhandle⟩ := h.origin hslot
  obtain ⟨task,htask⟩ := hlive first (List.mem_of_getElem? hfirst)
  obtain ⟨-,-,hcount⟩ := entryTracks_pass (h.tracks i _ hslot) (hhandle.trans htask)
  obtain ⟨-,hlimit,hdry⟩ := hwidth i first hfirst
  rw [Bool.eq_false_iff,ne_eq,slotExpired_iff,checkSlot_timeout,notifySlot_reg,htimeout,hcount]
  omega

/-- No false starvation: where every window of `width i` consecutive gaps holds
a loop head of task `i`, and a whole window of missed passes but one stays below
the timeout, every pass feeds the watchdog. -/
theorem every_pass_refreshes (table : ServiceTable) (events : List Event) (width : ℕ → ℕ)
    (hregistered : ∀ slot∈table.slots,slot.reg.restflag=true ∧ 0<slot.reg.timeoutValue.toNat ∧
      ∃ task,slot.reg.taskHandle=some (some task))
    (hlimit : ∀ i slot, table.slots[i]?=some slot → 10*(width i-1)<slot.reg.timeoutValue.toNat)
    (hheads : ∀ i, i<table.slots.length → HeadInEveryWindow i (width i) (gapsOf events)) :
    ∀ report∈checkIns.trace (clearCounters table) events,report.refreshed=true := by
  have hlive : ∀ slot∈table.slots,∃ task,slot.reg.taskHandle=some (some task) :=
    fun slot hslot => (hregistered slot hslot).2.2
  refine (checkIns.history_invariant (fun before reports state =>
    CheckInInv table (gapView before) state ∧ ∀ report∈reports,report.refreshed=true)
    ⟨checkInInv_start (fun slot hslot => (hregistered slot hslot).1),by simp⟩ ?_).2
  rintro before e reports state hbefore ⟨hinv,hreports⟩
  refine ⟨by rw [gapView_snoc]; exact checkInInv_step e hlive hinv,?_⟩
  intro report hreport
  rcases List.mem_append.mp hreport with hold|hnew
  · exact hreports report hold
  · cases e with
    | loopHead taskId => cases hnew
    | pass =>
      obtain rfl := List.mem_singleton.mp hnew
      refine pass_refreshes width hlive hinv ?_
      intro i slot hslot
      have hlt := (List.getElem?_eq_some_iff.mp hslot).1
      have hdry := dryGaps_lt ((hheads i hlt).mono (gapsOf_mono hbefore))
      rw [gapsOf,gapView_snoc] at hdry
      exact ⟨(hregistered slot (List.mem_of_getElem? hslot)).2.1,hlimit i slot hslot,hdry⟩

/-- Six passes. In every three gaps in a row each of the six services of the firmware comes to
its loop head, and between the second and the third pass none does. -/
def sparseRun : List Event :=
  [.pass,.loopHead 5,.loopHead 0,.loopHead 3,.pass,.pass,.loopHead 4,.loopHead 0,.loopHead 1,
    .loopHead 2,.pass,.loopHead 3,.loopHead 5,.loopHead 0,.pass,.pass]

/-- Every pass of this run refreshes the watchdog. -/
theorem sparseRun_refreshes :
    ((checkIns.trace (clearCounters bootTable) sparseRun).all PassReport.refreshed)=true := by
  refine List.all_eq_true.mpr (every_pass_refreshes bootTable sparseRun (fun _ => 3)
    (by simp [bootTable,bootRequests,bootSlot]) ?_ (by decide))
  intro i slot hslot
  have hmem := List.mem_of_getElem? hslot
  clear hslot
  revert slot
  simp [bootTable,bootRequests,bootSlot]

end WebDataLogger.HealthMonitorCheckIns
