import WebDataLogger.LwipTimeoutsClock

/-!
# Timeouts in the order of their instants

A timeout that is armed is once taken off by its owner, or its function is called, or it is
still pending. Functions are called in the order of the instants at which their timeouts are
due, those of one instant in the order in which they were armed, and none is called early.
The thread sleeps until the first timeout that is pending and leaves none that was due when its
check began.
-/

namespace WebDataLogger.LwipTimeouts

open TransitionRuns StableQueue

/-- Timeouts that were armed, with the instants at which they are due. -/
def armedIn (trace : List Observation) : List (SysTimeo ℕ) :=
  trace.filterMap fun
    | .armed instant h arg ahead => some ⟨instant+ahead,h,arg⟩
    | _ => none

/-- Timeouts whose functions were called, with the instants at which they were due. -/
def expiredIn (trace : List Observation) : List (SysTimeo ℕ) :=
  trace.filterMap fun
    | .expired instant h arg late => some ⟨instant-late,h,arg⟩
    | _ => none

/-- Functions and arguments of the timeouts that were taken off. -/
def removedIn (trace : List Observation) : List (Handler×ℕ) :=
  trace.filterMap fun
    | .removed h arg => some (h,arg)
    | _ => none

/-- Every timeout that was armed has been called, is gone, or is pending. -/
structure Settled (trace : List Observation) (gone pending : List (SysTimeo ℕ)) : Prop where
  armed : (armedIn trace).Perm (expiredIn trace++gone++pending)
  removed : gone.map (fun t => (t.h,t.arg))=removedIn trace

/-- Timeouts of one instant. -/
def dueAt (instant : ℕ) (timeouts : List (SysTimeo ℕ)) : List (SysTimeo ℕ) :=
  timeouts.filter (fun t => t.time=instant)

/-- Timeouts are settled in the order of the instants at which they are due. -/
structure InOrder (trace : List Observation) (gone pending : List (SysTimeo ℕ)) : Prop where
  settled : Settled trace gone pending
  ordered : (expiredIn trace++pending).Pairwise (fun t u => t.time≤u.time)
  /-- Those of one instant are called in the order in which they were armed. -/
  fifo : ∀ instant,
    (dueAt instant (expiredIn trace++pending)).Sublist (dueAt instant (armedIn trace))
  notEarly : ∀ {instant h arg late}, .expired instant h arg late∈trace → late ≤ instant

/-- What the observations so far and the module have in common. -/
structure History (trace : List Observation) (gone : List (SysTimeo ℕ)) (s : System ℕ) : Prop
    extends InOrder trace gone s.timeouts.nextTimeout where
  past : ∀ t∈expiredIn trace, t.time ≤ s.instant

section Steps

variable {s : System ℕ} {trace : List Observation} {gone : List (SysTimeo ℕ)}

/-- Nothing was armed, called or taken off. -/
def Quiet (obs : List Observation) : Prop :=
  armedIn obs=[] ∧ expiredIn obs=[] ∧ removedIn obs=[] ∧
    ∀ instant h arg late, .expired instant h arg late∉obs

theorem armedIn_append (first second : List Observation) :
    armedIn (first++second)=armedIn first++armedIn second := List.filterMap_append

theorem expiredIn_append (first second : List Observation) :
    expiredIn (first++second)=expiredIn first++expiredIn second := List.filterMap_append

theorem removedIn_append (first second : List Observation) :
    removedIn (first++second)=removedIn first++removedIn second := List.filterMap_append

/-- No timeout was armed meanwhile. -/
theorem armedIn_other {obs : List Observation} (h : armedIn obs=[]) :
    armedIn (trace++obs)=armedIn trace := by
  rw [armedIn_append,h,List.append_nil]

/-- No function was called meanwhile. -/
theorem expiredIn_other {obs : List Observation} (h : expiredIn obs=[]) :
    expiredIn (trace++obs)=expiredIn trace := by
  rw [expiredIn_append,h,List.append_nil]

/-- No timeout was taken off meanwhile. -/
theorem removedIn_other {obs : List Observation} (h : removedIn obs=[]) :
    removedIn (trace++obs)=removedIn trace := by
  rw [removedIn_append,h,List.append_nil]

/-- Observations of other kinds settle nothing. -/
theorem History.quiet (h : History trace gone s) {t : System ℕ} {obs : List Observation}
    (hquiet : Quiet obs) (hlist : t.timeouts.nextTimeout=s.timeouts.nextTimeout)
    (hi : s.instant≤t.instant) : History (trace++obs) gone t := by
  obtain ⟨harmed,hexpired,hremoved,hnone⟩ := hquiet
  have harmed := @armedIn_other trace obs harmed
  have hexpired := @expiredIn_other trace obs hexpired
  have hremoved := @removedIn_other trace obs hremoved
  refine ⟨⟨?_,?_,?_,?_⟩,?_⟩
  · rw [hlist]
    exact ⟨by rw [harmed,hexpired]; exact h.settled.armed,h.settled.removed.trans hremoved.symm⟩
  · rw [hexpired,hlist]
    exact h.ordered
  · intro instant
    rw [harmed,hexpired,hlist]
    exact h.fifo instant
  · intro instant hd arg late hmem
    rcases List.mem_append.mp hmem with hmem|hmem
    · exact h.notEarly hmem
    · exact absurd hmem (hnone _ _ _ _)
  · rw [hexpired]
    exact fun u hu => (h.past u hu).trans hi

/-- A timeout is armed. -/
theorem History.arms (h : History trace gone s) {t : System ℕ} {u : SysTimeo ℕ}
    {note : List Observation} (hnote : Quiet note) (hi : t.instant=s.instant)
    (hlist : t.timeouts.nextTimeout=enqueue SysTimeo.time u s.timeouts.nextTimeout)
    (hle : s.instant≤u.time) :
    History (trace++(note++[.armed s.instant u.h u.arg (u.time-s.instant)])) gone t := by
  have hquiet := h.quiet hnote rfl (le_refl s.instant)
  rw [←List.append_assoc]
  generalize trace++note=trace at hquiet
  have harmed : armedIn (trace++[.armed s.instant u.h u.arg (u.time-s.instant)])=
      armedIn trace++[u] := by
    rw [armedIn_append]
    show _++[(⟨s.instant+(u.time-s.instant),u.h,u.arg⟩ : SysTimeo ℕ)]=_
    rw [Nat.add_sub_cancel' hle]
  have hexpired : expiredIn (trace++[.armed s.instant u.h u.arg (u.time-s.instant)])=
      expiredIn trace :=
    expiredIn_other rfl
  have hremoved : removedIn (trace++[.armed s.instant u.h u.arg (u.time-s.instant)])=
      removedIn trace :=
    removedIn_other rfl
  obtain ⟨hbefore,hpending,hcross⟩ := List.pairwise_append.mp hquiet.ordered
  refine ⟨⟨?_,?_,?_,?_⟩,?_⟩
  · rw [hlist]
    refine ⟨?_,hquiet.settled.removed.trans hremoved.symm⟩
    rw [harmed,hexpired]
    refine (hquiet.settled.armed.append_right [u]).trans ?_
    rw [List.append_assoc]
    exact (List.perm_append_comm.trans (enqueue_perm SysTimeo.time u _).symm).append_left _
  · rw [hexpired,hlist]
    refine List.pairwise_append.mpr ⟨hbefore,Ordered.enqueue SysTimeo.time hpending u,?_⟩
    intro v hv w hw
    rcases (mem_enqueue SysTimeo.time).mp hw with rfl|hw
    · exact (hquiet.past v hv).trans hle
    · exact hcross v hv w hw
  · intro instant
    have hfilter := filter_enqueue SysTimeo.time hpending u instant
    have hold := hquiet.fifo instant
    rw [harmed,hexpired,hlist]
    unfold dueAt at hold ⊢
    rw [List.filter_append,hfilter,List.filter_append,List.filter_append,←List.append_assoc,
      ←List.filter_append]
    exact hold.append (List.Sublist.refl _)
  · intro instant hd arg late hmem
    rcases List.mem_append.mp hmem with hmem|hmem
    · exact hquiet.notEarly hmem
    · simp at hmem
  · rw [hexpired,hi]
    exact hquiet.past

/-- A timeout is taken off. -/
theorem History.removes (h : History trace gone s) {t : System ℕ} (hd : Handler) (arg : ℕ)
    (hany : s.timeouts.nextTimeout.any (fun t => t.isFor hd arg)=true) (hi : t.instant=s.instant)
    (hlist : t.timeouts.nextTimeout=
      s.timeouts.nextTimeout.eraseP (fun t => t.isFor hd arg)) :
    ∃ gone, History (trace++[.removed hd arg]) gone t := by
  obtain ⟨u,hu,hfor⟩ := List.any_eq_true.mp hany
  obtain ⟨u,before,after,-,hfor,hsplit,herase⟩ :=
    @List.exists_of_eraseP _ (fun t => t.isFor hd arg) _ _ hu hfor
  have hfor : u.h=hd ∧ u.arg=arg := by simpa [SysTimeo.isFor] using hfor
  have hsub : t.timeouts.nextTimeout.Sublist s.timeouts.nextTimeout :=
    hlist▸List.eraseP_sublist
  have harmed : armedIn (trace++[.removed hd arg])=armedIn trace :=
    armedIn_other rfl
  have hexpired : expiredIn (trace++[.removed hd arg])=expiredIn trace :=
    expiredIn_other rfl
  refine ⟨gone++[u],⟨⟨?_,?_⟩,?_,?_,?_⟩,?_⟩
  · rw [harmed,hexpired,hlist,herase]
    refine h.settled.armed.trans ?_
    rw [hsplit,List.append_assoc,List.append_assoc,List.append_assoc]
    exact ((List.perm_middle.trans (List.Perm.refl (u::(before++after)))).append_left
      gone).append_left _
  · rw [List.map_append,h.settled.removed,removedIn_append,List.map_singleton,hfor.1,hfor.2]
    rfl
  · rw [hexpired]
    exact h.ordered.sublist (hsub.append_left _)
  · intro instant
    rw [harmed,hexpired]
    exact ((hsub.append_left _).filter _).trans (h.fifo instant)
  · intro instant hd' arg' late hmem
    rcases List.mem_append.mp hmem with hmem|hmem
    · exact h.notEarly hmem
    · simp at hmem
  · rw [hexpired,hi]
    exact h.past

/-- The function of the first timeout is called. -/
theorem History.expires (h : History trace gone s) {t : System ℕ} {u : SysTimeo ℕ}
    {rest : List (SysTimeo ℕ)} (hl : s.timeouts.nextTimeout=u::rest) (hle : u.time ≤ s.instant)
    (hi : t.instant=s.instant) (hlist : t.timeouts.nextTimeout=rest) :
    History (trace++[.expired s.instant u.h u.arg (s.instant-u.time)]) gone t := by
  have harmed : armedIn (trace++[.expired s.instant u.h u.arg (s.instant-u.time)])=
      armedIn trace :=
    armedIn_other rfl
  have hremoved : removedIn (trace++[.expired s.instant u.h u.arg (s.instant-u.time)])=
      removedIn trace :=
    removedIn_other rfl
  have hexpired : expiredIn (trace++[.expired s.instant u.h u.arg (s.instant-u.time)])=
      expiredIn trace++[u] := by
    rw [expiredIn_append]
    show _++[(⟨s.instant-(s.instant-u.time),u.h,u.arg⟩ : SysTimeo ℕ)]=_
    rw [Nat.sub_sub_self hle]
  have hmove : expiredIn trace++[u]++rest=expiredIn trace++s.timeouts.nextTimeout := by
    rw [hl,List.append_assoc]
    rfl
  refine ⟨⟨?_,?_,?_,?_⟩,?_⟩
  · rw [hlist]
    refine ⟨?_,h.settled.removed.trans hremoved.symm⟩
    rw [harmed,hexpired]
    refine h.settled.armed.trans ?_
    rw [hl,List.append_assoc,List.append_assoc,List.append_assoc]
    exact List.perm_middle.append_left _
  · rw [hexpired,hlist,hmove]
    exact h.ordered
  · intro instant
    rw [harmed,hexpired,hlist,hmove]
    exact h.fifo instant
  · intro instant hd arg late hmem
    rcases List.mem_append.mp hmem with hmem|hmem
    · exact h.notEarly hmem
    · simp only [List.mem_singleton,Observation.expired.injEq] at hmem
      omega
  · rw [hexpired,hi]
    intro v hv
    rcases List.mem_append.mp hv with hv|hv
    · exact h.past v hv
    · obtain rfl := List.mem_singleton.mp hv
      exact hle

/-- An event over times that never wrap keeps the history in order. -/
theorem Effect.history {e : Event} {t : System ℕ} {obs : List Observation}
    (heffect : Effect s e t obs) (hw : Within s) (h : History trace gone s) :
    ∃ gone, History (trace++obs) gone t := by
  have hnil : Quiet [] := ⟨rfl,rfl,rfl,fun _ _ _ _ h => List.not_mem_nil h⟩
  have hsingle {o : Observation} (ho : armedIn [o]=[] ∧ expiredIn [o]=[] ∧ removedIn [o]=[])
      (hnot : ∀ instant h arg late, o≠.expired instant h arg late) : Quiet [o] :=
    ⟨ho.1,ho.2.1,ho.2.2,fun _ _ _ _ hmem => hnot _ _ _ _ (List.mem_singleton.mp hmem).symm⟩
  cases heffect with
  | passes msecs => exact ⟨gone,h.quiet hnil rfl (Nat.le_add_right _ _)⟩
  | stays => exact ⟨gone,h.quiet hnil rfl le_rfl⟩
  | waits =>
    exact ⟨gone,h.quiet (hsingle ⟨rfl,rfl,rfl⟩ (fun _ _ _ _ => nofun)) rfl le_rfl⟩
  | begins => exact ⟨gone,h.quiet hnil rfl le_rfl⟩
  | returns =>
    exact ⟨gone,h.quiet (hsingle ⟨rfl,rfl,rfl⟩ (fun _ _ _ _ => nofun)) rfl le_rfl⟩
  | retires => exact ⟨gone,h.quiet hnil rfl le_rfl⟩
  | halts hfault hi hl hfree hp ho =>
    refine ⟨gone,h.quiet ?_ hl hi.ge⟩
    rcases ho with rfl|⟨i,rfl⟩
    · exact hsingle ⟨rfl,rfl,rfl⟩ (fun _ _ _ _ => nofun)
    · exact ⟨rfl,rfl,rfl,fun _ _ _ _ hmem => by simp at hmem⟩
  | arms hcause hfree =>
    refine ⟨gone,h.arms ?_ rfl rfl hcause.instant_le⟩
    rcases hcause.note_cases with rfl|⟨i,rfl⟩
    · exact hnil
    · exact hsingle ⟨rfl,rfl,rfl⟩ (fun _ _ _ _ => nofun)
  | removes hd arg hany => exact h.removes hd arg hany rfl rfl
  | @expires now u rest hp hl hle =>
    exact ⟨gone,h.expires hl (hle.trans (hw.begun now (by rw [hp]; rfl))) rfl rfl⟩

end Steps

section Latest

/-- A wait ends with the first timeout that is pending. -/
def Wait.Fits (instant : ℕ) (pending : List (SysTimeo ℕ)) : Wait → Prop
  | .forever => pending=[]
  | .check => ∃ t∈pending, t.time ≤ instant
  | .upTo msecs => 0 < msecs ∧ (∃ t∈pending, t.time=instant+msecs) ∧
      ∀ t∈pending, instant+msecs≤t.time

/-- In an ordered list the first timeout decides how long the thread waits. -/
theorem waitFor_fits {pending : List (SysTimeo ℕ)}
    (h : pending.Pairwise (fun t u => t.time≤u.time)) (instant : ℕ) :
    (waitFor instant pending).Fits instant pending := by
  cases pending with
  | nil => exact rfl
  | cons first rest =>
    obtain ⟨hfirst,-⟩ := List.pairwise_cons.mp h
    rw [waitFor]
    by_cases hdue : first.time ≤ instant
    · rw [if_pos hdue]
      exact ⟨first,List.mem_cons_self,hdue⟩
    · rw [if_neg hdue]
      refine ⟨by omega,⟨first,List.mem_cons_self,by omega⟩,fun t ht => ?_⟩
      rcases List.mem_cons.mp ht with rfl|ht
      · omega
      · have hle := hfirst t ht
        omega

/-- A request is for a timeout that is too far ahead. -/
def Event.tooLong : Event → Bool
  | .timeout msecs _ _ => decide (span ≤ msecs)
  | _ => false

/-- What the thread can rely on when it waits. -/
structure WakesInTime (trace : List Observation) (overlong : Prop)
    (pending : List (SysTimeo ℕ)) : Prop where
  /-- A check leaves no timeout that was due when it began. -/
  checked : ∀ {instant duration}, trace.getLast?=some (.checked instant duration) →
    duration ≤ instant ∧ ∀ t∈pending, instant-duration<t.time
  /-- The thread sleeps exactly until the first timeout that is pending. -/
  waits : ∀ {instant wait}, trace.getLast?=some (.waits instant wait) → wait.Fits instant pending
  /-- An assertion fails only where the pool is used up or a timeout is asked for too far ahead. -/
  failed : .assertionFailed∈trace → pending.length=memNumSysTimeout ∨ overlong

/-- What the latest observation and the module have in common. -/
structure Latest (trace : List Observation) (overlong : Prop) (s : System ℕ) : Prop
    extends WakesInTime trace overlong s.timeouts.nextTimeout where
  pool : s.timeouts.nextTimeout.length+s.timeouts.free=memNumSysTimeout
  halted : .assertionFailed∈trace → s.position=.halted

variable {s t : System ℕ} {trace obs : List Observation} {overlong : Prop}

/-- Nothing new is said about the same timeouts. -/
theorem Latest.silent (h : Latest trace overlong s)
    (hlist : t.timeouts.nextTimeout=s.timeouts.nextTimeout)
    (hfree : t.timeouts.free=s.timeouts.free) (hp : s.position=.halted → t.position=.halted) :
    Latest (trace++[]) overlong t := by
  rw [List.append_nil]
  refine ⟨?_,?_,fun hmem => hp (h.halted hmem)⟩
  · rw [hlist]
    exact h.toWakesInTime
  · rw [hlist,hfree]
    exact h.pool

/-- Another observation is the latest one. -/
theorem Latest.concat {o : Observation} (hnot : .assertionFailed∉trace)
    (hpool : t.timeouts.nextTimeout.length+t.timeouts.free=memNumSysTimeout)
    (hchecked : ∀ instant duration, o=.checked instant duration →
      duration ≤ instant ∧ ∀ u∈t.timeouts.nextTimeout, instant-duration<u.time)
    (hwaits : ∀ instant wait, o=.waits instant wait → wait.Fits instant t.timeouts.nextTimeout)
    (hfailed : o≠.assertionFailed) : Latest (trace++[o]) overlong t := by
  have hnot : .assertionFailed∉trace++[o] := by
    rw [List.mem_append,List.mem_singleton]
    exact not_or.mpr ⟨hnot,hfailed.symm⟩
  refine ⟨⟨?_,?_,fun h => absurd h hnot⟩,hpool,fun h => absurd h hnot⟩
  · intro instant duration hlast
    rw [List.getLast?_concat] at hlast
    exact hchecked _ _ (Option.some.inj hlast)
  · intro instant wait hlast
    rw [List.getLast?_concat] at hlast
    exact hwaits _ _ (Option.some.inj hlast)

/-- An event over times that never wrap keeps what the latest observation says. -/
theorem Effect.latest {e : Event} (heffect : Effect s e t obs) (hw : Within s) (hon : InTime s e)
    (hordered : s.timeouts.nextTimeout.Pairwise (fun t u => t.time≤u.time))
    (hlong : e.tooLong=true → overlong) (h : Latest trace overlong s)
    (hlive : s.position≠.halted) : Latest (trace++obs) overlong t := by
  have hnot : .assertionFailed∉trace := fun hmem => hlive (h.halted hmem)
  have hspan : span=2^30 := rfl
  have hmax : lwipMaxTimeout.toNat=2^31-1 := rfl
  cases heffect with
  | passes msecs => exact h.silent rfl rfl id
  | stays => exact h.silent rfl rfl id
  | begins => exact h.silent rfl rfl (fun hp => absurd hp hlive)
  | retires => exact h.silent rfl rfl (fun hp => absurd hp hlive)
  | @halts _ _ _ hfault hi hl hfree hp ho =>
    have hfailed : s.timeouts.nextTimeout.length=memNumSysTimeout ∨ overlong := by
      cases hfault with
      | poolEmpty e hempty =>
        have hpool := h.pool
        exact Or.inl (by omega)
      | tooLong hd arg hm => exact Or.inr (hlong (decide_eq_true hm))
      | @sleeptime u hu hfar =>
        have hsoon := hw.soon u hu
        omega
    have hlast : (trace++obs).getLast?=some .assertionFailed := by
      rcases ho with rfl|⟨i,rfl⟩
      · exact List.getLast?_concat
      · rw [List.getLast?_append]
        rfl
    refine ⟨⟨?_,?_,fun _ => hl▸hfailed⟩,by rw [hl,hfree]; exact h.pool,fun _ => hp⟩
    · intro instant duration hchecked
      cases hlast.symm.trans hchecked
    · intro instant wait hwaits
      cases hlast.symm.trans hwaits
  | @arms _ position active u note free hcause hfree =>
    have hlength := (enqueue_perm SysTimeo.time u s.timeouts.nextTimeout).length_eq
    have hpool := h.pool
    rw [←List.append_assoc]
    refine Latest.concat ?_ ?_ (fun _ _ => nofun) (fun _ _ => nofun) nofun
    · rcases hcause.note_cases with rfl|⟨i,rfl⟩
      · rwa [List.append_nil]
      · rw [List.mem_append,List.mem_singleton]
        exact not_or.mpr ⟨hnot,nofun⟩
    · rw [List.length_cons] at hlength
      dsimp only
      omega
  | removes hd arg hany =>
    have hpool := h.pool
    obtain ⟨u,hu,hfor⟩ := List.any_eq_true.mp hany
    have hlength : (s.timeouts.nextTimeout.eraseP (fun t => t.isFor hd arg)).length=
        s.timeouts.nextTimeout.length-1 := List.length_eraseP_of_mem hu hfor
    have hpos := List.length_pos_of_mem hu
    refine Latest.concat hnot ?_ (fun _ _ => nofun) (fun _ _ => nofun) nofun
    dsimp only
    omega
  | @expires now u rest hp hl hle =>
    have hpool := h.pool
    rw [hl,List.length_cons] at hpool
    refine Latest.concat hnot ?_ (fun _ _ => nofun) (fun _ _ => nofun) nofun
    dsimp only
    omega
  | @returns now hp hnone =>
    have hbegun := hw.begun now (by rw [hp]; rfl)
    refine Latest.concat hnot h.pool ?_ (fun _ _ => nofun) nofun
    intro instant duration heq
    obtain ⟨rfl,rfl⟩ := Observation.checked.inj heq
    refine ⟨Nat.sub_le _ _,fun u hu => ?_⟩
    rw [Nat.sub_sub_self hbegun]
    -- The first timeout is due after the check began, and the others are not due earlier.
    have hu : u∈s.timeouts.nextTimeout := hu
    cases hl : s.timeouts.nextTimeout with
    | nil =>
      rw [hl] at hu
      cases hu
    | cons first rest =>
      rw [hl] at hu hordered hnone
      have hfirst := hnone first rfl
      rcases List.mem_cons.mp hu with rfl|hu
      · exact hfirst
      · exact hfirst.trans_le ((List.pairwise_cons.mp hordered).1 u hu)
  | waits hsoon =>
    refine Latest.concat hnot h.pool (fun _ _ => nofun) ?_ nofun
    intro instant wait heq
    obtain ⟨rfl,rfl⟩ := Observation.waits.inj heq
    exact waitFor_fits hordered _

/-- The pool is full at boot. -/
theorem boot_latest (instant : ℕ) : Latest [] overlong (boot ℕ instant) where
  pool := rfl
  checked h := by cases h
  waits h := by cases h
  failed h := absurd h List.not_mem_nil
  halted h := absurd h List.not_mem_nil

end Latest

section Runs

/-- Nothing has happened at boot. -/
theorem boot_history (instant : ℕ) : History [] [] (boot ℕ instant) where
  settled := ⟨List.Perm.refl _,rfl⟩
  ordered := List.Pairwise.nil
  fifo _ := List.Sublist.refl _
  past _ ht := absurd ht List.not_mem_nil
  notEarly h := absurd h List.not_mem_nil

/-- What holds of every run that stays on time. -/
theorem run_history (instant : ℕ) {events : List Event}
    (hon : (lwip ℕ).Guarded InTime (boot ℕ instant) events) :
    (∃ gone, History ((lwip ℕ).trace (boot ℕ instant) events) gone
      ((lwip ℕ).run (boot ℕ instant) events)) ∧
    Latest ((lwip ℕ).trace (boot ℕ instant) events) (∃ e∈events, e.tooLong=true)
      ((lwip ℕ).run (boot ℕ instant) events) := by
  have hinv := Machine.Guarded.history
    (fun trace s => Within s ∧ (∃ gone, History trace gone s) ∧
      Latest trace (∃ e∈events, e.tooLong=true) s)
    (show _ ∧ _ from ⟨boot_within instant,⟨[],boot_history instant⟩,boot_latest instant⟩)
    (fun trace s e he ⟨hw,⟨gone,h⟩,hlatest⟩ hon =>
      ⟨(step_effect s e).within hw hon,(step_effect s e).history hw h,?_⟩) hon
  · exact hinv.2
  by_cases hp : s.position=.halted
  · obtain ⟨later,-,hstep⟩ := step_halted hp e
    rw [hstep]
    exact hlatest.silent rfl rfl id
  · exact (step_effect s e).latest hw hon (List.pairwise_append.mp h.ordered).2.1
      (fun hlong => ⟨e,he,hlong⟩) hlatest hp

/-- Every timeout that is armed is called once, is taken off or is pending. The functions are
called in the order of the instants at which their timeouts are due, those of one instant in
the order in which they were armed, and none is called early, wherever the clock of 32 bits
wraps, as long as no timeout is overdue by `2^30` ms, and no check lasts as long, when the
module is used. -/
theorem timeouts_in_order (instant : ℕ) (events : List Event)
    (hon : (lwip ℕ).Guarded InTime (boot ℕ instant) events) :
    ∃ gone pending : List (SysTimeo ℕ),
      ((lwip UInt32).run (boot UInt32 instant) events).timeouts.nextTimeout=
        pending.map SysTimeo.shown ∧
      InOrder ((lwip UInt32).trace (boot UInt32 instant) events) gone pending := by
  obtain ⟨htrace,hrun,-⟩ := runs_shown (boot_within instant) hon
  obtain ⟨⟨gone,h⟩,-⟩ := run_history instant hon
  rw [show boot UInt32 instant=(boot ℕ instant).shown from rfl,htrace,hrun]
  exact ⟨gone,_,rfl,h.toInOrder⟩

/-- Across the wrap the functions are called in order. -/
theorem wrappingRun_in_order :
    ∃ gone pending : List (SysTimeo ℕ),
      ((lwip UInt32).run (boot UInt32 (2^32-200)) wrappingRun).timeouts.nextTimeout=
        pending.map SysTimeo.shown ∧
      InOrder ((lwip UInt32).trace (boot UInt32 (2^32-200)) wrappingRun) gone pending :=
  timeouts_in_order (2^32-200) wrappingRun (by decide +kernel)

/-- A check leaves no timeout that was due when it began, and the thread sleeps exactly until
the first timeout that is pending. An assertion fails only where the pool of ten timeouts is
used up or a timeout is asked for more than `LWIP_UINT32_MAX / 4` ms ahead. This holds as long
as no timeout is overdue by `2^30` ms, and no check lasts as long, when the module is used. -/
theorem thread_wakes_in_time (instant : ℕ) (events : List Event)
    (hon : (lwip ℕ).Guarded InTime (boot ℕ instant) events) :
    ∃ gone pending : List (SysTimeo ℕ),
      ((lwip UInt32).run (boot UInt32 instant) events).timeouts.nextTimeout=
        pending.map SysTimeo.shown ∧
      Settled ((lwip UInt32).trace (boot UInt32 instant) events) gone pending ∧
      WakesInTime ((lwip UInt32).trace (boot UInt32 instant) events)
        (∃ e∈events, e.tooLong=true) pending := by
  obtain ⟨htrace,hrun,-⟩ := runs_shown (boot_within instant) hon
  obtain ⟨⟨gone,h⟩,hlatest⟩ := run_history instant hon
  rw [show boot UInt32 instant=(boot ℕ instant).shown from rfl,htrace,hrun]
  exact ⟨gone,_,rfl,h.settled,hlatest.toWakesInTime⟩

/-- After the wrap the thread sleeps for the 78 ms that remain until the timer of IGMP is due. -/
theorem wrappingRun_wakes_in_time :
    ((lwip UInt32).trace (boot UInt32 (2^32-200)) wrappingRun).getLast?=
        some (.waits (2^32+26) (.upTo 78)) ∧
      ∃ gone pending : List (SysTimeo ℕ),
        ((lwip UInt32).run (boot UInt32 (2^32-200)) wrappingRun).timeouts.nextTimeout=
          pending.map SysTimeo.shown ∧
        Settled ((lwip UInt32).trace (boot UInt32 (2^32-200)) wrappingRun) gone pending ∧
        WakesInTime ((lwip UInt32).trace (boot UInt32 (2^32-200)) wrappingRun)
          (∃ e∈wrappingRun, e.tooLong=true) pending :=
  ⟨by decide +kernel,thread_wakes_in_time (2^32-200) wrappingRun (by decide +kernel)⟩

end Runs

end WebDataLogger.LwipTimeouts
