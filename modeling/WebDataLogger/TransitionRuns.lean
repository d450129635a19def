import Mathlib.Data.List.Induction

/-!
# Runs of deterministic machines with observations

A machine consumes one event per step and emits a list of observations.
Its run is the state left after a list of events and its trace is the list
of everything observed on the way. Invariants are proved for one step with
the events and observations so far in view, and hold of every run.
-/

namespace WebDataLogger.TransitionRuns

/-- A deterministic step function with observations. -/
structure Machine (σ ε ω : Type*) where
  /-- New state and the observations emitted by one event. -/
  step : σ → ε → σ × List ω

namespace Machine

variable {σ ε ω : Type*} (m : Machine σ ε ω)

/-- State after a list of events, taken in order. -/
def run (s : σ) : List ε → σ
  | [] => s
  | e::events => run (m.step s e).1 events

/-- Observations emitted by a list of events, oldest first. -/
def trace (s : σ) : List ε → List ω
  | [] => []
  | e::events => (m.step s e).2 ++ trace (m.step s e).1 events

@[simp] theorem run_nil (s : σ) : m.run s []=s := rfl

@[simp] theorem trace_nil (s : σ) : m.trace s []=[] := rfl

/-- A run splits at every point of its events. -/
theorem run_append (s : σ) (first second : List ε) :
    m.run s (first++second)=m.run (m.run s first) second := by
  induction first generalizing s with
  | nil => rfl
  | cons e first ih => exact ih _

/-- A trace splits at every point of its events. -/
theorem trace_append (s : σ) (first second : List ε) :
    m.trace s (first++second)=m.trace s first ++ m.trace (m.run s first) second := by
  induction first generalizing s with
  | nil => rfl
  | cons e first ih =>
    simp only [List.cons_append,trace,run,List.append_assoc]
    rw [ih]

/-- The state after one more event. -/
theorem run_snoc (s : σ) (events : List ε) (e : ε) :
    m.run s (events++[e])=(m.step (m.run s events) e).1 := by
  rw [run_append]
  rfl

/-- The trace of one more event. -/
theorem trace_snoc (s : σ) (events : List ε) (e : ε) :
    m.trace s (events++[e])=m.trace s events ++ (m.step (m.run s events) e).2 := by
  rw [trace_append]
  simp only [trace,List.append_nil]

/-- An invariant that also sees the events taken and the observations made.
It is proved for one step whose events stay within the whole run. -/
theorem history_invariant {s : σ} {events : List ε} (I : List ε → List ω → σ → Prop)
    (start : I [] [] s)
    (step : ∀ before e obs state, before++[e]<+:events → I before obs state →
      I (before++[e]) (obs++(m.step state e).2) (m.step state e).1) :
    I events (m.trace s events) (m.run s events) := by
  suffices h : ∀ taken, taken<+:events → I taken (m.trace s taken) (m.run s taken) from
    h events (List.prefix_refl events)
  intro taken
  induction taken using List.reverseRecOn with
  | nil => exact fun _ => start
  | append_singleton before e ih =>
    intro h
    rw [trace_snoc,run_snoc]
    exact step before e _ _ h (ih ((List.prefix_append before [e]).trans h))

/-- A state invariant kept by every step holds after every run. -/
theorem run_invariant {s : σ} (I : σ → Prop) (start : I s)
    (step : ∀ state e, I state → I (m.step state e).1) (events : List ε) :
    I (m.run s events) :=
  m.history_invariant (fun _ _ state => I state) start (fun _ e _ state _ h => step state e h)

/-- Every event of a run is admitted by the state in which it comes. -/
def Guarded (G : σ → ε → Prop) (s : σ) : List ε → Prop
  | [] => True
  | e::events => G s e ∧ Guarded G (m.step s e).1 events

/-- A guard that can be checked is checked along a run. -/
instance guardedDecidable (G : σ → ε → Prop) [∀ s e, Decidable (G s e)] (s : σ) (events : List ε) :
    Decidable (m.Guarded G s events) :=
  match events with
  | [] => inferInstanceAs (Decidable True)
  | e::events =>
    have : Decidable (m.Guarded G (m.step s e).1 events) := guardedDecidable G (m.step s e).1 events
    inferInstanceAs (Decidable (G s e ∧ m.Guarded G (m.step s e).1 events))

/-- A guard that always holds. -/
theorem guarded_of_forall {G : σ → ε → Prop} (h : ∀ s e, G s e) (s : σ) (events : List ε) :
    m.Guarded G s events := by
  induction events generalizing s with
  | nil => trivial
  | cons e events ih => exact ⟨h s e,ih _⟩

/-- A run is admitted when its two parts are. -/
theorem guarded_append {G : σ → ε → Prop} {s : σ} {first second : List ε} :
    m.Guarded G s (first++second) ↔ m.Guarded G s first ∧ m.Guarded G (m.run s first) second := by
  induction first generalizing s with
  | nil => exact (iff_of_eq (true_and _)).symm
  | cons e first ih => exact (and_congr_right fun _ => ih).trans and_assoc.symm

/-- The guard holds at every place of a run. -/
theorem Guarded.split {m : Machine σ ε ω} {G : σ → ε → Prop} {s : σ} {past rest : List ε} {e : ε}
    (h : m.Guarded G s (past++e::rest)) : G (m.run s past) e := by
  induction past generalizing s with
  | nil => exact h.1
  | cons first past ih => exact ih h.2

/-- A state invariant kept by every admitted step holds after every admitted run. -/
theorem Guarded.invariant {m : Machine σ ε ω} {G : σ → ε → Prop} (I : σ → Prop)
    (step : ∀ state e, I state → G state e → I (m.step state e).1) {s : σ} {events : List ε}
    (start : I s) (h : m.Guarded G s events) : I (m.run s events) := by
  induction events generalizing s with
  | nil => exact start
  | cons e events ih => exact ih (step s e start h.1) h.2

/-- An invariant that also sees the observations made so far, kept by every admitted step. -/
theorem Guarded.history {m : Machine σ ε ω} {G : σ → ε → Prop} (I : List ω → σ → Prop)
    {s : σ} {events : List ε} {obs : List ω} (start : I obs s)
    (step : ∀ obs state e, e∈events → I obs state → G state e →
      I (obs++(m.step state e).2) (m.step state e).1) (h : m.Guarded G s events) :
    I (obs++m.trace s events) (m.run s events) := by
  induction events generalizing s obs with
  | nil => exact (List.append_nil obs).symm▸start
  | cons e events ih =>
    rw [trace,←List.append_assoc]
    exact ih (step obs s e List.mem_cons_self start h.1)
      (fun obs state e he => step obs state e (List.mem_cons_of_mem _ he)) h.2

/-- Machines whose steps answer alike from related states have the same traces, and their
runs stay related, as long as every event is admitted where it comes. -/
theorem guarded_simulation {τ : Type*} {m : Machine σ ε ω} {n : Machine τ ε ω} (R : σ → τ → Prop)
    (G : τ → ε → Prop) (step : ∀ s t e, R s t → G t e →
      (m.step s e).2=(n.step t e).2 ∧ R (m.step s e).1 (n.step t e).1)
    {s : σ} {t : τ} (start : R s t) {events : List ε} (h : n.Guarded G t events) :
    m.trace s events=n.trace t events ∧ R (m.run s events) (n.run t events) := by
  induction events generalizing s t with
  | nil => exact ⟨rfl,start⟩
  | cons e events ih =>
    obtain ⟨hanswer,hstate⟩ := step s t e start h.1
    obtain ⟨htrace,hrun⟩ := ih hstate h.2
    refine ⟨?_,hrun⟩
    rw [trace,trace,hanswer,htrace]

/-- Machines whose steps answer alike from related states have the same traces,
and their runs stay related. -/
theorem simulation {τ : Type*} {m : Machine σ ε ω} {n : Machine τ ε ω} (R : σ → τ → Prop)
    (step : ∀ s t e, R s t → (m.step s e).2=(n.step t e).2 ∧ R (m.step s e).1 (n.step t e).1)
    {s : σ} {t : τ} (start : R s t) (events : List ε) :
    m.trace s events=n.trace t events ∧ R (m.run s events) (n.run t events) :=
  guarded_simulation R (fun _ _ => True) (fun s t e hR _ => step s t e hR) start
    (n.guarded_of_forall (fun _ _ => trivial) t events)

/-- Every place in a trace lies in the observations of one step, and the
observations before that step are the trace of the events before it. -/
theorem trace_split {s : σ} {events : List ε} {before after : List ω} {o : ω}
    (h : m.trace s events=before++o::after) :
    ∃ past e future left right, events=past++e::future ∧
      (m.step (m.run s past) e).2=left++o::right ∧ before=m.trace s past++left := by
  induction events generalizing s before with
  | nil => simp at h
  | cons e events ih =>
    rw [trace] at h
    rcases List.append_eq_append_iff.mp h with ⟨rest,hb,ht⟩|⟨rest,hs,ho⟩
    · obtain ⟨past,e',future,left,right,rfl,hs,hr⟩ := ih ht
      refine ⟨e::past,e',future,left,right,rfl,hs,?_⟩
      rw [hb,hr,trace,List.append_assoc]
    · cases rest with
      | nil =>
        obtain ⟨past,e',future,left,right,rfl,hs',hr⟩ :=
          ih (show _=[]++o::after from ho.symm)
        refine ⟨e::past,e',future,left,right,rfl,hs',?_⟩
        rw [trace,hs,List.append_nil,List.append_assoc,←hr,List.append_nil]
      | cons first rest =>
        obtain ⟨rfl,-⟩ := List.cons.inj ho
        exact ⟨[],e,events,before,rest,rfl,hs,rfl⟩

/-- What follows a place in a trace is the rest of its step and the trace of the
events after it. -/
theorem trace_split_after {s : σ} {events : List ε} {before after : List ω} {o : ω}
    (h : m.trace s events=before++o::after) :
    ∃ past e future left right, events=past++e::future ∧
      (m.step (m.run s past) e).2=left++o::right ∧
        after=right++m.trace (m.step (m.run s past) e).1 future := by
  obtain ⟨past,e,future,left,right,hevents,hstep,hbefore⟩ := m.trace_split h
  refine ⟨past,e,future,left,right,hevents,hstep,?_⟩
  rw [hevents,trace_append,trace,hstep,hbefore] at h
  simp only [List.append_assoc,List.cons_append,List.append_cancel_left_eq] at h
  exact (List.cons.inj h).2.symm

/-- Every observation is made by one step, from the state the run has there. -/
theorem exists_step_of_mem_trace {s : σ} {events : List ε} {o : ω} (h : o∈m.trace s events) :
    ∃ past e future, events=past++e::future ∧ o∈(m.step (m.run s past) e).2 := by
  obtain ⟨before,after,hs⟩ := List.append_of_mem h
  obtain ⟨past,e,future,left,right,he,ho,-⟩ := m.trace_split hs
  exact ⟨past,e,future,he,by rw [ho]; exact List.mem_append_right left List.mem_cons_self⟩

/-- A relation holds between all observations of a trace in their order when it
holds inside every step and between any two steps. -/
theorem trace_pairwise_iff (R : ω → ω → Prop) (s : σ) (events : List ε) :
    (m.trace s events).Pairwise R ↔
      (∀ past e rest, events=past++e::rest → (m.step (m.run s past) e).2.Pairwise R) ∧
        ∀ past e mid e' rest, events=past++e::(mid++e'::rest) →
          ∀ o∈(m.step (m.run s past) e).2, ∀ o'∈(m.step (m.run s (past++e::mid)) e').2,
            R o o' := by
  constructor
  · intro h
    constructor
    · intro past e rest hsplit
      rw [hsplit,trace_append,trace,List.pairwise_append,List.pairwise_append] at h
      exact h.2.1.1
    · intro past e mid e' rest hsplit o ho o' ho'
      rw [hsplit,trace_append,trace,List.pairwise_append,List.pairwise_append] at h
      refine h.2.1.2.2 o ho o' ?_
      rw [trace_append,trace]
      rw [run_append] at ho'
      exact List.mem_append_right _ (List.mem_append_left _ ho')
  · rintro ⟨hinside,hacross⟩
    induction events generalizing s with
    | nil => exact List.Pairwise.nil
    | cons e events ih =>
      refine List.pairwise_append.mpr ⟨hinside [] e events rfl,ih _ ?_ ?_,?_⟩
      · intro past e' rest hsplit
        exact hinside (e::past) e' rest (by rw [hsplit]; rfl)
      · intro past e' mid e'' rest hsplit
        exact hacross (e::past) e' mid e'' rest (by rw [hsplit]; rfl)
      · intro o ho o' ho'
        obtain ⟨past,e',rest,hsplit,hstep⟩ := m.exists_step_of_mem_trace ho'
        exact hacross [] e past e' rest (by rw [hsplit]; rfl) o ho o' hstep

end Machine

end WebDataLogger.TransitionRuns
