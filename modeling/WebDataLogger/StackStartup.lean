import WebDataLogger.ReceiveTimeouts

/-!
# The network stack at boot

`tcp_server_task` initialises lwIP in its `stack_init`, and `http_handler_task` opens its
socket without waiting for that. Both have one priority, and the schedule may interleave
their steps in any order.
-/

namespace WebDataLogger.StackStartup

open TransitionRuns ReceiveTimeouts

/-- Where `tcp_server_task` is in `stack_init`. -/
inductive StackPlace where
  /-- `lwip_init`, the first call of `tcpip_init`. -/
  | lwipInit
  /-- `sys_mbox_new`. -/
  | mboxNew
  /-- `sys_mutex_new`. -/
  | mutexNew
  /-- `sys_thread_new`. -/
  | threadNew
  /-- The return of `tcpip_init`. -/
  | initReturn
  | netifAdd
  | netifSetDefault
  | netifSetUp
  /-- The loop around `ethernetif_wait_linkup`. -/
  | linkUp
  /-- After `stack_init`. -/
  | ready
  deriving DecidableEq

/-- A step of `stack_init`, by what the call returns. -/
def stackInit (place : StackPlace) (reply : Reply) : StackPlace :=
  match place with
  | .lwipInit => .mboxNew
  | .mboxNew => .mutexNew
  | .mutexNew => .threadNew
  | .threadNew => .initReturn
  | .initReturn => .netifAdd
  | .netifAdd => .netifSetDefault
  | .netifSetDefault => .netifSetUp
  | .netifSetUp => .linkUp
  | .linkUp => if reply=.success then .ready else .linkUp
  | .ready => .ready

/-- The two tasks. -/
inductive Task where
  | tcpServer
  | httpHandler
  deriving DecidableEq

/-- What is observed: the return of `tcpip_init`, and the socket calls. -/
inductive StackCall where
  | initReturned
  | call (task : Task) (place : Place)
  deriving DecidableEq

/-- `socket`, `bind`, `listen` or `accept`. -/
def socketCall (task : Task) (place : Place) : List StackCall :=
  if place=.socket ∨ place=.bind ∨ place=.listen ∨ place=.accept then [.call task place] else []

/-- Both tasks at boot. -/
structure Startup where
  stack : StackPlace
  tcp : Server
  http : Server

/-- A step of the schedule: the task that takes it, and what its call returns. -/
structure Turn where
  task : Task
  reply : Reply

/-- The two tasks under a schedule. -/
def startup : Machine Startup Turn StackCall where
  step s turn :=
    match turn.task with
    | .tcpServer =>
      if s.stack=.ready then
        ({s with tcp := (tcpServerTask.step s.tcp turn.reply).1},socketCall .tcpServer s.tcp.place)
      else ({s with stack := stackInit s.stack turn.reply},
        if s.stack=.initReturn then [.initReturned] else [])
    | .httpHandler =>
      ({s with http := (httpHandlerTask.step s.http turn.reply).1},
        socketCall .httpHandler s.http.place)

/-- Both tasks are ready when the scheduler starts. -/
def boot : Startup := ⟨.lwipInit,start,start⟩

/-- No socket call comes before the return of `tcpip_init`. -/
def InitialisedFirst (calls : List StackCall) : Prop :=
  ∀ before task place after, calls=before++.call task place::after → .initReturned∈before

/-- The first five steps of a schedule, which `tcpip_init` takes, go to `tcp_server_task`. -/
def TcpServerFirst (schedule : List Turn) : Prop := ∀ turn∈schedule.take 5, turn.task=.tcpServer

/-- The steps of `stack_init` that are done, up to the return of `tcpip_init`. -/
def StackPlace.done : StackPlace → ℕ
  | .lwipInit => 0
  | .mboxNew => 1
  | .mutexNew => 2
  | .threadNew => 3
  | .initReturn => 4
  | _ => 5

/-- Calls go on being in order when the stack is initialised or no socket call is added. -/
theorem InitialisedFirst.append {calls more : List StackCall} (h : InitialisedFirst calls)
    (hmore : .initReturned∈calls ∨ ∀ task place, .call task place∉more) :
    InitialisedFirst (calls++more) := by
  intro before task place after hsplit
  rcases List.append_eq_append_iff.mp hsplit with ⟨rest,hbefore,hrest⟩|⟨rest,hcalls,hrest⟩
  · rcases hmore with hinit|hno
    · rw [hbefore]
      exact List.mem_append_left rest hinit
    · exact absurd (by rw [hrest]; exact List.mem_append_right rest List.mem_cons_self) (hno task place)
  · cases rest with
    | nil =>
      rcases hmore with hinit|hno
      · rw [hcalls,List.append_nil] at hinit
        exact hinit
      · exact absurd (by
          rw [show more=.call task place::after from hrest.symm]
          exact List.mem_cons_self) (hno task place)
    | cons first rest =>
      obtain ⟨rfl,-⟩ := List.cons.inj hrest
      exact h before task place rest hcalls

/-- A step within `stack_init`. -/
theorem stackInit_done {place : StackPlace} (h : place≠.ready) (reply : Reply) :
    (stackInit place reply).done=min 5 (place.done+1) := by
  cases place with
  | ready => exact absurd rfl h
  | linkUp =>
    rw [stackInit]
    split <;> rfl
  | _ => rfl

/-- A socket call is no return of `tcpip_init`. -/
theorem initReturned_not_mem (task : Task) (place : Place) :
    .initReturned∉socketCall task place := by
  unfold socketCall
  split <;> simp

/-- What holds after some steps of a schedule that starts with `tcp_server_task`. -/
structure Started (taken : List Turn) (calls : List StackCall) (s : Startup) : Prop where
  ordered : InitialisedFirst calls
  done : s.stack.done=min 5 taken.length
  returned : .initReturned∈calls ↔ s.stack.done=5

/-- Every step keeps this, as long as the first five go to `tcp_server_task`. -/
theorem Started.step {taken : List Turn} {calls : List StackCall} {s : Startup} {turn : Turn}
    (h : Started taken calls s) (hfirst : taken.length<5 → turn.task=.tcpServer) :
    Started (taken++[turn]) (calls++(startup.step s turn).2) (startup.step s turn).1 := by
  have hdone := h.done
  have hlength : (taken++[turn]).length=taken.length+1 := List.length_append
  cases htask : turn.task with
  | httpHandler =>
    have hlate : 5 ≤ taken.length := by
      by_contra hlt
      rw [hfirst (by omega)] at htask
      cases htask
    have hfive : s.stack.done=5 := by omega
    have hno := initReturned_not_mem .httpHandler s.http.place
    simp only [startup,htask]
    exact ⟨h.ordered.append (Or.inl (h.returned.mpr hfive)),by rw [hlength]; dsimp only; omega,
      by rw [List.mem_append,h.returned]; simp [hno]⟩
  | tcpServer =>
    simp only [startup,htask]
    split
    next hready =>
      have hfive : s.stack.done=5 := by rw [hready]; rfl
      have hno := initReturned_not_mem .tcpServer s.tcp.place
      exact ⟨h.ordered.append (Or.inl (h.returned.mpr hfive)),by rw [hlength]; dsimp only; omega,
        by rw [List.mem_append,h.returned]; simp [hno]⟩
    next hready =>
      have hnext := stackInit_done hready turn.reply
      refine ⟨h.ordered.append (Or.inr ?_),by rw [hlength]; dsimp only; omega,?_⟩
      · intro task place
        split <;> simp
      · rw [List.mem_append,h.returned,hnext]
        split
        next hreturn => simp [hreturn,StackPlace.done]
        next hreturn =>
          have hne : s.stack.done≠4 := by
            intro hfour
            cases hplace : s.stack with
            | initReturn => exact hreturn hplace
            | _ => rw [hplace] at hfour; cases hfour
          simp only [List.not_mem_nil,or_false]
          omega

/-- Nothing has happened at boot. -/
theorem started_boot : Started [] [] boot :=
  ⟨fun before task place after h => by simp at h,rfl,by simp [boot,StackPlace.done]⟩

/-- A run whose schedule starts with `tcp_server_task` calls the stack in order. -/
theorem started_run {schedule : List Turn} (h : TcpServerFirst schedule) :
    Started schedule (startup.trace boot schedule) (startup.run boot schedule) := by
  refine startup.history_invariant Started started_boot ?_
  rintro before turn calls s ⟨rest,hrest⟩ hstarted
  refine hstarted.step fun hlt => h turn ?_
  rw [←hrest,List.append_assoc,List.take_append,List.mem_append]
  refine Or.inr ?_
  obtain ⟨k,hk⟩ : ∃ k, 5-before.length=k+1 := ⟨4-before.length,by omega⟩
  rw [hk]
  exact List.mem_cons_self

/-- The steps of `tcp_server_task` leave the other task where it is. -/
theorem http_run {taken : List Turn} (h : ∀ turn∈taken, turn.task=.tcpServer) (s : Startup) :
    (startup.run s taken).http=s.http := by
  induction taken generalizing s with
  | nil => rfl
  | cons turn taken ih =>
    have htask := h turn List.mem_cons_self
    rw [Machine.run,ih (fun t ht => h t (List.mem_cons_of_mem turn ht))]
    simp only [startup,htask]
    split <;> rfl

/-- A schedule that gives an early step to the other task has a first such step. -/
theorem first_http {schedule : List Turn} {k : ℕ}
    (h : ∃ turn∈schedule.take k, turn.task≠.tcpServer) :
    ∃ before turn after, schedule=before++turn::after ∧ before.length<k ∧
      (∀ t∈before, t.task=.tcpServer) ∧ turn.task≠.tcpServer := by
  induction schedule generalizing k with
  | nil => simp at h
  | cons first rest ih =>
    cases k with
    | zero => simp at h
    | succ k =>
      by_cases hfirst : first.task=.tcpServer
      · obtain ⟨turn,hmem,hturn⟩ := h
        rw [List.take_succ_cons,List.mem_cons] at hmem
        rcases hmem with rfl|hmem
        · exact absurd hfirst hturn
        · obtain ⟨before,turn',after,rfl,hlength,hbefore,hturn'⟩ := ih ⟨turn,hmem,hturn⟩
          refine ⟨first::before,turn',after,rfl,Nat.succ_lt_succ hlength,?_,hturn'⟩
          intro t ht
          rcases List.mem_cons.mp ht with rfl|ht
          · exact hfirst
          · exact hbefore t ht
      · exact ⟨[],first,rest,rfl,Nat.succ_pos k,by simp,hfirst⟩

/-- The socket call of a step of `http_handler_task`. -/
theorem http_call {turn : Turn} (h : turn.task≠.tcpServer) (s : Startup) :
    (startup.step s turn).2=socketCall .httpHandler s.http.place := by
  cases htask : turn.task with
  | tcpServer => exact absurd htask h
  | httpHandler => simp only [startup,htask]

/-- The stack is initialised before it is used exactly when `tcp_server_task` gets the first
five steps of the schedule. -/
theorem initialisedFirst_iff (schedule : List Turn) :
    InitialisedFirst (startup.trace boot schedule) ↔ TcpServerFirst schedule := by
  refine ⟨fun h => ?_,fun h => (started_run h).ordered⟩
  by_contra hlate
  unfold TcpServerFirst at hlate
  push Not at hlate
  obtain ⟨before,turn,after,hsplit,hlength,hbefore,hturn⟩ := first_http hlate
  have hearly : TcpServerFirst before := fun t ht => hbefore t (List.mem_of_mem_take ht)
  have hstarted := started_run hearly
  have hplace : (startup.run boot before).http.place=.socket := by
    rw [http_run hbefore]
    rfl
  have htrace : startup.trace boot schedule=startup.trace boot before++
      .call .httpHandler .socket::startup.trace (startup.step (startup.run boot before) turn).1 after := by
    rw [hsplit,Machine.trace_append,Machine.trace,http_call hturn,hplace]
    rfl
  have hdone := hstarted.done
  have hreturned := hstarted.returned.mp (h _ _ _ _ htrace)
  omega

/-- A schedule that resumes `http_handler_task` after two steps of `tcp_server_task`. -/
def earlySocket : List Turn :=
  [⟨.tcpServer,.success⟩,⟨.tcpServer,.success⟩,⟨.httpHandler,.success⟩]

/-- The HTTP task opens its socket before the stack is initialised. -/
theorem earlySocket_unordered : startup.trace boot earlySocket=[.call .httpHandler .socket] ∧
    ¬InitialisedFirst (startup.trace boot earlySocket) := by
  have htrace : startup.trace boot earlySocket=[.call .httpHandler .socket] := by decide
  refine ⟨htrace,fun h => ?_⟩
  rw [htrace] at h
  exact absurd (h [] _ _ [] rfl) List.not_mem_nil

end WebDataLogger.StackStartup
