import Mathlib.Algebra.Ring.Nat
import Mathlib.Tactic.Common
import WebDataLogger.TransitionRuns

/-!
# How long the server tasks wait for their clients

Both server tasks open a listening socket with a receive timeout and pass over their
health check between their waits. `tcp_server_task` sets the timeout of its connections
too, and `http_handler_task` does not. What the calls return is left open.
-/

namespace WebDataLogger.ReceiveTimeouts

open TransitionRuns

/-- A socket of lwIP. -/
structure Socket where
  /-- `SO_RCVTIMEO` in milliseconds. A new socket has 0 and waits without end. -/
  rcvTimeoutMs : ℕ
  deriving DecidableEq

/-- `LWIP_SO_SNDRCVTIMEO_GET_MS`. -/
def sndRcvTimeoGetMs (tvSec tvUsec : ℕ) : ℕ := tvSec*1000+tvUsec/1000

/-- `HMS_TIMEOUT_COMM_MS`. -/
def hmsTimeoutCommMs : ℕ := 1000

/-- What a call returns, by lwIP and by the clients. -/
inductive Reply where
  | success
  | failure
  /-- `accept` returns a connection. -/
  | connection
  /-- The receive timeout is over. -/
  | timeout
  /-- `recv` returns bytes. -/
  | bytes
  /-- The client has closed the connection. -/
  | closed
  deriving DecidableEq

/-- The call that a task is in. -/
inductive Place where
  | socket
  /-- `setsockopt` of the listening socket. -/
  | listenTimeout
  | bind
  | listen
  /-- The health check of the outer loop. -/
  | check
  | accept
  /-- `setsockopt` of the connection. -/
  | connTimeout
  /-- The health check of the inner loop. -/
  | session
  | recv
  /-- After `vTaskDelete`. -/
  | deleted
  deriving DecidableEq

/-- A server task with its sockets. -/
structure Server where
  place : Place
  listenFd : Socket
  connFd : Socket

/-- What is observed: the passes over the check, and the waits with the timeouts of their
sockets. -/
inductive Call where
  | check
  | accept (rcvTimeoutMs : ℕ)
  | recv (rcvTimeoutMs : ℕ)
  deriving DecidableEq

/-- The receive timeout of a wait. -/
def Call.waitMs : Call → ℕ
  | .check => 0
  | .accept rcvTimeoutMs => rcvTimeoutMs
  | .recv rcvTimeoutMs => rcvTimeoutMs

/-- The calls before the main loop. A failure deletes the task. -/
def setUp (tvUsec : ℕ) (s : Server) (reply : Reply) : Server :=
  match s.place with
  | .socket =>
    if reply=.failure then {s with place := .deleted}
    else {s with place := .listenTimeout, listenFd := ⟨0⟩}
  | .listenTimeout => {s with place := .bind, listenFd := ⟨sndRcvTimeoGetMs 0 tvUsec⟩}
  | .bind => {s with place := if reply=.failure then .deleted else .listen}
  | .listen => {s with place := if reply=.failure then .deleted else .check}
  | _ => s

/-- `http_handler_task`. Its one `recv` waits on a socket as `accept` returned it. -/
def httpHandlerTask : Machine Server Reply Call where
  step s reply :=
    match s.place with
    | .check => ({s with place := .accept},[.check,.accept s.listenFd.rcvTimeoutMs])
    | .accept =>
      if reply=.connection then
        let connFd : Socket := ⟨0⟩
        ({s with place := .recv, connFd := connFd},[.recv connFd.rcvTimeoutMs])
      else ({s with place := .check},[])
    | .recv => ({s with place := .check},[])
    | _ => (setUp (500*1000) s reply,[])

/-- `tcp_server_task` after its `stack_init`. -/
def tcpServerTask : Machine Server Reply Call where
  step s reply :=
    match s.place with
    | .check => ({s with place := .accept},[.check,.accept s.listenFd.rcvTimeoutMs])
    | .accept =>
      if reply=.connection then ({s with place := .connTimeout, connFd := ⟨0⟩},[])
      else ({s with place := .check},[])
    | .connTimeout => ({s with place := .session, connFd := ⟨sndRcvTimeoGetMs 0 200000⟩},[])
    | .session => ({s with place := .recv},[.check,.recv s.connFd.rcvTimeoutMs])
    | .recv =>
      -- Bytes are echoed, and any error but a timeout closes the connection.
      if reply=.bytes ∨ reply=.timeout then ({s with place := .session},[])
      else ({s with place := .check},[])
    | _ => (setUp 200000 s reply,[])

/-- A task before its first socket. -/
def start : Server := ⟨.socket,⟨0⟩,⟨0⟩⟩

/-- Every wait is limited, and the waits between two passes over the check are short. -/
def Punctual (calls : List Call) : Prop :=
  (∀ call∈calls, call≠.check → 0<call.waitMs) ∧
    ∀ before mid after, calls=before++.check::(mid++.check::after) → .check∉mid →
      (mid.map Call.waitMs).sum≤hmsTimeoutCommMs

/-- No `accept` of the HTTP task returns a connection. -/
def NoConnection (replies : List Reply) : Prop :=
  ∀ past reply rest, replies=past++reply::rest →
    (httpHandlerTask.run start past).place=.accept → reply≠.connection

/-- A wait that is limited and not too long. -/
def Call.Limited (call : Call) : Prop :=
  call≠.check ∧ 0<call.waitMs ∧ call.waitMs≤hmsTimeoutCommMs

/-- Every wait of some calls comes right after a pass over the check. -/
def Checked (calls : List Call) : Prop :=
  ∃ waits : List Call, (∀ call∈waits, call.Limited) ∧ calls=waits.flatMap (fun call => [.check,call])

/-- A step that waits at most once, right after the check, keeps this so. -/
theorem Checked.append {calls more : List Call} (h : Checked calls)
    (hmore : more=[] ∨ ∃ call : Call, call.Limited ∧ more=[.check,call]) : Checked (calls++more) := by
  obtain ⟨waits,hwaits,rfl⟩ := h
  rcases hmore with rfl|⟨call,hcall,rfl⟩
  · exact ⟨waits,hwaits,List.append_nil _⟩
  · refine ⟨waits++[call],?_,by rw [List.flatMap_append]; rfl⟩
    intro c hc
    rcases List.mem_append.mp hc with hc|hc
    · exact hwaits c hc
    · exact List.mem_singleton.mp hc ▸ hcall

/-- One limited wait after each pass over the check is punctual. -/
theorem Checked.punctual {calls : List Call} (h : Checked calls) : Punctual calls := by
  obtain ⟨waits,hwaits,rfl⟩ := h
  constructor
  · intro call hcall hne
    obtain ⟨wait,hwait,hmem⟩ := List.mem_flatMap.mp hcall
    simp only [List.mem_cons,List.not_mem_nil,or_false] at hmem
    rcases hmem with rfl|rfl
    · exact absurd rfl hne
    · exact (hwaits _ hwait).2.1
  · intro before mid after hsplit hmid
    induction waits generalizing before with
    | nil => simp at hsplit
    | cons wait waits ih =>
      have hlimited := hwaits wait List.mem_cons_self
      rw [List.flatMap_cons] at hsplit
      match before with
      | [] =>
        have htail : wait::waits.flatMap (fun call => [Call.check,call])=mid++.check::after :=
          (List.cons.inj hsplit).2
        cases mid with
        | nil => exact absurd (List.cons.inj htail).1 hlimited.1
        | cons first mid =>
          obtain ⟨rfl,hrest⟩ := List.cons.inj htail
          -- The next call is a check again, so that the stretch is one wait.
          cases mid with
          | nil =>
            change wait.waitMs+0≤_
            exact hlimited.2.2
          | cons second mid =>
            exfalso
            cases waits with
            | nil => cases hrest
            | cons next waits =>
              obtain ⟨hcheck,-⟩ := List.cons.inj hrest
              exact hmid (hcheck ▸ List.mem_cons_of_mem _ List.mem_cons_self)
      | [_] => exact absurd (List.cons.inj (List.cons.inj hsplit).2).1 hlimited.1
      | _::_::before =>
        exact ih (fun call hcall => hwaits call (List.mem_cons_of_mem wait hcall)) before
          (List.cons.inj (List.cons.inj hsplit).2).2

/-- The places of a task that listens. -/
def Place.Listening (place : Place) : Prop :=
  place≠.socket ∧ place≠.listenTimeout ∧ place≠.deleted

/-- The sockets that a task waits on have their timeouts. -/
structure Server.Timed (listenMs connMs : ℕ) (s : Server) : Prop where
  listening : s.place.Listening → s.listenFd.rcvTimeoutMs=listenMs
  connected : s.place=.session ∨ s.place=.recv → s.connFd.rcvTimeoutMs=connMs

/-- The calls before the main loop set the timeout of the listening socket. -/
theorem setUp_timed {s : Server} {tvUsec connMs : ℕ} (h : s.Timed (sndRcvTimeoGetMs 0 tvUsec) connMs)
    (reply : Reply) : (setUp tvUsec s reply).Timed (sndRcvTimeoGetMs 0 tvUsec) connMs := by
  obtain ⟨hlisten,hconn⟩ := h
  unfold setUp
  split
  next hplace =>
    split
    · exact ⟨fun hl => absurd rfl hl.2.2,by simp⟩
    · exact ⟨fun hl => absurd rfl hl.2.1,by simp⟩
  next hplace => exact ⟨fun _ => rfl,by simp⟩
  next hplace =>
    refine ⟨fun _ => hlisten ?_,?_⟩
    · rw [hplace]
      exact ⟨nofun,nofun,nofun⟩
    · split <;> simp
  next hplace =>
    refine ⟨fun _ => hlisten ?_,?_⟩
    · rw [hplace]
      exact ⟨nofun,nofun,nofun⟩
    · split <;> simp
  next => exact ⟨hlisten,hconn⟩

/-- Each step of `tcp_server_task` keeps the timeouts, and waits only after the check. -/
theorem tcpServerTask_step {s : Server} (h : s.Timed 200 200) (reply : Reply) :
    (tcpServerTask.step s reply).1.Timed 200 200 ∧
      ((tcpServerTask.step s reply).2=[] ∨
        ∃ call : Call, call.Limited ∧ (tcpServerTask.step s reply).2=[.check,call]) := by
  have hlisten : s.place.Listening → s.listenFd.rcvTimeoutMs=200 := h.listening
  have hconn := h.connected
  simp only [tcpServerTask]
  split
  next hplace =>
    have hms := hlisten (by rw [hplace]; exact ⟨nofun,nofun,nofun⟩)
    rw [hms]
    exact ⟨⟨fun _ => hms,by simp⟩,Or.inr ⟨.accept 200,⟨nofun,by decide,by decide⟩,rfl⟩⟩
  next hplace =>
    have hms := hlisten (by rw [hplace]; exact ⟨nofun,nofun,nofun⟩)
    split <;> exact ⟨⟨fun _ => hms,by simp⟩,Or.inl rfl⟩
  next hplace =>
    have hms := hlisten (by rw [hplace]; exact ⟨nofun,nofun,nofun⟩)
    have hset : sndRcvTimeoGetMs 0 200000=200 := by decide
    exact ⟨⟨fun _ => hms,fun _ => hset⟩,Or.inl rfl⟩
  next hplace =>
    have hms := hlisten (by rw [hplace]; exact ⟨nofun,nofun,nofun⟩)
    have hms' := hconn (Or.inl hplace)
    rw [hms']
    exact ⟨⟨fun _ => hms,fun _ => hms'⟩,Or.inr ⟨.recv 200,⟨nofun,by decide,by decide⟩,rfl⟩⟩
  next hplace =>
    have hms := hlisten (by rw [hplace]; exact ⟨nofun,nofun,nofun⟩)
    have hms' := hconn (Or.inr hplace)
    split <;> exact ⟨⟨fun _ => hms,fun _ => hms'⟩,Or.inl rfl⟩
  next => exact ⟨setUp_timed (show s.Timed (sndRcvTimeoGetMs 0 200000) 200 from h) reply,Or.inl rfl⟩

/-- `tcp_server_task` waits only after the check, whatever its clients do. -/
theorem tcpServerTask_checked (replies : List Reply) :
    Checked (tcpServerTask.trace start replies) := by
  refine (tcpServerTask.history_invariant (fun _ calls s => Checked calls ∧ s.Timed 200 200)
    ⟨⟨[],by simp,rfl⟩,⟨fun hl => absurd rfl hl.1,by simp [start]⟩⟩ ?_).1
  intro before reply calls s _ h
  obtain ⟨htimed,hcalls⟩ := tcpServerTask_step h.2 reply
  exact ⟨h.1.append hcalls,htimed⟩

/-- Each step of `http_handler_task` that gets no connection keeps the timeout of the
listening socket, and waits only after the check. -/
theorem httpHandlerTask_step {s : Server} (h : s.Timed 500 0) {reply : Reply}
    (hreply : s.place=.accept → reply≠.connection) :
    (httpHandlerTask.step s reply).1.Timed 500 0 ∧
      ((httpHandlerTask.step s reply).2=[] ∨
        ∃ call : Call, call.Limited ∧ (httpHandlerTask.step s reply).2=[.check,call]) := by
  have hlisten : s.place.Listening → s.listenFd.rcvTimeoutMs=500 := h.listening
  simp only [httpHandlerTask]
  split
  next hplace =>
    have hms := hlisten (by rw [hplace]; exact ⟨nofun,nofun,nofun⟩)
    rw [hms]
    exact ⟨⟨fun _ => hms,by simp⟩,Or.inr ⟨.accept 500,⟨nofun,by decide,by decide⟩,rfl⟩⟩
  next hplace =>
    have hms := hlisten (by rw [hplace]; exact ⟨nofun,nofun,nofun⟩)
    rw [if_neg (hreply hplace)]
    exact ⟨⟨fun _ => hms,by simp⟩,Or.inl rfl⟩
  next hplace =>
    have hms := hlisten (by rw [hplace]; exact ⟨nofun,nofun,nofun⟩)
    exact ⟨⟨fun _ => hms,by simp⟩,Or.inl rfl⟩
  next => exact ⟨setUp_timed (show s.Timed (sndRcvTimeoGetMs 0 (500*1000)) 0 from h) reply,Or.inl rfl⟩

/-- Without connections `http_handler_task` waits only after the check. -/
theorem httpHandlerTask_checked {replies : List Reply} (h : NoConnection replies) :
    Checked (httpHandlerTask.trace start replies) := by
  refine (httpHandlerTask.history_invariant (fun before calls s => Checked calls ∧ s.Timed 500 0 ∧
    httpHandlerTask.run start before=s)
    ⟨⟨[],by simp,rfl⟩,⟨fun hl => absurd rfl hl.1,by simp [start]⟩,rfl⟩ ?_).1
  rintro before reply calls s ⟨rest,hrest⟩ ⟨hchecked,htimed,rfl⟩
  have hreply := h before reply rest (by rw [←hrest]; simp)
  obtain ⟨htimed',hcalls⟩ := httpHandlerTask_step htimed hreply
  exact ⟨hchecked.append hcalls,htimed',Machine.run_snoc _ _ _ _⟩

/-- The first connection is waited on without end. -/
theorem connection_unlimited {past rest : List Reply}
    (hplace : (httpHandlerTask.run start past).place=.accept) :
    .recv 0∈httpHandlerTask.trace start (past++.connection::rest) := by
  rw [Machine.trace_append,Machine.trace]
  refine List.mem_append_right _ (List.mem_append_left _ ?_)
  simp only [httpHandlerTask] at hplace ⊢
  rw [hplace]
  exact List.mem_singleton.mpr rfl

/-- No client can park a server task, exactly as long as `http_handler_task` gets no
connection. `tcp_server_task` is punctual in every run. -/
theorem servers_punctual_iff (httpReplies tcpReplies : List Reply) :
    (Punctual (httpHandlerTask.trace start httpReplies) ∧
      Punctual (tcpServerTask.trace start tcpReplies)) ↔ NoConnection httpReplies := by
  constructor
  · rintro ⟨hpunctual,-⟩ past reply rest rfl hplace rfl
    have hwait := hpunctual.1 _ (connection_unlimited hplace) nofun
    exact absurd hwait (Nat.lt_irrefl 0)
  · intro h
    exact ⟨(httpHandlerTask_checked h).punctual,(tcpServerTask_checked tcpReplies).punctual⟩

/-- A client that connects to the HTTP server and sends nothing. -/
def silentClient : List Reply := [.success,.success,.success,.success,.success,.connection]

/-- The HTTP task waits on a silent client without end. -/
theorem silentClient_parks : httpHandlerTask.trace start silentClient=
      [.check,.accept 500,.recv 0] ∧
    ¬Punctual (httpHandlerTask.trace start silentClient) := by
  have htrace : httpHandlerTask.trace start silentClient=[.check,.accept 500,.recv 0] := by decide
  refine ⟨htrace,fun h => ?_⟩
  have hwait := h.1 (.recv 0) (by rw [htrace]; decide) nofun
  exact absurd hwait (Nat.lt_irrefl 0)

end WebDataLogger.ReceiveTimeouts
