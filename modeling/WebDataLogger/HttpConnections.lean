import WebDataLogger.WebService

/-!
# The connections of the HTTP task

Every connection is closed once before the next one, and nothing is sent on one that
delivered nothing. What is sent on the others is one response, except for the static
files: they are sent as they are, without a head.
-/

namespace WebDataLogger.HttpConnections

open CText HttpMessage HttpAssets RealTimeClock SensorData TransitionRuns WebService

/-- `Access-Control-Allow-Origin: *`. -/
def allowOrigin : Header :=
  ⟨bytesOf "Access-Control-Allow-Origin",bytesOf " *",by decide,by decide⟩

/-- `Connection: close`. -/
def connectionClose : Header := ⟨bytesOf "Connection",bytesOf " close",by decide,by decide⟩

/-- `Content-Type: application/json`. -/
def applicationJson : Header :=
  ⟨bytesOf "Content-Type",bytesOf " application/json",by decide,by decide⟩

/-- `Content-Type: text/plain`. -/
def textPlain : Header := ⟨bytesOf "Content-Type",bytesOf " text/plain",by decide,by decide⟩

/-- Headers of the answer to a preflight. -/
def allowMethods : Header :=
  ⟨bytesOf "Access-Control-Allow-Methods",bytesOf " POST, OPTIONS",by decide,by decide⟩

/-- Headers of the answer to a preflight. -/
def allowHeaders : Header :=
  ⟨bytesOf "Access-Control-Allow-Headers",bytesOf " Content-Type",by decide,by decide⟩

/-- End of a line, as the code writes it. -/
theorem crlf_bytes : bytesOf "\r\n"=crlf := by decide

/-- The header as the code writes it. -/
theorem allowOrigin_line : bytesOf "Access-Control-Allow-Origin: *\r\n"=allowOrigin.line := by decide

/-- The header as the code writes it. -/
theorem connectionClose_line : bytesOf "Connection: close\r\n"=connectionClose.line := by decide

/-- The header as the code writes it. -/
theorem applicationJson_line :
    bytesOf "Content-Type: application/json\r\n"=applicationJson.line := by decide

/-- The size of a body that is not there. -/
theorem contentLength_line_zero : bytesOf "Content-Length: 0\r\n"=
    (contentLength ([] : Text).length).line := by decide

/-- The answer to an unknown path is a response. -/
theorem send404_isResponse : IsResponse send404 := by
  have hstatus : bytesOf "HTTP/1.1 404 Not Found\r\n"=
      statusLine (bytesOf "404") (bytesOf "Not Found") := by decide
  have hplain : bytesOf "Content-Type: text/plain\r\n"=textPlain.line := by decide
  have hsize : bytesOf "Content-Length: 9\r\n"=
      (contentLength (bytesOf "Not Found").length).line := by decide
  have hbytes : send404=statusLine (bytesOf "404") (bytesOf "Not Found")++
      headerLines ([textPlain]++contentLength (bytesOf "Not Found").length::
        [allowOrigin,connectionClose])++bytesOf "Not Found" := by
    rw [send404,hstatus,hplain,hsize,allowOrigin_line,connectionClose_line,crlf_bytes]
    simp only [headerLines,List.flatMap_append,List.flatMap_cons,List.flatMap_nil,
      List.append_assoc,List.append_nil]
  rw [hbytes]
  exact isResponse_of_parts (by decide) (by decide) (by decide) (by decide)

/-- The answer to a wrong method is a response. -/
theorem resp405_isResponse : IsResponse resp405 := by
  have hstatus : bytesOf "HTTP/1.1 405 Method Not Allowed\r\n"=
      statusLine (bytesOf "405") (bytesOf "Method Not Allowed") := by decide
  have hbytes : resp405=statusLine (bytesOf "405") (bytesOf "Method Not Allowed")++
      headerLines ([allowOrigin]++contentLength ([] : Text).length::[connectionClose])++[] := by
    rw [resp405,hstatus,allowOrigin_line,contentLength_line_zero,connectionClose_line,crlf_bytes]
    simp only [headerLines,List.flatMap_append,List.flatMap_cons,List.flatMap_nil,
      List.append_assoc,List.append_nil]
  rw [hbytes]
  exact isResponse_of_parts (by decide) (by decide) (by decide) (by decide)

/-- The answer to a preflight is a response. -/
theorem preflight_isResponse : IsResponse preflight := by
  have hstatus : bytesOf "HTTP/1.1 204 No Content\r\n"=
      statusLine (bytesOf "204") (bytesOf "No Content") := by decide
  have hmethods : bytesOf "Access-Control-Allow-Methods: POST, OPTIONS\r\n"=allowMethods.line := by
    decide
  have hheaders : bytesOf "Access-Control-Allow-Headers: Content-Type\r\n"=allowHeaders.line := by
    decide
  have hbytes : preflight=statusLine (bytesOf "204") (bytesOf "No Content")++
      headerLines ([allowOrigin,allowMethods,allowHeaders]++contentLength ([] : Text).length::
        [connectionClose])++[] := by
    rw [preflight,hstatus,allowOrigin_line,hmethods,hheaders,contentLength_line_zero,
      connectionClose_line,crlf_bytes]
    simp only [headerLines,List.flatMap_append,List.flatMap_cons,List.flatMap_nil,
      List.append_assoc,List.append_nil]
  rw [hbytes]
  exact isResponse_of_parts (by decide) (by decide) (by decide) (by decide)

/-- The parts of the response around a body and its length. -/
theorem formatResponse_parts (body : Text) : formatResponse body body.length=
    statusLine (bytesOf "200") (bytesOf "OK")++headerLines
      ([applicationJson]++contentLength body.length::[allowOrigin,connectionClose])++body := by
  have hstatus : bytesOf "HTTP/1.1 200 OK\r\n"=statusLine (bytesOf "200") (bytesOf "OK") := by decide
  have hsize : bytesOf "Content-Length: "++decimal body.length++bytesOf "\r\n"=
      (contentLength body.length).line := rfl
  rw [formatResponse,hstatus,applicationJson_line,hsize,allowOrigin_line,connectionClose_line,
    crlf_bytes]
  simp only [headerLines,List.flatMap_append,List.flatMap_cons,List.flatMap_nil,
    List.append_assoc,List.append_nil]

/-- A body under its length is a response. -/
theorem formatResponse_isResponse (body : Text) : IsResponse (formatResponse body body.length) := by
  rw [formatResponse_parts]
  exact isResponse_of_parts (by decide) (by decide) (by decide) (by decide)

/-- The body is read back from the response. -/
theorem bodyOf_formatResponse (body : Text) : bodyOf (formatResponse body body.length)=body := by
  have hall : (bytesOf "HTTP/1.1 200 OK").all (· != 13)=true := by decide
  have hline : ∀ c∈bytesOf "HTTP/1.1 200 OK", c≠13 := fun c hc =>
    bne_iff_ne.mp (List.all_eq_true.mp hall c hc)
  rw [formatResponse_parts,List.append_assoc]
  exact bodyOf_headerLines _ body hline

/-- The answer to a command is a response: it has the head of the sensor data. -/
theorem txOk_isResponse : IsResponse txOk := by
  have hsize : bytesOf "Content-Length: 15\r\n"=bytesOf "Content-Length: "++
      decimal (bytesOf "\x7b\"status\":\"ok\"\x7d").length++bytesOf "\r\n" := by decide
  rw [txOk,hsize]
  exact formatResponse_isResponse (bytesOf "\x7b\"status\":\"ok\"\x7d")

section Answers

variable {τ : Type*} (float : FloatOps τ)

/-- A reading prints into 23 characters. -/
theorem formatReading_length (x : τ) : (formatReading float x).length≤23 := by
  have hbound : ∀ v : Int32, (decimalInt v.toInt).length≤11 := by
    intro v
    have hlow := Int32.le_toInt v
    have hhigh := Int32.toInt_lt v
    exact decimalInt_length (by omega)
  have hwhole := hbound (float.toInt x)
  have hfrac := hbound (if float.toInt (float.tenths x (float.toInt x))<0 then
    -float.toInt (float.tenths x (float.toInt x)) else float.toInt (float.tenths x (float.toInt x)))
  simp only [formatReading,List.length_append,List.length_cons]
  omega

/-- The JSON text fits its buffer. -/
theorem formatBody_length {snap : WebSensorData τ τ} (h : snap.timestamp.length≤23) :
    (formatBody float snap).length≤105 := by
  have htemp := formatReading_length float snap.temp
  have hpressure := formatReading_length float snap.pressure
  have hliterals : (bytesOf "\x7b\"temp\":").length=8 ∧ (bytesOf ",\"pressure\":").length=12 ∧
      (bytesOf ",\"timestamp\":\"").length=14 ∧ (bytesOf "\"\x7d").length=2 := by decide
  simp only [formatBody,List.length_append]
  omega

/-- The response fits its buffer when the body does. -/
theorem formatResponse_length {body : Text} (h : body.length≤105) :
    (formatResponse body body.length).length≤383 := by
  have hdecimal := decimal_length_le (show body.length<10^3 by omega) (by decide)
  have hliterals : (bytesOf "HTTP/1.1 200 OK\r\n").length=17 ∧
      (bytesOf "Content-Type: application/json\r\n").length=32 ∧
      (bytesOf "Content-Length: ").length=16 ∧ (bytesOf "\r\n").length=2 ∧
      (bytesOf "Access-Control-Allow-Origin: *\r\n").length=32 ∧
      (bytesOf "Connection: close\r\n").length=19 := by decide
  simp only [formatResponse,List.length_append]
  omega

/-- A snapshot is sent whole. -/
theorem sendSensorJson_snap {mutexFree : Bool} {sensorData snap : WebSensorData τ τ}
    (hsnap : (if mutexFree then sensorData else ⟨float.zero,float.zero,[]⟩)=snap)
    (h : snap.timestamp.length≤23) : sendSensorJson float mutexFree sensorData=
      formatResponse (formatBody float snap) (formatBody float snap).length := by
  have hbody := formatBody_length float h
  unfold sendSensorJson
  dsimp only
  rw [hsnap,snprintf_fits (hbody.trans (by decide))]
  dsimp only
  rw [snprintf_fits (formatResponse_length hbody),List.take_length]

/-- The sensor data are sent whole. -/
theorem sendSensorJson_eq (mutexFree : Bool) {sensorData : WebSensorData τ τ}
    (h : sensorData.timestamp.length≤23) : ∃ snap : WebSensorData τ τ,
      sendSensorJson float mutexFree sensorData=
        formatResponse (formatBody float snap) (formatBody float snap).length := by
  cases mutexFree
  · exact ⟨_,sendSensorJson_snap float rfl (Nat.zero_le _)⟩
  · exact ⟨_,sendSensorJson_snap float rfl h⟩

/-- The answer is a response on every branch that sends no file. -/
theorem answer_isResponse (mutexFree : Bool) {sensorData : WebSensorData τ τ}
    (hlength : sensorData.timestamp.length≤23) {branch : Route} (hfile : ∀ data, branch≠.file data) :
    IsResponse (answer float mutexFree sensorData branch) := by
  cases branch with
  | notFound => exact send404_isResponse
  | notAllowed => exact resp405_isResponse
  | sensor =>
    obtain ⟨snap,hsnap⟩ := sendSensorJson_eq float mutexFree hlength
    rw [answer,hsnap]
    exact formatResponse_isResponse _
  | control => exact txOk_isResponse
  | preflight => exact preflight_isResponse
  | file data => exact absurd rfl (hfile data)

/-- What is sent is a response unless a file is asked for. -/
theorem serveRequest_isResponse_iff (mutexFree : Bool) {s : WebState τ}
    (hlength : s.sensorData.timestamp.length≤23) (rxBuf : Text) :
    IsResponse (serveRequest float mutexFree s rxBuf).2 ↔ ¬AsksForFile rxBuf := by
  rw [serveRequest_route,←route_file_iff]
  constructor
  · rintro h ⟨data,hroute⟩
    obtain ⟨c,rest,rfl,hc⟩ := file_head hroute
    rw [hroute] at h
    obtain ⟨rest',hhead⟩ := h.head
    exact hc (List.cons.inj hhead).1
  · intro h
    exact answer_isResponse float mutexFree hlength fun data hroute => h ⟨data,hroute⟩

end Answers

/-- The actions before the next `accept`. -/
def untilAccept (actions : List Action) : List Action :=
  actions.takeWhile (fun action => match action with
    | .accept _ => false
    | _ => true)

/-- The bytes sent on a connection. -/
def sentOn (fd : ℕ) (actions : List Action) : Text :=
  actions.flatMap (fun action => match action with
    | .send fd' bytes => if fd'=fd then bytes else []
    | _ => [])

/-- A connection is closed once, and answered by one response if it delivered something. -/
structure Served (fd : ℕ) (actions : List Action) : Prop where
  closed : actions.count (.close fd)=1
  answered : ∀ bytes, .recv fd bytes∈actions → bytes≠[] → IsResponse (sentOn fd actions)
  silent : ∀ bytes, .recv fd bytes∈actions → bytes=[] → sentOn fd actions=[]

/-- Every connection is served before the next `accept`. -/
def ConnectionsServed (actions : List Action) : Prop :=
  ∀ before fd after, actions=before++.accept (some fd)::after → Served fd (untilAccept after)

section Runs

variable {τ : Type*} (float : FloatOps τ)

/-- What an iteration does after it got a connection. -/
def afterAccept (mutexFree : Bool) (s : WebState τ) (fd : ℕ) (rx : List UInt8) : List Action :=
  if rx=[] then [.recv fd rx,.close fd]
  else [.recv fd rx,.send fd (serveRequest float mutexFree s (cString rx)).2,.close fd]

/-- The actions of an iteration with a connection. -/
theorem connected_actions (s : WebState τ) (notified : Bool) (fd : ℕ) (pieces : List (List UInt8))
    (mutexFree : Bool) : ((webService float).step s
      (.iteration notified (.connected fd pieces mutexFree))).2=
        (if notified then [.checkIn] else [])++.accept (some fd)::
          afterAccept float mutexFree s fd (received pieces) := by
  simp only [webService,afterAccept]
  split <;> rfl

/-- Up to the next `accept` the task only checks in. -/
theorem untilAccept_trace (s : WebState τ) (events : List (Event τ)) :
    ∀ action∈untilAccept ((webService float).trace s events), action=.checkIn := by
  induction events generalizing s with
  | nil => exact nofun
  | cons e events ih =>
    rw [Machine.trace]
    cases e with
    | updateSensorData mutexFree temp pressure t => exact ih _
    | iteration notified client =>
      have hfirst : ∃ result rest, ((webService float).step s (.iteration notified client)).2=
          (if notified then [.checkIn] else [])++.accept result::rest := by
        cases client with
        | acceptFailed => exact ⟨none,[],rfl⟩
        | connected fd pieces mutexFree => exact ⟨_,_,connected_actions float s _ _ _ _⟩
      obtain ⟨result,rest,hstep⟩ := hfirst
      rw [hstep]
      cases notified <;> simp [untilAccept]

/-- An iteration takes one piece of a connection. -/
theorem afterAccept_recv {mutexFree : Bool} {s : WebState τ} {fd : ℕ} {rx bytes : List UInt8} :
    .recv fd bytes∈afterAccept float mutexFree s fd rx ↔ bytes=rx := by
  unfold afterAccept
  split <;> simp

/-- An iteration closes its connection once. -/
theorem afterAccept_close (mutexFree : Bool) (s : WebState τ) (fd : ℕ) (rx : List UInt8) :
    (afterAccept float mutexFree s fd rx).count (.close fd)=1 := by
  unfold afterAccept
  split <;> simp

/-- An iteration sends the answer, to what delivered something. -/
theorem afterAccept_sent (mutexFree : Bool) (s : WebState τ) (fd : ℕ) (rx : List UInt8) :
    sentOn fd (afterAccept float mutexFree s fd rx)=
      if rx=[] then [] else (serveRequest float mutexFree s (cString rx)).2 := by
  unfold afterAccept
  split <;> simp [sentOn]

/-- A connection is served well exactly when no file is asked for. -/
theorem served_iff {mutexFree : Bool} {s : WebState τ} {fd : ℕ} {rx : List UInt8}
    {quiet : List Action} (hlength : s.sensorData.timestamp.length≤23)
    (hquiet : ∀ action∈quiet, action=.checkIn) :
    Served fd (afterAccept float mutexFree s fd rx++quiet) ↔ ¬AsksForFile (cString rx) := by
  have hclosed : (afterAccept float mutexFree s fd rx++quiet).count (.close fd)=1 := by
    rw [List.count_append,afterAccept_close,List.count_eq_zero.mpr fun h => by cases hquiet _ h]
  have hrecv : ∀ bytes, .recv fd bytes∈afterAccept float mutexFree s fd rx++quiet → bytes=rx := by
    intro bytes h
    rcases List.mem_append.mp h with h|h
    · exact (afterAccept_recv float).mp h
    · cases hquiet _ h
  have hsilent : sentOn fd quiet=[] := by
    rw [sentOn,List.flatMap_eq_nil_iff]
    intro action h
    rw [hquiet action h]
  have hsent : sentOn fd (afterAccept float mutexFree s fd rx++quiet)=
      if rx=[] then [] else (serveRequest float mutexFree s (cString rx)).2 := by
    rw [←afterAccept_sent float mutexFree s fd rx,sentOn,List.flatMap_append]
    change sentOn fd _++sentOn fd quiet=_
    rw [hsilent,List.append_nil]
  rw [←serveRequest_isResponse_iff float mutexFree hlength]
  by_cases hnone : rx=[]
  · rw [if_pos hnone] at hsent
    refine iff_of_true ⟨hclosed,fun bytes h hbytes => ?_,fun _ _ _ => hsent⟩ ?_
    · exact absurd ((hrecv bytes h).trans hnone) hbytes
    · rw [hnone]
      exact send404_isResponse
  · rw [if_neg hnone] at hsent
    rw [←hsent]
    refine ⟨fun h => h.answered rx ?_ hnone,
      fun h => ⟨hclosed,fun _ _ _ => h,fun bytes hmem hempty => ?_⟩⟩
    · exact List.mem_append_left _ ((afterAccept_recv float).mpr rfl)
    · exact absurd ((hrecv bytes hmem).symm.trans hempty) hnone

/-- No connection delivers a request for a file. -/
def NoFileAsked (events : List (Event τ)) : Prop :=
  ∀ notified fd pieces mutexFree, .iteration notified (.connected fd pieces mutexFree)∈events →
    ¬AsksForFile (cString (received pieces))

/-- The timestamp of the sensor data is that of some time in every state. -/
theorem timestamp_formatted (temp pressure : τ) (t : RtcTime) (events : List (Event τ)) :
    ∃ t', ((webService float).run (webServiceInit float temp pressure t)
      events).sensorData.timestamp=formatTimestamp t' := by
  refine (webService float).run_invariant
    (fun s => ∃ t', s.sensorData.timestamp=formatTimestamp t') ?_ ?_ events
  · exact ⟨t,rfl⟩
  · intro s e h
    cases e with
    | updateSensorData mutexFree temp pressure t =>
      cases mutexFree
      · exact h
      · exact ⟨t,rfl⟩
    | iteration notified client =>
      cases client with
      | acceptFailed => exact h
      | connected fd pieces mutexFree =>
        dsimp only [webService]
        split <;> exact h

/-- The timestamp of the sensor data fits its field in every state. -/
theorem timestamp_run (temp pressure : τ) (t : RtcTime) (events : List (Event τ)) :
    ((webService float).run (webServiceInit float temp pressure t)
      events).sensorData.timestamp.length≤23 := by
  obtain ⟨t',h⟩ := timestamp_formatted float temp pressure t events
  rw [h]
  exact formatTimestamp_length t'

/-- An accepted connection belongs to one iteration. -/
theorem accept_split {s : WebState τ} {e : Event τ} {fd : ℕ} {left right : List Action}
    (h : ((webService float).step s e).2=left++.accept (some fd)::right) :
    ∃ notified pieces mutexFree, e=.iteration notified (.connected fd pieces mutexFree) ∧
      right=afterAccept float mutexFree s fd (received pieces) := by
  cases e with
  | updateSensorData mutexFree temp pressure t => simp [webService] at h
  | iteration notified client =>
    cases client with
    | acceptFailed =>
      have hmem : Action.accept (some fd)∈((webService float).step s
          (.iteration notified .acceptFailed)).2 := by
        rw [h]
        simp
      cases notified <;> simp [webService] at hmem
    | connected fd' pieces mutexFree =>
      rw [connected_actions] at h
      have hcheckIn : .accept (some fd)∉(if notified then [Action.checkIn] else []) := by
        cases notified <;> simp
      have hafter : .accept (some fd)∉afterAccept float mutexFree s fd' (received pieces) := by
        unfold afterAccept
        split <;> simp
      obtain ⟨-,hfd,hright⟩ := (List.append_cons_inj_of_notMem hcheckIn hafter).mp h
      obtain rfl := Option.some.inj (Action.accept.inj hfd)
      exact ⟨notified,pieces,mutexFree,rfl,hright.symm⟩

/-- What an iteration does with its connection ends with the next `accept`. -/
theorem untilAccept_after (mutexFree : Bool) (s : WebState τ) (fd : ℕ) (rx : List UInt8)
    (rest : List Action) : untilAccept (afterAccept float mutexFree s fd rx++rest)=
      afterAccept float mutexFree s fd rx++untilAccept rest := by
  unfold afterAccept untilAccept
  split <;> rfl

/-- Every connection is served well exactly in the runs in which no file is asked for. -/
theorem connections_served_iff (temp pressure : τ) (t : RtcTime) (events : List (Event τ)) :
    ConnectionsServed ((webService float).trace (webServiceInit float temp pressure t) events) ↔
      NoFileAsked events := by
  constructor
  · intro h notified fd pieces mutexFree hmem
    obtain ⟨past,future,rfl⟩ := List.append_of_mem hmem
    have hlength := timestamp_run float temp pressure t past
    rw [Machine.trace_append,Machine.trace,connected_actions,List.append_assoc,
      ←List.append_assoc,List.cons_append] at h
    have hserved := h _ fd _ rfl
    rw [untilAccept_after] at hserved
    exact (served_iff float hlength (untilAccept_trace float _ _)).mp hserved
  · intro h before fd after hsplit
    obtain ⟨past,e,future,left,right,rfl,hstep,hafter⟩ := Machine.trace_split_after _ hsplit
    obtain ⟨notified,pieces,mutexFree,rfl,rfl⟩ := accept_split float hstep
    have hlength := timestamp_run float temp pressure t past
    rw [hafter,untilAccept_after]
    refine (served_iff float hlength (untilAccept_trace float _ _)).mpr ?_
    exact h notified fd pieces mutexFree (by simp)

end Runs

/-- The request of a browser for the start page. -/
def startPageRequest : Text := bytesOf "GET / HTTP/1.1\r\n\r\n"

/-- A browser asks for the start page and gets the bytes of `index.html`, which are
no response. -/
theorem start_page_not_served : ¬ConnectionsServed ((webService exactFloat).trace
    (webServiceInit exactFloat (9999/100) 999 ⟨0,0,0,0,0,0,0⟩)
      [.iteration false (.connected 1 [startPageRequest] true)]) := by
  intro h
  have hasks : AsksForFile (cString (received [startPageRequest])) :=
    ⟨bytesOf "GET",bytesOf "/",by decide,Or.inl rfl⟩
  rw [Machine.trace,connected_actions] at h
  have hserved := h [] 1 _ rfl
  change Served 1 (untilAccept (afterAccept exactFloat _ _ _ _++_)) at hserved
  rw [untilAccept_after] at hserved
  exact (served_iff exactFloat (formatTimestamp_length _) (untilAccept_trace exactFloat _ [])).mp
    hserved hasks

end WebDataLogger.HttpConnections
