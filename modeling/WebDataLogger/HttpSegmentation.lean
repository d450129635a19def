import WebDataLogger.HttpConnections

/-!
# Requests that arrive in pieces

The HTTP task takes the first piece of a request for the whole of it. The outcome is
the same exactly when the first piece leads to the same branch of the router and, on
the branch of commands, holds the quoted word that decides.
-/

namespace WebDataLogger.HttpSegmentation

open CText HttpMessage RealTimeClock SensorData TransitionRuns WebService HttpConnections

/-- The text `"on"` that `handle_control_post` looks for. -/
def saysOn (rxBuf : Text) : Bool :=
  contains rxBuf (bytesOf "\"on\"") || contains rxBuf (bytesOf ":\"on\"")

/-- The text `"off"` that `handle_control_post` looks for. -/
def saysOff (rxBuf : Text) : Bool :=
  contains rxBuf (bytesOf "\"off\"") || contains rxBuf (bytesOf ":\"off\"")

/-- The command seen in the first piece sets the flag as the whole request does. -/
def CommandDecided (webControlActive : UInt8) (first whole : Text) : Prop :=
  (saysOn whole=true → saysOn first=true ∨ webControlActive=1 ∧ saysOff first=false) ∧
    (saysOn whole=false → saysOff whole=true → saysOff first=true ∨ webControlActive=0)

/-- The first piece decides: it leads to the branch of the whole request, and to the same
flag if that is the branch of commands. -/
def FirstPieceDecides (webControlActive : UInt8) (first whole : Text) : Prop :=
  route first=route whole ∧
    (route whole=.control → CommandDecided webControlActive first whole)

section Outcome

variable {τ : Type*} (float : FloatOps τ)

/-- What is sent on a connection, and the flag left. -/
def outcome (s : WebState τ) (fd : ℕ) (mutexFree : Bool) (pieces : List (List UInt8)) :
    Text×UInt8 :=
  let iteration := (webService float).step s (.iteration false (.connected fd pieces mutexFree))
  (sentOn fd iteration.2,iteration.1.webControlActive)

/-- The outcome of a connection that delivers something. -/
theorem outcome_eq {s : WebState τ} {fd : ℕ} {mutexFree : Bool} {piece : List UInt8}
    {rest : List (List UInt8)} (hne : piece≠[]) (hlength : piece.length≤639) :
    outcome float s fd mutexFree (piece::rest)=
      ((serveRequest float mutexFree s (cString piece)).2,
        (serveRequest float mutexFree s (cString piece)).1) := by
  have hreceived : received (piece::rest)=piece := List.take_of_length_le hlength
  have hsent : sentOn fd ((webService float).step s
      (.iteration false (.connected fd (piece::rest) mutexFree))).2=
        (serveRequest float mutexFree s (cString piece)).2 := by
    rw [connected_actions,hreceived]
    change sentOn fd (afterAccept float mutexFree s fd piece)=_
    rw [afterAccept_sent,if_neg hne]
  have hflag : ((webService float).step s
      (.iteration false (.connected fd (piece::rest) mutexFree))).1.webControlActive=
        (serveRequest float mutexFree s (cString piece)).1 := by
    simp only [webService,hreceived,if_neg hne]
  exact Prod.ext hsent hflag

/-- The size given for the sensor data is not that of the answer to a command. -/
theorem sendSensorJson_ne_txOk (mutexFree : Bool) {sensorData : WebSensorData τ τ}
    (h : sensorData.timestamp.length≤23) : sendSensorJson float mutexFree sensorData≠txOk := by
  obtain ⟨snap,hsnap⟩ := sendSensorJson_eq float mutexFree h
  intro heq
  rw [hsnap] at heq
  have hsize := congrArg (fun bytes => digitsValue ((bytes.drop 65).takeWhile isDigit)) heq
  have hlong : 36≤(formatBody float snap).length := by
    have hliterals : (bytesOf "\x7b\"temp\":").length=8 ∧ (bytesOf ",\"pressure\":").length=12 ∧
        (bytesOf ",\"timestamp\":\"").length=14 ∧ (bytesOf "\"\x7d").length=2 := by decide
    simp only [formatBody,List.length_append]
    omega
  generalize formatBody float snap=body at hsize hlong
  have hdrop : ∃ rest, (formatResponse body body.length).drop 65=decimal body.length++13::rest :=
    ⟨_,by simp only [formatResponse,List.append_assoc]; rfl⟩
  obtain ⟨rest,hrest⟩ := hdrop
  have hok : digitsValue ((txOk.drop 65).takeWhile isDigit)=15 := by decide
  rw [hok,hrest,List.takeWhile_append_of_pos (decimal_digits _),
    List.takeWhile_cons_of_neg (by decide),List.append_nil,digitsValue_decimal] at hsize
  omega

/-- The status code of an answer. -/
def statusOf : Route → Text
  | .notFound => bytesOf "404"
  | .notAllowed => bytesOf "405"
  | .sensor => bytesOf "200"
  | .control => bytesOf "200"
  | .preflight => bytesOf "204"
  | .file data => (data.drop 9).take 3

/-- Every answer shows its status code. -/
theorem answer_status (mutexFree : Bool) {sensorData : WebSensorData τ τ}
    (h : sensorData.timestamp.length≤23) (branch : Route) :
    ((answer float mutexFree sensorData branch).drop 9).take 3=statusOf branch := by
  cases branch with
  | notFound => rw [answer]; decide
  | notAllowed => rw [answer]; decide
  | sensor =>
    obtain ⟨snap,hsnap⟩ := sendSensorJson_eq float mutexFree h
    rw [answer,hsnap]
    simp only [formatResponse,List.append_assoc]
    rfl
  | control => rw [answer]; decide
  | preflight => rw [answer]; decide
  | file data => rfl

/-- A branch sends no file, or one that does not start as a response does. -/
def Distinguished (branch : Route) : Prop :=
  ∀ data, branch=.file data → ∃ c rest, data=c::rest ∧ c≠72

/-- A file is not taken for another answer. -/
theorem file_ne_answer (mutexFree : Bool) {sensorData : WebSensorData τ τ}
    (hlength : sensorData.timestamp.length≤23) {data : Text} (hdata : Distinguished (.file data))
    {branch : Route} (hfile : ∀ data', branch≠.file data') :
    answer float mutexFree sensorData branch≠data := by
  intro h
  obtain ⟨c,rest,hhead,hc⟩ := hdata data rfl
  obtain ⟨rest',hhead'⟩ := (answer_isResponse float mutexFree hlength hfile).head
  rw [h,hhead] at hhead'
  exact hc (List.cons.inj hhead').1

/-- The branch can be told from the answer. -/
theorem answer_injective {mutexFree : Bool} {sensorData : WebSensorData τ τ}
    (hlength : sensorData.timestamp.length≤23) {branch branch' : Route}
    (hbranch : Distinguished branch) (hbranch' : Distinguished branch')
    (h : answer float mutexFree sensorData branch=answer float mutexFree sensorData branch') :
    branch=branch' := by
  have hstatus : statusOf branch=statusOf branch' := by
    rw [←answer_status float mutexFree hlength,h,answer_status float mutexFree hlength]
  have hjson := sendSensorJson_ne_txOk float mutexFree hlength
  cases branch with
  | file data =>
    cases branch' with
    | file data' => exact congrArg Route.file h
    | _ => exact absurd h.symm (file_ne_answer float mutexFree hlength hbranch nofun)
  | sensor =>
    cases branch' with
    | file data' => exact absurd h (file_ne_answer float mutexFree hlength hbranch' nofun)
    | sensor => rfl
    | control => exact absurd h hjson
    | _ => exact absurd hstatus (by decide)
  | control =>
    cases branch' with
    | file data' => exact absurd h (file_ne_answer float mutexFree hlength hbranch' nofun)
    | sensor => exact absurd h.symm hjson
    | control => rfl
    | _ => exact absurd hstatus (by decide)
  | _ =>
    cases branch' with
    | file data' => exact absurd h (file_ne_answer float mutexFree hlength hbranch' nofun)
    | _ => first | rfl | exact absurd hstatus (by decide)

end Outcome

/-- The branch taken for a text is distinguished. -/
theorem distinguished_route (rxBuf : Text) : Distinguished (route rxBuf) :=
  fun _ h => file_head h

/-- The flag after a command. -/
theorem handleControlPost_flag (webControlActive : UInt8) (rxBuf : Text) :
    (handleControlPost webControlActive rxBuf).1=
      if saysOn rxBuf=true then 1 else if saysOff rxBuf=true then 0 else webControlActive := by
  unfold handleControlPost saysOn saysOff
  split
  · rfl
  · split <;> rfl

/-- The flag after a command seen in the first piece is that of the whole request exactly
when the first piece decides it. -/
theorem flag_eq_iff (webControlActive : UInt8) (first more : Text) :
    (handleControlPost webControlActive first).1=(handleControlPost webControlActive (first++more)).1 ↔
      CommandDecided webControlActive first (first++more) := by
  have hmono : ∀ t u : Text, (contains first t || contains first u)=true →
      (contains (first++more) t || contains (first++more) u)=true := by
    intro t u h
    rw [Bool.or_eq_true] at h ⊢
    exact h.imp (fun h => contains_append h more) (fun h => contains_append h more)
  have hon : saysOn first=true → saysOn (first++more)=true := hmono _ _
  have hoff : saysOff first=true → saysOff (first++more)=true := hmono _ _
  rw [handleControlPost_flag,handleControlPost_flag,CommandDecided]
  cases honFirst : saysOn first with
  | true => simp [hon honFirst]
  | false =>
    cases hoffFirst : saysOff first with
    | true => cases saysOn (first++more) <;> simp [hoff hoffFirst]
    | false =>
      cases saysOn (first++more) <;> cases saysOff (first++more) <;> simp

section Outcome

variable {τ : Type*} (float : FloatOps τ)

/-- In every state of the task, a request of at most 639 bytes that arrives in pieces has
the outcome of its arrival at once exactly when the first piece decides. -/
theorem same_outcome_iff (temp pressure : τ) (t : RtcTime) (past : List (Event τ)) (fd : ℕ)
    (mutexFree : Bool) (first : Text) (rest : List Text) (hfirst : first≠[])
    (hlength : (first::rest).flatten.length≤639) :
    outcome float ((webService float).run (webServiceInit float temp pressure t) past) fd mutexFree
        (first::rest)=
      outcome float ((webService float).run (webServiceInit float temp pressure t) past) fd
        mutexFree [(first::rest).flatten] ↔
      FirstPieceDecides ((webService float).run (webServiceInit float temp pressure t)
        past).webControlActive (cString first) (cString (first::rest).flatten) := by
  have htimestamp := timestamp_run float temp pressure t past
  generalize (webService float).run (webServiceInit float temp pressure t) past=s at htimestamp ⊢
  have hwhole : (first::rest).flatten≠[] := by simp [hfirst]
  have hshort : first.length≤639 := by
    rw [List.flatten_cons,List.length_append] at hlength
    omega
  obtain ⟨more,hmore⟩ := cString_append first rest.flatten
  rw [outcome_eq float hfirst hshort,outcome_eq float hwhole hlength,List.flatten_cons,hmore,
    serveRequest_route,serveRequest_route,FirstPieceDecides,Prod.mk.injEq]
  constructor
  · rintro ⟨hsent,hflag⟩
    have hroute := answer_injective float htimestamp (distinguished_route _) (distinguished_route _)
      hsent
    refine ⟨hroute,fun hcontrol => ?_⟩
    dsimp only at hflag
    rw [hroute,hcontrol] at hflag
    exact (flag_eq_iff _ _ _).mp hflag
  · rintro ⟨hroute,hdecided⟩
    rw [hroute]
    refine ⟨rfl,?_⟩
    cases hcontrol : route (cString first++more) with
    | control => exact (flag_eq_iff _ _ _).mpr (hdecided hcontrol)
    | _ => rfl

end Outcome

/-- The web service after its start. -/
def freshService : WebState ℚ := webServiceInit exactFloat (9999/100) 999 ⟨0,0,0,0,0,0,0⟩

/-- A request for the sensor data may be cut behind its path. -/
theorem cut_behind_path : outcome exactFloat ((webService exactFloat).run freshService []) 1 true
      [bytesOf "GET /api/sensor HT",bytesOf "TP/1.1\r\n\r\n"]=
    outcome exactFloat ((webService exactFloat).run freshService []) 1 true
      [[bytesOf "GET /api/sensor HT",bytesOf "TP/1.1\r\n\r\n"].flatten] :=
  (same_outcome_iff exactFloat (9999/100) 999 ⟨0,0,0,0,0,0,0⟩ [] 1 true _ _ (by decide)
    (by decide)).mpr ⟨rfl,nofun⟩

/-- The head of the command that the dashboard sends. -/
def commandHead : Text :=
  bytesOf "POST /api/control HTTP/1.1\r\n"++
  bytesOf "Host: 192.168.0.102\r\n"++
  bytesOf "Content-Type: application/json\r\n"++
  bytesOf "Content-Length: 16\r\n"++
  bytesOf "\r\n"

/-- The body of the command that the dashboard sends. -/
def commandBody : Text := bytesOf "\x7b\"command\":\"on\"\x7d"

/-- `Host: 192.168.0.102`. -/
def host : Header := ⟨bytesOf "Host",bytesOf " 192.168.0.102",by decide,by decide⟩

/-- The command is a complete request. -/
theorem command_isRequest : IsRequest (commandHead++commandBody) := by
  have hline : bytesOf "POST /api/control HTTP/1.1\r\n"=
      requestLine (bytesOf "POST") (bytesOf "/api/control") := by decide
  have hsize : bytesOf "Content-Length: 16\r\n"=(contentLength commandBody.length).line := by
    decide
  have hhost : bytesOf "Host: 192.168.0.102\r\n"=host.line := by decide
  have hbytes : commandHead++commandBody=requestLine (bytesOf "POST") (bytesOf "/api/control")++
      headerLines ([host,applicationJson]++contentLength commandBody.length::[])++commandBody := by
    rw [commandHead,hline,hhost,applicationJson_line,hsize,crlf_bytes]
    simp only [headerLines,List.flatMap_append,List.flatMap_cons,List.flatMap_nil,
      List.append_assoc,List.append_nil]
  rw [hbytes]
  exact isRequest_of_parts (by decide) (by decide) (by decide) (by decide) (by decide)

/-- The command sets the flag when it arrives at once, and is lost when its body arrives
after its head. -/
theorem command_lost : IsRequest (commandHead++commandBody) ∧
    (commandHead++commandBody).length≤639 ∧
      (outcome exactFloat freshService 1 true [commandHead++commandBody]).2=1 ∧
        (outcome exactFloat freshService 1 true [commandHead,commandBody]).2=0 := by
  have hshort : (commandHead++commandBody).length≤639 := by decide +kernel
  have hhead : commandHead.length≤639 := by
    rw [List.length_append] at hshort
    omega
  have hne : commandHead≠[] := by decide +kernel
  refine ⟨command_isRequest,hshort,?_,?_⟩
  · have hroute : route (cString (commandHead++commandBody))=.control := rfl
    rw [outcome_eq exactFloat (List.append_ne_nil_of_left_ne_nil hne _) hshort,serveRequest_route,hroute]
    decide
  · have hroute : route (cString commandHead)=.control := rfl
    rw [outcome_eq exactFloat hne hhead,serveRequest_route,hroute]
    decide

end WebDataLogger.HttpSegmentation
