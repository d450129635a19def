import Mathlib.Data.Rat.Cast.Defs
import WebDataLogger.HttpAssets
import WebDataLogger.SensorData
import WebDataLogger.TransitionRuns

/-!
# The HTTP task of the web service

`http_handler_task` accepts one connection per iteration, takes what a single `recv`
delivers, answers by the first two words of it and closes the connection. The
arithmetic on `float` is left open.
-/

namespace WebDataLogger.WebService

open CText HttpMessage HttpAssets RealTimeClock SensorData TransitionRuns

/-- What `send_sensor_json` computes with `float`. -/
structure FloatOps (τ : Type*) where
  zero : τ
  /-- `(int)x`. -/
  toInt : τ → Int32
  /-- `(x - whole) * 10`. -/
  tenths : τ → Int32 → τ

/-- Floats taken as exact rationals. A conversion truncates and saturates. -/
def exactFloat : FloatOps ℚ where
  zero := 0
  toInt x := Int32.ofInt (max (-2147483648) (min 2147483647 (x.num.tdiv x.den)))
  tenths x whole := (x-(whole.toInt : ℚ))*10

/-- Globals of the web service. -/
structure WebState (τ : Type*) where
  /-- `g_sensor_data`. -/
  sensorData : WebSensorData τ τ
  /-- `g_web_control_active`. -/
  webControlActive : UInt8

/-- What `accept` and the calls of `recv` on the connection would deliver. -/
inductive Client where
  | acceptFailed
  /-- A connection, the pieces that arrive on it, and whether `g_sensor_mutex` can be had. -/
  | connected (fd : ℕ) (pieces : List (List UInt8)) (mutexFree : Bool)

/-- An update of the sensor data or an iteration of `http_handler_task`. -/
inductive Event (τ : Type*) where
  | updateSensorData (mutexFree : Bool) (temp pressure : τ) (t : RtcTime)
  | iteration (notified : Bool) (client : Client)

/-- What the task does. -/
inductive Action where
  /-- `Reset_HeltMonit_service`. -/
  | checkIn
  /-- `accept`, with the connection if there is one. -/
  | accept (fd : Option ℕ)
  /-- `recv`, with the bytes if there are any. -/
  | recv (fd : ℕ) (bytes : List UInt8)
  | send (fd : ℕ) (bytes : Text)
  | close (fd : ℕ)
  deriving DecidableEq

/-- `"%7s %63s"`. -/
def requestFormat : List Directive := [.word 7,.blank,.word 63]

/-- `resp405`. -/
def resp405 : Text :=
  bytesOf "HTTP/1.1 405 Method Not Allowed\r\n"++
  bytesOf "Access-Control-Allow-Origin: *\r\n"++
  bytesOf "Content-Length: 0\r\n"++
  bytesOf "Connection: close\r\n"++
  bytesOf "\r\n"

/-- `preflight`. -/
def preflight : Text :=
  bytesOf "HTTP/1.1 204 No Content\r\n"++
  bytesOf "Access-Control-Allow-Origin: *\r\n"++
  bytesOf "Access-Control-Allow-Methods: POST, OPTIONS\r\n"++
  bytesOf "Access-Control-Allow-Headers: Content-Type\r\n"++
  bytesOf "Content-Length: 0\r\n"++
  bytesOf "Connection: close\r\n"++
  bytesOf "\r\n"

/-- `tx_ok`. -/
def txOk : Text :=
  bytesOf "HTTP/1.1 200 OK\r\n"++
  bytesOf "Content-Type: application/json\r\n"++
  bytesOf "Content-Length: 15\r\n"++
  bytesOf "Access-Control-Allow-Origin: *\r\n"++
  bytesOf "Connection: close\r\n"++
  bytesOf "\r\n"++
  bytesOf "\x7b\"status\":\"ok\"\x7d"

/-- The response of `send_404`. -/
def send404 : Text :=
  bytesOf "HTTP/1.1 404 Not Found\r\n"++
  bytesOf "Content-Type: text/plain\r\n"++
  bytesOf "Content-Length: 9\r\n"++
  bytesOf "Access-Control-Allow-Origin: *\r\n"++
  bytesOf "Connection: close\r\n"++
  bytesOf "\r\n"++
  bytesOf "Not Found"

/-- `handle_control_post`: the new flag and the response. -/
def handleControlPost (webControlActive : UInt8) (rxBuf : Text) : UInt8×Text :=
  if contains rxBuf (bytesOf "\"on\"") || contains rxBuf (bytesOf ":\"on\"") then (1,txOk)
  else if contains rxBuf (bytesOf "\"off\"") || contains rxBuf (bytesOf ":\"off\"") then (0,txOk)
  else (webControlActive,txOk)

/-- `handle_static_file_serve`: the file sent, if there is one of that name. -/
def handleStaticFileServe (requestedPath : Text) : Option Text :=
  (httpsrvFsData.find? (fun entry => requestedPath == entry.name)).map HttpsrvFsDirEntry.data

/-- The path of the static file asked for. -/
def targetPath (path : Text) : Text :=
  let target := path.take 63
  if target=bytesOf "/" then bytesOf "/index.html" else target

section Json

variable {τ : Type*} (float : FloatOps τ)

/-- `%d.%d` of a reading. -/
def formatReading (x : τ) : Text :=
  let whole := float.toInt x
  let frac := float.toInt (float.tenths x whole)
  decimalInt whole.toInt++46::decimalInt (if frac<0 then -frac else frac).toInt

/-- The JSON text of a snapshot. -/
def formatBody (snap : WebSensorData τ τ) : Text :=
  bytesOf "\x7b\"temp\":"++formatReading float snap.temp++
  bytesOf ",\"pressure\":"++formatReading float snap.pressure++
  bytesOf ",\"timestamp\":\""++snap.timestamp++bytesOf "\"\x7d"

/-- The response around a body and its length. -/
def formatResponse (body : Text) (bodyLen : ℕ) : Text :=
  bytesOf "HTTP/1.1 200 OK\r\n"++
  bytesOf "Content-Type: application/json\r\n"++
  (bytesOf "Content-Length: "++decimal bodyLen++bytesOf "\r\n")++
  bytesOf "Access-Control-Allow-Origin: *\r\n"++
  bytesOf "Connection: close\r\n"++
  bytesOf "\r\n"++
  body

/-- The response of `send_sensor_json`. Both texts pass through their buffers. -/
def sendSensorJson (mutexFree : Bool) (sensorData : WebSensorData τ τ) : Text :=
  let snap := if mutexFree then sensorData else ⟨float.zero,float.zero,[]⟩
  let body := snprintf 128 (formatBody float snap)
  let tx := snprintf 384 (formatResponse body.1 body.2)
  tx.1.take tx.2

/-- The answer of `http_handler_task` to what it received: the new flag and the
bytes sent. -/
def serveRequest (mutexFree : Bool) (s : WebState τ) (rxBuf : Text) : UInt8×Text :=
  match sscanf requestFormat rxBuf with
  | [.word method,.word path] =>
    if sameFirst 11 path (bytesOf "/api/sensor") then
      if sameFirst 3 method (bytesOf "GET") then
        (s.webControlActive,sendSensorJson float mutexFree s.sensorData)
      else (s.webControlActive,resp405)
    else if sameFirst 12 path (bytesOf "/api/control") then
      if sameFirst 4 method (bytesOf "POST") then handleControlPost s.webControlActive rxBuf
      else if sameFirst 7 method (bytesOf "OPTIONS") then (s.webControlActive,preflight)
      else (s.webControlActive,resp405)
    else
      match handleStaticFileServe (targetPath path) with
      | some data => (s.webControlActive,data)
      | none => (s.webControlActive,send404)
  | _ => (s.webControlActive,send404)

/-- `recv` into a buffer of 640 bytes with room for a NUL. -/
def received (pieces : List (List UInt8)) : List UInt8 := (pieces.headD []).take 639

/-- `http_handler_task` and the updates of its data, once the task listens. -/
def webService : Machine (WebState τ) (Event τ) Action where
  step s
    | .updateSensorData mutexFree temp pressure t =>
      ({s with sensorData := webServiceUpdateSensorData mutexFree s.sensorData temp pressure t},[])
    | .iteration notified client =>
      let checkIn := if notified then [Action.checkIn] else []
      match client with
      | .acceptFailed => (s,checkIn++[.accept none])
      | .connected fd pieces mutexFree =>
        let rx := received pieces
        if rx=[] then (s,checkIn++[.accept (some fd),.recv fd rx,.close fd])
        else
          let answer := serveRequest float mutexFree s (cString rx)
          ({s with webControlActive := answer.1},
            checkIn++[.accept (some fd),.recv fd rx,.send fd answer.2,.close fd])

/-- The state left by `WebService_Init`, with its 99.99 and 999 as readings. -/
def webServiceInit (temp pressure : τ) (t : RtcTime) : WebState τ where
  sensorData := webServiceUpdateSensorData true
    ⟨float.zero,float.zero,bytesOf "1970-01-01 00:00:00"⟩ temp pressure t
  webControlActive := 0

end Json

/-- The branches of the router, those with equal answers taken together. -/
inductive Route where
  | notFound
  | notAllowed
  | sensor
  | control
  | preflight
  | file (data : Text)

/-- The branch that the first two words lead to. -/
def route (rxBuf : Text) : Route :=
  match sscanf requestFormat rxBuf with
  | [.word method,.word path] =>
    if sameFirst 11 path (bytesOf "/api/sensor") then
      if sameFirst 3 method (bytesOf "GET") then .sensor else .notAllowed
    else if sameFirst 12 path (bytesOf "/api/control") then
      if sameFirst 4 method (bytesOf "POST") then .control
      else if sameFirst 7 method (bytesOf "OPTIONS") then .preflight
      else .notAllowed
    else
      match handleStaticFileServe (targetPath path) with
      | some data => .file data
      | none => .notFound
  | _ => .notFound

section Routes

variable {τ : Type*} {float : FloatOps τ}

/-- The bytes sent on a branch. -/
def answer (float : FloatOps τ) (mutexFree : Bool) (sensorData : WebSensorData τ τ) :
    Route → Text
  | .notFound => send404
  | .notAllowed => resp405
  | .sensor => sendSensorJson float mutexFree sensorData
  | .control => txOk
  | .preflight => preflight
  | .file data => data

/-- The response to a command is the same whatever it says. -/
theorem handleControlPost_answer (webControlActive : UInt8) (rxBuf : Text) :
    (handleControlPost webControlActive rxBuf).2=txOk := by
  unfold handleControlPost
  split
  · rfl
  · split <;> rfl

/-- What is sent and whether the flag is touched depends on the branch. -/
theorem serveRequest_route (mutexFree : Bool) (s : WebState τ) (rxBuf : Text) :
    serveRequest float mutexFree s rxBuf=(match route rxBuf with
      | .control => (handleControlPost s.webControlActive rxBuf).1
      | _ => s.webControlActive,answer float mutexFree s.sensorData (route rxBuf)) := by
  unfold serveRequest route
  split
  next method path _ =>
    by_cases hsensor : sameFirst 11 path (bytesOf "/api/sensor")=true
    · rw [if_pos hsensor,if_pos hsensor]
      by_cases hget : sameFirst 3 method (bytesOf "GET")=true
      · rw [if_pos hget,if_pos hget,answer]
      · rw [if_neg hget,if_neg hget,answer]
    · rw [if_neg hsensor,if_neg hsensor]
      by_cases hcontrol : sameFirst 12 path (bytesOf "/api/control")=true
      · rw [if_pos hcontrol,if_pos hcontrol]
        by_cases hpost : sameFirst 4 method (bytesOf "POST")=true
        · rw [if_pos hpost,if_pos hpost,answer,←handleControlPost_answer s.webControlActive rxBuf]
        · rw [if_neg hpost,if_neg hpost]
          by_cases hoptions : sameFirst 7 method (bytesOf "OPTIONS")=true
          · rw [if_pos hoptions,if_pos hoptions,answer]
          · rw [if_neg hoptions,if_neg hoptions,answer]
      · rw [if_neg hcontrol,if_neg hcontrol]
        cases handleStaticFileServe (targetPath path) <;> rfl
  next => rfl

end Routes

/-- A word is no longer than its width. -/
theorem scanWord_length {width : ℕ} {s word rest : Text} (h : scanWord width s=some (word,rest)) :
    word.length≤width := by
  unfold scanWord at h
  dsimp only at h
  split at h
  · cases h
  · obtain ⟨rfl,-⟩ := Prod.mk.inj (Option.some.inj h)
    exact (List.takeWhile_sublist _).length_le.trans (List.length_take_le _ _)

/-- The path of a request line has at most 63 characters. -/
theorem path_length {rxBuf method path : Text}
    (h : sscanf requestFormat rxBuf=[.word method,.word path]) : path.length≤63 := by
  simp only [requestFormat,sscanf] at h
  split at h
  next first rest _ =>
    obtain ⟨-,htail⟩ := List.cons.inj h
    split at htail
    next second rest' hscan =>
      obtain ⟨hpath,-⟩ := List.cons.inj htail
      obtain rfl := Item.word.inj hpath
      exact scanWord_length hscan
    next => cases htail
  next => cases h

/-- The files are found by their names. -/
theorem handleStaticFileServe_eq (path : Text) : handleStaticFileServe path=
    if path=bytesOf "/style.css" then some httpsrvFsFsStyleCss
    else if path=bytesOf "/index.html" then some httpsrvFsFsIndexHtml else none := by
  unfold handleStaticFileServe httpsrvFsData
  by_cases hstyle : path=bytesOf "/style.css"
  · have hbeq := beq_iff_eq.mpr hstyle
    rw [if_pos hstyle]
    simp only [List.find?_cons,hbeq,Option.map_some]
  · have hbeq := beq_false_of_ne hstyle
    rw [if_neg hstyle]
    by_cases hindex : path=bytesOf "/index.html"
    · have hbeq' := beq_iff_eq.mpr hindex
      rw [if_pos hindex]
      simp only [List.find?_cons,hbeq,hbeq',Option.map_some]
    · have hbeq' := beq_false_of_ne hindex
      rw [if_neg hindex]
      simp only [List.find?_cons,hbeq,hbeq',List.find?_nil,Option.map_none]

/-- A received text whose path names one of the files, or their root. -/
def AsksForFile (rxBuf : Text) : Prop :=
  ∃ method path, sscanf requestFormat rxBuf=[.word method,.word path] ∧
    (path=bytesOf "/" ∨ path=bytesOf "/style.css" ∨ path=bytesOf "/index.html")

/-- The root stands for the index, and no other path is changed. -/
theorem targetPath_eq {path : Text} (h : path.length≤63) :
    targetPath path=if path=bytesOf "/" then bytesOf "/index.html" else path := by
  unfold targetPath
  rw [List.take_of_length_le h]

/-- A file is served by the name in the second word. -/
theorem route_eq_file {rxBuf data : Text} (h : route rxBuf=.file data) :
    ∃ method path, sscanf requestFormat rxBuf=[.word method,.word path] ∧
      handleStaticFileServe (targetPath path)=some data := by
  unfold route at h
  split at h
  next method path hscan =>
    split at h
    · split at h <;> cases h
    · split at h
      · split at h
        · cases h
        · split at h <;> cases h
      · split at h
        next served hserved =>
          obtain rfl := Route.file.inj h
          exact ⟨method,path,hscan,hserved⟩
        next => cases h
  next => cases h

/-- The files are served to those who ask for them. -/
theorem route_file_iff {rxBuf : Text} : (∃ data, route rxBuf=.file data) ↔ AsksForFile rxBuf := by
  constructor
  · rintro ⟨data,h⟩
    obtain ⟨method,path,hscan,hserved⟩ := route_eq_file h
    refine ⟨method,path,hscan,?_⟩
    rw [targetPath_eq (path_length hscan)] at hserved
    by_cases hroot : path=bytesOf "/"
    · exact Or.inl hroot
    · rw [if_neg hroot,handleStaticFileServe_eq] at hserved
      by_cases hstyle : path=bytesOf "/style.css"
      · exact Or.inr (Or.inl hstyle)
      · by_cases hindex : path=bytesOf "/index.html"
        · exact Or.inr (Or.inr hindex)
        · rw [if_neg hstyle,if_neg hindex] at hserved
          cases hserved
  · rintro ⟨method,path,hscan,hpath⟩
    unfold route
    rw [hscan]
    dsimp only
    rcases hpath with rfl|rfl|rfl
    · exact ⟨httpsrvFsFsIndexHtml,rfl⟩
    · exact ⟨httpsrvFsFsStyleCss,rfl⟩
    · exact ⟨httpsrvFsFsIndexHtml,rfl⟩

/-- The files do not start as a response does. -/
theorem handleStaticFileServe_head {path data : Text} (h : handleStaticFileServe path=some data) :
    ∃ c rest, data=c::rest ∧ c≠72 := by
  rw [handleStaticFileServe_eq] at h
  split at h
  · obtain rfl := Option.some.inj h
    exact ⟨98,_,rfl,by decide⟩
  · split at h
    · obtain rfl := Option.some.inj h
      exact ⟨60,_,rfl,by decide⟩
    · cases h

/-- A file that is served does not start as a response does. -/
theorem file_head {rxBuf data : Text} (h : route rxBuf=.file data) :
    ∃ c rest, data=c::rest ∧ c≠72 := by
  obtain ⟨method,path,-,hserved⟩ := route_eq_file h
  exact handleStaticFileServe_head hserved

end WebDataLogger.WebService
