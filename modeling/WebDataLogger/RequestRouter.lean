import WebDataLogger.HttpSegmentation

/-!
# The router against its grammar

The router cuts the method after seven characters and compares prefixes. A request
whose first line is written in full reaches the branch that its two words name exactly
when neither the cut nor a longer word with the same prefix gets in the way.
-/

namespace WebDataLogger.RequestRouter

open CText HttpAssets TransitionRuns WebService HttpSegmentation

/-- A word of a request line. -/
def IsWord (word : Text) : Prop := word≠[] ∧ ∀ c∈word, isSpace c=false ∧ c≠0

/-- A text in which every character passes is a word. -/
theorem isWord_of_all {word : Text} (hne : word≠[])
    (h : word.all (fun c => !isSpace c && c != 0)=true) : IsWord word := by
  refine ⟨hne,fun c hc => ?_⟩
  have hpass := List.all_eq_true.mp h c hc
  rwa [Bool.and_eq_true,Bool.not_eq_true',bne_iff_ne] at hpass

/-- A received request that starts with a method, a blank, a path, a blank and "HTTP/". -/
structure RequestStart where
  method : Text
  path : Text
  rest : List UInt8
  method_word : IsWord method
  path_word : IsWord path
  fits : (method++32::(path++32::(bytesOf "HTTP/"++rest))).length≤639

/-- The bytes received. -/
def RequestStart.bytes (request : RequestStart) : List UInt8 :=
  request.method++32::(request.path++32::(bytesOf "HTTP/"++request.rest))

/-- The file that a path names, with "/" for the index. -/
def fileNamed (path : Text) : Option Text :=
  (httpsrvFsData.find? (fun entry => entry.name ==
    if path=bytesOf "/" then bytesOf "/index.html" else path)).map HttpsrvFsDirEntry.data

/-- The branch of a path outside the API. -/
def fileRoute (path : Text) : Route :=
  match fileNamed path with
  | some data => .file data
  | none => .notFound

/-- The branch that the grammar of the API gives to a method and a path. -/
def specifiedRoute (method path : Text) : Route :=
  if path=bytesOf "/api/sensor" then
    if method=bytesOf "GET" then .sensor else .notAllowed
  else if path=bytesOf "/api/control" then
    if method=bytesOf "POST" then .control
    else if method=bytesOf "OPTIONS" then .preflight
    else .notAllowed
  else fileRoute path

/-- The word that the router takes for the path: what is left of a long method, or the path. -/
def pathSeen (method path : Text) : Text := if method.length≤7 then path else method.drop 7

/-- The branch that the router takes, by prefixes. -/
def prefixRoute (method path : Text) : Route :=
  if bytesOf "/api/sensor"<+:path then
    if bytesOf "GET"<+:method then .sensor else .notAllowed
  else if bytesOf "/api/control"<+:path then
    if bytesOf "POST"<+:method then .control
    else if bytesOf "OPTIONS"<+:method then .preflight
    else .notAllowed
  else fileRoute path

/-- A method of at most seven characters, with no longer word that starts as a route or its
method does. -/
def ShortExact (method path : Text) : Prop :=
  (bytesOf "/api/sensor"<+:path →
    path=bytesOf "/api/sensor" ∧ (bytesOf "GET"<+:method → method=bytesOf "GET")) ∧
  (bytesOf "/api/control"<+:path →
    path=bytesOf "/api/control" ∧ (bytesOf "POST"<+:method → method=bytesOf "POST"))

/-- A longer method, whose rest takes the place of the path: it leads to a refusal of the
method where the path is one of the API, and names what the path names where it is not. -/
def LongExact (method path : Text) : Prop :=
  if path=bytesOf "/api/sensor" ∨ path=bytesOf "/api/control" then
    bytesOf "/api/sensor"<+:method.drop 7 ∧ ¬bytesOf "GET"<+:method ∨
      bytesOf "/api/control"<+:method.drop 7 ∧ ¬bytesOf "POST"<+:method ∧
        ¬bytesOf "OPTIONS"<+:method
  else ¬bytesOf "/api/sensor"<+:method.drop 7 ∧ ¬bytesOf "/api/control"<+:method.drop 7 ∧
    fileNamed (method.drop 7)=fileNamed path

/-- Neither the cut nor a prefix leads to another branch. -/
def RoutesExactly (method path : Text) : Prop :=
  if method.length≤7 then ShortExact method path else LongExact method path

/-- A file is found by its name, whichever side of the comparison it stands on. -/
theorem fileNamed_eq (path : Text) : fileNamed path=
    handleStaticFileServe (if path=bytesOf "/" then bytesOf "/index.html" else path) := by
  unfold fileNamed handleStaticFileServe
  congr 2
  funext entry
  exact Bool.beq_comm

/-- The names of the files are short, so that the cut of the path does not matter. -/
theorem handleStaticFileServe_cut (path : Text) :
    handleStaticFileServe (targetPath (path.take 63))=fileNamed path := by
  rw [targetPath_eq (List.length_take_le 63 path),fileNamed_eq]
  rcases Nat.le_total path.length 63 with hle|hge
  · rw [List.take_of_length_le hle]
  · have hcut : (path.take 63).length=63 := by rw [List.length_take,Nat.min_eq_left hge]
    have hne : ∀ name : Text, name.length<63 → path.take 63≠name ∧ path≠name := by
      intro name hname
      constructor
      · rintro rfl
        omega
      · rintro rfl
        omega
    have hroot := hne (bytesOf "/") (by decide)
    have hstyle := hne (bytesOf "/style.css") (by decide)
    have hindex := hne (bytesOf "/index.html") (by decide)
    rw [if_neg hroot.1,if_neg hroot.2,handleStaticFileServe_eq,handleStaticFileServe_eq,
      if_neg hstyle.1,if_neg hstyle.2,if_neg hindex.1,if_neg hindex.2]

/-- The text of a request. -/
theorem cString_request (request : RequestStart) : cString request.bytes=
    request.method++32::(request.path++32::(bytesOf "HTTP/"++cString request.rest)) := by
  have hword : ∀ {word : Text}, IsWord word → ∀ c∈word, (c != 0)=true := fun h c hc =>
    bne_iff_ne.mpr (h.2 c hc).2
  have hblank : ∀ s : Text, (32::s).takeWhile (· != 0)=32::s.takeWhile (· != 0) := fun _ => rfl
  have hall : (bytesOf "HTTP/").all (· != 0)=true := by decide
  have hversion := List.all_eq_true.mp hall
  rw [cString,RequestStart.bytes,List.takeWhile_append_of_pos (hword request.method_word),hblank,
    List.takeWhile_append_of_pos (hword request.path_word),hblank,
    List.takeWhile_append_of_pos hversion]
  rfl

/-- The two words that are scanned. -/
theorem sscanf_request (request : RequestStart) : sscanf requestFormat (cString request.bytes)=
    [.word (request.method.take 7),.word ((pathSeen request.method request.path).take 63)] := by
  have hspace : ∀ {word : Text}, IsWord word → ∀ c∈word, isSpace c=false := fun h c hc => (h.2 c hc).1
  have hblank : isSpace 32=true := by decide
  rw [cString_request,requestFormat,sscanf,
    scanWord_word (by decide) request.method_word.1 (hspace request.method_word) hblank]
  dsimp only
  rw [sscanf,pathSeen]
  split
  next hshort =>
    rw [List.drop_eq_nil_of_le hshort,List.nil_append,List.dropWhile_cons_of_pos hblank,
      skipSpace_word request.path_word.1 (hspace request.path_word),sscanf,
      scanWord_word (by decide) request.path_word.1 (hspace request.path_word) hblank]
    rfl
  next hlong =>
    have hne : request.method.drop 7≠[] := by
      rw [ne_eq,List.drop_eq_nil_iff]
      exact hlong
    have hword : ∀ c∈request.method.drop 7, isSpace c=false := fun c hc =>
      hspace request.method_word c (List.mem_of_mem_drop hc)
    rw [skipSpace_word hne hword,sscanf,scanWord_word (by decide) hne hword hblank]
    rfl

/-- A route is compared with a prefix of the path that is not cut. -/
theorem sameFirst_take (t s : Text) {n : ℕ} (hn : t.length≤n) :
    sameFirst t.length (s.take n) t=true ↔ t<+:s := by
  rw [sameFirst_iff,List.prefix_take_iff]
  exact and_iff_left hn

/-- The router sees prefixes. -/
theorem route_request (request : RequestStart) : route (cString request.bytes)=
    prefixRoute request.method (pathSeen request.method request.path) := by
  have hcut : ∀ t : Text, t.length≤63 → (sameFirst t.length
      ((pathSeen request.method request.path).take 63) t=true ↔
        t<+:pathSeen request.method request.path) := fun t ht => sameFirst_take t _ ht
  have hcut' : ∀ t : Text, t.length≤7 → (sameFirst t.length (request.method.take 7) t=true ↔
      t<+:request.method) := fun t ht => sameFirst_take t _ ht
  have hsensor := hcut (bytesOf "/api/sensor") (by decide)
  have hcontrol := hcut (bytesOf "/api/control") (by decide)
  have hget := hcut' (bytesOf "GET") (by decide)
  have hpost := hcut' (bytesOf "POST") (by decide)
  have hoptions := hcut' (bytesOf "OPTIONS") (by decide)
  unfold route prefixRoute
  rw [sscanf_request]
  dsimp only
  rw [handleStaticFileServe_cut]
  change (if sameFirst (bytesOf "/api/sensor").length _ _=true then
      if sameFirst (bytesOf "GET").length _ _=true then _ else _
    else if sameFirst (bytesOf "/api/control").length _ _=true then
      if sameFirst (bytesOf "POST").length _ _=true then _
      else if sameFirst (bytesOf "OPTIONS").length _ _=true then _ else _
    else _)=_
  simp only [hsensor,hcontrol,hget,hpost,hoptions]
  rfl

/-- Outside the API there are files and refusals of the path. -/
theorem fileRoute_cases (path : Text) :
    fileRoute path=.notFound ∨ ∃ data, fileRoute path=.file data := by
  unfold fileRoute
  split
  next data _ => exact Or.inr ⟨data,rfl⟩
  next => exact Or.inl rfl

/-- No branch of the API is one of a file. -/
theorem ne_fileRoute {branch : Route} (h : branch∈[.sensor,.notAllowed,.control,.preflight])
    (path : Text) : branch≠fileRoute path := by
  simp only [List.mem_cons,List.not_mem_nil,or_false] at h
  rcases fileRoute_cases path with hfile|⟨data,hfile⟩
  · rw [hfile]
    rcases h with rfl|rfl|rfl|rfl <;> nofun
  · rw [hfile]
    rcases h with rfl|rfl|rfl|rfl <;> nofun

/-- Paths outside the API lead to one branch exactly when they name one file, or none. -/
theorem fileRoute_inj {path path' : Text} :
    fileRoute path=fileRoute path' ↔ fileNamed path=fileNamed path' := by
  unfold fileRoute
  cases fileNamed path with
  | none => cases fileNamed path' <;> simp
  | some data => cases fileNamed path' <;> simp

/-- A path does not start with both routes. -/
theorem routes_disjoint {path : Text} (h : bytesOf "/api/sensor"<+:path) :
    ¬bytesOf "/api/control"<+:path := by
  intro h'
  have hboth := List.prefix_of_prefix_length_le h h' (by decide)
  revert hboth
  decide

/-- Within the API by prefix, a path that is no route has a method refused by name or by
prefix, and never the branch of a file. -/
theorem prefixRoute_api {method path : Text}
    (h : bytesOf "/api/sensor"<+:path ∨ bytesOf "/api/control"<+:path) :
    prefixRoute method path∈[.sensor,.notAllowed,.control,.preflight] := by
  unfold prefixRoute
  by_cases hsensor : bytesOf "/api/sensor"<+:path
  · rw [if_pos hsensor]
    split <;> simp
  · rw [if_neg hsensor,if_pos (h.resolve_left hsensor)]
    split
    · simp
    · split <;> simp

/-- Outside the API by prefix, a path leads to its file. -/
theorem prefixRoute_file {method path : Text} (hsensor : ¬bytesOf "/api/sensor"<+:path)
    (hcontrol : ¬bytesOf "/api/control"<+:path) : prefixRoute method path=fileRoute path := by
  rw [prefixRoute,if_neg hsensor,if_neg hcontrol]

/-- A path that is no route leads to its file by the grammar. -/
theorem specifiedRoute_file {method path : Text} (hsensor : path≠bytesOf "/api/sensor")
    (hcontrol : path≠bytesOf "/api/control") : specifiedRoute method path=fileRoute path := by
  rw [specifiedRoute,if_neg hsensor,if_neg hcontrol]

/-- The sensor route is reached as its method is spelled. -/
theorem sensor_iff (method : Text) :
    prefixRoute method (bytesOf "/api/sensor")=specifiedRoute method (bytesOf "/api/sensor") ↔
      (bytesOf "GET"<+:method → method=bytesOf "GET") := by
  rw [prefixRoute,specifiedRoute,if_pos (List.prefix_refl _),if_pos rfl]
  by_cases heq : method=bytesOf "GET"
  · rw [if_pos heq,if_pos (heq ▸ List.prefix_refl _)]
    exact iff_of_true rfl fun _ => heq
  · rw [if_neg heq]
    by_cases hget : bytesOf "GET"<+:method
    · rw [if_pos hget]
      exact iff_of_false nofun fun h => heq (h hget)
    · rw [if_neg hget]
      exact iff_of_true rfl fun h => absurd h hget

/-- The control route is reached as its method is spelled. -/
theorem control_iff {method : Text} (hshort : method.length≤7) :
    prefixRoute method (bytesOf "/api/control")=specifiedRoute method (bytesOf "/api/control") ↔
      (bytesOf "POST"<+:method → method=bytesOf "POST") := by
  have hoptions : bytesOf "OPTIONS"<+:method ↔ method=bytesOf "OPTIONS" := by
    constructor
    · exact fun h => (h.eq_of_length_le hshort).symm
    · rintro rfl
      exact List.prefix_refl _
  have hsensor : ¬bytesOf "/api/sensor"<+:bytesOf "/api/control" := by decide
  have hne : bytesOf "/api/control"≠bytesOf "/api/sensor" := by decide
  rw [prefixRoute,specifiedRoute,if_neg hsensor,if_neg hne,if_pos (List.prefix_refl _),if_pos rfl]
  simp only [hoptions]
  by_cases heq : method=bytesOf "POST"
  · rw [if_pos heq,if_pos (heq ▸ List.prefix_refl _)]
    exact iff_of_true rfl fun _ => heq
  · rw [if_neg heq]
    by_cases hpost : bytesOf "POST"<+:method
    · rw [if_pos hpost]
      refine iff_of_false ?_ fun h => heq (h hpost)
      split <;> nofun
    · rw [if_neg hpost]
      exact iff_of_true rfl fun h => absurd h hpost

/-- A short method reaches the branch of the grammar exactly when no longer word has the
prefix of a route or of its method. -/
theorem short_iff {method path : Text} (hshort : method.length≤7) :
    prefixRoute method path=specifiedRoute method path ↔ ShortExact method path := by
  unfold ShortExact
  by_cases hpath : path=bytesOf "/api/sensor"
  · have hcontrol : ¬bytesOf "/api/control"<+:bytesOf "/api/sensor" := by decide
    rw [hpath,sensor_iff]
    exact ⟨fun h => ⟨fun _ => ⟨rfl,h⟩,fun h' => absurd h' hcontrol⟩,
      fun h => (h.1 (List.prefix_refl _)).2⟩
  · by_cases hpath' : path=bytesOf "/api/control"
    · have hsensor : ¬bytesOf "/api/sensor"<+:bytesOf "/api/control" := by decide
      rw [hpath',control_iff hshort]
      exact ⟨fun h => ⟨fun h' => absurd h' hsensor,fun _ => ⟨rfl,h⟩⟩,
        fun h => (h.2 (List.prefix_refl _)).2⟩
    · rw [specifiedRoute_file hpath hpath']
      by_cases hapi : bytesOf "/api/sensor"<+:path ∨ bytesOf "/api/control"<+:path
      · refine iff_of_false (ne_fileRoute (prefixRoute_api hapi) path) fun h => ?_
        rcases hapi with hsensor|hcontrol
        · exact hpath (h.1 hsensor).1
        · exact hpath' (h.2 hcontrol).1
      · obtain ⟨hsensor,hcontrol⟩ := not_or.mp hapi
        rw [prefixRoute_file hsensor hcontrol]
        exact iff_of_true rfl ⟨fun h => absurd h hsensor,fun h => absurd h hcontrol⟩

/-- A method is refused where it has the prefix of no method of the route. -/
theorem prefixRoute_notAllowed_iff {method path : Text} : prefixRoute method path=.notAllowed ↔
    bytesOf "/api/sensor"<+:path ∧ ¬bytesOf "GET"<+:method ∨
      bytesOf "/api/control"<+:path ∧ ¬bytesOf "POST"<+:method ∧ ¬bytesOf "OPTIONS"<+:method := by
  by_cases hsensor : bytesOf "/api/sensor"<+:path
  · have hcontrol := routes_disjoint hsensor
    rw [prefixRoute,if_pos hsensor]
    by_cases hget : bytesOf "GET"<+:method <;> simp [hget,hsensor,hcontrol]
  · by_cases hcontrol : bytesOf "/api/control"<+:path
    · rw [prefixRoute,if_neg hsensor,if_pos hcontrol]
      by_cases hpost : bytesOf "POST"<+:method
      · simp [hpost,hsensor]
      · by_cases hoptions : bytesOf "OPTIONS"<+:method <;> simp [hpost,hoptions,hsensor,hcontrol]
    · rw [prefixRoute_file hsensor hcontrol]
      exact iff_of_false (fun h => ne_fileRoute (by simp) path h.symm) (by simp [hsensor,hcontrol])

/-- A long method reaches the branch of the grammar exactly when its rest does in place of
the path. -/
theorem long_iff {method path : Text} (hlong : 7 < method.length) :
    prefixRoute method (method.drop 7)=specifiedRoute method path ↔ LongExact method path := by
  have hne : ∀ name : Text, name.length≤7 → method≠name := by
    rintro name hname rfl
    omega
  have hget := hne (bytesOf "GET") (by decide)
  have hpost := hne (bytesOf "POST") (by decide)
  have hoptions := hne (bytesOf "OPTIONS") (by decide)
  unfold LongExact
  by_cases hpath : path=bytesOf "/api/sensor" ∨ path=bytesOf "/api/control"
  · have hspecified : specifiedRoute method path=.notAllowed := by
      rcases hpath with rfl|rfl
      · rw [specifiedRoute,if_pos rfl,if_neg hget]
      · rw [specifiedRoute,if_neg (by decide),if_pos rfl,if_neg hpost,if_neg hoptions]
    rw [if_pos hpath,hspecified,prefixRoute_notAllowed_iff]
  · obtain ⟨hsensor,hcontrol⟩ := not_or.mp hpath
    rw [if_neg hpath,specifiedRoute_file hsensor hcontrol]
    by_cases hapi : bytesOf "/api/sensor"<+:method.drop 7 ∨ bytesOf "/api/control"<+:method.drop 7
    · refine iff_of_false (ne_fileRoute (prefixRoute_api hapi) path) fun h => ?_
      exact hapi.elim h.1 h.2.1
    · obtain ⟨hsensor',hcontrol'⟩ := not_or.mp hapi
      rw [prefixRoute_file hsensor' hcontrol',fileRoute_inj]
      exact ⟨fun h => ⟨hsensor',hcontrol',h⟩,fun h => h.2.2⟩

/-- The branch taken is that of the grammar exactly when neither the cut nor a prefix gets in
the way. -/
theorem route_eq_specified_iff (request : RequestStart) :
    route (cString request.bytes)=specifiedRoute request.method request.path ↔
      RoutesExactly request.method request.path := by
  rw [route_request,RoutesExactly,pathSeen]
  split
  next hshort => exact short_iff hshort
  next hlong => exact long_iff (Nat.lt_of_not_le hlong)

/-- The branches of the grammar can be told apart. -/
theorem distinguished_specified (method path : Text) : Distinguished (specifiedRoute method path) := by
  intro data h
  unfold specifiedRoute at h
  split at h
  · split at h <;> cases h
  · split at h
    · split at h
      · cases h
      · split at h <;> cases h
    · unfold fileRoute at h
      split at h
      next file hfile =>
        obtain rfl := Route.file.inj h
        rw [fileNamed_eq] at hfile
        exact handleStaticFileServe_head hfile
      next => cases h

section Grammar

variable {τ : Type*} (float : FloatOps τ)

/-- What the grammar makes of a request: the bytes sent, and the flag, which only a command
changes. -/
def specifiedOutcome (mutexFree : Bool) (s : WebState τ) (request : RequestStart) : Text×UInt8 :=
  let branch := specifiedRoute request.method request.path
  (answer float mutexFree s.sensorData branch,match branch with
    | .control => (handleControlPost s.webControlActive (cString request.bytes)).1
    | _ => s.webControlActive)

/-- A request has the outcome of the grammar exactly when it reaches its branch. -/
theorem outcome_specified_iff {s : WebState τ} (hs : s.sensorData.timestamp.length≤23) (fd : ℕ)
    (mutexFree : Bool) (request : RequestStart) (more : List Text) :
    outcome float s fd mutexFree (request.bytes::more)=specifiedOutcome float mutexFree s request ↔
      route (cString request.bytes)=specifiedRoute request.method request.path := by
  have hne : request.bytes≠[] := List.append_ne_nil_of_left_ne_nil request.method_word.1 _
  rw [outcome_eq float hne request.fits,serveRequest_route,specifiedOutcome]
  constructor
  · intro h
    exact answer_injective float hs (distinguished_route _) (distinguished_specified _ _)
      (congrArg Prod.fst h)
  · intro h
    generalize route (cString request.bytes)=branch at h ⊢
    obtain rfl := h
    rfl

/-- In every state of the task, a request is routed by the grammar exactly when neither the
cut of its method nor a prefix gets in the way. -/
theorem routed_iff (temp pressure : τ) (t : RealTimeClock.RtcTime) (past : List (Event τ)) (fd : ℕ)
    (mutexFree : Bool) (request : RequestStart) (more : List Text) :
    outcome float ((webService float).run (webServiceInit float temp pressure t) past) fd mutexFree
        (request.bytes::more)=
      specifiedOutcome float mutexFree
        ((webService float).run (webServiceInit float temp pressure t) past) request ↔
      RoutesExactly request.method request.path := by
  rw [outcome_specified_iff float (HttpConnections.timestamp_run float temp pressure t past)]
  exact route_eq_specified_iff request

end Grammar

/-- `GET /api/sensors HTTP/1.1`. -/
def sensorsRequest : RequestStart where
  method := bytesOf "GET"
  path := bytesOf "/api/sensors"
  rest := bytesOf "1.1\r\n\r\n"
  method_word := isWord_of_all (by decide) (by decide)
  path_word := isWord_of_all (by decide) (by decide)
  fits := by decide

/-- A longer path is answered with the sensor data, where the grammar has no such file. -/
theorem sensors_served : route (cString sensorsRequest.bytes)=.sensor ∧
    specifiedRoute sensorsRequest.method sensorsRequest.path=.notFound ∧
      outcome exactFloat freshService 1 true [sensorsRequest.bytes]≠
        specifiedOutcome exactFloat true freshService sensorsRequest := by
  have hroute : route (cString sensorsRequest.bytes)=.sensor := rfl
  have hspecified : specifiedRoute sensorsRequest.method sensorsRequest.path=.notFound := rfl
  refine ⟨hroute,hspecified,fun h => ?_⟩
  have hfresh : freshService.sensorData.timestamp.length≤23 := by decide
  rw [outcome_specified_iff exactFloat hfresh,hroute,hspecified] at h
  cases h

end WebDataLogger.RequestRouter
