import SparkFleet.Http.Client
import SparkFleet.Proofs.FileStore.PlainMap
import SparkFleet.Proofs.FileStore.Protocol
import SparkFleet.Proofs.Http.Base64
import SparkFleet.Proofs.Json.Render
import SparkFleet.Proofs.Wire.Records
import SparkFleet.Workspace.Notebook

/-!
# Content over HTTP

Files and notebooks are sent as texts in JSON bodies and come back so.  A server that is `recorded`
keeps the requests that it takes, and these are the requests of the calls that a program makes
(`log_run`); what a request carries is read from the text of its body (`Request.read?`).  `Answers`
says that a server answers a call with a value.

The main statement `content_survives` says that content is what it was after it has been written,
read, or imported and exported.  The text of content is the standard one (`readContent_eq`), so a
server that knows only the standard reads it too.
-/

namespace SparkFleet.Http

open Wire
open SparkFleet.Action (exec)
open FileStore (blocks blockSize pathOf)

variable {α σ : Type}

/-- Programs are run against a server through a client. -/
abbrev Client.handler (client : Client) (server : Server σ) : Program.Handler (Simulation σ) :=
  Simulation.handler (client.answer server)

/-! ### Requests -/

/-- The server, with the requests that it has taken, in their order. -/
def recorded (server : Server σ) : Server (List Request × σ) := fun request s =>
  let (response, t) := server request s.2
  (response, s.1 ++ [request], t)

/-- The requests of some calls. -/
def Client.requests (client : Client) (calls : List Call) : List Request :=
  calls.filterMap (·.request? client.base client.credentials)

/-- A call adds its request to those that have been taken. -/
theorem log_answer (client : Client) (server : Server σ) (c : Call)
    (s : Simulation (List Request × σ)) :
    ((client.handler (recorded server)).answer c s).2.state.1 =
      s.state.1 ++ client.requests [c] := by
  change (client.answer (recorded server) c s.state).2.1 = _
  unfold Client.answer Client.requests
  cases hRequest : c.request? client.base client.credentials with
  | none =>
    -- Credentials that cannot be sent leave no request, on either side.
    simp [hRequest]
  | some request =>
    simp only [List.filterMap_cons, hRequest, List.filterMap_nil, recorded]
    rcases server request s.state.2 with ⟨reason | response, t⟩ <;> rfl

/-- The requests that are taken are those of the calls that a program makes. -/
theorem log_run (client : Client) (server : Server σ) (program : Program α)
    (s : Simulation (List Request × σ)) :
    (program.run (client.handler (recorded server)) s).2.state.1 =
      s.state.1 ++
        client.requests (program.calls (client.handler (recorded server)) s) := by
  induction program generalizing s with
  | done result => exact (List.append_nil _).symm
  | call c next ih =>
    have hRest := ih ((client.handler (recorded server)).answer c s).1
      ((client.handler (recorded server)).answer c s).2
    rw [log_answer, List.append_assoc] at hRest
    exact hRest.trans (congrArg (s.state.1 ++ ·) List.filterMap_append.symm)
  | pause span next ih => exact ih () _
  | readLocal path next ih => exact ih _ s

/-- What a codec reads from the text of the body of a request. -/
def Request.read? (codec : Codec α) (r : Request) : Option α := do
  let body ← r.body
  codec.decode (← Json.parse? (Json.bytes body.render))

/-- The block of a file that a request carries. -/
def Request.block? (r : Request) : Option ByteArray := do
  Base64.toBytes? (← r.read? blockCodec).2

variable {client : Client} {base : String} {credentials : Credentials} {request : Request}

theorem Request.read?_of_body {codec : Codec α} [codec.RoundTrips] {a : α}
    (hBody : request.body = some (codec.encode a)) : request.read? codec = some a := by
  simp only [read?, hBody, Option.bind_eq_bind, Option.bind_some, Json.parse?_render]
  exact decode_encode a

/-- The request of a call goes to its endpoint and has its body. -/
theorem endpoint_of_request? {c : Call} (hRequest : c.request? base credentials = some request) :
    request.endpoint = c.endpoint := by
  obtain ⟨authorization, -, hRequest⟩ := Option.bind_eq_some_iff.1 hRequest
  rw [← Option.some.inj hRequest]

theorem body_of_request? {c : Call} {value : Json} (hBody : c.arguments = .body value)
    (hRequest : c.request? base credentials = some request) : request.body = some value := by
  obtain ⟨authorization, -, hRequest⟩ := Option.bind_eq_some_iff.1 hRequest
  rw [← Option.some.inj hRequest, hBody]

/-- Where the credentials can be sent, each call has a request. -/
theorem exists_request? (base : String) (hSendable : (authorization? credentials).isSome)
    (c : Call) :
    ∃ request, c.request? base credentials = some request := by
  obtain ⟨authorization, hAuthorization⟩ := Option.isSome_iff_exists.1 hSendable
  exact ⟨_, by rw [Call.request?, hAuthorization]; rfl⟩

theorem requests_cons {c : Call} {calls : List Call}
    (hRequest : c.request? client.base client.credentials = some request) :
    client.requests (c :: calls) = request :: client.requests calls :=
  List.filterMap_cons_some hRequest

/-- Where the credentials cannot be sent, no call has a request. -/
theorem request?_eq_none (hUnsendable : authorization? credentials = none) (c : Call) :
    c.request? base credentials = none := by
  rw [Call.request?, hUnsendable]
  rfl

/-! ### Uploads -/

theorem addBlock_of_endpoint {c : Call} (hEndpoint : c.endpoint = "dbfs/add-block") :
    ∃ handle data, c = .files (.addBlock handle data) := by
  cases c with
  | files call =>
    cases call with
    | addBlock handle data => exact ⟨handle, data, rfl⟩
    | _ => simp [Call.endpoint, FileCall.endpoint] at hEndpoint
  | clusters call =>
    cases call <;> simp [Call.endpoint, ClusterCall.endpoint] at hEndpoint
  | jobs call => cases call <;> simp [Call.endpoint, JobCall.endpoint] at hEndpoint
  | libraries call => cases call <;> simp [Call.endpoint, LibraryCall.endpoint] at hEndpoint
  | workspace call => cases call <;> simp [Call.endpoint, WorkspaceCall.endpoint] at hEndpoint

theorem endpoint_of_block? {x : Exchange} {data : ByteArray} (hBlock : x.block? = some data) :
    x.call.endpoint = "dbfs/add-block" := by
  unfold Exchange.block? at hBlock
  split at hBlock
  · rfl
  · cases hBlock

theorem block?_of_request? {handle : Int64} {data : ByteArray}
    (hRequest : (Call.files (.addBlock handle data)).request? base credentials = some request) :
    request.block? = some data := by
  have hRead : request.read? blockCodec = some (handle, Base64.ofBytes data) :=
    Request.read?_of_body (body_of_request? rfl hRequest)
  simp only [Request.block?, hRead, Option.bind_eq_bind, Option.bind_some]
  exact Base64.toBytes?_eq_some_iff.2 (Base64.ofBytes_eq data)

/-- The requests that append to files carry the blocks that the calls send. -/
theorem blocks_of_requests (hSendable : (authorization? client.credentials).isSome)
    (trace : List Exchange) :
    ((client.requests (trace.map Exchange.call)).filter (·.endpoint = "dbfs/add-block")).map
        Request.block? =
      (trace.filterMap Exchange.block?).map some := by
  induction trace with
  | nil => rfl
  | cons x trace ih =>
    obtain ⟨request, hRequest⟩ := exists_request? client.base hSendable x.call
    have hEndpoint := endpoint_of_request? hRequest
    rw [List.map_cons, requests_cons hRequest, List.filter_cons, hEndpoint]
    obtain ⟨c, answer⟩ := x
    by_cases hAppends : c.endpoint = "dbfs/add-block"
    · obtain ⟨handle, data, rfl⟩ := addBlock_of_endpoint hAppends
      rw [if_pos (decide_eq_true hAppends), List.map_cons, ih, block?_of_request? hRequest]
      rfl
    · -- A call of another endpoint sends no block, and its request is not looked at.
      have hNone : Exchange.block? ⟨c, answer⟩ = none := by
        cases hBlock : Exchange.block? ⟨c, answer⟩ with
        | none => rfl
        | some data => exact absurd (endpoint_of_block? hBlock) hAppends
      rw [if_neg (by simpa using hAppends), ih, List.filterMap_cons, hNone]

/-- A call that has no request fails. -/
theorem answer_unsendable (hUnsendable : authorization? client.credentials = none)
    (server : Server σ) (c : Call) (s : Simulation σ) :
    (client.handler server).answer c s =
      (.error (.request "the credentials cannot be sent in a header"), s) := by
  have hAnswer : client.answer server c s.state =
      (.error (.request "the credentials cannot be sent in a header"), s.state) := by
    rw [Client.answer, request?_eq_none hUnsendable]
  exact Simulation.answer_handler hAnswer

/-- The requests of an upload carry the first blocks of the data, and all of the data if no call
fails. -/
theorem put_requests (client : Client) (server : Server σ) (s : Simulation (List Request × σ))
    (path : String) (data : ByteArray) (overwrite : Bool) :
    let h := client.handler (recorded server)
    let ran := exec h (FileStore.put path data overwrite) s
    ∃ sent parts, ran.2.state.1 = s.state.1 ++ sent ∧
      (sent.filter (·.endpoint = "dbfs/add-block")).map Request.block? = parts.map some ∧
      parts <+: blocks blockSize data ∧
      (ran.1 = .ok () ↔ ∀ x ∈ Program.exchanges h (FileStore.put path data overwrite).run s,
        x.failure? = none) ∧
      (ran.1 = .ok () → parts.foldl (· ++ ·) .empty = data) := by
  intro h ran
  let trace := Program.exchanges h (FileStore.put path data overwrite).run s
  have hLog : ran.2.state.1 = s.state.1 ++ client.requests (trace.map Exchange.call) := by
    rw [Program.map_call_exchanges]
    exact log_run client server _ s
  have hProtocol :=
    FileStore.open_send_protocol (h := h) (pathOf path) overwrite (blocks blockSize data) s
  -- The calls are told from the answers alone, so nothing has to be known of the server.
  have hUploads : FileStore.Uploads (pathOf path) overwrite (blocks blockSize data) trace :=
    hProtocol.1
  have hResult : ran.1 = FileStore.resultOf trace := hProtocol.2
  have hOk : ran.1 = .ok () ↔ trace.findSome? Exchange.failure? = none := by
    rw [← FileStore.resultOf_eq_ok_iff]
    exact ⟨hResult.symm.trans, hResult.trans⟩
  have hJoined : (blocks blockSize data).foldl (· ++ ·) .empty = data :=
    (FileStore.cuts_blocks FileStore.blockSize_pos data).joined
  obtain ⟨hFirst, hAll⟩ := hUploads.blocks
  have hFailures : ran.1 = .ok () ↔ ∀ x ∈ trace, x.failure? = none :=
    hOk.trans List.findSome?_eq_none_iff
  by_cases hSendable : (authorization? client.credentials).isSome
  · refine ⟨_, _, hLog, blocks_of_requests hSendable trace, hFirst, hFailures, fun hDone => ?_⟩
    rw [hAll (hOk.1 hDone), hJoined]
  · -- Nothing is sent, and the upload fails with its first call.
    have hNone : authorization? client.credentials = none := by simpa using hSendable
    have hRequests : client.requests (trace.map Exchange.call) = [] :=
      List.filterMap_eq_nil_iff.2 fun c _ => request?_eq_none hNone c
    rw [hRequests] at hLog
    refine ⟨[], [], hLog, rfl, List.nil_prefix, hFailures, fun hDone => ?_⟩
    have hFailed := (Action.ask_bind_of_error (answer_unsendable hNone (recorded server)
      (.files (.create (pathOf path) overwrite)) s)
      (FileStore.send · (blocks blockSize data))).1
    exact nomatch (congrArg Prod.fst hFailed).symm.trans hDone

/-! ### Answers -/

/-- A server answers a call with a success, whose body a codec reads as a value of a kind. -/
def Answers (client : Client) (server : Server σ) (c : Call) (codec : Codec α)
    (good : α → Prop) (s : σ) : Prop :=
  ∃ request response t value, c.request? client.base client.credentials = some request ∧
    server request s = (.ok response, t) ∧ isSuccess response.status = true ∧
    (bodyValue response.body >>= readAs codec) = .ok value ∧ good value

/-- Where the values of answers are what is to be read, so is the answer of a client. -/
theorem Answers.handler {server : Server σ} {c : Call} {codec : Codec α} {good : α → Prop}
    {s : Simulation σ} (hAnswers : Answers client server c codec good s.state)
    (read : α → Except ApiError c.Answer) {a : c.Answer}
    (hReads : ∀ j, c.readAnswer j = readAs codec j >>= read)
    (hGood : ∀ value, good value → read value = .ok a) :
    ∃ t, (client.handler server).answer c s = (.ok a, t) := by
  obtain ⟨request, response, t, value, hRequest, hServer, hSuccess, hBody, hValue⟩ := hAnswers
  obtain ⟨j, hJson, hDecode⟩ := Platform.bind_eq_ok hBody
  have hAnswer : c.readResponse response = .ok a := by
    rw [Call.readResponse, if_pos hSuccess, hJson]
    refine (hReads j).trans ?_
    rw [hDecode]
    exact hGood value hValue
  refine ⟨{ s with state := t }, Simulation.answer_handler ?_⟩
  simp only [Client.answer, hRequest, hServer, hAnswer]

/-- Every window of a file is answered with the standard encoding of its content. -/
def ServesFile (client : Client) (server : Server σ) (path : String) (content : ByteArray) :
    Prop :=
  ∀ i s, i * blockSize ≤ content.size →
    Answers client server (FileOperation.windowCall path i) windowCodec
      (·.2 = Base64.standardText (Platform.window content (i * blockSize) blockSize)) s

/-- The export of a notebook is answered with a text. -/
def ServesExport (client : Client) (server : Server σ) (path : String) (format : ExportFormat)
    (text : String) (s : σ) : Prop :=
  Answers client server (.workspace (.exportNotebook path format)) exportCodec (· = text) s

/-- A file that a server serves is read. -/
theorem get_of_servesFile {server : Server σ} {path : String} {content : ByteArray}
    (hFits : Addressable content) (hServes : ServesFile client server (pathOf path) content)
    (s : Simulation σ) :
    (exec (client.handler server) (FileStore.get path) s).1 = .ok content := by
  -- The state of the server does not matter, since it serves the file in every state.
  have hWindows : AnswersWindows (client.handler server) (fun _ => True) (pathOf path) content := by
    intro i s hStart _
    obtain ⟨t, hAnswer⟩ := (hServes i s.state hStart).handler
      (fun window => readContent window.2) (fun _ => rfl)
      fun window hWindow => ((readContent_eq window.2).1 _).2 hWindow
    exact ⟨t, trivial, hAnswer⟩
  obtain ⟨t, -, hExec, -⟩ := get_of_windows hWindows hFits (s := s) trivial
  rw [hExec]

/-! ### Notebooks -/

/-- A notebook is read back with calls of another endpoint than it is imported with. -/
theorem get_endpoints (path : String) :
    (Notebook.get path).CallsOnly (·.endpoint ≠ "workspace/import") := by
  have hEndpoint : (Call.workspace (.getStatus path)).endpoint ≠ "workspace/import" := by
    change "workspace/get-status" ≠ "workspace/import"
    decide
  refine Action.CallsOnly.within (.bind (Action.callsOnly_tryAsk hEndpoint) ?_) _
  rintro (cause | record)
  · exact Action.callsOnly_throw _
  · exact Action.callsOnly_ofExcept _

/-- The request of a notebook import as it is read. -/
def importRequest (path : String) (language : Language) (content : ByteArray) (overwrite : Bool) :
    ImportRequest :=
  .ofImport ⟨path, .source, some language, content, overwrite⟩

/-- The calls of a notebook import are the import and then calls of other endpoints. -/
theorem importSource_calls (h : Program.Handler σ) (s : σ) (path : String) (language : Language)
    (content : ByteArray) (overwrite : Bool) :
    ∃ rest,
      Program.calls h (Notebook.importSource path language content overwrite).run s =
        .workspace (.importNotebook ⟨path, .source, some language, content, overwrite⟩) :: rest ∧
      ∀ c ∈ rest, c.endpoint ≠ "workspace/import" := by
  rw [← Program.map_call_exchanges, Notebook.importSource, Action.exchanges_bind,
    Action.exchanges_within, Action.exchanges_ask]
  refine ⟨_, rfl, fun c hMem => ?_⟩
  obtain ⟨x, hExchange, rfl⟩ := List.mem_map.1 hMem
  split at hExchange
  · exact (get_endpoints path).of_mem hExchange
  · cases hExchange

/-- A notebook is imported by one request, which carries its content. -/
theorem importSource_requests (hSendable : (authorization? client.credentials).isSome)
    (server : Server σ) (s : Simulation (List Request × σ)) (path : String) (language : Language)
    (content : ByteArray) (overwrite : Bool) :
    ∃ sent,
      (exec (client.handler (recorded server))
        (Notebook.importSource path language content overwrite) s).2.state.1 =
          s.state.1 ++ sent ∧
      (sent.filter (·.endpoint = "workspace/import")).map (·.read? ImportRequest.codec) =
        [some ⟨path, .source, some language, Base64.standardText content, overwrite⟩] := by
  obtain ⟨rest, hCalls, hRest⟩ :=
    importSource_calls (client.handler (recorded server)) s path language content overwrite
  obtain ⟨request, hRequest⟩ := exists_request? client.base hSendable
    (.workspace (.importNotebook ⟨path, .source, some language, content, overwrite⟩))
  have hEndpoint : request.endpoint = "workspace/import" := endpoint_of_request? hRequest
  have hRead : request.read? ImportRequest.codec =
      some ⟨path, .source, some language, Base64.standardText content, overwrite⟩ := by
    rw [← Base64.ofBytes_eq]
    exact Request.read?_of_body (body_of_request? rfl hRequest)
  -- The notebook is looked up after the import, by requests to another endpoint.
  have hOthers : (client.requests rest).filter (·.endpoint = "workspace/import") = [] := by
    refine List.filter_eq_nil_iff.2 fun other hMem => ?_
    obtain ⟨c, hCall, hOther⟩ := List.mem_filterMap.1 hMem
    simpa [endpoint_of_request? hOther] using hRest c hCall
  refine ⟨_, (log_run client server _ s).trans (congrArg _ (congrArg _ hCalls)), ?_⟩
  rw [requests_cons hRequest, List.filter_cons_of_pos (by simpa using hEndpoint), hOthers,
    List.map_singleton, hRead]

/-- The export of a notebook is its content, if the server answers with the text of it. -/
theorem exportAs_of_servesExport {server : Server σ} {n : Notebook} {format : ExportFormat}
    {content : ByteArray} {s : Simulation σ}
    (hServes : ServesExport client server n.path format (Base64.standardText content) s.state) :
    (exec (client.handler server) (n.exportAs format) s).1 = .ok content := by
  obtain ⟨t, hAnswer⟩ := hServes.handler readContent (fun _ => rfl)
    fun text hText => ((readContent_eq text).1 _).2 hText
  rw [Notebook.exportAs, Action.exec_within, Action.exec_ask, hAnswer]
  rfl

/-! ### Content survives -/

/-- Content is what it was after it has gone through the client: the requests of an upload carry it,
and its beginning if a call fails; a file that is served is read; a notebook that is imported is
sent, and it is exported from the text that was sent; and no other text is read as the content. -/
theorem content_survives (client : Client) (server : Server σ) (path : String)
    (content : ByteArray) :
    (∀ overwrite s,
      let h := client.handler (recorded server)
      let ran := exec h (FileStore.put path content overwrite) s
      ∃ sent parts, ran.2.state.1 = s.state.1 ++ sent ∧
        (sent.filter (·.endpoint = "dbfs/add-block")).map Request.block? = parts.map some ∧
        parts <+: blocks blockSize content ∧
        (ran.1 = .ok () ↔ ∀ x ∈ Program.exchanges h (FileStore.put path content overwrite).run s,
          x.failure? = none) ∧
        (ran.1 = .ok () → parts.foldl (· ++ ·) .empty = content)) ∧
      (Addressable content → ServesFile client server (pathOf path) content →
        ∀ s, (exec (client.handler server) (FileStore.get path) s).1 = .ok content) ∧
      ((authorization? client.credentials).isSome → ∀ language overwrite s, ∃ sent,
        (exec (client.handler (recorded server))
          (Notebook.importSource path language content overwrite) s).2.state.1 =
            s.state.1 ++ sent ∧
        (sent.filter (·.endpoint = "workspace/import")).map (·.read? ImportRequest.codec) =
          [some ⟨path, .source, some language, Base64.standardText content, overwrite⟩]) ∧
      (∀ (n : Notebook) format s,
        ServesExport client server n.path format (Base64.standardText content) s.state →
          (exec (client.handler server) (n.exportAs format) s).1 = .ok content) ∧
      ∀ text, (∀ bytes, readContent text = .ok bytes ↔ text = Base64.standardText bytes) ∧
        ∀ e, readContent text = .error e →
          ∃ reason, e = .decode ("invalid base64 content: " ++ reason) :=
  ⟨fun overwrite s => put_requests client server s path content overwrite,
    fun hFits hServes s => get_of_servesFile hFits hServes s,
    fun hSendable language overwrite s =>
      importSource_requests hSendable server s path language content overwrite,
    fun _ _ _ hServes => exportAs_of_servesExport hServes,
    readContent_eq⟩

/-! ### A greeting -/

/-- The content `hello`. -/
def greeting : ByteArray := ⟨#[104, 101, 108, 108, 111]⟩

/-- What is answered about a file and a notebook that are the greeting. -/
def greetingAnswer (endpoint : String) : Json :=
  if endpoint = "dbfs/create" then handleCodec.encode 7
  else if endpoint = "dbfs/read" then windowCodec.encode (5, "aGVsbG8=")
  else if endpoint = "workspace/export" then exportCodec.encode "aGVsbG8="
  else .obj []

/-- A server that answers so, whatever its state. -/
def greetingServer : Server Unit := fun request s =>
  (.ok ⟨200, Json.bytes (greetingAnswer request.endpoint).render⟩, s)

/-- A client of it. -/
def greetingClient : Client := ⟨"https://fleet", .basic "ann" "secret"⟩

theorem bodyValue_greeting (endpoint : String) :
    bodyValue (Json.bytes (greetingAnswer endpoint).render) = .ok (greetingAnswer endpoint) := by
  have hShown : (Json.bytes (greetingAnswer endpoint).render).all isAsciiBlank = false := by
    unfold greetingAnswer
    split_ifs <;> decide
  rw [bodyValue, if_neg (by rw [hShown]; decide), Json.parse?_render]

theorem exists_request_greeting (c : Call) :
    ∃ request, c.request? greetingClient.base greetingClient.credentials = some request :=
  exists_request? _ rfl c

/-- The answers of the server are read. -/
theorem answers_greeting {c : Call} {codec : Codec α} {good : α → Prop} (value : α)
    (hRead : readAs codec (greetingAnswer c.endpoint) = .ok value) (hGood : good value) :
    Answers greetingClient greetingServer c codec good () := by
  obtain ⟨request, hRequest⟩ := exists_request_greeting c
  refine ⟨request, _, (), value, hRequest, rfl, rfl, ?_, hGood⟩
  rw [bodyValue_greeting, endpoint_of_request? hRequest]
  exact hRead

/-- The calls that are recorded are answered by it. -/
theorem answer_recorded_greeting (c : Call) (s : Simulation (List Request × Unit)) :
    ∃ t, (greetingClient.handler (recorded greetingServer)).answer c s =
      (c.readAnswer (greetingAnswer c.endpoint), t) := by
  refine ⟨_, Prod.ext ?_ rfl⟩
  obtain ⟨request, hRequest⟩ := exists_request_greeting c
  change (greetingClient.answer (recorded greetingServer) c s.state).1 = _
  simp only [Client.answer, hRequest, recorded, greetingServer]
  change bodyValue _ >>= c.readAnswer = _
  rw [bodyValue_greeting, endpoint_of_request? hRequest]
  rfl

/-- The upload of the greeting succeeds. -/
theorem put_greeting (s : Simulation (List Request × Unit)) :
    (exec (greetingClient.handler (recorded greetingServer))
      (FileStore.put "/greeting" greeting true) s).1 = .ok () := by
  have hBlocks : blocks blockSize greeting = [greeting] := by decide
  have hHandle : (Call.files (.create (pathOf "/greeting") true)).readAnswer
      (greetingAnswer "dbfs/create") = .ok (7 : Int64) := by decide
  obtain ⟨t, hCreate⟩ := answer_recorded_greeting (.files (.create (pathOf "/greeting") true)) s
  obtain ⟨u, hAdd⟩ := answer_recorded_greeting (.files (.addBlock 7 greeting)) t
  obtain ⟨v, hClose⟩ := answer_recorded_greeting (.files (.close 7)) u
  rw [FileStore.put, (Action.ask_bind_of_ok (hCreate.trans (congrArg (·, t) hHandle)) _).1,
    hBlocks, FileStore.send, (Action.tryAsk_bind hAdd _).1]
  change (exec _ (.ask (.files (.close 7))) u).1 = .ok ()
  rw [Action.exec_ask, hClose]
  rfl

/-- The server serves the greeting as a file. -/
theorem servesFile_greeting : ServesFile greetingClient greetingServer "/greeting" greeting := by
  intro i s hStart
  -- The content is shorter than a window, so only the first begins within it.
  have hFirst : i = 0 := by
    have hSize : i * 1048576 ≤ 5 := hStart
    omega
  subst hFirst
  exact answers_greeting (5, "aGVsbG8=") (by decide) (by decide)

theorem content_survives_greeting :
    (∀ s : Simulation (List Request × Unit),
      let ran := exec (greetingClient.handler (recorded greetingServer))
        (FileStore.put "/greeting" greeting true) s
      ∃ sent, ran.2.state.1 = s.state.1 ++ sent ∧
        ((sent.filter (·.endpoint = "dbfs/add-block")).filterMap Request.block?).foldl (· ++ ·)
          .empty = greeting) ∧
      (∀ s, (exec (greetingClient.handler greetingServer) (FileStore.get "/greeting") s).1 =
        .ok greeting) ∧
      (∀ s : Simulation (List Request × Unit), ∃ sent,
        (exec (greetingClient.handler (recorded greetingServer))
          (Notebook.importSource "/greeting" .python greeting true) s).2.state.1 =
            s.state.1 ++ sent ∧
        (sent.filter (·.endpoint = "workspace/import")).map (·.read? ImportRequest.codec) =
          [some ⟨"/greeting", .source, some .python, "aGVsbG8=", true⟩]) ∧
      (∀ s, (exec (greetingClient.handler greetingServer)
        (Notebook.exportAs ⟨"/greeting", none, none⟩ .source) s).1 = .ok greeting) ∧
      readContent "aGVsbG8=" = .ok greeting ∧
      ∃ reason, readContent "aGVsbG8" = .error (.decode ("invalid base64 content: " ++ reason)) := by
  obtain ⟨hPut, hGet, hImport, hExport, hRead⟩ :=
    content_survives greetingClient greetingServer "/greeting" greeting
  have hText : Base64.standardText greeting = "aGVsbG8=" := by decide
  have hFits : Addressable greeting := by
    unfold Addressable
    decide
  rw [hText] at hImport hExport
  refine ⟨fun s => ?_, hGet hFits servesFile_greeting, hImport rfl .python true,
    fun s => hExport _ _ s ?_, ((hRead _).1 greeting).2 hText.symm, ?_⟩
  · obtain ⟨sent, parts, hSent, hBlocks, -, -, hJoined⟩ := hPut true s
    refine ⟨sent, hSent, ?_⟩
    have hParts : (sent.filter (·.endpoint = "dbfs/add-block")).filterMap Request.block? =
        parts := by
      simpa [List.filterMap_map] using congrArg (List.filterMap id) hBlocks
    rw [hParts]
    exact hJoined (put_greeting s)
  · exact answers_greeting "aGVsbG8=" (by decide) rfl
  · obtain ⟨reason, hReason⟩ := (hRead "aGVsbG8").2 _ rfl
    exact ⟨reason, congrArg Except.error hReason⟩

end SparkFleet.Http
