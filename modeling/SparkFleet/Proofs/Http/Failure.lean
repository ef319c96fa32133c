import SparkFleet.Proofs.Http.Content
import SparkFleet.Proofs.Wire.Edits

/-!
# Failed responses

The body of a failed response may be anything.  `FailureRecord` says which values are the record of
a failure, and what code and message they tell; `Tells` says so of bytes.  The codec reads just
these (`decode_failureCodec_iff`), so a body of any other kind tells nothing.

The main statement `failures_are_classified` says what every failed response to every call comes to,
and that a file is said to be missing exactly if the response says so.
-/

namespace SparkFleet.Http

open Wire
open SparkFleet.Action (exec)
open FileStore (pathOf)

/-! ### The record of a failure -/

/-- A value that stands for a text or for none. -/
inductive MaybeText : Json → Option String → Prop where
  | null : MaybeText .null none
  | text (s : String) : MaybeText (.str s) (some s)

/-- What the members of an object say under a name: nothing if there is none of the name, and what
its value stands for if there is one. -/
inductive Says (members : List (Option String × Json)) (name : String) : Option String → Prop where
  | absent (hNone : namesakes members name = []) : Says members name none
  | given {j : Json} {said : Option String} (hOne : namesakes members name = [(some name, j)])
      (hValue : MaybeText j said) : Says members name said

/-- The record of a failure with its code and message: an object, whatever other members it has, or
an array of the two. -/
inductive FailureRecord : Json → Option String → Option String → Prop where
  | object {members : List (Option String × Json)} {code message : Option String}
      (hNames : ∀ m ∈ members, m.1 ≠ none) (hCode : Says members "error_code" code)
      (hMessage : Says members "message" message) : FailureRecord (.obj members) code message
  | array {j k : Json} {code message : Option String} (hCode : MaybeText j code)
      (hMessage : MaybeText k message) : FailureRecord (.arr [j, k]) code message

/-- A body is one record of a failure. -/
def Tells (body : List UInt8) (code message : Option String) : Prop :=
  ∃ j, Json.parse? body = some j ∧ FailureRecord j code message

/-- A response says that the resource does not exist. -/
def SaysMissing (r : Response) : Prop :=
  r.status = 404 ∨ (r.status ≠ 401 ∧ r.status ≠ 403) ∧
    ∃ message, Tells r.body (some "RESOURCE_DOES_NOT_EXIST") message

theorem decode_optionText_iff {j : Json} {said : Option String} :
    (Codec.option .text).decode j = some said ↔ MaybeText j said := by
  constructor
  · intro hDecode
    cases j with
    | null =>
      cases hDecode
      exact .null
    | str s =>
      cases hDecode
      exact .text s
    | _ => cases hDecode
  · rintro (_ | s) <;> rfl

variable {named : List (String × Json)} {name : String} {said : Option String}

/-- What is read of an optional text, of which one member is given at most. -/
theorem read?_iff_says :
    (named.filter fun m => m.1 == name).length ≤ 1 ∧
        Presence.optional.read? (.option .text) (Wire.member? named name) = some said ↔
      Says (named.map namedMember) name said := by
  have hMembers := namesakes_map named name
  rw [Wire.member?, ← List.head?_filter]
  -- What is read depends on the first member of the name, what is said on all of them; where there
  -- is at most one, they agree.
  cases hFilter : named.filter fun m => m.1 == name with
  | nil =>
    rw [hFilter] at hMembers
    constructor
    · rintro ⟨-, hRead⟩
      cases hRead
      exact .absent hMembers
    · rintro (hNone | ⟨hOne, -⟩)
      · exact ⟨Nat.zero_le 1, rfl⟩
      · cases hMembers.symm.trans hOne
  | cons m rest =>
    obtain ⟨other, j⟩ := m
    obtain rfl : other = name := by
      have hMem : (other, j) ∈ named.filter fun m => m.1 == name := hFilter ▸ List.mem_cons_self
      exact beq_iff_eq.1 (List.mem_filter.1 hMem).2
    rw [hFilter] at hMembers
    constructor
    · rintro ⟨hShort, hRead⟩
      have hRest : rest.length = 0 := Nat.le_zero.1 (Nat.le_of_succ_le_succ hShort)
      obtain rfl := List.length_eq_zero_iff.1 hRest
      exact .given hMembers (decode_optionText_iff.1 hRead)
    · rintro (hNone | ⟨hOne, hValue⟩)
      · cases hMembers.symm.trans hNone
      · obtain ⟨hFirst, hRest⟩ := List.cons.inj (hMembers.symm.trans hOne)
        obtain rfl := List.map_eq_nil_iff.1 hRest
        cases hFirst
        exact ⟨Nat.le_refl 1, decode_optionText_iff.2 hValue⟩

theorem decode_record_arr {ρ F : Type} {make : F} {fields : Fields ρ F} (items : List Json) :
    (Codec.record make fields).decode (.arr items) = fields.decodeItems make items := rfl

/-- The members of an object are read as code and message. -/
theorem decode_failureCodec_obj (named : List (String × Json)) {code message : Option String} :
    failureCodec.decode (.obj (named.map namedMember)) = some (code, message) ↔
      Says (named.map namedMember) "error_code" code ∧
        Says (named.map namedMember) "message" message := by
  rw [failureCodec, Codec.decode_record, namedMembers?_eq_some_iff.2 rfl, Option.bind_some,
    ← read?_iff_says, ← read?_iff_says]
  simp only [Fields.decodeMembers_field]
  simp only [Fields.decodeMembers, Fields.names, givenOnce, List.all_cons, List.all_nil,
    Bool.and_true, Bool.and_eq_true, decide_eq_true_eq, Option.ite_none_right_eq_some,
    Option.bind_eq_some_iff, Option.some.injEq, Prod.mk.injEq]
  constructor
  · rintro ⟨⟨hCodeOnce, hMessageOnce⟩, _, hCode, _, hMessage, rfl, rfl⟩
    exact ⟨⟨hCodeOnce, hCode⟩, hMessageOnce, hMessage⟩
  · rintro ⟨⟨hCodeOnce, hCode⟩, hMessageOnce, hMessage⟩
    exact ⟨⟨hCodeOnce, hMessageOnce⟩, _, hCode, _, hMessage, rfl, rfl⟩

/-- The items of an array are read as code and message. -/
theorem decode_failureCodec_arr (items : List Json) {code message : Option String} :
    failureCodec.decode (.arr items) = some (code, message) ↔
      ∃ j k, items = [j, k] ∧ MaybeText j code ∧ MaybeText k message := by
  rw [failureCodec, decode_record_arr]
  constructor
  · intro hDecode
    match items with
    | [] | [_] | _ :: _ :: _ :: _ =>
      -- An array of any other length is refused: both items are needed, and none may follow.
      simp [Fields.decodeItems, Presence.optional] at hDecode
    | [j, k] =>
      simp only [Fields.decodeItems, Option.bind_eq_bind, Option.bind_eq_some_iff,
        Option.some.injEq, Prod.mk.injEq, decode_optionText_iff] at hDecode
      obtain ⟨_, hCode, _, hMessage, rfl, rfl⟩ := hDecode
      exact ⟨j, k, rfl, hCode, hMessage⟩
  · rintro ⟨j, k, rfl, hCode, hMessage⟩
    rw [← decode_optionText_iff] at hCode hMessage
    simp [Fields.decodeItems, hCode, hMessage]

/-- The codec reads the records of failures, and nothing else. -/
theorem decode_failureCodec_iff {j : Json} {code message : Option String} :
    failureCodec.decode j = some (code, message) ↔ FailureRecord j code message := by
  constructor
  · intro hDecode
    cases j with
    | obj members =>
      obtain ⟨named, hNamed, -⟩ := Option.bind_eq_some_iff.1 hDecode
      obtain rfl := namedMembers?_eq_some_iff.1 hNamed
      obtain ⟨hCode, hMessage⟩ := (decode_failureCodec_obj named).1 hDecode
      exact .object (exists_namedMembers?_iff.1 ⟨named, hNamed⟩) hCode hMessage
    | arr items =>
      obtain ⟨j, k, rfl, hCode, hMessage⟩ := (decode_failureCodec_arr items).1 hDecode
      exact .array hCode hMessage
    | _ => cases hDecode
  · -- Conversely the names denote texts, so the members are named ones and the record can be read.
    rintro (⟨hNames, hCode, hMessage⟩ | ⟨hCode, hMessage⟩)
    · obtain ⟨named, hNamed⟩ := exists_namedMembers?_iff.2 hNames
      obtain rfl := namedMembers?_eq_some_iff.1 hNamed
      exact (decode_failureCodec_obj named).2 ⟨hCode, hMessage⟩
    · exact (decode_failureCodec_arr _).2 ⟨_, _, rfl, hCode, hMessage⟩

/-! ### Bodies -/

variable {body : List UInt8}

theorem tells_iff {code message : Option String} :
    (Json.parse? body).bind failureCodec.decode = some (code, message) ↔ Tells body code message :=
  Option.bind_eq_some_iff.trans (exists_congr fun _ => and_congr_right' decode_failureCodec_iff)

theorem failureParts_of_tells {code message : Option String} (hTells : Tells body code message) :
    failureParts body = (code, message) := by
  rw [failureParts, tells_iff.2 hTells]
  rfl

theorem failureParts_of_not_tells (hUntold : ∀ code message, ¬Tells body code message) :
    failureParts body = (none, none) := by
  cases hRead : (Json.parse? body).bind failureCodec.decode with
  | none =>
    rw [failureParts, hRead]
    rfl
  | some parts => exact absurd (tells_iff.1 hRead) (hUntold parts.1 parts.2)

/-- A body has a code exactly if a record tells it. -/
theorem failureParts_code_iff {code : String} :
    (failureParts body).1 = some code ↔ ∃ message, Tells body (some code) message := by
  by_cases hTold : ∃ told message, Tells body told message
  · obtain ⟨told, message, hTells⟩ := hTold
    have hParts := failureParts_of_tells hTells
    rw [hParts]
    constructor
    · rintro rfl
      exact ⟨message, hTells⟩
    · -- A body tells one record only, because what it is read as is one.
      rintro ⟨message', hTells'⟩
      exact congrArg Prod.fst (hParts.symm.trans (failureParts_of_tells hTells'))
  · have hUntold : ∀ told message, ¬Tells body told message := fun told message hTells =>
      hTold ⟨told, message, hTells⟩
    rw [failureParts_of_not_tells hUntold]
    exact iff_of_false nofun fun ⟨message, hTells⟩ => hUntold _ message hTells

/-! ### Errors -/

/-- The text that stands for a message where a body tells none. -/
def genericMessage (endpoint : String) : String := "request to " ++ endpoint ++ " failed"

/-- An error is what a failed response of an endpoint comes to. -/
structure Classifies (endpoint : String) (r : Response) (e : ApiError) : Prop where
  /-- It is none of those that say that there was no answer or that it could not be read. -/
  answered : ∀ reason, e ≠ .request reason ∧ e ≠ .decode reason
  status : e.statusCode = some r.status
  auth : e.isAuthFailure = true ↔ r.status = 401 ∨ r.status = 403
  missing : e.isNotFound = true ↔ SaysMissing r
  told : r.status ≠ 401 → r.status ≠ 403 → ∀ code message, Tells r.body code message →
    e = .status r.status code (message.getD (genericMessage endpoint))
  untold : r.status ≠ 401 → r.status ≠ 403 → (∀ code message, ¬Tells r.body code message) →
    e = .status r.status none (genericMessage endpoint)

theorem classifies_failure (endpoint : String) (r : Response) :
    Classifies endpoint r (failure endpoint r) := by
  by_cases hFirst : r.status = 401
  · have hNot : r.status ≠ 404 := hFirst ▸ by decide
    rw [failure, if_pos hFirst]
    exact ⟨fun _ => ⟨nofun, nofun⟩, congrArg some hFirst.symm, iff_of_true rfl (.inl hFirst),
      iff_of_false nofun fun hMissing => hMissing.elim hNot fun h => h.1.1 hFirst,
      fun hOther => absurd hFirst hOther, fun hOther => absurd hFirst hOther⟩
  by_cases hSecond : r.status = 403
  · have hNot : r.status ≠ 404 := hSecond ▸ by decide
    rw [failure, if_neg hFirst, if_pos hSecond]
    exact ⟨fun _ => ⟨nofun, nofun⟩, congrArg some hSecond.symm, iff_of_true rfl (.inr hSecond),
      iff_of_false nofun fun hMissing => hMissing.elim hNot fun h => h.1.2 hSecond,
      fun _ hOther => absurd hSecond hOther, fun _ hOther => absurd hSecond hOther⟩
  rw [failure, if_neg hFirst, if_neg hSecond]
  -- Only past these two does the body count: their errors have neither its code nor its message.
  refine ⟨fun _ => ⟨nofun, nofun⟩, rfl, iff_of_false nofun fun h => h.elim hFirst hSecond,
    ?_, ?_, ?_⟩
  · rw [ApiError.isNotFound, Bool.or_eq_true, beq_iff_eq, beq_iff_eq, failureParts_code_iff]
    exact or_congr_right (and_iff_right ⟨hFirst, hSecond⟩).symm
  · intro _ _ code message hTells
    rw [failureParts_of_tells hTells]
    rfl
  · intro _ _ hUntold
    rw [failureParts_of_not_tells hUntold]
    rfl

/-! ### Answers -/

section

variable {σ : Type} {client : Client} {server : Server σ} {c : Call} {s t : σ} {r : Response}

/-- A server responds to a call of a client. -/
def Responds (client : Client) (server : Server σ) (c : Call) (s : σ) (r : Response) (t : σ) :
    Prop :=
  ∃ request, c.request? client.base client.credentials = some request ∧
    server request s = (.ok r, t)

theorem Responds.answer (hResponds : Responds client server c s r t) :
    client.answer server c s = (c.readResponse r, t) := by
  obtain ⟨request, hRequest, hServer⟩ := hResponds
  simp only [Client.answer, hRequest, hServer]

/-- A failed response makes the call fail with what it comes to. -/
theorem Responds.answer_failed (hResponds : Responds client server c s r t)
    (hFailed : isSuccess r.status = false) :
    client.answer server c s = (.error (failure c.endpoint r), t) := by
  rw [hResponds.answer, Call.readResponse, hFailed]
  rfl

/-- A call that fails without a response fails as such. -/
theorem responds_or_request (client : Client) (server : Server σ) (c : Call) (s : σ) :
    (∃ r t, Responds client server c s r t) ∨
      ∃ reason t, client.answer server c s = (.error (.request reason), t) := by
  cases hRequest : c.request? client.base client.credentials with
  | none =>
    exact .inr ⟨"the credentials cannot be sent in a header", s, by
      simp only [Client.answer, hRequest]⟩
  | some request =>
    rcases hServer : server request s with ⟨reason | r, t⟩
    · exact .inr ⟨reason, t, by simp only [Client.answer, hRequest, hServer]⟩
    · exact .inl ⟨r, t, request, hRequest, hServer⟩

theorem isNotFound_of_bodyValue {e : ApiError} (hRead : bodyValue body = .error e) :
    e.isNotFound = false := by
  unfold bodyValue at hRead
  split at hRead
  · cases hRead
  · split at hRead <;> cases hRead
    rfl

theorem isNotFound_of_readAs {α : Type} {codec : Codec α} {j : Json} {e : ApiError}
    (hRead : readAs codec j = .error e) : e.isNotFound = false := by
  unfold readAs at hRead
  split at hRead <;> cases hRead
  rfl

/-- A successful response about a file that cannot be read does not say that it is missing. -/
theorem isNotFound_of_success {path : String} {e : ApiError} (hSuccess : isSuccess r.status = true)
    (hRead : (Call.files (.getStatus path)).readResponse r = .error e) : e.isNotFound = false := by
  rw [Call.readResponse, if_pos hSuccess] at hRead
  cases hBody : bodyValue r.body with
  | error cause =>
    rw [hBody] at hRead
    cases hRead
    exact isNotFound_of_bodyValue hBody
  | ok j =>
    rw [hBody] at hRead
    exact isNotFound_of_readAs hRead

/-- A call about a file says that it is missing exactly if the response says so. -/
theorem answer_missing_iff (path : String) :
    (∃ e t, client.answer server (.files (.getStatus path)) s = (.error e, t) ∧
        e.isNotFound = true) ↔
      ∃ r t, Responds client server (.files (.getStatus path)) s r t ∧
        isSuccess r.status = false ∧ SaysMissing r := by
  constructor
  · rintro ⟨e, t, hAnswer, hMissing⟩
    -- A call that fails without a failed response fails with an error that never says so.
    rcases responds_or_request client server (.files (.getStatus path)) s with
      ⟨r, u, hResponds⟩ | ⟨reason, u, hNone⟩
    · cases hSuccess : isSuccess r.status with
      | true =>
        rw [hResponds.answer] at hAnswer
        have hFound := isNotFound_of_success hSuccess (congrArg Prod.fst hAnswer)
        exact nomatch hFound.symm.trans hMissing
      | false =>
        rw [hResponds.answer_failed hSuccess] at hAnswer
        cases hAnswer
        exact ⟨r, t, hResponds, hSuccess, (classifies_failure _ r).missing.1 hMissing⟩
    · cases hAnswer.symm.trans hNone
      cases hMissing
  · rintro ⟨r, t, hResponds, hFailed, hMissing⟩
    exact ⟨_, t, hResponds.answer_failed hFailed, (classifies_failure _ r).missing.2 hMissing⟩

/-- A file is there, or is missing, or looking it up fails as the call does. -/
theorem exec_exists {path : String} {s t : Simulation σ} {answer : Except ApiError FileRecord}
    (hAnswer : (client.handler server).answer (.files (.getStatus (pathOf path))) s = (answer, t)) :
    (exec (client.handler server) (FileStore.exists path) s).1 =
      match answer with
      | .ok _ => .ok true
      | .error e => if e.isNotFound then .ok false else .error (.transport e) := by
  rw [FileStore.exists, (Action.tryAsk_bind hAnswer _).1]
  rcases answer with e | record
  · change (exec _ (if e.isNotFound then _ else _) t).1 = if e.isNotFound then _ else _
    split <;> rfl
  · rfl

/-- A failed response to a call makes it fail with an error that says what the response says, and
with nothing else, whatever the body.  So a file is said to be missing exactly if the response says
so, to be there exactly if the call is answered, and otherwise looking it up fails as the call. -/
theorem failures_are_classified (client : Client) (server : Server σ) :
    (∀ c s r t, Responds client server c s r t → isSuccess r.status = false →
      ∃ e, client.answer server c s = (.error e, t) ∧ Classifies c.endpoint r e) ∧
    ∀ path (s : Simulation σ),
      let c := Call.files (.getStatus (pathOf path))
      let found := (exec (client.handler server) (FileStore.exists path) s).1
      (found = .ok false ↔
        ∃ r t, Responds client server c s.state r t ∧ isSuccess r.status = false ∧
          SaysMissing r) ∧
      (found = .ok true ↔ ∃ record t, client.answer server c s.state = (.ok record, t)) ∧
      ∀ e t, client.answer server c s.state = (.error e, t) →
        found = .ok false ∨ found = .error (.transport e) := by
  refine ⟨fun c s r t hResponds hFailed =>
    ⟨_, hResponds.answer_failed hFailed, classifies_failure c.endpoint r⟩, ?_⟩
  intro path s c found
  rw [← answer_missing_iff]
  rcases hAnswer : client.answer server c s.state with ⟨e | record, t⟩
  · have hFound : found = if e.isNotFound then .ok false else .error (.transport e) :=
      exec_exists (Simulation.answer_handler hAnswer)
    rw [hFound]
    -- Looking up a file turns one class of errors into an answer and hands on the others.
    cases hMissing : e.isNotFound with
    | true =>
      exact ⟨iff_of_true rfl ⟨e, t, rfl, hMissing⟩, iff_of_false nofun nofun, fun _ _ _ => .inl rfl⟩
    | false =>
      refine ⟨iff_of_false nofun ?_, iff_of_false nofun nofun, ?_⟩
      · rintro ⟨_, _, ⟨⟩, hSays⟩
        exact nomatch hMissing.symm.trans hSays
      · rintro _ _ ⟨⟩
        exact .inr rfl
  · have hFound : found = .ok true := exec_exists (Simulation.answer_handler hAnswer)
    rw [hFound]
    exact ⟨iff_of_false nofun nofun, iff_of_true rfl ⟨record, t, rfl⟩, nofun⟩

end

/-- The record of a failure, between members of other names. -/
def missingRecord : Json :=
  .record [("trace", .arr [.null]), ("error_code", .str "RESOURCE_DOES_NOT_EXIST"),
    ("message", .null), ("details", .record [("message", .int 5)])]

/-- A server that responds with a status and this record, whatever it is asked. -/
def missingServer (status : UInt16) : Server Unit := fun _ s =>
  (.ok ⟨status, Json.bytes missingRecord.render⟩, s)

theorem tells_missing :
    Tells (Json.bytes missingRecord.render) (some "RESOURCE_DOES_NOT_EXIST") none :=
  ⟨missingRecord, Json.parse?_render _,
    .object (by decide) (.given rfl (.text _)) (.given rfl .null)⟩

theorem responds_missing (status : UInt16) (c : Call) :
    Responds greetingClient (missingServer status) c ()
      ⟨status, Json.bytes missingRecord.render⟩ () :=
  let ⟨request, hRequest⟩ := exists_request_greeting c
  ⟨request, hRequest, rfl⟩

/-- A job and a file are missing where the record comes with status 400, and with status 403 the
credentials are at fault. -/
theorem failures_are_classified_missing :
    let s : Simulation Unit := { state := () }
    greetingClient.answer (missingServer 400) (.jobs (.get ⟨7⟩)) () =
      (.error (.status 400 (some "RESOURCE_DOES_NOT_EXIST") "request to jobs/get failed"), ()) ∧
    (exec (greetingClient.handler (missingServer 400)) (FileStore.exists "dbfs:/a") s).1 =
      .ok false ∧
    ∃ e, (exec (greetingClient.handler (missingServer 403)) (FileStore.exists "dbfs:/a") s).1 =
      .error (.transport e) ∧ e.statusCode = some 403 ∧ e.isAuthFailure = true := by
  intro s
  obtain ⟨hFails, hExists⟩ := failures_are_classified greetingClient (missingServer 400)
  obtain ⟨_, hJob, hJobFailure⟩ := hFails _ _ _ _ (responds_missing 400 (.jobs (.get ⟨7⟩))) rfl
  obtain ⟨hRefuses, hRefused⟩ := failures_are_classified greetingClient (missingServer 403)
  obtain ⟨e, hFile, hFileFailure⟩ :=
    hRefuses _ _ _ _ (responds_missing 403 (.files (.getStatus "/a"))) rfl
  refine ⟨?_, ?_, e, ?_, hFileFailure.status, hFileFailure.auth.2 (.inr rfl)⟩
  · rw [hJob, hJobFailure.told (by decide) (by decide) _ _ tells_missing]
    decide
  · exact (hExists "dbfs:/a" s).1.2
      ⟨_, _, responds_missing 400 _, rfl, .inr ⟨⟨by decide, by decide⟩, _, tells_missing⟩⟩
  · refine ((hRefused "dbfs:/a" s).2.2 _ _ hFile).resolve_left fun hFound => ?_
    obtain ⟨r, _, ⟨_, -, hServer⟩, -, hSays⟩ := (hRefused "dbfs:/a" s).1.1 hFound
    cases hServer
    exact hSays.elim (by decide) fun hOther => hOther.1.2 rfl

end SparkFleet.Http
