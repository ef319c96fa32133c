import SparkFleet.Proofs.Http.BaseUrl
import SparkFleet.Proofs.Http.Content
import SparkFleet.Proofs.Http.Form
import SparkFleet.Proofs.Text.Numeral
import SparkFleet.Proofs.Text.Trimming

/-!
# Targets of calls that read

A call that only reads is sent with GET; `Reads` says to which endpoint and with which parameters.
If the base URL is an origin, the target of the request is the path of the endpoint and, if there
are parameters, a query that is read as them (`IsTarget`).  So no argument is taken for another one,
for a further parameter or for a part of the path.

The main statement `get_targets` says this of every request, and that different calls have different
targets.
-/

namespace SparkFleet.Http

open Text (dropWhile_append)

variable {base : String} {credentials : Credentials} {c c' : Call} {r r' : Request}
  {endpoint endpoint' : String} {parameters parameters' : List (String × String)}

/-! ### Calls that read -/

/-- A call reads from an endpoint with parameters. -/
inductive Reads : Call → String → List (String × String) → Prop where
  | cluster (id : ClusterId) :
    Reads (.clusters (.get id)) "clusters/get" [("cluster_id", id.text)]
  | clusters : Reads (.clusters .list) "clusters/list" []
  | sparkVersions : Reads (.clusters .sparkVersions) "clusters/spark-versions" []
  | nodeTypes : Reads (.clusters .nodeTypes) "clusters/list-node-types" []
  | zones : Reads (.clusters .zones) "clusters/list-zones" []
  | job (id : JobId) : Reads (.jobs (.get id)) "jobs/get" [("job_id", toString id.number.toInt)]
  | run (id : RunId) :
    Reads (.jobs (.getRun id)) "jobs/runs/get" [("run_id", toString id.number.toInt)]
  | runOutput (id : RunId) :
    Reads (.jobs (.getRunOutput id)) "jobs/runs/get-output" [("run_id", toString id.number.toInt)]
  | clusterLibraries (id : ClusterId) :
    Reads (.libraries (.clusterStatus id)) "libraries/cluster-status" [("cluster_id", id.text)]
  | object (path : String) :
    Reads (.workspace (.getStatus path)) "workspace/get-status" [("path", path)]
  | objects (path : String) : Reads (.workspace (.list path)) "workspace/list" [("path", path)]
  | notebook (path : String) (format : ExportFormat) :
    Reads (.workspace (.exportNotebook path format)) "workspace/export"
      [("path", path), ("format", format.name)]
  | content (path : String) (offset length : UInt64) :
    Reads (.files (.read path offset length)) "dbfs/read"
      [("path", path), ("offset", toString offset.toNat), ("length", toString length.toNat)]
  | file (path : String) : Reads (.files (.getStatus path)) "dbfs/get-status" [("path", path)]
  | files (path : String) : Reads (.files (.list path)) "dbfs/list" [("path", path)]

theorem reads_iff :
    Reads c endpoint parameters ↔ c.endpoint = endpoint ∧ c.arguments = .query parameters := by
  constructor
  · intro hReads
    cases hReads <;> exact ⟨rfl, rfl⟩
  · rintro ⟨rfl, hQuery⟩
    rcases c with call | call | call | call | call <;> cases call <;> cases hQuery <;> constructor

theorem endpoint_no_mark (hReads : Reads c endpoint parameters) : '?' ∉ endpoint.toList := by
  cases hReads <;> decide

theorem clusterId_eq {id id' : ClusterId} (hText : id.text = id'.text) : id = id' := by
  cases id
  cases id'
  cases hText
  rfl

theorem int_eq {n m : Int} (hText : toString n = toString m) : n = m := by
  -- What is written of a number is a numeral, and a numeral is read as one number only.
  have hRead := Text.integer?_eq_some_iff.2 (Text.isNumeral_toString n)
  rw [hText, Text.integer?_eq_some_iff.2 (Text.isNumeral_toString m)] at hRead
  exact (Option.some.inj hRead).symm

theorem jobId_eq {id id' : JobId} (hText : toString id.number.toInt = toString id'.number.toInt) :
    id = id' :=
  congrArg JobId.mk (Int64.toInt.inj (int_eq hText))

theorem runId_eq {id id' : RunId} (hText : toString id.number.toInt = toString id'.number.toInt) :
    id = id' :=
  congrArg RunId.mk (Int64.toInt.inj (int_eq hText))

theorem format_eq {format format' : ExportFormat} (hName : format.name = format'.name) :
    format = format' := by
  revert hName
  cases format <;> cases format' <;> decide

theorem uint64_eq {n m : UInt64} (hText : toString n.toNat = toString m.toNat) : n = m :=
  UInt64.toNat_inj.1 (Int.ofNat.inj (int_eq hText))

/-- The endpoint and the parameters tell the call. -/
theorem Reads.injective (hReads : Reads c endpoint parameters)
    (hOther : Reads c' endpoint' parameters') (hEndpoint : endpoint = endpoint')
    (hParameters : parameters = parameters') : c = c' := by
  -- Different endpoints tell the calls apart; at the same one the values of the parameters do.
  cases hReads <;> cases hOther <;> first
    | exact absurd hEndpoint (by decide)
    | rfl
    | simp only [List.cons.injEq, Prod.mk.injEq, true_and, and_true] at hParameters
  case cluster.cluster => rw [clusterId_eq hParameters]
  case job.job => rw [jobId_eq hParameters]
  case run.run => rw [runId_eq hParameters]
  case runOutput.runOutput => rw [runId_eq hParameters]
  case clusterLibraries.clusterLibraries => rw [clusterId_eq hParameters]
  case notebook.notebook => rw [hParameters.1, format_eq hParameters.2]
  case content.content =>
    rw [hParameters.1, uint64_eq hParameters.2.1, uint64_eq hParameters.2.2]
  all_goals rw [hParameters]

/-! ### Targets -/

/-- A base URL without a path. -/
def IsOrigin (base : String) : Prop :=
  ∃ scheme authority, isScheme scheme = true ∧ authority ≠ [] ∧
    (∀ c ∈ authority, c ∉ ['/', '?', '#', '\\']) ∧ base.toList = scheme ++ schemeMark ++ authority

/-- A target is the path of an endpoint and, if there are parameters, a query that is read as
them. -/
inductive IsTarget (endpoint : String) : List (String × String) → String → Prop where
  | plain : IsTarget endpoint [] ("/api/2.0/" ++ endpoint)
  | query {parameters : List (String × String)} {query : List Char} (hSome : parameters ≠ [])
    (hRead : Form.read query = some parameters)
    (hSafe : ∀ c ∈ query, Form.isSafe c = true ∨ c = '&' ∨ c = '=') :
    IsTarget endpoint parameters ("/api/2.0/" ++ endpoint ++ "?" ++ String.ofList query)

theorem ne_colon_of_mem_scheme {scheme : List Char} (hScheme : isScheme scheme = true) :
    ∀ c ∈ scheme, c ≠ ':' := by
  rintro c hMem rfl
  cases scheme with
  | nil => cases hMem
  | cons first rest =>
    rw [isScheme, Bool.and_eq_true, List.all_eq_true] at hScheme
    rcases List.mem_cons.1 hMem with rfl | hMem
    · exact absurd hScheme.1 (by decide)
    · exact absurd (hScheme.2 _ hMem) (by decide)

/-- Nothing of an origin goes into the path. -/
theorem basePath_of_isOrigin (hOrigin : IsOrigin base) : basePath base = [] := by
  obtain ⟨scheme, authority, hScheme, -, hAuthority, hBase⟩ := hOrigin
  have hBefore : ∀ c ∈ scheme, decide (c ≠ ':') = true := fun c hMem =>
    decide_eq_true (ne_colon_of_mem_scheme hScheme c hMem)
  -- The path would begin at the first slash behind the mark, and an authority has none.
  have hNoPath : authority.dropWhile (· ≠ '/') = [] := by
    refine List.dropWhile_eq_nil_iff.2 fun c hMem => decide_eq_true ?_
    rintro rfl
    exact hAuthority _ hMem (by decide)
  have hAfter : afterAuthority base.toList = [] := by
    rw [hBase, List.append_assoc, afterAuthority, dropWhile_append hBefore]
    · exact hNoPath
    · rintro _ ⟨⟩
      rfl
  have hBytes : Json.bytes (String.ofList []) = [] := Json.bytes_ofList []
  rw [basePath, hAfter, Base64.toList_eq, ← Json.bytes, hBytes, List.flatMap_nil]

theorem target_plain (base endpoint : String) : target base endpoint (.query []) =
    String.ofList (basePath base ++ (apiPath ++ endpoint).toList) := rfl

theorem target_query (base endpoint : String) (p : String × String) :
    target base endpoint (.query (p :: parameters)) =
      String.ofList (basePath base ++ (apiPath ++ endpoint).toList ++
        '?' :: Form.write (p :: parameters)) := rfl

theorem isTarget_target (hOrigin : IsOrigin base) (endpoint : String)
    (parameters : List (String × String)) :
    IsTarget endpoint parameters (target base endpoint (.query parameters)) := by
  cases parameters with
  | nil =>
    rw [target_plain, basePath_of_isOrigin hOrigin, List.nil_append, String.ofList_toList]
    exact .plain
  | cons p rest =>
    -- The query is read back as the parameters, of whatever characters they consist.
    rw [target_query, basePath_of_isOrigin hOrigin, List.nil_append, String.ofList_append,
      String.ofList_toList, ← List.singleton_append (x := '?'), String.ofList_append,
      ← String.append_assoc]
    exact .query (List.cons_ne_nil p rest) (Form.read_write _) fun c => Form.isSafe_of_mem_write

/-- What stands after the path of a target is read as the parameters. -/
theorem IsTarget.exists_rest {text : String} (hTarget : IsTarget endpoint parameters text) :
    ∃ rest, text.toList = ("/api/2.0/".toList ++ endpoint.toList) ++ rest ∧
      (∀ c ∈ rest.head?, decide (c ≠ '?') = false) ∧ Form.read (rest.drop 1) = some parameters := by
  cases hTarget with
  | plain => exact ⟨[], by simp, nofun, rfl⟩
  | @query _ query _ hRead _ =>
    refine ⟨'?' :: query, by simp, ?_, hRead⟩
    rintro _ ⟨⟩
    rfl

/-- A target tells the endpoint and the parameters. -/
theorem IsTarget.injective {text : String} (hTarget : IsTarget endpoint parameters text)
    (hOther : IsTarget endpoint' parameters' text) (hPath : '?' ∉ endpoint.toList)
    (hOtherPath : '?' ∉ endpoint'.toList) : endpoint = endpoint' ∧ parameters = parameters' := by
  obtain ⟨rest, hText, hMark, hRead⟩ := hTarget.exists_rest
  obtain ⟨rest', hText', hMark', hRead'⟩ := hOther.exists_rest
  have hBefore {endpoint : String} (hPath : '?' ∉ endpoint.toList) :
      ∀ c ∈ "/api/2.0/".toList ++ endpoint.toList, decide (c ≠ '?') = true := by
    intro c hMem
    refine decide_eq_true ?_
    rintro rfl
    exact (List.mem_append.1 hMem).elim (by decide) hPath
  -- The path ends at the first question mark, as there is none in an endpoint.
  have hRest : rest = rest' := by
    rw [← dropWhile_append (hBefore hPath) hMark, ← hText, hText',
      dropWhile_append (hBefore hOtherPath) hMark']
  rw [hText, hRest] at hText'
  have hEndpoint := List.append_cancel_left (List.append_cancel_right hText')
  rw [← hRest, hRead] at hRead'
  exact ⟨String.toList_inj.1 hEndpoint, Option.some.inj hRead'⟩

/-! ### Requests -/

theorem target_of_request? (hRequest : c.request? base credentials = some r) :
    r.target = target base c.endpoint c.arguments := by
  obtain ⟨authorization, -, hRequest⟩ := Option.bind_eq_some_iff.1 hRequest
  rw [← Option.some.inj hRequest]

/-- A request is sent with GET if its call only reads. -/
theorem method_eq_get_iff (hRequest : c.request? base credentials = some r) :
    r.method = "GET" ↔ ∃ endpoint parameters, Reads c endpoint parameters := by
  obtain ⟨authorization, -, hRequest⟩ := Option.bind_eq_some_iff.1 hRequest
  obtain rfl := Option.some.inj hRequest
  simp only [reads_iff, exists_eq_left', exists_and_left, Request.method]
  cases c.arguments with
  | query parameters => exact iff_of_true rfl ⟨parameters, rfl⟩
  | body value => exact iff_of_false (by simp) nofun

/-- A request is sent with GET exactly if its call only reads.  If the base URL is an origin, its
target is the path of the endpoint with a query that is read as the parameters, and no other call
that only reads has this target, whatever its base URL. -/
theorem get_targets (hOrigin : IsOrigin base) (hRequest : c.request? base credentials = some r) :
    (r.method = "GET" ↔ ∃ endpoint parameters, Reads c endpoint parameters) ∧
    (∀ endpoint parameters, Reads c endpoint parameters → IsTarget endpoint parameters r.target) ∧
    ∀ base' credentials' c' r', IsOrigin base' → c'.request? base' credentials' = some r' →
      r.method = "GET" → r'.method = "GET" → r.target = r'.target → c = c' := by
  have hTargets : ∀ base credentials c r, IsOrigin base →
      Call.request? c base credentials = some r → ∀ endpoint parameters,
        Reads c endpoint parameters → IsTarget endpoint parameters r.target := by
    intro base credentials c r hOrigin hRequest endpoint parameters hReads
    obtain ⟨rfl, hQuery⟩ := reads_iff.1 hReads
    rw [target_of_request? hRequest, hQuery]
    exact isTarget_target hOrigin _ _
  refine ⟨method_eq_get_iff hRequest, hTargets base credentials c r hOrigin hRequest, ?_⟩
  intro base' credentials' c' r' hOrigin' hRequest' hGet hGet' hSame
  obtain ⟨endpoint, parameters, hReads⟩ := (method_eq_get_iff hRequest).1 hGet
  obtain ⟨endpoint', parameters', hReads'⟩ := (method_eq_get_iff hRequest').1 hGet'
  have hTarget := hTargets _ _ _ _ hOrigin hRequest _ _ hReads
  have hTarget' := hTargets _ _ _ _ hOrigin' hRequest' _ _ hReads'
  rw [hSame] at hTarget
  obtain ⟨hEndpoint, hParameters⟩ :=
    hTarget.injective hTarget' (endpoint_no_mark hReads) (endpoint_no_mark hReads')
  exact hReads.injective hReads' hEndpoint hParameters

/-- A path that looks as if it held further parameters, a fragment and an escape is one value. -/
theorem get_targets_marks :
    let list (path : String) : Call := .files (.list path)
    let path := "/a b&path=/é?c=1+%2F#d"
    ∃ r, (list path).request? "https://fleet.example" (.basic "ann" "secret") = some r ∧
      r.method = "GET" ∧ IsTarget "dbfs/list" [("path", path)] r.target ∧
      ∀ path' r', (list path').request? "http://127.0.0.1:8080" (.token "u") = some r' →
        r.target = r'.target → path = path' := by
  intro list path
  have hOrigin : IsOrigin "https://fleet.example" :=
    ⟨"https".toList, "fleet.example".toList, by decide, by decide, by simp, rfl⟩
  have hOrigin' : IsOrigin "http://127.0.0.1:8080" :=
    ⟨"http".toList, "127.0.0.1:8080".toList, by decide, by decide, by simp, rfl⟩
  have hSendable : (authorization? (.basic "ann" "secret")).isSome := rfl
  obtain ⟨r, hRequest⟩ := exists_request? "https://fleet.example" hSendable (list path)
  obtain ⟨hGet, hTarget, hDistinct⟩ := get_targets hOrigin hRequest
  have hMethod : r.method = "GET" := hGet.2 ⟨_, _, .files path⟩
  refine ⟨r, hRequest, hMethod, hTarget _ _ (.files path), fun path' r' hRequest' hSame => ?_⟩
  have hMethod' : r'.method = "GET" := (method_eq_get_iff hRequest').2 ⟨_, _, .files path'⟩
  cases hDistinct _ _ _ _ hOrigin' hRequest' hMethod hMethod' hSame
  rfl

end SparkFleet.Http
