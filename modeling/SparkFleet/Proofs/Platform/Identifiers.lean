import SparkFleet.Proofs.Cluster.Separate
import SparkFleet.Proofs.FileStore.OpenUploads

/-!
# The identifiers that the platform gives out

Clusters, jobs, runs, notebooks and uploads are numbered together.  `Event.given` says which
identifier an event gives out, and `Gives` what it does to the platform when it gives one out or
none; `gives_apply` says that every event does so, unless a record is put in place from outside
under an identifier of its own.  Hence what exists has been given an identifier by the history
(`mem_identifiers_of_has`), and the identifiers are numbered one after the other
(`numbered_gathered`).

The main statement is `identifiers_stay_fresh`: no number and no text is given twice, a new record
takes the place of none, and a cluster or job that has been deleted is not found again.
-/

namespace SparkFleet

namespace Platform

/-- What the platform gives to a new resource. -/
inductive Identifier where
  | cluster (id : ClusterId)
  | job (id : JobId)
  | run (id : RunId)
  | notebook (number : Int64)
  | upload (handle : Int64)
  deriving DecidableEq

namespace Identifier

/-- The number behind an identifier: that of a cluster is at the end of its text. -/
def number : Identifier → Int
  | .cluster id => Nat.ofDigitChars 10 (id.text.toList.drop clusterIdStart.length) 0
  | .job id => id.number.toInt
  | .run id => id.number.toInt
  | .notebook number => number.toInt
  | .upload handle => handle.toInt

/-- The text of a cluster's identifier. -/
def clusterText? : Identifier → Option String
  | .cluster id => some id.text
  | _ => none

/-- The identifier is made from a number. -/
def Numbered (n : Nat) : Identifier → Prop
  | .cluster id => id.text = clusterIdStart ++ fourDigits n
  | .job id => id.number = .ofNat n
  | .run id => id.number = .ofNat n
  | .notebook number => number = .ofNat n
  | .upload handle => handle = .ofNat n

/-- The number that an identifier is made from is the number behind it. -/
theorem Numbered.number_eq {n : Nat} {x : Identifier} (hNumbered : x.Numbered n)
    (hLimit : n < numberLimit) : x.number = n := by
  have hInt : (Int64.ofNat n).toInt = n := Int64.toInt_ofNat_of_lt hLimit
  cases x with
  | cluster id =>
    have hText : id.text = clusterIdStart ++ fourDigits n := hNumbered
    rw [number, hText, String.toList_append, ← String.length_toList, List.drop_left,
      ofDigitChars_fourDigits]
  | job id | run id | notebook number | upload handle =>
    exact (congrArg Int64.toInt hNumbered).trans hInt

end Identifier

/-! ### What is given out -/

/-- The identifier of the notebook at a path. -/
def notebookIds (p : Platform) (path : String) : List Identifier :=
  ((p.objects.get? path).bind (·.record.objectId)).toList.map .notebook

end Platform

open Platform (Identifier)

/-- What a call that is answered gives out, with the platform after it. -/
def Call.given (q : Platform) : (c : Call) → c.Answer → List Identifier
  | .clusters (.create _), id => [.cluster id]
  | .jobs (.create _), id => [.job id]
  | .jobs (.runNow _), started => [.run started.runId]
  | .workspace (.importNotebook n), _ => q.notebookIds n.path
  | .files (.create _ _), handle => [.upload handle]
  | _, _ => []

/-- The calls that create something. -/
def Call.creates : Call → Bool
  | .clusters (.create _) | .jobs (.create _) | .jobs (.runNow _) | .workspace (.importNotebook _)
  | .files (.create _ _) => true
  | _ => false

/-- The job that a call is on. -/
def Call.job? : Call → Option JobId
  | .jobs (.get id) | .jobs (.delete id) => some id
  | .jobs (.runNow request) => some request.jobId
  | _ => none

namespace Platform

variable {p q : Platform}

/-- What an event gives out. -/
def Event.given (p : Platform) : Event → List Identifier
  | .call c =>
    match (p.serve c).1 with
    | .ok a => c.given (p.serve c).2 a
    | .error _ => []
  | .addRunningCluster name workers => [.cluster (p.addRunningCluster name workers).1]
  | .putJob settings => [.job (p.createJob settings).1]
  | .addNotebook path language content => (p.addNotebook path language content).notebookIds path
  | _ => []

/-- Everything that is given out in a history that begins with an empty platform. -/
def identifiers (history : List Event) : List Identifier := gathered Event.given {} history

/-- There is a record of this identifier. -/
def Has (p : Platform) : Identifier → Prop
  | .cluster id => p.clusters.contains id = true
  | .job id => p.jobs.contains id = true
  | .run id => p.runs.contains id = true
  | .notebook number => ∃ path object,
      p.objects.get? path = some object ∧ object.record.objectId = some number
  | .upload handle => p.uploads.contains handle = true

/-- A notebook at the path is to be replaced. -/
def Event.Overwrites (path : String) : Event → Prop
  | .call (.workspace (.importNotebook n)) => n.path = path ∧ n.overwrite = true
  | .addNotebook other _ _ => other = path
  | _ => False

/-- A record is put in place from outside, under an identifier of its own. -/
def Event.putsRecord : Event → Bool
  | .putCluster _ | .putRun _ => true
  | _ => false

/-- What an event that leads from one platform to another does where it gives out these
identifiers. -/
inductive Gives (p q : Platform) (e : Event) : List Identifier → Prop where
  /-- Nothing is there that was not there before. -/
  | nothing (hLast : q.lastNumber = p.lastNumber) (hNone : ∀ x, q.Has x → p.Has x) :
    Gives p q e []
  | cluster (entry : ClusterEntry)
      (hAfter : q = { p with
        lastNumber := p.nextNumber
        clusters := p.clusters.insert p.nextClusterId entry
        calls := q.calls }) :
      Gives p q e [.cluster p.nextClusterId]
  | job (record : JobRecord)
      (hAfter : q = { p with
        lastNumber := p.nextNumber
        jobs := p.jobs.insert p.nextJobId record
        calls := q.calls }) :
      Gives p q e [.job p.nextJobId]
  | run (entry : RunEntry)
      (hAfter : q = { p with
        lastNumber := p.nextNumber
        runs := p.runs.insert p.nextRunId entry
        calls := q.calls }) :
      Gives p q e [.run p.nextRunId]
  /-- A notebook is put where none is, or where it is to replace one. -/
  | notebook (path : String) (object : ObjectEntry)
      (hNumber : object.record.objectId = some (.ofNat p.nextNumber))
      (hFree : p.objects.contains path = true → e.Overwrites path)
      (hAfter : q = { p with
        lastNumber := p.nextNumber
        objects := p.objects.insert path object
        dirs := q.dirs
        calls := q.calls }) :
      Gives p q e [.notebook (.ofNat p.nextNumber)]
  | upload (upload : Upload)
      (hAfter : q = { p with
        lastNumber := p.nextNumber
        uploads := p.uploads.insert p.nextHandle upload
        calls := q.calls }) :
      Gives p q e [.upload p.nextHandle]

/-! ### One event -/

/-- An object that was not there before has been given a number. -/
theorem objects_performWorkspace {c : WorkspaceCall} {a : c.Answer}
    (h : p.performWorkspace c = .ok (a, q)) {path : String} {object : ObjectEntry}
    (hAfter : q.objects.get? path = some object) :
    p.objects.get? path = some object ∨ q.lastNumber = p.nextNumber := by
  cases c with
  | getStatus _ | list _ | exportNotebook _ _ =>
    obtain ⟨found, -, h⟩ := map_eq_ok h
    cases h
    exact .inl hAfter
  | mkdirs _ =>
    cases h
    exact .inl hAfter
  | delete other recursive =>
    simp only [performWorkspace, deleteObject] at h
    split at h
    · cases h
      rw [SortedMap.get?_erase] at hAfter
      split at hAfter
      · cases hAfter
      · exact .inl hAfter
    · split at h
      · cases h
      · split at h
        · cases h
        · cases h
          rw [SortedMap.get?_filter] at hAfter
          exact .inl (Option.filter_eq_some_iff.1 hAfter).1
  | importNotebook n =>
    -- An import may put an object in place, but it takes a number for it.
    obtain ⟨-, -, rfl⟩ := importNotebook_eq_ok h
    exact .inr rfl

theorem objects_apply (e : Event) {path : String} {object : ObjectEntry} :
    (e.apply p).objects.get? path = some object →
      p.objects.get? path = some object ∨ (e.apply p).lastNumber = p.nextNumber := by
  cases e with
  | call c =>
    refine serve_induction (motive := fun q => q.objects.get? path = some object →
      p.objects.get? path = some object ∨ q.lastNumber = p.nextNumber) .inl fun a q h hAfter => ?_
    cases c with
    | workspace call => exact objects_performWorkspace (p := p.count _) h hAfter
    | clusters call =>
      rw [(performClusters_frame h).1] at hAfter
      exact .inl hAfter
    | jobs call =>
      rw [(performJobs_frame h).1] at hAfter
      exact .inl hAfter
    | libraries call =>
      rw [performLibraries_frame h] at hAfter
      exact .inl hAfter
    | files call =>
      rw [(performFiles_frame h).1] at hAfter
      exact .inl hAfter
  | addNotebook => exact fun _ => .inr rfl
  | settleCluster id =>
    rw [Event.apply, settleCluster_frame]
    exact .inl
  | failCluster id =>
    rw [Event.apply, failCluster_frame]
    exact .inl
  | addFile path content =>
    rw [Event.apply, addFile, writeFile_frame]
    exact .inl
  | settleReads | injectFailure | clearFailure | offerVersions | offerNodeTypes | offerZones
  | putCluster | addRunningCluster | putJob | putRun | setRunOutput | finishRun
  | setLibraryStatus => exact .inl

/-- Where no number is given out, nothing is new unless it is put in place from outside. -/
theorem has_of_has_apply {e : Event} (hPut : e.putsRecord = false)
    (hLast : (e.apply p).lastNumber = p.lastNumber) (x : Identifier) (hHas : (e.apply p).Has x) :
    p.Has x := by
  -- Whatever appears takes the next number, and this event has taken none.
  have hNext : (e.apply p).lastNumber ≠ p.nextNumber := by
    rw [hLast]
    exact (Nat.lt_succ_self _).ne
  cases x with
  | cluster id =>
    have hStep := p.clusterStep_apply e id
    rw [Has, SortedMap.contains] at hHas ⊢
    cases hBefore : p.clusters.get? id with
    | some entry => rfl
    | none =>
      rw [hBefore] at hStep
      generalize (e.apply p).clusters.get? id = after at hStep hHas
      cases hStep with
      | same => exact hHas
      | create _ _ _ hLast | addRunningCluster _ _ _ _ hLast => exact absurd hLast hNext
      | putCluster record => cases hPut
  | job id =>
    rw [Has, SortedMap.contains] at hHas ⊢
    -- A job stays, is deleted or is created.
    obtain hSame | hNone | ⟨-, hLast⟩ := jobStep_apply (p := p) e id
    · rwa [hSame] at hHas
    · rw [hNone] at hHas
      cases hHas
    · exact absurd hLast hNext
  | run id =>
    rw [Has, SortedMap.contains] at hHas ⊢
    obtain (hSame | ⟨-, hLast⟩) | ⟨record, rfl, -⟩ := runStep_apply (p := p) e id
    · rwa [← Option.isSome_map, hSame, Option.isSome_map] at hHas
    · exact absurd hLast hNext
    · cases hPut
  | notebook number =>
    obtain ⟨path, object, hGet, hNumber⟩ := hHas
    exact ⟨path, object, (objects_apply e hGet).resolve_right hNext, hNumber⟩
  | upload handle =>
    have hStep := p.uploadStep_apply e handle
    rw [Has, SortedMap.contains] at hHas ⊢
    cases hBefore : p.uploads.get? handle with
    | some entry => rfl
    | none =>
      rw [hBefore] at hStep
      generalize (e.apply p).uploads.get? handle = after at hStep hHas
      cases hStep with
      | same | closed => exact hHas
      | opened _ _ _ _ _ hLast => exact absurd hLast hNext

/-! ### Calls that create nothing -/

theorem lastNumber_performClusters {c : ClusterCall} {a : c.Answer}
    (h : p.performClusters c = .ok (a, q)) (hCreates : (Call.clusters c).creates = false) :
    q.lastNumber = p.lastNumber := by
  cases c with
  | create spec => cases hCreates
  | get id =>
    obtain ⟨entry, -, h⟩ := bind_eq_ok h
    obtain ⟨entry', -, h⟩ := bind_eq_ok h
    cases h
    rw [observeCluster_frame]
  | resize r =>
    obtain ⟨entry, -, -, rfl⟩ := resizeCluster_eq_ok h
    rfl
  | restart id =>
    have hChange : p.changeCluster id (· == .running) .restarting .running = .ok (a, q) := h
    rw [changeCluster_frame hChange]
  | terminate id =>
    have hChange : p.changeCluster id (!·.isTerminal) .terminating .terminated = .ok (a, q) := h
    rw [changeCluster_frame hChange]
  | permanentDelete id =>
    obtain ⟨entry, -, h⟩ := bind_eq_ok h
    cases h
    rfl
  | list | sparkVersions | nodeTypes | zones =>
    cases h
    rfl

theorem lastNumber_performJobs {c : JobCall} {a : c.Answer} (h : p.performJobs c = .ok (a, q))
    (hCreates : (Call.jobs c).creates = false) : q.lastNumber = p.lastNumber := by
  cases c with
  | create | runNow => cases hCreates
  | get id =>
    obtain ⟨record, -, h⟩ := map_eq_ok h
    cases h
    rfl
  | getRun id | getRunOutput id | delete id =>
    obtain ⟨found, -, h⟩ := bind_eq_ok h
    cases h
    rfl

theorem lastNumber_performWorkspace {c : WorkspaceCall} {a : c.Answer}
    (h : p.performWorkspace c = .ok (a, q)) (hCreates : (Call.workspace c).creates = false) :
    q.lastNumber = p.lastNumber := by
  cases c with
  | importNotebook n => cases hCreates
  | getStatus _ | list _ | exportNotebook _ _ =>
    obtain ⟨found, -, h⟩ := map_eq_ok h
    cases h
    rfl
  | mkdirs _ =>
    cases h
    rfl
  | delete other recursive =>
    simp only [performWorkspace, deleteObject] at h
    split at h
    · cases h
      rfl
    · split at h
      · cases h
      · split at h
        · cases h
        · cases h
          rfl

theorem lastNumber_performFiles {c : FileCall} {a : c.Answer} (h : p.performFiles c = .ok (a, q))
    (hCreates : (Call.files c).creates = false) : q.lastNumber = p.lastNumber := by
  cases c with
  | create path overwrite => cases hCreates
  | addBlock handle data =>
    obtain ⟨upload, -, rfl⟩ := appendBlock_eq_ok h
    rfl
  | close handle =>
    obtain ⟨upload, -, rfl⟩ := closeUpload_eq_ok h
    unfold writeFile makeDirs
    rfl
  | read path offset length | getStatus path | list path =>
    obtain ⟨found, -, h⟩ := map_eq_ok h
    cases h
    rfl
  | delete path recursive =>
    simp only [performFiles, deleteFile] at h
    split at h
    · cases h
      rfl
    · split at h
      · cases h
      · cases h
        rfl
  | move source destination =>
    simp only [performFiles, moveFile] at h
    split at h
    · cases h
    · obtain ⟨content, -, h⟩ := bind_eq_ok h
      cases h
      unfold writeFile makeDirs
      rfl
  | mkdirs path =>
    cases h
    rfl

/-- A call that creates nothing is not numbered. -/
theorem lastNumber_perform {c : Call} {a : c.Answer} (h : p.perform c = .ok (a, q))
    (hCreates : c.creates = false) : q.lastNumber = p.lastNumber := by
  cases c with
  | clusters call => exact lastNumber_performClusters h hCreates
  | jobs call => exact lastNumber_performJobs h hCreates
  | libraries call => rw [performLibraries_frame h]
  | workspace call => exact lastNumber_performWorkspace h hCreates
  | files call => exact lastNumber_performFiles h hCreates

theorem given_of_not_creates {c : Call} (hCreates : c.creates = false) :
    Event.given p (.call c) = [] := by
  simp only [Event.given]
  split
  · cases c with
    | libraries call => rfl
    | clusters call | jobs call | workspace call | files call =>
      cases call <;> first | rfl | cases hCreates
  · rfl

/-! ### Calls that create something -/

/-- A call that is answered gives out what the answer says. -/
theorem given_of_ok {c : Call} {a : c.Answer} (hServe : p.serve c = (.ok a, q)) :
    Event.given p (.call c) = c.given q a := by
  simp only [Event.given, hServe]

theorem notebookIds_insert {path : String} {object : ObjectEntry} {number : Int64}
    (hNumber : object.record.objectId = some number)
    (hObjects : q.objects = p.objects.insert path object) :
    q.notebookIds path = [.notebook number] := by
  rw [notebookIds, hObjects, SortedMap.get?_insert, if_pos rfl, Option.bind_some, hNumber]
  rfl

/-- A call that creates something and is answered. -/
theorem gives_of_creates {c : Call} {a : c.Answer} (hCreates : c.creates = true)
    (hServe : p.serve c = (.ok a, q)) : Gives p q (.call c) (c.given q a) := by
  have h := serve_eq_ok hServe
  cases c with
  | clusters call =>
    cases call with
    | create spec =>
      obtain ⟨rfl, rfl⟩ := createCluster_eq_ok h
      exact .cluster _ rfl
    | _ => cases hCreates
  | jobs call =>
    cases call with
    | create settings =>
      cases h
      exact .job _ rfl
    | runNow request =>
      obtain ⟨job, -, h⟩ := bind_eq_ok h
      cases h
      exact .run _ rfl
    | _ => cases hCreates
  | libraries call => cases hCreates
  | workspace call =>
    cases call with
    | importNotebook n =>
      obtain ⟨hOverwrite, -, hAfter⟩ := importNotebook_eq_ok (u := a) h
      have hAt : q.notebookIds n.path = [.notebook (.ofNat p.nextNumber)] :=
        notebookIds_insert rfl (congrArg objects hAfter)
      rw [Call.given, hAt]
      refine .notebook n.path (p.newNotebook n.path n.language n.content) rfl
        (fun hThere => ⟨rfl, hOverwrite hThere⟩) ?_
      rw [hAfter]
      rfl
    | _ => cases hCreates
  | files call =>
    cases call with
    | create path overwrite =>
      obtain ⟨rfl, rfl⟩ := openUpload_eq_ok h
      exact .upload _ rfl
    | _ => cases hCreates

/-- Every event gives out an identifier or none, unless a record is put in place from outside. -/
theorem gives_apply {e : Event} (hPut : e.putsRecord = false) :
    Gives p (e.apply p) e (e.given p) := by
  cases e with
  | call c =>
    cases hCreates : c.creates with
    | false =>
      -- A call that creates nothing is not numbered, so nothing is new after it.
      rw [given_of_not_creates hCreates]
      have hLast : (p.serve c).2.lastNumber = p.lastNumber :=
        serve_induction (motive := fun q => q.lastNumber = p.lastNumber) rfl fun a q h =>
          lastNumber_perform (p := p.count c.endpoint) h hCreates
      exact .nothing hLast (has_of_has_apply hPut hLast)
    | true =>
      cases hServe : p.serve c with
      | mk answer q =>
        rw [Event.apply, hServe]
        cases answer with
        | ok a =>
          rw [given_of_ok hServe]
          exact gives_of_creates hCreates hServe
        | error cause =>
          have hGiven : Event.given p (.call c) = [] := by simp only [Event.given, hServe]
          obtain ⟨rfl, -⟩ := serve_eq_error hServe
          rw [hGiven]
          exact .nothing rfl fun x => id
  | addRunningCluster name workers => exact .cluster _ rfl
  | putJob settings => exact .job _ rfl
  | addNotebook path language content =>
    have hAt : (p.addNotebook path language content).notebookIds path =
        [.notebook (.ofNat p.nextNumber)] := notebookIds_insert (p := p) rfl rfl
    rw [Event.given, hAt]
    exact .notebook path _ rfl (fun _ => rfl) rfl
  | putCluster | putRun =>
    -- These two bring an identifier of their own, which no history has given out.
    cases hPut
  | settleCluster id =>
    have hLast := congrArg lastNumber (p.settleCluster_frame id)
    exact .nothing hLast (has_of_has_apply rfl hLast)
  | failCluster id =>
    have hLast := congrArg lastNumber (p.failCluster_frame id)
    exact .nothing hLast (has_of_has_apply rfl hLast)
  | addFile path content =>
    have hLast := congrArg lastNumber (p.writeFile_frame path content)
    exact .nothing hLast (has_of_has_apply rfl hLast)
  | settleReads | injectFailure | clearFailure | offerVersions | offerNodeTypes | offerZones
  | setRunOutput | finishRun | setLibraryStatus => exact .nothing rfl (has_of_has_apply rfl rfl)

/-! ### What is given out by one event -/

variable {e : Event} {given : List Identifier} {x : Identifier}

/-- What is given out is numbered from the next number on. -/
theorem Gives.numbered (hGives : Gives p q e given) :
    q.lastNumber = p.lastNumber + given.length ∧
      ∀ i (hi : i < given.length), given[i].Numbered (p.nextNumber + i) := by
  cases hGives with
  | nothing hLast hNone => exact ⟨hLast, fun i hi => absurd hi i.not_lt_zero⟩
  | cluster entry hAfter | job record hAfter | run entry hAfter | notebook path object _ _ hAfter
  | upload upload hAfter =>
    refine ⟨congrArg lastNumber hAfter, fun i hi => ?_⟩
    -- One identifier is given out, and it is made from the next number.
    obtain rfl : i = 0 := Nat.lt_one_iff.1 hi
    rfl

/-- What is there after an event was there before it or is given out by it. -/
theorem Gives.has (hGives : Gives p q e given) (hHas : q.Has x) : p.Has x ∨ x ∈ given := by
  cases hGives with
  | nothing hLast hNone => exact .inl (hNone x hHas)
  | cluster entry hAfter =>
    rw [hAfter] at hHas
    cases x with
    | cluster id => exact (SortedMap.contains_insert_iff.1 hHas).symm.imp_right fun h => by simp [h]
    | _ => exact .inl hHas
  | job record hAfter =>
    rw [hAfter] at hHas
    cases x with
    | job id => exact (SortedMap.contains_insert_iff.1 hHas).symm.imp_right fun h => by simp [h]
    | _ => exact .inl hHas
  | run entry hAfter =>
    rw [hAfter] at hHas
    cases x with
    | run id => exact (SortedMap.contains_insert_iff.1 hHas).symm.imp_right fun h => by simp [h]
    | _ => exact .inl hHas
  | notebook path object hNumber hFree hAfter =>
    rw [hAfter] at hHas
    cases x with
    | notebook number =>
      obtain ⟨other, found, hGet, hFound⟩ := hHas
      rw [SortedMap.get?_insert] at hGet
      split at hGet
      · cases hGet
        rw [hNumber] at hFound
        exact .inr (by simp [← Option.some.inj hFound])
      · exact .inl ⟨other, found, hGet, hFound⟩
    | _ => exact .inl hHas
  | upload upload hAfter =>
    rw [hAfter] at hHas
    cases x with
    | upload handle =>
      exact (SortedMap.contains_insert_iff.1 hHas).symm.imp_right fun h => by simp [h]
    | _ => exact .inl hHas

/-- Each record is kept as it is, but a notebook that the event is to replace. -/
structure Keeps (p q : Platform) (e : Event) : Prop where
  clusters : ∀ {id entry}, p.clusters.get? id = some entry → q.clusters.get? id = some entry
  jobs : ∀ {id record}, p.jobs.get? id = some record → q.jobs.get? id = some record
  runs : ∀ {id entry}, p.runs.get? id = some entry → q.runs.get? id = some entry
  objects : ∀ {path object}, p.objects.get? path = some object →
    q.objects.get? path = some object ∨ e.Overwrites path
  uploads : ∀ {handle upload}, p.uploads.get? handle = some upload →
    q.uploads.get? handle = some upload

/-- What is put where nothing is takes the place of nothing. -/
theorem get?_insert_of_free {κ ν : Type} [Ord κ] [Std.TransOrd κ] [Std.LawfulEqOrd κ]
    [DecidableEq κ] {m : SortedMap κ ν} {k k' : κ} {v v' : ν} (hFree : ¬m.contains k = true)
    (hGet : m.get? k' = some v') : (m.insert k v).get? k' = some v' := by
  rw [SortedMap.get?_insert, if_neg, hGet]
  rintro rfl
  exact hFree (SortedMap.contains_of_get?_eq_some hGet)

/-- An event that gives out what is not there yet keeps what is there. -/
theorem Gives.keeps (hGives : Gives p q e given) (hGiven : x ∈ given) (hFresh : ¬p.Has x) :
    Keeps p q e := by
  cases hGives with
  | nothing => cases hGiven
  | cluster entry hAfter =>
    obtain rfl := List.mem_singleton.1 hGiven
    rw [hAfter]
    exact ⟨get?_insert_of_free hFresh, id, id, .inl, id⟩
  | job record hAfter =>
    obtain rfl := List.mem_singleton.1 hGiven
    rw [hAfter]
    exact ⟨id, get?_insert_of_free hFresh, id, .inl, id⟩
  | run entry hAfter =>
    obtain rfl := List.mem_singleton.1 hGiven
    rw [hAfter]
    exact ⟨id, id, get?_insert_of_free hFresh, .inl, id⟩
  | notebook path object hNumber hFree hAfter =>
    rw [hAfter]
    refine ⟨id, id, id, fun {other found} hGet => ?_, id⟩
    -- Only a notebook can take the place of another, and only where it is meant to.
    by_cases hPath : other = path
    · rw [hPath] at hGet ⊢
      exact .inr (hFree (SortedMap.contains_of_get?_eq_some hGet))
    · refine .inl ((SortedMap.get?_insert ..).trans ?_)
      rw [if_neg hPath, hGet]
  | upload upload hAfter =>
    obtain rfl := List.mem_singleton.1 hGiven
    rw [hAfter]
    exact ⟨id, id, id, .inl, get?_insert_of_free hFresh⟩

/-! ### Histories -/

variable {history : List Event}

/-- What is given out in a history is numbered from the next number on. -/
theorem numbered_gathered (hPut : ∀ e ∈ history, e.putsRecord = false) :
    (p.after history).lastNumber = p.lastNumber + (gathered Event.given p history).length ∧
      ∀ i (hi : i < (gathered Event.given p history).length),
        (gathered Event.given p history)[i].Numbered (p.nextNumber + i) := by
  induction history generalizing p with
  | nil => exact ⟨rfl, fun i hi => absurd hi i.not_lt_zero⟩
  | cons e history ih =>
    obtain ⟨hLast, hHere⟩ := (gives_apply (p := p) (hPut e List.mem_cons_self)).numbered
    obtain ⟨hEnd, hLater⟩ :=
      ih (p := e.apply p) fun e' hMem => hPut e' (List.mem_cons_of_mem _ hMem)
    simp only [gathered, List.length_append, after_cons]
    refine ⟨by omega, fun i hi => ?_⟩
    -- An identifier is given out by the first event, or later, and is then numbered after those
    -- before.
    rw [List.getElem_append]
    split
    · exact hHere i _
    · next hAfter =>
      have hNumber : p.nextNumber + i = (e.apply p).nextNumber + (i - (e.given p).length) := by
        simp only [nextNumber]
        omega
      rw [hNumber]
      exact hLater _ _

/-- What is there after a history was there before it or is given out in it. -/
theorem has_after (hPut : ∀ e ∈ history, e.putsRecord = false) (hHas : (p.after history).Has x) :
    p.Has x ∨ x ∈ gathered Event.given p history := by
  induction history generalizing p with
  | nil => exact .inl hHas
  | cons e history ih =>
    obtain hThere | hGiven := ih (fun e' hMem => hPut e' (List.mem_cons_of_mem _ hMem)) hHas
    · exact ((gives_apply (hPut e List.mem_cons_self)).has hThere).imp_right
        (List.mem_append_left _)
    · exact .inr (List.mem_append_right _ hGiven)

/-- What exists has been given its identifier. -/
theorem mem_identifiers_of_has (hPut : ∀ e ∈ history, e.putsRecord = false)
    (hHas : (({} : Platform).after history).Has x) : x ∈ identifiers history := by
  refine (has_after hPut hHas).resolve_left fun hThere => ?_
  cases x with
  | notebook number =>
    obtain ⟨path, object, hGet, -⟩ := hThere
    cases hGet
  | _ => cases hThere

/-- The numbers behind the identifiers that are given out differ. -/
theorem numbers_nodup (hPut : ∀ e ∈ history, e.putsRecord = false)
    (hLimit : (identifiers history).length < numberLimit) :
    ((identifiers history).map Identifier.number).Nodup := by
  -- The number behind an identifier is its place in the list, as long as the numbers fit their
  -- type.
  have hNumbers i (hi : i < (identifiers history).length) :
      (identifiers history)[i].number = (i + 1 : Nat) := by
    have hNumbered := (numbered_gathered (p := {}) hPut).2 i hi
    rw [nextNumber, Nat.add_right_comm, Nat.zero_add] at hNumbered
    exact hNumbered.number_eq (Nat.lt_of_le_of_lt hi hLimit)
  rw [List.Nodup, List.pairwise_map, List.pairwise_iff_getElem]
  intro i j hi hj hLt hSame
  rw [hNumbers, hNumbers] at hSame
  omega

/-- The text of a cluster's identifier says its number. -/
theorem Identifier.number_eq_of_text {x y : Identifier} {text : String}
    (hFirst : x.clusterText? = some text) (hSecond : y.clusterText? = some text) :
    x.number = y.number := by
  cases x with
  | cluster id =>
    cases y with
    | cluster other => rw [number, number, Option.some.inj hFirst, Option.some.inj hSecond]
    | _ => cases hSecond
  | _ => cases hFirst

/-- The texts of clusters that are numbered differently differ. -/
theorem texts_nodup {given : List Identifier} (hNumbers : (given.map Identifier.number).Nodup) :
    (given.filterMap Identifier.clusterText?).Nodup :=
  (List.pairwise_map.1 hNumbers).filterMap _ fun _ _ hNe _ hFirst _ hSecond hSame =>
    hNe (Identifier.number_eq_of_text hFirst (hSecond.trans (congrArg some hSame.symm)))

/-- What is given out in a history has not been given out before. -/
theorem not_mem_of_gathered {first rest : List Event}
    (hNumbers : ((identifiers (first ++ rest)).map Identifier.number).Nodup)
    (hMem : x ∈ gathered Event.given (({} : Platform).after first) rest) :
    x ∉ identifiers first := by
  rw [identifiers, gathered_append, List.map_append] at hNumbers
  exact fun hEarlier =>
    List.disjoint_of_nodup_append hNumbers (List.mem_map_of_mem hEarlier) (List.mem_map_of_mem hMem)

/-! ### Calls on what has been deleted -/

/-- The call is only counted: it fails as not found, or because a failure is injected. -/
def FailsAsNotFound (p : Platform) (c : Call) : Prop :=
  ∃ cause : ApiError, cause.isNotFound = true ∧
    p.serve c = (.error ((p.failure? c.endpoint).getD cause), p.count c.endpoint)

theorem failsAsNotFound_of_perform {c : Call} {message : String}
    (hPerform : (p.count c.endpoint).perform c = .error (notFound message)) :
    p.FailsAsNotFound c := by
  refine ⟨notFound message, rfl, ?_⟩
  simp only [serve, hPerform]
  -- An injected failure comes before the call is looked at.
  cases p.failure? c.endpoint <;> rfl

/-- A call on a cluster that is not there. -/
theorem failsAsNotFound_cluster {c : Call} {id : ClusterId} (hOn : c.cluster? = some id)
    (hNone : ¬p.Has (.cluster id)) : p.FailsAsNotFound c := by
  have hGet : (p.count c.endpoint).clusters.get? id = none :=
    Option.not_isSome_iff_eq_none.1 hNone
  exact failsAsNotFound_of_perform (perform_of_missing hOn (by rw [findCluster, hGet]))

/-- A call on a job that is not there. -/
theorem failsAsNotFound_job {c : Call} {id : JobId} (hOn : c.job? = some id)
    (hNone : ¬p.Has (.job id)) : p.FailsAsNotFound c := by
  have hGet : (p.count c.endpoint).jobs.get? id = none := Option.not_isSome_iff_eq_none.1 hNone
  have hFind : (p.count c.endpoint).findJob id =
      .error (notFound ("Job " ++ id.text ++ " does not exist.")) := by rw [findJob, hGet]
  have hPerform : (p.count c.endpoint).perform c =
      .error (notFound ("Job " ++ id.text ++ " does not exist.")) := by
    cases c with
    | jobs call =>
      cases call with
      | get other =>
        cases hOn
        simp only [perform, performJobs, hFind]
        rfl
      | delete other =>
        cases hOn
        simp only [perform, performJobs, deleteJob, hFind]
        rfl
      | runNow request =>
        cases hOn
        simp only [perform, performJobs, startRun, hFind]
        rfl
      | _ => cases hOn
    | _ => cases hOn
  exact failsAsNotFound_of_perform hPerform

/-- A cluster that is deleted has been there and is not there any more. -/
theorem permanentDelete_answered {id : ClusterId} {u : Unit}
    (hServe : p.serve (.clusters (.permanentDelete id)) = (.ok u, q)) :
    p.Has (.cluster id) ∧ ¬q.Has (.cluster id) := by
  obtain ⟨entry, hFind, hAfter⟩ := bind_eq_ok (serve_eq_ok hServe)
  cases hAfter
  exact ⟨SortedMap.contains_of_get?_eq_some (findCluster_eq_ok_iff.1 hFind),
    by simp [Has, SortedMap.contains]⟩

/-- A job that is deleted has been there and is not there any more. -/
theorem deleteJob_answered {id : JobId} {u : Unit}
    (hServe : p.serve (.jobs (.delete id)) = (.ok u, q)) : p.Has (.job id) ∧ ¬q.Has (.job id) := by
  obtain ⟨record, hFind, hAfter⟩ := bind_eq_ok (serve_eq_ok hServe)
  cases hAfter
  exact ⟨SortedMap.contains_of_get?_eq_some (findJob_eq_ok_iff.1 hFind),
    by simp [Has, SortedMap.contains]⟩

/-! ### The promise -/

/-- The identifiers that are given out in a history are fresh, and stay dead once they are. -/
structure FreshIdentifiers (history : List Event) : Prop where
  /-- No number is behind two identifiers, whatever they are given to. -/
  numbers : ((identifiers history).map Identifier.number).Nodup
  /-- No text is given to two clusters. -/
  texts : ((identifiers history).filterMap Identifier.clusterText?).Nodup
  /-- What is given out is not there yet, and takes the place of nothing. -/
  created : ∀ first e rest x, history = first ++ e :: rest →
    let p := ({} : Platform).after first
    x ∈ e.given p → ¬p.Has x ∧ Keeps p (e.apply p) e
  /-- Once a cluster has been deleted, calls on it fail. -/
  clusterGone : ∀ first between rest id c,
    history = first ++ .call (.clusters (.permanentDelete id)) :: (between ++ rest) →
    ((({} : Platform).after first).serve (.clusters (.permanentDelete id))).1 = .ok () →
    c.cluster? = some id →
      (({} : Platform).after
        (first ++ .call (.clusters (.permanentDelete id)) :: between)).FailsAsNotFound c
  /-- Once a job has been deleted, calls on it fail. -/
  jobGone : ∀ first between rest id c,
    history = first ++ .call (.jobs (.delete id)) :: (between ++ rest) →
    ((({} : Platform).after first).serve (.jobs (.delete id))).1 = .ok () →
    c.job? = some id →
      (({} : Platform).after
        (first ++ .call (.jobs (.delete id)) :: between)).FailsAsNotFound c

/-- What is there before an event of a history and not after it is not there later. -/
theorem not_has_after_deletion {first between rest : List Event} {e : Event}
    (hPut : ∀ e' ∈ first ++ e :: (between ++ rest), e'.putsRecord = false)
    (hNumbers : ((identifiers (first ++ e :: (between ++ rest))).map Identifier.number).Nodup)
    (hDeleted : (({} : Platform).after first).Has x ∧
      ¬(e.apply (({} : Platform).after first)).Has x) :
    ¬(({} : Platform).after (first ++ e :: between)).Has x := by
  -- What is deleted has existed, so it has been given out before.
  have hFirst : x ∈ identifiers first :=
    mem_identifiers_of_has (fun e' hMem => hPut e' (List.mem_append_left _ hMem)) hDeleted.1
  rw [after_append, after_cons]
  intro hHas
  obtain hThere | hMem := has_after (fun e' hMem => hPut e' (by simp [hMem])) hHas
  · exact hDeleted.2 hThere
  · refine not_mem_of_gathered hNumbers (List.mem_append_right _ ?_) hFirst
    rw [gathered_append]
    exact List.mem_append_left _ hMem

/-- However the platform is used, its identifiers are fresh and stay dead, as long as no record is
put in place under an identifier of its own and the numbers fit their type. -/
theorem identifiers_stay_fresh (hPut : ∀ e ∈ history, e.putsRecord = false)
    (hLimit : (identifiers history).length < numberLimit) : FreshIdentifiers history := by
  have hNumbers := numbers_nodup hPut hLimit
  refine ⟨hNumbers, texts_nodup hNumbers, ?_, ?_, ?_⟩
  · rintro first e rest x rfl p hGiven
    have hBefore : ∀ e ∈ first, e.putsRecord = false := fun e hMem =>
      hPut e (List.mem_append_left _ hMem)
    -- If it were there, it would have been given out before, and now a second time.
    have hFresh : ¬p.Has x := fun hThere =>
      not_mem_of_gathered hNumbers (List.mem_append_left _ hGiven)
        (mem_identifiers_of_has hBefore hThere)
    exact ⟨hFresh, (gives_apply (hPut e (by simp))).keeps hGiven hFresh⟩
  · rintro first between rest id c rfl hAnswer hOn
    exact failsAsNotFound_cluster hOn
      (not_has_after_deletion hPut hNumbers (permanentDelete_answered (Prod.ext hAnswer rfl)))
  · rintro first between rest id c rfl hAnswer hOn
    exact failsAsNotFound_job hOn
      (not_has_after_deletion hPut hNumbers (deleteJob_answered (Prod.ext hAnswer rfl)))

/-- A cluster, a job and a run of it.  The cluster and the job are deleted, an upload is opened and
another cluster is added. -/
def withDeletions : List Event := [
  .addRunningCluster "main" 2,
  .putJob {},
  .call (.jobs (.runNow { jobId := ⟨2⟩ })),
  .call (.clusters (.permanentDelete firstCluster)),
  .call (.jobs (.delete ⟨2⟩)),
  .call (.files (.create "/a" false)),
  .addRunningCluster "main" 1]

/-- The second cluster does not bring the first one back, nor does anything bring back the job. -/
theorem identifiers_stay_fresh_withDeletions :
    (∀ e ∈ withDeletions, e.putsRecord = false) ∧
      (identifiers withDeletions).length < numberLimit ∧
      (identifiers withDeletions).map Identifier.number = [1, 2, 3, 4, 5] ∧
      (({} : Platform).after withDeletions).FailsAsNotFound (.clusters (.restart firstCluster)) ∧
      (({} : Platform).after withDeletions).FailsAsNotFound (.jobs (.runNow { jobId := ⟨2⟩ })) := by
  have hPut : ∀ e ∈ withDeletions, e.putsRecord = false := by decide
  have hLimit : (identifiers withDeletions).length < numberLimit := by decide
  have hFresh := identifiers_stay_fresh hPut hLimit
  exact ⟨hPut, hLimit, by decide,
    hFresh.clusterGone (withDeletions.take 3) (withDeletions.drop 4) [] firstCluster _ rfl rfl rfl,
    hFresh.jobGone (withDeletions.take 4) (withDeletions.drop 5) [] ⟨2⟩ _ rfl rfl rfl⟩

end Platform

end SparkFleet
