import SparkFleet.Proofs.FileStore.OpenUploads

/-!
# Files that are replaced

Whether a file is in the way is looked at when an upload is opened, and the file is written when it
is closed.  `FileStep` lists what one event can do to the file at a path, and `file_step` says that
each event does one of these.

The main statement `file_stays_unless_contended` is about histories in which no file is deleted or
moved and every upload is opened without leave to replace one.  No file is lost in them, and what is
in a file stays, unless an upload to its path was open already when the file was there and is closed
later.  Such an upload does replace it (`file_replaced_by_later_close`).
-/

namespace SparkFleet.Platform

variable {p q : Platform} {path : String} {e : Event} {before after : Option ByteArray}

/-! ### One event -/

/-- What an event can do to the file at a path: what is there before and after it. -/
inductive FileStep (p : Platform) (path : String) :
    Event → Option ByteArray → Option ByteArray → Prop where
  | same (e : Event) (before : Option ByteArray) : FileStep p path e before before
  /-- An upload to the path is closed. -/
  | published (handle : Int64) (upload : Upload) (before : Option ByteArray)
      (hOpen : p.uploads.get? handle = some upload) (hPath : upload.path = path) :
      FileStep p path (.call (.files (.close handle))) before (some upload.content)
  /-- The file is deleted, or a directory that it is in. -/
  | deleted (target : String) (recursive : Bool) (before : Option ByteArray) :
      FileStep p path (.call (.files (.delete target recursive))) before none
  | movedAway (destination : String) (before : Option ByteArray) :
      FileStep p path (.call (.files (.move path destination))) before none
  | movedHere (source : String) (content : ByteArray) :
      FileStep p path (.call (.files (.move source path))) none (some content)
  /-- A file is put in place from outside. -/
  | added (content : ByteArray) (before : Option ByteArray) :
      FileStep p path (.addFile path content) before (some content)

theorem FileStep.of_eq (hFiles : q.files = p.files) :
    FileStep p path e (p.files.get? path) (q.files.get? path) := by
  rw [hFiles]
  exact .same e _

theorem fileStep_close {handle : Int64} {u : Unit} (h : p.closeUpload handle = .ok (u, q)) :
    FileStep p path (.call (.files (.close handle))) (p.files.get? path) (q.files.get? path) := by
  obtain ⟨upload, hOpen, rfl⟩ := closeUpload_eq_ok h
  simp only [writeFile, SortedMap.get?_insert]
  split
  · next hPath => exact .published handle upload _ hOpen hPath.symm
  · exact .same _ _

theorem fileStep_delete {target : String} {recursive : Bool} {u : Unit}
    (h : p.deleteFile target recursive = .ok (u, q)) :
    FileStep p path (.call (.files (.delete target recursive))) (p.files.get? path)
      (q.files.get? path) := by
  simp only [deleteFile] at h
  split at h
  · cases h
    simp only [SortedMap.get?_erase]
    split
    · exact .deleted target recursive _
    · exact .same _ _
  · split at h
    · cases h
    · cases h
      simp only [SortedMap.get?_filter]
      cases p.files.get? path with
      | none => exact .same _ _
      | some content =>
        rw [Option.filter_some]
        split
        · exact .same _ _
        · exact .deleted target recursive _

theorem fileStep_move {source destination : String} {u : Unit}
    (h : p.moveFile source destination = .ok (u, q)) :
    FileStep p path (.call (.files (.move source destination))) (p.files.get? path)
      (q.files.get? path) := by
  simp only [moveFile] at h
  split at h
  · cases h
  · next hFree =>
    obtain ⟨content, -, h⟩ := bind_eq_ok h
    cases h
    simp only [writeFile, SortedMap.get?_insert, SortedMap.get?_erase]
    split
    · -- The destination is tested to be free before anything is moved.
      next hPath =>
      subst hPath
      have hNone : p.files.get? path = none := by
        simpa [SortedMap.contains] using hFree
      rw [hNone]
      exact .movedHere source content
    · split
      · next hPath =>
        subst hPath
        exact .movedAway destination _
      · exact .same _ _

theorem fileStep_files {c : FileCall} {a : c.Answer} (h : p.performFiles c = .ok (a, q)) :
    FileStep p path (.call (.files c)) (p.files.get? path) (q.files.get? path) := by
  cases c with
  | create target overwrite =>
    obtain ⟨-, rfl⟩ := openUpload_eq_ok h
    exact .of_eq rfl
  | addBlock handle block =>
    obtain ⟨upload, -, rfl⟩ := appendBlock_eq_ok h
    exact .of_eq rfl
  | close handle => exact fileStep_close h
  | read target offset length =>
    obtain ⟨content, -, h⟩ := map_eq_ok h
    cases h
    exact .of_eq rfl
  | getStatus target | list target =>
    obtain ⟨found, -, h⟩ := map_eq_ok h
    cases h
    exact .of_eq rfl
  | delete target recursive => exact fileStep_delete h
  | move source destination => exact fileStep_move h
  | mkdirs target =>
    cases h
    exact .of_eq rfl

/-- Counting calls does not change what an event can do. -/
theorem FileStep.of_count {endpoint : String}
    (h : FileStep (p.count endpoint) path e before after) : FileStep p path e before after := by
  cases h with
  | same => exact .same e _
  | published handle upload _ hOpen hPath => exact .published handle upload _ hOpen hPath
  | deleted target recursive => exact .deleted target recursive _
  | movedAway destination => exact .movedAway destination _
  | movedHere source content => exact .movedHere source content
  | added content => exact .added content _

/-- What an event can do to the file at a path. -/
theorem file_step (p : Platform) (e : Event) (path : String) :
    FileStep p path e (p.files.get? path) ((e.apply p).files.get? path) := by
  cases e with
  | call c =>
    refine serve_induction (motive := fun q =>
      FileStep p path (.call c) (p.files.get? path) (q.files.get? path)) (.of_eq rfl)
      fun a q h => ?_
    cases c with
    | files call => exact .of_count (fileStep_files h)
    | clusters | jobs | libraries | workspace =>
      exact .of_eq (perform_frame_of_not_files (p := p.count _) h (by simp)).1
  | addFile target content =>
    simp only [Event.apply, addFile, writeFile, SortedMap.get?_insert]
    split
    · next hPath =>
      subst hPath
      exact .added content _
    · exact .same _ _
  | settleCluster cluster =>
    refine .of_eq ?_
    simp only [Event.apply]
    rw [settleCluster_frame]
  | failCluster cluster =>
    refine .of_eq ?_
    simp only [Event.apply]
    rw [failCluster_frame]
  | settleReads | injectFailure | clearFailure | offerVersions | offerNodeTypes | offerZones
  | putCluster | addRunningCluster | putJob | putRun | setRunOutput | finishRun | setLibraryStatus
  | addNotebook => exact .of_eq rfl

/-! ### Histories that spare files -/

/-- The event deletes no file, moves none and has no leave to replace one. -/
def Event.SparesFiles : Event → Prop
  | .call (.files (.create _ overwrite)) => overwrite = false
  | .call (.files (.delete _ _)) | .call (.files (.move _ _)) | .addFile _ _ => False
  | _ => True

/-- An upload to the path is open through a handle. -/
def OpenTo (p : Platform) (path : String) (handle : Int64) : Prop :=
  ∃ upload, p.uploads.get? handle = some upload ∧ upload.path = path

variable {content : ByteArray} {handle : Int64}

/-- What is in a file is changed only by the close of an upload to its path. -/
theorem FileStep.spared (hStep : FileStep p path e (some content) after) (hSpares : e.SparesFiles) :
    ∃ now, after = some now ∧
      (now = content ∨ ∃ handle, p.OpenTo path handle ∧ e = .call (.files (.close handle))) := by
  cases hStep with
  | same => exact ⟨content, rfl, .inl rfl⟩
  | published handle upload _ hOpen hPath =>
    exact ⟨upload.content, rfl, .inr ⟨handle, ⟨upload, hOpen, hPath⟩, rfl⟩⟩
  | deleted | movedAway | added =>
    -- These are the events that are ruled out; a file that is moved here would need a free path.
    exact hSpares.elim

/-- Where a file is, no upload is opened that may not replace it. -/
theorem create_refused (hFile : p.files.get? path = some content) (handle : Int64) :
    (p.serve (.files (.create path false))).1 ≠ .ok handle := by
  have hTaken : ¬p.Opens path false := by
    intro hOpens
    refine hOpens.free ⟨?_, rfl⟩
    rw [SortedMap.contains, hFile, Option.isSome_some]
  rw [serve_create_of_not_opens hTaken]
  intro hOk
  cases hOk

/-- While a file is at a path, no further upload to the path is opened. -/
theorem OpenTo.of_apply (hFile : p.files.get? path = some content) (hSpares : e.SparesFiles)
    (hOpen : (e.apply p).OpenTo path handle) : p.OpenTo path handle := by
  obtain ⟨upload, hGet, hPath⟩ := hOpen
  have hStep := uploadStep_apply p e handle
  rw [hGet] at hStep
  generalize hBefore : p.uploads.get? handle = before at hStep
  cases hStep with
  | same => exact ⟨upload, hBefore, hPath⟩
  | opened target overwrite _ hAnswer =>
    -- A handle that opens now would have been given although the file is there.
    obtain rfl : target = path := hPath
    obtain rfl : overwrite = false := hSpares
    exact absurd hAnswer (create_refused hFile handle)
  | sent earlier block => exact ⟨earlier, hBefore, hPath⟩

/-- No file is lost, and what is in it is changed only by the close of an upload that was open to
its path at the beginning. -/
theorem file_spared (hFile : p.files.get? path = some content) {history : List Event}
    (hSpares : ∀ e ∈ history, e.SparesFiles) :
    ∃ now, (p.after history).files.get? path = some now ∧
      (now = content ∨
        ∃ handle, p.OpenTo path handle ∧ .call (.files (.close handle)) ∈ history) := by
  induction history generalizing p content with
  | nil => exact ⟨content, hFile, .inl rfl⟩
  | cons e history ih =>
    have hFirst : e.SparesFiles := hSpares e List.mem_cons_self
    have hStep := file_step p e path
    rw [hFile] at hStep
    obtain ⟨next, hNext, hSame⟩ := hStep.spared hFirst
    obtain ⟨now, hNow, hLater⟩ := ih hNext fun e' hMem => hSpares e' (List.mem_cons_of_mem e hMem)
    refine ⟨now, hNow, ?_⟩
    rcases hLater with rfl | ⟨handle, hOpen, hMem⟩
    · -- All that happens to the content is what the first event does to it.
      rcases hSame with rfl | ⟨handle, hOpen, rfl⟩
      · exact .inl rfl
      · exact .inr ⟨handle, hOpen, List.mem_cons_self⟩
    · exact .inr ⟨handle, hOpen.of_apply hFile hFirst, List.mem_cons_of_mem e hMem⟩

/-! ### Uploads that replace a file -/

/-- Some block makes of what has been sent something else than what is in the file. -/
theorem exists_append_ne (sent content : ByteArray) : ∃ block, sent ++ block ≠ content := by
  by_cases hSame : sent = content
  · refine ⟨⟨#[0]⟩, fun hEq => ?_⟩
    have hSize := congrArg ByteArray.size (hEq.trans hSame.symm)
    have hOne : (⟨#[0]⟩ : ByteArray).size = 1 := rfl
    rw [ByteArray.size_append] at hSize
    omega
  · refine ⟨.empty, ?_⟩
    rwa [ByteArray.append_empty]

/-- A block that is sent through an open handle and the close of the handle leave a file. -/
theorem files_after_close {upload : Upload} (hOpen : p.uploads.get? handle = some upload)
    (hAppends : p.failure? "dbfs/add-block" = none) (hCloses : p.failure? "dbfs/close" = none)
    (block : ByteArray) :
    (p.after [.call (.files (.addBlock handle block)), .call (.files (.close handle))]).files =
      p.files.insert upload.path (upload.content ++ block) := by
  let sent : Upload := { upload with content := upload.content ++ block }
  let appended : Platform :=
    { p.count "dbfs/add-block" with uploads := p.uploads.insert handle sent }
  have hAppend : p.serve (.files (.addBlock handle block)) = (.ok (), appended) :=
    serve_of_ok hAppends (FileStore.appendBlock_of_open (p := p.count "dbfs/add-block") hOpen block)
  have hOpen' : appended.uploads.get? handle = some sent :=
    (SortedMap.get?_insert ..).trans (if_pos rfl)
  have hClose := serve_of_ok (p := appended) (c := .files (.close handle)) hCloses
    (FileStore.closeUpload_of_open (p := appended.count "dbfs/close") hOpen')
  simp only [after_cons, after_nil, Event.apply]
  rw [hAppend, hClose]
  rfl

/-- In histories in which no file is deleted or moved and every upload is opened without leave to
replace one, no file is lost, and what is in a file stays unless an upload to its path is closed
that has been open since before.  Such an upload can replace it, unless its calls are refused. -/
theorem file_stays_unless_contended (hFile : p.files.get? path = some content) :
    (∀ history : List Event, (∀ e ∈ history, e.SparesFiles) →
      ∃ now, (p.after history).files.get? path = some now ∧
        (now = content ∨
          ∃ handle, p.OpenTo path handle ∧ .call (.files (.close handle)) ∈ history)) ∧
      ∀ handle, p.OpenTo path handle →
        p.failure? "dbfs/add-block" = none → p.failure? "dbfs/close" = none →
          ∃ block, (p.after [.call (.files (.addBlock handle block)),
            .call (.files (.close handle))]).files.get? path ≠ some content := by
  refine ⟨fun history hSpares => file_spared hFile hSpares, ?_⟩
  rintro handle ⟨upload, hOpen, rfl⟩ hAppends hCloses
  obtain ⟨block, hOther⟩ := exists_append_ne upload.content content
  refine ⟨block, ?_⟩
  rw [files_after_close hOpen hAppends hCloses, SortedMap.get?_insert, if_pos rfl]
  exact fun hSame => hOther (Option.some.inj hSame)

/-- Two uploads to one path, neither of which may replace a file: both are opened before the first
is closed. -/
def overlapping : List Event := [
  .call (.files (.create "/a" false)),
  .call (.files (.create "/a" false)),
  .call (.files (.addBlock 1 ⟨#[1]⟩)),
  .call (.files (.close 1)),
  .call (.files (.addBlock 2 ⟨#[2]⟩)),
  .call (.files (.close 2))]

/-- A third upload, which comes when the file of the first is there. -/
def tooLate : List Event := [
  .call (.files (.create "/a" false)),
  .call (.files (.addBlock 3 ⟨#[3]⟩)),
  .call (.files (.close 3))]

/-- The third upload does not replace the file of the first, and the second can. -/
theorem file_stays_unless_contended_tooLate :
    let p := ({} : Platform).after (overlapping.take 4)
    p.files.get? "/a" = some ⟨#[1]⟩ ∧ (p.after tooLate).files.get? "/a" = some ⟨#[1]⟩ ∧
      ∃ block, (p.after [.call (.files (.addBlock 2 block)),
        .call (.files (.close 2))]).files.get? "/a" ≠ some ⟨#[1]⟩ := by
  have hFile : (({} : Platform).after (overlapping.take 4)).files.get? "/a" = some ⟨#[1]⟩ := rfl
  obtain ⟨hStays, hReplaced⟩ := file_stays_unless_contended hFile
  refine ⟨hFile, ?_, hReplaced 2 ⟨⟨"/a", .empty⟩, rfl, rfl⟩ rfl rfl⟩
  obtain ⟨now, hNow, rfl | ⟨handle, ⟨upload, hOpen, -⟩, hMem⟩⟩ :=
    hStays tooLate (by simp [tooLate, Event.SparesFiles])
  · exact hNow
  · -- The only handle that is closed is not open at the beginning.
    obtain rfl : handle = 3 := by simpa [tooLate] using hMem
    cases hOpen

/-- The second of them replaces the file of the first. -/
theorem file_replaced_by_later_close :
    (∀ e ∈ overlapping, e.SparesFiles) ∧
      (({} : Platform).after (overlapping.take 4)).files.get? "/a" = some ⟨#[1]⟩ ∧
      (({} : Platform).after overlapping).files.get? "/a" = some ⟨#[2]⟩ := by
  refine ⟨?_, rfl, rfl⟩
  simp [overlapping, Event.SparesFiles]

end SparkFleet.Platform
