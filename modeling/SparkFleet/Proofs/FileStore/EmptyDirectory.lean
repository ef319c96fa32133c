import SparkFleet.Proofs.FileStore.PlainMap
import SparkFleet.Proofs.Workspace.Subtree

/-!
# The deletion of directories in the file store

Files and directories of the file store are kept apart, and what is placed in a directory is said by
the names of the paths.  As long as the file store is used through canonical paths, everything in it
is placed in a directory that is there, unless that is the root (`HasFileTree.apply`, one case for
each operation).  So a listing is empty exactly if nothing is under the directory
(`HasFileTree.listFiles_eq_nil_iff`).

The test before a deletion that is not recursive looks for files alone, and by the beginning of the
path.  The main statement `plain_file_delete` says what comes of it: a directory with a file under
it is spared, one with nothing but directories under it goes with all of them, and the root goes
alone in any case.
-/

namespace SparkFleet

namespace Platform

variable {p q : Platform} {e : Event} {dir path : String} {history : List Event}

/-! ### Operations of the file store -/

/-- The event is an operation of the file store on canonical paths. -/
def Event.OnFileStore : Event → Prop
  | .call (.files (.create path _)) | .call (.files (.mkdirs path))
  | .call (.files (.delete path _)) => Path.IsCanonical path
  | .call (.files (.move source destination)) =>
    Path.IsCanonical source ∧ Path.IsCanonical destination
  | .call (.files (.addBlock _ _)) | .call (.files (.close _)) | .call (.files (.read _ _ _))
  | .call (.files (.getStatus _)) | .call (.files (.list _)) => True
  | .addFile path _ => Path.IsCanonical path
  | _ => False

/-- There is a directory or a file at the path. -/
def HasEntry (p : Platform) (path : String) : Prop :=
  p.dirs.contains path = true ∨ p.files.contains path = true

/-! ### The tree of the file store -/

/-- Calls are served, uploads are to canonical paths, and with its root put back the file store is a
tree. -/
structure HasFileTree (p : Platform) : Prop where
  serving : p.Serving
  uploads : p.uploads.All fun _ upload => Path.IsCanonical upload.path
  tree : IsTree p.withRoot.dirs p.files

theorem HasFileTree.start : HasFileTree {} := ⟨fun _ => rfl, .empty, .start⟩

theorem HasFileTree.count (hTree : p.HasFileTree) (endpoint : String) :
    (p.count endpoint).HasFileTree :=
  ⟨hTree.serving, hTree.uploads, hTree.tree⟩

theorem HasFileTree.withUploads (hTree : p.HasFileTree) {uploads : SortedMap Int64 Upload}
    (hUploads : uploads.All fun _ upload => Path.IsCanonical upload.path) :
    HasFileTree { p with uploads } :=
  ⟨hTree.serving, hUploads, hTree.tree⟩

/-- A file is written in a directory that is made for it. -/
theorem HasFileTree.writeFile (hTree : p.HasFileTree) (hPath : Path.IsCanonical path)
    (content : ByteArray) : (p.writeFile path content).HasFileTree := by
  have hParent := contains_withRoot_iff.2 (.inr (contains_makeDirs (p := p) hPath.parent))
  have hMade := hTree.tree.withRoot_makeDirs hPath.parent
  have hFailures := congrArg failures (p.writeFile_frame path content)
  have hUploads := congrArg Platform.uploads (p.writeFile_frame path content)
  refine ⟨hTree.serving.of_failures hFailures, ?_, ?_⟩
  · rw [hUploads]
    exact hTree.uploads
  · simp only [withRoot, Platform.writeFile]
    exact hMade.insert hPath hParent content

theorem HasFileTree.eraseFile (hTree : p.HasFileTree) (path : String) :
    HasFileTree { p with files := p.files.erase path } :=
  ⟨hTree.serving, hTree.uploads, hTree.tree.erase path⟩

theorem HasFileTree.deleteFile (hTree : p.HasFileTree) (hPath : Path.IsCanonical path)
    {recursive : Bool} {u : Unit} (h : p.deleteFile path recursive = .ok (u, q)) :
    q.HasFileTree := by
  simp only [Platform.deleteFile, hPath.directory_eq] at h
  split at h
  · cases h
    exact hTree.eraseFile path
  · split at h
    · cases h
    · cases h
      exact ⟨hTree.serving, hTree.uploads, hTree.tree.withRoot_removeDirs hPath⟩

theorem HasFileTree.moveFile (hTree : p.HasFileTree) {source destination : String}
    (hPath : Path.IsCanonical destination) {u : Unit}
    (h : p.moveFile source destination = .ok (u, q)) : q.HasFileTree := by
  simp only [Platform.moveFile] at h
  split at h
  · cases h
  · obtain ⟨content, -, h⟩ := bind_eq_ok h
    cases h
    exact (hTree.eraseFile source).writeFile hPath content

/-- A call about files on canonical paths keeps the tree. -/
theorem HasFileTree.performFiles (hTree : p.HasFileTree) {c : FileCall} {a : c.Answer}
    (hCall : (Event.call (.files c)).OnFileStore) (h : p.performFiles c = .ok (a, q)) :
    q.HasFileTree := by
  cases c with
  | create target overwrite =>
    obtain ⟨-, rfl⟩ := openUpload_eq_ok h
    exact ⟨hTree.serving, hTree.uploads.insert hCall, hTree.tree⟩
  | addBlock handle block =>
    obtain ⟨upload, hOpen, rfl⟩ := appendBlock_eq_ok h
    have hPath : Path.IsCanonical upload.path := hTree.uploads hOpen
    exact hTree.withUploads (hTree.uploads.insert hPath)
  | close handle =>
    -- The path was a canonical one when the upload was opened, and the upload has kept it.
    obtain ⟨upload, hOpen, rfl⟩ := closeUpload_eq_ok h
    have hPath : Path.IsCanonical upload.path := hTree.uploads hOpen
    have hWritten := hTree.writeFile hPath upload.content
    exact hWritten.withUploads (hTree.uploads.erase handle)
  | delete target recursive => exact hTree.deleteFile hCall h
  | move source destination => exact hTree.moveFile hCall.2 h
  | mkdirs target =>
    cases h
    exact ⟨hTree.serving, hTree.uploads, hTree.tree.withRoot_makeDirs hCall⟩
  | read target offset length | getStatus target | list target =>
    obtain ⟨found, -, h⟩ := map_eq_ok h
    cases h
    exact hTree

/-- Every operation of the file store keeps the tree. -/
theorem HasFileTree.apply (hTree : p.HasFileTree) (hEvent : e.OnFileStore) :
    (e.apply p).HasFileTree := by
  cases e with
  | addFile path content => exact hTree.writeFile hEvent content
  | call c =>
    refine serve_induction (motive := HasFileTree) (hTree.count _) fun a q h => ?_
    cases c with
    | files call => exact (hTree.count _).performFiles hEvent h
    | clusters | jobs | libraries | workspace => exact hEvent.elim
  | _ => exact hEvent.elim

/-- After every history of operations of the file store, it is a tree up to its root. -/
theorem hasFileTree_after (hHistory : ∀ e ∈ history, e.OnFileStore) :
    (({} : Platform).after history).HasFileTree := by
  induction history using List.reverseRecOn with
  | nil => exact .start
  | append_singleton history e ih =>
    rw [after_append]
    exact (ih fun e' hMem => hHistory e' (by simp [hMem])).apply (hHistory e (by simp))

/-! ### What is under a directory -/

section Entries

variable (hTree : p.HasFileTree)

include hTree

theorem HasFileTree.placed (hEntry : p.HasEntry path) :
    Path.IsCanonical path ∧
      (Path.parent path ≠ Path.root → p.dirs.contains (Path.parent path) = true) := by
  have hPlaced : Path.IsCanonical path ∧ p.withRoot.dirs.contains (Path.parent path) = true := by
    obtain hDir | hFile := hEntry
    · exact hTree.tree.dirPlaced _ (contains_withRoot_iff.2 (.inr hDir))
    · exact hTree.tree.objectPlaced _ hFile
  exact ⟨hPlaced.1, (contains_withRoot_iff.1 hPlaced.2).resolve_left⟩

/-- What is under a directory is reached through something that is in it. -/
theorem HasFileTree.exists_in_of_isUnder (hDir : Path.IsCanonical dir) (hEntry : p.HasEntry path)
    (hUnder : Path.IsUnder path dir) :
    ∃ entry, p.HasEntry entry ∧ entry ≠ dir ∧ Path.parent entry = dir := by
  have hPath := (hTree.placed hEntry).1
  induction hPath using Path.IsCanonical.induction with
  | root => exact absurd hUnder Path.not_isUnder_root
  | entry path hPath hRoot ih =>
    obtain hIn | hAbove := ((hPath.isUnder_iff_parent hDir).1 hUnder).2
    · refine ⟨path, hEntry, ?_, hIn⟩
      rintro rfl
      exact hUnder.2 rfl
    · -- The parent is under the directory as well, so it is a directory that is there, and nearer.
      have hNotRoot : Path.parent path ≠ Path.root := by
        intro hSame
        exact Path.not_isUnder_root (hSame ▸ hAbove)
      exact ih (.inl ((hTree.placed hEntry).2 hNotRoot)) hAbove

/-- A listing shows the directories and the files whose parent the directory is. -/
theorem HasFileTree.listFiles_eq_nil_iff (hThere : p.dirs.contains dir = true)
    (hFree : p.files.contains dir = false) {records : List FileRecord}
    (hAnswer : p.listFiles dir = .ok records) :
    records = [] ↔ ∀ entry, p.HasEntry entry → ¬Path.IsUnder entry dir := by
  have hDir := (hTree.placed (.inl hThere)).1
  have hNil : records = [] ↔ ∀ entry, p.HasEntry entry → entry ≠ dir → Path.parent entry ≠ dir := by
    simp only [listFiles, hDir.directory_eq, hThere, if_true] at hAnswer
    rw [← Except.ok.inj hAnswer, List.append_eq_nil_iff, List.map_eq_nil_iff, List.map_eq_nil_iff,
      subdirs, List.filter_eq_nil_iff, List.filter_eq_nil_iff]
    constructor
    · rintro ⟨hDirs, hFiles⟩ entry (hEntry | hEntry) hOther hParent
      · exact hDirs entry (SortedMap.mem_keys_iff.2 hEntry) (decide_eq_true ⟨hOther, hParent⟩)
      · obtain ⟨content, hGet⟩ := SortedMap.contains_iff_exists.1 hEntry
        exact hFiles _ ((SortedMap.get?_eq_some_iff _).1 hGet) (decide_eq_true hParent)
    · intro hNone
      refine ⟨fun d hKey hIn => ?_, fun file hFile hIn => ?_⟩
      · obtain ⟨hOther, hParent⟩ := of_decide_eq_true hIn
        exact hNone d (.inl (SortedMap.mem_keys_iff.1 hKey)) hOther hParent
      · have hEntry := SortedMap.contains_of_get?_eq_some ((SortedMap.get?_eq_some_iff _).2 hFile)
        refine hNone file.1 (.inr hEntry) ?_ (of_decide_eq_true hIn)
        intro hSame
        exact Bool.false_ne_true (hFree.symm.trans (hSame ▸ hEntry))
  -- A listing looks one step down only, but nothing lies deeper without something in between.
  rw [hNil]
  constructor
  · intro hNone entry hEntry hUnder
    obtain ⟨first, hFirst, hOther, hParent⟩ := hTree.exists_in_of_isUnder hDir hEntry hUnder
    exact hNone first hFirst hOther hParent
  · intro hNone entry hEntry hOther hParent
    have hPath := (hTree.placed hEntry).1
    refine hNone entry hEntry ((hPath.isUnder_iff_parent hDir).2 ⟨?_, .inl hParent⟩)
    -- The root is its own parent, and is not the directory.
    rintro rfl
    exact hOther hParent

/-! ### Deletion -/

/-- The test before a deletion finds the files under a directory other than the root. -/
theorem HasFileTree.any_file_below_iff (hDir : Path.IsCanonical dir) :
    p.files.any (fun file _ => Path.isBelow file dir) = true ↔
      dir ≠ Path.root ∧ ∃ file, p.files.contains file = true ∧ Path.IsUnder file dir := by
  rw [SortedMap.any_key_iff]
  by_cases hRoot : dir = Path.root
  · -- Of the root the test finds nothing, because no text begins with two slashes.
    subst hRoot
    refine iff_of_false ?_ fun h => h.1 rfl
    rintro ⟨file, hFile, hBelow⟩
    exact Bool.false_ne_true ((hTree.placed (.inr hFile)).1.not_below_root.symm.trans hBelow)
  · rw [and_iff_right hRoot]
    exact exists_congr fun file => and_congr_right fun hFile =>
      (hTree.placed (.inr hFile)).1.isBelow_iff_isUnder hDir hRoot

/-- The directories that are left of those under a directory: the root goes alone. -/
theorem HasFileTree.contains_removeDirs_iff_isUnder (hDir : Path.IsCanonical dir) (d : String) :
    (p.removeDirs dir).dirs.contains d = true ↔
      p.dirs.contains d = true ∧ d ≠ dir ∧ (dir = Path.root ∨ ¬Path.IsUnder d dir) := by
  rw [contains_removeDirs_iff]
  refine and_congr_right fun hThere => and_comm.trans (and_congr_right' ?_)
  have hPath := (hTree.placed (.inl hThere)).1
  by_cases hRoot : dir = Path.root
  · subst hRoot
    exact iff_of_true hPath.not_below_root (.inl rfl)
  · rw [or_iff_right hRoot, ← hPath.isBelow_iff_isUnder hDir hRoot, Bool.not_eq_true]

open Classical in
/-- A directory with a file under it is spared; otherwise directories go, and no file. -/
theorem HasFileTree.deleteFile_plain (hThere : p.dirs.contains dir = true)
    (hFree : p.files.contains dir = false) :
    p.deleteFile dir false =
      if dir ≠ Path.root ∧ ∃ file, p.files.contains file = true ∧ Path.IsUnder file dir then
        .error (directoryNotEmpty dir)
      else
        .ok ((), { p with dirs := (p.removeDirs dir).dirs }) := by
  have hDir := (hTree.placed (.inl hThere)).1
  have hAny := hTree.any_file_below_iff hDir
  simp only [Platform.deleteFile, hDir.directory_eq, hFree, Bool.not_false, Bool.true_and, hAny]
  rw [if_neg Bool.false_ne_true]
  split
  · rfl
  · next hNone =>
    have hBelow := SortedMap.any_key_eq_false_iff.1 (Bool.eq_false_iff.2 (mt hAny.1 hNone))
    -- The test has found no file below, so taking all files below away takes none.
    have hFiles : (p.files.filter fun f _ => !(Path.isBelow f dir)) = p.files := by
      refine SortedMap.ext_get? fun file => ?_
      rw [SortedMap.get?_filter]
      cases hGet : p.files.get? file with
      | none => rfl
      | some content =>
        simp [Option.filter, hBelow file (SortedMap.contains_of_get?_eq_some hGet)]
    rw [hFiles]
    rfl

end Entries

end Platform

open Platform (Event)
open SparkFleet.Action (exec)
open FileStore (pathOf)

variable {s : Simulation Platform} {path : String} {history : List Event}

open Classical in
/-- After every history of operations of the file store on canonical paths, a directory at which
there is no file can be listed, and the listing is empty exactly if nothing is under it.  A deletion
that is not recursive is refused if a file is under the directory, and changes nothing then but the
count of calls.  Otherwise it succeeds and takes no file, but the directory with all directories
under it.  Of the root this is not so: it is taken in any case, and alone. -/
theorem plain_file_delete (hHistory : ∀ e ∈ history, e.OnFileStore)
    (hState : s.state = ({} : Platform).after history)
    (hThere : s.state.dirs.contains (pathOf path) = true)
    (hFree : s.state.files.contains (pathOf path) = false) :
    let p := s.state
    let dir := pathOf path
    ∃ records left,
      exec Platform.handler (FileStore.list path) s =
        (.ok records, { s with state := p.count "dbfs/list" }) ∧
      (records = [] ↔ ∀ entry, p.HasEntry entry → ¬Path.IsUnder entry dir) ∧
      exec Platform.handler (FileStore.delete path false) s =
        (if dir ≠ Path.root ∧ ∃ file, p.files.contains file = true ∧ Path.IsUnder file dir then
          (.error (.transport (.status 400 (some "IO_ERROR")
            ("Directory " ++ dir ++ " is not empty"))), { s with state := p.count "dbfs/delete" })
        else
          (.ok (), { s with state := { p.count "dbfs/delete" with dirs := left } })) ∧
      ∀ d, left.contains d = true ↔
        p.dirs.contains d = true ∧ d ≠ dir ∧ (dir = Path.root ∨ ¬Path.IsUnder d dir) := by
  intro p dir
  have hTree : p.HasFileTree := by
    have hAfter := Platform.hasFileTree_after hHistory
    rwa [← hState] at hAfter
  have hDir : Path.IsCanonical dir := (hTree.placed (.inl hThere)).1
  obtain ⟨records, hAnswer⟩ : ∃ records, p.listFiles dir = .ok records := by
    rw [Platform.listFiles, hDir.directory_eq]
    exact ⟨_, if_pos hThere⟩
  have hListed : (p.count "dbfs/list").performFiles (.list dir) =
      .ok (records, p.count "dbfs/list") := congrArg (·.map (·, p.count "dbfs/list")) hAnswer
  have hDelete : (p.count "dbfs/delete").deleteFile dir false =
      if dir ≠ Path.root ∧ ∃ file, p.files.contains file = true ∧ Path.IsUnder file dir then
        .error (Platform.directoryNotEmpty dir)
      else
        .ok ((), { p.count "dbfs/delete" with dirs := (p.removeDirs dir).dirs }) :=
    (hTree.count "dbfs/delete").deleteFile_plain hThere hFree
  refine ⟨records, (p.removeDirs dir).dirs,
    exec_ask_of_ok (c := .list dir) hTree.serving hListed,
    hTree.listFiles_eq_nil_iff hThere hFree hAnswer, ?_,
    hTree.contains_removeDirs_iff_isUnder hDir⟩
  split
  · next hFile =>
    rw [if_pos hFile] at hDelete
    exact exec_ask_of_error (c := .delete dir false) hTree.serving hDelete
  · next hNone =>
    rw [if_neg hNone] at hDelete
    exact exec_ask_of_ok (c := .delete dir false) hTree.serving hDelete

/-- A file two directories deep, beside a directory. -/
def nestedFile : List Event := [.call (.files (.mkdirs "/a/b/c")), .addFile "/a/b/f" ⟨#[1]⟩]

theorem plain_file_delete_nested :
    let s : Simulation Platform := { state := ({} : Platform).after nestedFile }
    ((∀ e ∈ nestedFile, e.OnFileStore) ∧ s.state.dirs.contains (pathOf "dbfs:/a") = true ∧
      s.state.files.contains (pathOf "dbfs:/a") = false) ∧
      exec Platform.handler (FileStore.delete "dbfs:/a" false) s =
        (.error (.transport (.status 400 (some "IO_ERROR") "Directory /a is not empty")),
          { s with state := s.state.count "dbfs/delete" }) := by
  intro s
  have hHistory : ∀ e ∈ nestedFile, e.OnFileStore := by
    simp only [nestedFile, List.forall_mem_cons, Event.OnFileStore]
    exact ⟨by decide, by decide, List.forall_mem_nil _⟩
  have hThere : s.state.dirs.contains (pathOf "dbfs:/a") = true := by decide
  have hFree : s.state.files.contains (pathOf "dbfs:/a") = false := by decide
  refine ⟨⟨hHistory, hThere, hFree⟩, ?_⟩
  obtain ⟨_, _, -, -, hDelete, -⟩ := plain_file_delete hHistory rfl hThere hFree
  rw [hDelete, if_pos ⟨by decide, "/a/b/f", by decide, by decide⟩]
  rfl

/-- A directory goes although a directory is listed there, and takes it along. -/
theorem directory_deleted_unempty :
    let e := Event.call (.files (.mkdirs "/a/b"))
    let s : Simulation Platform := { state := ({} : Platform).after [e] }
    let t := (exec Platform.handler (FileStore.delete "/a" false) s).2
    e.OnFileStore ∧ s.state.dirs.contains "/a" = true ∧ s.state.files.contains "/a" = false ∧
      (exec Platform.handler (FileStore.list "/a") s).1 = .ok [⟨"/a/b", true, 0⟩] ∧
      (exec Platform.handler (FileStore.delete "/a" false) s).1 = .ok () ∧
      t.state.dirs.contains "/a" = false ∧ t.state.dirs.contains "/a/b" = false := by
  intro e s t
  refine ⟨?_, by decide, by decide, by rfl, by rfl, by rfl, by rfl⟩
  simp only [e, Event.OnFileStore]
  decide

end SparkFleet
