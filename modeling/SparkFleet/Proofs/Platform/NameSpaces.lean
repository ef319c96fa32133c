import SparkFleet.Proofs.FileStore.OpenUploads

/-!
# Where the workspace and the file store meet

Notebooks and files are kept apart, but the directories are shared.  Two platforms are compared
through the answers to the same calls: those of the workspace apart from the numbers of the objects
(`SameObjectAnswers`), those of the file store along a renaming of the handles
(`SameFileAnswers`), since a notebook that is imported takes a number away from the handles.

The main statement `families_meet_in_directories` says that nothing but the directories connects the
two families: after a call of the one, the calls of the other are answered as if the first had
changed the directories alone, and then it says which calls change none.  The others can be seen
from the other family (`directories_seen_from_both`).
-/

namespace SparkFleet

/-! ### Numbers of objects -/

/-- An object without the number that it was given. -/
def ObjectRecord.withoutId (o : ObjectRecord) : ObjectRecord := { o with objectId := none }

/-- An object that is kept without the number that it was given. -/
def ObjectEntry.withoutId (o : ObjectEntry) : ObjectEntry := { o with record := o.record.withoutId }

/-- An answer without the numbers of objects. -/
def WorkspaceCall.withoutIds : (c : WorkspaceCall) → c.Answer → c.Answer
  | .getStatus _ => ObjectRecord.withoutId
  | .list _ => List.map ObjectRecord.withoutId
  | .exportNotebook _ _ => id
  | .mkdirs _ | .delete _ _ | .importNotebook _ => id

/-- Two results of a call are the same apart from the numbers of objects. -/
def WorkspaceCall.SameAnswer (c : WorkspaceCall) (first second : Except ApiError c.Answer) : Prop :=
  first.map c.withoutIds = second.map c.withoutIds

namespace Platform

variable {p q : Platform}

/-- Two platforms answer calls about the workspace alike, one after the other, apart from the
numbers of objects. -/
def SameObjectAnswers (p q : Platform) : List WorkspaceCall → Prop
  | [] => True
  | c :: rest =>
    c.SameAnswer (p.serve (.workspace c)).1 (q.serve (.workspace c)).1 ∧
      SameObjectAnswers (p.serve (.workspace c)).2 (q.serve (.workspace c)).2 rest

end Platform

/-! ### Handles -/

/-- A call about the file store with another handle. -/
def FileCall.renamed (rename : Int64 → Int64) : FileCall → FileCall
  | .create path overwrite => .create path overwrite
  | .addBlock handle data => .addBlock (rename handle) data
  | .close handle => .close (rename handle)
  | .read path offset length => .read path offset length
  | .getStatus path => .getStatus path
  | .delete path recursive => .delete path recursive
  | .move source destination => .move source destination
  | .mkdirs path => .mkdirs path
  | .list path => .list path

open Platform in
/-- A call and the call with the renamed handle have answers that only differ in the handle. -/
def FileCall.SameAnswer (rename : Int64 → Int64) :
    (c : FileCall) → Except ApiError c.Answer → Except ApiError (c.renamed rename).Answer → Prop
  | .create _ _, first, second => second = first.map rename
  | .addBlock handle _, first, second | .close handle, first, second =>
    second = first ∨ first = .error (notOpen handle) ∧ second = .error (notOpen (rename handle))
  | .read _ _ _, first, second => second = first
  | .getStatus _, first, second => second = first
  | .list _, first, second => second = first
  | .delete _ _, first, second | .move _ _, first, second | .mkdirs _, first, second =>
    second = first

namespace Platform

variable {p q : Platform}

/-- Two platforms answer calls about the file store alike, one after the other, where each call that
needs a handle has the renamed one on the second platform. -/
def SameFileAnswers (rename : Int64 → Int64) (p q : Platform) : List FileCall → Prop
  | [] => True
  | c :: rest =>
    c.SameAnswer rename (p.serve (.files c)).1 (q.serve (.files (c.renamed rename))).1 ∧
      SameFileAnswers rename (p.serve (.files c)).2 (q.serve (.files (c.renamed rename))).2 rest

/-- The handle that takes the place of another where more numbers have been given since. -/
def renumbered (since shift : Nat) (handle : Int64) : Int64 :=
  if handle.toInt ≤ since then handle else handle + .ofNat shift

/-! ### Two platforms side by side -/

/-- Two results correspond, and so do the platforms that they come with. -/
inductive Alike {α β : Type} (same : Except ApiError α → Except ApiError β → Prop)
    (alike : Platform → Platform → Prop) :
    Except ApiError (α × Platform) → Except ApiError (β × Platform) → Prop where
  | ok {a : α} {b : β} {p q : Platform} (hSame : same (.ok a) (.ok b)) (hAlike : alike p q) :
      Alike same alike (.ok (a, p)) (.ok (b, q))
  | error {e e' : ApiError} (hSame : same (.error e) (.error e')) :
      Alike same alike (.error e) (.error e')

/-- Where calls are performed alike they are served alike. -/
theorem Alike.serve {c c' : Call}
    {same : Except ApiError c.Answer → Except ApiError c'.Answer → Prop}
    {alike : Platform → Platform → Prop}
    (hPerform :
      Alike same alike ((p.count c.endpoint).perform c) ((q.count c'.endpoint).perform c'))
    (hFailure : q.failure? c'.endpoint = p.failure? c.endpoint)
    (hInjected : ∀ e, same (.error e) (.error e))
    (hCount : alike (p.count c.endpoint) (q.count c'.endpoint)) :
    same (p.serve c).1 (q.serve c').1 ∧ alike (p.serve c).2 (q.serve c').2 := by
  cases hInjection : p.failure? c.endpoint with
  | some e =>
    rw [serve_of_injected hInjection, serve_of_injected (hFailure.trans hInjection)]
    exact ⟨hInjected e, hCount⟩
  | none =>
    -- Both calls are performed, and a call that is refused is counted on both sides.
    have hServed : q.failure? c'.endpoint = none := hFailure.trans hInjection
    generalize hFirst : (p.count c.endpoint).perform c = first at hPerform
    generalize hSecond : (q.count c'.endpoint).perform c' = second at hPerform
    cases hPerform with
    | ok hSame hAlike =>
      rw [serve_of_ok hInjection hFirst, serve_of_ok hServed hSecond]
      exact ⟨hSame, hAlike⟩
    | error hSame =>
      rw [serve_of_error hInjection hFirst, serve_of_error hServed hSecond]
      exact ⟨hSame, hCount⟩

/-! ### What the workspace shows -/

/-- Two platforms look the same to the workspace, apart from the numbers of objects. -/
structure SameWorkspace (p q : Platform) : Prop where
  dirs : p.dirs = q.dirs
  failures : p.failures = q.failures
  objects : (p.objects.mapValues fun _ => ObjectEntry.withoutId) =
    q.objects.mapValues fun _ => ObjectEntry.withoutId

namespace SameWorkspace

theorem count (hAlike : SameWorkspace p q) (endpoint : String) :
    SameWorkspace (p.count endpoint) (q.count endpoint) :=
  ⟨hAlike.dirs, hAlike.failures, hAlike.objects⟩

theorem get? (hAlike : SameWorkspace p q) (path : String) :
    (p.objects.get? path).map ObjectEntry.withoutId =
      (q.objects.get? path).map ObjectEntry.withoutId := by
  have hGet := congrArg (·.get? path) hAlike.objects
  simpa only [SortedMap.get?_mapValues] using hGet

theorem contains (hAlike : SameWorkspace p q) (path : String) :
    p.objects.contains path = q.objects.contains path := by
  have hContains := congrArg (·.contains path) hAlike.objects
  simpa only [SortedMap.contains_mapValues] using hContains

theorem any (hAlike : SameWorkspace p q) (test : String → Bool) :
    (p.objects.any fun path _ => test path) = q.objects.any fun path _ => test path := by
  have hAny := congrArg (·.any fun path _ => test path) hAlike.objects
  simpa only [SortedMap.any_mapValues] using hAny

/-- The records of the objects are the same, in the same order. -/
theorem records (hAlike : SameWorkspace p q) :
    (p.objects.values.map (·.record)).map ObjectRecord.withoutId =
      (q.objects.values.map (·.record)).map ObjectRecord.withoutId := by
  have hValues := congrArg (fun m => m.values.map (·.record)) hAlike.objects
  simp only [SortedMap.values_mapValues, List.map_map] at hValues
  simp only [SortedMap.values, List.map_map]
  exact hValues

end SameWorkspace

theorem objectStatus_alike (hAlike : SameWorkspace p q) (path : String) :
    (p.objectStatus path).map ObjectRecord.withoutId =
      (q.objectStatus path).map ObjectRecord.withoutId := by
  have hGet := hAlike.get? path
  unfold objectStatus
  rw [hAlike.dirs]
  -- A path has an object on both sides or on neither, since the numbers are not part of the
  -- look-up.
  cases hFirst : p.objects.get? path with
  | none =>
    have hSecond : q.objects.get? path = none := by simpa [hFirst, eq_comm] using hGet
    rw [hSecond]
  | some first =>
    rw [hFirst] at hGet
    obtain ⟨second, hSecond, hSame⟩ := Option.map_eq_some_iff.1 hGet.symm
    rw [hSecond]
    exact congrArg Except.ok (congrArg ObjectEntry.record hSame.symm)

theorem exportContent_alike (hAlike : SameWorkspace p q) (path : String) :
    p.exportContent path = q.exportContent path := by
  have hGet := hAlike.get? path
  unfold exportContent
  cases hFirst : p.objects.get? path with
  | none =>
    have hSecond : q.objects.get? path = none := by simpa [hFirst, eq_comm] using hGet
    rw [hSecond]
  | some first =>
    rw [hFirst] at hGet
    obtain ⟨second, hSecond, hSame⟩ := Option.map_eq_some_iff.1 hGet.symm
    rw [hSecond]
    have hContent : second.withoutId.content = first.withoutId.content := congrArg _ hSame
    exact congrArg Except.ok hContent.symm

theorem listObjects_alike (hAlike : SameWorkspace p q) (path : String) :
    (p.listObjects path).map (List.map ObjectRecord.withoutId) =
      (q.listObjects path).map (List.map ObjectRecord.withoutId) := by
  -- Whether an object is listed depends on its path, so the numbers can be taken away before.
  have hFilter : ∀ records : List ObjectRecord,
      (records.filter fun o => Path.parent o.path = Path.directory path).map
          ObjectRecord.withoutId =
        (records.map ObjectRecord.withoutId).filter fun o =>
          Path.parent o.path = Path.directory path := by
    intro records
    rw [List.filter_map]
    rfl
  simp only [listObjects, subdirs, hAlike.dirs]
  split
  · simp only [Except.map, List.map_append, hFilter, hAlike.records]
  · rfl

theorem deleteObject_alike (hAlike : SameWorkspace p q) (path : String) (recursive : Bool) :
    Alike (WorkspaceCall.delete path recursive).SameAnswer SameWorkspace
      (p.deleteObject path recursive) (q.deleteObject path recursive) := by
  simp only [deleteObject, removeDirs, hAlike.contains, hAlike.dirs,
    hAlike.any fun o => Path.isBelow o (Path.directory path)]
  split
  · refine .ok rfl ⟨rfl, hAlike.failures, ?_⟩
    simp only [SortedMap.mapValues_erase, hAlike.objects]
  · split
    · exact .error rfl
    · split
      · exact .error rfl
      · refine .ok rfl ⟨rfl, hAlike.failures, ?_⟩
        -- What is below the directory is told by the path alone, so the filter passes through the
        -- numbers.
        have hFilter := fun m : SortedMap String ObjectEntry =>
          m.mapValues_filter (fun _ => ObjectEntry.withoutId) fun o =>
            !(Path.isBelow o (Path.directory path))
        simp only [hFilter, hAlike.objects]

theorem importNotebook_alike (hAlike : SameWorkspace p q) (n : NotebookImport) :
    Alike (WorkspaceCall.importNotebook n).SameAnswer SameWorkspace
      (p.importNotebook n) (q.importNotebook n) := by
  simp only [importNotebook, hAlike.contains, hAlike.dirs]
  split
  · exact .error rfl
  · split
    · exact .error rfl
    · refine .ok rfl ⟨hAlike.dirs, hAlike.failures, ?_⟩
      -- The two notebooks are new on both sides, and only their numbers differ.
      have hNew : (p.newNotebook n.path n.language n.content).withoutId =
          (q.newNotebook n.path n.language n.content).withoutId := rfl
      simp only [SortedMap.mapValues_insert, hAlike.objects, hNew]

/-- What is read alike from two platforms is answered alike, and both stay as they are. -/
theorem Alike.of_read {α β : Type} {first second : Except ApiError α} {f : α → β}
    {alike : Platform → Platform → Prop} (hSame : first.map f = second.map f) (hAlike : alike p q) :
    Alike (fun a b : Except ApiError α => a.map f = b.map f) alike (first.map (·, p))
      (second.map (·, q)) := by
  cases first with
  | error e =>
    cases second with
    | error e' => exact .error hSame
    | ok b => cases hSame
  | ok a =>
    cases second with
    | error e' => cases hSame
    | ok b => exact .ok hSame hAlike

theorem performWorkspace_alike (hAlike : SameWorkspace p q) (c : WorkspaceCall) :
    Alike c.SameAnswer SameWorkspace (p.performWorkspace c) (q.performWorkspace c) := by
  cases c with
  | getStatus path => exact .of_read (objectStatus_alike hAlike path) hAlike
  | list path => exact .of_read (listObjects_alike hAlike path) hAlike
  | exportNotebook path format =>
    exact .of_read (congrArg _ (exportContent_alike hAlike path)) hAlike
  | delete path recursive => exact deleteObject_alike hAlike path recursive
  | importNotebook n => exact importNotebook_alike hAlike n
  | mkdirs path =>
    simp only [performWorkspace, makeDirs, hAlike.dirs]
    exact .ok rfl ⟨rfl, hAlike.failures, hAlike.objects⟩

/-- Platforms that look the same to the workspace answer all its calls alike. -/
theorem sameObjectAnswers_of_alike (hAlike : SameWorkspace p q) (calls : List WorkspaceCall) :
    SameObjectAnswers p q calls := by
  induction calls generalizing p q with
  | nil => trivial
  | cons c rest ih =>
    have hFailure : q.failure? (Call.workspace c).endpoint =
        p.failure? (Call.workspace c).endpoint := by
      rw [failure?, failure?, hAlike.failures]
    have hCount := hAlike.count (Call.workspace c).endpoint
    have hPerform : Alike c.SameAnswer SameWorkspace
        ((p.count (Call.workspace c).endpoint).perform (.workspace c))
        ((q.count (Call.workspace c).endpoint).perform (.workspace c)) :=
      performWorkspace_alike hCount c
    have hInjected : ∀ e, c.SameAnswer (.error e) (.error e) := fun _ => rfl
    -- The platforms look the same again after the call, which is what the rest needs.
    obtain ⟨hSame, hAfter⟩ := hPerform.serve hFailure hInjected hCount
    exact ⟨hSame, ih hAfter⟩

/-! ### Handles that are renumbered -/

section Renumbered

variable {since shift n : Nat} {handle : Int64}

theorem toInt_ofNat (hLimit : n < numberLimit) : (Int64.ofNat n).toInt = n :=
  Int64.toInt_ofNat_of_lt hLimit

/-- The handles that have been given out before are kept. -/
theorem renumbered_of_le (hLimit : n < numberLimit) (hLe : n ≤ since) :
    renumbered since shift (.ofNat n) = .ofNat n := by
  rw [renumbered, toInt_ofNat hLimit]
  exact if_pos (Int.ofNat_le.2 hLe)

/-- Later handles are moved up. -/
theorem renumbered_of_lt (hLimit : n < numberLimit) (hLt : since < n) :
    renumbered since shift (.ofNat n) = .ofNat (n + shift) := by
  rw [renumbered, toInt_ofNat hLimit, Int64.ofNat_add]
  exact if_neg (Int.not_le.2 (Int.ofNat_lt.2 hLt))

/-- A handle that stays within the numbers takes the place of one handle only. -/
theorem renumbered_eq_iff (hLimit : n + shift < numberLimit) :
    renumbered since shift handle = renumbered since shift (.ofNat n) ↔ handle = .ofNat n := by
  refine ⟨fun hSame => ?_, fun hHandle => by rw [hHandle]⟩
  have hNumber : (Int64.ofNat n).toInt = n := toInt_ofNat (by omega)
  have hShift : (Int64.ofNat shift).toInt = shift := toInt_ofNat (by omega)
  have hUpper : handle.toInt < 2 ^ 63 := handle.toInt_lt
  unfold numberLimit at hLimit
  by_cases hOld : handle.toInt ≤ since
  · rcases Nat.lt_or_ge since n with hLt | hLe
    · -- An old handle is not more than `since`, and a later one is.
      rw [renumbered_of_lt (by unfold numberLimit; omega) hLt, renumbered, if_pos hOld] at hSame
      have hMoved : (Int64.ofNat (n + shift)).toInt = (n + shift : Nat) := toInt_ofNat hLimit
      rw [hSame, hMoved] at hOld
      omega
    · rw [renumbered_of_le (by unfold numberLimit; omega) hLe, renumbered, if_pos hOld] at hSame
      exact hSame
  · rw [renumbered, if_neg hOld] at hSame
    rcases Nat.lt_or_ge since n with hLt | hLe
    · rw [renumbered_of_lt (by unfold numberLimit; omega) hLt, Int64.ofNat_add] at hSame
      exact (Int64.add_left_inj _).1 hSame
    · -- A later handle is more than `since`, or it leaves the numbers and becomes negative.
      rw [renumbered_of_le (by unfold numberLimit; omega) hLe] at hSame
      have hSum := congrArg Int64.toInt hSame
      rw [Int64.toInt_add, hShift, hNumber, Int.bmod_def] at hSum
      split at hSum <;> omega

variable {first second : SortedMap Int64 Upload}

/-- Where the same is found along a renumbering, an upload that is written on both sides is too. -/
theorem get?_insert_renumbered (hLimit : n + shift < numberLimit)
    (hSame : ∀ handle, second.get? (renumbered since shift handle) = first.get? handle)
    (upload : Upload) (handle : Int64) :
    (second.insert (renumbered since shift (.ofNat n)) upload).get?
        (renumbered since shift handle) =
      (first.insert (.ofNat n) upload).get? handle := by
  rw [SortedMap.get?_insert, SortedMap.get?_insert, hSame]
  simp only [renumbered_eq_iff hLimit]

theorem get?_erase_renumbered (hLimit : n + shift < numberLimit)
    (hSame : ∀ handle, second.get? (renumbered since shift handle) = first.get? handle)
    (handle : Int64) :
    (second.erase (renumbered since shift (.ofNat n))).get? (renumbered since shift handle) =
      (first.erase (.ofNat n)).get? handle := by
  rw [SortedMap.get?_erase, SortedMap.get?_erase, hSame]
  simp only [renumbered_eq_iff hLimit]

end Renumbered

/-! ### What the file store shows -/

variable {since shift room : Nat}

/-- Two platforms look the same to the file store along a renumbering, and there is room for so many
more numbers. -/
structure SameFileStore (since shift room : Nat) (p q : Platform) : Prop where
  dirs : q.dirs = p.dirs
  files : q.files = p.files
  failures : q.failures = p.failures
  uploads : ∀ handle, q.uploads.get? (renumbered since shift handle) = p.uploads.get? handle
  since_le : since ≤ p.lastNumber
  lastNumber : q.lastNumber = p.lastNumber + shift
  limit : q.lastNumber + room < numberLimit

namespace SameFileStore

theorem count (hAlike : SameFileStore since shift room p q) (first second : String) :
    SameFileStore since shift room (p.count first) (q.count second) :=
  ⟨hAlike.dirs, hAlike.files, hAlike.failures, hAlike.uploads, hAlike.since_le, hAlike.lastNumber,
    hAlike.limit⟩

/-- Where there is room for one more number there is room for no more. -/
theorem lessRoom (hAlike : SameFileStore since shift (room + 1) p q) :
    SameFileStore since shift room p q :=
  { hAlike with limit := by have hLimit := hAlike.limit; omega }

/-- A handle that is open has a number that stays within the numbers. -/
theorem number_of_open {handle : Int64} {upload : Upload}
    (hAlike : SameFileStore since shift room p q) (hIssued : p.HandlesIssued)
    (hOpen : p.uploads.get? handle = some upload) :
    ∃ n, handle = .ofNat n ∧ n + shift < numberLimit := by
  obtain ⟨n, hLe, rfl⟩ := hIssued hOpen
  have hLast := hAlike.lastNumber
  have hLimit := hAlike.limit
  exact ⟨n, rfl, by omega⟩

/-- The next handle of the one takes the place of the next handle of the other. -/
theorem nextHandle (hAlike : SameFileStore since shift (room + 1) p q) :
    q.nextHandle = renumbered since shift p.nextHandle := by
  have hSince := hAlike.since_le
  have hLast := hAlike.lastNumber
  have hLimit := hAlike.limit
  have hNext : q.nextNumber = p.nextNumber + shift := by
    unfold nextNumber
    omega
  unfold nextNumber at hNext
  unfold Platform.nextHandle nextNumber
  -- The next handle is later than all that were given out before, so it is moved up.
  rw [renumbered_of_lt (by omega) (by omega), hNext]

end SameFileStore

theorem openUpload_alike (hAlike : SameFileStore since shift (room + 1) p q) (path : String)
    (overwrite : Bool) :
    Alike (FileCall.SameAnswer (renumbered since shift) (.create path overwrite))
      (SameFileStore since shift room) (p.openUpload path overwrite)
      (q.openUpload path overwrite) := by
  have hSince := hAlike.since_le
  have hLast := hAlike.lastNumber
  have hLimit := hAlike.limit
  simp only [openUpload, hAlike.files]
  split
  · exact .error rfl
  · refine .ok (congrArg Except.ok hAlike.nextHandle)
      ⟨hAlike.dirs, hAlike.files, hAlike.failures, ?_, ?_, ?_, ?_⟩
    · intro handle
      have hNumber : p.nextNumber + shift < numberLimit := by
        unfold nextNumber
        omega
      rw [hAlike.nextHandle]
      exact get?_insert_renumbered hNumber hAlike.uploads _ handle
    all_goals
      simp only [withNextNumber, nextNumber]
      omega

theorem appendBlock_alike (hAlike : SameFileStore since shift room p q) (hIssued : p.HandlesIssued)
    (handle : Int64) (data : ByteArray) :
    Alike (FileCall.SameAnswer (renumbered since shift) (.addBlock handle data))
      (SameFileStore since shift room) (p.appendBlock handle data)
      (q.appendBlock (renumbered since shift handle) data) := by
  have hSame := hAlike.uploads handle
  cases hOpen : p.uploads.get? handle with
  | none =>
    rw [hOpen] at hSame
    simp only [appendBlock, findUpload, hOpen, hSame]
    exact .error (.inr ⟨rfl, rfl⟩)
  | some upload =>
    -- An open handle has been given out, so the renumbering tells it from all others.
    rw [hOpen] at hSame
    obtain ⟨n, rfl, hNumber⟩ := hAlike.number_of_open hIssued hOpen
    rw [FileStore.appendBlock_of_open hOpen, FileStore.appendBlock_of_open hSame]
    exact .ok (.inl rfl)
      { hAlike with uploads := get?_insert_renumbered hNumber hAlike.uploads _ }

theorem closeUpload_alike (hAlike : SameFileStore since shift room p q) (hIssued : p.HandlesIssued)
    (handle : Int64) :
    Alike (FileCall.SameAnswer (renumbered since shift) (.close handle))
      (SameFileStore since shift room) (p.closeUpload handle)
      (q.closeUpload (renumbered since shift handle)) := by
  have hSame := hAlike.uploads handle
  cases hOpen : p.uploads.get? handle with
  | none =>
    rw [hOpen] at hSame
    simp only [closeUpload, findUpload, hOpen, hSame]
    exact .error (.inr ⟨rfl, rfl⟩)
  | some upload =>
    rw [hOpen] at hSame
    obtain ⟨n, rfl, hNumber⟩ := hAlike.number_of_open hIssued hOpen
    rw [FileStore.closeUpload_of_open hOpen, FileStore.closeUpload_of_open hSame]
    simp only [writeFile, makeDirs, hAlike.dirs, hAlike.files]
    have hUploads := get?_erase_renumbered hNumber hAlike.uploads
    exact .ok (.inl rfl) { hAlike with dirs := rfl, files := rfl, uploads := hUploads }

theorem deleteFile_alike (hAlike : SameFileStore since shift room p q) (path : String)
    (recursive : Bool) :
    Alike (FileCall.SameAnswer (renumbered since shift) (.delete path recursive))
      (SameFileStore since shift room) (p.deleteFile path recursive)
      (q.deleteFile path recursive) := by
  simp only [deleteFile, removeDirs, hAlike.files, hAlike.dirs]
  split
  · exact .ok rfl { hAlike with files := rfl, dirs := rfl }
  · split
    · exact .error rfl
    · exact .ok rfl { hAlike with files := rfl, dirs := rfl }

theorem moveFile_alike (hAlike : SameFileStore since shift room p q) (source destination : String) :
    Alike (FileCall.SameAnswer (renumbered since shift) (.move source destination))
      (SameFileStore since shift room) (p.moveFile source destination)
      (q.moveFile source destination) := by
  simp only [moveFile, findFile, hAlike.files]
  split
  · exact .error rfl
  · cases p.files.get? source with
    | none => exact .error rfl
    | some content =>
      simp only [writeFile, makeDirs, hAlike.dirs]
      exact .ok rfl { hAlike with files := rfl, dirs := rfl }

/-- What is read alike from two platforms is answered alike, and both stay as they are. -/
theorem Alike.of_read_eq {α : Type} {same : Except ApiError α → Except ApiError α → Prop}
    {alike : Platform → Platform → Prop} {first second : Except ApiError α} (hSame : second = first)
    (hRefl : ∀ result, same result result) (hAlike : alike p q) :
    Alike same alike (first.map (·, p)) (second.map (·, q)) := by
  subst hSame
  cases second with
  | error e => exact .error (hRefl _)
  | ok a => exact .ok (hRefl _) hAlike

theorem performFiles_alike (hAlike : SameFileStore since shift (room + 1) p q)
    (hIssued : p.HandlesIssued) (c : FileCall) :
    Alike (c.SameAnswer (renumbered since shift)) (SameFileStore since shift room)
      (p.performFiles c) (q.performFiles (c.renamed (renumbered since shift))) := by
  -- Only opening an upload uses the room for one more number.
  have hLater := hAlike.lessRoom
  cases c with
  | create path overwrite => exact openUpload_alike hAlike path overwrite
  | addBlock handle data => exact appendBlock_alike hLater hIssued handle data
  | close handle => exact closeUpload_alike hLater hIssued handle
  | read path offset length =>
    have hFind : q.findFile path = p.findFile path := by
      rw [findFile, findFile, hAlike.files]
    simp only [FileCall.renamed, performFiles, hFind]
    cases p.findFile path with
    | error e => exact .error rfl
    | ok content => exact .ok rfl hLater
  | getStatus path =>
    have hStatus : q.fileStatus path = p.fileStatus path := by
      simp only [fileStatus, hAlike.files, hAlike.dirs]
    exact .of_read_eq hStatus (fun _ => rfl) hLater
  | list path =>
    have hList : q.listFiles path = p.listFiles path := by
      simp only [listFiles, subdirs, hAlike.files, hAlike.dirs]
    exact .of_read_eq hList (fun _ => rfl) hLater
  | delete path recursive => exact deleteFile_alike hLater path recursive
  | move source destination => exact moveFile_alike hLater source destination
  | mkdirs path =>
    simp only [FileCall.renamed, performFiles, makeDirs, hAlike.dirs]
    exact .ok rfl { hLater with dirs := rfl }

theorem endpoint_renamed (rename : Int64 → Int64) (c : FileCall) :
    (c.renamed rename).endpoint = c.endpoint := by
  cases c <;> rfl

theorem sameAnswer_error (rename : Int64 → Int64) (c : FileCall) (e : ApiError) :
    c.SameAnswer rename (.error e) (.error e) := by
  cases c with
  | addBlock | close => exact .inl rfl
  | create | read | getStatus | list | delete | move | mkdirs => rfl

/-- Platforms that look the same to the file store answer its calls alike while there is room for
their numbers. -/
theorem sameFileAnswers_of_alike {calls : List FileCall}
    (hAlike : SameFileStore since shift calls.length p q) (hIssued : p.HandlesIssued) :
    SameFileAnswers (renumbered since shift) p q calls := by
  induction calls generalizing p q with
  | nil => trivial
  | cons c rest ih =>
    let first : Call := .files c
    let second : Call := .files (c.renamed (renumbered since shift))
    have hFailure : q.failure? second.endpoint = p.failure? first.endpoint := by
      have hEndpoint : second.endpoint = first.endpoint := endpoint_renamed _ c
      rw [failure?, failure?, hAlike.failures, hEndpoint]
    have hCount := hAlike.count first.endpoint second.endpoint
    have hPerform : Alike (c.SameAnswer (renumbered since shift))
        (SameFileStore since shift rest.length) ((p.count first.endpoint).perform first)
        ((q.count second.endpoint).perform second) :=
      performFiles_alike hCount hIssued c
    obtain ⟨hSame, hAfter⟩ := hPerform.serve hFailure (sameAnswer_error _ c) hCount.lessRoom
    exact ⟨hSame, ih hAfter (hIssued.apply (.call (.files c)))⟩

/-! ### One call of the other family -/

/-- The platform with nothing of a call's effect but the directories. -/
def onlyDirs (p : Platform) (c : Call) : Platform := { p with dirs := (p.serve c).2.dirs }

end Platform

/-- A call of the workspace or of the file store that is about directories: where no notebook or no
file is at its path, a deletion is taken for that of a directory. -/
def Call.TouchesDirs (p : Platform) : Call → Prop
  | .workspace (.mkdirs _) | .files (.mkdirs _) | .files (.close _) | .files (.move _ _) => True
  | .workspace (.delete path _) => p.objects.contains path = false
  | .files (.delete path _) => p.files.contains path = false
  | _ => False

namespace Platform

variable {p q : Platform}

theorem sameWorkspace_serve_files (c : FileCall) :
    SameWorkspace (p.onlyDirs (.files c)) (p.serve (.files c)).2 := by
  have hObjects : (p.serve (.files c)).2.objects = p.objects := by
    refine serve_induction (motive := fun q => q.objects = p.objects) rfl fun a q h => ?_
    rw [(performFiles_frame (p := p.count _) h).1]
    rfl
  refine ⟨rfl, (failures_serve p (.files c)).symm, ?_⟩
  rw [hObjects]
  rfl

theorem sameFileStore_serve_workspace {room : Nat} (hIssued : p.HandlesIssued) (c : WorkspaceCall)
    (hLimit : (p.serve (.workspace c)).2.lastNumber + room < numberLimit) :
    SameFileStore p.lastNumber ((p.serve (.workspace c)).2.lastNumber - p.lastNumber) room
      (p.onlyDirs (.workspace c)) (p.serve (.workspace c)).2 := by
  have hFrame : (p.serve (.workspace c)).2.files = p.files ∧
      (p.serve (.workspace c)).2.uploads = p.uploads := by
    refine serve_induction (motive := fun q => q.files = p.files ∧ q.uploads = p.uploads)
      ⟨rfl, rfl⟩ fun a q h => ?_
    exact perform_frame_of_not_files (p := p.count _) h (by simp)
  have hLe : p.lastNumber ≤ (p.serve (.workspace c)).2.lastNumber :=
    lastNumber_le_apply (.call (.workspace c))
  refine ⟨rfl, hFrame.1, failures_serve p (.workspace c), fun handle => ?_, Nat.le_refl _,
    (Nat.add_sub_of_le hLe).symm, hLimit⟩
  rw [hFrame.2]
  generalize (p.serve (.workspace c)).2.lastNumber = last at hLe hLimit
  change p.uploads.get? _ = p.uploads.get? handle
  -- A handle that has been given out is kept, and no other is open, under its old name or its new.
  have hKept : ∀ n ≤ p.lastNumber,
      renumbered p.lastNumber (last - p.lastNumber) (.ofNat n) = .ofNat n :=
    fun n hn => renumbered_of_le (by omega) hn
  cases hOpen : p.uploads.get? handle with
  | some upload =>
    obtain ⟨n, hn, rfl⟩ := hIssued hOpen
    rw [hKept n hn, hOpen]
  | none =>
    -- If the new name were open, it would be a number given out before, which keeps its name.
    by_contra hSome
    obtain ⟨upload, hUpload⟩ := Option.ne_none_iff_exists'.1 hSome
    obtain ⟨n, hn, hName⟩ := hIssued hUpload
    rw [← hKept n hn] at hName
    have hHandle : handle = .ofNat n := (renumbered_eq_iff (by omega)).1 hName
    rw [hName, hKept n hn, ← hHandle, hOpen] at hUpload
    cases hUpload

theorem dirs_performWorkspace {c : WorkspaceCall} {a : c.Answer}
    (hNot : ¬(Call.workspace c).TouchesDirs p) (h : p.performWorkspace c = .ok (a, q)) :
    q.dirs = p.dirs := by
  cases c with
  | getStatus path | list path | exportNotebook path format =>
    obtain ⟨found, -, h⟩ := map_eq_ok h
    cases h
    rfl
  | mkdirs path => exact absurd trivial hNot
  | delete path recursive =>
    -- The deletion is of an object; only that of a directory takes directories away.
    have hObject : p.objects.contains path = true := by simpa [Call.TouchesDirs] using hNot
    simp only [performWorkspace, deleteObject, if_pos hObject] at h
    cases h
    rfl
  | importNotebook n =>
    simp only [performWorkspace, importNotebook] at h
    split at h
    · cases h
    · split at h
      · cases h
      · cases h
        rfl

theorem dirs_performFiles {c : FileCall} {a : c.Answer} (hNot : ¬(Call.files c).TouchesDirs p)
    (h : p.performFiles c = .ok (a, q)) : q.dirs = p.dirs := by
  cases c with
  | create path overwrite =>
    obtain ⟨-, rfl⟩ := openUpload_eq_ok h
    rfl
  | addBlock handle data =>
    obtain ⟨upload, -, rfl⟩ := appendBlock_eq_ok h
    rfl
  | read path offset length =>
    obtain ⟨content, -, h⟩ := map_eq_ok h
    cases h
    rfl
  | getStatus path | list path =>
    obtain ⟨found, -, h⟩ := map_eq_ok h
    cases h
    rfl
  | delete path recursive =>
    have hFile : p.files.contains path = true := by simpa [Call.TouchesDirs] using hNot
    simp only [performFiles, deleteFile, if_pos hFile] at h
    cases h
    rfl
  | close | move | mkdirs => exact absurd trivial hNot

/-- A call that is not about directories changes none. -/
theorem dirs_serve {c : Call} (hNot : ¬c.TouchesDirs p) : (p.serve c).2.dirs = p.dirs := by
  refine serve_induction (motive := fun q => q.dirs = p.dirs) rfl fun a q h => ?_
  cases c with
  | clusters call =>
    rw [(performClusters_frame (p := p.count _) h).1]
    rfl
  | jobs call =>
    rw [(performJobs_frame (p := p.count _) h).1]
    rfl
  | libraries call =>
    rw [performLibraries_frame (p := p.count _) h]
    rfl
  | workspace call => exact dirs_performWorkspace (p := p.count _) hNot h
  | files call => exact dirs_performFiles (p := p.count _) hNot h

/-- Nothing but the directories connects the workspace and the file store.  After a call of the one,
the calls of the other are answered as if the first had changed the directories alone; a call that
is not about directories changes none, so its effect is not seen at all. -/
theorem families_meet_in_directories (hReach : p.Reachable) :
    (∀ (c : FileCall) (calls : List WorkspaceCall),
      SameObjectAnswers (p.onlyDirs (.files c)) (p.serve (.files c)).2 calls) ∧
    (∀ (c : WorkspaceCall) (calls : List FileCall),
      let q := (p.serve (.workspace c)).2
      q.lastNumber + calls.length < numberLimit →
        SameFileAnswers (renumbered p.lastNumber (q.lastNumber - p.lastNumber))
          (p.onlyDirs (.workspace c)) q calls) ∧
    ∀ c : Call, ¬c.TouchesDirs p → p.onlyDirs c = p := by
  refine ⟨fun c calls => ?_, fun c calls => ?_, fun c hNot => ?_⟩
  · exact sameObjectAnswers_of_alike (sameWorkspace_serve_files c) calls
  · intro q hLimit
    have hIssued : p.HandlesIssued := hReach.handlesIssued
    exact sameFileAnswers_of_alike (sameFileStore_serve_workspace hIssued c hLimit) hIssued
  · rw [onlyDirs, dirs_serve hNot]

/-- A platform with a notebook in a directory. -/
def withNotebook : Platform := ({} : Platform).after [.addNotebook "/Users/me/nb" .python ⟨#[49]⟩]

/-- The import of a second notebook is seen in the file store by the next handle alone. -/
theorem families_meet_in_directories_import :
    let c : WorkspaceCall := .importNotebook ⟨"/Users/me/other", .source, some .sql, ⟨#[50]⟩, false⟩
    let calls : List FileCall := [.create "/Users/me/nb" false, .addBlock 2 ⟨#[51]⟩, .close 2,
      .list "/Users/me"]
    withNotebook.Reachable ∧ ¬(Call.workspace c).TouchesDirs withNotebook ∧
      (withNotebook.serve (.workspace c)).2.lastNumber + calls.length < numberLimit ∧
      SameFileAnswers (renumbered 1 1) withNotebook (withNotebook.serve (.workspace c)).2 calls := by
  intro c calls
  have hReach : withNotebook.Reachable := ⟨_, rfl⟩
  have hNot : ¬(Call.workspace c).TouchesDirs withNotebook := id
  have hLast : (withNotebook.serve (.workspace c)).2.lastNumber = 2 := by rfl
  have hLimit : (withNotebook.serve (.workspace c)).2.lastNumber + calls.length < numberLimit := by
    rw [hLast]
    decide
  obtain ⟨-, hAnswers, hDirs⟩ := families_meet_in_directories hReach
  have hSame := hAnswers c calls hLimit
  rw [hDirs _ hNot, hLast] at hSame
  exact ⟨hReach, hNot, hLimit, hSame⟩

/-- Directories are seen from the other family: a deletion in the file store takes away the directory
that a notebook is in, so what was listed before is not found any more, and a directory that is made
in the workspace is there in the file store. -/
theorem directories_seen_from_both :
    withNotebook.Reachable ∧
      ¬SameObjectAnswers withNotebook
        (withNotebook.serve (.files (.delete "/Users/me" false))).2 [.list "/Users/me"] ∧
      ¬SameFileAnswers id withNotebook (withNotebook.serve (.workspace (.mkdirs "/new"))).2
        [.getStatus "/new"] := by
  refine ⟨⟨_, rfl⟩, ?_, ?_⟩
  · -- The notebook itself stays, and only its directory is gone from the listing.
    have hBefore : (withNotebook.serve (.workspace (.list "/Users/me"))).1 =
        .ok [⟨.notebook, "/Users/me/nb", some .python, some 1⟩] := by rfl
    have hAfter : ((withNotebook.serve (.files (.delete "/Users/me" false))).2.serve
        (.workspace (.list "/Users/me"))).1 = .error (noPath "/Users/me") := by rfl
    intro hSame
    have hFirst := hSame.1
    rw [WorkspaceCall.SameAnswer, hBefore, hAfter] at hFirst
    cases hFirst
  · have hBefore : (withNotebook.serve (.files (.getStatus "/new"))).1 =
        .error (noEntry "/new") := by rfl
    have hAfter : ((withNotebook.serve (.workspace (.mkdirs "/new"))).2.serve
        (.files (.getStatus "/new"))).1 = .ok ⟨"/new", true, 0⟩ := by rfl
    intro hSame
    have hFirst := hSame.1
    simp only [FileCall.SameAnswer, FileCall.renamed] at hFirst
    rw [hBefore, hAfter] at hFirst
    cases hFirst

end Platform

end SparkFleet
