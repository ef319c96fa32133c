import SparkFleet.Proofs.Workspace.Tree

/-!
# The subtree of a directory

A directory is deleted with what is below it by the beginning of its path, while listing finds what
is in it by the path before the last slash.  Both describe the same subtree
(`HasTree.listedFrom_iff`): what is below a directory is in it, or in a directory below it that is
there.

The root is the only directory that may go before what is in it, since nothing is below it by the
beginning of its path.  So the workspace is a tree at all times once the root is put back
(`HasTree`), which is all that is needed for the other directories.  The main statement
`recursive_delete_subtree` says which records a deletion takes away.
-/

namespace SparkFleet.Platform

variable {ν : Type} {p : Platform} {e : Event} {dir path : String} {record : ObjectRecord}
  {dirs dirs' : SortedMap String Unit} {objects : SortedMap String ν} {history : List Event}

/-- What is found by listing directories, from one of them on. -/
inductive ListedFrom (p : Platform) (start : String) : ObjectRecord → Prop where
  | start : ListedFrom p start (.directory start)
  | entry {dir : String} {records : List ObjectRecord} {record : ObjectRecord}
      (hDir : ListedFrom p start (.directory dir))
      (hAnswer : (p.serve (.workspace (.list dir))).1 = .ok records) (hMem : record ∈ records) :
      ListedFrom p start record

/-- The record is that of a directory or of a notebook that is there. -/
def HasRecord (p : Platform) (record : ObjectRecord) : Prop :=
  (p.dirs.contains record.path = true ∧ record = .directory record.path) ∨
    ∃ object, p.objects.get? record.path = some object ∧ record = object.record

/-! ### The tree with its root put back -/

/-- The platform with the root put back, which may have been deleted. -/
def withRoot (p : Platform) : Platform := { p with dirs := p.dirs.insert Path.root () }

theorem contains_withRoot_iff :
    p.withRoot.dirs.contains dir = true ↔ dir = Path.root ∨ p.dirs.contains dir = true :=
  SortedMap.contains_insert_iff

/-- Calls are served, notebooks are kept under their paths, and with its root put back the workspace
is a tree. -/
structure HasTree (p : Platform) : Prop where
  serving : p.Serving
  kept : p.objects.All NotebookKept
  tree : IsTree p.withRoot.dirs p.objects

/-- What is a tree is said by which directories there are. -/
theorem IsTree.congr (hTree : IsTree dirs objects)
    (hSame : ∀ dir, dirs'.contains dir = true ↔ dirs.contains dir = true) :
    IsTree dirs' objects := by
  refine ⟨(hSame _).2 hTree.root, fun dir hDir => ?_, fun path hPath => ?_⟩
  · obtain ⟨hCanonical, hParent⟩ := hTree.dirPlaced dir ((hSame dir).1 hDir)
    exact ⟨hCanonical, (hSame _).2 hParent⟩
  · obtain ⟨hCanonical, hParent⟩ := hTree.objectPlaced path hPath
    exact ⟨hCanonical, (hSame _).2 hParent⟩

theorem IsTree.withRoot_makeDirs (hTree : IsTree p.withRoot.dirs objects)
    (hPath : Path.IsCanonical path) : IsTree (p.makeDirs path).withRoot.dirs objects := by
  refine (hTree.makeDirs hPath).congr fun dir => ?_
  simp only [withRoot, Platform.makeDirs, SortedMap.contains_insert_iff,
    SortedMap.contains_insertAll_iff]
  rw [or_left_comm, or_assoc]

/-- The root goes alone, and stays when another directory goes. -/
theorem IsTree.withRoot_removeDirs (hTree : IsTree p.withRoot.dirs objects)
    (hPath : Path.IsCanonical path) :
    IsTree (p.removeDirs path).withRoot.dirs
      (objects.filter fun o _ => !(Path.isBelow o path)) := by
  by_cases hRoot : path = Path.root
  · -- Nothing is below the root by its text, so the deletion takes the root alone.
    subst hRoot
    refine IsTree.filter (p := (p.removeDirs Path.root).withRoot) (hTree.congr fun dir => ?_) _
    rw [contains_withRoot_iff, contains_withRoot_iff, contains_removeDirs_iff]
    refine or_congr_right' fun hDir => and_iff_left_of_imp fun hOld => ⟨?_, hDir⟩
    exact (hTree.dirPlaced dir (contains_withRoot_iff.2 (.inr hOld))).1.not_below_root
  · -- The root is neither this directory nor below it, so putting it back and taking the subtree
    -- away may change places.
    refine (hTree.removeDirs hPath hRoot).congr fun dir => ?_
    have hRootLeft : dir = Path.root → Path.isBelow dir path = false ∧ dir ≠ path := by
      rintro rfl
      exact ⟨hPath.root_not_below hRoot, Ne.symm hRoot⟩
    rw [contains_withRoot_iff, contains_removeDirs_iff, contains_removeDirs_iff,
      contains_withRoot_iff, or_and_right, and_iff_left_of_imp hRootLeft]

/-- Every operation of the workspace keeps the tree, up to its root. -/
theorem IsTree.withRoot_apply (hTree : IsTree p.withRoot.dirs p.objects)
    (hEvent : e.OnCanonical) : IsTree (e.apply p).withRoot.dirs (e.apply p).objects := by
  have hStep := treeStep_apply (p := p) hEvent
  unfold withRoot
  generalize (e.apply p).dirs = dirs, (e.apply p).objects = objects at hStep ⊢
  cases hStep with
  | same => exact hTree
  | made hPath => exact hTree.withRoot_makeDirs hPath
  | added hPath object =>
    have hParent := contains_withRoot_iff.2 (.inr (contains_makeDirs (p := p) hPath.parent))
    exact (hTree.withRoot_makeDirs hPath.parent).insert hPath hParent object
  | imported hPath hParent object =>
    exact hTree.insert hPath (contains_withRoot_iff.2 (.inr hParent)) object
  | erased path => exact hTree.erase path
  | removed hPath hRoot => exact hTree.withRoot_removeDirs hPath

/-- After every history of operations of the workspace, it is a tree up to its root. -/
theorem hasTree_after (hHistory : ∀ e ∈ history, e.OnCanonical) :
    (({} : Platform).after history).HasTree := by
  suffices hBoth : (({} : Platform).after history).Serving ∧
      IsTree (({} : Platform).after history).withRoot.dirs
        (({} : Platform).after history).objects from
    ⟨hBoth.1, (Reachable.consistent ⟨history, rfl⟩).objects, hBoth.2⟩
  induction history using List.reverseRecOn with
  | nil => exact ⟨fun _ => rfl, .start⟩
  | append_singleton history e ih =>
    obtain ⟨hServing, hTree⟩ := ih fun e' hMem => hHistory e' (by simp [hMem])
    have hEvent : e.OnCanonical := hHistory e (by simp)
    rw [after_append]
    exact ⟨hEvent.serving hServing, hTree.withRoot_apply hEvent⟩

/-! ### What is in a directory -/

section Records

variable (hTree : p.HasTree)

include hTree

/-- A record is of a canonical path, in a directory that is there if it is not the root. -/
theorem HasTree.placed (hRecord : p.HasRecord record) :
    Path.IsCanonical record.path ∧
      (Path.parent record.path ≠ Path.root →
        p.dirs.contains (Path.parent record.path) = true) := by
  have hPlaced : Path.IsCanonical record.path ∧
      p.withRoot.dirs.contains (Path.parent record.path) = true := by
    obtain ⟨hThere, -⟩ | ⟨object, hObject, -⟩ := hRecord
    · exact hTree.tree.dirPlaced _ (contains_withRoot_iff.2 (.inr hThere))
    · exact hTree.tree.objectPlaced _ (SortedMap.contains_of_get?_eq_some hObject)
  exact ⟨hPlaced.1, (contains_withRoot_iff.1 hPlaced.2).resolve_left⟩

/-- No notebook has the record of a directory. -/
theorem HasTree.hasRecord_directory_iff :
    p.HasRecord (.directory dir) ↔ p.dirs.contains dir = true := by
  refine ⟨fun hRecord => ?_, fun hThere => .inl ⟨hThere, rfl⟩⟩
  obtain ⟨hThere, -⟩ | ⟨object, hObject, hSame⟩ := hRecord
  · exact hThere
  · have hType := (hTree.kept hObject).1
    rw [← hSame] at hType
    cases hType

theorem HasTree.hasRecord_notebook {object : ObjectEntry}
    (hObject : p.objects.get? path = some object) :
    object.record.path = path ∧ p.HasRecord object.record := by
  have hPath := (hTree.kept hObject).2
  refine ⟨hPath, .inr ⟨object, ?_, rfl⟩⟩
  rw [hPath]
  exact hObject

theorem HasTree.isCanonical (hThere : p.dirs.contains dir = true) : Path.IsCanonical dir :=
  (hTree.placed (hTree.hasRecord_directory_iff.2 hThere)).1

/-- A directory other than the root is listed with the records whose parent it is. -/
theorem HasTree.list_spec (hThere : p.dirs.contains dir = true) (hRoot : dir ≠ Path.root) :
    ∃ records, (p.serve (.workspace (.list dir))).1 = .ok records ∧
      ∀ record, record ∈ records ↔ p.HasRecord record ∧ Path.parent record.path = dir := by
  have hDir := hTree.isCanonical hThere
  refine ⟨_, serve_list hTree.serving hDir hThere, fun record => ?_⟩
  rw [List.mem_append, List.mem_map]
  constructor
  · rintro (⟨child, hChild, rfl⟩ | hObject)
    · obtain ⟨hKey, hIn⟩ := List.mem_filter.1 hChild
      exact ⟨.inl ⟨SortedMap.mem_keys_iff.1 hKey, rfl⟩, (of_decide_eq_true hIn).2⟩
    · obtain ⟨hListed, hIn⟩ := List.mem_filter.1 hObject
      obtain ⟨object, hValue, rfl⟩ := List.mem_map.1 hListed
      obtain ⟨path, hGet⟩ := SortedMap.mem_values_iff.1 hValue
      exact ⟨(hTree.hasRecord_notebook hGet).2, of_decide_eq_true hIn⟩
  · rintro ⟨⟨hChild, hRecord⟩ | ⟨object, hObject, rfl⟩, hIn⟩
    · refine .inl ⟨record.path, List.mem_filter.2 ⟨SortedMap.mem_keys_iff.2 hChild, ?_⟩,
        hRecord.symm⟩
      -- A child is not the directory itself, because only the root is its own parent.
      refine decide_eq_true ⟨fun hSame => hRoot (hDir.eq_root_of_parent ?_), hIn⟩
      rwa [hSame] at hIn
    · refine .inr (List.mem_filter.2 ⟨List.mem_map_of_mem ?_, decide_eq_true hIn⟩)
      exact SortedMap.mem_values_of_get? hObject

/-- What listing finds is below the directory where it begins, or is that directory. -/
theorem HasTree.below_of_listedFrom (hThere : p.dirs.contains dir = true) (hRoot : dir ≠ Path.root)
    (hListed : p.ListedFrom dir record) :
    record = .directory dir ∨ p.HasRecord record ∧ Path.isBelow record.path dir = true := by
  have hDir := hTree.isCanonical hThere
  induction hListed with
  | start => exact .inl rfl
  | @entry middle records record _ hAnswer hMem ih =>
    -- The induction is on the steps of listing, and each goes from a directory that is below
    -- already.
    have hMiddle : p.dirs.contains middle = true ∧
        (middle = dir ∨ Path.isBelow middle dir = true) := by
      obtain hSame | ⟨hRecord, hBelow⟩ := ih
      · obtain rfl : middle = dir := congrArg ObjectRecord.path hSame
        exact ⟨hThere, .inl rfl⟩
      · exact ⟨hTree.hasRecord_directory_iff.1 hRecord, .inr hBelow⟩
    have hNotRoot : middle ≠ Path.root := hDir.ne_root_of_under hRoot hMiddle.2
    obtain ⟨records', hAnswer', hRecords⟩ := hTree.list_spec hMiddle.1 hNotRoot
    obtain rfl : records = records' := Except.ok.inj (hAnswer.symm.trans hAnswer')
    obtain ⟨hRecord, hIn⟩ := (hRecords record).1 hMem
    refine .inr ⟨hRecord, ((hTree.placed hRecord).1.isBelow_iff_parent hDir hRoot).2 ?_⟩
    rw [hIn]
    exact hMiddle.2

/-- What is below a directory is found by listing directories from it on. -/
theorem HasTree.listedFrom_of_below (hThere : p.dirs.contains dir = true) (hRoot : dir ≠ Path.root)
    (hRecord : p.HasRecord record) (hBelow : Path.isBelow record.path dir = true) :
    p.ListedFrom dir record := by
  have hDir := hTree.isCanonical hThere
  have hPath := (hTree.placed hRecord).1
  generalize hSame : record.path = path at hPath
  induction hPath using Path.IsCanonical.induction generalizing record with
  | root =>
    rw [hSame] at hBelow
    exact absurd hBelow (Bool.eq_false_iff.1 (hDir.root_not_below hRoot))
  | entry path hPath _ ih =>
    subst hSame
    -- The parent is the directory, or is below it too.
    have hUnder := (hPath.isBelow_iff_parent hDir hRoot).1 hBelow
    have hNotRoot : Path.parent record.path ≠ Path.root := hDir.ne_root_of_under hRoot hUnder
    have hParentThere := (hTree.placed hRecord).2 hNotRoot
    have hFound : p.ListedFrom dir (.directory (Path.parent record.path)) := by
      obtain hSame | hBelow := hUnder
      · rw [hSame]
        exact .start
      · exact ih (hTree.hasRecord_directory_iff.2 hParentThere) hBelow rfl
    obtain ⟨records, hAnswer, hRecords⟩ := hTree.list_spec hParentThere hNotRoot
    exact .entry hFound hAnswer ((hRecords record).2 ⟨hRecord, rfl⟩)

/-- Listing finds exactly what is below a directory by the beginning of its path. -/
theorem HasTree.listedFrom_iff (hThere : p.dirs.contains dir = true) (hRoot : dir ≠ Path.root) :
    p.ListedFrom dir record ↔
      record = .directory dir ∨ p.HasRecord record ∧ Path.isBelow record.path dir = true := by
  refine ⟨hTree.below_of_listedFrom hThere hRoot, ?_⟩
  rintro (rfl | ⟨hRecord, hBelow⟩)
  · exact .start
  · exact hTree.listedFrom_of_below hThere hRoot hRecord hBelow

/-- What listing finds from a directory has its names at the beginning of its own. -/
theorem HasTree.names_of_listedFrom (hThere : p.dirs.contains dir = true) (hRoot : dir ≠ Path.root)
    (hListed : p.ListedFrom dir record) : Path.names dir <+: Path.names record.path := by
  obtain rfl | ⟨hRecord, hBelow⟩ := (hTree.listedFrom_iff hThere hRoot).1 hListed
  · exact List.prefix_rfl
  · exact (hTree.placed hRecord).1.names_of_isBelow (hTree.isCanonical hThere) hRoot hBelow

end Records

/-! ### Deletion -/

/-- The workspace without a directory and what is below it. -/
def withoutSubtree (p : Platform) (dir : String) : Platform :=
  { p.removeDirs dir with objects := p.objects.filter fun o _ => !(Path.isBelow o dir) }

/-- A directory where no notebook is goes with what is below it, or is refused if something is. -/
theorem deleteObject_directory {recursive : Bool} (hDir : Path.IsCanonical dir)
    (hThere : p.dirs.contains dir = true) (hFree : p.objects.contains dir = false) :
    p.deleteObject dir recursive =
      if !recursive && (p.objects.any (fun o _ => Path.isBelow o dir) ||
          p.dirs.any (fun d _ => Path.isBelow d dir)) then
        .error (refused "DIRECTORY_NOT_EMPTY" ("Folder (" ++ dir ++ ") is not empty"))
      else
        .ok ((), p.withoutSubtree dir) := by
  simp only [deleteObject, hDir.directory_eq, hThere, hFree]
  rfl

/-- The directories that are left are those that listing does not find. -/
theorem HasTree.contains_withoutSubtree_iff (hTree : p.HasTree)
    (hThere : p.dirs.contains dir = true) (hRoot : dir ≠ Path.root) (d : String) :
    (p.withoutSubtree dir).dirs.contains d = true ↔
      p.dirs.contains d = true ∧ ¬p.ListedFrom dir (.directory d) := by
  have hLeft : (p.withoutSubtree dir).dirs.contains d = true ↔
      p.dirs.contains d = true ∧ Path.isBelow d dir = false ∧ d ≠ dir := contains_removeDirs_iff
  rw [hLeft]
  refine and_congr_right fun hOld => ?_
  have hSame : ObjectRecord.directory d = .directory dir ↔ d = dir :=
    ⟨congrArg ObjectRecord.path, congrArg ObjectRecord.directory⟩
  rw [hTree.listedFrom_iff hThere hRoot, hSame, hTree.hasRecord_directory_iff, not_or, and_comm,
    not_and, Bool.not_eq_true]
  exact and_congr_right' ⟨fun hNot _ => hNot, fun hNot => hNot hOld⟩

/-- The notebooks that are left are those that listing does not find, as they were. -/
theorem HasTree.get?_withoutSubtree_iff (hTree : p.HasTree)
    (hThere : p.dirs.contains dir = true) (hRoot : dir ≠ Path.root) (path : String)
    (object : ObjectEntry) :
    (p.withoutSubtree dir).objects.get? path = some object ↔
      p.objects.get? path = some object ∧ ¬p.ListedFrom dir object.record := by
  have hLeft : (p.withoutSubtree dir).objects.get? path = some object ↔
      p.objects.get? path = some object ∧ Path.isBelow path dir = false := by
    rw [withoutSubtree, SortedMap.get?_filter, Option.filter_eq_some_iff, Bool.not_eq_true']
  rw [hLeft]
  refine and_congr_right fun hObject => ?_
  obtain ⟨hPath, hRecord⟩ := hTree.hasRecord_notebook hObject
  -- A notebook never has the record of a directory, so it is found only if it is below.
  have hNotDir : object.record ≠ .directory dir := by
    intro hSame
    have hType := (hTree.kept hObject).1
    rw [hSame] at hType
    cases hType
  rw [hTree.listedFrom_iff hThere hRoot, hPath, or_iff_right hNotDir, and_iff_right hRecord,
    Bool.not_eq_true]

/-- After every history of operations of the workspace on canonical paths, a directory other than
the root at which there is no notebook is deleted with exactly what is found by listing directories
from it on: each of the other directories and notebooks stays as it is, with its record and its
content, and so does all else on the platform.  What is found has the names of the directory at the
beginning of its own, so that a name which only begins like the last of them is not meant. -/
theorem recursive_delete_subtree (hHistory : ∀ e ∈ history, e.OnCanonical)
    (hThere : (({} : Platform).after history).dirs.contains dir = true) (hRoot : dir ≠ Path.root)
    (hFree : (({} : Platform).after history).objects.contains dir = false) :
    let p := ({} : Platform).after history
    ∃ dirs objects,
      p.serve (.workspace (.delete dir true)) =
        (.ok (), { p.count "workspace/delete" with dirs := dirs, objects := objects }) ∧
      (∀ d, dirs.contains d = true ↔
        p.dirs.contains d = true ∧ ¬p.ListedFrom dir (.directory d)) ∧
      (∀ path object, objects.get? path = some object ↔
        p.objects.get? path = some object ∧ ¬p.ListedFrom dir object.record) ∧
      ∀ record, p.ListedFrom dir record → Path.names dir <+: Path.names record.path := by
  intro p
  have hTree : p.HasTree := hasTree_after hHistory
  have hDelete : (p.count "workspace/delete").deleteObject dir true = _ :=
    deleteObject_directory (hTree.isCanonical hThere) hThere hFree
  refine ⟨(p.withoutSubtree dir).dirs, (p.withoutSubtree dir).objects,
    serve_of_ok (c := .workspace (.delete dir true)) (hTree.serving _) hDelete, ?_, ?_, ?_⟩
  · exact hTree.contains_withoutSubtree_iff hThere hRoot
  · exact hTree.get?_withoutSubtree_iff hThere hRoot
  · exact fun record => hTree.names_of_listedFrom hThere hRoot

/-- Below and beside a directory; the root has been deleted. -/
def beside : List Event := [
  .addNotebook "/a/b/c/n" .python ⟨#[1]⟩,
  .addNotebook "/a/bc" .sql ⟨#[2]⟩,
  .call (.workspace (.mkdirs "/a/b.d")),
  .call (.workspace (.delete "/" true))]

theorem recursive_delete_subtree_beside :
    let p := ({} : Platform).after beside
    let q := (p.serve (.workspace (.delete "/a/b" true))).2
    ((∀ e ∈ beside, e.OnCanonical) ∧ p.dirs.contains "/a/b" = true ∧ "/a/b" ≠ Path.root ∧
      p.objects.contains "/a/b" = false) ∧
      q.dirs.keys = ["/a", "/a/b.d"] ∧ q.objects.keys = ["/a/bc"] ∧
        p.ListedFrom "/a/b" (.directory "/a/b/c") ∧ ¬p.ListedFrom "/a/b" (.directory "/a/b.d") := by
  intro p q
  have hHistory : ∀ e ∈ beside, e.OnCanonical := by
    simp only [beside, List.forall_mem_cons, Event.OnCanonical, Event.OnWorkspace]
    exact ⟨by decide, by decide, by decide, by decide, List.forall_mem_nil _⟩
  have hThere : p.dirs.contains "/a/b" = true := by decide
  have hRoot : "/a/b" ≠ Path.root := by decide
  have hFree : p.objects.contains "/a/b" = false := by decide
  obtain ⟨dirs, objects, hServe, hDirs, -, hNames⟩ :=
    recursive_delete_subtree hHistory hThere hRoot hFree
  have hLeft : q.dirs = dirs := congrArg (·.2.dirs) hServe
  refine ⟨⟨hHistory, hThere, hRoot, hFree⟩, by decide, by decide, ?_, fun hListed => ?_⟩
  · by_contra hNot
    have hKept := (hDirs "/a/b/c").2 ⟨by decide, hNot⟩
    rw [← hLeft] at hKept
    revert hKept
    decide
  · have hPrefix := hNames _ hListed
    revert hPrefix
    decide

end SparkFleet.Platform
