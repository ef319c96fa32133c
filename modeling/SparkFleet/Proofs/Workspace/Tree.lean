import SparkFleet.Proofs.Path
import SparkFleet.Proofs.Platform.Reading

/-!
# The tree of the workspace

A path is looked at in four ways: the directories above it are found from its names, its parent from
the last slash, a directory by the path without slashes at the end, and what is below a directory by
the beginning of the text.  For canonical paths the four agree, and so the workspace is a tree as
long as it is changed through canonical paths alone (`IsTree`): each entry has its parent, and all
of it is found by listing directories from the root (`Listed`).

`TreeStep` lists what one operation can make of the directories and the notebooks; none of it breaks
the tree but a deletion of the root.  `NotebookStep` lists what one event can do to the notebook at
a path; with it, what is exported from a path is what its history says (`LastWritten`).  The main
statement `workspace_is_tree` puts both together for every history of operations of the workspace.
-/

namespace SparkFleet.Platform

variable {p q : Platform} {e : Event} {path : String}

/-! ### Operations of the workspace -/

/-- The event is an operation of the workspace on a canonical path, and does not delete the root. -/
def Event.OnWorkspace : Event → Prop
  | .call (.workspace (.mkdirs path)) => Path.IsCanonical path
  | .call (.workspace (.importNotebook n)) => Path.IsCanonical n.path
  | .call (.workspace (.delete path _)) => Path.IsCanonical path ∧ path ≠ Path.root
  | .call (.workspace (.getStatus _)) | .call (.workspace (.list _))
  | .call (.workspace (.exportNotebook _ _)) => True
  | .addNotebook path _ _ => Path.IsCanonical path
  | _ => False

/-- The event is an operation of the workspace on a canonical path; the root may be deleted. -/
def Event.OnCanonical : Event → Prop
  | .call (.workspace (.delete path _)) => Path.IsCanonical path
  | e => e.OnWorkspace

theorem Event.OnWorkspace.onCanonical (hEvent : e.OnWorkspace) : e.OnCanonical := by
  unfold Event.OnCanonical
  split
  · exact hEvent.1
  · exact hEvent

/-- What is found by listing directories, from the root on. -/
inductive Listed (p : Platform) : ObjectRecord → Prop where
  | root : Listed p (.directory Path.root)
  | entry {dir : String} {records : List ObjectRecord} {record : ObjectRecord}
      (hDir : Listed p (.directory dir))
      (hAnswer : (p.serve (.workspace (.list dir))).1 = .ok records) (hMem : record ∈ records) :
      Listed p record

/-- The content that an event writes to the notebook at a path, if it is accepted. -/
def Event.written (path : String) (p : Platform) : Event → List ByteArray
  | .addNotebook target _ content => if target = path then [content] else []
  | .call (.workspace (.importNotebook n)) =>
    if n.path = path ∧ (p.serve (.workspace (.importNotebook n))).1.isOk then [n.content] else []
  | _ => []

/-- The event is a deletion that is accepted: of the notebook at a path, or of a directory that the
path is below.  A notebook is meant where one is at the path that is deleted. -/
def Event.Deletes (path : String) (p : Platform) : Event → Prop
  | .call (.workspace (.delete target recursive)) =>
    (p.serve (.workspace (.delete target recursive))).1.isOk ∧
      if p.objects.contains target then target = path else Path.isBelow path target
  | _ => False

/-- No event of a history deletes the notebook at a path. -/
def Spares (path : String) : Platform → List Event → Prop
  | _, [] => True
  | p, e :: history => ¬e.Deletes path p ∧ Spares path (e.apply p) history

/-- The notebook at a path has been written, with this content at last, and not deleted since. -/
def LastWritten (history : List Event) (path : String) (content : ByteArray) : Prop :=
  ∃ before rest, history = before ++ rest ∧
    Spares path (({} : Platform).after before) rest ∧
    (gathered (Event.written path) (({} : Platform).after before) rest).getLast? = some content

/-! ### The tree -/

/-- The root is there, every directory and everything that is kept at a path is placed in a
directory, and the paths are canonical. -/
structure IsTree {ν : Type} (dirs : SortedMap String Unit) (objects : SortedMap String ν) :
    Prop where
  root : dirs.contains Path.root = true
  dirPlaced : ∀ dir, dirs.contains dir = true →
    Path.IsCanonical dir ∧ dirs.contains (Path.parent dir) = true
  objectPlaced : ∀ path, objects.contains path = true →
    Path.IsCanonical path ∧ dirs.contains (Path.parent path) = true

theorem IsTree.start {ν : Type} :
    IsTree ({} : Platform).dirs (.empty : SortedMap String ν) := by
  refine ⟨rfl, fun dir hDir => ?_, fun path hPath => nomatch hPath⟩
  obtain rfl : dir = Path.root := by
    obtain ⟨v, hGet⟩ := SortedMap.contains_iff_exists.1 hDir
    have hMem := (SortedMap.get?_eq_some_iff _).1 hGet
    exact congrArg Prod.fst (List.mem_singleton.1 hMem)
  exact ⟨rfl, rfl⟩

section Dirs

variable {ν : Type} {names : List (List Char)} {objects : SortedMap String ν}

/-- The directories that are made for a path are the beginnings of its names; the root is there. -/
theorem contains_makeDirs_iff (hNames : ∀ name ∈ names, Path.IsName name)
    (hRoot : p.dirs.contains Path.root = true) (dir : String) :
    (p.makeDirs (Path.ofNames names)).dirs.contains dir = true ↔
      p.dirs.contains dir = true ∨ ∃ first, first <+: names ∧ dir = Path.ofNames first := by
  have hKeys : ((Path.above (Path.ofNames names)).map fun d => (d, ())).map (·.1) =
      Path.above (Path.ofNames names) := by
    simp [Function.comp_def]
  simp only [makeDirs, SortedMap.contains_insert_iff, SortedMap.contains_insertAll_iff, hKeys,
    Path.directory_ofNames hNames, Path.mem_above_iff hNames]
  constructor
  · rintro (rfl | hOld | ⟨first, -, hPrefix, rfl⟩)
    · exact .inr ⟨names, List.prefix_rfl, rfl⟩
    · exact .inl hOld
    · exact .inr ⟨first, hPrefix.trans (List.dropLast_prefix names), rfl⟩
  · rintro (hOld | ⟨first, hPrefix, rfl⟩)
    · exact .inr (.inl hOld)
    · -- The root and the path itself are not among the directories above the path.
      by_cases hFirst : first = []
      · exact .inr (.inl (hFirst ▸ hRoot))
      · by_cases hAll : first = names
        · exact .inl (congrArg Path.ofNames hAll)
        · exact .inr (.inr ⟨first, hFirst, Path.prefix_dropLast hPrefix hAll, rfl⟩)

theorem IsTree.makeDirs (hTree : IsTree p.dirs objects) (hPath : Path.IsCanonical path) :
    IsTree (p.makeDirs path).dirs objects := by
  obtain ⟨names, hNames, rfl⟩ := hPath.exists_names
  have hMade := contains_makeDirs_iff hNames hTree.root
  refine ⟨(hMade _).2 (.inl hTree.root), fun dir hDir => ?_, fun object hObject => ?_⟩
  · -- A new directory is a beginning of the names, and so is its parent.
    rcases (hMade dir).1 hDir with hOld | ⟨first, hPrefix, rfl⟩
    · obtain ⟨hCanonical, hParent⟩ := hTree.dirPlaced dir hOld
      exact ⟨hCanonical, (hMade _).2 (.inl hParent)⟩
    · have hFirst : ∀ name ∈ first, Path.IsName name := fun name hMem =>
        hNames name (hPrefix.subset hMem)
      have hParent : first.dropLast <+: names := (List.dropLast_prefix first).trans hPrefix
      rw [Path.parent_ofNames hFirst]
      exact ⟨Path.isCanonical_ofNames hFirst, (hMade _).2 (.inr ⟨_, hParent, rfl⟩)⟩
  · obtain ⟨hCanonical, hParent⟩ := hTree.objectPlaced object hObject
    exact ⟨hCanonical, (hMade _).2 (.inl hParent)⟩

/-- After a path is made it is there. -/
theorem contains_makeDirs (hPath : Path.IsCanonical path) :
    (p.makeDirs path).dirs.contains path = true := by
  obtain ⟨names, hNames, rfl⟩ := hPath.exists_names
  rw [makeDirs, Path.directory_ofNames hNames]
  exact SortedMap.contains_insert_iff.2 (.inl rfl)

theorem contains_removeDirs_iff {dir : String} :
    (p.removeDirs path).dirs.contains dir = true ↔
      p.dirs.contains dir = true ∧ Path.isBelow dir path = false ∧ dir ≠ path := by
  simp [removeDirs, SortedMap.contains_filter_iff]

/-- A directory is deleted with all that is below it. -/
theorem IsTree.removeDirs (hTree : IsTree p.dirs objects) (hPath : Path.IsCanonical path)
    (hRoot : path ≠ Path.root) :
    IsTree (p.removeDirs path).dirs (objects.filter fun o _ => !(Path.isBelow o path)) := by
  have hRootLeft := contains_removeDirs_iff.2 ⟨hTree.root, hPath.root_not_below hRoot, hRoot.symm⟩
  -- The parent of what is left is left, since nothing is below the directory without its parent.
  have hParentLeft : ∀ other, Path.IsCanonical other → Path.isBelow other path = false →
      Path.isBelow (Path.parent other) path = false ∧ Path.parent other ≠ path := by
    intro other hOther hNot
    have hBelow := hOther.isBelow_iff_parent hPath hRoot
    rw [hNot] at hBelow
    simpa [and_comm] using hBelow
  refine ⟨hRootLeft, fun dir hDir => ?_, fun object hObject => ?_⟩
  · obtain ⟨hOld, hNot, -⟩ := contains_removeDirs_iff.1 hDir
    obtain ⟨hCanonical, hParent⟩ := hTree.dirPlaced dir hOld
    exact ⟨hCanonical, contains_removeDirs_iff.2 ⟨hParent, hParentLeft dir hCanonical hNot⟩⟩
  · obtain ⟨hOld, hNot⟩ := SortedMap.contains_filter_iff.1 hObject
    obtain ⟨hCanonical, hParent⟩ := hTree.objectPlaced object hOld
    have hNot' : Path.isBelow object path = false := by simpa using hNot
    exact ⟨hCanonical, contains_removeDirs_iff.2 ⟨hParent, hParentLeft object hCanonical hNot'⟩⟩

theorem IsTree.insert (hTree : IsTree p.dirs objects) (hPath : Path.IsCanonical path)
    (hParent : p.dirs.contains (Path.parent path) = true) (object : ν) :
    IsTree p.dirs (objects.insert path object) := by
  refine ⟨hTree.root, hTree.dirPlaced, fun other hOther => ?_⟩
  rcases SortedMap.contains_insert_iff.1 hOther with rfl | hOld
  · exact ⟨hPath, hParent⟩
  · exact hTree.objectPlaced other hOld

/-- What is no directory may go. -/
theorem IsTree.filter (hTree : IsTree p.dirs objects) (keep : String → ν → Bool) :
    IsTree p.dirs (objects.filter keep) := by
  refine ⟨hTree.root, hTree.dirPlaced, fun other hOther => hTree.objectPlaced other ?_⟩
  obtain ⟨object, hGet⟩ := SortedMap.contains_iff_exists.1 hOther
  rw [SortedMap.get?_filter] at hGet
  exact SortedMap.contains_of_get?_eq_some (Option.filter_eq_some_iff.1 hGet).1

theorem IsTree.erase (hTree : IsTree p.dirs objects) (path : String) :
    IsTree p.dirs (objects.erase path) :=
  hTree.filter _

end Dirs

/-! ### One event -/

/-- A deletion takes away the notebook at its path, or else the directory. -/
theorem deleteObject_eq_ok {recursive : Bool} {u : Unit}
    (h : p.deleteObject path recursive = .ok (u, q)) :
    (p.objects.contains path = true ∧ q = { p with objects := p.objects.erase path }) ∨
      (p.objects.contains path = false ∧
        q = { p.removeDirs (Path.directory path) with
          objects := p.objects.filter fun o _ => !(Path.isBelow o (Path.directory path)) }) := by
  simp only [deleteObject] at h
  -- Only where there is no notebook is a directory looked for.
  split at h
  · next hObject =>
    cases h
    exact .inl ⟨hObject, rfl⟩
  · next hObject =>
    split at h
    · cases h
    · split at h
      · cases h
      · cases h
        exact .inr ⟨Bool.eq_false_iff.2 hObject, rfl⟩

/-- What an operation of the workspace can make of its directories and notebooks. -/
inductive TreeStep (p : Platform) (e : Event) :
    SortedMap String Unit → SortedMap String ObjectEntry → Prop where
  | same : TreeStep p e p.dirs p.objects
  | made {path : String} (hPath : Path.IsCanonical path) :
      TreeStep p e (p.makeDirs path).dirs p.objects
  /-- A notebook is put in place with the directories above it. -/
  | added {path : String} (hPath : Path.IsCanonical path) (object : ObjectEntry) :
      TreeStep p e (p.makeDirs (Path.parent path)).dirs (p.objects.insert path object)
  | imported {path : String} (hPath : Path.IsCanonical path)
      (hParent : p.dirs.contains (Path.parent path) = true) (object : ObjectEntry) :
      TreeStep p e p.dirs (p.objects.insert path object)
  | erased (path : String) : TreeStep p e p.dirs (p.objects.erase path)
  | removed {path : String} (hPath : Path.IsCanonical path)
      (hRoot : e.OnWorkspace → path ≠ Path.root) :
      TreeStep p e (p.removeDirs path).dirs (p.objects.filter fun o _ => !(Path.isBelow o path))

theorem treeStep_apply (hEvent : e.OnCanonical) :
    TreeStep p e (e.apply p).dirs (e.apply p).objects := by
  cases e with
  | addNotebook target language content => exact .added hEvent _
  | call c =>
    refine serve_induction (motive := fun q => TreeStep p (.call c) q.dirs q.objects) .same
      fun a q h => ?_
    cases c with
    | workspace call =>
      cases call with
      | mkdirs target =>
        cases h
        exact .made hEvent
      | delete target recursive =>
        have hPath : Path.IsCanonical target := hEvent
        obtain ⟨-, rfl⟩ | ⟨-, rfl⟩ := deleteObject_eq_ok (p := p.count _) h
        · -- The directories may hold a path of the same name, and they stay.
          exact .erased target
        · rw [hPath.directory_eq]
          exact .removed hPath And.right
      | importNotebook n =>
        obtain ⟨-, hParent, rfl⟩ := importNotebook_eq_ok (p := p.count _) h
        exact TreeStep.imported (p := p) hEvent hParent _
      | getStatus target | list target | exportNotebook target format =>
        obtain ⟨found, -, h⟩ := map_eq_ok h
        cases h
        exact .same
    | clusters | jobs | libraries | files => exact hEvent.elim
  | _ => exact hEvent.elim

/-- Every operation of the workspace that does not delete the root keeps the tree. -/
theorem IsTree.apply (hTree : IsTree p.dirs p.objects) (hEvent : e.OnWorkspace) :
    IsTree (e.apply p).dirs (e.apply p).objects := by
  have hStep := treeStep_apply (p := p) hEvent.onCanonical
  generalize (e.apply p).dirs = dirs, (e.apply p).objects = objects at hStep ⊢
  cases hStep with
  | same => exact hTree
  | made hPath => exact hTree.makeDirs hPath
  | added hPath object =>
    -- The parent is made first, so the notebook is placed when it comes.
    exact (hTree.makeDirs hPath.parent).insert hPath (contains_makeDirs hPath.parent) object
  | imported hPath hParent object => exact hTree.insert hPath hParent object
  | erased path => exact hTree.erase path
  | removed hPath hRoot => exact hTree.removeDirs hPath (hRoot hEvent)

/-- No operation of the workspace makes calls be refused. -/
theorem Event.OnCanonical.serving (hEvent : e.OnCanonical) (hServing : p.Serving) :
    (e.apply p).Serving := by
  cases e with
  | call c => exact serving_serve_iff.2 hServing
  | addNotebook => exact hServing
  | _ => exact hEvent.elim

/-- What an event can do to the notebook at a path: its content before and after. -/
inductive NotebookStep (p : Platform) (path : String) (e : Event) :
    Option ByteArray → Option ByteArray → Prop where
  | same (before : Option ByteArray) (hWritten : e.written path p = [])
      (hSpares : ¬e.Deletes path p) : NotebookStep p path e before before
  | written (content : ByteArray) (before : Option ByteArray)
      (hWritten : e.written path p = [content]) (hSpares : ¬e.Deletes path p) :
      NotebookStep p path e before (some content)
  | deleted (before : Option ByteArray) (hDeletes : e.Deletes path p) :
      NotebookStep p path e before none

/-- The content of the notebook at a path. -/
def notebookAt (p : Platform) (path : String) : Option ByteArray :=
  (p.objects.get? path).map (·.content)

/-- A notebook that is written is there, and the others stay. -/
theorem notebookAt_insert {target : String} {object : ObjectEntry}
    (hObjects : q.objects = p.objects.insert target object) :
    q.notebookAt path = if path = target then some object.content else p.notebookAt path := by
  rw [notebookAt, notebookAt, hObjects, SortedMap.get?_insert]
  split <;> rfl

theorem NotebookStep.of_eq (hObjects : q.objects = p.objects) (hWritten : e.written path p = [])
    (hSpares : ¬e.Deletes path p) :
    NotebookStep p path e (p.notebookAt path) (q.notebookAt path) := by
  rw [notebookAt, notebookAt, hObjects]
  exact .same _ hWritten hSpares

/-- A call that is refused does nothing to notebooks. -/
theorem notebookStep_refused {c : Call} {cause : ApiError}
    (hServe : p.serve c = (.error cause, q)) :
    NotebookStep p path (.call c) (p.notebookAt path) (q.notebookAt path) := by
  obtain ⟨rfl, -⟩ := serve_eq_error hServe
  have hRefused : (p.serve c).1.isOk = false := by
    rw [hServe]
    rfl
  refine .of_eq rfl ?_ ?_
  · cases c with
    | workspace call =>
      cases call with
      | importNotebook n => simp [Event.written, hRefused]
      | _ => rfl
    | _ => rfl
  · cases c with
    | workspace call =>
      cases call with
      | delete target recursive => simp [Event.Deletes, hRefused]
      | _ => exact id
    | _ => exact id

theorem notebookStep_import {n : NotebookImport} {u : Unit}
    (hServe : p.serve (.workspace (.importNotebook n)) = (.ok u, q)) :
    NotebookStep p path (.call (.workspace (.importNotebook n))) (p.notebookAt path)
      (q.notebookAt path) := by
  obtain ⟨-, -, hAfter⟩ :=
    importNotebook_eq_ok (p := p.count "workspace/import") (serve_eq_ok hServe)
  have hObjects := congrArg Platform.objects hAfter
  have hAccepted : (p.serve (.workspace (.importNotebook n))).1.isOk = true := by
    rw [hServe]
    rfl
  rw [notebookAt_insert (p := p) hObjects]
  split
  · -- The path itself is written, whether or not a notebook was there.
    next hPath =>
    refine .written n.content _ ?_ id
    simp [Event.written, hAccepted, hPath]
  · next hPath =>
    refine .same _ ?_ id
    simp [Event.written, Ne.symm hPath]

theorem notebookStep_delete {target : String} {recursive : Bool} {u : Unit}
    (hTarget : Path.IsCanonical target)
    (hServe : p.serve (.workspace (.delete target recursive)) = (.ok u, q)) :
    NotebookStep p path (.call (.workspace (.delete target recursive))) (p.notebookAt path)
      (q.notebookAt path) := by
  have hDeleted := deleteObject_eq_ok (p := p.count "workspace/delete") (serve_eq_ok hServe)
  have hDeletes : (Event.call (.workspace (.delete target recursive))).Deletes path p ↔
      if p.objects.contains target then target = path else Path.isBelow path target := by
    rw [Event.Deletes, hServe]
    exact and_iff_right rfl
  rw [hTarget.directory_eq] at hDeleted
  -- A notebook at the target goes alone; without one, all that are below the target go.
  obtain ⟨hObject, rfl⟩ | ⟨hNone, rfl⟩ := hDeleted
  · have hThere : p.objects.contains target = true := hObject
    rw [if_pos hThere] at hDeletes
    change NotebookStep p path _ _ (((p.objects.erase target).get? path).map (·.content))
    rw [SortedMap.get?_erase]
    split
    · next hPath => exact .deleted _ (hDeletes.2 hPath.symm)
    · next hPath => exact .same _ rfl (mt hDeletes.1 (Ne.symm hPath))
  · have hFree : ¬p.objects.contains target = true := Bool.eq_false_iff.1 hNone
    rw [if_neg hFree] at hDeletes
    change NotebookStep p path _ _
      (((p.objects.filter fun o _ => !(Path.isBelow o target)).get? path).map (·.content))
    rw [SortedMap.get?_filter]
    by_cases hBelow : Path.isBelow path target = true
    · have hGone : (p.objects.get? path).filter (fun _ => !(Path.isBelow path target)) = none := by
        simp [hBelow]
      rw [hGone]
      exact .deleted _ (hDeletes.2 hBelow)
    · have hKept : (p.objects.get? path).filter (fun _ => !(Path.isBelow path target)) =
          p.objects.get? path := by
        cases p.objects.get? path <;> simp [hBelow]
      rw [hKept]
      exact .same _ rfl (mt hDeletes.1 hBelow)

/-- What an operation of the workspace can do to the notebook at a path. -/
theorem notebook_step (hEvent : e.OnWorkspace) (path : String) :
    NotebookStep p path e (p.notebookAt path) ((e.apply p).notebookAt path) := by
  cases e with
  | addNotebook target language content =>
    have hObjects : (p.addNotebook target language content).objects =
        p.objects.insert target (p.newNotebook target (some language) content) := rfl
    change NotebookStep p path _ _ ((p.addNotebook target language content).notebookAt path)
    rw [notebookAt_insert hObjects]
    split
    · next hPath =>
      refine .written content _ ?_ id
      rw [Event.written, if_pos hPath.symm]
    · next hPath =>
      refine .same _ ?_ id
      rw [Event.written, if_neg (Ne.symm hPath)]
  | call c =>
    obtain ⟨a, q, hServe, hPerform⟩ | ⟨cause, hServe, -⟩ := p.serve_cases c
    · have hApply : (Event.call c).apply p = q := congrArg Prod.snd hServe
      rw [hApply]
      cases c with
      | workspace call =>
        cases call with
        | mkdirs target =>
          cases hPerform
          exact .of_eq rfl rfl id
        | delete target recursive => exact notebookStep_delete hEvent.1 hServe
        | importNotebook n => exact notebookStep_import hServe
        | getStatus target | list target | exportNotebook target format =>
          obtain ⟨found, -, h⟩ := map_eq_ok hPerform
          cases h
          exact .of_eq rfl rfl id
      | clusters | jobs | libraries | files => exact hEvent.elim
    · have hApply : (Event.call c).apply p = p.count c.endpoint := congrArg Prod.snd hServe
      rw [hApply]
      exact notebookStep_refused hServe
  | _ => exact hEvent.elim

/-! ### Histories -/

variable {history : List Event} {content : ByteArray}

theorem spares_concat (path : String) (p : Platform) (history : List Event) (e : Event) :
    Spares path p (history ++ [e]) ↔ Spares path p history ∧ ¬e.Deletes path (p.after history) := by
  induction history generalizing p with
  | nil => simp [Spares]
  | cons first history ih =>
    rw [List.cons_append, Spares, Spares, ih, after_cons, and_assoc]

/-- What was written last, seen from the last event. -/
theorem lastWritten_concat_iff :
    LastWritten (history ++ [e]) path content ↔
      ¬e.Deletes path (({} : Platform).after history) ∧
        ((e.written path (({} : Platform).after history) = [] ∧ LastWritten history path content) ∨
          (e.written path (({} : Platform).after history)).getLast? = some content) := by
  constructor
  · rintro ⟨before, rest, hSplit, hSpares, hLast⟩
    -- The part with the last writing ends with the event, since it is not empty.
    obtain rfl | ⟨rest, e', rfl⟩ := rest.eq_nil_or_concat'
    · cases hLast
    · rw [← List.append_assoc] at hSplit
      obtain ⟨rfl, hEvent⟩ := List.append_inj' hSplit rfl
      obtain rfl : e = e' := List.singleton_inj.1 hEvent
      rw [spares_concat] at hSpares
      rw [gathered_concat] at hLast
      rw [after_append]
      refine ⟨hSpares.2, ?_⟩
      by_cases hWritten : e.written path ((({} : Platform).after before).after rest) = []
      · rw [hWritten, List.append_nil] at hLast
        exact .inl ⟨hWritten, before, rest, rfl, hSpares.1, hLast⟩
      · rw [List.getLast?_append_of_ne_nil _ hWritten] at hLast
        exact .inr hLast
  · rintro ⟨hSpares, ⟨hWritten, before, rest, rfl, hRest, hLast⟩ | hLast⟩
    · refine ⟨before, rest ++ [e], (List.append_assoc ..), ?_, ?_⟩
      · rw [after_append] at hSpares
        exact (spares_concat ..).2 ⟨hRest, hSpares⟩
      · rw [after_append] at hWritten
        rw [gathered_concat, hWritten, List.append_nil, hLast]
    · refine ⟨history, [e], rfl, ⟨hSpares, trivial⟩, ?_⟩
      rw [gathered, gathered, List.append_nil, hLast]

/-- The content of a notebook is what its history says. -/
theorem notebookAt_after (hHistory : ∀ e ∈ history, e.OnWorkspace) (path : String)
    (content : ByteArray) :
    (({} : Platform).after history).notebookAt path = some content ↔
      LastWritten history path content := by
  induction history using List.reverseRecOn generalizing content with
  | nil =>
    constructor
    · intro hNone
      cases hNone
    · rintro ⟨before, rest, hSplit, -, hLast⟩
      obtain ⟨rfl, rfl⟩ := List.append_eq_nil_iff.1 hSplit.symm
      cases hLast
  | append_singleton history e ih =>
    -- The history is taken apart at its end, where the last writing and the last deletion are.
    have hBefore := ih fun e' hMem => hHistory e' (by simp [hMem])
    have hStep := notebook_step (p := ({} : Platform).after history) (hHistory e (by simp)) path
    have hApply : ({} : Platform).after (history ++ [e]) =
        e.apply (({} : Platform).after history) := after_append ..
    rw [lastWritten_concat_iff, hApply, ← hBefore]
    -- What is left to see is that the step agrees with the one of `lastWritten_concat_iff`.
    generalize (({} : Platform).after history).notebookAt path = before at hStep
    generalize (e.apply (({} : Platform).after history)).notebookAt path = after at hStep
    cases hStep with
    | same _ hWritten hSpares => simp [hWritten, hSpares]
    | written new _ hWritten hSpares => simp [hWritten, hSpares]
    | deleted _ hDeletes => simp [hDeletes]

/-- An empty platform and one that is used through the workspace refuse no calls. -/
theorem serving_after (hHistory : ∀ e ∈ history, e.OnWorkspace) :
    (({} : Platform).after history).Serving := by
  induction history using List.reverseRecOn with
  | nil => exact fun _ => rfl
  | append_singleton history e ih =>
    have hBefore := ih fun e' hMem => hHistory e' (by simp [hMem])
    rw [after_append]
    exact (hHistory e (by simp)).onCanonical.serving hBefore

theorem isTree_after (hHistory : ∀ e ∈ history, e.OnWorkspace) :
    IsTree (({} : Platform).after history).dirs (({} : Platform).after history).objects := by
  induction history using List.reverseRecOn with
  | nil => exact .start
  | append_singleton history e ih =>
    have hBefore := ih fun e' hMem => hHistory e' (by simp [hMem])
    rw [after_append]
    exact hBefore.apply (hHistory e (by simp))

/-! ### Listing -/

/-- What is listed of a directory: its directories, then its notebooks. -/
theorem serve_list {dir : String} (hServing : p.Serving) (hDir : Path.IsCanonical dir)
    (hThere : p.dirs.contains dir = true) :
    (p.serve (.workspace (.list dir))).1 =
      .ok ((p.subdirs dir).map .directory ++
        (p.objects.values.map (·.record)).filter fun o => Path.parent o.path = dir) := by
  have hAnswer : (p.serve (.workspace (.list dir))).1 = p.listObjects dir :=
    (serve_read (c := .workspace (.list dir)) rfl).2.2 hServing
  rw [hAnswer, listObjects, hDir.directory_eq]
  exact if_pos hThere

/-- Every directory is found from the root. -/
theorem listed_directory (hTree : IsTree p.dirs p.objects) (hServing : p.Serving) {dir : String}
    (hThere : p.dirs.contains dir = true) : p.Listed (.directory dir) := by
  have hDir := (hTree.dirPlaced dir hThere).1
  induction hDir using Path.IsCanonical.induction with
  | root => exact .root
  | entry dir hDir hRoot ih =>
    -- Canonical paths get shorter towards the root, so the parent is listed by induction.
    have hParentThere := (hTree.dirPlaced dir hThere).2
    have hOther : dir ≠ Path.parent dir := fun hSame => hRoot (hDir.eq_root_of_parent hSame.symm)
    have hMem : dir ∈ p.subdirs (Path.parent dir) :=
      List.mem_filter.2 ⟨SortedMap.mem_keys_iff.2 hThere, decide_eq_true ⟨hOther, rfl⟩⟩
    exact .entry (ih hParentThere) (serve_list hServing hDir.parent hParentThere)
      (List.mem_append_left _ (List.mem_map_of_mem hMem))

/-- Every notebook is found from the root. -/
theorem listed_notebook (hTree : IsTree p.dirs p.objects) (hServing : p.Serving)
    (hKept : p.objects.All NotebookKept) {object : ObjectEntry}
    (hObject : p.objects.get? path = some object) : p.Listed object.record := by
  have hThere := SortedMap.contains_of_get?_eq_some hObject
  obtain ⟨hCanonical, hParent⟩ := hTree.objectPlaced path hThere
  have hMem : object.record ∈ (p.objects.values.map (·.record)).filter fun o =>
      Path.parent o.path = Path.parent path := by
    refine List.mem_filter.2 ⟨List.mem_map_of_mem (SortedMap.mem_values_of_get? hObject), ?_⟩
    rw [(hKept hObject).2]
    exact decide_eq_true rfl
  exact .entry (listed_directory hTree hServing hParent)
    (serve_list hServing hCanonical.parent hParent) (List.mem_append_right _ hMem)

/-- What is exported is the content of the notebook at the path. -/
theorem serve_export_iff (hServing : p.Serving) (format : ExportFormat) (content : ByteArray) :
    (p.serve (.workspace (.exportNotebook path format))).1 = .ok content ↔
      p.notebookAt path = some content := by
  have hAnswer : (p.serve (.workspace (.exportNotebook path format))).1 = p.exportContent path :=
    (serve_read (c := .workspace (.exportNotebook path format)) rfl).2.2 hServing
  rw [hAnswer, exportContent, notebookAt]
  cases p.objects.get? path <;> simp

/-- After every history of operations of the workspace on canonical paths, in which the root is
never deleted, the workspace is a tree: the parent of every notebook and of every directory is
there, and they are found by listing directories from the root.  The export of a path succeeds
exactly if a notebook has been written there and not been deleted since, alone or with a directory
above it, and gives what was written last. -/
theorem workspace_is_tree (hHistory : ∀ e ∈ history, e.OnWorkspace) :
    let p := ({} : Platform).after history
    (∀ path object, p.objects.get? path = some object →
      p.dirs.contains (Path.parent path) = true ∧ object.record.path = path ∧
        p.Listed object.record) ∧
    (∀ dir, p.dirs.contains dir = true → dir ≠ Path.root →
      p.dirs.contains (Path.parent dir) = true ∧ p.Listed (.directory dir)) ∧
    ∀ path format content,
      (p.serve (.workspace (.exportNotebook path format))).1 = .ok content ↔
        LastWritten history path content := by
  intro p
  have hTree : IsTree p.dirs p.objects := isTree_after hHistory
  have hServing : p.Serving := serving_after hHistory
  have hKept : p.objects.All NotebookKept := (Reachable.consistent ⟨history, rfl⟩).objects
  refine ⟨fun path object hObject => ?_, fun dir hDir _ => ?_, fun path format content => ?_⟩
  · have hThere := SortedMap.contains_of_get?_eq_some hObject
    have hParent := (hTree.objectPlaced path hThere).2
    exact ⟨hParent, (hKept hObject).2, listed_notebook hTree hServing hKept hObject⟩
  · exact ⟨(hTree.dirPlaced dir hDir).2, listed_directory hTree hServing hDir⟩
  · rw [serve_export_iff hServing, notebookAt_after hHistory]

/-- A path that is a directory and a notebook: the notebook is deleted, and what is in the directory
is written anew. -/
def sharedPath : List Event := [
  .call (.workspace (.mkdirs "/a/b")),
  .addNotebook "/a/b" .python ⟨#[1]⟩,
  .addNotebook "/a/b/c" .sql ⟨#[2]⟩,
  .call (.workspace (.delete "/a/b" false)),
  .call (.workspace (.importNotebook ⟨"/a/b/c", .source, some .sql, ⟨#[3]⟩, true⟩))]

theorem workspace_is_tree_sharedPath :
    (∀ e ∈ sharedPath, e.OnWorkspace) ∧
      let p := ({} : Platform).after sharedPath
      p.Listed (.directory "/a/b") ∧
        (∀ content, (p.serve (.workspace (.exportNotebook "/a/b" .source))).1 ≠ .ok content) ∧
        (p.serve (.workspace (.exportNotebook "/a/b/c" .source))).1 = .ok ⟨#[3]⟩ := by
  have hHistory : ∀ e ∈ sharedPath, e.OnWorkspace := by
    simp only [sharedPath, List.forall_mem_cons, Event.OnWorkspace]
    exact ⟨by decide, by decide, by decide, by decide, by decide, List.forall_mem_nil _⟩
  obtain ⟨-, hDirs, hExport⟩ := workspace_is_tree hHistory
  refine ⟨hHistory, (hDirs "/a/b" (by rfl) (by decide)).2, fun content hOk => ?_, ?_⟩
  · -- The notebook that shares its path with the directory is gone, and the directory stays.
    have hNone : (({} : Platform).after sharedPath).notebookAt "/a/b" = none := by rfl
    rw [hExport, ← notebookAt_after hHistory, hNone] at hOk
    cases hOk
  · refine (hExport _ _ _).2 ⟨sharedPath.take 4, sharedPath.drop 4, rfl, ⟨id, trivial⟩, ?_⟩
    rfl

end SparkFleet.Platform
