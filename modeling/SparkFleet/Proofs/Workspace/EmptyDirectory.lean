import SparkFleet.Proofs.Workspace.Subtree

/-!
# The deletion of empty directories

A deletion that is not recursive takes a directory if nothing is below it by the beginning of its
path.  For each directory but the root this agrees with its listing (`HasTree.list_eq_nil_iff`): if
something is below it, what leads there is listed.  Below the root there is nothing in this sense,
however much is listed there, and so it goes in any case, and alone.

The main statement `plain_delete` says what such a deletion does in both cases.
-/

namespace SparkFleet.Platform

variable {p : Platform} {dir : String} {record : ObjectRecord} {records : List ObjectRecord}
  {history : List Event}

/-- What is found from a directory is found by what is listed there first. -/
theorem ListedFrom.exists_first (hListed : p.ListedFrom dir record) :
    record = .directory dir ∨ ∃ records first,
      (p.serve (.workspace (.list dir))).1 = .ok records ∧ first ∈ records := by
  induction hListed with
  | start => exact .inl rfl
  | @entry middle records record _ hAnswer hMem ih =>
    obtain hSame | hFirst := ih
    · obtain rfl : middle = dir := congrArg ObjectRecord.path hSame
      exact .inr ⟨records, record, hAnswer, hMem⟩
    · exact .inr hFirst

section Records

variable (hTree : p.HasTree)

include hTree

/-- The listing of a directory other than the root is empty exactly if nothing is below it. -/
theorem HasTree.list_eq_nil_iff (hThere : p.dirs.contains dir = true) (hRoot : dir ≠ Path.root)
    (hAnswer : (p.serve (.workspace (.list dir))).1 = .ok records) :
    records = [] ↔ ∀ record, p.HasRecord record → Path.isBelow record.path dir = false := by
  constructor
  · rintro rfl record hRecord
    rw [Bool.eq_false_iff]
    intro hBelow
    -- What is below is found by listing, and that begins with something that is listed here.
    have hListed := hTree.listedFrom_of_below hThere hRoot hRecord hBelow
    obtain rfl | ⟨records', first, hAnswer', hMem⟩ := hListed.exists_first
    · exact Bool.false_ne_true ((Path.not_below_self dir).symm.trans hBelow)
    · obtain rfl : [] = records' := Except.ok.inj (hAnswer.symm.trans hAnswer')
      exact List.not_mem_nil hMem
  · intro hNone
    obtain ⟨records', hAnswer', hRecords⟩ := hTree.list_spec hThere hRoot
    obtain rfl : records = records' := Except.ok.inj (hAnswer.symm.trans hAnswer')
    refine List.eq_nil_iff_forall_not_mem.2 fun record hMem => ?_
    obtain ⟨hRecord, hIn⟩ := (hRecords record).1 hMem
    have hBelow := ((hTree.placed hRecord).1.isBelow_iff_parent (hTree.isCanonical hThere) hRoot).2
      (.inl hIn)
    exact Bool.false_ne_true ((hNone record hRecord).symm.trans hBelow)

/-- Nothing is below the root, and below another directory if its listing is empty. -/
theorem HasTree.nothing_below_iff (hThere : p.dirs.contains dir = true)
    (hAnswer : (p.serve (.workspace (.list dir))).1 = .ok records) :
    (dir = Path.root ∨ records = []) ↔
      ∀ record, p.HasRecord record → Path.isBelow record.path dir = false := by
  by_cases hRoot : dir = Path.root
  · subst hRoot
    exact iff_of_true (.inl rfl) fun record hRecord => (hTree.placed hRecord).1.not_below_root
  · rw [or_iff_right hRoot]
    exact hTree.list_eq_nil_iff hThere hRoot hAnswer

/-- The test before a deletion sees all records. -/
theorem HasTree.any_below_eq_false_iff :
    (p.objects.any (fun o _ => Path.isBelow o dir) || p.dirs.any (fun d _ => Path.isBelow d dir)) =
        false ↔
      ∀ record, p.HasRecord record → Path.isBelow record.path dir = false := by
  rw [Bool.or_eq_false_iff, SortedMap.any_key_eq_false_iff, SortedMap.any_key_eq_false_iff]
  constructor
  · rintro ⟨hObjects, hDirs⟩ record (⟨hDir, -⟩ | ⟨object, hObject, -⟩)
    · exact hDirs _ hDir
    · exact hObjects _ (SortedMap.contains_of_get?_eq_some hObject)
  · intro hNone
    refine ⟨fun path hObject => ?_, fun d hDir => hNone (.directory d) (.inl ⟨hDir, rfl⟩)⟩
    obtain ⟨object, hGet⟩ := SortedMap.contains_iff_exists.1 hObject
    obtain ⟨hPath, hRecord⟩ := hTree.hasRecord_notebook hGet
    exact hPath ▸ hNone _ hRecord

/-- A directory with nothing below it goes alone. -/
theorem HasTree.withoutSubtree_of_none
    (hNone : ∀ record, p.HasRecord record → Path.isBelow record.path dir = false) :
    p.withoutSubtree dir = { p with dirs := p.dirs.erase dir } := by
  -- Of the directories only this one goes, and of the notebooks none.
  have hDirs : (p.dirs.filter fun d _ => !(Path.isBelow d dir) && d ≠ dir) = p.dirs.erase dir := by
    refine SortedMap.ext_get? fun d => ?_
    rw [SortedMap.get?_filter, SortedMap.get?_erase]
    cases hGet : p.dirs.get? d with
    | none => exact (ite_self none).symm
    | some u =>
      have hThere := SortedMap.contains_of_get?_eq_some hGet
      have hBelow : Path.isBelow d dir = false := hNone (.directory d) (.inl ⟨hThere, rfl⟩)
      by_cases hSame : d = dir <;> simp [Option.filter, hBelow, hSame]
  have hObjects : (p.objects.filter fun o _ => !(Path.isBelow o dir)) = p.objects := by
    refine SortedMap.ext_get? fun path => ?_
    rw [SortedMap.get?_filter]
    cases hGet : p.objects.get? path with
    | none => rfl
    | some object =>
      obtain ⟨hPath, hRecord⟩ := hTree.hasRecord_notebook hGet
      have hBelow := hNone _ hRecord
      rw [hPath] at hBelow
      simp [Option.filter, hBelow]
  rw [withoutSubtree, removeDirs, hDirs, hObjects]

/-- A directory where no notebook is goes alone or is refused, as its listing says. -/
theorem HasTree.deleteObject_plain (hThere : p.dirs.contains dir = true)
    (hFree : p.objects.contains dir = false)
    (hAnswer : (p.serve (.workspace (.list dir))).1 = .ok records) :
    p.deleteObject dir false =
      if dir = Path.root ∨ records = [] then
        .ok ((), { p with dirs := p.dirs.erase dir })
      else
        .error (refused "DIRECTORY_NOT_EMPTY" ("Folder (" ++ dir ++ ") is not empty")) := by
  have hBelow := hTree.nothing_below_iff hThere hAnswer
  rw [deleteObject_directory (hTree.isCanonical hThere) hThere hFree, Bool.not_false, Bool.true_and]
  -- The test of the platform and the listing say the same, for the root as well.
  by_cases hGoes : dir = Path.root ∨ records = []
  · have hNone := hBelow.1 hGoes
    rw [hTree.any_below_eq_false_iff.2 hNone, hTree.withoutSubtree_of_none hNone, if_pos hGoes]
    rfl
  · have hSome := mt (hBelow.2 ∘ hTree.any_below_eq_false_iff.1) hGoes
    rw [Bool.eq_true_of_not_eq_false hSome, if_pos rfl, if_neg hGoes]

end Records

/-- After every history of operations of the workspace on canonical paths, a deletion that is not
recursive, of a directory at which there is no notebook, takes the directory and nothing else if its
listing is empty.  Otherwise it is refused and changes nothing but the count of calls, unless it is
the root, which goes alone in any case. -/
theorem plain_delete (hHistory : ∀ e ∈ history, e.OnCanonical)
    (hThere : (({} : Platform).after history).dirs.contains dir = true)
    (hFree : (({} : Platform).after history).objects.contains dir = false) :
    let p := ({} : Platform).after history
    ∃ records, (p.serve (.workspace (.list dir))).1 = .ok records ∧
      p.serve (.workspace (.delete dir false)) =
        if dir = Path.root ∨ records = [] then
          (.ok (), { p.count "workspace/delete" with dirs := p.dirs.erase dir })
        else
          (.error (refused "DIRECTORY_NOT_EMPTY" ("Folder (" ++ dir ++ ") is not empty")),
            p.count "workspace/delete") := by
  intro p
  have hTree : p.HasTree := hasTree_after hHistory
  have hCounted : (p.count "workspace/delete").HasTree :=
    ⟨hTree.serving, hTree.kept, hTree.tree⟩
  have hDir := hTree.isCanonical hThere
  obtain ⟨records, hAnswer, hAnswer'⟩ : ∃ records,
      (p.serve (.workspace (.list dir))).1 = .ok records ∧
        ((p.count "workspace/delete").serve (.workspace (.list dir))).1 = .ok records :=
    ⟨_, serve_list hTree.serving hDir hThere, serve_list hCounted.serving hDir hThere⟩
  have hDelete := hCounted.deleteObject_plain hThere hFree hAnswer'
  refine ⟨records, hAnswer, ?_⟩
  split
  · next hGoes =>
    rw [if_pos hGoes] at hDelete
    exact serve_of_ok (c := .workspace (.delete dir false)) (hTree.serving _) hDelete
  · next hStays =>
    rw [if_neg hStays] at hDelete
    exact serve_of_error (c := .workspace (.delete dir false)) (hTree.serving _) hDelete

/-- A directory that holds only a directory, without the root. -/
def nested : List Event := [
  .call (.workspace (.delete "/" false)),
  .call (.workspace (.mkdirs "/a/b"))]

theorem plain_delete_nested :
    let p := ({} : Platform).after nested
    ((∀ e ∈ nested, e.OnCanonical) ∧ p.dirs.contains "/a" = true ∧
      p.objects.contains "/a" = false) ∧
      p.serve (.workspace (.delete "/a" false)) =
        (.error (refused "DIRECTORY_NOT_EMPTY" "Folder (/a) is not empty"),
          p.count "workspace/delete") := by
  intro p
  have hHistory : ∀ e ∈ nested, e.OnCanonical := by
    simp only [nested, List.forall_mem_cons, Event.OnCanonical, Event.OnWorkspace]
    exact ⟨by decide, by decide, List.forall_mem_nil _⟩
  have hThere : p.dirs.contains "/a" = true := by decide
  have hFree : p.objects.contains "/a" = false := by decide
  obtain ⟨records, hAnswer, hDelete⟩ := plain_delete hHistory hThere hFree
  obtain rfl : [.directory "/a/b"] = records := Except.ok.inj (Eq.trans (by rfl) hAnswer)
  refine ⟨⟨hHistory, hThere, hFree⟩, ?_⟩
  rw [hDelete, if_neg (by decide)]
  rfl

/-- The root goes although a directory is listed there, and what is below it stays behind: it cannot
be listed any more. -/
theorem root_deleted_unempty :
    let e := Event.addNotebook "/Users/me/nb" .python ⟨#[1]⟩
    let p := ({} : Platform).after [e]
    let q := (p.serve (.workspace (.delete "/" false))).2
    e.OnCanonical ∧ p.dirs.contains "/" = true ∧ p.objects.contains "/" = false ∧
      (p.serve (.workspace (.list "/"))).1 = .ok [.directory "/Users"] ∧
      (p.serve (.workspace (.delete "/" false))).1 = .ok () ∧
      (q.serve (.workspace (.list "/"))).1 = .error (noPath "/") ∧
      q.notebookAt "/Users/me/nb" = some ⟨#[1]⟩ := by
  intro e p q
  refine ⟨?_, by decide, by decide, by rfl, by rfl, by rfl, by rfl⟩
  simp only [e, Event.OnCanonical, Event.OnWorkspace]
  decide

end SparkFleet.Platform
