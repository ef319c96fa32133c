import Mathlib.Data.List.Sort
import SparkFleet.SortedMap

/-!
# The entries of a map

A map is made again of its entries (`ofList_entries`), and two maps in which the same is found at
every key are the same map (`ext_get?`), so that what is written and then overwritten or removed
leaves no trace.  `SortedMap.All` says that every entry satisfies a condition.  Each operation keeps
such a condition if the value that it writes satisfies it, so an invariant of a map is shown
operation by operation and without looking at the entries.
-/

namespace SparkFleet.SortedMap

variable {κ ν : Type} [Ord κ]

/-! ### The map of a list of entries -/

/-- An entry with a key that is larger than all others is placed last. -/
theorem place_eq_append [Std.TransOrd κ] {k : κ} {v : ν} {l : List (κ × ν)}
    (hLast : ∀ e ∈ l, compare e.1 k = .lt) : place k v l = l ++ [(k, v)] := by
  induction l with
  | nil => rfl
  | cons e l ih =>
    have hGreater : compare k e.1 = .gt :=
      Std.OrientedCmp.gt_iff_lt.2 (hLast e List.mem_cons_self)
    rw [place, hGreater, ih fun e' hMem => hLast e' (List.mem_cons_of_mem e hMem)]
    rfl

/-- Entries with increasing keys are added as they are. -/
theorem entries_insertAll [Std.TransOrd κ] [Std.LawfulEqOrd κ] {m : SortedMap κ ν}
    {later : List (κ × ν)}
    (hSorted : (m.entries ++ later).Pairwise fun a b => compare a.1 b.1 = .lt) :
    (m.insertAll later).entries = m.entries ++ later := by
  induction later generalizing m with
  | nil => exact (List.append_nil _).symm
  | cons e later ih =>
    -- The next key is larger than all that are there, so its entry goes to the end.
    have hLast : ∀ e' ∈ m.entries, compare e'.1 e.1 = .lt := fun e' hMem =>
      (List.pairwise_append.1 hSorted).2.2 e' hMem e List.mem_cons_self
    have hInsert : (m.insert e.1 e.2).entries = m.entries ++ [e] := place_eq_append hLast
    have hAppend : m.entries ++ e :: later = (m.insert e.1 e.2).entries ++ later := by
      rw [hInsert, List.append_assoc, List.singleton_append]
    rw [hAppend] at hSorted ⊢
    exact ih hSorted

/-- A map is the map of its entries. -/
theorem ofList_entries [Std.TransOrd κ] [Std.LawfulEqOrd κ] (m : SortedMap κ ν) :
    ofList m.entries = m :=
  eq_of_entries (entries_insertAll (m := empty) m.sorted)

/-! ### Equal maps -/

section Equal

variable [Std.TransOrd κ] [Std.LawfulEqOrd κ] [DecidableEq κ] {m : SortedMap κ ν} {k : κ}

/-- Two maps in which the same is found at every key are the same map. -/
theorem ext_get? {a b : SortedMap κ ν} (h : ∀ k, a.get? k = b.get? k) : a = b := by
  let before (e e' : κ × ν) : Prop := compare e.1 e'.1 = .lt
  have hAsymm : Std.Asymm before :=
    ⟨fun e e' hLt hGt => by simp [before, Std.OrientedCmp.gt_of_lt hLt] at hGt⟩
  -- Both lists of entries are sorted by a strict order and have the same members, so they are one
  -- list.
  refine eq_of_entries (List.Pairwise.eq_of_mem_iff (r := before) a.sorted b.sorted ?_)
  rintro ⟨k, v⟩
  rw [← get?_eq_some_iff, ← get?_eq_some_iff, h]

/-- The value that is written last counts. -/
theorem insert_insert (v v' : ν) : (m.insert k v).insert k v' = m.insert k v' := by
  refine ext_get? fun k' => ?_
  simp only [get?_insert]
  split <;> rfl

theorem modify_insert (v : ν) (f : ν → ν) : (m.insert k v).modify k f = m.insert k (f v) := by
  refine ext_get? fun k' => ?_
  simp only [get?_modify, get?_insert]
  split <;> rfl

/-- Removing what is not there leaves the map. -/
theorem erase_of_get?_eq_none (hNone : m.get? k = none) : m.erase k = m := by
  refine ext_get? fun k' => ?_
  rw [get?_erase]
  split
  · next hKey => rw [hKey, hNone]
  · rfl

/-- Removing what has just been added leaves the map as it was. -/
theorem erase_insert (v : ν) (hNew : m.get? k = none) : (m.insert k v).erase k = m := by
  refine ext_get? fun k' => ?_
  simp only [get?_erase, get?_insert]
  split
  · next hKey => rw [hKey, hNew]
  · rfl

end Equal

/-! ### One key -/

section OneKey

variable [Std.TransOrd κ] [Std.LawfulEqOrd κ] [DecidableEq κ] {k k' : κ}

/-- The map with what is given at a key: an entry of a value, or none. -/
def assign (m : SortedMap κ ν) (k : κ) : Option ν → SortedMap κ ν
  | some v => m.insert k v
  | none => m.erase k

@[simp] theorem get?_assign (m : SortedMap κ ν) (k k' : κ) (o : Option ν) :
    (m.assign k o).get? k' = if k' = k then o else m.get? k' := by
  cases o with
  | none => exact get?_erase m k k'
  | some v => exact get?_insert m k k' v

/-- Writing back what is found at a key changes nothing. -/
@[simp] theorem assign_get? (m : SortedMap κ ν) (k : κ) : m.assign k (m.get? k) = m := by
  refine ext_get? fun k' => ?_
  rw [get?_assign]
  split
  · next hKey => rw [hKey]
  · rfl

/-- What is written at one key does not interfere with what is written at another. -/
theorem assign_comm (hNe : k ≠ k') (m : SortedMap κ ν) (o o' : Option ν) :
    (m.assign k o).assign k' o' = (m.assign k' o').assign k o := by
  refine ext_get? fun key => ?_
  simp only [get?_assign]
  split
  · next hKey => rw [hKey, if_neg hNe.symm]
  · rfl

theorem modify_eq_assign (m : SortedMap κ ν) (k : κ) (f : ν → ν) :
    m.modify k f = m.assign k ((m.get? k).map f) := by
  refine ext_get? fun k' => ?_
  rw [get?_modify, get?_assign]
  split
  · next hKey => rw [hKey]
  · rfl

end OneKey

/-! ### Keys -/

section Keys

variable {m : SortedMap κ ν} {k : κ}

theorem contains_of_get?_eq_some {v : ν} (hGet : m.get? k = some v) : m.contains k = true := by
  rw [contains, hGet, Option.isSome_some]

theorem contains_iff_exists : m.contains k = true ↔ ∃ v, m.get? k = some v :=
  Option.isSome_iff_exists

variable [Std.LawfulEqOrd κ] [DecidableEq κ]

theorem mem_keys_iff : k ∈ m.keys ↔ m.contains k = true := by
  rw [contains_iff_exists, keys, List.mem_map]
  constructor
  · rintro ⟨⟨k', v⟩, hMem, rfl⟩
    exact ⟨v, m.get?_eq_some_iff.2 hMem⟩
  · rintro ⟨v, hGet⟩
    exact ⟨(k, v), m.get?_eq_some_iff.1 hGet, rfl⟩

theorem mem_values_iff {v : ν} : v ∈ m.values ↔ ∃ k, m.get? k = some v := by
  rw [values, List.mem_map]
  constructor
  · rintro ⟨⟨k, v⟩, hMem, rfl⟩
    exact ⟨k, m.get?_eq_some_iff.2 hMem⟩
  · rintro ⟨k, hGet⟩
    exact ⟨(k, v), m.get?_eq_some_iff.1 hGet, rfl⟩

theorem mem_values_of_get? {v : ν} (hGet : m.get? k = some v) : v ∈ m.values :=
  mem_values_iff.2 ⟨k, hGet⟩

theorem contains_insert_iff [Std.TransOrd κ] {k' : κ} {v : ν} :
    (m.insert k v).contains k' = true ↔ k' = k ∨ m.contains k' = true := by
  simp only [contains, get?_insert]
  split <;> simp_all

theorem contains_insertAll_iff [Std.TransOrd κ] {entries : List (κ × ν)} :
    (m.insertAll entries).contains k = true ↔ m.contains k = true ∨ k ∈ entries.map (·.1) := by
  induction entries generalizing m with
  | nil => simp [insertAll]
  | cons e entries ih =>
    have hFirst : m.insertAll (e :: entries) = (m.insert e.1 e.2).insertAll entries := rfl
    rw [hFirst, ih, contains_insert_iff, List.map_cons, List.mem_cons]
    tauto

theorem contains_filter_iff {test : κ → Bool} :
    (m.filter fun k _ => test k).contains k = true ↔ m.contains k = true ∧ test k = true := by
  rw [contains, get?_filter, contains]
  cases m.get? k <;> simp [Option.filter_some]

/-- A test of keys holds of some entry if it does of some key. -/
theorem any_key_iff {test : κ → Bool} :
    (m.any fun k _ => test k) = true ↔ ∃ k, m.contains k = true ∧ test k = true := by
  rw [any, List.any_eq_true]
  constructor
  · rintro ⟨⟨k, v⟩, hMem, hTest⟩
    exact ⟨k, contains_of_get?_eq_some (m.get?_eq_some_iff.2 hMem), hTest⟩
  · rintro ⟨k, hContains, hTest⟩
    obtain ⟨v, hGet⟩ := contains_iff_exists.1 hContains
    exact ⟨(k, v), m.get?_eq_some_iff.1 hGet, hTest⟩

theorem any_key_eq_false_iff {test : κ → Bool} :
    (m.any fun k _ => test k) = false ↔ ∀ k, m.contains k = true → test k = false := by
  rw [Bool.eq_false_iff, Ne, any_key_iff]
  simp

end Keys

/-! ### Mapped values -/

section Mapped

variable {ν' : Type} (f : κ → ν → ν')

theorem values_mapValues (m : SortedMap κ ν) :
    (m.mapValues f).values = m.entries.map fun e => f e.1 e.2 := by
  simp [values, mapValues, Function.comp_def]

/-- A test of the keys does not see what the values are mapped to. -/
theorem any_mapValues (m : SortedMap κ ν) (test : κ → Bool) :
    (m.mapValues f).any (fun k _ => test k) = m.any fun k _ => test k := by
  simp [any, mapValues, Function.comp_def]

/-- Filtering by the keys commutes with mapping the values. -/
theorem mapValues_filter (m : SortedMap κ ν) (test : κ → Bool) :
    (m.filter fun k _ => test k).mapValues f = (m.mapValues f).filter fun k _ => test k := by
  refine eq_of_entries ?_
  simp only [filter, mapValues, List.filter_map, Function.comp_def]

theorem mapValues_erase (m : SortedMap κ ν) (k : κ) :
    (m.erase k).mapValues f = (m.mapValues f).erase k :=
  mapValues_filter f m _

variable [Std.LawfulEqOrd κ] [DecidableEq κ]

theorem contains_mapValues (m : SortedMap κ ν) (k : κ) :
    (m.mapValues f).contains k = m.contains k := by
  rw [contains, get?_mapValues, Option.isSome_map, contains]

theorem mapValues_insert [Std.TransOrd κ] (m : SortedMap κ ν) (k : κ) (v : ν) :
    (m.insert k v).mapValues f = (m.mapValues f).insert k (f k v) := by
  refine ext_get? fun k' => ?_
  simp only [get?_mapValues, get?_insert]
  split
  · next hKey => rw [hKey, Option.map_some]
  · rfl

end Mapped

/-! ### Conditions -/

variable {m : SortedMap κ ν} {P : κ → ν → Prop}

/-- Every entry satisfies a condition. -/
def All (m : SortedMap κ ν) (P : κ → ν → Prop) : Prop := ∀ ⦃k v⦄, m.get? k = some v → P k v

theorem All.empty : (SortedMap.empty : SortedMap κ ν).All P := fun _ _ hGet => nomatch hGet

variable [Std.LawfulEqOrd κ] [DecidableEq κ]

theorem All.insert [Std.TransOrd κ] {k : κ} {v : ν} (hAll : m.All P) (hNew : P k v) :
    (m.insert k v).All P := by
  intro k' v' hGet
  rw [get?_insert] at hGet
  split at hGet
  · next hKey =>
    cases hGet
    exact hKey ▸ hNew
  · exact hAll hGet

theorem All.filter (hAll : m.All P) (keep : κ → ν → Bool) : (m.filter keep).All P := by
  intro k v hGet
  rw [get?_filter] at hGet
  exact hAll (Option.filter_eq_some_iff.1 hGet).1

theorem All.erase (hAll : m.All P) (k : κ) : (m.erase k).All P := hAll.filter _

theorem All.modify {k : κ} {f : ν → ν} (hAll : m.All P) (hNew : ∀ v, P k v → P k (f v)) :
    (m.modify k f).All P := by
  intro k' v' hGet
  rw [get?_modify] at hGet
  split at hGet
  · next hKey =>
    subst hKey
    obtain ⟨v, hOld, rfl⟩ := Option.map_eq_some_iff.1 hGet
    exact hNew v (hAll hOld)
  · exact hAll hGet

end SparkFleet.SortedMap
