/-!
# Finite maps kept in key order

A `SortedMap κ ν` is a list of entries whose keys strictly increase, so two maps with the same
entries are equal and listing a map needs no further sorting.  Writing a key that is present
replaces its value; the order that listings show is the order of the keys.

The main statements are `get?_eq_some_iff`, which says that look-up and listing agree, and the view
lemmas `get?_insert`, `get?_erase`, `get?_filter` and `get?_modify`, which say what each operation
does to the value found at any key.
-/

namespace SparkFleet

/-- Entries with strictly increasing keys. -/
structure SortedMap (κ : Type) (ν : Type) [Ord κ] where
  /-- The entries, smallest key first. -/
  entries : List (κ × ν)
  /-- Each key is smaller than every later one. -/
  sorted : entries.Pairwise fun a b => compare a.1 b.1 = .lt

namespace SortedMap

variable {κ ν : Type} [Ord κ]

instance [DecidableEq κ] [DecidableEq ν] : DecidableEq (SortedMap κ ν) := fun a b =>
  if h : a.entries = b.entries then
    .isTrue (by cases a; cases b; cases h; rfl)
  else
    .isFalse (fun e => h (e ▸ rfl))

/-- Two maps with the same entries are the same map. -/
theorem eq_of_entries {a b : SortedMap κ ν} (h : a.entries = b.entries) : a = b := by
  cases a; cases b; cases h; rfl

/-- The map without entries. -/
def empty : SortedMap κ ν := ⟨[], .nil⟩

instance : Inhabited (SortedMap κ ν) := ⟨empty⟩

/-- Whether there is no entry. -/
def isEmpty (m : SortedMap κ ν) : Bool := m.entries.isEmpty

/-- The number of entries. -/
def size (m : SortedMap κ ν) : Nat := m.entries.length

/-- The keys in increasing order. -/
def keys (m : SortedMap κ ν) : List κ := m.entries.map (·.1)

/-- The values in the order of their keys. -/
def values (m : SortedMap κ ν) : List ν := m.entries.map (·.2)

/-- The value at a key in a list of entries. -/
def find (k : κ) : List (κ × ν) → Option ν
  | [] => none
  | (k', v) :: rest => if compare k k' = .eq then some v else find k rest

/-- The value at a key, if the map has one. -/
def get? (m : SortedMap κ ν) (k : κ) : Option ν := find k m.entries

/-- Whether the map has an entry at a key. -/
def contains (m : SortedMap κ ν) (k : κ) : Bool := (m.get? k).isSome

/-- Put an entry at its place, replacing the value of an equal key. -/
def place (k : κ) (v : ν) : List (κ × ν) → List (κ × ν)
  | [] => [(k, v)]
  | (k', v') :: rest =>
    match compare k k' with
    | .lt => (k, v) :: (k', v') :: rest
    | .eq => (k, v) :: rest
    | .gt => (k', v') :: place k v rest

/-- A placed entry's key is the new one or one of the old. -/
theorem mem_place {k : κ} {v : ν} {l : List (κ × ν)} {e : κ × ν} (h : e ∈ place k v l) :
    e = (k, v) ∨ e ∈ l := by
  induction l with
  | nil => simp_all [place]
  | cons head rest ih =>
    obtain ⟨k', v'⟩ := head
    simp only [place] at h
    split at h
    · rcases List.mem_cons.1 h with h | h
      · exact .inl h
      · exact .inr h
    · rcases List.mem_cons.1 h with h | h
      · exact .inl h
      · exact .inr (List.mem_cons_of_mem _ h)
    · rcases List.mem_cons.1 h with h | h
      · exact .inr (by simp [h])
      · rcases ih h with h | h
        · exact .inl h
        · exact .inr (List.mem_cons_of_mem _ h)

/-- Placing an entry keeps the keys increasing. -/
theorem sorted_place [Std.TransOrd κ] [Std.LawfulEqOrd κ] {k : κ} {v : ν} {l : List (κ × ν)}
    (h : l.Pairwise fun a b => compare a.1 b.1 = .lt) :
    (place k v l).Pairwise fun a b => compare a.1 b.1 = .lt := by
  induction l with
  | nil => simp [place]
  | cons head rest ih =>
    obtain ⟨k', v'⟩ := head
    obtain ⟨hHead, hRest⟩ := List.pairwise_cons.1 h
    simp only [place]
    split
    · next hlt =>
      refine List.pairwise_cons.2 ⟨fun e he => ?_, h⟩
      rcases List.mem_cons.1 he with he | he
      · exact he ▸ hlt
      · exact Std.TransCmp.lt_trans hlt (hHead e he)
    · next heq =>
      have hkk : k = k' := Std.LawfulEqCmp.eq_of_compare heq
      exact List.pairwise_cons.2 ⟨fun e he => hkk ▸ hHead e he, hRest⟩
    · next hgt =>
      refine List.pairwise_cons.2 ⟨fun e he => ?_, ih hRest⟩
      rcases mem_place he with he | he
      · exact he ▸ Std.OrientedCmp.gt_iff_lt.1 hgt
      · exact hHead e he

section Lawful

variable [Std.TransOrd κ] [Std.LawfulEqOrd κ]

/-- Write a value at a key. -/
def insert (m : SortedMap κ ν) (k : κ) (v : ν) : SortedMap κ ν :=
  ⟨place k v m.entries, sorted_place m.sorted⟩

/-- Write entries one after another, so that the last of equal keys wins. -/
def insertAll (m : SortedMap κ ν) (entries : List (κ × ν)) : SortedMap κ ν :=
  entries.foldl (fun m e => m.insert e.1 e.2) m

/-- The map of a list of entries; the last of equal keys wins. -/
def ofList (entries : List (κ × ν)) : SortedMap κ ν := empty.insertAll entries

/-- The second map's entries written over the first. -/
def merge (m other : SortedMap κ ν) : SortedMap κ ν := m.insertAll other.entries

end Lawful

/-- Keep the entries that satisfy a test. -/
def filter (m : SortedMap κ ν) (keep : κ → ν → Bool) : SortedMap κ ν :=
  ⟨m.entries.filter fun e => keep e.1 e.2, m.sorted.filter _⟩

/-- Remove the entry at a key, if there is one. -/
def erase (m : SortedMap κ ν) (k : κ) : SortedMap κ ν :=
  m.filter fun k' _ => !(compare k k' == .eq)

/-- Replace each value by a function of its key and itself. -/
def mapValues {ν' : Type} (m : SortedMap κ ν) (f : κ → ν → ν') : SortedMap κ ν' :=
  ⟨m.entries.map fun e => (e.1, f e.1 e.2), List.pairwise_map.2 m.sorted⟩

/-- Change the value at a key, if there is one. -/
def modify (m : SortedMap κ ν) (k : κ) (f : ν → ν) : SortedMap κ ν :=
  m.mapValues fun k' v => if compare k k' = .eq then f v else v

/-- Whether some entry satisfies a test. -/
def any (m : SortedMap κ ν) (test : κ → ν → Bool) : Bool :=
  m.entries.any fun e => test e.1 e.2

/-! ### The value found at a key -/

section View

variable [Std.LawfulEqOrd κ] [DecidableEq κ]

theorem find_cons (k k' : κ) (v : ν) (rest : List (κ × ν)) :
    find k ((k', v) :: rest) = if k = k' then some v else find k rest := by
  simp [find]

theorem find_place (k k' : κ) (v : ν) (l : List (κ × ν)) :
    find k' (place k v l) = if k' = k then some v else find k' l := by
  induction l with
  | nil => simp [place, find]
  | cons head rest ih =>
    obtain ⟨k₁, v₁⟩ := head
    simp only [place]
    split
    · rw [find_cons]
    · next heq =>
      obtain rfl : k = k₁ := Std.LawfulEqCmp.eq_of_compare heq
      by_cases hk : k' = k <;> simp [find_cons, hk]
    · next hgt =>
      have hne : k ≠ k₁ := by
        rintro rfl
        rw [Std.LawfulEqOrd.compare_eq_iff_eq.2 rfl] at hgt
        cases hgt
      rw [find_cons, find_cons, ih]
      by_cases hk : k' = k₁
      · subst hk; simp [hne.symm]
      · simp [hk]

/-- Writing a key changes what is found there and nowhere else. -/
@[simp] theorem get?_insert [Std.TransOrd κ] (m : SortedMap κ ν) (k k' : κ) (v : ν) :
    (m.insert k v).get? k' = if k' = k then some v else m.get? k' :=
  find_place k k' v m.entries

/-- A key is found exactly where its entry is listed. -/
theorem find_eq_some_iff {l : List (κ × ν)}
    (h : l.Pairwise fun a b => compare a.1 b.1 = .lt) {k : κ} {v : ν} :
    find k l = some v ↔ (k, v) ∈ l := by
  induction l with
  | nil => simp [find]
  | cons head rest ih =>
    obtain ⟨k₁, v₁⟩ := head
    obtain ⟨hHead, hRest⟩ := List.pairwise_cons.1 h
    rw [find_cons, List.mem_cons]
    by_cases hk : k = k₁
    · subst hk
      have hout : ∀ w, (k, w) ∉ rest := fun w hw => by
        have := hHead _ hw
        rw [Std.LawfulEqOrd.compare_eq_iff_eq.2 rfl] at this
        cases this
      simp [hout, eq_comm]
    · simp [hk, ih hRest]

/-- The listing and the look-up show the same entries. -/
theorem get?_eq_some_iff (m : SortedMap κ ν) {k : κ} {v : ν} :
    m.get? k = some v ↔ (k, v) ∈ m.entries :=
  find_eq_some_iff m.sorted

/-- Filtering keeps the value found at a key if it passes the test. -/
theorem get?_filter (m : SortedMap κ ν) (keep : κ → ν → Bool) (k : κ) :
    (m.filter keep).get? k = (m.get? k).filter (keep k) := by
  refine Option.ext fun v => ?_
  rw [get?_eq_some_iff, Option.filter_eq_some_iff, get?_eq_some_iff]
  simp [filter]

/-- Removing a key leaves nothing there and changes no other key. -/
@[simp] theorem get?_erase (m : SortedMap κ ν) (k k' : κ) :
    (m.erase k).get? k' = if k' = k then none else m.get? k' := by
  rw [erase, get?_filter]
  by_cases hk : k' = k
  · subst hk; cases m.get? k' <;> simp [Option.filter]
  · cases m.get? k' <;> simp [Option.filter, hk, Ne.symm hk]

/-- Mapping the values maps what is found at each key. -/
@[simp] theorem get?_mapValues {ν' : Type} (m : SortedMap κ ν) (f : κ → ν → ν') (k : κ) :
    (m.mapValues f).get? k = (m.get? k).map (f k) := by
  obtain ⟨l, hl⟩ := m
  simp only [get?, mapValues]
  clear hl
  induction l with
  | nil => rfl
  | cons head rest ih =>
    rw [List.map_cons, find_cons, find_cons, ih]
    by_cases hk : k = head.1
    · simp [← hk]
    · simp [hk]

/-- Changing a key changes what is found there and nowhere else. -/
@[simp] theorem get?_modify (m : SortedMap κ ν) (k k' : κ) (f : ν → ν) :
    (m.modify k f).get? k' = if k' = k then (m.get? k').map f else m.get? k' := by
  rw [modify, get?_mapValues]
  by_cases hk : k' = k
  · subst hk; simp
  · cases m.get? k' <;> simp [hk, Ne.symm hk]

end View

end SortedMap

end SparkFleet
