import Mathlib.Data.List.Induction
import Mathlib.Data.List.Infix
import SparkFleet.Path

/-!
# Canonical paths

A path is canonical if it is a slash before each of its names (`IsCanonical`): it begins with a
slash, no segment is empty and there is no slash at the end; the root alone has no names.  For such
paths the different views that are taken of a path agree.  Its directory is itself
(`directory_ofNames`), its parent is without the last name (`parent_ofNames`), the directories above
it are the beginnings of its names (`mem_above_iff`), and it is below a directory exactly if the
names of the directory are a proper beginning of its own (`isBelow_iff_names`).
-/

namespace SparkFleet.Path

/-- A segment of a path: it is not empty and has no slash. -/
def IsName (name : List Char) : Prop := name ≠ [] ∧ '/' ∉ name

/-- The path with a slash before each of some names; the root if there are none. -/
def ofNames (names : List (List Char)) : String := ofChars (names.flatMap ('/' :: ·))

/-- The path is a slash before each of its names, or the root. -/
def IsCanonical (path : String) : Prop := ofNames (names path) = path

instance (path : String) : Decidable (IsCanonical path) :=
  inferInstanceAs (Decidable (ofNames (names path) = path))

/-- The names of the path are those of the directory and others after them. -/
def IsUnder (path dir : String) : Prop := names dir <+: names path ∧ names dir ≠ names path

instance (path dir : String) : Decidable (IsUnder path dir) :=
  inferInstanceAs (Decidable (_ ∧ _))

example : IsCanonical "/a/b" ∧ IsCanonical "/" ∧
    ¬IsCanonical "/a//b" ∧ ¬IsCanonical "/a/" ∧ ¬IsCanonical "a/b" ∧ ¬IsCanonical "" := by
  decide

/-! ### Pieces -/

theorem pieces_ne_nil (path : List Char) : pieces path ≠ [] := by
  cases path with
  | nil => exact List.cons_ne_nil _ _
  | cons c rest =>
    rw [pieces]
    split
    · exact List.cons_ne_nil _ _
    · split <;> exact List.cons_ne_nil _ _

/-- The pieces on both sides of a slash. -/
theorem pieces_append_slash (first second : List Char) :
    pieces (first ++ '/' :: second) = pieces first ++ pieces second := by
  induction first with
  | nil => rfl
  | cons c first ih =>
    rw [List.cons_append, pieces, ih, pieces]
    split
    · rfl
    · cases hPieces : pieces first with
      | nil => exact absurd hPieces (pieces_ne_nil first)
      | cons piece others => rfl

theorem slash_notMem_of_mem_pieces {path piece : List Char} (hMem : piece ∈ pieces path) :
    '/' ∉ piece := by
  induction path generalizing piece with
  | nil =>
    obtain rfl := List.mem_singleton.1 hMem
    exact List.not_mem_nil
  | cons c rest ih =>
    rw [pieces] at hMem
    split at hMem
    · rcases List.mem_cons.1 hMem with rfl | hMem
      · exact List.not_mem_nil
      · exact ih hMem
    · next hSlash =>
      -- The character goes to the first piece of the rest and leaves the others as they are.
      cases hPieces : pieces rest with
      | nil => exact absurd hPieces (pieces_ne_nil rest)
      | cons first others =>
        rw [hPieces] at ih hMem
        rcases List.mem_cons.1 hMem with rfl | hMem
        · have hFirst := ih List.mem_cons_self
          simp [Ne.symm hSlash, hFirst]
        · exact ih (List.mem_cons_of_mem _ hMem)

theorem isName_of_mem_names {path : String} {name : List Char} (hMem : name ∈ names path) :
    IsName name := by
  obtain ⟨hPiece, hNonempty⟩ := List.mem_filter.1 hMem
  exact ⟨by simpa using hNonempty, slash_notMem_of_mem_pieces hPiece⟩

/-! ### Paths made of names -/

section OfNames

variable {names above : List (List Char)}

theorem toList_root : root.toList = ['/'] := rfl

/-- The characters of a path, apart from the root's. -/
theorem toList_ofNames (hNonempty : names ≠ []) :
    (ofNames names).toList = names.flatMap ('/' :: ·) := by
  cases names with
  | nil => exact absurd rfl hNonempty
  | cons name rest =>
    rw [ofNames, List.flatMap_cons, List.cons_append, ofChars, String.toList_ofList]

/-- The pieces of a path are its names, after the empty piece before the first slash. -/
theorem pieces_flatMap (hNames : ∀ name ∈ names, IsName name) :
    pieces (names.flatMap ('/' :: ·)) = [] :: names := by
  induction names using List.reverseRecOn with
  | nil => rfl
  | append_singleton names name ih =>
    have hName : IsName name := hNames name (by simp)
    have hRest : ∀ other ∈ names, IsName other := fun other hMem => hNames other (by simp [hMem])
    rw [List.flatMap_append, List.flatMap_singleton, pieces_append_slash, ih hRest,
      pieces_of_notMem_slash hName.2]
    rfl

theorem names_ofNames (hNames : ∀ name ∈ names, IsName name) :
    Path.names (ofNames names) = names := by
  cases names with
  | nil => rfl
  | cons name rest =>
    have hKeep : ∀ other ∈ name :: rest, decide (other ≠ []) = true := fun other hMem =>
      decide_eq_true (hNames other hMem).1
    rw [Path.names, toList_ofNames (List.cons_ne_nil _ _), pieces_flatMap hNames]
    exact List.filter_eq_self.2 hKeep

theorem isCanonical_ofNames (hNames : ∀ name ∈ names, IsName name) :
    IsCanonical (ofNames names) := by
  rw [IsCanonical, names_ofNames hNames]

/-- A canonical path is made of names. -/
theorem IsCanonical.exists_names {path : String} (hPath : IsCanonical path) :
    ∃ names, (∀ name ∈ names, IsName name) ∧ path = ofNames names :=
  ⟨Path.names path, fun _ hMem => isName_of_mem_names hMem, hPath.symm⟩

theorem ofNames_inj (hNames : ∀ name ∈ names, IsName name) (hAbove : ∀ name ∈ above, IsName name)
    (hSame : ofNames names = ofNames above) : names = above := by
  rw [← names_ofNames hNames, hSame, names_ofNames hAbove]

theorem ofNames_eq_root_iff (hNames : ∀ name ∈ names, IsName name) :
    ofNames names = root ↔ names = [] := by
  refine ⟨fun hRoot => ?_, fun hNil => by rw [hNil]; rfl⟩
  exact ofNames_inj hNames (by simp) hRoot

/-- The last of some names is no slash, so nothing is dropped at the end. -/
theorem directory_ofNames (hNames : ∀ name ∈ names, IsName name) :
    directory (ofNames names) = ofNames names := by
  -- No hypothesis of the induction is used: the cases only split off the last name.
  induction names using List.reverseRecOn with
  | nil => rfl
  | append_singleton names name _ =>
    have hName : IsName name := hNames name (by simp)
    have hNonempty : names ++ [name] ≠ [] := by simp
    have hChars :
        (names ++ [name]).flatMap ('/' :: ·) = names.flatMap ('/' :: ·) ++ '/' :: name := by
      rw [List.flatMap_append, List.flatMap_singleton]
    have hDrop : ∀ chars : List Char,
        Text.dropEnd (· == '/') (chars ++ '/' :: name) = chars ++ '/' :: name := by
      intro chars
      obtain ⟨first, last, rfl⟩ := List.eq_nil_or_concat name |>.resolve_left hName.1
      have hLast : last ≠ '/' := fun hSlash => hName.2 (by simp [hSlash])
      simp [Text.dropEnd, hLast]
    rw [directory, toList_ofNames hNonempty, hChars, hDrop, ofNames, hChars]

/-- The parent of a path is without the last name; the root is its own parent. -/
theorem parent_ofNames (hNames : ∀ name ∈ names, IsName name) :
    parent (ofNames names) = ofNames names.dropLast := by
  induction names using List.reverseRecOn with
  | nil => rfl
  | append_singleton names name _ =>
    have hName : IsName name := hNames name (by simp)
    have hNonempty : names ++ [name] ≠ [] := by simp
    have hBefore : ∀ chars : List Char, beforeLastSlash (chars ++ '/' :: name) = chars := by
      intro chars
      have hPass : ∀ c ∈ name.reverse, decide (c ≠ '/') = true := by
        intro c hMem
        refine decide_eq_true fun hSlash => hName.2 ?_
        rw [← hSlash]
        exact List.mem_reverse.1 hMem
      have hRest : ('/' :: chars.reverse).dropWhile (· ≠ '/') = '/' :: chars.reverse := by simp
      rw [beforeLastSlash, List.reverse_append, List.reverse_cons, List.append_assoc,
        List.dropWhile_append_of_pos hPass, List.singleton_append, hRest, List.tail_cons,
        List.reverse_reverse]
    rw [parent, toList_ofNames hNonempty, List.flatMap_append, List.flatMap_singleton, hBefore,
      List.dropLast_concat, ofNames]

/-! ### Above and below -/

theorem mem_through_iff {chars : List Char} {dir : String} :
    dir ∈ through chars names ↔
      ∃ first, first ≠ [] ∧ first <+: names ∧
        dir = String.ofList (chars ++ first.flatMap ('/' :: ·)) := by
  induction names generalizing chars with
  | nil =>
    refine ⟨fun hMem => (List.not_mem_nil hMem).elim, ?_⟩
    rintro ⟨first, hFirst, hPrefix, -⟩
    exact absurd (List.prefix_nil.1 hPrefix) hFirst
  | cons name rest ih =>
    rw [through, List.mem_cons, ih]
    constructor
    · rintro (rfl | ⟨first, hFirst, hPrefix, rfl⟩)
      · exact ⟨[name], List.cons_ne_nil _ _, ⟨rest, rfl⟩, by simp⟩
      · exact ⟨name :: first, List.cons_ne_nil _ _, (List.prefix_cons_inj name).2 hPrefix, by simp⟩
    · rintro ⟨first, hFirst, hPrefix, rfl⟩
      cases first with
      | nil => exact absurd rfl hFirst
      | cons head others =>
        obtain ⟨rfl, hRest⟩ := List.cons_prefix_cons.1 hPrefix
        -- A beginning of one name is the first directory, and a longer one is found further on.
        cases others with
        | nil => exact .inl (by simp)
        | cons next others => exact .inr ⟨next :: others, List.cons_ne_nil _ _, hRest, by simp⟩

/-- The directories above a path are made of the beginnings of its names. -/
theorem mem_above_iff (hNames : ∀ name ∈ names, IsName name) {dir : String} :
    dir ∈ Path.above (ofNames names) ↔
      ∃ first, first ≠ [] ∧ first <+: names.dropLast ∧ dir = ofNames first := by
  rw [Path.above, names_ofNames hNames, mem_through_iff]
  refine exists_congr fun first => and_congr_right fun hFirst => and_congr_right fun _ => ?_
  rw [List.nil_append, ← toList_ofNames hFirst, String.ofList_toList]

/-- A proper beginning of some names is one of those without the last. -/
theorem prefix_dropLast {first : List (List Char)} (hPrefix : first <+: names)
    (hNot : first ≠ names) : first <+: names.dropLast := by
  obtain ⟨later, rfl⟩ := hPrefix
  have hLater : later ≠ [] := by
    rintro rfl
    exact hNot (List.append_nil first).symm
  rw [List.dropLast_append_of_ne_nil hLater]
  exact List.prefix_append first _

/-- A path is below a directory if its names begin with those of the directory and go on. -/
theorem isBelow_iff_names (hNames : ∀ name ∈ names, IsName name)
    (hAbove : ∀ name ∈ above, IsName name) (hDir : above ≠ []) :
    isBelow (ofNames names) (ofNames above) = true ↔
      ∃ later, later ≠ [] ∧ names = above ++ later := by
  rw [isBelow, List.isPrefixOf_iff_prefix, toList_ofNames hDir]
  constructor
  · rintro ⟨rest, hRest⟩
    -- The root has a text of its own, which is too short to be below anything.
    have hNonempty : names ≠ [] := by
      rintro rfl
      have hLength := congrArg List.length hRest
      cases above with
      | nil => exact hDir rfl
      | cons name others => simp [ofNames, ofChars, toList_root] at hLength
    rw [toList_ofNames hNonempty, List.append_assoc] at hRest
    -- Cutting both texts at their slashes turns a common beginning of texts into one of names.
    have hPieces := congrArg pieces hRest
    rw [List.singleton_append, pieces_append_slash, pieces_flatMap hAbove,
      pieces_flatMap hNames] at hPieces
    exact ⟨pieces rest, pieces_ne_nil rest, (List.cons.inj hPieces).2.symm⟩
  · rintro ⟨later, hLater, rfl⟩
    cases later with
    | nil => exact absurd rfl hLater
    | cons name others =>
      have hNonempty : above ++ name :: others ≠ [] := by simp
      refine ⟨name ++ others.flatMap ('/' :: ·), ?_⟩
      rw [toList_ofNames hNonempty]
      simp

end OfNames

/-! ### Canonical paths -/

variable {path dir : String}

/-- No directory is below itself. -/
theorem not_below_self (dir : String) : isBelow dir dir = false := by
  rw [isBelow, Bool.eq_false_iff]
  intro hPrefix
  have hLength := (List.isPrefixOf_iff_prefix.1 hPrefix).length_le
  rw [List.length_append, List.length_singleton] at hLength
  omega

theorem IsCanonical.directory_eq (hPath : IsCanonical path) : directory path = path := by
  obtain ⟨names, hNames, rfl⟩ := hPath.exists_names
  exact directory_ofNames hNames

theorem IsCanonical.parent (hPath : IsCanonical path) : IsCanonical (Path.parent path) := by
  obtain ⟨names, hNames, rfl⟩ := hPath.exists_names
  rw [parent_ofNames hNames]
  exact isCanonical_ofNames fun name hMem => hNames name (List.dropLast_subset names hMem)

theorem isCanonical_root : IsCanonical root := rfl

/-- What holds of the root, and of a path if it holds of its parent, holds of every path. -/
@[elab_as_elim]
theorem IsCanonical.induction {motive : (path : String) → IsCanonical path → Prop}
    (root : motive root isCanonical_root)
    (entry : ∀ path (hPath : IsCanonical path), path ≠ Path.root →
      motive (Path.parent path) hPath.parent → motive path hPath)
    {path : String} (hPath : IsCanonical path) : motive path hPath := by
  obtain ⟨names, hNames, hMade⟩ := hPath.exists_names
  induction names using List.reverseRecOn generalizing path with
  | nil =>
    subst hMade
    exact root
  | append_singleton names name ih =>
    have hAbove : ∀ other ∈ names, IsName other := fun other hMem => hNames other (by simp [hMem])
    subst hMade
    -- The induction is on the names, and the parent is the path without the last of them.
    refine entry _ hPath (by simp [ofNames_eq_root_iff hNames]) (ih hPath.parent hAbove ?_)
    rw [parent_ofNames hNames, List.dropLast_concat]

/-- For a directory other than the root, the text of a path says what is under it. -/
theorem IsCanonical.isBelow_iff_isUnder (hPath : IsCanonical path) (hDir : IsCanonical dir)
    (hRoot : dir ≠ root) : isBelow path dir = true ↔ IsUnder path dir := by
  obtain ⟨names, hNames, rfl⟩ := hPath.exists_names
  obtain ⟨above, hAbove, rfl⟩ := hDir.exists_names
  have hNonempty : above ≠ [] := mt (ofNames_eq_root_iff hAbove).2 hRoot
  rw [isBelow_iff_names hNames hAbove hNonempty, IsUnder, names_ofNames hNames,
    names_ofNames hAbove]
  constructor
  · rintro ⟨later, hLater, rfl⟩
    exact ⟨List.prefix_append above later, by simpa using hLater⟩
  · rintro ⟨⟨later, rfl⟩, hNot⟩
    exact ⟨later, by simpa using hNot, rfl⟩

/-- The root is under no directory. -/
theorem not_isUnder_root : ¬IsUnder root dir :=
  fun ⟨hPrefix, hNot⟩ => hNot (List.prefix_nil.1 hPrefix)

/-- What is under a directory is in it, or in something under it. -/
theorem IsCanonical.isUnder_iff_parent (hPath : IsCanonical path) (hDir : IsCanonical dir) :
    IsUnder path dir ↔ path ≠ root ∧ (Path.parent path = dir ∨ IsUnder (Path.parent path) dir) := by
  obtain ⟨names, hNames, rfl⟩ := hPath.exists_names
  obtain ⟨above, hAbove, rfl⟩ := hDir.exists_names
  have hDropped : ∀ name ∈ names.dropLast, IsName name := fun name hMem =>
    hNames name (List.dropLast_subset names hMem)
  have hSame : ofNames names.dropLast = ofNames above ↔ above = names.dropLast :=
    ⟨fun h => (ofNames_inj hDropped hAbove h).symm, fun h => congrArg ofNames h.symm⟩
  have hRoot : ofNames names ≠ root ↔ names ≠ [] := (ofNames_eq_root_iff hNames).not
  rw [parent_ofNames hNames, IsUnder, IsUnder, names_ofNames hNames, names_ofNames hAbove,
    names_ofNames hDropped, hSame, hRoot]
  obtain rfl | ⟨first, last, rfl⟩ := names.eq_nil_or_concat'
  · simp
  · rw [List.dropLast_concat, List.prefix_concat_iff]
    -- A beginning of the names without the last is shorter than all of them, so it is a proper one.
    have hLonger : ∀ {later}, later <+: first → later ≠ first ++ [last] := by
      rintro later hPrefix rfl
      have hLength := hPrefix.length_le
      rw [List.length_append, List.length_singleton] at hLength
      omega
    constructor
    · rintro ⟨hAll | hPrefix, hNot⟩
      · exact absurd hAll hNot
      · exact ⟨by simp, or_iff_not_imp_left.2 fun hOther => ⟨hPrefix, hOther⟩⟩
    · rintro ⟨-, rfl | ⟨hPrefix, -⟩⟩
      · exact ⟨.inr List.prefix_rfl, hLonger List.prefix_rfl⟩
      · exact ⟨.inr hPrefix, hLonger hPrefix⟩

/-- What is below a directory other than the root is in it, or in something below it. -/
theorem IsCanonical.isBelow_iff_parent (hPath : IsCanonical path) (hDir : IsCanonical dir)
    (hRoot : dir ≠ root) :
    isBelow path dir = true ↔ Path.parent path = dir ∨ isBelow (Path.parent path) dir = true := by
  rw [hPath.isBelow_iff_isUnder hDir hRoot, hPath.parent.isBelow_iff_isUnder hDir hRoot,
    hPath.isUnder_iff_parent hDir, and_iff_right_of_imp]
  rintro hParent rfl
  exact hParent.elim (fun hSame => hRoot hSame.symm) not_isUnder_root

/-- The names of what is below a directory begin with the names of the directory. -/
theorem IsCanonical.names_of_isBelow (hPath : IsCanonical path) (hDir : IsCanonical dir)
    (hRoot : dir ≠ root) (hBelow : isBelow path dir = true) :
    Path.names dir <+: Path.names path :=
  ((hPath.isBelow_iff_isUnder hDir hRoot).1 hBelow).1

/-- The root is below no other directory. -/
theorem IsCanonical.root_not_below (hPath : IsCanonical path) (hRoot : path ≠ root) :
    isBelow root path = false := by
  have hUnder := isCanonical_root.isBelow_iff_isUnder hPath hRoot
  exact Bool.eq_false_iff.2 fun hBelow => not_isUnder_root (hUnder.1 hBelow)

/-- A directory other than the root is not the root, and neither is what is below it. -/
theorem IsCanonical.ne_root_of_under (hDir : IsCanonical dir) (hRoot : dir ≠ root)
    (hUnder : path = dir ∨ isBelow path dir = true) : path ≠ root := by
  rintro rfl
  obtain hSame | hBelow := hUnder
  · exact hRoot hSame.symm
  · exact Bool.false_ne_true ((hDir.root_not_below hRoot).symm.trans hBelow)

/-- Only the root is its own parent. -/
theorem IsCanonical.eq_root_of_parent (hPath : IsCanonical path)
    (hParent : Path.parent path = path) : path = root := by
  by_contra hRoot
  exact ((hPath.isUnder_iff_parent hPath).2 ⟨hRoot, .inl hParent⟩).2 rfl

/-- Nothing is below the root by its text, which has no name between two slashes. -/
theorem IsCanonical.not_below_root (hPath : IsCanonical path) : isBelow path root = false := by
  obtain ⟨names, hNames, rfl⟩ := hPath.exists_names
  cases names with
  | nil => rfl
  | cons name rest =>
    obtain ⟨hNonempty, hNoSlash⟩ := hNames name List.mem_cons_self
    obtain ⟨c, name, rfl⟩ := List.exists_cons_of_ne_nil hNonempty
    have hFirst : c ≠ '/' := fun hSlash => hNoSlash (by simp [hSlash])
    rw [isBelow, toList_ofNames (List.cons_ne_nil _ _), toList_root]
    simp [List.isPrefixOf, hFirst.symm]

end SparkFleet.Path
