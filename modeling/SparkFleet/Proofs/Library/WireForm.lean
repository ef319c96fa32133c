import SparkFleet.Proofs.Library.SameLibrary

/-!
# The wire form of a library

A wire form has a field for each kind of library, and any of them may be set.  A library is read
from the first field that is set, in the order of the kinds (`map_kind_ofSpec?`), and its own wire
form is that field alone (`toSpec_of_ofSpec?`).  So wire forms with one field and libraries stand
for each other.

The main statement `wire_form_identifies` adds that identity is what the wire form says when the
dependencies that are left out are not looked at.
-/

namespace SparkFleet

namespace LibrarySpec

/-- Whether the field of a kind is set. -/
def isSet (spec : LibrarySpec) : LibraryKind → Bool
  | .jar => spec.jar.isSome
  | .egg => spec.egg.isSome
  | .pypi => spec.pypi.isSome
  | .maven => spec.maven.isSome
  | .cran => spec.cran.isSome

/-- The kinds whose fields are set. -/
def kinds (spec : LibrarySpec) : List LibraryKind := LibraryKind.all.filter spec.isSet

/-- The field of a kind alone. -/
def only (spec : LibrarySpec) : LibraryKind → LibrarySpec
  | .jar => { jar := spec.jar }
  | .egg => { egg := spec.egg }
  | .pypi => { pypi := spec.pypi }
  | .maven => { maven := spec.maven }
  | .cran => { cran := spec.cran }

/-- The wire form without the dependencies that are left out of an artifact. -/
def withoutExclusions (spec : LibrarySpec) : LibrarySpec :=
  { spec with maven := spec.maven.map ({ · with exclusions := [] }) }

theorem mem_kinds {spec : LibrarySpec} {kind : LibraryKind} :
    kind ∈ spec.kinds ↔ spec.isSet kind = true := by
  have hAll : kind ∈ LibraryKind.all := by cases kind <;> decide
  rw [kinds, List.mem_filter, and_iff_right hAll]

/-- A wire form with one field is that field. -/
theorem only_of_kinds_eq {spec : LibrarySpec} {kind : LibraryKind} (hKinds : spec.kinds = [kind]) :
    spec.only kind = spec := by
  -- Every other way of setting the fields has no kind or several.
  rcases spec with ⟨_ | jar, _ | egg, _ | pypi, _ | maven, _ | cran⟩ <;> cases hKinds <;> rfl

end LibrarySpec

namespace Library

open Platform (trimmed)

variable {a b : Library} {spec : LibrarySpec}

/-! ### Reading -/

/-- A library is read from the first field that is set. -/
theorem map_kind_ofSpec? (spec : LibrarySpec) : (ofSpec? spec).map kind = spec.kinds.head? := by
  rcases spec with ⟨_ | jar, _ | egg, _ | pypi, _ | maven, _ | cran⟩ <;> rfl

/-- The wire form of a library that has been read is the field that it was read from. -/
theorem toSpec_of_ofSpec? (hRead : ofSpec? spec = some a) : a.toSpec = spec.only a.kind := by
  unfold ofSpec? at hRead
  split at hRead <;> cases hRead <;> rfl

/-- A library is read exactly if a field is set. -/
theorem isSome_ofSpec?_iff :
    (ofSpec? spec).isSome = true ↔ ∃ kind, spec.isSet kind = true := by
  rw [← Option.isSome_map, map_kind_ofSpec?, List.isSome_head?, ← List.length_pos_iff,
    List.length_pos_iff_exists_mem]
  exact exists_congr fun kind => LibrarySpec.mem_kinds

/-- Of the wire form of a library one field is set, that of its kind. -/
theorem kinds_toSpec (a : Library) : a.toSpec.kinds = [a.kind] := by cases a <;> rfl

/-- A wire form with one field is that of the library that it denotes. -/
theorem exists_toSpec_eq {kind : LibraryKind} (hKinds : spec.kinds = [kind]) :
    ∃ l, ofSpec? spec = some l ∧ l.toSpec = spec := by
  have hFirst : (ofSpec? spec).map Library.kind = some kind := by
    rw [map_kind_ofSpec?, hKinds]
    rfl
  obtain ⟨l, hRead, rfl⟩ := Option.map_eq_some_iff.1 hFirst
  exact ⟨l, hRead, by rw [toSpec_of_ofSpec? hRead, LibrarySpec.only_of_kinds_eq hKinds]⟩

/-! ### Identity -/

theorem withoutExclusions_toSpec (a : Library) :
    a.toSpec.withoutExclusions = (a.withExclusions []).toSpec := by cases a <;> rfl

/-- The dependencies that are left out do not count for the identity. -/
theorem isSameAs_withExclusions (a : Library) (exclusions : List String) :
    a.isSameAs (a.withExclusions exclusions) = true := by
  rw [isSameAs_iff]
  cases a <;> exact ⟨rfl, rfl, rfl⟩

theorem exclusions_withExclusions (a : Library) (exclusions : List String) :
    (a.withExclusions exclusions).exclusions =
      if a.kind = .maven then some exclusions else none := by
  cases a <;> rfl

/-- Libraries are the same exactly if they are equal but for the dependencies that are left out. -/
theorem isSameAs_iff_withExclusions :
    a.isSameAs b = true ↔ a.withExclusions [] = b.withExclusions [] := by
  -- Each library is the same as its plain form, so the plain forms are compared instead.
  have hLeft := isSameAs_iff.1 (isSameAs_withExclusions a [])
  have hRight := isSameAs_iff.1 (isSameAs_withExclusions b [])
  constructor
  · intro hSame
    obtain ⟨hKind, hIdentifier, hRepo⟩ := isSameAs_iff.1 hSame
    -- Libraries that are the same differ at most in the exclusions, and plain ones have none.
    refine eq_of_isSameAs (isSameAs_iff.2 ⟨?_, ?_, ?_⟩) ?_
    · rw [← hLeft.1, ← hRight.1, hKind]
    · rw [← hLeft.2.1, ← hRight.2.1, hIdentifier]
    · rw [← hLeft.2.2, ← hRight.2.2, hRepo]
    · rw [exclusions_withExclusions, exclusions_withExclusions, hKind]
  · intro hPlain
    rw [isSameAs_iff, hLeft.1, hLeft.2.1, hLeft.2.2, hPlain, ← hRight.1, ← hRight.2.1, ← hRight.2.2]
    exact ⟨rfl, rfl, rfl⟩

/-- The wire form of a library has one field and denotes the library, and two libraries are the same
exactly if their wire forms are, the dependencies that are left out apart.  A wire form with one
field is that of a library.  In general a wire form denotes a library exactly if a field is set; it
is that of the first such field, and it stays the same on its way through a wire form of its own. -/
theorem wire_form_identifies (a b : Library) (spec : LibrarySpec) :
    ((∃ kind, a.toSpec.kinds = [kind]) ∧ ofSpec? a.toSpec = some a ∧
      (a.isSameAs b = true ↔ a.toSpec.withoutExclusions = b.toSpec.withoutExclusions)) ∧
    ((∃ kind, spec.kinds = [kind]) → ∃ l, ofSpec? spec = some l ∧ l.toSpec = spec) ∧
    ((ofSpec? spec).isSome = true ↔ ∃ kind, spec.isSet kind = true) ∧
    ∀ l, ofSpec? spec = some l →
      spec.kinds.head? = some l.kind ∧ l.toSpec = spec.only l.kind ∧
        ∃ again, ofSpec? l.toSpec = some again ∧ l.isSameAs again = true := by
  refine ⟨⟨⟨a.kind, kinds_toSpec a⟩, ofSpec?_toSpec a, ?_⟩, ?_, isSome_ofSpec?_iff, ?_⟩
  · rw [withoutExclusions_toSpec, withoutExclusions_toSpec, isSameAs_iff_withExclusions]
    exact ⟨congrArg toSpec, toSpec_injective⟩
  · rintro ⟨kind, hKinds⟩
    exact exists_toSpec_eq hKinds
  · intro l hRead
    have hFirst : spec.kinds.head? = some l.kind := by
      rw [← map_kind_ofSpec?, hRead]
      rfl
    exact ⟨hFirst, toSpec_of_ofSpec? hRead, l, ofSpec?_toSpec l, isSameAs_iff.2 ⟨rfl, rfl, rfl⟩⟩

/-- An artifact is the same without its exclusions; an R package is read from its wire form; and of
an egg and a Maven artifact in one wire form the egg is read. -/
theorem wire_form_identifies_trimmed :
    (trimmed.isSameAs (trimmed.withExclusions []) = true ∧
      trimmed.toSpec ≠ (trimmed.withExclusions []).toSpec) ∧
    (∃ l, ofSpec? { cran := some ⟨"ada", none⟩ } = some l ∧
      l.toSpec = { cran := some ⟨"ada", none⟩ }) ∧
    ∃ again, ofSpec? (Library.egg "dbfs:/a.egg").toSpec = some again ∧
      (Library.egg "dbfs:/a.egg").isSameAs again = true := by
  let mixed : LibrarySpec := { egg := some "dbfs:/a.egg", maven := trimmed.toSpec.maven }
  obtain ⟨⟨-, -, hSame⟩, hSingle, -⟩ :=
    wire_form_identifies trimmed (trimmed.withExclusions []) { cran := some ⟨"ada", none⟩ }
  obtain ⟨-, -, -, hRead⟩ := wire_form_identifies trimmed trimmed mixed
  exact ⟨⟨hSame.2 rfl, by decide⟩, hSingle ⟨.cran, rfl⟩, (hRead (.egg "dbfs:/a.egg") rfl).2.2⟩

end Library

end SparkFleet
