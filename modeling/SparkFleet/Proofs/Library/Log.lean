import Mathlib.Data.List.Induction
import Mathlib.Data.List.Nodup
import SparkFleet.Library.Record

/-!
# The log of a cluster's libraries

What matters to the list of a cluster's libraries is which libraries have been installed and which
have been dropped, in order.  `present` is the list that such a log leaves: a library is added at
the end where it is not there yet, and taken out where it is dropped.

The list has no library twice (`nodup_present`), it has exactly those that have been installed and
not been dropped since (`mem_present_iff`), and they are in the order in which they have come to
stay (`exists_installation`).
-/

namespace SparkFleet

/-- What happens to the libraries of a cluster. -/
inductive LibraryMark where
  /-- The library is installed, whether it is there already or not. -/
  | installed (spec : LibrarySpec)
  | dropped (spec : LibrarySpec)
  deriving DecidableEq

namespace LibraryMark

variable {log : List LibraryMark} {mark : LibraryMark} {spec other : LibrarySpec}

/-- The libraries after one of them has been installed or dropped. -/
def apply (present : List LibrarySpec) : LibraryMark → List LibrarySpec
  | .installed spec => if spec ∈ present then present else present ++ [spec]
  | .dropped spec => present.filter (· ≠ spec)

/-- The libraries that a log leaves. -/
def present (log : List LibraryMark) : List LibrarySpec := log.foldl apply []

/-- The library has been installed and not been dropped since. -/
def Stands (log : List LibraryMark) (spec : LibrarySpec) : Prop :=
  ∃ before after, log = before ++ .installed spec :: after ∧ .dropped spec ∉ after

/-- Of the libraries of some kind that stand, this is the one that was installed first: when it was
installed, all others of the kind that stood then have been dropped since. -/
def FirstStanding (kind : LibrarySpec → Prop) (log : List LibraryMark) (spec : LibrarySpec) :
    Prop :=
  kind spec ∧ ∃ before after, log = before ++ .installed spec :: after ∧ .dropped spec ∉ after ∧
    ∀ other, kind other → Stands before other → .dropped other ∈ after

/-- Where a list that has grown at its end is split at an element, this is the new one or the split
is one of the list before. -/
theorem concat_eq_append_cons {α : Type} {l first later : List α} {a b : α}
    (hSplit : l ++ [a] = first ++ b :: later) :
    (first = l ∧ b = a ∧ later = []) ∨ ∃ rest, later = rest ++ [a] ∧ l = first ++ b :: rest := by
  rcases List.eq_nil_or_concat' later with rfl | ⟨rest, last, rfl⟩
  · obtain ⟨hFirst, hLast⟩ := List.append_inj' hSplit rfl
    exact .inl ⟨hFirst.symm, (List.singleton_inj.1 hLast).symm, rfl⟩
  · have hSplit' : l ++ [a] = (first ++ b :: rest) ++ [last] := by
      rw [hSplit, List.append_assoc, List.cons_append]
    obtain ⟨hRest, hLast⟩ := List.append_inj' hSplit' rfl
    obtain rfl := List.singleton_inj.1 hLast
    exact .inr ⟨rest, rfl, hRest⟩

/-! ### The libraries that are there -/

theorem present_concat (log : List LibraryMark) (mark : LibraryMark) :
    present (log ++ [mark]) = apply (present log) mark := by
  rw [present, List.foldl_append]
  rfl

theorem mem_apply_installed {present : List LibrarySpec} :
    spec ∈ apply present (.installed other) ↔ spec = other ∨ spec ∈ present := by
  rw [apply]
  split
  · next hThere =>
    refine ⟨.inr, ?_⟩
    rintro (rfl | hMem)
    · exact hThere
    · exact hMem
  · rw [List.mem_append, List.mem_singleton, or_comm]

theorem mem_apply_dropped {present : List LibrarySpec} :
    spec ∈ apply present (.dropped other) ↔ spec ∈ present ∧ spec ≠ other := by
  simp [apply]

/-- No library is there twice. -/
theorem nodup_apply {present : List LibrarySpec} (hNodup : present.Nodup) (mark : LibraryMark) :
    (apply present mark).Nodup := by
  cases mark with
  | installed spec =>
    rw [apply]
    split
    · exact hNodup
    · next hNew => exact hNodup.append (List.nodup_singleton _) (by simpa using hNew)
  | dropped spec => exact hNodup.filter _

theorem nodup_present (log : List LibraryMark) : (present log).Nodup := by
  induction log using List.reverseRecOn with
  | nil => exact List.nodup_nil
  | append_singleton log mark ih =>
    rw [present_concat]
    exact nodup_apply ih mark

/-! ### The libraries that stand -/

/-- What stands, seen from the last mark. -/
theorem stands_concat_iff :
    Stands (log ++ [mark]) spec ↔
      mark = .installed spec ∨ Stands log spec ∧ mark ≠ .dropped spec := by
  constructor
  · rintro ⟨before, after, hSplit, hStays⟩
    -- The installation is the new mark, or it is one of the marks before.
    rcases concat_eq_append_cons hSplit with ⟨-, hMark, -⟩ | ⟨rest, rfl, rfl⟩
    · exact .inl hMark.symm
    · refine .inr ⟨⟨before, rest, rfl, fun hMem => hStays (List.mem_append_left _ hMem)⟩, ?_⟩
      rintro rfl
      exact hStays (List.mem_append_right _ List.mem_cons_self)
  · rintro (rfl | ⟨⟨before, after, rfl, hStays⟩, hNot⟩)
    · exact ⟨log, [], rfl, List.not_mem_nil⟩
    · refine ⟨before, after ++ [mark], by simp, fun hMem => ?_⟩
      rcases List.mem_append.1 hMem with hMem | hMem
      · exact hStays hMem
      · exact hNot (List.mem_singleton.1 hMem).symm

/-- There are exactly the libraries that have been installed and not been dropped since. -/
theorem mem_present_iff : spec ∈ present log ↔ Stands log spec := by
  induction log using List.reverseRecOn with
  | nil =>
    refine ⟨fun hMem => (List.not_mem_nil hMem).elim, ?_⟩
    rintro ⟨before, after, hSplit, -⟩
    simp at hSplit
  | append_singleton log mark ih =>
    rw [present_concat, stands_concat_iff, ← ih]
    cases mark with
    | installed other => rw [mem_apply_installed]; simp [eq_comm]
    | dropped other => rw [mem_apply_dropped]; simp [eq_comm]

/-- Each library that is there has come to stay at some point of the log, and what was there before
it at that point, and still is, is before it in the list. -/
theorem exists_installation {first later : List LibrarySpec}
    (hPresent : present log = first ++ spec :: later) :
    ∃ before after, log = before ++ .installed spec :: after ∧ .dropped spec ∉ after ∧
      ∀ other, Stands before other → .dropped other ∉ after → other ∈ first := by
  induction log using List.reverseRecOn generalizing first later with
  | nil => simp [present] at hPresent
  | append_singleton log mark ih =>
    rw [present_concat] at hPresent
    -- A later mark that does not drop the library leaves the point where it is.
    have hLater : ∀ {first' later' : List LibrarySpec}, present log = first' ++ spec :: later' →
        mark ≠ .dropped spec →
        (∀ other, other ∈ first' → mark ≠ .dropped other → other ∈ first) →
        ∃ before after, log ++ [mark] = before ++ .installed spec :: after ∧
          .dropped spec ∉ after ∧
          ∀ other, Stands before other → .dropped other ∉ after → other ∈ first := by
      intro first' later' hPresent' hNot hFirst
      obtain ⟨before, after, rfl, hStays, hBefore⟩ := ih hPresent'
      refine ⟨before, after ++ [mark], by simp, ?_, fun other hStands hOther => ?_⟩
      · simp [hStays, hNot.symm]
      · have hKept : .dropped other ∉ after ∧ mark ≠ .dropped other := by
          simpa [eq_comm] using hOther
        exact hFirst other (hBefore other hStands hKept.1) hKept.2
    cases mark with
    | installed new =>
      rw [apply] at hPresent
      split at hPresent
      · exact hLater hPresent (by simp) fun other hMem _ => hMem
      · -- A new library is the last one, or it stands behind the others.
        rcases concat_eq_append_cons hPresent with ⟨rfl, rfl, -⟩ | ⟨rest, -, hRest⟩
        · exact ⟨log, [], rfl, List.not_mem_nil, fun other hStands _ => mem_present_iff.2 hStands⟩
        · exact hLater hRest (by simp) fun other hMem _ => hMem
    | dropped old =>
      -- What is in front of the library is kept, or it is the library that is dropped.
      obtain ⟨kept, rest, hAll, hKept, hRest⟩ := List.filter_eq_append_iff.1 hPresent
      obtain ⟨gone, rest', rfl, hGone, hSpec, -⟩ := List.filter_eq_cons_iff.1 hRest
      have hOld : spec ≠ old := by simpa using hSpec
      have hPresent' : present log = (kept ++ gone) ++ spec :: rest' := by
        rw [hAll, List.append_assoc]
      refine hLater hPresent' (by simp [hOld.symm]) fun other hMem hNot => ?_
      have hOther : other ≠ old := fun hSame => hNot (by rw [hSame])
      rw [← hKept]
      rcases List.mem_append.1 hMem with hMem | hMem
      · exact List.mem_filter.2 ⟨hMem, by simpa using hOther⟩
      · exact absurd (by simpa using hGone other hMem) hOther

end LibraryMark

end SparkFleet
