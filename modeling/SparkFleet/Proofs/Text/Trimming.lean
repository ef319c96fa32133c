import Mathlib.Data.List.DropRight
import SparkFleet.Text.Blank

/-!
# Trimming

What is dropped at an end of a text satisfies the test, and what is left does not begin or end with
such a character.  Conversely, a text that neither begins nor ends with such a character is what is
left of it once characters that satisfy the test have been put around it.

The main statement is `trimChars_append`, which says so of white space.
-/

namespace SparkFleet.Text

variable {test : Char → Bool} {s t : List Char}

theorem not_of_mem_head?_dropWhile : ∀ c ∈ (s.dropWhile test).head?, test c = false := by
  intro c hMem
  have hFirst := List.head?_dropWhile_not test s
  rwa [Option.mem_def.1 hMem] at hFirst

theorem not_of_mem_getLast?_dropEnd : ∀ c ∈ (dropEnd test s).getLast?, test c = false := by
  rw [dropEnd, List.getLast?_reverse]
  exact not_of_mem_head?_dropWhile

/-- What is dropped at an end is what satisfies the test. -/
theorem exists_dropEnd (test : Char → Bool) (s : List Char) :
    ∃ t, s = dropEnd test s ++ t ∧ ∀ c ∈ t, test c = true :=
  ⟨s.rtakeWhile test, List.rdropWhile_append_rtakeWhile.symm, fun _ => List.mem_rtakeWhile_imp⟩

theorem dropWhile_append (hAll : ∀ c ∈ s, test c = true)
    (hFirst : ∀ c ∈ t.head?, test c = false) : (s ++ t).dropWhile test = t := by
  rw [List.dropWhile_append_of_pos hAll]
  cases t with
  | nil => rfl
  | cons c rest => rw [List.dropWhile_cons, hFirst c rfl, if_neg Bool.false_ne_true]

theorem dropEnd_append (hLast : ∀ c ∈ s.getLast?, test c = false)
    (hAll : ∀ c ∈ t, test c = true) : dropEnd test (s ++ t) = s := by
  rw [dropEnd, List.reverse_append, dropWhile_append, List.reverse_reverse]
  · exact fun c hMem => hAll c (List.mem_reverse.1 hMem)
  · rwa [List.head?_reverse]

/-! ### White space -/

variable {before core after : List Char}

/-- A text is what is trimmed off, with what is left between. -/
theorem exists_trimChars (s : List Char) :
    ∃ before after, s = before ++ (trimChars s ++ after) ∧ (∀ c ∈ before, isWhite c = true) ∧
      ∀ c ∈ after, isWhite c = true := by
  obtain ⟨after, hAfter, hWhite⟩ := exists_dropEnd isWhite (s.dropWhile isWhite)
  refine ⟨s.takeWhile isWhite, after, ?_, fun _ => List.mem_takeWhile_imp, hWhite⟩
  rw [trimChars, ← hAfter, List.takeWhile_append_dropWhile]

/-- White space around a text that has none at its ends is trimmed off. -/
theorem trimChars_append (hNonempty : core ≠ []) (hFirst : ∀ c ∈ core.head?, isWhite c = false)
    (hLast : ∀ c ∈ core.getLast?, isWhite c = false) (hBefore : ∀ c ∈ before, isWhite c = true)
    (hAfter : ∀ c ∈ after, isWhite c = true) : trimChars (before ++ (core ++ after)) = core := by
  -- What is trimmed off in front stops where the text in the middle begins.
  have hBegin : ∀ c ∈ (core ++ after).head?, isWhite c = false := by
    rwa [List.head?_append_of_ne_nil _ hNonempty]
  rw [trimChars, dropWhile_append hBefore hBegin, dropEnd_append hLast hAfter]

end SparkFleet.Text
