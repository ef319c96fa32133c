import SparkFleet.Id
import SparkFleet.Proofs.Text.Numeral
import SparkFleet.Proofs.Text.Trimming

/-!
# Reading the identifiers of jobs and runs

Such an identifier is read from a numeral with white space around it.  The main statement is
`ids_read_numerals`: that is read as its number if the number fits 64 bits, and every other text is
refused and kept in the failure as it was given.  In particular what an identifier is written as is
read as the identifier again.
-/

namespace SparkFleet

open Text (IsNumeral InRange isWhite trim)

variable {text : String} {n : Int} {number : Int64}

/-- A text says a number: it is a numeral of it, with white space around it. -/
def Says (text : String) (n : Int) : Prop :=
  ∃ before core after, text.toList = before ++ (core ++ after) ∧
    (∀ c ∈ before, isWhite c = true) ∧ (∀ c ∈ after, isWhite c = true) ∧ IsNumeral core n

/-- Identifiers are read from the texts that say their numbers. -/
structure ReadsNumerals {ι : Type} (read : String → Except IdError ι) (number : ι → Int64)
    (write : ι → String) : Prop where
  accepted_iff : ∀ text, (∃ id, read text = .ok id) ↔ ∃ n, Says text n ∧ InRange n
  /-- What is read has the number that the text says. -/
  read_iff : ∀ text id, read text = .ok id ↔ Says text (number id).toInt
  /-- Of a text that is refused nothing is trimmed. -/
  refused : ∀ text cause, read text = .error cause → cause = .invalidNumber text
  /-- What is written is read again, whatever white space is put around it. -/
  readsBack : ∀ id before after, Text.isBlank before = true → Text.isBlank after = true →
    read (before ++ write id ++ after) = .ok id

/-! ### The number of a text -/

/-- What is left of a text is a numeral if the text says a number. -/
theorem isNumeral_trim_iff : IsNumeral (trim text).toList n ↔ Says text n := by
  rw [trim, String.toList_ofList]
  constructor
  · intro hNumeral
    obtain ⟨before, after, hText, hBefore, hAfter⟩ := Text.exists_trimChars text.toList
    exact ⟨before, _, after, hText, hBefore, hAfter, hNumeral⟩
  · rintro ⟨before, core, after, hText, hBefore, hAfter, hNumeral⟩
    -- A numeral has no white space at its ends, so exactly what is around it is trimmed off.
    have hFirst : ∀ c ∈ core.head?, isWhite c = false := fun c hMem =>
      hNumeral.not_white c (List.mem_of_head? hMem)
    have hLast : ∀ c ∈ core.getLast?, isWhite c = false := fun c hMem =>
      hNumeral.not_white c (List.mem_of_getLast? hMem)
    rwa [hText, Text.trimChars_append hNumeral.ne_nil hFirst hLast hBefore hAfter]

theorem idNumber_eq_ok_iff : idNumber text = .ok number ↔ Says text number.toInt := by
  rw [← isNumeral_trim_iff, ← Text.int64?_eq_some_iff]
  unfold idNumber
  split <;> simp_all

theorem idNumber_eq_error {cause : IdError} (hRefused : idNumber text = .error cause) :
    cause = .invalidNumber text := by
  unfold idNumber at hRefused
  split at hRefused
  · cases hRefused
  · exact (Except.error.inj hRefused).symm

/-- A number says itself, whatever white space is put around it. -/
theorem says_toString {before after : String} (n : Int) (hBefore : Text.isBlank before = true)
    (hAfter : Text.isBlank after = true) : Says (before ++ toString n ++ after) n := by
  refine ⟨before.toList, (toString n).toList, after.toList, ?_, List.all_eq_true.1 hBefore,
    List.all_eq_true.1 hAfter, Text.isNumeral_toString n⟩
  rw [String.toList_append, String.toList_append, List.append_assoc]

/-! ### Identifiers -/

/-- The identifiers that are no more than a number are read from numerals. -/
theorem readsNumerals_idNumber {ι : Type} {mk : Int64 → ι} {number : ι → Int64}
    (hNumber : ∀ m, number (mk m) = m) (hMk : ∀ id, mk (number id) = id) :
    ReadsNumerals (fun text => (idNumber text).map mk) number fun id =>
      toString (number id).toInt := by
  have hRead (text : String) (id : ι) :
      (idNumber text).map mk = .ok id ↔ Says text (number id).toInt := by
    rw [← idNumber_eq_ok_iff]
    cases idNumber text with
    | error cause => exact iff_of_false nofun nofun
    | ok m =>
      simp only [Except.map, Except.ok.injEq]
      exact ⟨fun h => by rw [← h, hNumber], fun h => by rw [h, hMk]⟩
  refine ⟨fun text => ⟨?_, ?_⟩, hRead, fun text cause hRefused => ?_,
    fun id before after hBefore hAfter => ?_⟩
  · rintro ⟨id, hId⟩
    exact ⟨_, (hRead text id).1 hId, Text.inRange_toInt _⟩
  · -- The number fits, so it is that of an identifier.
    rintro ⟨n, hSays, hRange⟩
    refine ⟨mk (.ofInt n), (hRead _ _).2 ?_⟩
    rwa [hNumber, Text.toInt_ofInt hRange]
  · cases hId : idNumber text with
    | ok m =>
      rw [hId] at hRefused
      cases hRefused
    | error cause' =>
      rw [hId] at hRefused
      cases hRefused
      exact idNumber_eq_error hId
  · exact (hRead _ _).2 (says_toString _ hBefore hAfter)

/-- The identifiers of jobs and of runs are read from the numerals of 64-bit numbers, with white
space around them, and from no other text. -/
theorem ids_read_numerals :
    ReadsNumerals JobId.ofText JobId.number JobId.text ∧
      ReadsNumerals RunId.ofText RunId.number RunId.text :=
  ⟨readsNumerals_idNumber (fun _ => rfl) (fun _ => rfl),
    readsNumerals_idNumber (fun _ => rfl) (fun _ => rfl)⟩

/-- The least number is read, with zeros before its digits and white space of other kinds. -/
example : JobId.ofText "\u2003-009223372036854775808\u0085" = .ok ⟨Int64.minValue⟩ := by decide

end SparkFleet
