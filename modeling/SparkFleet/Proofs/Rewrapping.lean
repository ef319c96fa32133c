import SparkFleet.Proofs.Execution

/-!
# Errors that are wrapped again

An error that leaves operations one inside the other is wrapped for one family after another.
`Error.chain` lists an error with all that it wraps; the root cause is the last of it.  Wrapping
adds one error in front of the chain where the family changes and none where it stays
(`chain_within`).

The main statement `rewrapping_keeps_cause` says what becomes of an error that is wrapped for any
families, one after the other.
-/

namespace SparkFleet.Error

variable (e : Error) (f : Family) (fs : List Family)

/-- An error with the errors that it wraps, the root cause last. -/
def chain : Error → List Error
  | .wrapped family message source => .wrapped family message source :: source.chain
  | .unresolved message source => .unresolved message source :: source.chain
  | e => [e]

theorem getLast?_chain : e.chain.getLast? = some e.rootCause := by
  induction e with
  | wrapped family message source ih | unresolved message source ih =>
    rw [chain, List.getLast?_cons, ih]
    rfl
  | _ => rfl

/-! ### Wrapping once -/

theorem rootCause_within : (e.within f).rootCause = e.rootCause := by
  unfold within
  split <;> rfl

/-- An error of another family is wrapped, and the rest of the chain stays. -/
theorem chain_within :
    (e.within f).chain =
      if e.family = some f then e.chain else .wrapped f e.message e :: e.chain := by
  unfold within
  split <;> rfl

theorem message_within :
    (e.within f).message = (if e.family = some f then "" else heading f) ++ e.message := by
  unfold within
  split
  · exact (String.empty_append ..).symm
  · rfl

/-! ### Wrapping for a list of families -/

/-- An error that is wrapped for each of some families, one after the other. -/
def withinAll (e : Error) (fs : List Family) : Error := fs.foldl (fun e f => e.within f) e

/-- How many of some families differ from the one that is current before them: at first a given
one, or none, and then the one before in the list. -/
def changes (current : Option Family) (fs : List Family) : Nat :=
  ((current :: fs.map some).zip (fs.map some)).countP fun (current, f) => current ≠ f

theorem changes_cons (current : Option Family) :
    changes current (f :: fs) = (if current = some f then 0 else 1) + changes (some f) fs := by
  unfold changes
  rw [List.map_cons, List.zip_cons_cons, List.countP_cons, Nat.add_comm]
  by_cases hSame : current = some f
  · simp [hSame]
  · simp [hSame]

theorem rootCause_withinAll : (e.withinAll fs).rootCause = e.rootCause := by
  induction fs generalizing e with
  | nil => rfl
  | cons f fs ih => exact (ih (e.within f)).trans (e.rootCause_within f)

theorem family_withinAll : (e.withinAll fs).family = fs.getLast?.or e.family := by
  induction fs generalizing e with
  | nil => rfl
  | cons f fs ih =>
    refine (ih (e.within f)).trans ?_
    rw [family_within, List.getLast?_cons]
    cases fs.getLast? <;> rfl

/-- The chain grows at its front, by one error for each change of the family. -/
theorem chain_withinAll :
    ∃ outer, (e.withinAll fs).chain = outer ++ e.chain ∧ outer.length = changes e.family fs := by
  induction fs generalizing e with
  | nil => exact ⟨[], rfl, rfl⟩
  | cons f fs ih =>
    -- The error that is wrapped for the rest of the families is the one that the first has wrapped.
    obtain ⟨outer, hChain, hLength⟩ := ih (e.within f)
    rw [chain_within] at hChain
    rw [family_within] at hLength
    rw [changes_cons, ← hLength]
    by_cases hSame : e.family = some f
    · rw [if_pos hSame] at hChain ⊢
      exact ⟨outer, hChain, (Nat.zero_add _).symm⟩
    · rw [if_neg hSame] at hChain ⊢
      -- The family changes at the first of them, and its wrapping is the innermost.
      refine ⟨outer ++ [.wrapped f e.message e], ?_, ?_⟩
      · rw [List.append_assoc]
        exact hChain
      · rw [List.length_append, List.length_singleton, Nat.add_comm]

theorem message_withinAll : ∃ start, (e.withinAll fs).message = start ++ e.message := by
  induction fs generalizing e with
  | nil => exact ⟨"", (String.empty_append ..).symm⟩
  | cons f fs ih =>
    obtain ⟨start, hMessage⟩ := ih (e.within f)
    rw [message_within, ← String.append_assoc] at hMessage
    exact ⟨_, hMessage⟩

/-- Whatever an error is and for whatever families it is wrapped, its root cause and the failed call
at the root stay, and it is of the last of the families.  Its chain is that of the error with as
many errors before it as the family has changed, so that the root cause is still the last of it, and
its message ends with that of the error. -/
theorem rewrapping_keeps_cause (e : Error) (fs : List Family) :
    let w := e.withinAll fs
    w.rootCause = e.rootCause ∧ w.transport? = e.transport? ∧
      w.family = fs.getLast?.or e.family ∧
      w.chain.getLast? = some e.rootCause ∧ (∃ outer, w.chain = outer ++ e.chain) ∧
      w.chain.length = e.chain.length + changes e.family fs ∧
      ∃ start, w.message = start ++ e.message := by
  intro w
  have hRoot := e.rootCause_withinAll fs
  obtain ⟨outer, hChain, hLength⟩ := e.chain_withinAll fs
  refine ⟨hRoot, ?_, e.family_withinAll fs, ?_, ⟨outer, hChain⟩, ?_, e.message_withinAll fs⟩
  · rw [transport?, hRoot, transport?]
  · rw [getLast?_chain, hRoot]
  · rw [hChain, List.length_append, hLength, Nat.add_comm]

end SparkFleet.Error
