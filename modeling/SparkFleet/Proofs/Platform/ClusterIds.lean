import Mathlib.Data.Nat.Digits.Defs
import SparkFleet.Proofs.Platform.Consistent

/-!
# The identifiers that the platform gives to clusters

The text of such an identifier ends in a number that is counted up, so no identifier is given twice.
A cluster may have been put in place from outside under an identifier that the platform is still to
give, and then it is replaced once that is given; `Platform.Unclaimed` says that there is no such
cluster.

The main statement is `get?_nextClusterId`: on a platform of which that holds, the cluster of the
next identifier does not exist.
-/

namespace SparkFleet.Platform

variable {p q : Platform}

/-- The number can be read off its text with leading zeros. -/
theorem ofDigitChars_fourDigits (n : Nat) : Nat.ofDigitChars 10 (fourDigits n).toList 0 = n := by
  unfold fourDigits
  rw [String.toList_ofList, Nat.ofDigitChars_append, Nat.ofDigitChars_replicate_zero, Nat.mul_zero,
    Nat.ofDigitChars_ten_toDigits]

theorem fourDigits_injective {m n : Nat} (h : fourDigits m = fourDigits n) : m = n := by
  rw [← ofDigitChars_fourDigits m, h, ofDigitChars_fourDigits]

/-- The platform is still to give the identifier to a cluster. -/
def IsAhead (p : Platform) (id : ClusterId) : Prop :=
  ∃ n, p.lastNumber < n ∧ id.text = clusterIdStart ++ fourDigits n

theorem isAhead_nextClusterId (p : Platform) : p.IsAhead p.nextClusterId :=
  ⟨p.nextNumber, Nat.lt_succ_self _, rfl⟩

/-- What is still to be given was so before. -/
theorem IsAhead.of_le {id : ClusterId} (hAhead : q.IsAhead id) (hLe : p.lastNumber ≤ q.lastNumber) :
    p.IsAhead id := by
  obtain ⟨n, hn, hText⟩ := hAhead
  exact ⟨n, Nat.lt_of_le_of_lt hLe hn, hText⟩

/-- An identifier that has been given is not given again. -/
theorem not_isAhead_nextClusterId (hLast : p.nextNumber ≤ q.lastNumber) :
    ¬q.IsAhead p.nextClusterId := by
  rintro ⟨n, hn, hText⟩
  -- The number is read off the text, which begins like every text of the kind.
  have hNumber : p.nextNumber = n := fourDigits_injective ((String.append_right_inj _).1 hText)
  omega

/-- No cluster has an identifier that the platform is still to give. -/
def Unclaimed (p : Platform) : Prop := p.clusters.All fun id _ => ¬p.IsAhead id

theorem Unclaimed.get?_eq_none (hUnclaimed : p.Unclaimed) {id : ClusterId} (hAhead : p.IsAhead id) :
    p.clusters.get? id = none := by
  cases hGet : p.clusters.get? id with
  | none => rfl
  | some entry => exact absurd hAhead (hUnclaimed hGet)

/-- The cluster of the next identifier does not exist. -/
theorem Unclaimed.get?_nextClusterId (hUnclaimed : p.Unclaimed) :
    p.clusters.get? p.nextClusterId = none :=
  hUnclaimed.get?_eq_none p.isAhead_nextClusterId

end SparkFleet.Platform
