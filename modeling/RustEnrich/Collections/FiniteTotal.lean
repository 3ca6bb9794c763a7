import Mathlib.Algebra.BigOperators.Group.Finset.Basic

/-!
# Totals of finitely many weights

The total of a function that vanishes off finitely many keys, as a relation. It
does not depend on the keys it is summed over, and a change at one key changes
it by as much.
-/

namespace FiniteTotal

variable {Key : Type*} {weight changed : Key → Nat} {total : Nat}

/-- The weights of finitely many keys add up. -/
def Totals (weight : Key → Nat) (total : Nat) : Prop :=
  ∃ keys : Finset Key, (∀ key, key ∉ keys → weight key = 0) ∧ ∑ key ∈ keys, weight key = total

/-- Nothing weighs nothing. -/
theorem totals_zero : Totals (fun _ : Key => 0) 0 := ⟨∅, fun _ _ => rfl, Finset.sum_empty⟩

/-- A weight that changes at one key. -/
theorem Totals.change [DecidableEq Key] (totals : Totals weight total) (key : Key)
    (same : ∀ other, other ≠ key → changed other = weight other) :
    ∃ after, Totals changed after ∧ after + weight key = total + changed key := by
  obtain ⟨keys, silent, rfl⟩ := totals
  have rest : ∑ other ∈ keys.erase key, changed other = ∑ other ∈ keys.erase key, weight other := by
    apply Finset.sum_congr rfl
    intro other member
    exact same other (Finset.ne_of_mem_erase member)
  refine ⟨∑ other ∈ insert key keys, changed other, ⟨insert key keys, ?_, rfl⟩, ?_⟩
  · intro other outside
    rw [Finset.mem_insert, not_or] at outside
    rw [same other outside.1]
    exact silent other outside.2
  · have before : ∑ other ∈ keys.erase key, weight other + weight key =
        ∑ other ∈ keys, weight other := by
      by_cases member : key ∈ keys
      · exact Finset.sum_erase_add _ _ member
      · rw [Finset.erase_eq_of_notMem member, silent key member, Nat.add_zero]
    have after : ∑ other ∈ insert key keys, changed other =
        ∑ other ∈ keys.erase key, changed other + changed key := by
      rw [← Finset.sum_erase_add _ _ (Finset.mem_insert_self key keys),
        Finset.erase_insert_eq_erase]
    rw [after, rest, ← before]
    omega

end FiniteTotal
