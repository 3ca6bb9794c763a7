import Mathlib.Data.List.Basic
import Mathlib.Order.Lattice

/-!
# Counting above a threshold

In an ascending list the elements above a threshold are the last ones, so how
many there are is told by a single element and its distance from the end.
-/

namespace OrderStatistic

variable {α : Type*} [LinearOrder α] {ascending : List α} {index : Nat} {threshold element : α}

/-- All that is above the threshold counts. -/
theorem countP_of_all (above : ∀ other ∈ ascending, threshold < other) :
    ascending.countP (threshold < ·) = ascending.length := by
  rw [List.countP_eq_length]
  intro other member
  exact decide_eq_true (above other member)

/-- An element is above the threshold where as many are as stand from it on. -/
theorem lt_iff_le_countP (sorted : ascending.Pairwise (· ≤ ·))
    (there : ascending[index]? = some element) :
    threshold < element ↔ ascending.length - index ≤ ascending.countP (threshold < ·) := by
  induction ascending generalizing index with
  | nil => cases there
  | cons head tail ih =>
      obtain ⟨least, rest⟩ := List.pairwise_cons.mp sorted
      by_cases above : threshold < head
      · have all := countP_of_all fun other member =>
          lt_of_lt_of_le above (least other member)
        have whole : (head :: tail).countP (threshold < ·) = tail.length + 1 := by
          rw [List.countP_cons, all, if_pos (decide_eq_true above)]
        rw [whole, List.length_cons]
        refine ⟨fun _ => by omega, fun _ => lt_of_lt_of_le above ?_⟩
        rcases List.mem_cons.mp (List.mem_of_getElem? there) with rfl | member
        · exact le_refl _
        · exact least element member
      · have whole : (head :: tail).countP (threshold < ·) = tail.countP (threshold < ·) := by
          rw [List.countP_cons, if_neg (by simpa using above), Nat.add_zero]
        rw [whole, List.length_cons]
        cases index with
        | zero =>
            cases there
            have most := tail.countP_le_length (p := (threshold < ·))
            exact ⟨fun below => absurd below above, fun full => by omega⟩
        | succ index =>
            rw [ih rest there]
            omega

end OrderStatistic
