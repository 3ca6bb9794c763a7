import Mathlib.Data.List.Infix

/-!
# The longest suffix that fits

Trimming a list from the front until what is left satisfies a predicate, all at
once or in bounded chunks. The predicate need not be inherited by suffixes: the
first suffix met that satisfies it is the longest one.
-/

namespace FittingSuffix

variable {α : Type*} (fits : List α → Prop) [DecidablePred fits]

/-- Drop elements from the front until the rest fits. -/
def longest : List α → List α
  | [] => []
  | head :: tail => if fits (head :: tail) then head :: tail else longest tail

/-- The same, giving up after a number of drops. -/
def dropUpTo : Nat → List α → List α
  | 0, list => list
  | _ + 1, [] => []
  | count + 1, head :: tail =>
      if fits (head :: tail) then head :: tail else dropUpTo count tail

/-- It is a suffix. -/
theorem longest_suffix (list : List α) : longest fits list <:+ list := by
  induction list with
  | nil => exact List.suffix_refl _
  | cons head tail ih =>
      unfold longest
      split
      · exact List.suffix_refl _
      · exact ih.trans (List.suffix_cons head tail)

/-- It fits. -/
theorem longest_fits (empty : fits []) (list : List α) : fits (longest fits list) := by
  induction list with
  | nil => exact empty
  | cons head tail ih =>
      unfold longest
      split
      · assumption
      · exact ih

/-- A list that fits is its own longest suffix that fits. -/
theorem longest_of_fits {list : List α} (fitting : fits list) : longest fits list = list := by
  cases list with
  | nil => rfl
  | cons head tail => exact if_pos fitting

/-- Every fitting suffix is a suffix of the longest one. -/
theorem suffix_longest {list suffix : List α} (inside : suffix <:+ list)
    (fitting : fits suffix) : suffix <:+ longest fits list := by
  induction list with
  | nil => exact inside
  | cons head tail ih =>
      unfold longest
      split
      · exact inside
      · rename_i exceeds
        rcases List.suffix_cons_iff.mp inside with whole | proper
        · exact absurd (whole ▸ fitting) exceeds
        · exact ih proper

/-- The longest suffix of a list that fits. -/
structure IsLongest (list kept : List α) : Prop where
  suffix : kept <:+ list
  fitting : fits kept
  greatest : ∀ other, other <:+ list → fits other → other <:+ kept

/-- No longer suffix fits. -/
theorem longest_isLongest (empty : fits []) (list : List α) :
    IsLongest fits list (longest fits list) where
  suffix := longest_suffix fits list
  fitting := longest_fits fits empty list
  greatest := fun _ inside fitting => suffix_longest fits inside fitting

/-- There is only one longest suffix. -/
theorem IsLongest.eq_longest {list kept : List α} (isLongest : IsLongest fits list kept)
    (empty : fits []) : kept = longest fits list := by
  have inside := suffix_longest fits isLongest.suffix isLongest.fitting
  have around := isLongest.greatest _ (longest_suffix fits list) (longest_fits fits empty list)
  exact inside.eq_of_length_le around.length_le

/-- Trimming in chunks ends where trimming at once does. -/
theorem longest_dropUpTo (count : Nat) (list : List α) :
    longest fits (dropUpTo fits count list) = longest fits list := by
  induction count generalizing list with
  | zero => rfl
  | succ count ih =>
      cases list with
      | nil => rfl
      | cons head tail =>
          unfold dropUpTo
          split
          · rfl
          · rename_i exceeds
            rw [ih]
            exact (if_neg exceeds).symm

/-- A chunk makes progress on a list that does not fit. -/
theorem length_dropUpTo_lt {count : Nat} (positive : 0 < count) {list : List α}
    (nonempty : list ≠ []) (exceeds : ¬ fits list) :
    (dropUpTo fits count list).length < list.length := by
  have shrinks : ∀ (steps : Nat) (rest : List α),
      (dropUpTo fits steps rest).length ≤ rest.length := by
    intro steps
    induction steps with
    | zero => intro rest; exact le_refl _
    | succ steps ih =>
        intro rest
        cases rest with
        | nil => exact le_refl _
        | cons head tail =>
            unfold dropUpTo
            split
            · exact le_refl _
            · exact (ih tail).trans (Nat.le_succ _)
  cases count with
  | zero => cases positive
  | succ count =>
      cases list with
      | nil => exact absurd rfl nonempty
      | cons head tail =>
          unfold dropUpTo
          rw [if_neg exceeds]
          exact Nat.lt_succ_of_le (shrinks count tail)

end FittingSuffix
