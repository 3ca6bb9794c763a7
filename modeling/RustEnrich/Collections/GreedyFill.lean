import Mathlib.Algebra.Ring.Nat

/-!
# Greedy selection within a budget

A pass over optional values keeps each one whose size fits what the ones kept
before it have left of a budget, and goes on to the smaller ones behind a value
that does not fit.
-/

namespace GreedyFill

variable {α : Type*} (size : α → Nat)

/-- The values kept, each at the place of its offer. -/
def select : Nat → List (Option α) → List (Option α)
  | _, [] => []
  | budget, none :: rest => none :: select budget rest
  | budget, some value :: rest =>
      if size value ≤ budget then some value :: select (budget - size value) rest
      else none :: select budget rest

/-- The size of all that is kept. -/
def total (kept : List (Option α)) : Nat := (kept.map fun value => (value.map size).getD 0).sum

/-- Nothing has no size. -/
@[simp] theorem total_nil : total size [] = 0 := rfl

/-- The size of the first and the rest. -/
@[simp] theorem total_cons (value : Option α) (rest : List (Option α)) :
    total size (value :: rest) = (value.map size).getD 0 + total size rest := by
  simp only [total, List.map_cons, List.sum_cons]

/-- The sizes of two lists. -/
theorem total_append (front back : List (Option α)) :
    total size (front ++ back) = total size front + total size back := by
  simp only [total, List.map_append, List.sum_append]

variable (budget : Nat) (offers : List (Option α))

/-- Each offer is decided on. -/
@[simp] theorem length_select : (select size budget offers).length = offers.length := by
  induction offers generalizing budget with
  | nil => rfl
  | cons offer rest ih =>
      cases offer with
      | none => simp only [select, List.length_cons, ih]
      | some value =>
          unfold select
          split <;> simp only [List.length_cons, ih]

/-- What is kept is within the budget. -/
theorem total_select_le : total size (select size budget offers) ≤ budget := by
  induction offers generalizing budget with
  | nil => exact Nat.zero_le _
  | cons offer rest ih =>
      cases offer with
      | none =>
          simpa only [select, total_cons, Option.map_none, Option.getD_none, Nat.zero_add]
            using ih budget
      | some value =>
          unfold select
          split
          · rename_i fits
            have kept := ih (budget - size value)
            simp only [total_cons, Option.map_some, Option.getD_some]
            omega
          · simpa only [total_cons, Option.map_none, Option.getD_none, Nat.zero_add]
              using ih budget

/-- Later offers have the budget that earlier ones leave. -/
theorem select_append (front back : List (Option α)) :
    select size budget (front ++ back) =
      select size budget front ++
        select size (budget - total size (select size budget front)) back := by
  induction front generalizing budget with
  | nil => simp [select]
  | cons offer rest ih =>
      cases offer with
      | none =>
          simp only [List.cons_append, select, ih, total_cons, Option.map_none, Option.getD_none,
            Nat.zero_add]
      | some value =>
          simp only [List.cons_append, select]
          split
          · simp only [ih, List.cons_append, total_cons, Option.map_some, Option.getD_some,
              Nat.sub_sub]
          · simp only [ih, List.cons_append, total_cons, Option.map_none, Option.getD_none,
              Nat.zero_add]

/-- A value is kept exactly if it is on offer and fits what the values kept
before it have left. -/
theorem select_eq_some_iff {size : α → Nat} {budget : Nat} {offers : List (Option α)}
    {index : Nat} {value : α} :
    (select size budget offers)[index]? = some (some value) ↔
      offers[index]? = some (some value) ∧
        size value ≤ budget - total size ((select size budget offers).take index) := by
  induction offers generalizing budget index with
  | nil => simp [select]
  | cons offer rest ih =>
      cases offer with
      | none =>
          cases index with
          | zero => simp [select]
          | succ index =>
              simp only [select, List.getElem?_cons_succ, ih, List.take_succ_cons, total_cons,
                Option.map_none, Option.getD_none, Nat.zero_add]
      | some other =>
          unfold select
          split
          · rename_i fits
            cases index with
            | zero =>
                simp only [List.getElem?_cons_zero, List.take_zero, total_nil, Nat.sub_zero,
                  Option.some.injEq]
                constructor
                · rintro rfl
                  exact ⟨rfl, fits⟩
                · exact fun kept => kept.1
            | succ index =>
                simp only [List.getElem?_cons_succ, ih, List.take_succ_cons, total_cons,
                  Option.map_some, Option.getD_some, Nat.sub_sub]
          · rename_i large
            cases index with
            | zero =>
                simp only [List.getElem?_cons_zero, List.take_zero, total_nil, Nat.sub_zero,
                  Option.some.injEq, reduceCtorEq, false_iff]
                rintro ⟨rfl, fits⟩
                exact large fits
            | succ index =>
                simp only [List.getElem?_cons_succ, ih, List.take_succ_cons, total_cons,
                  Option.map_none, Option.getD_none, Nat.zero_add]

/-- Nothing is kept that is not on offer. -/
theorem offered_of_select {size : α → Nat} {budget : Nat} {offers : List (Option α)}
    {index : Nat} {value : α} (kept : (select size budget offers)[index]? = some (some value)) :
    offers[index]? = some (some value) :=
  (select_eq_some_iff.mp kept).1

end GreedyFill
