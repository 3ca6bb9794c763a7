import Mathlib.Data.List.Basic

/-!
# Prefix codes

A code is prefix-free if a word that starts with the code of a symbol determines
the symbol and what follows. Sequences of such codes are determined up to a
stop that no code starts with.
-/

namespace PrefixCode

variable {α β : Type*} {code : α → List β}

/-- A code and what follows it are told apart. -/
def PrefixFree (code : α → List β) : Prop :=
  ∀ left right rest others, code left ++ rest = code right ++ others → left = right ∧ rest = others

/-- Two codes are told apart if neither of them is the start of the other. -/
theorem eq_of_append {left right : α} {rest others : List β}
    (same : code left ++ rest = code right ++ others)
    (shorter : code left <+: code right → left = right)
    (longer : code right <+: code left → right = left) : left = right ∧ rest = others := by
  have equal : left = right := by
    have starts : code left <+: code right ++ others := same ▸ List.prefix_append _ _
    rcases List.prefix_or_prefix_of_prefix starts (List.prefix_append _ _) with start | start
    · exact shorter start
    · exact (longer start).symm
  subst equal
  exact ⟨rfl, List.append_cancel_left same⟩

/-- Codes up to a stop. -/
theorem PrefixFree.flatMap (free : PrefixFree code) {stop : β}
    (unlike : ∀ symbol rest others, code symbol ++ rest ≠ stop :: others) {left right : List α}
    {rest others : List β}
    (same : left.flatMap code ++ stop :: rest = right.flatMap code ++ stop :: others) :
    left = right ∧ rest = others := by
  induction left generalizing right with
  | nil =>
      cases right with
      | nil => exact ⟨rfl, (List.cons.inj same).2⟩
      | cons symbol right =>
          rw [List.flatMap_cons, List.append_assoc] at same
          exact absurd same.symm (unlike symbol _ _)
  | cons first left ih =>
      rw [List.flatMap_cons, List.append_assoc] at same
      cases right with
      | nil => exact absurd same (unlike first _ _)
      | cons symbol right =>
          rw [List.flatMap_cons, List.append_assoc] at same
          obtain ⟨rfl, after⟩ := free first symbol _ _ same
          obtain ⟨rfl, rfl⟩ := ih after
          exact ⟨rfl, rfl⟩

/-- Codes to the end. -/
theorem PrefixFree.flatMap_injective (free : PrefixFree code)
    (nonempty : ∀ symbol, code symbol ≠ []) : Function.Injective (List.flatMap code) := by
  intro left right same
  induction left generalizing right with
  | nil =>
      cases right with
      | nil => rfl
      | cons symbol right =>
          rw [List.flatMap_nil, List.flatMap_cons] at same
          exact absurd (List.append_eq_nil_iff.mp same.symm).1 (nonempty symbol)
  | cons first left ih =>
      cases right with
      | nil =>
          rw [List.flatMap_nil, List.flatMap_cons] at same
          exact absurd (List.append_eq_nil_iff.mp same).1 (nonempty first)
      | cons symbol right =>
          rw [List.flatMap_cons, List.flatMap_cons] at same
          obtain ⟨rfl, after⟩ := free first symbol _ _ same
          rw [ih after]

/-- Words over a class of symbols, up to a symbol outside of it. -/
theorem eq_of_span {inside : β → Bool} {left right rest others : List β}
    (same : left ++ rest = right ++ others) (allLeft : ∀ symbol ∈ left, inside symbol = true)
    (allRight : ∀ symbol ∈ right, inside symbol = true)
    (stop : ∀ symbol ∈ rest.head?, inside symbol = false)
    (stops : ∀ symbol ∈ others.head?, inside symbol = false) : left = right ∧ rest = others := by
  have ends : ∀ {list : List β}, (∀ symbol ∈ list.head?, inside symbol = false) →
      list.takeWhile inside = [] := by
    intro list outside
    cases list with
    | nil => rfl
    | cons head tail => rw [List.takeWhile_cons, outside head rfl, if_neg Bool.false_ne_true]
  have words := congrArg (List.takeWhile inside) same
  rw [List.takeWhile_append_of_pos allLeft, List.takeWhile_append_of_pos allRight, ends stop,
    ends stops, List.append_nil, List.append_nil] at words
  subst words
  exact ⟨rfl, List.append_cancel_left same⟩

end PrefixCode
