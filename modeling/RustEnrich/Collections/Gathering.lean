import Mathlib.Data.Set.Insert

/-!
# Merges that gather

A merge described by what it makes of a set: one value gathers each set, a value
gathers itself, and the merge of two values gathers the union of what they do.
Such a merge is associative, commutative and idempotent on its valid values, and
what a fold makes of a list depends on its members alone.
-/

variable {α : Type*}

/-- Merging gathers sets of values, each into one value. -/
structure Gathering (valid : α → Prop) (merge : α → α → α) (gathers : Set α → α → Prop) :
    Prop where
  single : ∀ value, gathers {value} value
  union : ∀ {left right : Set α} {first second : α}, valid first → valid second →
    gathers left first → gathers right second → gathers (left ∪ right) (merge first second)
  closed : ∀ {first second : α}, valid first → valid second → valid (merge first second)
  unique : ∀ {values : Set α} {first second : α}, gathers values first →
    gathers values second → first = second

namespace Gathering

variable {valid : α → Prop} {merge : α → α → α} {gathers : Set α → α → Prop}
  {first second third : α}

/-- A merge gathers its two parts. -/
theorem pair (gathering : Gathering valid merge gathers) (left : valid first)
    (right : valid second) : gathers {first, second} (merge first second) :=
  gathering.union left right (gathering.single first) (gathering.single second)

/-- The order of two parts does not matter. -/
theorem comm (gathering : Gathering valid merge gathers) (left : valid first)
    (right : valid second) : merge first second = merge second first := by
  have swapped := gathering.pair right left
  rw [Set.pair_comm] at swapped
  exact gathering.unique (gathering.pair left right) swapped

/-- A value merged with itself is itself. -/
theorem idem (gathering : Gathering valid merge gathers) (self : valid first) :
    merge first first = first := by
  have twice := gathering.pair self self
  rw [Set.pair_eq_singleton] at twice
  exact gathering.unique twice (gathering.single first)

/-- The grouping of three parts does not matter. -/
theorem assoc (gathering : Gathering valid merge gathers) (one : valid first)
    (two : valid second) (three : valid third) :
    merge (merge first second) third = merge first (merge second third) := by
  have left := gathering.union (gathering.closed one two) three (gathering.pair one two)
    (gathering.single third)
  have right := gathering.union one (gathering.closed two three) (gathering.single first)
    (gathering.pair two three)
  have same : ({first, second} ∪ {third} : Set α) = {first} ∪ {second, third} :=
    Set.union_assoc {first} {second} {third}
  rw [same] at left
  exact gathering.unique left right

/-- A fold gathers what it started from and what it went over. -/
theorem foldl (gathering : Gathering valid merge gathers) {values : Set α} {rest : List α}
    (start : valid first) (gathered : gathers values first)
    (each : ∀ value ∈ rest, valid value) :
    valid (rest.foldl merge first) ∧
      gathers (values ∪ {value | value ∈ rest}) (rest.foldl merge first) := by
  induction rest generalizing first values with
  | nil => simpa using ⟨start, gathered⟩
  | cons value rest ih =>
      have here := each value (List.mem_cons_self ..)
      have next := ih (gathering.closed start here)
        (gathering.union start here gathered (gathering.single value))
        (fun other member => each other (List.mem_cons_of_mem value member))
      have members : values ∪ {value} ∪ {other | other ∈ rest} =
          values ∪ {other | other ∈ value :: rest} := by
        rw [Set.union_assoc]
        congr 1
        ext other
        simp
      rwa [members] at next

/-- What a fold makes of a list, by its members. -/
theorem foldl_cons (gathering : Gathering valid merge gathers) {rest : List α}
    (each : ∀ value ∈ first :: rest, valid value) :
    gathers {value | value ∈ first :: rest} (rest.foldl merge first) := by
  obtain ⟨_, gathered⟩ := gathering.foldl (each first (List.mem_cons_self ..))
    (gathering.single first) fun value member => each value (List.mem_cons_of_mem first member)
  have members : ({first} ∪ {value | value ∈ rest} : Set α) = {value | value ∈ first :: rest} := by
    ext value
    simp
  rwa [members] at gathered

end Gathering
