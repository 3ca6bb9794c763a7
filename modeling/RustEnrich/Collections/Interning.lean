import Mathlib.Data.List.AList
import Mathlib.Data.List.Forall2

/-!
# Interned sequences

A sequence kept as the first element of each key and, for each place, the
position of the element with its key. What depends on the key alone is computed
once for each of them and read back at every place.
-/

namespace Interning

variable {α κ : Type*} [DecidableEq κ]

/-- The distinct elements, with the place of each that was seen. -/
structure Table (α κ : Type*) where
  unique : AList fun _ : κ => Nat
  entries : List α
  positions : List Nat

namespace Table

/-- Nothing is seen. -/
def empty : Table α κ where
  unique := ∅
  entries := []
  positions := []

/-- An element takes the place of its key, or a new one. -/
def visit (key : α → κ) (table : Table α κ) (element : α) : Table α κ :=
  match table.unique.lookup (key element) with
  | some position => { table with positions := table.positions ++ [position] }
  | none => {
      unique := table.unique.insert (key element) table.entries.length
      entries := table.entries ++ [element]
      positions := table.positions ++ [table.entries.length] }

/-- The table of the elements seen so far. -/
structure Interns (key : α → κ) (seen : List α) (table : Table α κ) : Prop where
  indexed : ∀ asked position, table.unique.lookup asked = some position ↔
    table.entries[position]?.map key = some asked
  placed : List.Forall₂
    (fun element position => table.entries[position]?.map key = some (key element))
    seen table.positions
  covered : ∀ entry ∈ table.entries, entry ∈ seen

namespace Interns

variable {key : α → κ} {seen : List α} {table : Table α κ}

/-- Nothing is interned at first. -/
theorem initial (key : α → κ) : Interns key [] (empty : Table α κ) where
  indexed := by
    intro asked position
    simp [empty]
  placed := .nil
  covered := by
    intro entry member
    cases member

/-- A visited element is interned. -/
theorem visit (interns : Interns key seen table) (element : α) :
    Interns key (seen ++ [element]) (table.visit key element) := by
  unfold Table.visit
  split
  · rename_i position found
    refine ⟨interns.indexed, ?_, ?_⟩
    · exact List.rel_append interns.placed
        (.cons ((interns.indexed _ _).mp found) .nil)
    · intro entry member
      exact List.mem_append_left _ (interns.covered entry member)
  · rename_i absent
    have kept : ∀ {position : Nat} {asked : κ},
        table.entries[position]?.map key = some asked →
        (table.entries ++ [element])[position]?.map key = some asked := by
      intro position asked there
      obtain ⟨entry, found, _⟩ := Option.map_eq_some_iff.mp there
      rw [List.getElem?_append_left (List.getElem?_eq_some_iff.mp found).1]
      exact there
    have past : ∀ {position : Nat}, table.entries.length < position →
        (table.entries ++ [element]).length ≤ position := by
      intro position above
      rw [List.length_append, List.length_singleton]
      exact above
    refine ⟨?_, ?_, ?_⟩
    · intro asked position
      dsimp only
      by_cases same : asked = key element
      · subst same
        rw [AList.lookup_insert, Option.some.injEq]
        constructor
        · rintro rfl
          simp
        · intro there
          rcases Nat.lt_trichotomy position table.entries.length with below | equal | above
          · rw [List.getElem?_append_left below, ← interns.indexed, absent] at there
            cases there
          · exact equal.symm
          · rw [List.getElem?_eq_none (past above)] at there
            cases there
      · rw [AList.lookup_insert_ne same, interns.indexed]
        constructor
        · exact kept
        · intro there
          rcases Nat.lt_trichotomy position table.entries.length with below | equal | above
          · rwa [List.getElem?_append_left below] at there
          · subst equal
            simp only [List.getElem?_concat_length, Option.map_some, Option.some.injEq] at there
            exact absurd there.symm same
          · rw [List.getElem?_eq_none (past above)] at there
            cases there
    · apply List.rel_append (interns.placed.imp fun _ _ there => kept there)
      refine .cons ?_ .nil
      simp
    · intro entry member
      rcases List.mem_append.mp member with old | new
      · exact List.mem_append_left _ (interns.covered entry old)
      · exact List.mem_append_right _ new

/-- All elements are interned after a fold. -/
theorem run (key : α → κ) (elements : List α) :
    Interns key elements (elements.foldl (Table.visit key) empty) := by
  have from_ : ∀ (elements seen : List α) (table : Table α κ), Interns key seen table →
      Interns key (seen ++ elements) (elements.foldl (Table.visit key) table) := by
    intro elements
    induction elements with
    | nil =>
        intro seen table interns
        rwa [List.append_nil]
    | cons element rest ih =>
        intro seen table interns
        have next := ih (seen ++ [element]) (table.visit key element) (interns.visit element)
        rwa [List.append_assoc, List.singleton_append] at next
  exact from_ elements [] empty (initial key)

/-- Each key is kept once. -/
theorem nodup (interns : Interns key seen table) : (table.entries.map key).Nodup := by
  rw [List.nodup_iff_getElem?_ne_getElem?]
  intro left right before within same
  have there : table.entries[right]?.map key = some ((table.entries.map key)[right]) := by
    rw [← List.getElem?_map, List.getElem?_eq_getElem within]
  rw [List.getElem?_map, List.getElem?_map, there] at same
  have first := (interns.indexed _ _).mpr same
  have second := (interns.indexed _ _).mpr there
  exact Nat.ne_of_lt before (Option.some.inj (first.symm.trans second))

/-- The keys kept are those seen. -/
theorem mem_keys (interns : Interns key seen table) (asked : κ) :
    asked ∈ table.entries.map key ↔ asked ∈ seen.map key := by
  constructor
  · intro member
    obtain ⟨entry, kept, rfl⟩ := List.mem_map.mp member
    exact List.mem_map_of_mem (interns.covered entry kept)
  · intro member
    obtain ⟨element, there, rfl⟩ := List.mem_map.mp member
    obtain ⟨place, here⟩ := List.getElem?_of_mem there
    have placed := interns.placed
    have within := (List.getElem?_eq_some_iff.mp here).1
    have related := placed.get within (placed.length_eq ▸ within)
    obtain ⟨entry, kept, same⟩ := Option.map_eq_some_iff.mp related
    rw [List.get_eq_getElem, (List.getElem?_eq_some_iff.mp here).2] at same
    exact same ▸ List.mem_map_of_mem (List.mem_of_getElem? kept)

/-- What depends on the key alone is read back from the entries. -/
theorem resolve (interns : Interns key seen table) {β : Type*} {compute : α → β}
    (dependent : ∀ left right, key left = key right → compute left = compute right) :
    table.positions.map (fun position => (table.entries.map compute)[position]?) =
      seen.map fun element => some (compute element) := by
  have placed := interns.placed
  generalize table.positions = positions at placed ⊢
  generalize seen = elements at placed ⊢
  induction placed with
  | nil => rfl
  | cons there _ ih =>
      obtain ⟨entry, kept, same⟩ := Option.map_eq_some_iff.mp there
      rw [List.map_cons, List.map_cons, ih, List.getElem?_map, kept, Option.map_some,
        dependent entry _ same]

end Interns

end Table

end Interning
