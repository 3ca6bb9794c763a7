import Mathlib.Data.List.Perm.Basic
import Mathlib.Data.List.Infix

/-!
# Reordered histories

A history reordered by letting events overtake the event right before them. It
has the same events, and an event that may not be overtaken by another stays
before it; where no two events of a kind overtake each other, those of the kind
stay as they were.
-/

namespace Transitions

variable {Event : Type*}

/-- `overtakes later earlier` says that `later` may come before `earlier`. -/
inductive Reordered (overtakes : Event → Event → Prop) (history : List Event) :
    List Event → Prop
  | refl : Reordered overtakes history history
  | exchange {front back : List Event} {earlier later : Event}
      (previous : Reordered overtakes history (front ++ earlier :: later :: back))
      (passes : overtakes later earlier) :
      Reordered overtakes history (front ++ later :: earlier :: back)

namespace Reordered

variable {overtakes : Event → Event → Prop} {history order final front back more : List Event}
  {first second : Event}

/-- An order that is reordered again. -/
theorem trans (one : Reordered overtakes history order)
    (two : Reordered overtakes order final) : Reordered overtakes history final := by
  induction two with
  | refl => exact one
  | exchange _ passes ih => exact ih.exchange passes

/-- More events behind both. -/
theorem append_right (reordered : Reordered overtakes history order) (more : List Event) :
    Reordered overtakes (history ++ more) (order ++ more) := by
  induction reordered with
  | refl => exact .refl
  | @exchange front back earlier later _ passes ih =>
      rw [List.append_assoc, List.cons_append, List.cons_append] at ih ⊢
      exact ih.exchange passes

/-- The same events before both. -/
theorem append_left (reordered : Reordered overtakes history order) (front : List Event) :
    Reordered overtakes (front ++ history) (front ++ order) := by
  induction reordered with
  | refl => exact .refl
  | exchange _ passes ih =>
      rw [← List.append_assoc] at ih ⊢
      exact ih.exchange passes

/-- One event overtakes those before it. -/
theorem overtake_one (passes : ∀ earlier ∈ front, overtakes second earlier) :
    Reordered overtakes (front ++ [second]) (second :: front) := by
  induction front with
  | nil => exact .refl
  | cons head rest ih =>
      have inner := (ih fun earlier member =>
        passes earlier (List.mem_cons_of_mem head member)).append_left [head]
      have swapped : Reordered overtakes ([] ++ head :: second :: rest)
          ([] ++ second :: head :: rest) := Reordered.refl.exchange (passes head List.mem_cons_self)
      exact inner.trans swapped

/-- What comes later overtakes what comes before. -/
theorem overtake (passes : ∀ later ∈ back, ∀ earlier ∈ front, overtakes later earlier) :
    Reordered overtakes (front ++ back) (back ++ front) := by
  induction back with
  | nil =>
      rw [List.append_nil]
      exact .refl
  | cons head rest ih =>
      have one := (overtake_one (passes head List.mem_cons_self)).append_right rest
      have others := (ih fun later member =>
        passes later (List.mem_cons_of_mem head member)).append_left [head]
      rw [List.append_assoc] at one
      exact one.trans others

/-- Reordered histories have the same events. -/
theorem perm (reordered : Reordered overtakes history order) : order.Perm history := by
  induction reordered with
  | refl => exact .refl history
  | exchange _ _ ih => exact ((List.Perm.swap ..).append_left _).trans ih

/-- An event stays before one that may not overtake it. -/
theorem precedes (reordered : Reordered overtakes history order)
    (kept : ¬ overtakes second first) (before : [first, second].Sublist history) :
    [first, second].Sublist order := by
  induction reordered with
  | refl => exact before
  | @exchange front back earlier later _ passes ih =>
      obtain ⟨left, right, split, inFront, inBack⟩ := List.sublist_append_iff.mp ih
      match left, split with
      | [], split =>
          cases split
          refine List.Sublist.trans ?_ (List.sublist_append_right front _)
          cases inBack with
          | cons _ rest =>
              cases rest with
              | cons _ rest => exact (rest.cons _).cons _
              | cons_cons _ rest => exact (rest.cons _).cons_cons _
          | cons_cons _ rest =>
              cases rest with
              | cons _ rest => exact (rest.cons_cons _).cons _
              | cons_cons _ _ => exact absurd passes kept
      | [_], split =>
          cases split
          have member := List.singleton_sublist.mp inBack
          have swapped : second ∈ later :: earlier :: back := by
            simp only [List.mem_cons] at member ⊢
            tauto
          exact inFront.append (List.singleton_sublist.mpr swapped)
      | [_, _], split =>
          cases split
          exact inFront.trans (List.sublist_append_left front _)
      | _ :: _ :: _ :: _, split =>
          have lengths := congrArg List.length split
          simp at lengths

/-- The events of a kind of which none overtakes another. -/
theorem filter_eq (reordered : Reordered overtakes history order) (kind : Event → Bool)
    (apart : ∀ later earlier, overtakes later earlier →
      ¬ (kind later = true ∧ kind earlier = true)) : order.filter kind = history.filter kind := by
  induction reordered with
  | refl => rfl
  | @exchange front back earlier later _ passes ih =>
      rw [← ih, List.filter_append, List.filter_append]
      congr 1
      have either := apart later earlier passes
      cases here : kind later with
      | false => simp [List.filter_cons, here]
      | true =>
          have other : kind earlier = false := by
            rw [← Bool.not_eq_true]
            exact fun both => either ⟨here, both⟩
          simp [List.filter_cons, other]

end Reordered

end Transitions
