import Mathlib.Data.List.Basic

/-!
# What holds at every position of a history

A condition on an event may speak of the events before it, as in "no request is
sent before its reservation". A history satisfies it throughout when each of its
events does, with the events before that one.
-/

namespace Transitions

variable {Event : Type*}

/-- A condition on each event and what was before it. -/
def Throughout (condition : List Event → Event → Prop) (history : List Event) : Prop :=
  ∀ front event back, history = front ++ event :: back → condition front event

variable {condition : List Event → Event → Prop} {history more : List Event} {event : Event}

/-- Nothing happens in an empty history. -/
@[simp] theorem throughout_nil : Throughout condition [] := by
  intro front event back split
  exact absurd split.symm (List.append_ne_nil_of_right_ne_nil front (List.cons_ne_nil event back))

/-- The first event comes after nothing, and the rest after the first. -/
@[simp] theorem throughout_cons :
    Throughout condition (event :: more) ↔
      condition [] event ∧ Throughout (fun front => condition (event :: front)) more := by
  constructor
  · intro holds
    refine ⟨holds [] event more rfl, ?_⟩
    intro front later back split
    exact holds (event :: front) later back (congrArg (event :: ·) split)
  · rintro ⟨first, rest⟩ front later back split
    cases front with
    | nil =>
        obtain ⟨rfl, rfl⟩ := List.cons_eq_cons.mp split
        exact first
    | cons head front =>
        obtain ⟨rfl, here⟩ := List.cons_eq_cons.mp split
        exact rest front later back here

/-- What is before is the same for the first part, and more for the second. -/
@[simp] theorem throughout_append :
    Throughout condition (history ++ more) ↔
      Throughout condition history ∧
        Throughout (fun front => condition (history ++ front)) more := by
  induction history generalizing condition with
  | nil => simp
  | cons event rest ih =>
      rw [List.cons_append, throughout_cons, throughout_cons, ih, and_assoc]
      rfl

end Transitions
