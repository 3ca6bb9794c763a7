import Mathlib.Data.Option.Basic
import Mathlib.Data.List.Basic

/-!
# States that answer alike

A machine takes one input at a time, answers it and moves. Where a relation
between its states is kept by every admitted input, and related states answer it
alike, no sequence of admitted inputs tells related states apart. The steps of
such a machine may be fallible computations, so there is a relation between
these as well: both fail alike, or both succeed with related results.
-/

namespace Transitions

section Agreement

universe u v

variable {Error : Type*} {Left Next Final : Type u} {Right Other : Type v}

/-- Two computations that fail alike or succeed with related results. -/
inductive Agree (related : Left → Right → Prop) :
    Except Error Left → Except Error Right → Prop
  | error (error : Error) : Agree related (.error error) (.error error)
  | ok {left : Left} {right : Right} (results : related left right) :
      Agree related (.ok left) (.ok right)

namespace Agree

variable {related : Left → Right → Prop} {next : Next → Other → Prop}
  {left : Except Error Left} {right : Except Error Right}

/-- Both computations at once, where neither is in the form of a result. -/
theorem elim (agree : Agree related left right) :
    (∃ error, left = .error error ∧ right = .error error) ∨
      ∃ result other, left = .ok result ∧ right = .ok other ∧ related result other := by
  cases agree with
  | error error => exact Or.inl ⟨error, rfl, rfl⟩
  | ok results => exact Or.inr ⟨_, _, rfl, rfl, results⟩

/-- Equal results agree. -/
theorem of_eq {first second : Except Error Left} (same : first = second) :
    Agree Eq first second := by
  subst same
  cases first with
  | error error => exact .error error
  | ok result => exact .ok rfl

/-- Two steps agree where each does. -/
theorem bind (agree : Agree related left right) {first : Left → Except Error Next}
    {second : Right → Except Error Other}
    (rest : ∀ result other, related result other → Agree next (first result) (second other)) :
    Agree next (left >>= first) (right >>= second) := by
  cases agree with
  | error error => exact .error error
  | ok results => exact rest _ _ results

/-- A first part that is the same in both. -/
theorem bind_eq {first second : Except Error Left} (same : first = second)
    {left : Left → Except Error Next} {right : Left → Except Error Final}
    {final : Next → Final → Prop}
    (rest : ∀ result, Agree final (left result) (right result)) :
    Agree final (first >>= left) (second >>= right) := by
  refine (of_eq same).bind ?_
  intro result other equal
  cases equal
  exact rest result

end Agree

end Agreement

/-- A machine that answers each input and moves. -/
structure Machine (State Input Answer : Type*) where
  answer : Input → State → Answer
  next : Input → State → State

namespace Machine

variable {State Input Answer : Type*} (machine : Machine State Input Answer)

/-- The answers to a sequence of inputs. -/
def answers : List Input → State → List Answer
  | [], _ => []
  | input :: rest, state => machine.answer input state :: answers rest (machine.next input state)

/-- A relation that admitted inputs keep, and that no admitted input can see
through. -/
structure Bisimulation (admits : Input → Prop) (related : State → State → Prop) : Prop where
  answer : ∀ input left right, admits input → related left right →
    machine.answer input left = machine.answer input right
  next : ∀ input left right, admits input → related left right →
    related (machine.next input left) (machine.next input right)

variable {machine} {admits : Input → Prop} {related : State → State → Prop}

/-- Related states answer every sequence of admitted inputs alike. -/
theorem Bisimulation.answers (bisimulation : machine.Bisimulation admits related)
    {inputs : List Input} (admitted : ∀ input ∈ inputs, admits input) {left right : State}
    (alike : related left right) : machine.answers inputs left = machine.answers inputs right := by
  induction inputs generalizing left right with
  | nil => rfl
  | cons input rest ih =>
      have here := admitted input List.mem_cons_self
      have later : ∀ input ∈ rest, admits input :=
        fun input member => admitted input (List.mem_cons_of_mem _ member)
      have after := bisimulation.next input left right here alike
      unfold Machine.answers
      rw [bisimulation.answer input left right here alike, ih later after]

end Machine

end Transitions
