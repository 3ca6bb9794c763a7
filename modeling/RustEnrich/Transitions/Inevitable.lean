import RustEnrich.Transitions.Run

/-!
# What every run comes to

A goal is inevitable from a state when it cannot be avoided by choosing the
steps: it holds, or some step is possible and it is inevitable after each. So a
run that goes on for as long as it can meets the goal.
-/

namespace Transitions

variable {State Event : Type*} {step : Relation State Event} {goal : State → Prop}
  {state : State}

/-- Every way on leads to the goal, and there is one until then. -/
inductive Inevitable (step : Relation State Event) (goal : State → Prop) : State → Prop
  | reached {state : State} (holds : goal state) : Inevitable step goal state
  | ahead {state : State} (possible : ∃ events next, step state events next)
      (each : ∀ events next, step state events next → Inevitable step goal next) :
      Inevitable step goal state

namespace Inevitable

/-- Budget rule. Where every step spends from a budget, and an invariant keeps
some step possible until the goal, the goal is inevitable. -/
theorem of_budget {budget : State → Nat → Prop} {invariant : State → Prop}
    (spends : ∀ {before events after total}, budget before total → step before events after →
      ∃ rest < total, budget after rest)
    (kept : ∀ {before events after}, invariant before → step before events after →
      invariant after)
    (possible : ∀ {state}, invariant state → ¬ goal state →
      ∃ events next, step state events next)
    {total : Nat} (within : budget state total) (holds : invariant state) :
    Inevitable step goal state := by
  induction total using Nat.strongRecOn generalizing state with
  | ind total ih =>
      by_cases met : goal state
      · exact .reached met
      · refine .ahead (possible holds met) ?_
        intro events next taken
        obtain ⟨rest, less, left⟩ := spends within taken
        exact ih rest less left (kept holds taken)

end Inevitable

end Transitions
