import Mathlib.Data.List.Basic

/-!
# Runs of an event-emitting transition relation

A relation between states whose every step emits a list of events. A run
concatenates the events of its steps, so a property of a whole execution is a
property of the pair of its trace and its last state.
-/

namespace Transitions

variable {State Event : Type*}

/-- A transition relation in which a step emits the events between its two
states. -/
abbrev Relation (State Event : Type*) := State → List Event → State → Prop

/-- The states reachable from `start`, each with the trace that led there. -/
inductive Run (step : Relation State Event) (start : State) : List Event → State → Prop
  | refl : Run step start [] start
  | snoc {trace emitted : List Event} {before after : State}
      (previous : Run step start trace before) (taken : step before emitted after) :
      Run step start (trace ++ emitted) after

namespace Run

variable {step wider : Relation State Event} {start middle final : State}
  {trace front back emitted : List Event}

/-- One step is a run. -/
theorem single (taken : step start emitted final) : Run step start emitted final := by
  have run := Run.refl.snoc taken
  rwa [List.nil_append] at run

/-- Two runs, one after the other. -/
theorem append (first : Run step start front middle) (second : Run step middle back final) :
    Run step start (front ++ back) final := by
  induction second with
  | refl => rwa [List.append_nil]
  | snoc _ taken ih =>
      rw [← List.append_assoc]
      exact ih.snoc taken

/-- A step before a run. -/
theorem cons (taken : step start emitted middle) (rest : Run step middle back final) :
    Run step start (emitted ++ back) final :=
  (single taken).append rest

/-- A run of a relation is a run of any relation that contains it. -/
theorem mono (run : Run step start trace final)
    (contained : ∀ before events after, step before events after → wider before events after) :
    Run wider start trace final := by
  induction run with
  | refl => exact .refl
  | snoc _ taken ih => exact ih.snoc (contained _ _ _ taken)

/-- Invariant rule. The predicate sees the trace so far, and the step case may
use that its source is reachable by that trace. -/
theorem invariant (run : Run step start trace final)
    (predicate : List Event → State → Prop) (initial : predicate [] start)
    (preserved : ∀ seen before events after, Run step start seen before →
      predicate seen before → step before events after → predicate (seen ++ events) after) :
    predicate trace final := by
  induction run with
  | refl => exact initial
  | snoc previous taken ih => exact preserved _ _ _ _ previous ih taken

/-- Invariant rule for predicates of the state alone. -/
theorem stateInvariant (run : Run step start trace final)
    (predicate : State → Prop) (initial : predicate start)
    (preserved : ∀ before events after,
      predicate before → step before events after → predicate after) :
    predicate final := by
  induction run with
  | refl => exact initial
  | snoc _ taken ih => exact preserved _ _ _ ih taken

/-- Weight rule. Where, under an invariant, the events of every step are paid for
by a weight, a run has no more of them than the weight it started with. -/
theorem paid {invariant : State → Prop} {weight : State → Nat} (run : Run step start trace final)
    (holds : invariant start)
    (kept : ∀ before events after, invariant before → step before events after →
      invariant after)
    (pays : ∀ before events after, invariant before → step before events after →
      events.length + weight after ≤ weight before) :
    trace.length + weight final ≤ weight start := by
  have both : invariant final ∧ trace.length + weight final ≤ weight start := by
    induction run with
    | refl => exact ⟨holds, Nat.le_of_eq (Nat.zero_add (weight start))⟩
    | @snoc seen events before after _ taken ih =>
        refine ⟨kept before events after ih.1 taken, ?_⟩
        have paid := pays before events after ih.1 taken
        have earlier := ih.2
        rw [List.length_append]
        omega
  exact both.2

/-- The step of a run that an event was emitted by, with the run before and after. -/
theorem step_of_mem (run : Run step start trace final) {event : Event} (member : event ∈ trace) :
    ∃ past before emitted after rest, trace = past ++ (emitted ++ rest) ∧ event ∈ emitted ∧
      Run step start past before ∧ step before emitted after ∧ Run step after rest final := by
  induction run with
  | refl => cases member
  | @snoc seen emitted before after previous taken ih =>
      rcases List.mem_append.mp member with earlier | here
      · obtain ⟨past, first, events, next, rest, rfl, inside, run, step, more⟩ := ih earlier
        refine ⟨past, first, events, next, rest ++ emitted, ?_, inside, run, step,
          more.snoc taken⟩
        simp only [List.append_assoc]
      · exact ⟨seen, before, emitted, after, [], by rw [List.append_nil], here, previous, taken,
          .refl⟩

end Run

end Transitions
