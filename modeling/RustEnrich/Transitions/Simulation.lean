import RustEnrich.Transitions.Run

/-!
# Runs seen from above

A concrete relation is seen through what some of its events stand for. Where every
concrete step from related states is matched by a run of an abstract relation that
emits what is seen of the step, every concrete run is seen as an abstract run.
-/

namespace Transitions

variable {State World Event Seen : Type*}

/-- A run is simulated where each of its steps is. -/
theorem Run.simulate {concrete : Relation State Event} {abstract_ : Relation World Seen}
    {view : Event → Option Seen} {related : State → World → Prop} {start final : State}
    {trace : List Event} {first : World} (run : Run concrete start trace final)
    (initially : related start first)
    (matched : ∀ before events after world, related before world →
      concrete before events after →
        ∃ next, Run abstract_ world (events.filterMap view) next ∧ related after next) :
    ∃ last, Run abstract_ first (trace.filterMap view) last ∧ related final last := by
  induction run with
  | refl => exact ⟨first, .refl, initially⟩
  | snoc _ taken ih =>
      obtain ⟨world, earlier, here⟩ := ih
      obtain ⟨last, more, there⟩ := matched _ _ _ world here taken
      rw [List.filterMap_append]
      exact ⟨last, earlier.append more, there⟩

end Transitions
