import Mathlib.Data.Set.Defs

/-!
# Computations that can fail

What a computation answers and what it reports, each as a predicate that passes through
its steps one at a time.
-/

namespace Fallible

universe u

variable {ε δ : Type*} {α β : Type u}

/-- Whatever is reported is allowed. -/
def Reports (allowed : ε → Prop) (result : Except ε α) : Prop :=
  ∀ error, result = .error error → allowed error

/-- Whatever is answered is allowed. -/
def Yields (allowed : α → Prop) (result : Except ε α) : Prop :=
  ∀ value, result = .ok value → allowed value

/-- A step that answers nothing. -/
def ensure (holds : Bool) (error : ε) : Except ε Unit := if holds then .ok () else .error error

section Answers

variable {result : Except ε α} {next : α → Except ε β}

/-- A computation in two steps succeeds where both do. -/
theorem bind_eq_ok {value : β} :
    (result >>= next) = .ok value ↔ ∃ first, result = .ok first ∧ next first = .ok value := by
  cases result with
  | error => exact ⟨nofun, fun ⟨_, answered, _⟩ => nomatch answered⟩
  | ok first => exact ⟨fun answered => ⟨first, rfl, answered⟩, fun ⟨_, same, answered⟩ => by
      cases same
      exact answered⟩

/-- A value is its own result. -/
theorem pure_eq_ok {value other : α} : (pure value : Except ε α) = .ok other ↔ value = other := by
  constructor
  · intro same
    cases same
    rfl
  · rintro rfl
    rfl

/-- Another error leaves the results. -/
theorem mapError_eq_ok {change : ε → δ} {value : α} :
    result.mapError change = .ok value ↔ result = .ok value := by
  cases result with
  | error => exact ⟨nofun, nofun⟩
  | ok answer =>
      constructor
      · intro same
        cases same
        rfl
      · intro same
        cases same
        rfl

/-- A condition is met where it holds. -/
theorem ensure_eq_ok {holds : Bool} {error : ε} {answer : Unit} :
    ensure holds error = .ok answer ↔ holds = true := by
  cases holds with
  | false => exact ⟨nofun, nofun⟩
  | true => exact ⟨fun _ => rfl, fun _ => rfl⟩

end Answers

namespace Reports

variable {allowed : ε → Prop} {result : Except ε α}

/-- A result reports nothing. -/
theorem ok (value : α) : Reports allowed (.ok value) := fun _ => nofun

/-- An allowed error is reported. -/
theorem error {error : ε} (holds : allowed error) :
    Reports allowed (.error error : Except ε α) := by
  rintro _ ⟨⟩
  exact holds

/-- Two steps report what each does. -/
theorem bind {next : α → Except ε β} (first : Reports allowed result)
    (later : ∀ value, Reports allowed (next value)) : Reports allowed (result >>= next) := by
  intro error failed
  cases result with
  | error reported =>
      cases failed
      exact first _ rfl
  | ok value => exact later value error failed

/-- Another result leaves the errors. -/
theorem map (first : Reports allowed result) (change : α → β) :
    Reports allowed (result.map change) := by
  intro error failed
  cases result with
  | error reported =>
      cases failed
      exact first _ rfl
  | ok value => cases failed

/-- Errors that are changed into allowed ones. -/
theorem mapError {change : ε → δ} {passed : δ → Prop} (first : Reports allowed result)
    (passes : ∀ error, allowed error → passed (change error)) :
    Reports passed (result.mapError change) := by
  intro error failed
  cases result with
  | error reported =>
      cases failed
      exact passes _ (first _ rfl)
  | ok value => cases failed

/-- A condition reports its error. -/
theorem ensure {holds : Bool} {error : ε} (fixed : allowed error) :
    Reports allowed (ensure holds error) := by
  cases holds with
  | false => exact .error fixed
  | true => exact .ok ()

end Reports

namespace Yields

variable {allowed : β → Prop}

/-- An allowed value is yielded. -/
theorem ok {value : β} (holds : allowed value) :
    Yields allowed (.ok value : Except ε β) := by
  rintro _ ⟨⟩
  exact holds

/-- Two steps yield what the second does. -/
theorem bind {result : Except ε α} {next : α → Except ε β}
    (later : ∀ value, result = .ok value → Yields allowed (next value)) :
    Yields allowed (result >>= next) := by
  intro value answered
  obtain ⟨first, read, answered⟩ := bind_eq_ok.mp answered
  exact later first read value answered

end Yields

end Fallible
