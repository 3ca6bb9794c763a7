import RustEnrich.Enrichment.Headers
import RustEnrich.Storage.Cooldown

/-!
# Merging retained feedback

Feedback that waits to be saved is merged with what comes after it, field by
field. Applied as one it restricts a group wherever the two in turn would have,
unless one of them speaks of an ended window and the other, without a window,
exhausts the allowance: the merged report then counts as late and is dropped.
-/

namespace RustEnrich.Enrichment

open Storage

/-- A cooldown is active. -/
def Cooling (state : QuotaState) (now : Int) : Prop :=
  ∃ target, state.cooldownUntil = some target ∧ now < target

/-- A reservation is denied for the cooldown or the provider's allowance. -/
def Restricted (state : QuotaState) (now : Int) : Prop :=
  Cooling state now ∨ state.providerRemaining = some 0

section

variable (feedback : QuotaFeedback) (now : Int)

/-- The feedback asks for a cooldown. -/
def Cools : Prop := ∃ target, feedback.cooldownUntil = some target ∧ now < target.timestampMillis

/-- The feedback is about an ended window. -/
def Stale : Prop := ∃ reset, feedback.resetAt = some reset ∧ reset.timestampMillis ≤ now

instance : Decidable (Stale feedback now) :=
  decidable_of_iff (feedback.resetAt.any (fun reset => reset.timestampMillis ≤ now) = true) (by
    cases reset : feedback.resetAt <;> simp [Stale, reset])

end

/-- The allowance a report leaves, `remaining` being that of the row. -/
def observedAllowance (remaining reported : Option Nat) (unobservedAttempts : Nat) : Option Nat :=
  match reported, remaining with
  | none, old => old
  | some reported, none => some (reported - unobservedAttempts)
  | some reported, some old => some (min old reported)

variable {state next : QuotaState} {feedback first second : QuotaFeedback} {instant : DateTime}
  {unobservedAttempts : Nat}

/-- An allowance leaves what is observed of it. -/
theorem applyAllowance_providerRemaining :
    (state.applyAllowance feedback unobservedAttempts).providerRemaining =
      observedAllowance state.providerRemaining feedback.remaining unobservedAttempts := by
  unfold QuotaState.applyAllowance observedAllowance
  cases feedback.remaining <;> cases state.providerRemaining <;> rfl

/-- Nothing left stays nothing. -/
theorem observedAllowance_zero (reported : Option Nat) :
    observedAllowance (some 0) reported unobservedAttempts = some 0 := by
  cases reported <;> simp [observedAllowance]

/-- Expiry leaves a row cooling or not. -/
theorem cooling_expireFeedback (state : QuotaState) (now : Int) :
    Cooling (state.expireFeedback now) now ↔ Cooling state now := by
  unfold Cooling
  rw [QuotaState.expireFeedback_cooldownUntil]
  simp only [Option.filter_eq_some_iff, decide_eq_true_eq, and_assoc, and_self]

/-! ### What one application does -/

/-- A row cools after a report where it did or the report does. -/
theorem cooling_applyCooldown (state : QuotaState) (feedback : QuotaFeedback) (now : Int) :
    Cooling (state.applyCooldown feedback now) now ↔ Cooling state now ∨ Cools feedback now := by
  unfold Cooling Cools QuotaState.applyCooldown
  cases asked : feedback.cooldownUntil with
  | none => simp
  | some target =>
      by_cases ahead : now < target.timestampMillis
      · simp only [Option.map_some, Option.filter_some, ahead, decide_true, ↓reduceIte,
          Option.some.injEq, exists_eq_left', or_true, iff_true]
        split
        · exact ⟨_, rfl, ahead⟩
        · rename_i notLater
          cases stored : state.cooldownUntil with
          | none => simp [stored] at notLater
          | some old =>
              rw [stored, Option.all_some, decide_eq_true_eq, not_lt] at notLater
              split
              · exact ⟨old, rfl, ahead.trans_le notLater⟩
              · exact ⟨old, stored, ahead.trans_le notLater⟩
      · simp [Option.filter_some, ahead]

/-- Nothing in a row has ended. -/
structure Current (state : QuotaState) (now : Int) : Prop where
  cooldown : ∀ target, state.cooldownUntil = some target → now < target
  reset : ∀ reset, state.providerResetAt = some reset → now < reset

/-- Nothing expires of a current row. -/
theorem Current.expireFeedback_eq (current : Current state instant.timestampMillis) :
    state.expireFeedback instant.timestampMillis = state := by
  have window : state.providerResetAt.any
      (fun reset => reset ≤ instant.timestampMillis) = false := by
    cases held : state.providerResetAt with
    | none => rfl
    | some reset => simpa using current.reset reset held
  have cooldown : state.cooldownUntil.any
      (fun target => target ≤ instant.timestampMillis) = false := by
    cases held : state.cooldownUntil with
    | none => rfl
    | some target => simpa using current.cooldown target held
  unfold QuotaState.expireFeedback QuotaState.expireReset
  rw [window, if_neg Bool.false_ne_true]
  unfold QuotaState.expireCooldown
  rw [cooldown, if_neg Bool.false_ne_true]

/-- After expiry a row is current. -/
theorem current_expireFeedback (state : QuotaState) (now : Int) :
    Current (state.expireFeedback now) now where
  cooldown := by
    intro target held
    rw [QuotaState.expireFeedback_cooldownUntil] at held
    exact of_decide_eq_true (Option.filter_eq_some_iff.mp held).2
  reset := by
    intro reset held
    rw [QuotaState.expireFeedback_providerResetAt] at held
    exact of_decide_eq_true (Option.filter_eq_some_iff.mp held).2

/-- A reported cooldown keeps a row current. -/
theorem Current.applyCooldown {now : Int} (current : Current state now)
    (feedback : QuotaFeedback) : Current (state.applyCooldown feedback now) now := by
  refine ⟨?_, by simpa using current.reset⟩
  unfold QuotaState.applyCooldown
  split
  · exact current.cooldown
  · rename_i target asked
    split
    · intro other held
      cases held
      exact of_decide_eq_true (Option.filter_eq_some_iff.mp asked).2
    · split <;> exact current.cooldown

/-- An allowance of a lasting window keeps a row current. -/
theorem Current.applyAllowance {now : Int} (current : Current state now)
    (ahead : ¬ Stale feedback now) (unobservedAttempts : Nat) :
    Current (state.applyAllowance feedback unobservedAttempts) now := by
  refine ⟨current.cooldown, ?_⟩
  intro target held
  unfold QuotaState.applyAllowance at held
  cases reported : feedback.resetAt with
  | none => exact current.reset target (by simpa [reported] using held)
  | some instant =>
      have later : now < instant.timestampMillis := by
        by_contra ended
        exact ahead ⟨instant, reported, not_lt.mp ended⟩
      cases stored : state.providerResetAt with
      | none =>
          simp only [reported, stored, Option.map_some, Option.some.injEq] at held
          exact held ▸ later
      | some old =>
          simp only [reported, stored, Option.map_some, Option.some.injEq] at held
          omega

/-- The fallback is ahead. -/
theorem lt_fallback (instant : DateTime) :
    instant.timestampMillis < saturatingAdd instant.timestampMillis 60000 := by
  have lower := instant.minMillis_le
  have upper := instant.le_maxMillis
  simp only [minMillis, maxMillis, NaiveDate.min, NaiveDate.max, dayMillis] at lower upper
  unfold saturatingAdd i64Min i64Max
  omega

/-- The fallback keeps a row current. -/
theorem Current.ensureUnknownCooldown (current : Current state instant.timestampMillis) :
    Current (state.ensureUnknownCooldown instant.timestampMillis) instant.timestampMillis := by
  unfold QuotaState.ensureUnknownCooldown
  split
  · refine ⟨?_, current.reset⟩
    intro target held
    cases held
    exact lt_fallback instant
  · exact current

/-- The fallback cooldown only comes with an exhausted allowance. -/
theorem cooling_ensureUnknownCooldown (state : QuotaState) (instant : DateTime) :
    (Cooling state instant.timestampMillis → Cooling
        (state.ensureUnknownCooldown instant.timestampMillis) instant.timestampMillis) ∧
      (Cooling (state.ensureUnknownCooldown instant.timestampMillis) instant.timestampMillis →
        Cooling state instant.timestampMillis ∨ state.providerRemaining = some 0) := by
  unfold QuotaState.ensureUnknownCooldown
  split
  · rename_i exhausted
    refine ⟨?_, fun _ => Or.inr exhausted.1⟩
    rintro ⟨target, held, _⟩
    exact absurd (exhausted.2.2.symm.trans held) nofun
  · exact ⟨id, Or.inl⟩

/-- The row an application leaves: what it restricts, and nothing ended in it. -/
structure Applied (state : QuotaState) (feedback : QuotaFeedback) (now : Int)
    (unobservedAttempts : Nat) (next : QuotaState) : Prop where
  remaining : next.providerRemaining =
    if Stale feedback now then (state.expireFeedback now).providerRemaining
    else
      observedAllowance (state.expireFeedback now).providerRemaining feedback.remaining
        unobservedAttempts
  cooled : Cooling state now ∨ Cools feedback now → Cooling next now
  cooling : Cooling next now →
    Cooling state now ∨ Cools feedback now ∨ next.providerRemaining = some 0
  current : Current next now

/-- What applying a report does. -/
theorem applied_of_applyFeedback (applied : state.applyFeedback feedback instant.timestampMillis
    unobservedAttempts = .ok next) :
    Applied state feedback instant.timestampMillis unobservedAttempts next := by
  have cooling : Cooling ((state.expireFeedback instant.timestampMillis).applyCooldown feedback
      instant.timestampMillis) instant.timestampMillis ↔
        Cooling state instant.timestampMillis ∨ Cools feedback instant.timestampMillis := by
    rw [cooling_applyCooldown, cooling_expireFeedback]
  have current := (current_expireFeedback state instant.timestampMillis).applyCooldown feedback
  rcases QuotaState.applyFeedback_ok applied with ⟨ended, rfl⟩ | ⟨ahead, rfl⟩
  · have stale : Stale feedback instant.timestampMillis := ended
    refine ⟨?_, cooling.mpr, fun held => ?_, current⟩
    · rw [if_pos stale, QuotaState.applyCooldown_providerRemaining]
    · exact (cooling.mp held).imp_right Or.inl
  · have notStale : ¬ Stale feedback instant.timestampMillis := by
      rintro ⟨reset, reported, ended⟩
      exact absurd (ahead reset reported) (not_lt.mpr ended)
    obtain ⟨kept, only⟩ := cooling_ensureUnknownCooldown
      (((state.expireFeedback instant.timestampMillis).applyCooldown feedback
        instant.timestampMillis).applyAllowance feedback unobservedAttempts) instant
    refine ⟨?_, fun held => kept (cooling.mpr held), fun held => ?_,
      (current.applyAllowance notStale _).ensureUnknownCooldown⟩
    · rw [if_neg notStale, QuotaState.ensureUnknownCooldown_providerRemaining,
        applyAllowance_providerRemaining, QuotaState.applyCooldown_providerRemaining]
    · rw [QuotaState.ensureUnknownCooldown_providerRemaining]
      rcases only held with cooled | exhausted
      · exact (cooling.mp cooled).imp_right Or.inl
      · exact Or.inr (Or.inr exhausted)

/-! ### Two reports at once -/

/-- A merge cools where one of its parts does. -/
theorem cools_mergeFeedback {now : Int} :
    Cools (mergeFeedback first second) now ↔ Cools first now ∨ Cools second now := by
  unfold Cools
  rw [mergeFeedback_cooldownUntil]
  cases first.cooldownUntil with
  | none => simp [laterOf]
  | some left =>
      cases second.cooldownUntil with
      | none => simp [laterOf]
      | some right =>
          simp only [laterOf, Option.some.injEq, exists_eq_left']
          rcases le_total left right with before | after
          · have same := DateTime.timestampMillis_mono before
            rw [max_eq_right before]
            exact ⟨Or.inr, fun either => either.elim same.trans_lt' id⟩
          · have same := DateTime.timestampMillis_mono after
            rw [max_eq_left after]
            exact ⟨Or.inl, fun either => either.elim id same.trans_lt'⟩

/-- A merged report counts as late when both are, or one is and the other tells
of no window. -/
theorem stale_mergeFeedback {now : Int} :
    Stale (mergeFeedback first second) now ↔
      (Stale first now ∧ (Stale second now ∨ second.resetAt = none)) ∨
        (Stale second now ∧ first.resetAt = none) := by
  have window : (mergeFeedback first second).resetAt = laterOf first.resetAt second.resetAt := rfl
  unfold Stale
  rw [window]
  cases first.resetAt with
  | none => cases second.resetAt <;> simp [laterOf]
  | some left =>
      cases second.resetAt with
      | none => simp [laterOf]
      | some right =>
          simp only [laterOf, Option.some.injEq, exists_eq_left', reduceCtorEq, or_false, and_false]
          rcases le_total left right with before | after
          · have same := DateTime.timestampMillis_mono before
            rw [max_eq_right before]
            exact ⟨fun ended => ⟨same.trans ended, ended⟩, And.right⟩
          · have same := DateTime.timestampMillis_mono after
            rw [max_eq_left after]
            exact ⟨fun ended => ⟨ended, same.trans ended⟩, And.left⟩

/-- Applied as one, two reports restrict wherever they do one after the other. -/
def MergeKeeps (state : QuotaState) (first second : QuotaFeedback) (now : Int)
    (unobservedAttempts : Nat) : Prop :=
  ∃ once twice merged, state.applyFeedback first now unobservedAttempts = .ok once ∧
    once.applyFeedback second now unobservedAttempts = .ok twice ∧
    state.applyFeedback (mergeFeedback first second) now unobservedAttempts = .ok merged ∧
    (Restricted twice now → Restricted merged now)

/-- The report leaves nothing of an allowance. -/
def Exhausts (feedback : QuotaFeedback) (remaining : Option Nat) (unobservedAttempts : Nat) :
    Prop :=
  ∃ reported, feedback.remaining = some reported ∧
    (reported = 0 ∨ remaining = none ∧ reported ≤ unobservedAttempts)

/-- Nothing else restricts the group, one report is about an ended window, and
the other exhausts the allowance without telling of a window. -/
def MergeLoses (state : QuotaState) (first second : QuotaFeedback) (now : Int)
    (unobservedAttempts : Nat) : Prop :=
  ¬ Cooling state now ∧ ¬ Cools first now ∧ ¬ Cools second now ∧
    (state.expireFeedback now).providerRemaining ≠ some 0 ∧
    ((Stale first now ∧ second.resetAt = none ∧
        Exhausts second (state.expireFeedback now).providerRemaining unobservedAttempts) ∨
      (Stale second now ∧ first.resetAt = none ∧
        Exhausts first (state.expireFeedback now).providerRemaining unobservedAttempts))

/-- A report exhausts what is left where nothing is observed after it. -/
theorem exhausts_iff {remaining : Option Nat} (left : remaining ≠ some 0) :
    Exhausts feedback remaining unobservedAttempts ↔
      observedAllowance remaining feedback.remaining unobservedAttempts = some 0 := by
  unfold Exhausts observedAllowance
  cases feedback.remaining <;> cases remaining <;> simp_all; omega

/-- After a report a row is restricted by a cooldown or by nothing left. -/
theorem Applied.restricted {now : Int}
    (applied : Applied state feedback now unobservedAttempts next) :
    Restricted next now ↔
      Cooling state now ∨ Cools feedback now ∨ next.providerRemaining = some 0 := by
  unfold Restricted
  constructor
  · rintro (cooling | exhausted)
    · exact applied.cooling cooling
    · exact Or.inr (Or.inr exhausted)
  · rintro (cooling | cools | exhausted)
    · exact Or.inl (applied.cooled (Or.inl cooling))
    · exact Or.inl (applied.cooled (Or.inr cools))
    · exact Or.inr exhausted

/-- The smaller allowance of two reports is exhausted where either is. -/
theorem exhausts_mergeFeedback {remaining : Option Nat}
    (either : observedAllowance remaining first.remaining unobservedAttempts = some 0 ∨
      observedAllowance remaining second.remaining unobservedAttempts = some 0) :
    observedAllowance remaining (mergeFeedback first second).remaining unobservedAttempts =
      some 0 := by
  obtain ⟨_, _, left, _⟩ := first
  obtain ⟨_, _, right, _⟩ := second
  cases left <;> cases right <;> cases remaining <;>
    simp only [observedAllowance, mergeFeedback, Option.some.injEq, reduceCtorEq, or_self,
      or_false, false_or] at either ⊢ <;>
    omega

/-- And one of them is where both in turn are. -/
theorem exhausts_of_both {remaining left right : Option Nat}
    (both : observedAllowance (observedAllowance remaining left unobservedAttempts) right
      unobservedAttempts = some 0) :
    observedAllowance remaining left unobservedAttempts = some 0 ∨
      observedAllowance remaining right unobservedAttempts = some 0 := by
  cases left <;> cases right <;> cases remaining <;>
    simp only [observedAllowance, Option.some.injEq, reduceCtorEq, or_self, false_or] at both ⊢ <;>
    omega

/-- The allowances left one after the other and at once, nothing else restricting
the group. -/
theorem exhausted_merge_iff {remaining : Option Nat} {now : Int} {one two whole : Option Nat}
    (once : one = if Stale first now then remaining
      else observedAllowance remaining first.remaining unobservedAttempts)
    (twice : two = if Stale second now then one
      else observedAllowance one second.remaining unobservedAttempts)
    (merged : whole = if Stale (mergeFeedback first second) now then remaining
      else observedAllowance remaining (mergeFeedback first second).remaining
        unobservedAttempts) :
    (two = some 0 → whole = some 0) ↔ ¬ (remaining ≠ some 0 ∧
      ((Stale first now ∧ second.resetAt = none ∧
          Exhausts second remaining unobservedAttempts) ∨
        (Stale second now ∧ first.resetAt = none ∧
          Exhausts first remaining unobservedAttempts))) := by
  by_cases exhausted : remaining = some 0
  · have left : whole = some 0 := by
      rw [merged, exhausted, observedAllowance_zero, ite_self]
    exact ⟨fun _ spent => spent.1 exhausted, fun _ _ => left⟩
  rw [exhausts_iff exhausted, exhausts_iff exhausted]
  have windowed : ∀ feedback : QuotaFeedback, Stale feedback now → feedback.resetAt ≠ none := by
    rintro feedback ⟨reset, reported, _⟩ missing
    exact absurd (missing.symm.trans reported) nofun
  by_cases early : Stale first now <;> by_cases late : Stale second now
  · have both : Stale (mergeFeedback first second) now :=
      stale_mergeFeedback.mpr (Or.inl ⟨early, Or.inl late⟩)
    rw [if_pos early] at once
    rw [if_pos late, once] at twice
    rw [if_pos both] at merged
    simp [twice, merged, windowed first early, windowed second late]
  · -- only the first report is about an ended window
    rw [if_pos early] at once
    rw [if_neg late, once] at twice
    by_cases silent : second.resetAt = none
    · have dropped : Stale (mergeFeedback first second) now :=
        stale_mergeFeedback.mpr (Or.inl ⟨early, Or.inr silent⟩)
      rw [if_pos dropped] at merged
      simp [twice, merged, exhausted, early, late, silent]
    · have kept : ¬ Stale (mergeFeedback first second) now := by
        simp [stale_mergeFeedback, late, silent]
      rw [if_neg kept] at merged
      simp only [silent, late, false_and, and_false, or_self, not_false_eq_true, iff_true]
      rw [twice, merged]
      exact fun spent => exhausts_mergeFeedback (Or.inr spent)
  · -- only the second
    rw [if_neg early] at once
    rw [if_pos late, once] at twice
    by_cases silent : first.resetAt = none
    · have dropped : Stale (mergeFeedback first second) now :=
        stale_mergeFeedback.mpr (Or.inr ⟨late, silent⟩)
      rw [if_pos dropped] at merged
      simp [twice, merged, exhausted, early, late, silent]
    · have kept : ¬ Stale (mergeFeedback first second) now := by
        simp [stale_mergeFeedback, early, silent]
      rw [if_neg kept] at merged
      simp only [silent, early, false_and, and_false, or_self, not_false_eq_true, iff_true]
      rw [twice, merged]
      exact fun spent => exhausts_mergeFeedback (Or.inl spent)
  · have kept : ¬ Stale (mergeFeedback first second) now := by
      simp [stale_mergeFeedback, early, late]
    rw [if_neg early] at once
    rw [if_neg late, once] at twice
    rw [if_neg kept] at merged
    simp only [early, late, false_and, or_self, and_false, not_false_eq_true, iff_true]
    rw [twice, merged]
    exact fun spent => exhausts_mergeFeedback (exhausts_of_both spent)

/-- **When a merge keeps what it merges.** -/
theorem mergeKeeps_iff_of_representable (left : first.Representable)
    (right : second.Representable) :
    MergeKeeps state first second instant.timestampMillis unobservedAttempts ↔
      ¬ MergeLoses state first second instant.timestampMillis unobservedAttempts := by
  obtain ⟨once, applies⟩ := state.applyFeedback_total left instant.timestampMillis
    unobservedAttempts
  obtain ⟨twice, follows⟩ := once.applyFeedback_total right instant.timestampMillis
    unobservedAttempts
  obtain ⟨merged, merges⟩ := state.applyFeedback_total (mergeFeedback_representable left right)
    instant.timestampMillis unobservedAttempts
  have keeps : MergeKeeps state first second instant.timestampMillis unobservedAttempts ↔
      (Restricted twice instant.timestampMillis → Restricted merged instant.timestampMillis) := by
    constructor
    · rintro ⟨_, _, _, same, again, whole, kept⟩
      cases applies.symm.trans same
      cases follows.symm.trans again
      cases merges.symm.trans whole
      exact kept
    · exact fun kept => ⟨once, twice, merged, applies, follows, merges, kept⟩
  have one := applied_of_applyFeedback applies
  have two := applied_of_applyFeedback follows
  have whole := applied_of_applyFeedback merges
  have after := two.remaining
  rw [one.current.expireFeedback_eq] at after
  have spent : once.providerRemaining = some 0 → twice.providerRemaining = some 0 := by
    intro exhausted
    rw [after, exhausted, observedAllowance_zero, ite_self]
  rw [keeps, two.restricted, whole.restricted, cools_mergeFeedback]
  unfold MergeLoses
  by_cases quiet : Cooling state instant.timestampMillis ∨
      Cools first instant.timestampMillis ∨ Cools second instant.timestampMillis
  · constructor
    · rintro - ⟨still, first_, second_, -⟩
      exact quiet.elim still fun cools => cools.elim first_ second_
    · intro _ _
      exact or_assoc.mp (Or.inl (quiet))
  · simp only [not_or] at quiet
    obtain ⟨still, first_, second_⟩ := quiet
    have cooling : Cooling once instant.timestampMillis → twice.providerRemaining = some 0 := by
      intro held
      exact spent (((one.cooling held).resolve_left still).resolve_left first_)
    have restricted : Cooling once instant.timestampMillis ∨
        Cools second instant.timestampMillis ∨ twice.providerRemaining = some 0 ↔
          twice.providerRemaining = some 0 :=
      ⟨fun either => either.elim cooling fun rest => rest.resolve_left second_,
        fun exhausted => Or.inr (Or.inr exhausted)⟩
    have allowances := exhausted_merge_iff one.remaining after whole.remaining
    rw [restricted]
    simpa only [still, first_, second_, or_self, false_or, not_false_eq_true, true_and] using
      allowances

/-- **When a merge loses a restriction.** Of two reports read off responses, the
merge keeps every restriction except where one report is about an ended window
and the other, without a window, alone exhausts the allowance. -/
theorem mergeKeeps_iff (parseHttpDate : String → Option DateTime)
    (firstId secondId : ProviderId) (firstStatus secondStatus : UInt16)
    (firstHeaders secondHeaders : HeaderMap) (firstRead secondRead instant : DateTime)
    (state : QuotaState) (unobservedAttempts : Nat) :
    MergeKeeps state
        (feedbackFromHeaders parseHttpDate firstId firstStatus firstHeaders firstRead)
        (feedbackFromHeaders parseHttpDate secondId secondStatus secondHeaders secondRead)
        instant.timestampMillis unobservedAttempts ↔
      ¬ MergeLoses state
        (feedbackFromHeaders parseHttpDate firstId firstStatus firstHeaders firstRead)
        (feedbackFromHeaders parseHttpDate secondId secondStatus secondHeaders secondRead)
        instant.timestampMillis unobservedAttempts :=
  mergeKeeps_iff_of_representable feedbackFromHeaders_representable
    feedbackFromHeaders_representable

/-- A report of no request left, without the end of its window. -/
def spentAllowance : HeaderMap := fun name =>
  if name = "x-ratelimit-remaining" then some "0" else none

/-- A late report of the window before. -/
def endedWindow : HeaderMap := fun name =>
  if name = "x-ratelimit-remaining" then some "50"
  else if name = "x-ratelimit-reset" then some "0"
  else none

/-- Nothing left without a reset, merged with a report of an ended window, is lost. -/
theorem mergeKeeps_endedWindow :
    ¬ ∀ (parseHttpDate : String → Option DateTime) (id : ProviderId)
      (firstStatus secondStatus : UInt16) (firstHeaders secondHeaders : HeaderMap)
      (firstRead secondRead instant : DateTime) (state : QuotaState) (unobservedAttempts : Nat),
      MergeKeeps state (feedbackFromHeaders parseHttpDate id firstStatus firstHeaders firstRead)
        (feedbackFromHeaders parseHttpDate id secondStatus secondHeaders secondRead)
        instant.timestampMillis unobservedAttempts := by
  intro keeps
  obtain ⟨once, twice, merged, applies, follows, merges, kept⟩ := keeps (fun _ => none) .abuseipdb
    200 200 spentAllowance endedWindow hourAfter hourAfter hourAfter (.fresh 0) 0
  have first : once = { QuotaState.fresh 0 with
      cooldownUntil := some 3660000, cooldownUnknown := true, providerRemaining := some 0 } :=
    (Except.ok.inj applies).symm
  subst first
  have second : twice = { QuotaState.fresh 0 with
      cooldownUntil := some 3660000, cooldownUnknown := true, providerRemaining := some 0 } :=
    (Except.ok.inj follows).symm
  have whole : merged = .fresh 0 := (Except.ok.inj merges).symm
  subst second whole
  rcases kept (Or.inr rfl) with ⟨target, held, _⟩ | exhausted
  · cases held
  · cases exhausted

end RustEnrich.Enrichment
