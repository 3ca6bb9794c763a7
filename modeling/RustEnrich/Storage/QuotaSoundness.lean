import RustEnrich.Storage.Restrictions
import RustEnrich.Storage.Moves
import RustEnrich.Storage.CacheCapacity

/-!
# Quota state stays valid

The stored day, counters and timestamps keep within what the code checks: the
day and the attempts never pass the durable clock, the counters fit their signed
columns, and every timestamp is one that converts, as long as the clock is not
within a minute of the last instant. So no transaction finds invalid data, and
every database left behind opens again.
-/

namespace RustEnrich.Storage

open Transitions

/-- An allowance a signed column holds. -/
def QuotaFeedback.Representable (feedback : QuotaFeedback) : Prop :=
  ∀ remaining, feedback.remaining = some remaining → (remaining : Int) ≤ i64Max

/-- Merging keeps what fits the columns. -/
theorem mergeFeedback_representable {old new : QuotaFeedback} (left : old.Representable)
    (right : new.Representable) : (mergeFeedback old new).Representable := by
  intro remaining merged
  unfold mergeFeedback at merged
  cases first : old.remaining with
  | none => exact right remaining (by simpa [first] using merged)
  | some older =>
      cases second : new.remaining with
      | none => exact left remaining (by simpa [first, second] using merged)
      | some newer =>
          simp only [first, second, Option.some.injEq] at merged
          have below := left older first
          omega

namespace QuotaState

variable {state next : QuotaState} {feedback : QuotaFeedback} {now durable later : Int}
  {unobservedAttempts : Nat}

/-- Zero fits a signed column. -/
theorem zero_le_i64Max : ((0 : Nat) : Int) ≤ i64Max := by decide

/-- Counters that fit the signed columns. -/
structure Fits (state : QuotaState) : Prop where
  consumed : (state.dailyConsumed : Int) ≤ i64Max
  remaining : ∀ left, state.providerRemaining = some left → (left : Int) ≤ i64Max

/-- Timestamps that convert. A fallback cooldown ends a minute after a reading
of the clock. -/
structure Timed (state : QuotaState) (durable : Int) : Prop where
  cooldown : ∀ target, state.cooldownUntil = some target →
    minMillis ≤ target ∧ (target ≤ maxMillis ∨ target ≤ durable + 60000)
  reset : ∀ reset, state.providerResetAt = some reset → minMillis ≤ reset ∧ reset ≤ maxMillis

/-- A stored row, next to the durable clock. -/
structure Sound (state : QuotaState) (durable : Int) : Prop where
  fits : state.Fits
  timed : state.Timed durable
  day : ∃ saved, state.day = .ofDate saved ∧ saved ≤ durable / dayMillis

/-- A row that fits is written. -/
theorem Fits.write (fits : state.Fits) : state.write = .ok state := by
  have room : ¬ i64Max < (state.dailyConsumed : Int) := not_lt.mpr fits.consumed
  rw [QuotaState.write, if_neg room]
  cases present : state.providerRemaining with
  | none => rfl
  | some remaining =>
      have bound := fits.remaining remaining present
      exact if_neg (by simpa using bound)

/-- A row within a clock is within a later one. -/
theorem Timed.mono (timed : state.Timed durable) (ahead : durable ≤ later) :
    state.Timed later where
  cooldown := by
    intro target held
    obtain ⟨lower, upper⟩ := timed.cooldown target held
    exact ⟨lower, upper.imp_right fun soon => by omega⟩
  reset := timed.reset

/-- Only the two timestamps matter. -/
theorem Timed.congr (timed : state.Timed durable)
    (cooldown : next.cooldownUntil = state.cooldownUntil)
    (reset : next.providerResetAt = state.providerResetAt) : next.Timed durable :=
  ⟨cooldown ▸ timed.cooldown, reset ▸ timed.reset⟩

/-- A sound row stays sound under a later clock. -/
theorem Sound.mono (sound : state.Sound durable) (ahead : durable ≤ later) :
    state.Sound later where
  fits := sound.fits
  timed := sound.timed.mono ahead
  day := by
    obtain ⟨saved, day, before⟩ := sound.day
    exact ⟨saved, day, before.trans (Int.ediv_le_ediv (by decide) ahead)⟩

/-- A fresh row is sound. -/
theorem sound_fresh (now : DateTime) : (fresh now.dateNaive).Sound now.timestampMillis where
  fits := ⟨zero_le_i64Max, fun _ => nofun⟩
  timed := ⟨fun _ => nofun, fun _ => nofun⟩
  day := ⟨now.dateNaive, rfl, now.dateNaive_eq.le⟩

/-! ### The updates keep the row within bounds -/

/-- Expiry only forgets. -/
theorem expireFeedback_cases (state : QuotaState) (now : Int) :
    ((state.expireFeedback now).cooldownUntil = none ∨
        (state.expireFeedback now).cooldownUntil = state.cooldownUntil) ∧
      ((state.expireFeedback now).providerResetAt = none ∨
        (state.expireFeedback now).providerResetAt = state.providerResetAt) ∧
      ((state.expireFeedback now).providerRemaining = none ∨
        (state.expireFeedback now).providerRemaining = state.providerRemaining) := by
  unfold expireFeedback expireCooldown expireReset
  split
  · split <;> simp
  · split
    · dsimp only
      refine ⟨Or.inl rfl, Or.inr rfl, ?_⟩
      split
      · exact Or.inl rfl
      · exact Or.inr rfl
    · simp

/-- Expiry keeps a row within its clock. -/
theorem Timed.expireFeedback (timed : state.Timed durable) (now : Int) :
    (state.expireFeedback now).Timed durable := by
  obtain ⟨cooldown, reset, _⟩ := expireFeedback_cases state now
  constructor
  · intro target held
    rcases cooldown with gone | same
    · rw [gone] at held
      cases held
    · exact timed.cooldown target (same ▸ held)
  · intro target held
    rcases reset with gone | same
    · rw [gone] at held
      cases held
    · exact timed.reset target (same ▸ held)

/-- Expiry keeps a row that fits. -/
theorem Fits.expireFeedback (fits : state.Fits) (now : Int) :
    (state.expireFeedback now).Fits := by
  obtain ⟨_, _, remaining⟩ := expireFeedback_cases state now
  refine ⟨by simpa using fits.consumed, ?_⟩
  intro left held
  rcases remaining with gone | same
  · rw [gone] at held
    cases held
  · exact fits.remaining left (same ▸ held)

/-- A new day keeps a row that fits. -/
theorem Fits.startDay (fits : state.Fits) (today : Int) : (state.startDay today).Fits := by
  refine ⟨zero_le_i64Max, ?_⟩
  intro left held
  simp only [QuotaState.startDay] at held
  split at held
  · cases held
  · exact fits.remaining left held

/-- A reported cooldown keeps a row within its clock. -/
theorem Timed.applyCooldown (timed : state.Timed durable) (feedback : QuotaFeedback) (now : Int) :
    (state.applyCooldown feedback now).Timed durable := by
  refine ⟨?_, by simpa using timed.reset⟩
  unfold QuotaState.applyCooldown
  split
  · exact timed.cooldown
  · rename_i target filtered
    obtain ⟨reported, _⟩ := Option.filter_eq_some_iff.mp filtered
    obtain ⟨instant, _, rfl⟩ := Option.map_eq_some_iff.mp reported
    split
    · intro other held
      cases held
      exact ⟨instant.minMillis_le, Or.inl instant.le_maxMillis⟩
    · split <;> exact timed.cooldown

/-- A reported cooldown keeps a row that fits. -/
theorem Fits.applyCooldown (fits : state.Fits) (feedback : QuotaFeedback) (now : Int) :
    (state.applyCooldown feedback now).Fits :=
  ⟨by simpa using fits.consumed, by simpa using fits.remaining⟩

/-- A reported allowance keeps a row within its clock. -/
theorem Timed.applyAllowance (timed : state.Timed durable) (feedback : QuotaFeedback)
    (unobservedAttempts : Nat) :
    (state.applyAllowance feedback unobservedAttempts).Timed durable := by
  refine ⟨timed.cooldown, ?_⟩
  intro target held
  unfold QuotaState.applyAllowance at held
  cases reported : feedback.resetAt with
  | none => exact timed.reset target (by simpa [reported] using held)
  | some instant =>
      have lower := instant.minMillis_le
      have upper := instant.le_maxMillis
      cases stored : state.providerResetAt with
      | none =>
          simp only [reported, stored, Option.map_some, Option.some.injEq] at held
          exact held ▸ ⟨lower, upper⟩
      | some old =>
          simp only [reported, stored, Option.map_some, Option.some.injEq] at held
          have bounds := timed.reset old stored
          omega

/-- A representable allowance keeps a row that fits. -/
theorem Fits.applyAllowance (fits : state.Fits) (representable : feedback.Representable)
    (unobservedAttempts : Nat) : (state.applyAllowance feedback unobservedAttempts).Fits := by
  refine ⟨fits.consumed, ?_⟩
  intro left held
  unfold QuotaState.applyAllowance at held
  cases reported : feedback.remaining with
  | none => exact fits.remaining left (by simpa [reported] using held)
  | some remaining =>
      have bound := representable remaining reported
      cases stored : state.providerRemaining with
      | none =>
          simp only [reported, stored, Option.some.injEq] at held
          omega
      | some old =>
          simp only [reported, stored, Option.some.injEq] at held
          omega

/-- The fallback keeps a row within its clock. -/
theorem Timed.ensureUnknownCooldown (timed : state.Timed durable) {instant : DateTime}
    (ahead : instant.timestampMillis ≤ durable) :
    (state.ensureUnknownCooldown instant.timestampMillis).Timed durable := by
  unfold QuotaState.ensureUnknownCooldown
  split
  · refine ⟨?_, timed.reset⟩
    intro target held
    cases held
    have lower := instant.minMillis_le
    have upper := instant.le_maxMillis
    simp only [saturatingAdd, i64Min, i64Max, minMillis, maxMillis, NaiveDate.min, NaiveDate.max,
      dayMillis] at *
    omega
  · exact timed

/-- The fallback keeps a row that fits. -/
theorem Fits.ensureUnknownCooldown (fits : state.Fits) (now : Int) :
    (state.ensureUnknownCooldown now).Fits :=
  ⟨by simpa using fits.consumed, by simpa using fits.remaining⟩

/-! ### The updates of a sound row succeed -/

/-- A sound row advances to any later reading. -/
theorem Sound.advanceDay {wall : DateTime} (sound : state.Sound durable)
    (ahead : durable ≤ wall.timestampMillis) :
    ∃ next, state.advanceDay wall = .ok next ∧ next.Sound wall.timestampMillis := by
  obtain ⟨saved, day, before⟩ := sound.day
  have notLater : saved ≤ wall.dateNaive := by
    rw [wall.dateNaive_eq]
    exact before.trans (Int.ediv_le_ediv (by decide) ahead)
  have timed := sound.timed.mono ahead
  unfold QuotaState.advanceDay
  rw [day]
  simp only [DayText.parse, if_neg (not_lt.mpr notLater)]
  split
  · refine ⟨_, rfl, (sound.fits.startDay _).expireFeedback _, ?_, wall.dateNaive, ?_, ?_⟩
    · have started : (state.startDay wall.dateNaive).Timed wall.timestampMillis :=
        timed.congr rfl rfl
      exact started.expireFeedback _
    · rw [expireFeedback_day]
      rfl
    · exact wall.dateNaive_eq.le
  · refine ⟨_, rfl, sound.fits.expireFeedback _, timed.expireFeedback _, saved, ?_, ?_⟩
    · rw [expireFeedback_day, day]
    · rw [← wall.dateNaive_eq]
      exact notLater

/-- A sound row stays sound under a report. -/
theorem Sound.of_applyFeedback {instant : DateTime} (sound : state.Sound instant.timestampMillis)
    (applied : state.applyFeedback feedback instant.timestampMillis unobservedAttempts = .ok next) :
    next.Sound instant.timestampMillis := by
  have fits := (sound.fits.expireFeedback instant.timestampMillis).applyCooldown feedback
    instant.timestampMillis
  have timed := (sound.timed.expireFeedback instant.timestampMillis).applyCooldown feedback
    instant.timestampMillis
  have day : ∃ saved, next.day = .ofDate saved ∧
      saved ≤ instant.timestampMillis / dayMillis := by
    rw [applyFeedback_day applied]
    exact sound.day
  unfold QuotaState.applyFeedback at applied
  dsimp only at applied
  split at applied
  · cases applied
    exact ⟨fits, timed, day⟩
  · split at applied
    · cases applied
    · rename_i room
      cases applied
      have representable : feedback.Representable := by
        intro remaining reported
        simpa [reported] using room
      exact ⟨(fits.applyAllowance representable _).ensureUnknownCooldown _,
        (timed.applyAllowance _ _).ensureUnknownCooldown (le_refl _), day⟩

/-- A representable report can always be applied. -/
theorem applyFeedback_total (state : QuotaState) (representable : feedback.Representable)
    (now : Int) (unobservedAttempts : Nat) :
    ∃ next, state.applyFeedback feedback now unobservedAttempts = .ok next := by
  unfold QuotaState.applyFeedback
  dsimp only
  split
  · exact ⟨_, rfl⟩
  · have room : ¬ (feedback.remaining.any fun remaining => i64Max < remaining) = true := by
      cases reported : feedback.remaining with
      | none => nofun
      | some remaining =>
          have bound := representable remaining reported
          simpa using bound
    exact ⟨_, if_neg room⟩

/-- A sound row with room in its count can consume. -/
theorem Sound.consume {instant : DateTime} (sound : state.Sound instant.timestampMillis)
    (room : (state.dailyConsumed : Int) < i64Max) :
    ∃ next, state.consume instant.timestampMillis = .ok next ∧
      next.Sound instant.timestampMillis := by
  have small : ¬ u64Max < state.dailyConsumed + 1 := by
    unfold i64Max at room
    unfold u64Max
    omega
  have fits : ({ state with
      dailyConsumed := state.dailyConsumed + 1
      providerRemaining := state.providerRemaining.map (fun remaining => remaining - 1) } :
        QuotaState).Fits := by
    refine ⟨by push_cast; omega, ?_⟩
    intro left held
    obtain ⟨remaining, present, rfl⟩ := Option.map_eq_some_iff.mp held
    have bound := sound.fits.remaining remaining present
    omega
  have timed : ({ state with
      dailyConsumed := state.dailyConsumed + 1
      providerRemaining := state.providerRemaining.map (fun remaining => remaining - 1) } :
        QuotaState).Timed instant.timestampMillis := sound.timed.congr rfl rfl
  unfold QuotaState.consume
  rw [if_neg small]
  exact ⟨_, rfl, fits.ensureUnknownCooldown _, timed.ensureUnknownCooldown (le_refl _),
    by simpa using sound.day⟩

end QuotaState

/-- A sound row stays sound under what is retained. -/
theorem applyPending_sound {state next : QuotaState} {instant : DateTime}
    (sound : state.Sound instant.timestampMillis) {pending : Option PendingFeedback}
    {unobservedAttempts : Nat}
    (applied : applyPending state pending instant.timestampMillis unobservedAttempts = .ok next) :
    next.Sound instant.timestampMillis := by
  cases pending with
  | none =>
      cases applied
      exact sound
  | some entry => exact sound.of_applyFeedback applied

/-- What is retained can be applied, where it fits. -/
theorem applyPending_total (state : QuotaState) {pending : Option PendingFeedback}
    (representable : ∀ entry, pending = some entry → entry.feedback.Representable)
    (now : Int) (unobservedAttempts : Nat) :
    ∃ next, applyPending state pending now unobservedAttempts = .ok next := by
  cases pending with
  | none => exact ⟨state, rfl⟩
  | some entry => exact state.applyFeedback_total (representable entry rfl) now unobservedAttempts

/-- A granting decision left room under the daily cap, hence in the counter. -/
theorem room_of_granted {attempts : List QuotaAttempt} {group : QuotaGroup}
    {limits : QuotaLimits} {state : QuotaState} {now actualNow : Int} {decision : QuotaDecision}
    (decided : quotaDecision attempts group limits state now actualNow = .ok decision)
    (granted : decision.blocked = false) : (state.dailyConsumed : Int) < i64Max := by
  have below := (permits_of_granted decided granted).day
  have cap := limits.day_le
  omega

/-! ### Transactions on a sound database -/

/-- The durable clock bounds every stored day and attempt. -/
structure Database.Sound (database : Database) : Prop where
  clock : ∃ instant : DateTime, database.clockHighWater = instant.timestampMillis
  state : ∀ group, (database.quotaState group).Sound database.clockHighWater
  attempts : ∀ row ∈ database.quotaAttempts, row.reservedAt ≤ database.clockHighWater

namespace Database.Sound

variable {database next : Database} {group : QuotaGroup} {limits : QuotaLimits}
  {wall instant : DateTime} {pending : Option PendingFeedback} {decision : QuotaDecision}

/-- A new database is sound. -/
theorem create (now : DateTime) : (Database.create now).Sound where
  clock := ⟨now, rfl⟩
  state := fun _ => QuotaState.sound_fresh now
  attempts := fun _ => nofun

/-- A sound database stays sound where its accounts stay. -/
theorem withAccounts (sound : database.Sound) (same : SameAccounts database next) :
    next.Sound where
  clock := same.clockHighWater ▸ sound.clock
  state := by
    rw [same.quotaState, same.clockHighWater]
    exact sound.state
  attempts := by
    rw [same.quotaAttempts, same.clockHighWater]
    exact sound.attempts

/-- One row is replaced at a later durable clock. -/
theorem update (sound : database.Sound) (ahead : database.clockHighWater ≤ instant.timestampMillis)
    {stored : QuotaState} {attempts : List QuotaAttempt}
    (kept : stored.Sound instant.timestampMillis)
    (recent : ∀ row ∈ attempts, row.reservedAt ≤ instant.timestampMillis) :
    Database.Sound { database with
      quotaState := Function.update database.quotaState group stored
      quotaAttempts := attempts
      clockHighWater := max database.clockHighWater instant.timestampMillis } where
  clock := ⟨instant, max_eq_right ahead⟩
  state := by
    intro other
    rw [max_eq_right ahead]
    change (Function.update database.quotaState group stored other).Sound instant.timestampMillis
    by_cases same : other = group
    · subst same
      rw [Function.update_self]
      exact kept
    · rw [Function.update_of_ne same]
      exact (sound.state other).mono ahead
  attempts := by
    rw [max_eq_right ahead]
    exact recent

/-- A committed reserve leaves a sound database. -/
theorem of_reserve (sound : database.Sound)
    (ahead : database.clockHighWater ≤ wall.timestampMillis)
    (reserved : reserveTransaction database group limits wall wall.timestampMillis pending =
      .ok (next, decision)) : next.Sound := by
  obtain ⟨advanced, state, stored, attempts, advancing, applying, deciding, settling, rfl⟩ :=
    reserveTransaction_ok reserved
  obtain ⟨_, same, fresh⟩ := (sound.state group).advanceDay ahead
  cases advancing.symm.trans same
  have applied := applyPending_sound fresh applying
  have recent : ∀ row ∈ pruneAttempts database.quotaAttempts group
      (saturatingSub wall.timestampMillis 60000), row.reservedAt ≤ wall.timestampMillis :=
    fun row member => (sound.attempts row (List.mem_of_mem_filter member)).trans ahead
  rcases settle_ok settling with ⟨_, rfl, rfl⟩ | ⟨granted, consuming, rfl⟩
  · exact sound.update ahead applied recent
  · obtain ⟨_, same, kept⟩ := applied.consume (room_of_granted deciding granted)
    cases consuming.symm.trans same
    apply sound.update ahead kept
    intro row member
    rcases List.mem_append.mp member with earlier | added
    · exact recent row earlier
    · split at added
      · obtain rfl := List.mem_singleton.mp added
        exact le_refl _
      · cases added

/-- A committed report leaves a sound database. -/
theorem of_feedback (sound : database.Sound) {entry : PendingFeedback}
    (ahead : database.clockHighWater ≤ instant.timestampMillis)
    (applied : feedbackTransaction database group limits instant.timestampMillis entry =
      .ok next) : next.Sound := by
  obtain ⟨stored, applying, rfl⟩ := feedbackTransaction_ok applied
  exact sound.update ahead (((sound.state group).mono ahead).of_applyFeedback applying)
    fun row member => (sound.attempts row member).trans ahead

/-- Once decided, a reservation commits. -/
theorem reserve_of_decision (sound : database.Sound)
    (ahead : database.clockHighWater ≤ wall.timestampMillis) {advanced state : QuotaState}
    (advancing : (database.quotaState group).advanceDay wall = .ok advanced)
    (applying : applyPending advanced pending wall.timestampMillis limits.unobservedAttempts =
      .ok state)
    (deciding : quotaDecision (pruneAttempts database.quotaAttempts group
      (saturatingSub wall.timestampMillis 60000)) group limits state wall.timestampMillis
        wall.timestampMillis = .ok decision) :
    ∃ next, reserveTransaction database group limits wall wall.timestampMillis pending =
      .ok (next, decision) := by
  obtain ⟨_, same, fresh⟩ := (sound.state group).advanceDay ahead
  cases advancing.symm.trans same
  have applied := applyPending_sound fresh applying
  have settles : ∃ stored attempts, settle state
      (pruneAttempts database.quotaAttempts group (saturatingSub wall.timestampMillis 60000)) group
      limits wall.timestampMillis decision = .ok (stored, attempts) ∧ stored.Fits := by
    unfold settle
    cases granted : decision.blocked with
    | true => exact ⟨_, _, rfl, applied.fits⟩
    | false =>
        obtain ⟨consumed, consuming, kept⟩ := applied.consume (room_of_granted deciding granted)
        simp only [Bool.false_eq_true, ↓reduceIte, consuming]
        exact ⟨_, _, rfl, kept.fits⟩
  obtain ⟨stored, attempts, settling, fits⟩ := settles
  unfold reserveTransaction
  simp only [bind, Except.bind, pure, Except.pure, advancing, applying, deciding, settling,
    fits.write]
  exact ⟨_, rfl⟩

/-- On a sound database a reserve finds no invalid data. -/
theorem reserve_total (sound : database.Sound)
    (ahead : database.clockHighWater ≤ wall.timestampMillis)
    (representable : ∀ entry, pending = some entry → entry.feedback.Representable)
    (tomorrow : wall.dateNaive + 1 ≤ NaiveDate.max) (group : QuotaGroup) (limits : QuotaLimits) :
    ∃ next decision, reserveTransaction database group limits wall wall.timestampMillis pending =
      .ok (next, decision) := by
  obtain ⟨advanced, advancing, _⟩ := (sound.state group).advanceDay ahead
  obtain ⟨state, applying⟩ := applyPending_total advanced representable wall.timestampMillis
    limits.unobservedAttempts
  obtain ⟨decision, deciding, _⟩ := quotaDecision_spec
    (pruneAttempts database.quotaAttempts group (saturatingSub wall.timestampMillis 60000)) group
    limits state wall (le_refl wall.timestampMillis) fun _ => tomorrow
  obtain ⟨next, reserves⟩ := sound.reserve_of_decision ahead advancing applying deciding
  exact ⟨next, decision, reserves⟩

/-- On a sound database a report finds no invalid data. -/
theorem feedback_total (sound : database.Sound) {entry : PendingFeedback}
    (ahead : database.clockHighWater ≤ instant.timestampMillis)
    (representable : entry.feedback.Representable) (group : QuotaGroup) (limits : QuotaLimits) :
    ∃ next, feedbackTransaction database group limits instant.timestampMillis entry =
      .ok next := by
  obtain ⟨stored, applying⟩ := (database.quotaState group).applyFeedback_total representable
    instant.timestampMillis limits.unobservedAttempts
  have kept := ((sound.state group).mono ahead).of_applyFeedback applying
  unfold feedbackTransaction
  simp only [bind, Except.bind, pure, Except.pure, applying, kept.fits.write]
  exact ⟨_, rfl⟩

/-- On a sound database an advised delay finds no invalid data. -/
theorem retryAfter_total (sound : database.Sound)
    (ahead : database.clockHighWater ≤ instant.timestampMillis)
    (behind : wall.timestampMillis ≤ instant.timestampMillis)
    (representable : ∀ entry, pending = some entry → entry.feedback.Representable)
    (tomorrow : instant.dateNaive + 1 ≤ NaiveDate.max) (group : QuotaGroup)
    (limits : QuotaLimits) :
    ∃ delay, retryAfterTransaction database group limits wall instant.timestampMillis pending =
      .ok delay := by
  obtain ⟨effective, converted, same⟩ := instant.fromTimestampMillis_self
  rw [← same] at ahead
  obtain ⟨advanced, advancing, fresh⟩ := (sound.state group).advanceDay ahead
  obtain ⟨state, applying⟩ := applyPending_total advanced representable instant.timestampMillis
    limits.unobservedAttempts
  obtain ⟨decision, deciding, _⟩ := quotaDecision_spec database.quotaAttempts group limits state
    instant behind fun _ => tomorrow
  unfold retryAfterTransaction
  simp only [converted, bind, Except.bind, pure, Except.pure, advancing, applying, deciding]
  exact ⟨_, rfl⟩

end Database.Sound

/-! ### Every database left behind opens again -/

/-- 9999-01-01T00:00:00Z. -/
def firstMillisOf9999 : Int := 253370764800000

/-- Before the year 9999 the next day is a date. -/
theorem tomorrow_of_before {instant : DateTime}
    (before : instant.timestampMillis < firstMillisOf9999) :
    instant.dateNaive + 1 ≤ NaiveDate.max := by
  rw [instant.dateNaive_eq]
  unfold firstMillisOf9999 at before
  unfold dayMillis NaiveDate.max
  omega

/-- Milliseconds within the range of dates are an instant. -/
theorem fromTimestampMillis_isSome {millis : Int} (lower : minMillis ≤ millis)
    (upper : millis ≤ maxMillis) : (DateTime.fromTimestampMillis millis).isSome = true := by
  unfold DateTime.fromTimestampMillis
  rw [dif_pos ⟨lower, upper⟩]
  rfl

/-- A sound row is read back at a start. -/
theorem QuotaState.Sound.isReadable {state : QuotaState} {durable : Int}
    (sound : state.Sound durable) (before : durable < firstMillisOf9999) :
    state.isReadable = true := by
  obtain ⟨saved, day, _⟩ := sound.day
  have cooldown : state.cooldownUntil.all
      (fun target => (DateTime.fromTimestampMillis target).isSome) = true := by
    cases held : state.cooldownUntil with
    | none => rfl
    | some target =>
        obtain ⟨lower, upper⟩ := sound.timed.cooldown target held
        apply fromTimestampMillis_isSome lower
        unfold firstMillisOf9999 at before
        simp only [maxMillis, NaiveDate.max, dayMillis] at upper ⊢
        omega
  have reset : state.providerResetAt.all
      (fun target => (DateTime.fromTimestampMillis target).isSome) = true := by
    cases held : state.providerResetAt with
    | none => rfl
    | some target =>
        obtain ⟨lower, upper⟩ := sound.timed.reset target held
        exact fromTimestampMillis_isSome lower upper
  simp only [QuotaState.isReadable, day, DayText.parse, cooldown, reset, Option.isSome_some,
    and_self, decide_true]

/-- A start accepts a sound database. -/
theorem Database.Sound.reconcile_total {database : Database} (sound : database.Sound)
    (before : database.clockHighWater < firstMillisOf9999) (settings : Settings)
    (wall : DateTime) :
    ∃ next effective, reconcile settings wall database = .ok (next, effective) := by
  obtain ⟨instant, same⟩ := sound.clock
  have converts : ¬ (DateTime.fromTimestampMillis database.clockHighWater).isNone = true := by
    obtain ⟨floored, converted, _⟩ := instant.fromTimestampMillis_self
    rw [same, converted]
    nofun
  have readable : ¬ ((database.quotaState .abuseipdbCheck).isReadable = false ∨
      (database.quotaState .virustotal).isReadable = false) := by
    simp [(sound.state _).isReadable before]
  unfold reconcile
  rw [if_neg converts, if_neg readable]
  dsimp only
  obtain ⟨kept, evicted, _⟩ := evict_ok settings (deleteAllExpired settings wall.timestampMillis
    (max database.clockHighWater wall.timestampMillis) (database.cacheEntries.rows.length + 1)
    database.cacheEntries)
  rw [evicted]
  exact ⟨_, _, rfl⟩

/-! ### Over every run -/

/-- The effective time of a session is a reading of some clock. -/
def RuntimeState.OnClock (runtime : RuntimeState) : Prop :=
  ∃ instant : DateTime, runtime.highWater = instant.timestampMillis

/-- A reading keeps the clock on a reading. -/
theorem RuntimeState.OnClock.observe {runtime : RuntimeState} (onClock : runtime.OnClock)
    (wall : DateTime) : (runtime.observe wall).OnClock := by
  obtain ⟨instant, same⟩ := onClock
  rcases le_total runtime.highWater wall.timestampMillis with behind | ahead
  · exact ⟨wall, max_eq_right behind⟩
  · exact ⟨instant, (max_eq_left ahead).trans same⟩

/-- So does whatever a call observes. -/
theorem RuntimeState.OnClock.observeBy {runtime : RuntimeState} (onClock : runtime.OnClock)
    (request : Request) (wall : DateTime) : (request.observe runtime wall).OnClock := by
  unfold Request.observe
  split
  · exact onClock.observe wall
  · exact onClock

/-- A start sets the clock to a reading. -/
theorem reconcile_onClock {settings : Settings} {wall : DateTime} {database next : Database}
    {now : Int} (reconciled : reconcile settings wall database = .ok (next, now)) :
    ∃ instant : DateTime, now = instant.timestampMillis := by
  obtain ⟨rfl, _⟩ := reconcile_ok reconciled
  unfold reconcile at reconciled
  split at reconciled
  · cases reconciled
  · rename_i converts
    cases converted : DateTime.fromTimestampMillis database.clockHighWater with
    | none => rw [converted] at converts; exact absurd rfl converts
    | some instant =>
        have same := DateTime.fromTimestampMillis_timestampMillis converted
        rcases le_total database.clockHighWater wall.timestampMillis with behind | ahead
        · exact ⟨wall, max_eq_right behind⟩
        · exact ⟨instant, (max_eq_left ahead).trans same.symm⟩

/-- The clock of an open storage was read. -/
def World.OnClock : World → Prop
  | .closed _ => True
  | .running _ session => session.runtime.OnClock

variable {codec : PayloadCodec} {before after start world : World} {trace emitted : List Event}

/-- Every step keeps the clock on a reading. -/
theorem Step.onClock (taken : Step codec before emitted after) (onClock : before.OnClock) :
    after.OnClock := by
  cases taken with
  | migrated now => trivial
  | openTimedOut reconciled => trivial
  | closed => trivial
  | opened reconciled => exact reconcile_onClock reconciled
  | performed wall free queued performs => exact onClock.observeBy _ wall
  | unreported wall free queued performs => exact onClock.observeBy _ wall
  | unperformed wall free queued performs => exact onClock.observeBy _ wall
  | reserveBehind wall free queued behind => exact onClock.observe wall
  | reserveSnapshot wall free queued caughtUp => exact onClock.observe wall
  | feedbackSaved wall free queued saved => exact onClock.observe wall
  | feedbackSnapshot wall free queued unsaved => exact onClock.observe wall
  | @reserveCleared _ session _ provider snapshot _ held =>
      obtain ⟨instant, same⟩ := onClock
      exact ⟨instant, (session.runtime.clearPending_highWater _ _).trans same⟩
  | @feedbackCleared _ session _ provider pending held =>
      obtain ⟨instant, same⟩ := onClock
      exact ⟨instant, (session.runtime.clearPending_highWater _ _).trans same⟩
  | _ => exact onClock

/-- The database of a world is sound, and its clocks are readings. -/
structure World.Sound (world : World) : Prop where
  clocked : world.Clocked
  onClock : world.OnClock
  database : ∀ database, world.database = some database → database.Sound

/-- A file yet to be created is sound. -/
theorem World.sound_closed : (World.closed none).Sound :=
  ⟨trivial, trivial, fun _ => nofun⟩

/-- Every step keeps a sound world. -/
theorem Step.sound (taken : Step codec before emitted after) (sound : before.Sound) :
    after.Sound := by
  refine ⟨taken.clocked sound.clocked, taken.onClock sound.onClock, ?_⟩
  rcases taken.accounts with ⟨_, next, stored, same, new⟩ |
    ⟨old, next, session, call, provider, snapshot, decision, rfl, held, reserves, rfl, rfl⟩ |
    ⟨old, next, session, call, provider, now, pending, rfl, held, applies, rfl, rfl⟩
  · rw [stored]
    intro database equal
    cases equal
    cases earlier : before.database with
    | some old => exact (sound.database old earlier).withAccounts (same old earlier)
    | none =>
        obtain ⟨now, fresh⟩ := new earlier
        exact (Database.Sound.create now).withAccounts fresh
  · intro database equal
    cases equal
    obtain ⟨_, gate⟩ := sound.clocked
    rw [held] at gate
    exact (sound.database old rfl).of_reserve gate.1 reserves
  · intro database equal
    cases equal
    obtain ⟨_, gate⟩ := sound.clocked
    obtain ⟨instant, effective⟩ := sound.onClock
    rw [held] at gate
    obtain rfl := gate.2.symm.trans effective
    exact (sound.database old rfl).of_feedback gate.1 applies

/-- A run from a sound world ends in one. -/
theorem sound_run (run : Run (Step codec) start trace world) (sound : start.Sound) :
    world.Sound :=
  run.stateInvariant World.Sound sound fun _ _ _ before taken => taken.sound before

/-- The durable clock never goes back. -/
theorem Step.clockHighWater_le (taken : Step codec before emitted after) {database next : Database}
    (stored : before.database = some database) (left : after.database = some next) :
    database.clockHighWater ≤ next.clockHighWater := by
  rcases taken.accounts with ⟨_, other, kept, same, _⟩ |
    ⟨old, other, session, call, provider, snapshot, decision, rfl, held, reserves, rfl, rfl⟩ |
    ⟨old, other, session, call, provider, now, pending, rfl, held, applies, rfl, rfl⟩
  · rw [kept] at left
    cases left
    exact (same database stored).clockHighWater.ge
  · cases stored
    cases left
    exact (le_max_left _ _).trans (reserveTransaction_clockHighWater reserves).ge
  · cases stored
    cases left
    exact (le_max_left _ _).trans (feedbackTransaction_clockHighWater applies).ge

/-- Over a run the durable clock does not go back. -/
theorem clockHighWater_le_run (run : Run (Step codec) start trace world) {database next : Database}
    (stored : start.database = some database) (left : world.database = some next) :
    database.clockHighWater ≤ next.clockHighWater := by
  induction run generalizing next with
  | refl =>
      cases stored.symm.trans left
      exact le_refl _
  | @snoc _ _ before after previous taken ih =>
      obtain ⟨middle, between⟩ := database_present previous stored
      exact (ih between).trans (taken.clockHighWater_le between left)

/-- The clocks a world keeps: the durable one, and that of an open session. -/
def World.clocks : World → List Int
  | .closed none => []
  | .closed (some database) => [database.clockHighWater]
  | .running database session => [database.clockHighWater, session.runtime.highWater]

/-- A step whose readings of the wall clock satisfy a condition: every clock it
leaves is one it found or a reading it took. -/
structure ReadingStep (codec : PayloadCodec) (admits : DateTime → Prop) (before : World)
    (emitted : List Event) (after : World) : Prop where
  taken : Step codec before emitted after
  readings : ∀ clock ∈ after.clocks, clock ∈ before.clocks ∨
    ∃ reading, admits reading ∧ clock = reading.timestampMillis

/-- What the next clocks of an open storage may be. -/
theorem World.clocks_running {database next : Database} {session following : Session}
    (durable : next.clockHighWater = database.clockHighWater ∨
      next.clockHighWater = session.runtime.highWater)
    (observed : following.runtime.highWater = session.runtime.highWater ∨
      ∃ wall : DateTime, following.runtime.highWater = wall.timestampMillis) :
    ∀ clock ∈ (World.running next following).clocks,
      clock ∈ (World.running database session).clocks ∨
        ∃ reading : DateTime, True ∧ clock = reading.timestampMillis := by
  intro clock kept
  simp only [World.clocks, List.mem_cons, List.not_mem_nil, or_false] at kept ⊢
  rcases kept with rfl | rfl
  · exact Or.inl durable
  · rcases observed with same | ⟨wall, read⟩
    · exact Or.inl (Or.inr same)
    · exact Or.inr ⟨wall, trivial, read⟩

/-- A call leaves the clock or sets it to a reading. -/
theorem Request.observe_reading (request : Request) (runtime : RuntimeState) (wall : DateTime) :
    (request.observe runtime wall).highWater = runtime.highWater ∨
      ∃ reading : DateTime, (request.observe runtime wall).highWater = reading.timestampMillis := by
  unfold Request.observe
  split
  · exact (max_choice runtime.highWater wall.timestampMillis).imp_right fun read => ⟨wall, read⟩
  · exact Or.inl rfl

/-- The clocks a start leaves. -/
theorem clocks_of_reconcile {settings : Settings} {created wall : DateTime}
    {file : Option Database} {next : Database} {now clock : Int}
    (reconciled : reconcile settings wall (initializeSchema created file) = .ok (next, now))
    (kept : clock = next.clockHighWater ∨ clock = now) :
    clock ∈ (World.closed file).clocks ∨
      ∃ reading : DateTime, True ∧ clock = reading.timestampMillis := by
  obtain ⟨effective, table, _, rfl⟩ := reconcile_ok reconciled
  have found : (initializeSchema created file).clockHighWater ∈ (World.closed file).clocks ∨
      ∃ reading : DateTime, True ∧
        (initializeSchema created file).clockHighWater = reading.timestampMillis := by
    cases file with
    | none => exact Or.inr ⟨created, trivial, rfl⟩
    | some database => exact Or.inl (List.mem_singleton.mpr rfl)
  rcases kept with rfl | rfl
  · exact found
  · rw [effective]
    rcases max_choice (initializeSchema created file).clockHighWater wall.timestampMillis with
      durable | read
    · rw [durable]
      exact found
    · exact Or.inr ⟨wall, trivial, read⟩

/-- Every step is one, when nothing is asked of its readings. -/
theorem Step.reading (taken : Step codec before emitted after) (clocked : before.Clocked) :
    ReadingStep codec (fun _ => True) before emitted after := by
  refine ⟨taken, ?_⟩
  cases taken with
  | migrated now => simp [World.clocks, Database.create]
  | opened reconciled =>
      intro clock kept
      exact clocks_of_reconcile reconciled
        (by simpa [World.clocks, Session.fresh, RuntimeState.fresh] using kept)
  | openTimedOut reconciled =>
      intro clock kept
      exact clocks_of_reconcile reconciled (Or.inl (List.mem_singleton.mp kept))
  | closed => simp [World.clocks]
  | performed wall free queued performs =>
      exact World.clocks_running (Or.inl (Request.perform_sameAccounts performs).clockHighWater)
        (Request.observe_reading _ _ wall)
  | unreported wall free queued performs =>
      exact World.clocks_running (Or.inl (Request.perform_sameAccounts performs).clockHighWater)
        (Request.observe_reading _ _ wall)
  | unperformed wall free queued performs =>
      exact World.clocks_running (Or.inl rfl) (Request.observe_reading _ _ wall)
  | @reserveBehind _ _ _ _ _ provider wall free queued behind =>
      exact World.clocks_running (Or.inl rfl) (Request.observe_reading (.reserve provider) _ wall)
  | @reserveSnapshot _ _ _ _ _ provider wall free queued caughtUp =>
      exact World.clocks_running (Or.inl rfl) (Request.observe_reading (.reserve provider) _ wall)
  | @feedbackSaved _ _ _ _ _ provider wall free queued saved =>
      exact World.clocks_running (Or.inl rfl) (Request.observe_reading (.feedback provider) _ wall)
  | @feedbackSnapshot _ _ _ _ _ provider _ wall free queued unsaved =>
      exact World.clocks_running (Or.inl rfl) (Request.observe_reading (.feedback provider) _ wall)
  | reserveCommitted held reserves =>
      obtain ⟨_, gate⟩ := clocked
      rw [held] at gate
      refine World.clocks_running ?_ (Or.inl rfl)
      rw [reserveTransaction_clockHighWater reserves, ← gate.2]
      exact max_choice _ _
  | feedbackCommitted held applies =>
      obtain ⟨_, gate⟩ := clocked
      rw [held] at gate
      refine World.clocks_running ?_ (Or.inl rfl)
      rw [feedbackTransaction_clockHighWater applies, ← gate.2]
      exact max_choice _ _
  | reserveCleared held => exact World.clocks_running (Or.inl rfl) (Or.inl (by simp))
  | feedbackCleared held => exact World.clocks_running (Or.inl rfl) (Or.inl (by simp))
  | _ => exact World.clocks_running (Or.inl rfl) (Or.inl rfl)

/-- What holds of every reading holds of every clock. -/
theorem readings_run {admits : DateTime → Prop} {holds : Int → Prop}
    (run : Run (ReadingStep codec admits) start trace world)
    (admitted : ∀ reading, admits reading → holds reading.timestampMillis)
    (initial : ∀ clock ∈ start.clocks, holds clock) : ∀ clock ∈ world.clocks, holds clock := by
  refine run.stateInvariant (fun world => ∀ clock ∈ world.clocks, holds clock) initial ?_
  intro before emitted after earlier taken clock kept
  rcases taken.readings clock kept with found | ⟨reading, admits, rfl⟩
  · exact earlier clock found
  · exact admitted reading admits

/-! ### What is retained fits the columns -/

/-- What a session retains, or is saving, fits the columns. -/
structure Session.Representable (session : Session) : Prop where
  pending : ∀ group entry, session.runtime.pending group = some entry →
    entry.feedback.Representable
  saving : ∀ group entry, session.gate.saving = some (group, entry) →
    entry.feedback.Representable

/-- What an open storage retains fits the columns. -/
def World.Representable : World → Prop
  | .closed _ => True
  | .running _ session => session.Representable

/-- What is still retained after a clearing was before. -/
theorem RuntimeState.pending_of_clearPending {runtime : RuntimeState} {group other : QuotaGroup}
    {saved : Option PendingFeedback} {entry : PendingFeedback}
    (present : (runtime.clearPending group saved).pending other = some entry) :
    runtime.pending other = some entry := by
  unfold clearPending at present
  split at present
  · exact present
  · split at present
    · change Function.update runtime.pending group none other = some entry at present
      by_cases same : other = group
      · subst same
        rw [Function.update_self] at present
        cases present
      · rwa [Function.update_of_ne same] at present
    · exact present

/-- A move keeps what fits, where the reports do. -/
theorem Session.Representable.move {database next : Database} {session following : Session}
    (representable : session.Representable)
    (reported : ∀ group feedback, Event.feedbackRetained group feedback ∈ emitted →
      feedback.Representable)
    (move : Move database session emitted next following) : following.Representable := by
  cases move with
  | idle idle =>
      refine ⟨?_, fun group entry held => representable.saving group entry
        (idle.within.saving _ held)⟩
      rw [idle.pending]
      exact representable.pending
  | retained call provider feedback runtime gate =>
      have fits := reported (quotaGroup provider) feedback (by simp)
      refine ⟨?_, by rw [gate]; exact representable.saving⟩
      intro group entry present
      rw [runtime] at present
      by_cases same : group = quotaGroup provider
      · subst same
        unfold RuntimeState.retain at present
        simp only [Function.update_self, Option.some.injEq] at present
        subst present
        cases old : session.runtime.pending (quotaGroup provider) with
        | none => exact fits
        | some earlier =>
            exact mergeFeedback_representable (representable.pending _ earlier old) fits
      · rw [RuntimeState.retain_of_ne same] at present
        exact representable.pending group entry present
  | reserveSnapshot call provider wall free runtime gate =>
      refine ⟨by rw [runtime]; exact representable.pending, ?_⟩
      intro group entry held
      obtain ⟨rfl, present⟩ := Gate.saving_reserving.mp (gate ▸ held)
      exact representable.pending _ entry present
  | feedbackSnapshot call provider wall pending free runtime unsaved gate =>
      refine ⟨by rw [runtime]; exact representable.pending, ?_⟩
      intro group entry held
      obtain ⟨rfl, rfl⟩ := Gate.saving_applying.mp (gate ▸ held)
      exact representable.pending _ _ unsaved
  | reserveCommitted call provider snapshot decision held reserves runtime gate =>
      refine ⟨by rw [runtime]; exact representable.pending, ?_⟩
      have same : following.gate.saving = session.gate.saving := by rw [gate, held]; rfl
      rw [same]
      exact representable.saving
  | feedbackCommitted call provider now pending held applies runtime gate =>
      refine ⟨by rw [runtime]; exact representable.pending, ?_⟩
      have same : following.gate.saving = session.gate.saving := by rw [gate, held]; rfl
      rw [same]
      exact representable.saving
  | reserveCleared call provider snapshot decision held runtime gate =>
      refine ⟨?_, by rw [gate]; exact fun _ _ => nofun⟩
      intro group entry present
      exact representable.pending group entry
        (RuntimeState.pending_of_clearPending (runtime ▸ present))
  | feedbackCleared call provider pending held runtime gate =>
      refine ⟨?_, by rw [gate]; exact fun _ _ => nofun⟩
      intro group entry present
      exact representable.pending group entry
        (RuntimeState.pending_of_clearPending (runtime ▸ present))

/-- A step keeps what fits, where the reports do. -/
theorem Step.representable (taken : Step codec before emitted after)
    (reported : ∀ group feedback, Event.feedbackRetained group feedback ∈ emitted →
      feedback.Representable) (representable : before.Representable) : after.Representable := by
  cases before with
  | running database session =>
      obtain ⟨_, rfl⟩ | ⟨next, following, rfl, _, move⟩ := taken.move
      · trivial
      · exact Session.Representable.move representable reported move
  | closed file =>
      cases taken with
      | opened reconciled => exact ⟨fun _ _ => nofun, fun _ _ => nofun⟩
      | migrated now => trivial
      | openTimedOut reconciled => trivial

/-- A run keeps what fits, where the reports do. -/
theorem representable_run (run : Run (Step codec) start trace world)
    (reported : ∀ group feedback, Event.feedbackRetained group feedback ∈ trace →
      feedback.Representable) (initial : start.Representable) : world.Representable := by
  refine run.invariant (fun seen world => (∀ group feedback,
    Event.feedbackRetained group feedback ∈ seen → feedback.Representable) →
      world.Representable) (fun _ => initial) ?_ reported
  intro seen before emitted after _ holds taken reported
  refine taken.representable (fun group feedback member => ?_)
    (holds fun group feedback member => ?_)
  · exact reported group feedback (List.mem_append_right _ member)
  · exact reported group feedback (List.mem_append_left _ member)

end RustEnrich.Storage
