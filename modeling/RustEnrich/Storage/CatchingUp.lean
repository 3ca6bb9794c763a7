import RustEnrich.Storage.Database

/-!
# Catching up twice

A row brought up to date, and brought up to date again later, is the row brought
up to date at the later reading alone. So is a log of reservations that was
pruned on the way.
-/

namespace RustEnrich.Storage

namespace QuotaState

variable {state next : QuotaState} {earlier later now today : Int}

/-! ### Expiry -/

/-- The later expiry of a reset covers the earlier one. -/
theorem expireReset_expireReset (onward : earlier ≤ later) (state : QuotaState) :
    (state.expireReset earlier).expireReset later = state.expireReset later := by
  unfold expireReset
  cases stored : state.providerResetAt with
  | none => simp [stored]
  | some reset =>
      by_cases ended : reset ≤ earlier
      · have past : reset ≤ later := ended.trans onward
        simp [ended, past]
      · simp [stored, ended]

/-- The later expiry of a cooldown covers the earlier one. -/
theorem expireCooldown_expireCooldown (onward : earlier ≤ later) (state : QuotaState) :
    (state.expireCooldown earlier).expireCooldown later = state.expireCooldown later := by
  unfold expireCooldown
  cases stored : state.cooldownUntil with
  | none => simp [stored]
  | some target =>
      by_cases ended : target ≤ earlier
      · have past : target ≤ later := ended.trans onward
        simp [ended, past]
      · simp [stored, ended]

/-- An exhaustion that the end of a cooldown forgets has no window, and the end
of a window leaves none to forget. -/
theorem expireReset_expireCooldown (state : QuotaState) (now other : Int) :
    (state.expireCooldown now).expireReset other =
      (state.expireReset other).expireCooldown now := by
  unfold expireCooldown expireReset
  by_cases ended : state.cooldownUntil.any (fun target => target ≤ now)
  · cases window : state.providerResetAt with
    | none => simp [window, ended]
    | some reset => by_cases past : reset ≤ other <;> simp [window, past, ended]
  · cases window : state.providerResetAt with
    | none => simp [window, ended]
    | some reset => by_cases past : reset ≤ other <;> simp [window, past, ended]

/-- The later expiry covers the earlier one. -/
theorem expireFeedback_expireFeedback (onward : earlier ≤ later) (state : QuotaState) :
    (state.expireFeedback earlier).expireFeedback later = state.expireFeedback later :=
  calc (state.expireFeedback earlier).expireFeedback later
    _ = (((state.expireReset earlier).expireReset later).expireCooldown earlier).expireCooldown
          later := by
        unfold expireFeedback
        rw [expireReset_expireCooldown]
    _ = state.expireFeedback later := by
        rw [expireReset_expireReset onward, expireCooldown_expireCooldown onward]
        rfl

/-! ### The start of a day -/

/-- The later day covers the earlier one. -/
@[simp] theorem startDay_startDay (state : QuotaState) (today tomorrow : Int) :
    (state.startDay today).startDay tomorrow = state.startDay tomorrow := by
  unfold startDay
  cases state.providerResetAt <;> rfl

/-- A new day and an expired reset do not mind their order. -/
theorem startDay_expireReset (state : QuotaState) (now today : Int) :
    (state.expireReset now).startDay today = (state.startDay today).expireReset now := by
  unfold expireReset startDay
  cases window : state.providerResetAt with
  | none => simp [window]
  | some reset => by_cases past : reset ≤ now <;> simp [window, past]

/-- The exhaustion that the end of a cooldown forgets, a new day forgets too. -/
theorem startDay_expireCooldown (state : QuotaState) (now today : Int) :
    (state.expireCooldown now).startDay today = (state.startDay today).expireCooldown now := by
  unfold expireCooldown startDay
  cases cooldown : state.cooldownUntil with
  | none => simp [cooldown]
  | some target =>
      by_cases ended : target ≤ now
      · cases state.providerResetAt <;> simp [ended]
      · simp [cooldown, ended]

/-- A new day and expiry do not mind their order. -/
theorem startDay_expireFeedback (state : QuotaState) (now today : Int) :
    (state.expireFeedback now).startDay today = (state.startDay today).expireFeedback now := by
  unfold expireFeedback
  rw [startDay_expireCooldown, startDay_expireReset]

/-! ### The whole row -/

section Days

variable {saved : Int} {wall reading : DateTime}

/-- On its own day a row expires. -/
theorem advanceDay_sameDay (day : state.day = .ofDate saved) (today : saved = wall.dateNaive) :
    state.advanceDay wall = .ok (state.expireFeedback wall.timestampMillis) := by
  unfold advanceDay
  simp only [day, DayText.parse, today, lt_irrefl, ↓reduceIte]

/-- On a later day a row starts anew and expires. -/
theorem advanceDay_newDay (day : state.day = .ofDate saved) (earlier : saved < wall.dateNaive) :
    state.advanceDay wall =
      .ok ((state.startDay wall.dateNaive).expireFeedback wall.timestampMillis) := by
  unfold advanceDay
  simp only [day, DayText.parse, earlier, earlier.not_gt, ↓reduceIte]

/-- A row that was brought up to date makes no difference at a later reading. -/
theorem advanceDay_advanceDay (advances : state.advanceDay wall = .ok next)
    (onward : wall.timestampMillis ≤ reading.timestampMillis) :
    next.advanceDay reading = state.advanceDay reading := by
  have days := DateTime.dateNaive_mono onward
  obtain ⟨saved, day, ⟨today, rfl⟩ | ⟨earlier, rfl⟩⟩ := advanceDay_ok advances
  · have kept : (state.expireFeedback wall.timestampMillis).day = .ofDate saved := by
      rw [expireFeedback_day, day]
    rcases eq_or_lt_of_le days with same | newer
    · rw [advanceDay_sameDay kept (today.trans same), advanceDay_sameDay day (today.trans same),
        expireFeedback_expireFeedback onward]
    · rw [advanceDay_newDay kept (today.trans_lt newer), advanceDay_newDay day
        (today.trans_lt newer), startDay_expireFeedback, expireFeedback_expireFeedback onward]
  · have moved : ((state.startDay wall.dateNaive).expireFeedback wall.timestampMillis).day =
        .ofDate wall.dateNaive := by
      rw [expireFeedback_day]
      rfl
    rw [advanceDay_newDay day (earlier.trans_le days)]
    rcases eq_or_lt_of_le days with same | newer
    · rw [advanceDay_sameDay moved same, expireFeedback_expireFeedback onward, same]
    · rw [advanceDay_newDay moved newer, startDay_expireFeedback,
        expireFeedback_expireFeedback onward, startDay_startDay]

end Days

end QuotaState

/-! ### The reservations that count -/

/-- The reservations of a group after a time, in the order of the log. -/
def attemptsAfter (attempts : List QuotaAttempt) (group : QuotaGroup) (after : Int) :
    List QuotaAttempt :=
  attempts.filter (fun row => row.quotaGroup = group ∧ after < row.reservedAt)

/-- Two logs with the same reservations past a horizon. -/
def SameAttempts (horizon : Int) (left right : List QuotaAttempt) : Prop :=
  ∀ group after, horizon ≤ after → attemptsAfter left group after = attemptsAfter right group after

/-- What is pruned is before the horizon. -/
theorem attemptsAfter_pruneAttempts (attempts : List QuotaAttempt) (group : QuotaGroup)
    (upTo after : Int) : attemptsAfter (pruneAttempts attempts group upTo) group after =
      attemptsAfter attempts group (max upTo after) := by
  unfold attemptsAfter pruneAttempts
  rw [List.filter_filter]
  refine List.filter_congr fun row _ => ?_
  by_cases same : row.quotaGroup = group
  · simp [same, Bool.and_comm]
  · simp [same]

/-- Pruning leaves the other group. -/
theorem attemptsAfter_pruneAttempts_of_ne {group other : QuotaGroup} (distinct : other ≠ group)
    (attempts : List QuotaAttempt) (upTo after : Int) :
    attemptsAfter (pruneAttempts attempts group upTo) other after =
      attemptsAfter attempts other after := by
  unfold attemptsAfter pruneAttempts
  rw [List.filter_filter]
  refine List.filter_congr fun row _ => ?_
  by_cases same : row.quotaGroup = other
  · simp [same, distinct]
  · simp [same]

namespace SameAttempts

variable {horizon : Int} {left right : List QuotaAttempt}

/-- Attempts are the same as themselves. -/
theorem refl (horizon : Int) (attempts : List QuotaAttempt) :
    SameAttempts horizon attempts attempts :=
  fun _ _ _ => rfl

/-- Nothing past the horizon is pruned at it. -/
theorem of_pruneAttempts (attempts : List QuotaAttempt) (group : QuotaGroup) (upTo : Int) :
    SameAttempts upTo attempts (pruneAttempts attempts group upTo) := by
  intro other after past
  by_cases same : other = group
  · subst same
    rw [attemptsAfter_pruneAttempts, max_eq_right past]
  · rw [attemptsAfter_pruneAttempts_of_ne same]

/-- Pruning keeps recent attempts the same. -/
theorem pruneAttempts (same : SameAttempts horizon left right) (group : QuotaGroup) (upTo : Int) :
    SameAttempts horizon (Storage.pruneAttempts left group upTo)
      (Storage.pruneAttempts right group upTo) := by
  intro other after past
  by_cases here : other = group
  · subst here
    rw [attemptsAfter_pruneAttempts, attemptsAfter_pruneAttempts]
    exact same other _ (past.trans (le_max_right _ _))
  · rw [attemptsAfter_pruneAttempts_of_ne here, attemptsAfter_pruneAttempts_of_ne here]
    exact same other after past

/-- More attempts keep recent ones the same. -/
theorem append (same : SameAttempts horizon left right) (more : List QuotaAttempt) :
    SameAttempts horizon (left ++ more) (right ++ more) := by
  intro group after past
  have earlier := same group after past
  unfold attemptsAfter at *
  rw [List.filter_append, List.filter_append, earlier]

/-- A decision whose minute starts past the horizon sees no difference. -/
theorem quotaDecision (same : SameAttempts horizon left right) {now : Int}
    (past : horizon ≤ saturatingSub now 60000) (group : QuotaGroup) (limits : QuotaLimits)
    (state : QuotaState) (actualNow : Int) :
    Storage.quotaDecision left group limits state now actualNow =
      Storage.quotaDecision right group limits state now actualNow := by
  have recent : Verdict.recentAttempts left group (saturatingSub now 60000) =
      Verdict.recentAttempts right group (saturatingSub now 60000) := by
    have counted := same group _ past
    unfold attemptsAfter at counted
    unfold Verdict.recentAttempts
    rw [counted]
  unfold Storage.quotaDecision Verdict.checkMinute
  rw [recent]

end SameAttempts

end RustEnrich.Storage
