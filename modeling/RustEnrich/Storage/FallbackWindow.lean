import RustEnrich.Storage.DurableCooldown
import RustEnrich.Storage.Sequential

/-!
# Allowances without a reset

A report of remaining attempts without a reset time binds for a minute of its
UTC day: the row counts them down, and once they are spent the fallback cooldown
outlasts the minute. The count is kept only while the row is on the day of the
report, because a new day forgets an allowance no reset bounds.
-/

namespace RustEnrich.Storage

open Transitions

/-- A report without a reset time or a cooldown. -/
def QuotaFeedback.Unbounded (feedback : QuotaFeedback) : Prop :=
  feedback.resetAt = none ∧ feedback.cooldownUntil = none

namespace QuotaState

/-- A row that permits a positive number of attempts, at most `limit`, on one
day, with nothing to end before it. -/
structure CountsDown (state : QuotaState) (day : Int) (limit : Nat) : Prop where
  day : state.day = .ofDate day
  cooldown : state.cooldownUntil = none
  reset : state.providerResetAt = none
  remaining : ∃ left, state.providerRemaining = some left ∧ 0 < left ∧ left ≤ limit

/-- A row that permits at most `limit` attempts on a day before a time. -/
def Bound (state : QuotaState) (day : Int) (limit : Nat) (target : Int) : Prop :=
  HeldUntil state.cooldownUntil target ∨ state.CountsDown day limit

variable {state next : QuotaState} {feedback : QuotaFeedback} {now day target : Int}
  {limit unobservedAttempts : Nat}

/-- A report that leaves nothing starts the fallback, any other counts down. -/
theorem bound_ensureUnknownCooldown (onDay : state.providerRemaining ≠ some 0 →
      state.day = .ofDate day)
    (cooldown : state.cooldownUntil = none) (reset : state.providerResetAt = none)
    {left : Nat} (remaining : state.providerRemaining = some left) (within : left ≤ limit)
    (outlasts : target ≤ saturatingAdd now 60000) :
    (state.ensureUnknownCooldown now).Bound day limit target := by
  unfold ensureUnknownCooldown
  by_cases exhausted : state.providerRemaining = some 0
  · rw [if_pos ⟨exhausted, reset, cooldown⟩]
    exact Or.inl ⟨_, rfl, outlasts⟩
  · rw [if_neg fun armed => exhausted armed.1]
    refine Or.inr ⟨onDay exhausted, cooldown, reset, left, remaining, ?_, within⟩
    apply Nat.pos_of_ne_zero
    rintro rfl
    exact exhausted remaining

/-- Nothing expires while a row counts down. -/
theorem CountsDown.expireFeedback_eq (counts : state.CountsDown day limit) (now : Int) :
    state.expireFeedback now = state := by
  unfold expireFeedback expireReset
  rw [counts.reset, Option.any_none, if_neg Bool.false_ne_true]
  unfold expireCooldown
  rw [counts.cooldown, Option.any_none, if_neg Bool.false_ne_true]

/-- On its own day a row that counts down stays as it is. -/
theorem CountsDown.advanceDay_eq {wall : DateTime} (counts : state.CountsDown day limit)
    (today : wall.dateNaive = day) (advanced : state.advanceDay wall = .ok next) :
    next = state := by
  obtain ⟨saved, stored, ⟨_, rfl⟩ | ⟨earlier, rfl⟩⟩ := advanceDay_ok advanced
  · exact counts.expireFeedback_eq _
  · cases stored.symm.trans counts.day
    exact absurd today earlier.ne'

/-- An application of a report without a reset or a cooldown. -/
theorem applyFeedback_unbounded (unbounded : feedback.Unbounded)
    (applied : state.applyFeedback feedback now unobservedAttempts = .ok next) :
    next = ((state.expireFeedback now).applyAllowance feedback
      unobservedAttempts).ensureUnknownCooldown now := by
  have same : (state.expireFeedback now).applyCooldown feedback now =
      state.expireFeedback now := by
    unfold applyCooldown
    rw [unbounded.2]
    rfl
  rcases applyFeedback_ok applied with ⟨⟨reset, reported, _⟩, _⟩ | ⟨_, left⟩
  · rw [unbounded.1] at reported
    cases reported
  · rwa [same] at left

/-- An allowance without a reset leaves the reset. -/
theorem applyAllowance_reset (unbounded : feedback.Unbounded) :
    (state.applyAllowance feedback unobservedAttempts).providerResetAt = state.providerResetAt := by
  unfold applyAllowance
  rw [unbounded.1]
  rfl

/-- A report bounds what a row is left with. -/
theorem applyAllowance_le_reported {reported : Nat}
    (remaining : feedback.remaining = some reported) :
    ∃ left, (state.applyAllowance feedback unobservedAttempts).providerRemaining = some left ∧
      left ≤ reported := by
  unfold applyAllowance
  rw [remaining]
  cases state.providerRemaining with
  | none => exact ⟨_, rfl, Nat.sub_le _ _⟩
  | some old => exact ⟨_, rfl, min_le_right _ _⟩

/-- An allowance does not raise what is left. -/
theorem applyAllowance_le_stored {stored : Nat}
    (remaining : state.providerRemaining = some stored) :
    ∃ left, (state.applyAllowance feedback unobservedAttempts).providerRemaining = some left ∧
      left ≤ stored := by
  unfold applyAllowance
  rw [remaining]
  cases feedback.remaining with
  | none => exact ⟨_, rfl, le_refl _⟩
  | some reported => exact ⟨_, rfl, min_le_left _ _⟩

/-- The first report, on the day it is about unless it leaves nothing. -/
theorem bound_of_report {reported : Nat} (unbounded : feedback.Unbounded)
    (remaining : feedback.remaining = some reported)
    (cooldown : (state.expireFeedback now).cooldownUntil = none)
    (reset : (state.expireFeedback now).providerResetAt = none)
    (onDay : state.day = .ofDate day ∨
      ((state.expireFeedback now).applyAllowance feedback unobservedAttempts).providerRemaining =
        some 0)
    (outlasts : target ≤ saturatingAdd now 60000)
    (applied : state.applyFeedback feedback now unobservedAttempts = .ok next) :
    next.Bound day reported target := by
  rw [applyFeedback_unbounded unbounded applied]
  obtain ⟨left, recorded, within⟩ :=
    @applyAllowance_le_reported (state.expireFeedback now) feedback unobservedAttempts _ remaining
  refine bound_ensureUnknownCooldown ?_ cooldown ?_ recorded within outlasts
  · intro left
    exact (expireFeedback_day state now).trans (onDay.resolve_right left)
  · rw [applyAllowance_reset unbounded]
    exact reset

/-- A later report only lowers what is counted down. -/
theorem CountsDown.applyFeedback (counts : state.CountsDown day limit)
    (unbounded : feedback.Unbounded) (outlasts : target ≤ saturatingAdd now 60000)
    (applied : state.applyFeedback feedback now unobservedAttempts = .ok next) :
    next.Bound day limit target := by
  have same := counts.expireFeedback_eq now
  obtain ⟨stored, remaining, _, most⟩ := counts.remaining
  rw [applyFeedback_unbounded unbounded applied, same]
  obtain ⟨left, recorded, within⟩ :=
    @applyAllowance_le_stored state feedback unobservedAttempts _ remaining
  refine bound_ensureUnknownCooldown (fun _ => counts.day) counts.cooldown ?_ recorded
    (within.trans most) outlasts
  rw [applyAllowance_reset unbounded]
  exact counts.reset

/-- A reservation takes one from what is left. -/
theorem CountsDown.consume (counts : state.CountsDown day limit)
    (outlasts : target ≤ saturatingAdd now 60000) (consumed : state.consume now = .ok next) :
    ∃ left, next.Bound day left target ∧ left + 1 ≤ limit := by
  obtain ⟨stored, remaining, positive, most⟩ := counts.remaining
  unfold QuotaState.consume at consumed
  split at consumed
  · cases consumed
  · cases consumed
    refine ⟨stored - 1, ?_, by omega⟩
    refine bound_ensureUnknownCooldown (fun _ => counts.day) counts.cooldown counts.reset ?_
      (le_refl _) outlasts
    change state.providerRemaining.map _ = _
    rw [remaining]
    rfl

end QuotaState

/-! ### What a transaction leaves -/

section Transactions

variable {database next : Database} {group : QuotaGroup} {limits : QuotaLimits}
  {day now target : Int} {limit : Nat}

/-- A decision grants only from what is counted down. -/
theorem settle_bound {state stored : QuotaState} {before attempts left : List QuotaAttempt}
    {decision : QuotaDecision}
    (deciding : quotaDecision before group limits state now now = .ok decision)
    (settling : settle state attempts group limits now decision = .ok (stored, left))
    (bound : state.Bound day limit target) (early : now < target)
    (outlasts : target ≤ saturatingAdd now 60000) :
    ∃ rest, stored.Bound day rest target ∧ rest + (if decision.blocked then 0 else 1) ≤ limit := by
  rcases settle_ok settling with ⟨denied, rfl, _⟩ | ⟨permitted, consuming, _⟩
  · exact ⟨limit, bound, by simp [denied]⟩
  · rw [permitted]
    rcases bound with ⟨until_, cooldown, after⟩ | counts
    · have ended := (permits_of_granted deciding permitted).cooldown until_ cooldown
      exact absurd (early.trans_le after) (not_lt.mpr ended)
    · exact counts.consume outlasts consuming

/-- What is retained keeps the bound. -/
theorem applyPending_bound {state next : QuotaState} {pending : Option PendingFeedback}
    {unobservedAttempts : Nat} (bound : state.Bound day limit target)
    (unbounded : ∀ entry, pending = some entry → entry.feedback.Unbounded) (early : now < target)
    (outlasts : target ≤ saturatingAdd now 60000)
    (applying : applyPending state pending now unobservedAttempts = .ok next) :
    next.Bound day limit target := by
  rcases bound with held | counts
  · exact Or.inl ((heldUntil_applyPending applying (Or.inl held)).resolve_left (not_le.mpr early))
  · cases pending with
    | none =>
        cases applying
        exact Or.inr counts
    | some entry => exact counts.applyFeedback (unbounded entry rfl) outlasts applying

/-- A reservation on a day takes what it grants from what the row permits. -/
theorem reserveTransaction_bound {wall : DateTime} {pending : Option PendingFeedback}
    {decision : QuotaDecision}
    (reserved : reserveTransaction database group limits wall wall.timestampMillis pending =
      .ok (next, decision))
    (bound : (database.quotaState group).Bound day limit target)
    (unbounded : ∀ entry, pending = some entry → entry.feedback.Unbounded)
    (today : wall.dateNaive = day) (early : wall.timestampMillis < target)
    (outlasts : target ≤ saturatingAdd wall.timestampMillis 60000) :
    ∃ rest, (next.quotaState group).Bound day rest target ∧
      rest + (if decision.blocked then 0 else 1) ≤ limit := by
  obtain ⟨advanced, state, stored, attempts, advancing, applying, deciding, settling, rfl⟩ :=
    reserveTransaction_ok reserved
  have fresh : advanced.Bound day limit target := by
    rcases bound with held | counts
    · exact Or.inl ((QuotaState.heldUntil_advanceDay advancing held).resolve_left
        (not_le.mpr early))
    · rw [counts.advanceDay_eq today advancing]
      exact Or.inr counts
  simp only [Function.update_self]
  exact settle_bound deciding settling (applyPending_bound fresh unbounded early outlasts applying)
    early outlasts

/-- A committed report keeps the bound. -/
theorem feedbackTransaction_bound {pending : PendingFeedback}
    (applied : feedbackTransaction database group limits now pending = .ok next)
    (bound : (database.quotaState group).Bound day limit target)
    (unbounded : pending.feedback.Unbounded) (early : now < target)
    (outlasts : target ≤ saturatingAdd now 60000) :
    (next.quotaState group).Bound day limit target := by
  obtain ⟨stored, applying, rfl⟩ := feedbackTransaction_ok applied
  simp only [Function.update_self]
  rcases bound with held | counts
  · exact Or.inl ((QuotaState.heldUntil_applyFeedback applying held).resolve_left
      (not_le.mpr early))
  · exact counts.applyFeedback unbounded outlasts applying

end Transactions

/-! ### Runs inside the minute -/

/-- The reservations of a group in the minute from a time, on its UTC day. -/
def countInMinute (group : QuotaGroup) (start : Int) (reservations : List Reservation) : Nat :=
  reservations.countP (fun reservation => reservation.group = group ∧ start ≤ reservation.now ∧
    reservation.now < start + 60000 ∧ reservation.now / dayMillis = start / dayMillis)

/-- The minute, or its day, is over. -/
def MinuteOver (start now : Int) : Prop :=
  start + 60000 ≤ now ∨ start / dayMillis < now / dayMillis

/-- A minute that is over stays over. -/
theorem MinuteOver.mono {start now later : Int} (lapsed : MinuteOver start now)
    (onward : now ≤ later) : MinuteOver start later :=
  lapsed.imp onward.trans' fun past => past.trans_le (Int.ediv_le_ediv (by decide) onward)

/-- Inside the minute is before its end and on its day. -/
theorem of_not_minuteOver {start now : Int} (inside : ¬ MinuteOver start now)
    (started : start ≤ now) : now < start + 60000 ∧ now / dayMillis = start / dayMillis := by
  unfold MinuteOver at inside
  rw [not_or, not_le, not_lt] at inside
  exact ⟨inside.1, le_antisymm inside.2 (Int.ediv_le_ediv (by decide) started)⟩

/-- The reservations of two lists. -/
theorem countInMinute_append (group : QuotaGroup) (start : Int) (front back : List Reservation) :
    countInMinute group start (front ++ back) =
      countInMinute group start front + countInMinute group start back :=
  List.countP_append

/-- A decision reserves at most once. -/
theorem countInMinute_granted_le (group other : QuotaGroup) (start now : Int) (call : CallId)
    (decision : QuotaDecision) :
    countInMinute group start (committed (grantedReservation call other now decision)) ≤
      if decision.blocked then 0 else 1 := by
  rw [committed_grantedReservation]
  split
  · exact le_refl _
  · exact List.countP_le_length

/-- A decision of another group, or after the minute, does not count. -/
theorem countInMinute_granted_outside {group other : QuotaGroup} {start now : Int}
    (outside : other ≠ group ∨ MinuteOver start now) (call : CallId) (decision : QuotaDecision) :
    countInMinute group start (committed (grantedReservation call other now decision)) = 0 := by
  rw [committed_grantedReservation]
  split
  · rfl
  · apply List.countP_eq_zero.mpr
    intro reservation member
    obtain rfl := List.mem_singleton.mp member
    simp only [decide_eq_true_eq]
    rintro ⟨same, _, early, today⟩
    rcases outside with distinct | ended | passed
    · exact distinct same
    · exact absurd early (not_lt.mpr ended)
    · exact passed.ne' today

/-- The minute from a commit is over when a minute has passed since. -/
theorem le_saturatingAdd_minute {instant : DateTime} {now : Int}
    (started : instant.timestampMillis ≤ now) :
    instant.timestampMillis + 60000 ≤ saturatingAdd now 60000 := by
  rw [← saturatingAdd_window]
  exact saturatingAdd_mono started 60000

/-- The reservations of the minute, and what the row still permits in it, stay
within the report. -/
structure MinuteLeft (group : QuotaGroup) (limit : Nat) (start : Int)
    (reservations : List Reservation) (database : Database) : Prop where
  within : countInMinute group start reservations ≤ limit
  clock : start ≤ database.clockHighWater
  row : MinuteOver start database.clockHighWater ∨
    ∃ left, (database.quotaState group).Bound (start / dayMillis) left (start + 60000) ∧
      countInMinute group start reservations + left ≤ limit

/-- Reports committed for a group speak of no reset and no cooldown. -/
def OnlyUnbounded (group : QuotaGroup) (seen : List Event) : Prop :=
  ∀ feedback now, Event.feedbackCommitted group feedback now ∈ seen → feedback.Unbounded

/-- Two traces without resets. -/
theorem OnlyUnbounded.append {group : QuotaGroup} {front back : List Event}
    (unbounded : OnlyUnbounded group (front ++ back)) :
    OnlyUnbounded group front ∧ OnlyUnbounded group back :=
  ⟨fun feedback now member => unbounded feedback now (List.mem_append_left _ member),
    fun feedback now member => unbounded feedback now (List.mem_append_right _ member)⟩

variable {codec : PayloadCodec} {start world before after : World}
  {trace later emitted : List Event}

/-- What is left of the minute is an invariant of the accounts. -/
theorem minuteLeft_invariant (codec : PayloadCodec) (start : World) (group : QuotaGroup)
    (limit : Nat) (instant : DateTime) :
    AccountsInvariant codec start (fun seen database => OnlyUnbounded group seen →
      MinuteLeft group limit instant.timestampMillis (start.unanswered ++ committed seen)
        database) where
  kept := by
    intro seen emitted database next holds same quiet unbounded
    obtain ⟨within, clock, row⟩ := holds unbounded.append.1
    rw [committed_append, quiet, List.append_nil]
    refine ⟨within, ?_, ?_⟩
    · rwa [same.clockHighWater]
    · rwa [same.quotaState, same.clockHighWater]
  reserved := by
    intro seen database next session call provider snapshot decision _ ahead reserves holds
      unbounded
    obtain ⟨earlier, here⟩ := unbounded.append
    obtain ⟨within, clock, row⟩ := holds earlier
    have durable := (reserveTransaction_clockHighWater reserves).trans (max_eq_right ahead)
    have started := clock.trans ahead
    rw [committed_append, committed_append, committed_appliedFeedback, List.nil_append,
      ← List.append_assoc]
    by_cases outside : quotaGroup provider ≠ group ∨
        MinuteOver instant.timestampMillis snapshot.now
    · have none_ := countInMinute_granted_outside outside call decision
      refine ⟨?_, durable ▸ started, ?_⟩
      · rw [countInMinute_append, none_]
        exact within
      · rw [countInMinute_append, none_, durable]
        by_cases lapsed : MinuteOver instant.timestampMillis snapshot.now
        · exact Or.inl lapsed
        · have distinct := outside.resolve_right lapsed
          obtain ended | ⟨left, bound, fits⟩ := row
          · exact absurd (ended.mono ahead) lapsed
          · refine Or.inr ⟨left, ?_, fits⟩
            rw [reserveTransaction_of_ne (Ne.symm distinct) reserves]
            exact bound
    · rw [not_or, not_not] at outside
      obtain ⟨rfl, inside⟩ := outside
      obtain ended | ⟨left, bound, fits⟩ := row
      · exact absurd (ended.mono ahead) inside
      · obtain ⟨early, today⟩ := of_not_minuteOver inside started
        obtain ⟨rest, kept, spent⟩ := reserveTransaction_bound reserves bound
          (fun entry present => here _ snapshot.now (by simp [appliedFeedback, present]))
          (snapshot.wall.dateNaive_eq.trans today) early (le_saturatingAdd_minute started)
        have one := countInMinute_granted_le (quotaGroup provider) (quotaGroup provider)
          instant.timestampMillis snapshot.now call decision
        refine ⟨?_, durable ▸ started, Or.inr ⟨rest, kept, ?_⟩⟩
        · rw [countInMinute_append]
          omega
        · rw [countInMinute_append]
          omega
  applied := by
    intro seen database next session provider now pending _ ahead applies holds unbounded
    obtain ⟨earlier, here⟩ := unbounded.append
    obtain ⟨within, clock, row⟩ := holds earlier
    have durable := (feedbackTransaction_clockHighWater applies).trans (max_eq_right ahead)
    have started := clock.trans ahead
    rw [committed_append, committed_appliedFeedback, List.append_nil]
    refine ⟨within, durable ▸ started, ?_⟩
    rw [durable]
    by_cases lapsed : MinuteOver instant.timestampMillis now
    · exact Or.inl lapsed
    · obtain ended | ⟨left, bound, fits⟩ := row
      · exact absurd (ended.mono ahead) lapsed
      · refine Or.inr ⟨left, ?_, fits⟩
        by_cases same : quotaGroup provider = group
        · subst same
          exact feedbackTransaction_bound applies bound
            (here _ _ (List.mem_singleton.mpr rfl)) (of_not_minuteOver lapsed started).1
            (le_saturatingAdd_minute started)
        · rw [feedbackTransaction_of_ne (Ne.symm same) applies]
          exact bound

/-- What makes a report bind at its commit: a reserve brings the row to the day
first, a feedback finds it there, or nothing is left to count down. -/
inductive BindsAtCommit (database : Database) (session : Session) (provider : ProviderId)
    (remaining : Nat) (now : Int) : Prop
  | reserving {call : CallId} {asked : ProviderId} {snapshot : ReserveSnapshot}
      (held : session.gate = .reserving call asked snapshot)
  | today (day : (database.quotaState (quotaGroup provider)).day = .ofDate (now / dayMillis))
  | exhausted (none_ : remaining = 0)
  | unobserved
      (unknown : ((database.quotaState (quotaGroup provider)).expireFeedback
        now).providerRemaining = none)
      (fits : remaining ≤ (session.settings.limits provider).unobservedAttempts)

section Commit

variable {database next : Database} {session : Session} {provider : ProviderId}
  {feedback : QuotaFeedback} {instant : DateTime} {remaining : Nat}

/-- Expiry clears a cooldown that is over. -/
theorem QuotaState.expireFeedback_idle {state : QuotaState} {now : Int}
    (idle : ∀ target, state.cooldownUntil = some target → target ≤ now) :
    (state.expireFeedback now).cooldownUntil = none := by
  rw [expireFeedback_cooldownUntil, Option.filter_eq_none_iff]
  intro target held
  simpa using idle target held

/-- Expiry sets no reset. -/
theorem QuotaState.expireFeedback_noWindow {state : QuotaState} (now : Int)
    (noWindow : state.providerResetAt = none) :
    (state.expireFeedback now).providerResetAt = none := by
  rw [expireFeedback_providerResetAt, noWindow]
  rfl

/-- A new day or not, the row of a reserve is on the day of its reading. -/
theorem QuotaState.advanceDay_idle {state advanced : QuotaState} {wall : DateTime}
    (noWindow : state.providerResetAt = none)
    (idle : ∀ target, state.cooldownUntil = some target → target ≤ wall.timestampMillis)
    (advanced_ : state.advanceDay wall = .ok advanced) :
    advanced.day = .ofDate (wall.timestampMillis / dayMillis) ∧ advanced.cooldownUntil = none ∧
      advanced.providerResetAt = none := by
  rw [← wall.dateNaive_eq]
  obtain ⟨saved, day, ⟨rfl, rfl⟩ | ⟨_, rfl⟩⟩ := advanceDay_ok advanced_
  · exact ⟨(expireFeedback_day _ _).trans day, expireFeedback_idle idle,
      expireFeedback_noWindow _ noWindow⟩
  · exact ⟨expireFeedback_day _ _, expireFeedback_idle idle, expireFeedback_noWindow _ noWindow⟩

/-- The commit is on the day of the row. -/
theorem BindsAtCommit.onDay {call : CallId} {asked : ProviderId} {now : Int}
    {pending : PendingFeedback} (binds : BindsAtCommit database session provider remaining now)
    (held : session.gate = .applying call asked now pending)
    (reported : feedback.remaining = some remaining) :
    (database.quotaState (quotaGroup provider)).day = .ofDate (now / dayMillis) ∨
      (((database.quotaState (quotaGroup provider)).expireFeedback now).applyAllowance feedback
        (session.settings.limits provider).unobservedAttempts).providerRemaining = some 0 := by
  cases binds with
  | reserving other =>
      rw [held] at other
      cases other
  | today day => exact Or.inl day
  | exhausted none_ =>
      right
      obtain ⟨left, recorded, within⟩ := @QuotaState.applyAllowance_le_reported
        ((database.quotaState (quotaGroup provider)).expireFeedback now) feedback
        (session.settings.limits provider).unobservedAttempts _ reported
      rw [recorded, Nat.le_zero.mp (within.trans none_.le)]
  | unobserved unknown fits =>
      right
      simp only [QuotaState.applyAllowance, reported, unknown, Nat.sub_eq_zero_of_le fits]

/-- Feedback is committed at a reading of some clock. -/
theorem Step.commit_onClock {group : QuotaGroup} {now : Int}
    (taken : Step codec (.running database session) emitted after)
    (clocked : (World.running database session).Clocked)
    (onClock : (World.running database session).OnClock)
    (saved : Event.feedbackCommitted group feedback now ∈ emitted) :
    ∃ instant : DateTime, now = instant.timestampMillis := by
  rcases taken.of_feedbackCommitted saved with
    ⟨_, _, _, _, _, snapshot, _, _, _, _, _, _, _, _, _, time⟩ |
    ⟨_, _, _, _, _, _, same, held, _⟩
  · exact ⟨snapshot.wall, time⟩
  · cases same
    obtain ⟨_, gate⟩ := clocked
    obtain ⟨instant, reading⟩ := onClock
    rw [held] at gate
    exact ⟨instant, gate.2.symm.trans reading⟩

/-- The commit of a report that binds leaves it in the row, less the attempt of
the reserve that committed it. -/
theorem minuteLeft_of_commit
    (taken : Step codec (.running database session) emitted after)
    (saved : Event.feedbackCommitted (quotaGroup provider) feedback instant.timestampMillis ∈
      emitted)
    (reported : feedback.remaining = some remaining) (unbounded : feedback.Unbounded)
    (noWindow : (database.quotaState (quotaGroup provider)).providerResetAt = none)
    (idle : ∀ target, (database.quotaState (quotaGroup provider)).cooldownUntil = some target →
      target ≤ instant.timestampMillis)
    (binds : BindsAtCommit database session provider remaining instant.timestampMillis) :
    ∃ next following, after = .running next following ∧
      MinuteLeft (quotaGroup provider) remaining instant.timestampMillis after.unanswered next := by
  have outlasts := le_saturatingAdd_minute (le_refl instant.timestampMillis)
  have early : instant.timestampMillis < instant.timestampMillis + 60000 := by omega
  rcases taken.of_feedbackCommitted saved with
    ⟨_, next, _, call, asked, snapshot, decision, entry, same, held, reserves, rfl, present,
      group, rfl, time⟩ |
    ⟨_, next, _, call, asked, pending, same, held, applies, rfl, group, rfl⟩
  · cases same
    cases quotaGroup_injective group
    rw [time] at idle early outlasts ⊢
    obtain ⟨advanced, state, stored, attempts, advancing, applying, deciding, settling, rfl⟩ :=
      reserveTransaction_ok reserves
    obtain ⟨day, cooldown, reset⟩ := QuotaState.advanceDay_idle noWindow idle advancing
    have cooled : ∀ target, advanced.cooldownUntil = some target → target ≤ snapshot.now :=
      fun target held => absurd (cooldown.symm.trans held) nofun
    rw [present] at applying
    have bound := QuotaState.bound_of_report unbounded reported
      (QuotaState.expireFeedback_idle cooled) (QuotaState.expireFeedback_noWindow _ reset)
      (Or.inl day) outlasts applying
    obtain ⟨rest, kept, spent⟩ := settle_bound deciding settling bound early outlasts
    have one := countInMinute_granted_le (quotaGroup provider) (quotaGroup provider) snapshot.now
      snapshot.now call decision
    refine ⟨_, _, rfl, ?_⟩
    rw [unanswered_reserved]
    refine ⟨by omega, le_max_right _ _, Or.inr ⟨rest, ?_, by omega⟩⟩
    simp only [Function.update_self]
    exact kept
  · cases same
    cases quotaGroup_injective group
    obtain ⟨stored, applying, rfl⟩ := feedbackTransaction_ok applies
    have bound := QuotaState.bound_of_report unbounded reported
      (QuotaState.expireFeedback_idle idle) (QuotaState.expireFeedback_noWindow _ noWindow)
      (binds.onDay held reported) outlasts applying
    refine ⟨_, _, rfl, Nat.zero_le _, le_max_right _ _, Or.inr ⟨remaining, ?_, ?_⟩⟩
    · simpa using bound
    · exact (Nat.zero_add _).le

end Commit

/-- **Reports without a reset bind for a minute.** A report of `remaining`
attempts without a reset or a cooldown, committed on a row that has no window
and no active cooldown and that it binds, permits at most `remaining` granted
reservations in the minute from its commit on the same UTC day, as long as every
report committed later speaks of no reset and no cooldown either. -/
theorem granted_in_minute {file : Option Database} {database : Database} {session : Session}
    {provider : ProviderId} {feedback : QuotaFeedback} {now : Int} {remaining : Nat}
    (reachable : Run (Step codec) (.closed file) trace (.running database session))
    (taken : Step codec (.running database session) emitted after)
    (saved : Event.feedbackCommitted (quotaGroup provider) feedback now ∈ emitted)
    (reported : feedback.remaining = some remaining) (unbounded : feedback.Unbounded)
    (noWindow : (database.quotaState (quotaGroup provider)).providerResetAt = none)
    (idle : ∀ target, (database.quotaState (quotaGroup provider)).cooldownUntil = some target →
      target ≤ now)
    (binds : BindsAtCommit database session provider remaining now)
    (run : Run (Step codec) after later world)
    (quiet : OnlyUnbounded (quotaGroup provider) later) :
    countInMinute (quotaGroup provider) now (granted later) ≤ remaining := by
  have clocked := clocked_run reachable trivial
  obtain ⟨instant, rfl⟩ := taken.commit_onClock clocked
    (reachable.stateInvariant World.OnClock trivial fun _ _ _ before step => step.onClock before)
    saved
  obtain ⟨next, following, rfl, initial⟩ :=
    minuteLeft_of_commit taken saved reported unbounded noWindow idle binds
  obtain ⟨reservations, current, inside, left⟩ := @granted_of_accounts _ _ _
    (fun seen reservations database => OnlyUnbounded (quotaGroup provider) seen →
      MinuteLeft (quotaGroup provider) remaining instant.timestampMillis reservations database)
    _ _ (minuteLeft_invariant codec _ (quotaGroup provider) remaining instant)
    (taken.clocked clocked) (fun _ => initial) run
  exact inside.countP_le.trans (left quiet).within

/-- One attempt is left, for how long is not told. -/
def QuotaFeedback.lastOne : QuotaFeedback where
  cooldownUntil := none
  unknownReset := false
  remaining := some 1
  resetAt := none

/-- The last one is reported without a reset. -/
theorem QuotaFeedback.lastOne_unbounded : QuotaFeedback.lastOne.Unbounded := ⟨rfl, rfl⟩

/-- A report at a reading, in a file opened at the epoch. -/
def firstReported (settings : Settings) (feedback : QuotaFeedback) (wall : DateTime) : Alone :=
  aloneFeedback wall (.create .epoch) (.fresh settings 0) .abuseipdb feedback

/-- A first start at the epoch. -/
theorem opened_atEpoch (settings : Settings) :
    Step .blank (.closed none) [.opened settings .epoch 0]
      (.running (.create .epoch) (.fresh settings 0)) :=
  @Step.opened .blank none settings .epoch .epoch _ _ rfl

/-- Calls that follow the report, as a run from its commit. -/
theorem firstReported_run (settings : Settings) (feedback : QuotaFeedback) (wall : DateTime)
    (operations : List (Operation × DateTime)) {next : Database}
    (applies : feedbackTransaction (.create .epoch) .abuseipdbCheck settings.abuseipdbLimits
      (max 0 wall.timestampMillis) { generation := 1, feedback } = .ok next) :
    ∃ trace session after world,
      Run (Step .blank) (.closed none) trace (.running (.create .epoch) session) ∧
      session.settings = settings ∧
      Step .blank (.running (.create .epoch) session)
        [.feedbackCommitted .abuseipdbCheck feedback (max 0 wall.timestampMillis)] after ∧
      Run (Step .blank) after
        (performAll .blank operations (firstReported settings feedback wall).world).events
        world := by
  obtain ⟨during, after, earlier, taken, same, rest⟩ :=
    @aloneFeedback_commit (.create .epoch) (.fresh settings 0) .blank wall next
      .abuseipdb feedback rfl rfl applies
  have free := (@aloneFeedback_runs (.create .epoch) (.fresh settings 0) .blank wall rfl
    .abuseipdb feedback).free
  have later := (@performAll_runs .blank operations _ free).1
  exact ⟨_, during, after, _, (Run.single (opened_atEpoch settings)).append earlier, same, taken,
    rest.append later⟩

/-- A reserve at the report, and its answer. -/
def lastOneReserved : List Event :=
  [.callStarted 1 (.reserve .abuseipdb), .reservationCommitted 1 .abuseipdbCheck 0,
    .reserveReturned 1 .abuseipdb .epoch (.ok ())]

/-- After a report of the last one, at most one reserve is granted in the minute. -/
theorem granted_in_minute_last : countInMinute .abuseipdbCheck 0 (granted lastOneReserved) ≤ 1 := by
  obtain ⟨trace, session, after, world, reachable, _, taken, run⟩ :=
    @firstReported_run twoAttemptSettings .lastOne .epoch [(.reserve .abuseipdb, .epoch)] _ rfl
  have run : Run (Step .blank) after lastOneReserved world := run
  refine @granted_in_minute _ _ _ _ _ _ none _ _ .abuseipdb _ 0 1 reachable taken
    (List.mem_singleton.mpr rfl) rfl QuotaFeedback.lastOne_unbounded rfl (fun _ => nofun)
    (.today rfl) run ?_
  intro feedback now member
  simp [lastOneReserved] at member

/-- A day after the epoch. -/
def dayAfter : DateTime := ⟨86400000000000, by decide, by decide⟩

/-- Two reserves at the report, and their answers. -/
def bothReserved : List Event :=
  [.callStarted 1 (.reserve .abuseipdb), .reservationCommitted 1 .abuseipdbCheck 86400000,
    .reserveReturned 1 .abuseipdb dayAfter (.ok ()),
    .callStarted 2 (.reserve .abuseipdb), .reservationCommitted 2 .abuseipdbCheck 86400000,
    .reserveReturned 2 .abuseipdb dayAfter (.ok ())]

/-- A report of the first attempt of a day, committed to the row of the day
before, is forgotten by the first reserve of the day. -/
theorem granted_in_minute_newDay :
    ¬ ∀ (codec : PayloadCodec) (file : Option Database) (trace emitted later : List Event)
        (database : Database) (session : Session) (after world : World) (provider : ProviderId)
        (feedback : QuotaFeedback) (now : Int) (remaining : Nat),
      Run (Step codec) (.closed file) trace (.running database session) →
      Step codec (.running database session) emitted after →
      Event.feedbackCommitted (quotaGroup provider) feedback now ∈ emitted →
      feedback.remaining = some remaining → feedback.Unbounded →
      (database.quotaState (quotaGroup provider)).providerResetAt = none →
      (∀ target, (database.quotaState (quotaGroup provider)).cooldownUntil = some target →
        target ≤ now) →
      Run (Step codec) after later world →
      OnlyUnbounded (quotaGroup provider) later →
      countInMinute (quotaGroup provider) now (granted later) ≤ remaining := by
  intro claim
  obtain ⟨trace, session, after, world, reachable, _, taken, run⟩ :=
    @firstReported_run twoAttemptSettings .lastOne dayAfter
      [(.reserve .abuseipdb, dayAfter), (.reserve .abuseipdb, dayAfter)] _ rfl
  have run : Run (Step .blank) after bothReserved world := run
  have quiet : OnlyUnbounded .abuseipdbCheck bothReserved := by
    intro feedback now member
    simp [bothReserved] at member
  have most := claim .blank none trace _ bothReserved _ session after world .abuseipdb _ 86400000 1
    reachable taken (List.mem_singleton.mpr rfl) rfl QuotaFeedback.lastOne_unbounded rfl
    (fun _ => nofun) run quiet
  exact absurd most (by decide)

end RustEnrich.Storage
