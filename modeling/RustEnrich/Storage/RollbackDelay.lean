import RustEnrich.Storage.RetryDelay

/-!
# The delay of a denial

`reserve` and `retry_after` work out the delay apart. They agree wherever the
wall clock has caught up with the effective one. Behind it `reserve` answers
before it reads the row, with the wait for the clock alone.
-/

namespace RustEnrich.Storage

open Transitions

/-- A denial carries the delay that `retry_after` advises. -/
def DelaysAgree (database : Database) (session : Session) (provider : ProviderId)
    (wall : DateTime) : Prop :=
  ∀ advice, reserveAlone database session provider wall = .error (.limited advice) →
    retryAfterAlone database session provider wall = .ok advice

/-- The row both operations decide on, up to date and with the retained feedback
applied. -/
def currentState (database : Database) (session : Session) (provider : ProviderId)
    (instant : DateTime) : Except StorageError QuotaState := do
  let advanced ← (database.quotaState (quotaGroup provider)).advanceDay instant
  applyPending advanced (session.runtime.pending (quotaGroup provider)) instant.timestampMillis
    (session.settings.limits provider).unobservedAttempts

/-- With the clock behind, nothing else restricts the group for longer: the row
can be read, every end is known, and none takes longer than the clock. -/
def RollbackLongest (database : Database) (session : Session) (provider : ProviderId)
    (wall : DateTime) : Prop :=
  ∃ instant state, instant.timestampMillis = session.runtime.highWater ∧
    currentState database session provider instant = .ok state ∧
    ((session.settings.limits provider).day ≤ state.dailyConsumed →
      instant.dateNaive + 1 ≤ NaiveDate.max) ∧
    ∀ ending ∈ restrictions database.quotaAttempts (quotaGroup provider)
        (session.settings.limits provider) state instant.timestampMillis wall.timestampMillis,
      ∃ target, ending = some target ∧ delaySeconds target wall.timestampMillis ≤
        delaySeconds instant.timestampMillis wall.timestampMillis

variable {codec : PayloadCodec}

/-- The two operations read the day of an instant and its milliseconds only. -/
theorem QuotaState.advanceDay_congr {left right : DateTime}
    (same : left.timestampMillis = right.timestampMillis) (state : QuotaState) :
    state.advanceDay left = state.advanceDay right := by
  unfold QuotaState.advanceDay
  rw [same, DateTime.dateNaive_congr same]

/-- The row is advanced to the millisecond of a reading. -/
theorem currentState_congr {database : Database} {session : Session} {provider : ProviderId}
    {left right : DateTime} (same : left.timestampMillis = right.timestampMillis) :
    currentState database session provider left = currentState database session provider right := by
  unfold currentState
  rw [QuotaState.advanceDay_congr same, same]

/-- Pruning first makes no difference to a decision. -/
theorem quotaDecision_pruneAttempts (attempts : List QuotaAttempt) (group : QuotaGroup)
    (limits : QuotaLimits) (state : QuotaState) (now actualNow : Int) :
    quotaDecision (pruneAttempts attempts group (saturatingSub now 60000)) group limits state now
        actualNow = quotaDecision attempts group limits state now actualNow := by
  unfold quotaDecision Verdict.checkMinute
  rw [recentAttempts_pruneAttempts]

/-- The decision of `retry_after`, on the current row. -/
theorem retryAfterAlone_eq {database : Database} {session : Session} {provider : ProviderId}
    {wall instant : DateTime}
    (effective : instant.timestampMillis = (session.runtime.observe wall).highWater) :
    retryAfterAlone database session provider wall = (do
      let state ← currentState database session provider instant
      let decision ← quotaDecision database.quotaAttempts (quotaGroup provider)
        (session.settings.limits provider) state instant.timestampMillis wall.timestampMillis
      return decision.retryAfter) := by
  obtain ⟨reading, converted, same⟩ := instant.fromTimestampMillis_self
  unfold retryAfterAlone retryAfterTransaction
  rw [← effective, converted, ← currentState_congr same]
  unfold currentState
  rw [same, bind_assoc]

/-- A limited answer advises what was decided. -/
theorem reserveAnswer_limited {runtime : RuntimeState} {group : QuotaGroup}
    {decision : QuotaDecision} {advice : Option Nat}
    (denied : reserveAnswer runtime group decision = .error (.limited advice)) :
    decision.retryAfter = advice := by
  unfold reserveAnswer at denied
  split at denied
  · cases denied
  · split at denied
    · cases denied
      rfl
    · cases denied

/-- Caught up, the two decide on the same row at the same time. -/
theorem delaysAgree_of_caughtUp {database : Database} {session : Session} {provider : ProviderId}
    {wall : DateTime} (caughtUp : session.runtime.highWater ≤ wall.timestampMillis) :
    DelaysAgree database session provider wall := by
  intro advice denied
  have effective : wall.timestampMillis = (session.runtime.observe wall).highWater :=
    (max_eq_right caughtUp).symm
  rw [retryAfterAlone_eq effective]
  unfold reserveAlone at denied
  dsimp only at denied
  rw [← effective, if_neg (lt_irrefl _)] at denied
  split at denied
  · cases denied
  · rename_i next decision reserves
    obtain ⟨advanced, state, _, _, advancing, applying, deciding, _⟩ :=
      reserveTransaction_ok reserves
    rw [quotaDecision_pruneAttempts] at deciding
    unfold currentState
    simp only [bind, Except.bind, pure, Except.pure, advancing, applying, deciding,
      reserveAnswer_limited denied]

/-- Behind, `reserve` reports the wait for the clock. -/
theorem reserveAlone_behind {database : Database} {session : Session} {provider : ProviderId}
    {wall : DateTime} (behind : wall.timestampMillis < session.runtime.highWater) :
    reserveAlone database session provider wall = .error (.limited (some
      (delaySeconds session.runtime.highWater wall.timestampMillis))) := by
  have effective : (session.runtime.observe wall).highWater = session.runtime.highWater :=
    max_eq_left behind.le
  unfold reserveAlone
  simp only [effective, behind, ↓reduceIte]

/-- And `retry_after` advises no more exactly when nothing else takes longer. -/
theorem delaysAgree_of_behind {database : Database} {session : Session} {provider : ProviderId}
    {wall instant : DateTime} (effective : session.runtime.highWater = instant.timestampMillis)
    (behind : wall.timestampMillis < session.runtime.highWater) :
    DelaysAgree database session provider wall ↔
      RollbackLongest database session provider wall := by
  have observed : instant.timestampMillis = (session.runtime.observe wall).highWater :=
    effective.symm.trans (max_eq_left behind.le).symm
  have late : wall.timestampMillis ≤ instant.timestampMillis := (effective ▸ behind).le
  have agree : DelaysAgree database session provider wall ↔
      retryAfterAlone database session provider wall =
        .ok (some (delaySeconds instant.timestampMillis wall.timestampMillis)) := by
    unfold DelaysAgree
    rw [reserveAlone_behind behind, effective]
    constructor
    · exact fun all => all _ rfl
    · rintro advised _ ⟨⟩
      exact advised
  have waits : some instant.timestampMillis ∈ clockRestrictions instant.timestampMillis
      wall.timestampMillis := by
    unfold clockRestrictions
    rw [if_pos (effective ▸ behind)]
    exact List.mem_singleton_self _
  rw [agree, retryAfterAlone_eq observed]
  constructor
  · intro advised
    simp only [bind, Except.bind, pure, Except.pure] at advised
    split at advised
    · cases advised
    rename_i state current
    split at advised
    · cases advised
    rename_i decision deciding
    have tomorrow := tomorrow_of_quotaDecision deciding
    obtain ⟨_, decides, _, advises⟩ := quotaDecision_spec database.quotaAttempts
      (quotaGroup provider) (session.settings.limits provider) state instant late tomorrow
    cases deciding.symm.trans decides
    have longest := (advises _).mp (Except.ok.inj advised)
    refine ⟨instant, state, effective.symm, current, tomorrow, ?_⟩
    intro ending inside
    cases ending with
    | none => exact absurd inside longest.known
    | some target => exact ⟨target, rfl, longest.covers target inside⟩
  · rintro ⟨reading, state, same, current, tomorrow, shorter⟩
    rw [effective] at same
    rw [same] at shorter
    rw [currentState_congr same] at current
    rw [DateTime.dateNaive_congr same] at tomorrow
    obtain ⟨decision, deciding, _, advises⟩ := quotaDecision_spec database.quotaAttempts
      (quotaGroup provider) (session.settings.limits provider) state instant late tomorrow
    simp only [bind, Except.bind, pure, Except.pure, current, deciding]
    refine congrArg Except.ok ((advises _).mpr ⟨?_, ?_, ?_⟩)
    · intro missing
      obtain ⟨target, absurd_, _⟩ := shorter none missing
      cases absurd_
    · intro target inside
      obtain ⟨_, equal, bound⟩ := shorter (some target) inside
      cases equal
      exact bound
    · refine ⟨instant.timestampMillis, ?_, rfl⟩
      simp only [restrictions, List.mem_append]
      exact Or.inl (Or.inl (Or.inl (Or.inl waits)))

/-- **When the two delays agree.** In every state a run reaches, a denial carries
the delay that `retry_after` advises exactly when the wall clock has caught up,
or nothing else restricts the group for longer than the clock is behind. -/
theorem delaysAgree_iff {trace : List Event} {database : Database} {session : Session}
    (run : Run (Step codec) (.closed none) trace (.running database session))
    (provider : ProviderId) (wall : DateTime) :
    DelaysAgree database session provider wall ↔
      session.runtime.highWater ≤ wall.timestampMillis ∨
        RollbackLongest database session provider wall := by
  obtain ⟨instant, effective⟩ := (sound_run run World.sound_closed).onClock
  by_cases behind : wall.timestampMillis < session.runtime.highWater
  · rw [delaysAgree_of_behind effective behind]
    exact ⟨Or.inr, fun either => either.resolve_left (not_le.mpr behind)⟩
  · have caughtUp := not_lt.mp behind
    exact ⟨fun _ => Or.inl caughtUp, fun _ => delaysAgree_of_caughtUp caughtUp⟩

/-- A session that has spent the only attempt of its day an hour after midnight. It tells
the wait for the next one, and an hour's rollback makes the denial promise that hour. -/
theorem spent_run :
    ∃ trace database session, Run (Step .blank) (.closed none) trace (.running database session) ∧
      session.runtime.highWater = 3600000 ∧
      reserveAlone database session .abuseipdb hourAfter = .error (.limited (some 82800)) ∧
      reserveAlone database session .abuseipdb .epoch = .error (.limited (some 3600)) ∧
      retryAfterAlone database session .abuseipdb .epoch = .ok (some 86400) := by
  have opens : Step .blank (.closed none) [.opened .single hourAfter 3600000]
      (.running (.create hourAfter) (.fresh .single 3600000)) :=
    @Step.opened .blank none .single hourAfter hourAfter _ _ rfl
  have run := Run.single opens
  have run := run.snoc (.started (.reserve .abuseipdb) (fun _ => nofun) trivial)
  have run := run.snoc (.reserveSnapshot hourAfter rfl (List.nil_append _).symm (by decide))
  have run := run.snoc (.reserveCommitted rfl rfl)
  have run := run.snoc (.reserveCleared rfl)
  have run := run.snoc (.reserveReturned rfl)
  exact ⟨_, _, _, run, rfl, rfl, rfl, rfl⟩

/-- Rolled back by that hour, the denial and the advice differ. -/
theorem delaysAgree_rolledBack :
    ¬ ∀ trace database session,
      Run (Step .blank) (.closed none) trace (.running database session) →
        ∀ provider wall, DelaysAgree database session provider wall := by
  intro agree
  obtain ⟨trace, database, session, run, _, _, denied, advised⟩ := spent_run
  have same := agree _ _ _ run .abuseipdb .epoch (some 3600) denied
  rw [advised] at same
  cases same

/-- At its own reading the denial is advised, and behind it the day restricts for longer
than the clock. -/
theorem delaysAgree_iff_spent :
    ∃ database session,
      reserveAlone database session .abuseipdb hourAfter = .error (.limited (some 82800)) ∧
      retryAfterAlone database session .abuseipdb hourAfter = .ok (some 82800) ∧
      ¬ RollbackLongest database session .abuseipdb .epoch := by
  obtain ⟨trace, database, session, run, clock, denied, behind, advised⟩ := spent_run
  refine ⟨database, session, denied, ?_, fun longest => ?_⟩
  · have caughtUp : session.runtime.highWater ≤ hourAfter.timestampMillis := by
      rw [clock]
      decide
    exact (delaysAgree_iff run .abuseipdb hourAfter).mpr (Or.inl caughtUp) _ denied
  · have same := (delaysAgree_iff run .abuseipdb .epoch).mpr (Or.inr longest) _ behind
    rw [advised] at same
    cases same

end RustEnrich.Storage
