import RustEnrich.Storage.Reservations
import RustEnrich.Collections.PrunedLog

/-!
# The rolling minute

No minute of granted reservations exceeds the cap. The attempts table forgets
everything older than a minute before the durable clock, and a decision is
taken no earlier than that clock, so the table still counts every reservation
the decision has to see.
-/

namespace RustEnrich.Storage

open Transitions

/-- The rolling window of the minute cap, in milliseconds. -/
def minuteMillis : Int := 60000

/-- The times of the attempts of a group. -/
def attemptTimes (group : QuotaGroup) (attempts : List QuotaAttempt) : List Int :=
  (attempts.filter (fun row => row.quotaGroup = group)).map QuotaAttempt.reservedAt

variable {codec : PayloadCodec} {world : World} {trace emitted : List Event}
  {file : Option Database}

/-- The reservations of a minute are after its start. -/
theorem countWithin_le (group : QuotaGroup) (after upTo : Int)
    (reservations : List Reservation) :
    countWithin group after upTo reservations ≤
      PrunedLog.countAfter after (reservationTimes group reservations) := by
  unfold countWithin PrunedLog.countAfter reservationTimes
  rw [List.countP_map, List.countP_filter]
  apply List.countP_mono_left
  intro reservation _ inside
  simp only [decide_eq_true_eq] at inside
  simp [inside.1, inside.2.1]

/-- Pruning the attempts of a group prunes their times. -/
theorem attemptTimes_pruneAttempts (group : QuotaGroup) (attempts : List QuotaAttempt)
    (upTo : Int) :
    attemptTimes group (pruneAttempts attempts group upTo) =
      PrunedLog.prune upTo (attemptTimes group attempts) := by
  unfold attemptTimes pruneAttempts PrunedLog.prune
  rw [List.filter_map, List.filter_filter, List.filter_filter]
  congr 1
  apply List.filter_congr
  intro row _
  by_cases same : row.quotaGroup = group
  · simp [same]
  · simp [same]

/-- Pruning leaves the times of the other group. -/
theorem attemptTimes_pruneAttempts_of_ne {group other : QuotaGroup} (distinct : other ≠ group)
    (attempts : List QuotaAttempt) (upTo : Int) :
    attemptTimes group (pruneAttempts attempts other upTo) = attemptTimes group attempts := by
  unfold attemptTimes pruneAttempts
  rw [List.filter_filter]
  congr 1
  apply List.filter_congr
  intro row _
  by_cases same : row.quotaGroup = group
  · simp [same, distinct.symm]
  · simp [same]

/-- The recent attempts are those after the horizon. -/
theorem length_recentAttempts (attempts : List QuotaAttempt) (group : QuotaGroup)
    (after : Int) :
    (Verdict.recentAttempts attempts group after).length =
      PrunedLog.countAfter after (attemptTimes group attempts) := by
  unfold Verdict.recentAttempts PrunedLog.countAfter attemptTimes
  rw [List.length_insertionSort, List.length_map, List.countP_map, List.countP_filter,
    List.countP_eq_length_filter]
  congr 1
  apply List.filter_congr
  intro row _
  simp [Bool.and_comm]

/-- Under a cap, a settled decision logs exactly what it commits. -/
theorem attemptTimes_settle {state stored : QuotaState} {attempts left : List QuotaAttempt}
    {group : QuotaGroup} {limits : QuotaLimits} {now : Int} {decision : QuotaDecision}
    (capped : 0 < limits.minute)
    (settled : settle state attempts group limits now decision = .ok (stored, left))
    (call : CallId) :
    attemptTimes group left = attemptTimes group attempts ++ reservationTimes group
      (committed (grantedReservation call group now decision)) := by
  rw [committed_grantedReservation]
  rcases settle_ok settled with ⟨denied, _, rfl⟩ | ⟨permitted, _, rfl⟩
  · simp [denied, reservationTimes]
  · rw [if_pos capped]
    simp [permitted, attemptTimes, reservationTimes]

/-- A decision leaves the times of the other group. -/
theorem attemptTimes_settle_of_ne {state stored : QuotaState}
    {attempts left : List QuotaAttempt} {group other : QuotaGroup} {limits : QuotaLimits}
    {now : Int} {decision : QuotaDecision} (distinct : other ≠ group)
    (settled : settle state attempts other limits now decision = .ok (stored, left)) :
    attemptTimes group left = attemptTimes group attempts := by
  rcases settle_ok settled with ⟨_, _, rfl⟩ | ⟨_, _, rfl⟩
  · rfl
  · split <;> simp [attemptTimes, distinct]

/-- While every session so far had a minute cap, the table misses no
reservation of the minute before the durable clock. -/
def MinuteCovered (provider : ProviderId) (seen : List Event) (database : Database) : Prop :=
  (∀ settings wall effective, Event.opened settings wall effective ∈ seen →
      0 < (settings.limits provider).minute) →
    PrunedLog.Covers (database.clockHighWater - minuteMillis)
      (reservationTimes (quotaGroup provider) (committed seen))
      (attemptTimes (quotaGroup provider) database.quotaAttempts)

/-- The session of a running storage was opened in its trace. -/
theorem opened_of_running (run : Run (Step codec) (.closed file) trace world) :
    ∀ {database session}, world = .running database session →
      ∃ wall effective, Event.opened session.settings wall effective ∈ trace := by
  induction run with
  | refl => intro database session holds; cases holds
  | @snoc seen emitted before after _ taken ih =>
      intro database session holds
      have earlier : ∀ {old} {previous : Session}, before = .running old previous →
          previous.settings = session.settings →
          ∃ wall effective, Event.opened session.settings wall effective ∈ seen ++ emitted := by
        intro old previous running same
        obtain ⟨wall, effective, opened⟩ := ih running
        exact ⟨wall, effective, List.mem_append_left _ (same ▸ opened)⟩
      cases taken with
      | migrated now => cases holds
      | openTimedOut reconciled => cases holds
      | closed => cases holds
      | opened reconciled =>
          cases holds
          exact ⟨_, _, List.mem_append_right _ (List.mem_singleton.mpr rfl)⟩
      | _ => cases holds; exact earlier rfl rfl

/-- The rows cover the last minute, as an invariant of the accounts. -/
theorem minuteCovered_invariant (codec : PayloadCodec) (file : Option Database)
    (provider : ProviderId) :
    AccountsInvariant codec (.closed file) (MinuteCovered provider) where
  kept := by
    intro seen emitted database next covered same quiet capped
    rw [same.clockHighWater, same.quotaAttempts, committed_append, quiet, List.append_nil]
    exact covered fun settings wall effective member =>
      capped settings wall effective (List.mem_append_left _ member)
  reserved := by
    intro seen database next session call asking snapshot decision run ahead reserves covered
      capped
    have before := covered fun settings wall effective member =>
      capped settings wall effective (List.mem_append_left _ member)
    obtain ⟨_, _, _, left, _, _, _, settling, rfl⟩ := reserveTransaction_ok reserves
    simp only [max_eq_right ahead, committed_append, committed_appliedFeedback, List.nil_append,
      reservationTimes_append]
    by_cases same : asking = provider
    · subst same
      obtain ⟨wall, effective, opened⟩ := opened_of_running run rfl
      have positive := capped _ wall effective (List.mem_append_left _ opened)
      rw [attemptTimes_settle positive settling call, attemptTimes_pruneAttempts]
      refine PrunedLog.Covers.append ?_ _
      have window : saturatingSub snapshot.now 60000 = snapshot.now - minuteMillis :=
        saturatingSub_window
      rw [window]
      exact before.prune (Int.sub_le_sub_right ahead _)
    · have distinct : quotaGroup asking ≠ quotaGroup provider := fun equal =>
        same (quotaGroup_injective equal)
      rw [attemptTimes_settle_of_ne distinct settling,
        attemptTimes_pruneAttempts_of_ne distinct, reservationTimes_granted_of_ne distinct,
        List.append_nil]
      exact before.later (Int.sub_le_sub_right ahead _)
  applied := by
    intro seen database next session asking now pending _ ahead applies covered capped
    have before := covered fun settings wall effective member =>
      capped settings wall effective (List.mem_append_left _ member)
    obtain ⟨_, _, rfl⟩ := feedbackTransaction_ok applies
    simp only [max_eq_right ahead, committed_append, committed_appliedFeedback, List.append_nil]
    exact before.later (Int.sub_le_sub_right ahead _)

/-- After a run the rows cover the last minute. -/
theorem minuteCovered (run : Run (Step codec) (.closed file) trace world)
    (provider : ProviderId) {database : Database} (stored : world.database = some database) :
    MinuteCovered provider trace database :=
  (minuteCovered_invariant codec file provider).run run trivial
    (fun _ _ _ => PrunedLog.Covers.nil _ _) (fun _ _ _ => PrunedLog.Covers.nil _ _) stored

/-- A reservation is only committed where the minute before it has room. -/
theorem committed_minute {settings : Settings} {call : CallId} {provider : ProviderId}
    {snapshot : ReserveSnapshot} {decision : QuotaDecision}
    (capped : ∀ settings wall effective, Event.opened settings wall effective ∈ trace →
      0 < (settings.limits provider).minute)
    (origin : CommittedAs codec (.closed file) trace settings call provider snapshot decision)
    (permitted : decision.blocked = false) :
    PrunedLog.countAfter (snapshot.now - minuteMillis)
      (reservationTimes (quotaGroup provider) (committed trace)) ≤
        (settings.limits provider).minute := by
  obtain ⟨front, back, database, next, session, rfl, run, rfl, held, reserves, quiet⟩ := origin
  have covered := minuteCovered run provider rfl fun settings wall effective member =>
    capped settings wall effective
      (List.mem_append_left _ (List.mem_append_left _ member))
  obtain ⟨wall, effective, opened⟩ := opened_of_running run rfl
  have positive := capped _ wall effective
    (List.mem_append_left _ (List.mem_append_left _ opened))
  obtain ⟨_, gate⟩ := clocked_run run trivial
  rw [held] at gate
  obtain ⟨_, _, _, _, _, _, deciding, _, _⟩ := reserveTransaction_ok reserves
  have window : saturatingSub snapshot.now 60000 = snapshot.now - minuteMillis :=
    saturatingSub_window
  have room : PrunedLog.countAfter (snapshot.now - minuteMillis)
      (attemptTimes (quotaGroup provider) database.quotaAttempts) <
        (session.settings.limits provider).minute := by
    have below := (permits_of_granted deciding permitted).minute positive
    rwa [length_recentAttempts, attemptTimes_pruneAttempts, window,
      PrunedLog.countAfter_prune (le_refl _)] at below
  have seen := covered _ (Int.sub_le_sub_right gate.1 minuteMillis)
  rw [committed_append, committed_append, committed_append, quiet, committed_appliedFeedback,
    committed_grantedReservation, permitted]
  simp only [List.append_nil, List.nil_append, reservationTimes_append,
    PrunedLog.countAfter_append, Bool.false_eq_true, ↓reduceIte]
  have last : PrunedLog.countAfter (snapshot.now - minuteMillis)
      (reservationTimes (quotaGroup provider)
        [{ call, group := quotaGroup provider, now := snapshot.now }]) ≤ 1 := by
    simp [reservationTimes, PrunedLog.countAfter_singleton_le]
  omega

/-- **Rolling-minute cap.** Where every session has a positive minute cap, the
reservations granted in the minute up to a granted one, itself included, stay
within the cap of its session. -/
theorem granted_minute {database : Database} {session : Session} {after : World}
    {call : CallId} {provider : ProviderId} {wall : DateTime}
    (run : Run (Step codec) (.closed file) trace (.running database session))
    (taken : Step codec (.running database session) emitted after)
    (answered : Event.reserveReturned call provider wall (.ok ()) ∈ emitted)
    (capped : ∀ settings wall effective, Event.opened settings wall effective ∈ trace →
      0 < (settings.limits provider).minute) :
    countWithin (quotaGroup provider) (wall.timestampMillis - minuteMillis)
        wall.timestampMillis (granted (trace ++ emitted)) ≤
      (session.settings.limits provider).minute := by
  obtain ⟨_, _, snapshot, decision, same, held, rfl, permitted, _, rfl⟩ :=
    taken.of_grant answered
  cases same
  have origin := decided_origin run rfl (Or.inr held)
  have bounded := committed_minute capped origin permitted
  calc countWithin (quotaGroup provider) (snapshot.wall.timestampMillis - minuteMillis)
        snapshot.wall.timestampMillis (granted (trace ++ _))
      ≤ countWithin (quotaGroup provider) (snapshot.wall.timestampMillis - minuteMillis)
          snapshot.wall.timestampMillis (committed trace) :=
        (granted_snoc_sublist run taken rfl).countP_le
    _ ≤ PrunedLog.countAfter (snapshot.now - minuteMillis)
          (reservationTimes (quotaGroup provider) (committed trace)) := countWithin_le ..
    _ ≤ (session.settings.limits provider).minute := bounded

/-- A first reservation is the only one of its minute. -/
theorem granted_minute_first :
    countWithin .abuseipdbCheck (-60000) 0 (granted (firstReservation ++ [firstAnswer])) ≤ 1 := by
  obtain ⟨database, session, run, held, saved, single⟩ :=
    firstReservation_run .blank
  have bounded := granted_minute run (.grants held saved rfl) (List.mem_singleton.mpr rfl) (by
    intro settings wall effective opened
    simp only [firstReservation, List.mem_cons, Event.opened.injEq, reduceCtorEq, List.not_mem_nil,
      or_false] at opened
    rw [opened.1]
    decide)
  rw [single] at bounded
  exact bounded

end RustEnrich.Storage
