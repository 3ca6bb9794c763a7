import RustEnrich.Storage.Reservations

/-!
# The UTC day

No day of granted reservations exceeds the daily cap. The stored row names the
latest day a reservation was committed on and counts at least the reservations
of that day; a later day starts a new count, and an earlier one is refused.
-/

namespace RustEnrich.Storage

open Transitions

/-- The reservations of a group on one UTC day. -/
def countOn (group : QuotaGroup) (day : Int) (reservations : List Reservation) : Nat :=
  reservations.countP (fun reservation =>
    reservation.group = group ∧ reservation.now / dayMillis = day)

variable {codec : PayloadCodec} {start world : World} {trace emitted : List Event}
  {file : Option Database}

/-- The reservations of a day are the times on it. -/
theorem countOn_eq (group : QuotaGroup) (day : Int) (reservations : List Reservation) :
    countOn group day reservations =
      (reservationTimes group reservations).countP (fun time => time / dayMillis = day) := by
  unfold countOn reservationTimes
  rw [List.countP_map, List.countP_filter]
  apply List.countP_congr
  intro reservation _
  simp [and_comm]

/-! ### What a transaction does to the day of a row -/

/-- The row on a later reading counts from zero on the day of the reading, and
otherwise keeps its count. -/
theorem QuotaState.advanceDay_counts {state next : QuotaState} {now : DateTime}
    (advanced : state.advanceDay now = .ok next) :
    ∃ saved, state.day = .ofDate saved ∧ next.day = .ofDate now.dateNaive ∧
      ((saved = now.dateNaive ∧ next.dailyConsumed = state.dailyConsumed) ∨
        saved < now.dateNaive) := by
  obtain ⟨saved, day, ⟨same, rfl⟩ | ⟨earlier, rfl⟩⟩ := advanceDay_ok advanced
  · refine ⟨saved, day, ?_, Or.inl ⟨same, expireFeedback_dailyConsumed ..⟩⟩
    rw [expireFeedback_day, day, same]
  · refine ⟨saved, day, ?_, Or.inr earlier⟩
    rw [expireFeedback_day]
    rfl

/-- What is retained leaves the day and its count. -/
theorem applyPending_day {state next : QuotaState} {pending : Option PendingFeedback} {now : Int}
    {unobservedAttempts : Nat}
    (applied : applyPending state pending now unobservedAttempts = .ok next) :
    next.day = state.day ∧ next.dailyConsumed = state.dailyConsumed := by
  cases pending with
  | none =>
      cases applied
      exact ⟨rfl, rfl⟩
  | some pending =>
      exact ⟨QuotaState.applyFeedback_day applied, QuotaState.applyFeedback_dailyConsumed applied⟩

/-- A committed reserve leaves the row on the day of its reading, with one
attempt more where it grants. -/
theorem reserveTransaction_day {database next : Database} {group : QuotaGroup}
    {limits : QuotaLimits} {wall : DateTime} {now : Int} {pending : Option PendingFeedback}
    {decision : QuotaDecision}
    (reserved : reserveTransaction database group limits wall now pending =
      .ok (next, decision)) :
    ∃ saved consumed, (database.quotaState group).day = .ofDate saved ∧
      ((saved = wall.dateNaive ∧ consumed = (database.quotaState group).dailyConsumed) ∨
        saved < wall.dateNaive) ∧
      (next.quotaState group).day = .ofDate wall.dateNaive ∧
      (next.quotaState group).dailyConsumed =
        consumed + (if decision.blocked then 0 else 1) ∧
      (decision.blocked = false → consumed < limits.day) := by
  obtain ⟨advanced, state, stored, left, advancing, applying, deciding, settling, rfl⟩ :=
    reserveTransaction_ok reserved
  obtain ⟨saved, day, today, counts⟩ := QuotaState.advanceDay_counts advancing
  obtain ⟨sameDay, sameCount⟩ := applyPending_day applying
  have room : decision.blocked = false → state.dailyConsumed < limits.day :=
    fun granted => (permits_of_granted deciding granted).day
  refine ⟨saved, state.dailyConsumed, day, ?_, ?_, ?_, room⟩
  · rcases counts with ⟨same, kept⟩ | earlier
    · exact Or.inl ⟨same, sameCount.trans kept⟩
    · exact Or.inr earlier
  · simp only [Function.update_self]
    rcases settle_ok settling with ⟨_, rfl, _⟩ | ⟨_, consuming, _⟩
    · exact sameDay.trans today
    · exact (QuotaState.consume_ok consuming).1.trans (sameDay.trans today)
  · simp only [Function.update_self]
    rcases settle_ok settling with ⟨denied, rfl, _⟩ | ⟨permitted, consuming, _⟩
    · simp [denied]
    · simp [permitted, (QuotaState.consume_ok consuming).2.1]

/-- A committed report leaves the day and its count. -/
theorem feedbackTransaction_day {database next : Database} {group : QuotaGroup}
    {limits : QuotaLimits} {now : Int} {pending : PendingFeedback}
    (applied : feedbackTransaction database group limits now pending = .ok next)
    (counted : QuotaGroup) :
    (next.quotaState counted).day = (database.quotaState counted).day ∧
      (next.quotaState counted).dailyConsumed = (database.quotaState counted).dailyConsumed := by
  obtain ⟨stored, applying, rfl⟩ := feedbackTransaction_ok applied
  by_cases same : counted = group
  · subst same
    simp only [Function.update_self]
    exact ⟨QuotaState.applyFeedback_day applying, QuotaState.applyFeedback_dailyConsumed applying⟩
  · simp only [Function.update_of_ne same, and_self]

/-! ### The count of the stored day -/

/-- The row counts the reservations of its day, and none is of a later day. -/
def DayCounted (group : QuotaGroup) (seen : List Event) (database : Database) : Prop :=
  ∀ saved, (database.quotaState group).day = .ofDate saved →
    (∀ time ∈ reservationTimes group (committed seen), time / dayMillis ≤ saved) ∧
      (reservationTimes group (committed seen)).countP (fun time => time / dayMillis = saved) ≤
        (database.quotaState group).dailyConsumed

/-- Before a reserve decides, the count it starts from covers the day of its
reading. -/
theorem DayCounted.countP_le {group : QuotaGroup} {seen : List Event} {database : Database}
    (counted : DayCounted group seen database) {saved today : Int} {consumed : Nat}
    (day : (database.quotaState group).day = .ofDate saved)
    (counts : (saved = today ∧ consumed = (database.quotaState group).dailyConsumed) ∨
      saved < today) :
    (∀ time ∈ reservationTimes group (committed seen), time / dayMillis ≤ today) ∧
      (reservationTimes group (committed seen)).countP (fun time => time / dayMillis = today) ≤
        consumed := by
  obtain ⟨before, most⟩ := counted saved day
  rcases counts with ⟨rfl, rfl⟩ | earlier
  · exact ⟨before, most⟩
  · refine ⟨fun time member => (before time member).trans earlier.le, ?_⟩
    have none : (reservationTimes group (committed seen)).countP
        (fun time => time / dayMillis = today) = 0 := by
      rw [List.countP_eq_zero]
      intro time member
      have := before time member
      simp only [decide_eq_true_eq]
      omega
    omega

/-- The count of the day is an invariant of the accounts. -/
theorem dayCounted_invariant (codec : PayloadCodec) (file : Option Database)
    (group : QuotaGroup) : AccountsInvariant codec (.closed file) (DayCounted group) where
  kept := by
    intro seen emitted database next counted same quiet
    unfold DayCounted
    rw [same.quotaState, committed_append, quiet, List.append_nil]
    exact counted
  reserved := by
    intro seen database next session call provider snapshot decision _ _ reserves counted
    by_cases same : quotaGroup provider = group
    · subst same
      obtain ⟨saved, consumed, day, counts, today, total, _⟩ := reserveTransaction_day reserves
      obtain ⟨before, most⟩ := counted.countP_le day counts
      intro stored latest
      rw [today, DayText.ofDate.injEq] at latest
      subst latest
      have ownDay : snapshot.now / dayMillis = snapshot.wall.dateNaive :=
        snapshot.wall.dateNaive_eq.symm
      simp only [committed_append, committed_appliedFeedback, List.nil_append,
        reservationTimes_append, reservationTimes_granted, List.countP_append, total]
      cases decision.blocked with
      | true =>
          simp only [↓reduceIte, List.append_nil, List.countP_nil, Nat.add_zero]
          exact ⟨before, most⟩
      | false =>
          simp only [Bool.false_eq_true, ↓reduceIte, List.mem_append, List.mem_singleton,
            List.countP_singleton, ownDay, decide_true]
          refine ⟨?_, by omega⟩
          rintro time (member | rfl)
          · exact before time member
          · exact ownDay.le
    · intro saved day
      rw [reserveTransaction_of_ne (Ne.symm same) reserves] at day ⊢
      simp only [committed_append, committed_appliedFeedback, List.nil_append,
        reservationTimes_append, reservationTimes_granted_of_ne same, List.append_nil]
      exact counted saved day
  applied := by
    intro seen database next session provider now pending _ _ applies counted saved day
    obtain ⟨sameDay, sameCount⟩ := feedbackTransaction_day applies group
    rw [sameDay] at day
    rw [sameCount, committed_append, committed_appliedFeedback, List.append_nil]
    exact counted saved day

/-- After a run the row counts the reservations of its day. -/
theorem dayCounted (run : Run (Step codec) (.closed file) trace world) (group : QuotaGroup)
    {database : Database} (stored : world.database = some database) :
    DayCounted group trace database := by
  have fresh : ∀ database, DayCounted group [] database := by
    intro database saved _
    exact ⟨fun time member => absurd member List.not_mem_nil, Nat.zero_le _⟩
  exact (dayCounted_invariant codec file group).run run trivial (fun _ _ => fresh _)
    (fun _ _ => fresh _) stored

/-- A reservation is only committed where its day has room. -/
theorem committed_day {settings : Settings} {call : CallId} {provider : ProviderId}
    {snapshot : ReserveSnapshot} {decision : QuotaDecision}
    (origin : CommittedAs codec (.closed file) trace settings call provider snapshot decision)
    (permitted : decision.blocked = false) :
    countOn (quotaGroup provider) snapshot.wall.dateNaive (committed trace) ≤
      (settings.limits provider).day := by
  obtain ⟨front, back, database, next, session, rfl, run, rfl, _, reserves, quiet⟩ := origin
  have counted := dayCounted run (quotaGroup provider) rfl
  obtain ⟨saved, consumed, day, counts, _, _, room⟩ := reserveTransaction_day reserves
  obtain ⟨_, most⟩ := counted.countP_le day counts
  have below := room permitted
  rw [countOn_eq, committed_append, committed_append, committed_append, quiet]
  simp only [committed_appliedFeedback, List.nil_append, List.append_nil,
    reservationTimes_append, reservationTimes_granted, permitted, Bool.false_eq_true, ↓reduceIte,
    List.countP_append]
  have last : [snapshot.now].countP (fun time => time / dayMillis = snapshot.wall.dateNaive) ≤
      1 := List.countP_le_length
  omega

/-! ### Open days keep their count -/

/-- Between two contents of the file a group either keeps its day, without
losing an attempt, or moves on to a later day the durable clock has reached. -/
def DayKept (group : QuotaGroup) (before after : Database) : Prop :=
  before.clockHighWater ≤ after.clockHighWater ∧
    (((after.quotaState group).day = (before.quotaState group).day ∧
        (before.quotaState group).dailyConsumed ≤ (after.quotaState group).dailyConsumed) ∨
      ∃ saved later, (before.quotaState group).day = .ofDate saved ∧
        (after.quotaState group).day = .ofDate later ∧ saved < later ∧
        later * dayMillis ≤ after.clockHighWater)

namespace DayKept

variable {group : QuotaGroup} {before middle after : Database}

/-- A database keeps its own day. -/
theorem refl (group : QuotaGroup) (database : Database) : DayKept group database database :=
  ⟨le_refl _, Or.inl ⟨rfl, le_refl _⟩⟩

/-- A day that is kept twice is kept. -/
theorem trans (first : DayKept group before middle) (second : DayKept group middle after) :
    DayKept group before after := by
  refine ⟨first.1.trans second.1, ?_⟩
  rcases first.2 with ⟨same, kept⟩ | ⟨saved, later, day, moved, earlier, reached⟩
  · rcases second.2 with ⟨again, more⟩ | ⟨saved, later, day, moved, earlier, reached⟩
    · exact Or.inl ⟨again.trans same, kept.trans more⟩
    · exact Or.inr ⟨saved, later, same.symm.trans day, moved, earlier, reached⟩
  · rcases second.2 with ⟨again, _⟩ | ⟨other, last, from_, moved', earlier', reached'⟩
    · exact Or.inr ⟨saved, later, day, again.trans moved, earlier, reached.trans second.1⟩
    · rw [moved, DayText.ofDate.injEq] at from_
      exact Or.inr ⟨saved, last, day, moved', by omega, reached'⟩

/-- The same accounts keep the day. -/
theorem of_sameAccounts (same : SameAccounts before after) : DayKept group before after := by
  refine ⟨same.clockHighWater.ge, Or.inl ?_⟩
  rw [same.quotaState]
  exact ⟨rfl, le_refl _⟩

end DayKept

/-- A committed reserve keeps the day. -/
theorem reserveTransaction_dayKept {database next : Database} {provider : ProviderId}
    {limits : QuotaLimits} {snapshot : ReserveSnapshot} {decision : QuotaDecision}
    (reserved : reserveTransaction database (quotaGroup provider) limits snapshot.wall snapshot.now
      snapshot.pending = .ok (next, decision)) (group : QuotaGroup) :
    DayKept group database next := by
  have clock := reserveTransaction_clockHighWater reserved
  refine ⟨clock ▸ le_max_left _ _, ?_⟩
  by_cases same : group = quotaGroup provider
  · subst same
    obtain ⟨saved, consumed, day, counts, today, total, _⟩ := reserveTransaction_day reserved
    rcases counts with ⟨rfl, rfl⟩ | earlier
    · refine Or.inl ⟨today.trans day.symm, ?_⟩
      rw [total]
      exact Nat.le_add_right _ _
    · refine Or.inr ⟨saved, _, day, today, earlier, ?_⟩
      rw [clock, snapshot.wall.dateNaive_eq]
      exact (Int.ediv_mul_le _ (by decide)).trans (le_max_right _ _)
  · left
    rw [reserveTransaction_of_ne same reserved]
    exact ⟨rfl, le_refl _⟩

/-- A committed report keeps the day. -/
theorem feedbackTransaction_dayKept {database next : Database} {group : QuotaGroup}
    {limits : QuotaLimits} {now : Int} {pending : PendingFeedback}
    (applied : feedbackTransaction database group limits now pending = .ok next)
    (counted : QuotaGroup) : DayKept counted database next := by
  obtain ⟨sameDay, sameCount⟩ := feedbackTransaction_day applied counted
  refine ⟨?_, Or.inl ⟨sameDay, sameCount.ge⟩⟩
  exact (le_max_left _ _).trans (feedbackTransaction_clockHighWater applied).ge

/-- Keeping the day is an invariant of the accounts. -/
theorem dayKept_invariant (codec : PayloadCodec) (start : World) (group : QuotaGroup)
    (earlier : Database) :
    AccountsInvariant codec start (fun _ database => DayKept group earlier database) where
  kept := fun kept same _ => kept.trans (.of_sameAccounts same)
  reserved := fun _ _ reserves kept => kept.trans (reserveTransaction_dayKept reserves group)
  applied := fun _ _ applies kept => kept.trans (feedbackTransaction_dayKept applies group)

/-- **UTC-day cap.** The reservations granted on the day of a granted one,
itself included, stay within the daily cap of its session, and whatever happens
to the file, a day keeps its count until a later day has begun. -/
theorem granted_day (run : Run (Step codec) (.closed file) trace world) :
    (∀ {database : Database} {session : Session} {emitted : List Event} {after : World}
        {call : CallId} {provider : ProviderId} {wall : DateTime},
      world = .running database session → Step codec world emitted after →
      Event.reserveReturned call provider wall (.ok ()) ∈ emitted →
      countOn (quotaGroup provider) wall.dateNaive (granted (trace ++ emitted)) ≤
        (session.settings.limits provider).day) ∧
    (∀ {later : World} {between : List Event} {earlier database : Database}
        (group : QuotaGroup),
      Run (Step codec) world between later → world.database = some earlier →
      later.database = some database → DayKept group earlier database) := by
  constructor
  · intro database session emitted after call provider wall running taken answered
    obtain ⟨_, _, snapshot, decision, same, held, rfl, permitted, _, rfl⟩ :=
      taken.of_grant answered
    rw [running] at same
    cases same
    have bounded := committed_day (decided_origin run running (Or.inr held)) permitted
    exact ((granted_snoc_sublist run taken rfl).countP_le).trans bounded
  · intro later between earlier database group rest before after
    refine (dayKept_invariant codec world group earlier).run rest (clocked_run run trivial) ?_ ?_
      after
    · intro missing
      rw [missing] at before
      cases before
    · intro present holds
      rw [before] at holds
      cases holds
      exact DayKept.refl group _

/-- A first reservation is the only one of its day. -/
theorem granted_day_first :
    countOn .abuseipdbCheck 0 (granted (firstReservation ++ [firstAnswer])) ≤ 1 := by
  obtain ⟨database, session, run, held, saved, single⟩ :=
    firstReservation_run .blank
  have bounded := (granted_day run).1 rfl (.grants held saved rfl) (List.mem_singleton.mpr rfl)
  rw [single] at bounded
  exact bounded

end RustEnrich.Storage
