import RustEnrich.Storage.FallbackWindow
import RustEnrich.Storage.Restrictions
import RustEnrich.Storage.RollingMinute
import RustEnrich.Storage.UtcDay

/-!
# Probes after an exhausted report

A report of no remaining attempts without a reset holds the group for the
fallback minute. What ends the minute also forgets the report, so later attempts
are paced by the local caps alone, unless the cooldown lasts to the end of the
day.
-/

namespace RustEnrich.Storage

open Transitions

/-- The reservations of a group on a day, in a minute from a time. -/
def countProbes (group : QuotaGroup) (day after : Int) (reservations : List Reservation) : Nat :=
  reservations.countP (fun reservation => reservation.group = group ∧
    reservation.now / dayMillis = day ∧ after < reservation.now ∧
      reservation.now ≤ after + minuteMillis)

/-- The settings of a session of a run: the one it starts in, and those opened
later. -/
def InForce (session : Session) (later : List Event) (settings : Settings) : Prop :=
  settings = session.settings ∨ ∃ wall effective, Event.opened settings wall effective ∈ later

variable {codec : PayloadCodec} {world after : World} {trace later emitted : List Event}
  {database : Database} {session : Session} {provider : ProviderId}

/-- Settings in force stay so for a longer run. -/
theorem InForce.append {settings : Settings} {front : List Event}
    (inForce : InForce session front settings) (back : List Event) :
    InForce session (front ++ back) settings :=
  inForce.imp_right fun ⟨wall, effective, opened⟩ =>
    ⟨wall, effective, List.mem_append_left _ opened⟩

/-- The settings of a running session are those in force. -/
theorem inForce_of_run (run : Run (Step codec) (.running database session) later world) :
    ∀ {current following}, world = .running current following →
      InForce session later following.settings := by
  induction run with
  | refl =>
      intro current following same
      cases same
      exact Or.inl rfl
  | @snoc seen emitted before after _ taken ih =>
      intro current following same
      have earlier : ∀ {old} {previous : Session}, before = .running old previous →
          previous.settings = following.settings →
          InForce session (seen ++ emitted) following.settings := by
        intro old previous running kept
        exact kept ▸ (ih running).append emitted
      cases taken with
      | migrated now => cases same
      | openTimedOut reconciled => cases same
      | closed => cases same
      | opened reconciled =>
          cases same
          exact Or.inr ⟨_, _, List.mem_append_right _ (List.mem_singleton.mpr rfl)⟩
      | _ => cases same; exact earlier rfl rfl

/-! ### Under the minute cap -/

/-- The attempts of a group that count until a midnight. -/
def attemptsUntil (group : QuotaGroup) (midnight : Int) (attempts : List QuotaAttempt) : List Int :=
  (attemptTimes group attempts).filter (fun time => midnight - minuteMillis ≤ time)

/-- The attempts of the last minute of a day are in it. -/
theorem le_of_mem_attemptsUntil {group : QuotaGroup} {midnight time : Int}
    {attempts : List QuotaAttempt} (member : time ∈ attemptsUntil group midnight attempts) :
    midnight - minuteMillis ≤ time := by
  simpa using (List.mem_filter.mp member).2

/-- They cover what the table has of that minute. -/
theorem covers_attemptsUntil (group : QuotaGroup) (midnight horizon : Int)
    (attempts : List QuotaAttempt) :
    PrunedLog.Covers horizon (attemptsUntil group midnight attempts)
      (attemptTimes group attempts) :=
  fun _ _ => List.filter_sublist.countP_le

/-- What counted at the start and every reservation since is in the attempts
table while it counts, and before midnight no two reservations are in one
minute. -/
structure Probed (group : QuotaGroup) (midnight : Int) (counted : List Int)
    (reservations : List Reservation) (database : Database) : Prop where
  covers : PrunedLog.Covers (database.clockHighWater - minuteMillis)
    (counted ++ reservationTimes group reservations) (attemptTimes group database.quotaAttempts)
  paced : (reservationTimes group reservations).Pairwise
    fun earlier later => later < midnight → earlier + minuteMillis ≤ later

/-- Times a minute apart meet every minute at most once. -/
theorem countP_paced_le {midnight : Int} {times : List Int}
    (paced : times.Pairwise fun earlier later => later < midnight → earlier + minuteMillis ≤ later)
    (after : Int) :
    times.countP (fun time => time < midnight ∧ after < time ∧ time ≤ after + minuteMillis) ≤
      1 := by
  induction paced with
  | nil => exact Nat.zero_le _
  | @cons first rest apart _ ih =>
      by_cases inside : first < midnight ∧ after < first ∧ first ≤ after + minuteMillis
      · have others : rest.countP (fun time =>
            time < midnight ∧ after < time ∧ time ≤ after + minuteMillis) = 0 := by
          apply List.countP_eq_zero.mpr
          intro time member
          have past := apart time member
          simp only [decide_eq_true_eq]
          omega
        rw [List.countP_cons, others]
        split <;> omega
      · rw [List.countP_cons_of_neg (by simpa using inside)]
        exact ih

/-- Paced probes before midnight are few. -/
theorem countProbes_le_paced {group : QuotaGroup} {now : Int} {reservations : List Reservation}
    (paced : (reservationTimes group reservations).Pairwise
      fun earlier later => later < midnightAfter now → earlier + minuteMillis ≤ later)
    (after : Int) :
    countProbes group (now / dayMillis) after reservations ≤ 1 := by
  refine le_trans ?_ (countP_paced_le paced after)
  unfold countProbes reservationTimes
  rw [List.countP_map, List.countP_filter]
  apply List.countP_mono_left
  intro reservation _ inside
  simp only [decide_eq_true_eq] at inside
  obtain ⟨same, today, past, within⟩ := inside
  have early : reservation.now < midnightAfter now := by
    unfold midnightAfter
    rw [← today]
    exact lt_midnightAfter reservation.now
  simp [same, past, within, early]

/-- Where the minute cap leaves one attempt besides those that count until
midnight, a grant before midnight comes a minute after every other. -/
theorem reserveTransaction_probed {next : Database} {group : QuotaGroup} {limits : QuotaLimits}
    {snapshot : ReserveSnapshot} {decision : QuotaDecision} {reservations : List Reservation}
    {midnight : Int} {counted : List Int} (call : CallId) (positive : 0 < limits.minute)
    (one : limits.minute ≤ counted.length + 1)
    (late : ∀ time ∈ counted, midnight - minuteMillis ≤ time)
    (ahead : database.clockHighWater ≤ snapshot.now)
    (reserved : reserveTransaction database group limits snapshot.wall snapshot.now
      snapshot.pending = .ok (next, decision))
    (covers : PrunedLog.Covers (database.clockHighWater - minuteMillis)
      (counted ++ reservationTimes group reservations)
      (attemptTimes group database.quotaAttempts)) :
    PrunedLog.Covers (next.clockHighWater - minuteMillis)
        (counted ++ reservationTimes group (reservations ++
          committed (grantedReservation call group snapshot.now decision)))
        (attemptTimes group next.quotaAttempts) ∧
      (decision.blocked = false → snapshot.now < midnight →
        ∀ time ∈ reservationTimes group reservations, time + minuteMillis ≤ snapshot.now) := by
  obtain ⟨_, _, _, left, _, _, deciding, settling, rfl⟩ := reserveTransaction_ok reserved
  have window : saturatingSub snapshot.now 60000 = snapshot.now - minuteMillis :=
    saturatingSub_window
  constructor
  · simp only [max_eq_right ahead, reservationTimes_append]
    rw [attemptTimes_settle positive settling call, attemptTimes_pruneAttempts, window,
      ← List.append_assoc]
    exact (covers.prune (Int.sub_le_sub_right ahead _)).append _
  · intro permitted early time member
    have room : PrunedLog.countAfter (snapshot.now - minuteMillis)
        (attemptTimes group database.quotaAttempts) < limits.minute := by
      have below := (permits_of_granted deciding permitted).minute positive
      rwa [length_recentAttempts, attemptTimes_pruneAttempts, window,
        PrunedLog.countAfter_prune (le_refl _)] at below
    have all : PrunedLog.countAfter (snapshot.now - minuteMillis) counted = counted.length := by
      apply List.countP_eq_length.mpr
      intro other inside
      have lately := late other inside
      simp only [decide_eq_true_eq]
      omega
    have within := covers _ (Int.sub_le_sub_right ahead minuteMillis)
    rw [PrunedLog.countAfter_append, all] at within
    have none_ : PrunedLog.countAfter (snapshot.now - minuteMillis)
        (reservationTimes group reservations) = 0 := by omega
    have past := List.countP_eq_zero.mp none_ time member
    simp only [decide_eq_true_eq, not_lt] at past
    omega

/-- The pace of the probes is an invariant of the accounts. -/
theorem probed_invariant (codec : PayloadCodec) (database : Database) (session : Session)
    (provider : ProviderId) {midnight : Int} {counted : List Int}
    (late : ∀ time ∈ counted, midnight - minuteMillis ≤ time) :
    AccountsInvariant codec (.running database session) (fun seen current =>
      (∀ settings, InForce session seen settings → 0 < (settings.limits provider).minute ∧
        (settings.limits provider).minute ≤ counted.length + 1) →
        Probed (quotaGroup provider) midnight counted
          ((World.running database session).unanswered ++ committed seen) current) where
  kept := by
    intro seen emitted current next holds same quiet one
    obtain ⟨covers, paced⟩ := holds fun settings inForce =>
      one settings (inForce.append _)
    rw [committed_append, quiet, List.append_nil]
    refine ⟨?_, paced⟩
    rw [same.clockHighWater, same.quotaAttempts]
    exact covers
  reserved := by
    intro seen current next following call asking snapshot decision run ahead reserves holds one
    have before := fun settings (inForce : InForce session seen settings) =>
      one settings (inForce.append _)
    obtain ⟨covers, paced⟩ := holds before
    rw [committed_append, committed_append, committed_appliedFeedback, List.nil_append,
      ← List.append_assoc]
    by_cases same : asking = provider
    · subst same
      obtain ⟨positive, cap⟩ := before _ (inForce_of_run run rfl)
      obtain ⟨kept, apart⟩ := reserveTransaction_probed call positive cap late ahead reserves covers
      refine ⟨kept, ?_⟩
      rw [reservationTimes_append, reservationTimes_granted]
      split
      · rwa [List.append_nil]
      · rename_i permitted
        refine List.pairwise_append.mpr ⟨paced, List.pairwise_singleton _ _, ?_⟩
        intro time member now last early
        obtain rfl := List.mem_singleton.mp last
        exact apart (Bool.eq_false_of_not_eq_true permitted) early time member
    · have distinct : quotaGroup asking ≠ quotaGroup provider := fun equal =>
        same (quotaGroup_injective equal)
      obtain ⟨_, _, _, _, _, _, _, settling, rfl⟩ := reserveTransaction_ok reserves
      constructor <;>
        rw [reservationTimes_append, reservationTimes_granted_of_ne distinct, List.append_nil]
      · simp only [max_eq_right ahead]
        rw [attemptTimes_settle_of_ne distinct settling, attemptTimes_pruneAttempts_of_ne distinct]
        exact covers.later (Int.sub_le_sub_right ahead _)
      · exact paced
  applied := by
    intro seen current next following asking now pending _ ahead applies holds one
    obtain ⟨covers, paced⟩ := holds fun settings inForce =>
      one settings (inForce.append _)
    obtain ⟨_, _, rfl⟩ := feedbackTransaction_ok applies
    rw [committed_append, committed_appliedFeedback, List.append_nil]
    refine ⟨?_, paced⟩
    simp only [max_eq_right ahead]
    exact covers.later (Int.sub_le_sub_right ahead _)

/-! ### Under a daily cap of one more -/

/-- Past what a day had consumed, at most one of its attempts was reserved, and
the row counts it. -/
structure DayProbed (group : QuotaGroup) (day : Int) (spent : Nat)
    (reservations : List Reservation) (database : Database) : Prop where
  few : countOn group day reservations ≤ 1
  row : ∃ saved, (database.quotaState group).day = .ofDate saved ∧
    ((saved < day ∧ spent = 0 ∧ countOn group day reservations = 0) ∨
      (saved = day ∧
        countOn group day reservations + spent ≤ (database.quotaState group).dailyConsumed) ∨
      day < saved)

/-- The reservations of two lists. -/
theorem countOn_append (group : QuotaGroup) (day : Int) (front back : List Reservation) :
    countOn group day (front ++ back) = countOn group day front + countOn group day back :=
  List.countP_append

/-- A granted reservation is on the day of its reading. -/
theorem countOn_granted (group other : QuotaGroup) (day : Int) (wall : DateTime) (call : CallId)
    (decision : QuotaDecision) :
    countOn group day (committed (grantedReservation call other wall.timestampMillis decision)) =
      if decision.blocked = false ∧ other = group ∧ wall.dateNaive = day then 1 else 0 := by
  rw [committed_grantedReservation, wall.dateNaive_eq]
  unfold countOn
  cases decision.blocked with
  | true => simp
  | false => simp [List.countP_singleton]

/-- A reserve under the cap keeps the day within it. -/
theorem DayProbed.reserve {next : Database} {group : QuotaGroup} {limits : QuotaLimits}
    {snapshot : ReserveSnapshot} {decision : QuotaDecision} {reservations : List Reservation}
    {day : Int} {spent : Nat} (probed : DayProbed group day spent reservations database)
    (few : limits.day ≤ spent + 1)
    (reserved : reserveTransaction database group limits snapshot.wall snapshot.now
      snapshot.pending = .ok (next, decision)) (call : CallId) :
    DayProbed group day spent
      (reservations ++ committed (grantedReservation call group snapshot.now decision)) next := by
  obtain ⟨most, saved, stored, counted⟩ := probed
  obtain ⟨other, consumed, same, counts, today, total, room⟩ := reserveTransaction_day reserved
  cases stored.symm.trans same
  have added := countOn_granted group group day snapshot.wall call decision
  have now : snapshot.wall.timestampMillis = snapshot.now := rfl
  rw [now] at added
  have permitted := room
  constructor
  · rw [countOn_append, added]
    split
    · rename_i granted
      have below := permitted granted.1
      omega
    · omega
  · refine ⟨_, today, ?_⟩
    rw [countOn_append, added, total]
    cases blocked : decision.blocked with
    | true =>
        simp only [Bool.true_eq_false, false_and, ↓reduceIte]
        omega
    | false =>
        have below := permitted blocked
        simp only [true_and, Bool.false_eq_true, ↓reduceIte]
        split <;> omega

/-- The probes of a day are an invariant of the accounts. -/
theorem dayProbed_invariant (codec : PayloadCodec) (database : Database) (session : Session)
    (provider : ProviderId) (day : Int) (spent : Nat) :
    AccountsInvariant codec (.running database session) (fun seen current =>
      (∀ settings, InForce session seen settings →
        (settings.limits provider).day ≤ spent + 1) →
        DayProbed (quotaGroup provider) day spent
          ((World.running database session).unanswered ++ committed seen) current) where
  kept := by
    intro seen emitted current next holds same quiet few
    have probed := holds fun settings inForce => few settings (inForce.append _)
    rw [committed_append, quiet, List.append_nil]
    refine ⟨probed.few, ?_⟩
    rw [same.quotaState]
    exact probed.row
  reserved := by
    intro seen current next following call asking snapshot decision run _ reserves holds few
    have before := fun settings (inForce : InForce session seen settings) =>
      few settings (inForce.append _)
    have probed := holds before
    rw [committed_append, committed_append, committed_appliedFeedback, List.nil_append,
      ← List.append_assoc]
    by_cases same : asking = provider
    · subst same
      exact probed.reserve (before _ (inForce_of_run run rfl)) reserves call
    · have distinct : quotaGroup asking ≠ quotaGroup provider := fun equal =>
        same (quotaGroup_injective equal)
      have none_ := countOn_granted (quotaGroup provider) (quotaGroup asking) day snapshot.wall call
        decision
      rw [if_neg fun own => distinct own.2.1] at none_
      have count : countOn (quotaGroup provider) day
          (((World.running database session).unanswered ++ committed seen) ++
            committed (grantedReservation call (quotaGroup asking) snapshot.now decision)) =
          countOn (quotaGroup provider) day
            ((World.running database session).unanswered ++ committed seen) := by
        rw [countOn_append]
        exact Nat.add_eq_left.mpr none_
      refine ⟨count ▸ probed.few, ?_⟩
      rw [count, reserveTransaction_of_ne (Ne.symm distinct) reserves]
      exact probed.row
  applied := by
    intro seen current next following asking now pending _ _ applies holds few
    have probed := holds fun settings inForce => few settings (inForce.append _)
    obtain ⟨sameDay, sameCount⟩ := feedbackTransaction_day applies (quotaGroup provider)
    rw [committed_append, committed_appliedFeedback, List.append_nil]
    refine ⟨probed.few, ?_⟩
    rw [sameDay, sameCount]
    exact probed.row

/-! ### Under a cooldown to the end of the day -/

/-- What holds the group until a time once a report of nothing is committed:
the cooldown of the row, that of the report, or where neither is active the
fallback. -/
inductive CooledUntil (row : QuotaState) (feedback : QuotaFeedback) (now target : Int) : Prop
  | row (held : HeldUntil row.cooldownUntil target)
  | reported (held : HeldUntil feedback.cooldownMillis target)
  | fallback (idle : ∀ until_, row.cooldownUntil = some until_ → until_ ≤ now)
      (uncooled : ∀ until_, feedback.cooldownMillis = some until_ → until_ ≤ now)
      (lasts : target ≤ now + 60000)

/-- A report of nothing without a reset, on a row without a window or an active
cooldown, starts the fallback. -/
theorem QuotaState.applyFeedback_exhausted {row next : QuotaState} {feedback : QuotaFeedback}
    {now : Int} {unobservedAttempts : Nat} (reported : feedback.remaining = some 0)
    (noReset : feedback.resetAt = none) (noWindow : row.providerResetAt = none)
    (idle : ∀ until_, row.cooldownUntil = some until_ → until_ ≤ now)
    (uncooled : ∀ until_, feedback.cooldownMillis = some until_ → until_ ≤ now)
    (applied : row.applyFeedback feedback now unobservedAttempts = .ok next) :
    next.cooldownUntil = some (saturatingAdd now 60000) := by
  have quiet : (row.expireFeedback now).applyCooldown feedback now = row.expireFeedback now := by
    have past : feedback.cooldownMillis.filter (fun target => now < target) = none := by
      rw [Option.filter_eq_none_iff]
      intro until_ told
      simpa using uncooled until_ told
    unfold applyCooldown
    unfold QuotaFeedback.cooldownMillis at past
    rw [past]
  rcases applyFeedback_ok applied with ⟨⟨reset, told, _⟩, _⟩ | ⟨_, rfl⟩
  · rw [noReset] at told
    cases told
  · rw [quiet]
    obtain ⟨left, recorded, within⟩ := @applyAllowance_le_reported (row.expireFeedback now)
      feedback unobservedAttempts _ reported
    obtain rfl := Nat.le_zero.mp within
    have window : ((row.expireFeedback now).applyAllowance feedback
        unobservedAttempts).providerResetAt = none := by
      unfold applyAllowance
      rw [noReset]
      exact expireFeedback_noWindow now noWindow
    have cooldown : ((row.expireFeedback now).applyAllowance feedback
        unobservedAttempts).cooldownUntil = none := expireFeedback_idle idle
    unfold ensureUnknownCooldown
    rw [if_pos ⟨recorded, window, cooldown⟩]

/-- A report of nothing left keeps the cooldown. -/
theorem CooledUntil.applyFeedback {row next : QuotaState} {feedback : QuotaFeedback}
    {instant : DateTime} {target : Int} {unobservedAttempts : Nat}
    (cooled : CooledUntil row feedback instant.timestampMillis target)
    (reported : feedback.remaining = some 0) (noReset : feedback.resetAt = none)
    (noWindow : row.providerResetAt = none)
    (applied : row.applyFeedback feedback instant.timestampMillis unobservedAttempts = .ok next) :
    target ≤ instant.timestampMillis ∨ HeldUntil next.cooldownUntil target := by
  cases cooled with
  | row held => exact QuotaState.heldUntil_applyFeedback applied held
  | reported held => exact QuotaState.applyFeedback_holds applied held
  | fallback idle uncooled lasts =>
      refine Or.inr ⟨_, QuotaState.applyFeedback_exhausted reported noReset noWindow idle uncooled
        applied, lasts.trans ?_⟩
      exact le_saturatingAdd_minute (le_refl instant.timestampMillis)

/-- A day's start leaves the cooldown and the window of a row. -/
theorem CooledUntil.advanceDay {row advanced : QuotaState} {feedback : QuotaFeedback}
    {wall : DateTime} {target : Int}
    (cooled : CooledUntil row feedback wall.timestampMillis target)
    (noWindow : row.providerResetAt = none) (advancing : row.advanceDay wall = .ok advanced) :
    target ≤ wall.timestampMillis ∨
      CooledUntil advanced feedback wall.timestampMillis target ∧
        advanced.providerResetAt = none := by
  have window : advanced.providerResetAt = none := by
    obtain ⟨_, _, ⟨_, rfl⟩ | ⟨_, rfl⟩⟩ := QuotaState.advanceDay_ok advancing
    · exact QuotaState.expireFeedback_noWindow _ noWindow
    · exact QuotaState.expireFeedback_noWindow _ noWindow
  cases cooled with
  | row held =>
      exact (QuotaState.heldUntil_advanceDay advancing held).imp_right
        fun kept => ⟨.row kept, window⟩
  | reported held => exact Or.inr ⟨.reported held, window⟩
  | fallback idle uncooled lasts =>
      obtain ⟨_, none_, _⟩ := QuotaState.advanceDay_idle noWindow idle advancing
      refine Or.inr ⟨.fallback ?_ uncooled lasts, window⟩
      intro until_ held
      cases none_.symm.trans held

/-- The commit of a report of nothing pauses the group until its cooldown ends. -/
theorem paused_of_exhausted {feedback : QuotaFeedback} {instant : DateTime} {target : Int}
    (taken : Step codec (.running database session) emitted after)
    (saved : Event.feedbackCommitted (quotaGroup provider) feedback instant.timestampMillis ∈
      emitted)
    (reported : feedback.remaining = some 0) (noReset : feedback.resetAt = none)
    (noWindow : (database.quotaState (quotaGroup provider)).providerResetAt = none)
    (cooled : CooledUntil (database.quotaState (quotaGroup provider)) feedback
      instant.timestampMillis target) :
    ∃ next following, after = .running next following ∧
      Paused (quotaGroup provider) target after.unanswered next := by
  rcases taken.of_feedbackCommitted saved with
    ⟨_, next, _, call, asked, snapshot, decision, entry, same, held, reserves, rfl, present,
      group, rfl, time⟩ |
    ⟨_, next, _, call, asked, pending, same, held, applies, rfl, group, rfl⟩
  · cases same
    cases quotaGroup_injective group
    rw [time] at cooled
    obtain ⟨advanced, state, stored, attempts, advancing, applying, deciding, settling, rfl⟩ :=
      reserveTransaction_ok reserves
    rw [present] at applying
    have kept : target ≤ snapshot.now ∨ HeldUntil state.cooldownUntil target := by
      rcases cooled.advanceDay noWindow advancing with passed | ⟨still, window⟩
      · exact Or.inl passed
      · exact still.applyFeedback reported noReset window applying
    refine ⟨_, _, rfl, ?_⟩
    rw [unanswered_reserved]
    obtain ⟨row, respected⟩ := settle_paused deciding settling kept
    refine ⟨past_grantedReservation fun _ => respected, ?_⟩
    simp only [Function.update_self]
    exact row.imp_left fun passed => passed.trans (le_max_right _ _)
  · cases same
    cases quotaGroup_injective group
    obtain ⟨stored, applying, rfl⟩ := feedbackTransaction_ok applies
    refine ⟨_, _, rfl, ?_, ?_⟩
    · intro reservation member
      cases member
    · simp only [Function.update_self]
      exact (cooled.applyFeedback reported noReset noWindow applying).imp_left
        fun passed => passed.trans (le_max_right _ _)

/-! ### From the commit on -/

/-- Only the opening of a storage starts a session. -/
theorem Step.unopened (taken : Step codec (.running database session) emitted after)
    {settings : Settings} {wall : DateTime} {effective : Int} :
    Event.opened settings wall effective ∉ emitted := by
  have direct : ∀ {events : List Event}, (∀ event ∈ events, event.Direct) →
      Event.opened settings wall effective ∉ events := fun only member => only _ member
  intro opened
  cases taken with
  | performed wall free queued performs =>
      obtain ⟨_, commits, returns⟩ := Request.perform_ok performs
      exact (List.mem_append.mp opened).elim (direct commits) (direct returns)
  | unreported wall free queued performs =>
      obtain ⟨_, commits, _⟩ := Request.perform_ok performs
      rcases List.mem_append.mp opened with first | second
      · exact direct commits first
      · simp at second
  | @reserveCommitted _ _ _ _ _ snapshot decision held reserves =>
      rcases List.mem_append.mp opened with first | second
      · unfold appliedFeedback at first
        split at first <;> simp at first
      · unfold grantedReservation at second
        split at second <;> simp at second
  | _ => simp [appliedFeedback] at opened

/-- Settings in force after a commit were before it. -/
theorem InForce.of_commit {settings : Settings}
    (taken : Step codec (.running database session) emitted after)
    (inForce : InForce session (emitted ++ later) settings) : InForce session later settings := by
  refine inForce.imp_right ?_
  rintro ⟨wall, effective, opened⟩
  exact ⟨wall, effective, (List.mem_append.mp opened).resolve_left taken.unopened⟩

/-- Nothing is unanswered where feedback is committed. -/
theorem Step.commit_unanswered {group : QuotaGroup} {feedback : QuotaFeedback} {now : Int}
    (taken : Step codec before emitted after)
    (saved : Event.feedbackCommitted group feedback now ∈ emitted) : before.unanswered = [] := by
  rcases taken.of_feedbackCommitted saved with
    ⟨_, _, session, _, _, _, _, _, rfl, held, _⟩ | ⟨_, _, session, _, _, _, rfl, held, _⟩
  · simp [World.unanswered, held, Gate.unanswered]
  · simp [World.unanswered, held, Gate.unanswered]

/-- What a row counts of a day. -/
def QuotaState.consumedOn (state : QuotaState) (day : Int) : Nat :=
  if state.day = .ofDate day then state.dailyConsumed else 0

/-- What leaves a group one attempt in any minute of the day: the minute cap of
every session, next to the attempts that count until midnight; the day cap, next
to those of the day; or a cooldown to midnight. -/
inductive OneProbe (database : Database) (session : Session) (later : List Event)
    (provider : ProviderId) (feedback : QuotaFeedback) (now : Int) : Prop
  | minute (caps : ∀ settings, InForce session later settings →
      0 < (settings.limits provider).minute ∧ (settings.limits provider).minute ≤
        (attemptsUntil (quotaGroup provider) (midnightAfter now)
          database.quotaAttempts).length + 1)
  | day (caps : ∀ settings, InForce session later settings → (settings.limits provider).day ≤
      (database.quotaState (quotaGroup provider)).consumedOn (now / dayMillis) + 1)
  | cooled (cooled : CooledUntil (database.quotaState (quotaGroup provider)) feedback now
      (midnightAfter now))

/-- At the start nothing is probed. -/
theorem dayProbed_start {group : QuotaGroup} {day saved : Int}
    (stored : (database.quotaState group).day = .ofDate saved) :
    DayProbed group day ((database.quotaState group).consumedOn day) [] database := by
  refine ⟨Nat.zero_le _, saved, stored, ?_⟩
  unfold QuotaState.consumedOn
  rcases lt_trichotomy saved day with before | rfl | past
  · refine Or.inl ⟨before, if_neg ?_, rfl⟩
    intro same
    cases stored.symm.trans same
    exact lt_irrefl _ before
  · refine Or.inr (Or.inl ⟨rfl, ?_⟩)
    rw [if_pos stored]
    exact (Nat.zero_add _).le
  · exact Or.inr (Or.inr past)

/-- Probes are reservations of their day. -/
theorem countProbes_le_countOn (group : QuotaGroup) (day after : Int)
    (reservations : List Reservation) :
    countProbes group day after reservations ≤ countOn group day reservations := by
  apply List.countP_mono_left
  intro reservation _ inside
  simp only [decide_eq_true_eq] at inside ⊢
  exact ⟨inside.1, inside.2.1⟩

/-- Under a minute cap the probes of a day are paced. -/
theorem granted_minute_probes {now : Int}
    (clocked : (World.running database session).Clocked)
    (quiet : (World.running database session).unanswered = [])
    (caps : ∀ settings, InForce session later settings →
      0 < (settings.limits provider).minute ∧ (settings.limits provider).minute ≤
        (attemptsUntil (quotaGroup provider) (midnightAfter now)
          database.quotaAttempts).length + 1)
    (run : Run (Step codec) (.running database session) later world) (start : Int) :
    countProbes (quotaGroup provider) (now / dayMillis) start (granted later) ≤ 1 := by
  let counted := attemptsUntil (quotaGroup provider) (midnightAfter now) database.quotaAttempts
  have initial : Probed (quotaGroup provider) (midnightAfter now) counted
      (World.running database session).unanswered database := by
    rw [quiet]
    refine ⟨?_, List.Pairwise.nil⟩
    have none_ : reservationTimes (quotaGroup provider) [] = [] := rfl
    rw [none_, List.append_nil]
    exact covers_attemptsUntil _ _ _ _
  obtain ⟨reservations, current, within, probed⟩ := @granted_of_accounts _ _ _
    (fun seen reservations current => (∀ settings, InForce session seen settings →
        0 < (settings.limits provider).minute ∧
          (settings.limits provider).minute ≤ counted.length + 1) →
      Probed (quotaGroup provider) (midnightAfter now) counted reservations current) _ _
    (probed_invariant codec database session provider fun time => le_of_mem_attemptsUntil)
    clocked (fun _ => initial) run
  exact within.countP_le.trans (countProbes_le_paced (probed caps).paced start)

/-- Under a cap of one more there is one probe on the day. -/
theorem granted_day_probes {day : Int} (sound : (World.running database session).Sound)
    (quiet : (World.running database session).unanswered = [])
    (caps : ∀ settings, InForce session later settings → (settings.limits provider).day ≤
      (database.quotaState (quotaGroup provider)).consumedOn day + 1)
    (run : Run (Step codec) (.running database session) later world) (start : Int) :
    countProbes (quotaGroup provider) day start (granted later) ≤ 1 := by
  let spent := (database.quotaState (quotaGroup provider)).consumedOn day
  obtain ⟨_, stored, _⟩ := ((sound.database _ rfl).state (quotaGroup provider)).day
  have initial : DayProbed (quotaGroup provider) day spent
      (World.running database session).unanswered database :=
    quiet ▸ dayProbed_start stored
  obtain ⟨reservations, current, within, probed⟩ := @granted_of_accounts _ _ _
    (fun seen reservations current => (∀ settings, InForce session seen settings →
        (settings.limits provider).day ≤ spent + 1) →
      DayProbed (quotaGroup provider) day spent reservations current) _ _
    (dayProbed_invariant codec database session provider day spent)
    sound.clocked (fun _ => initial) run
  exact within.countP_le.trans ((countProbes_le_countOn ..).trans (probed caps).few)

/-- A pause to midnight leaves no probe on the day. -/
theorem Paused.countProbes_eq {group : QuotaGroup} {now : Int} {reservations : List Reservation}
    (paused : Paused group (midnightAfter now) reservations database) (start : Int) :
    countProbes group (now / dayMillis) start reservations = 0 := by
  apply List.countP_eq_zero.mpr
  intro reservation member
  simp only [decide_eq_true_eq]
  rintro ⟨same, today, _⟩
  have past := paused.past reservation member same
  have early := lt_midnightAfter reservation.now
  unfold midnightAfter at past early
  rw [today] at early
  exact absurd early (not_lt.mpr past)

/-- **Exhaustion without a reset leaves paced probes.** After a report of no
remaining attempts without a reset, committed on a row that has no window, at
most one reservation of the group is granted in any minute of its UTC day,
where the caps in force or the cooldown leave one. -/
theorem granted_probes {feedback : QuotaFeedback} {now : Int}
    (reachable : Run (Step codec) (.closed none) trace (.running database session))
    (taken : Step codec (.running database session) emitted after)
    (saved : Event.feedbackCommitted (quotaGroup provider) feedback now ∈ emitted)
    (reported : feedback.remaining = some 0) (noReset : feedback.resetAt = none)
    (noWindow : (database.quotaState (quotaGroup provider)).providerResetAt = none)
    (run : Run (Step codec) after later world)
    (one : OneProbe database session later provider feedback now) (start : Int) :
    countProbes (quotaGroup provider) (now / dayMillis) start (granted later) ≤ 1 := by
  have sound := sound_run reachable World.sound_closed
  have quiet := taken.commit_unanswered saved
  have whole := Run.cons taken run
  have inside : (granted later).Sublist (granted (emitted ++ later)) := by
    rw [granted_append]
    exact List.sublist_append_right _ _
  cases one with
  | minute caps =>
      have most := granted_minute_probes sound.clocked quiet
        (fun settings inForce => caps settings (inForce.of_commit taken)) whole start
      exact inside.countP_le.trans most
  | day caps =>
      have most := granted_day_probes sound quiet
        (fun settings inForce => caps settings (inForce.of_commit taken)) whole start
      exact inside.countP_le.trans most
  | cooled cooled =>
      obtain ⟨instant, rfl⟩ := taken.commit_onClock sound.clocked sound.onClock saved
      obtain ⟨next, following, rfl, initial⟩ :=
        paused_of_exhausted taken saved reported noReset noWindow cooled
      obtain ⟨reservations, current, within, paused⟩ := @granted_of_accounts _ _ _
        (fun _ => Paused (quotaGroup provider) (midnightAfter instant.timestampMillis)) _ _
        (paused_invariant codec _ (quotaGroup provider) _) (taken.clocked sound.clocked) initial run
      exact within.countP_le.trans ((paused.countProbes_eq start).trans_le (Nat.zero_le 1))

/-- Nothing is left, for how long is not told. -/
def QuotaFeedback.noneLeft : QuotaFeedback where
  cooldownUntil := none
  unknownReset := false
  remaining := some 0
  resetAt := none

/-- A minute after the epoch. -/
def minuteAfter : DateTime := ⟨60000000000, by decide, by decide⟩

/-- A reserve at the end of the fallback, and its answer. -/
def probe (call : CallId) : List Event :=
  [.callStarted call (.reserve .abuseipdb), .reservationCommitted call .abuseipdbCheck 60000,
    .reserveReturned call .abuseipdb minuteAfter (.ok ())]

/-- With one reservation a minute there is at most one probe. -/
theorem granted_probes_single : countProbes .abuseipdbCheck 0 59999 (granted (probe 1)) ≤ 1 := by
  obtain ⟨trace, session, after, world, reachable, same, taken, run⟩ :=
    @firstReported_run .single .noneLeft .epoch [(.reserve .abuseipdb, minuteAfter)] _ rfl
  have run : Run (Step .blank) after (probe 1) world := run
  have caps : ∀ settings, InForce session (probe 1) settings → settings = .single := by
    rintro settings (rfl | ⟨wall, effective, opened⟩)
    · exact same
    · simp [probe] at opened
  refine @granted_probes _ _ _ _ _ _ _ _ .abuseipdb _ 0 reachable taken
    (List.mem_singleton.mpr rfl) rfl rfl rfl run (.minute ?_) 59999
  intro settings inForce
  obtain rfl := caps settings inForce
  exact ⟨by decide, by decide⟩

/-- Without a minute cap the end of the fallback leaves what the day permits. -/
theorem granted_probes_uncapped :
    ¬ ∀ (codec : PayloadCodec) (trace emitted later : List Event) (database : Database)
        (session : Session) (after world : World) (provider : ProviderId)
        (feedback : QuotaFeedback) (now start : Int),
      Run (Step codec) (.closed none) trace (.running database session) →
      Step codec (.running database session) emitted after →
      Event.feedbackCommitted (quotaGroup provider) feedback now ∈ emitted →
      feedback.remaining = some 0 → feedback.resetAt = none →
      (database.quotaState (quotaGroup provider)).providerResetAt = none →
      Run (Step codec) after later world →
      (∀ received, Event.feedbackRetained (quotaGroup provider) received ∉ later) →
      countProbes (quotaGroup provider) (now / dayMillis) start (granted later) ≤ 1 := by
  intro claim
  obtain ⟨trace, session, after, world, reachable, _, taken, run⟩ :=
    @firstReported_run twoAttemptSettings .noneLeft .epoch
      [(.reserve .abuseipdb, minuteAfter), (.reserve .abuseipdb, minuteAfter)] _ rfl
  have run : Run (Step .blank) after (probe 1 ++ probe 2) world := run
  have quiet : ∀ received,
      Event.feedbackRetained .abuseipdbCheck received ∉ probe 1 ++ probe 2 := by
    intro received member
    simp [probe] at member
  have most := claim .blank trace _ (probe 1 ++ probe 2) _ session after world .abuseipdb _ 0 59999
    reachable taken (List.mem_singleton.mpr rfl) rfl rfl rfl run quiet
  exact absurd most (by decide)

end RustEnrich.Storage
