import RustEnrich.Storage.Reservations

/-!
# Reported allowances

Once an allowance with a later reset time is in the row, no more reservations
than it are granted before that time. Every place that forgets an allowance
waits for the reset, later reports only lower it, and each granted reservation
takes one attempt from it.
-/

namespace RustEnrich.Storage

open Transitions

/-- A feedback is one of those merged into another. -/
inductive PartOf (feedback : QuotaFeedback) : QuotaFeedback → Prop
  | refl : PartOf feedback feedback
  | left {old new : QuotaFeedback} (inside : PartOf feedback old) :
      PartOf feedback (mergeFeedback old new)
  | right {old new : QuotaFeedback} (inside : PartOf feedback new) :
      PartOf feedback (mergeFeedback old new)

/-- A report of at most `limit` attempts until `target` or later. -/
def Announces (feedback : QuotaFeedback) (limit : Nat) (target : Int) : Prop :=
  ∃ remaining reset, feedback.remaining = some remaining ∧ remaining ≤ limit ∧
    feedback.resetAt = some reset ∧ target ≤ reset.timestampMillis

/-- A row that permits at most `limit` attempts until `target` or later. -/
def AllowedUntil (state : QuotaState) (limit : Nat) (target : Int) : Prop :=
  ∃ remaining reset, state.providerRemaining = some remaining ∧ remaining ≤ limit ∧
    state.providerResetAt = some reset ∧ target ≤ reset

/-- Merging does not raise what the older report says is left. -/
theorem mergeFeedback_remaining_left {old : QuotaFeedback} {remaining : Nat}
    (reported : old.remaining = some remaining) (new : QuotaFeedback) :
    ∃ merged, (mergeFeedback old new).remaining = some merged ∧ merged ≤ remaining := by
  unfold mergeFeedback
  rw [reported]
  cases new.remaining with
  | none => exact ⟨remaining, rfl, le_refl _⟩
  | some other => exact ⟨min remaining other, rfl, min_le_left _ _⟩

/-- Merging does not raise what the newer report says is left. -/
theorem mergeFeedback_remaining_right {new : QuotaFeedback} {remaining : Nat}
    (reported : new.remaining = some remaining) (old : QuotaFeedback) :
    ∃ merged, (mergeFeedback old new).remaining = some merged ∧ merged ≤ remaining := by
  unfold mergeFeedback
  rw [reported]
  cases old.remaining with
  | none => exact ⟨remaining, rfl, le_refl _⟩
  | some other => exact ⟨min other remaining, rfl, min_le_right _ _⟩

/-- Merging keeps what the older report announces. -/
theorem Announces.merge_left {old : QuotaFeedback} {limit : Nat} {target : Int}
    (announces : Announces old limit target) (new : QuotaFeedback) :
    Announces (mergeFeedback old new) limit target := by
  obtain ⟨remaining, reset, reported, within, told, after⟩ := announces
  obtain ⟨later, latest, ahead⟩ := le_laterOf_left told new.resetAt
  obtain ⟨fewer, fewest, below⟩ := mergeFeedback_remaining_left reported new
  exact ⟨fewer, later, fewest, below.trans within, latest,
    after.trans (DateTime.timestampMillis_mono ahead)⟩

/-- Merging keeps what the newer report announces. -/
theorem Announces.merge_right {new : QuotaFeedback} {limit : Nat} {target : Int}
    (announces : Announces new limit target) (old : QuotaFeedback) :
    Announces (mergeFeedback old new) limit target := by
  obtain ⟨remaining, reset, reported, within, told, after⟩ := announces
  obtain ⟨later, latest, ahead⟩ := le_laterOf_right told old.resetAt
  obtain ⟨fewer, fewest, below⟩ := mergeFeedback_remaining_right reported old
  exact ⟨fewer, later, fewest, below.trans within, latest,
    after.trans (DateTime.timestampMillis_mono ahead)⟩

/-- What a part announces the whole does. -/
theorem PartOf.announces {feedback merged : QuotaFeedback} {limit : Nat} {target : Int}
    (part : PartOf feedback merged) (announces : Announces feedback limit target) :
    Announces merged limit target := by
  induction part with
  | refl => exact announces
  | left _ ih => exact ih.merge_left _
  | right _ ih => exact ih.merge_right _

/-! ### The row keeps an allowance until its reset -/

namespace QuotaState

variable {state next : QuotaState} {feedback : QuotaFeedback} {now target : Int} {limit : Nat}

/-- Before the reset expiry keeps the allowance. -/
theorem allowedUntil_expireFeedback (allowed : AllowedUntil state limit target)
    (before : now < target) : AllowedUntil (state.expireFeedback now) limit target := by
  obtain ⟨remaining, reset, fewest, within, latest, after⟩ := allowed
  have current : ¬ reset ≤ now := by omega
  have kept : state.expireReset now = state := by
    unfold expireReset
    simp [latest, current]
  unfold expireFeedback expireCooldown
  rw [kept]
  split
  · refine ⟨remaining, reset, ?_, within, latest, after⟩
    simp [latest, fewest]
  · exact ⟨remaining, reset, fewest, within, latest, after⟩

/-- A new day keeps the allowance. -/
theorem allowedUntil_startDay (allowed : AllowedUntil state limit target) (today : Int) :
    AllowedUntil (state.startDay today) limit target := by
  obtain ⟨remaining, reset, fewest, within, latest, after⟩ := allowed
  refine ⟨remaining, reset, ?_, within, latest, after⟩
  simp [startDay, latest, fewest]

/-- Before the reset a new day keeps the allowance. -/
theorem allowedUntil_advanceDay {wall : DateTime} (advanced : state.advanceDay wall = .ok next)
    (allowed : AllowedUntil state limit target) (before : wall.timestampMillis < target) :
    AllowedUntil next limit target := by
  obtain ⟨_, _, ⟨_, rfl⟩ | ⟨_, rfl⟩⟩ := advanceDay_ok advanced
  · exact allowedUntil_expireFeedback allowed before
  · exact allowedUntil_expireFeedback (allowedUntil_startDay allowed _) before

/-- A reported cooldown keeps the allowance. -/
theorem allowedUntil_applyCooldown (allowed : AllowedUntil state limit target) :
    AllowedUntil (state.applyCooldown feedback now) limit target := by
  unfold AllowedUntil
  rw [applyCooldown_providerRemaining, applyCooldown_providerResetAt]
  exact allowed

/-- The fallback keeps the allowance. -/
theorem allowedUntil_ensureUnknownCooldown (allowed : AllowedUntil state limit target) :
    AllowedUntil (state.ensureUnknownCooldown now) limit target := by
  unfold AllowedUntil
  rw [ensureUnknownCooldown_providerRemaining, ensureUnknownCooldown_providerResetAt]
  exact allowed

/-- A later report only lowers an allowance and only extends its window. -/
theorem allowedUntil_applyAllowance (allowed : AllowedUntil state limit target)
    (feedback : QuotaFeedback) (unobservedAttempts : Nat) :
    AllowedUntil (state.applyAllowance feedback unobservedAttempts) limit target := by
  obtain ⟨remaining, reset, fewest, within, latest, after⟩ := allowed
  unfold AllowedUntil applyAllowance
  rw [fewest, latest]
  cases feedback.remaining with
  | none =>
      cases feedback.resetAt with
      | none => exact ⟨remaining, reset, rfl, within, rfl, after⟩
      | some other => exact ⟨remaining, _, rfl, within, rfl, after.trans (le_max_left _ _)⟩
  | some reported =>
      have lower : min remaining reported ≤ limit := (min_le_left _ _).trans within
      cases feedback.resetAt with
      | none => exact ⟨_, reset, rfl, lower, rfl, after⟩
      | some other => exact ⟨_, _, rfl, lower, rfl, after.trans (le_max_left _ _)⟩

/-- A report puts its allowance into the row. -/
theorem applyAllowance_allowed (announces : Announces feedback limit target)
    (state : QuotaState) (unobservedAttempts : Nat) :
    AllowedUntil (state.applyAllowance feedback unobservedAttempts) limit target := by
  obtain ⟨remaining, reset, fewest, within, latest, after⟩ := announces
  have resets : ∃ stored, (state.applyAllowance feedback unobservedAttempts).providerResetAt =
      some stored ∧ target ≤ stored := by
    unfold applyAllowance
    rw [latest]
    cases state.providerResetAt with
    | none => exact ⟨_, rfl, after⟩
    | some old => exact ⟨_, rfl, after.trans (le_max_right _ _)⟩
  have lowers : ∃ left, (state.applyAllowance feedback unobservedAttempts).providerRemaining =
      some left ∧ left ≤ limit := by
    unfold applyAllowance
    rw [fewest]
    cases state.providerRemaining with
    | none => exact ⟨_, rfl, (Nat.sub_le _ _).trans within⟩
    | some old => exact ⟨_, rfl, (min_le_right _ _).trans within⟩
  obtain ⟨stored, atReset, later⟩ := resets
  obtain ⟨left, recorded, below⟩ := lowers
  exact ⟨left, stored, recorded, below, atReset, later⟩

/-- Before the reset a report keeps the allowance. -/
theorem allowedUntil_applyFeedback {unobservedAttempts : Nat}
    (applied : state.applyFeedback feedback now unobservedAttempts = .ok next)
    (allowed : AllowedUntil state limit target) (before : now < target) :
    AllowedUntil next limit target := by
  have kept : AllowedUntil ((state.expireFeedback now).applyCooldown feedback now) limit target :=
    allowedUntil_applyCooldown (allowedUntil_expireFeedback allowed before)
  rcases applyFeedback_ok applied with ⟨_, rfl⟩ | ⟨_, rfl⟩
  · exact kept
  · exact allowedUntil_ensureUnknownCooldown (allowedUntil_applyAllowance kept _ _)

/-- A report whose window is still to end is not stale. -/
theorem applyFeedback_announced {unobservedAttempts : Nat}
    (applied : state.applyFeedback feedback now unobservedAttempts = .ok next)
    (announces : Announces feedback limit target) (before : now < target) :
    next = (((state.expireFeedback now).applyCooldown feedback now).applyAllowance feedback
      unobservedAttempts).ensureUnknownCooldown now := by
  rcases applyFeedback_ok applied with ⟨⟨stale, ended, passed⟩, _⟩ | ⟨_, same⟩
  · obtain ⟨_, reset, _, _, latest, after⟩ := announces
    rw [latest] at ended
    cases ended
    omega
  · exact same

/-- Before its reset a report leaves the allowance it announces. -/
theorem applyFeedback_allowed {unobservedAttempts : Nat}
    (applied : state.applyFeedback feedback now unobservedAttempts = .ok next)
    (announces : Announces feedback limit target) (before : now < target) :
    AllowedUntil next limit target := by
  rw [applyFeedback_announced applied announces before]
  exact allowedUntil_ensureUnknownCooldown (applyAllowance_allowed announces _ _)

/-- A granted attempt is one the row still permitted. -/
theorem allowedUntil_consume (consumed : state.consume now = .ok next)
    (allowed : AllowedUntil state limit target) (permitted : state.providerRemaining ≠ some 0) :
    ∃ left, AllowedUntil next left target ∧ left + 1 ≤ limit := by
  obtain ⟨remaining, reset, fewest, within, latest, after⟩ := allowed
  obtain ⟨_, _, spent, kept⟩ := consume_ok consumed
  have positive : remaining ≠ 0 := by
    rintro rfl
    exact permitted fewest
  refine ⟨remaining - 1, ⟨remaining - 1, reset, ?_, le_refl _, kept.trans latest, after⟩, by omega⟩
  rw [spent, fewest]
  rfl

end QuotaState

/-! ### What a transaction leaves of an allowance -/

/-- An allowance in the row a transaction reads or in the snapshot it applies. -/
def AllowanceKnown (state : QuotaState) (pending : Option PendingFeedback) (limit : Nat)
    (target : Int) : Prop :=
  AllowedUntil state limit target ∨
    ∃ entry, pending = some entry ∧ Announces entry.feedback limit target

/-- A decision grants only where the row permits, and takes what it grants. -/
theorem settle_allowed {state stored : QuotaState} {before attempts left : List QuotaAttempt}
    {group : QuotaGroup} {limits : QuotaLimits} {now target : Int} {decision : QuotaDecision}
    {limit : Nat}
    (deciding : quotaDecision before group limits state now now = .ok decision)
    (settling : settle state attempts group limits now decision = .ok (stored, left))
    (allowed : AllowedUntil state limit target) :
    ∃ rest, AllowedUntil stored rest target ∧
      rest + (if decision.blocked then 0 else 1) ≤ limit := by
  rcases settle_ok settling with ⟨denied, rfl, _⟩ | ⟨permitted, consuming, _⟩
  · exact ⟨limit, allowed, by simp [denied]⟩
  · rw [permitted]
    exact QuotaState.allowedUntil_consume consuming allowed
      (permits_of_granted deciding permitted).remaining

/-- A committed reserve takes at most one from the allowance. -/
theorem reserveTransaction_allowed {database next : Database} {group : QuotaGroup}
    {limits : QuotaLimits} {snapshot : ReserveSnapshot} {decision : QuotaDecision} {limit : Nat}
    {target : Int}
    (reserved : reserveTransaction database group limits snapshot.wall snapshot.now
      snapshot.pending = .ok (next, decision))
    (known : AllowanceKnown (database.quotaState group) snapshot.pending limit target)
    (before : snapshot.now < target) :
    ∃ left, AllowedUntil (next.quotaState group) left target ∧
      left + (if decision.blocked then 0 else 1) ≤ limit := by
  obtain ⟨advanced, state, stored, left, advancing, applying, deciding, settling, rfl⟩ :=
    reserveTransaction_ok reserved
  have allowed : AllowedUntil state limit target := by
    rcases known with row | ⟨entry, present, announces⟩
    · have kept := QuotaState.allowedUntil_advanceDay advancing row before
      cases pending : snapshot.pending with
      | none =>
          rw [pending] at applying
          cases applying
          exact kept
      | some entry =>
          rw [pending] at applying
          exact QuotaState.allowedUntil_applyFeedback applying kept before
    · rw [present] at applying
      exact QuotaState.applyFeedback_allowed applying announces before
  simp only [Function.update_self]
  exact settle_allowed deciding settling allowed

/-- A committed report keeps the allowance, and leaves the one it announces. -/
theorem feedbackTransaction_allowed {database next : Database} {group : QuotaGroup}
    {limits : QuotaLimits} {now : Int} {pending : PendingFeedback} {limit : Nat} {target : Int}
    (applied : feedbackTransaction database group limits now pending = .ok next)
    (known : AllowanceKnown (database.quotaState group) (some pending) limit target)
    (before : now < target) : AllowedUntil (next.quotaState group) limit target := by
  obtain ⟨stored, applying, rfl⟩ := feedbackTransaction_ok applied
  simp only [Function.update_self]
  rcases known with row | ⟨entry, present, announces⟩
  · exact QuotaState.allowedUntil_applyFeedback applying row before
  · cases present
    exact QuotaState.applyFeedback_allowed applying announces before

/-! ### Runs inside the reported window -/

/-- The reservations of a group before a time. -/
def countBefore (group : QuotaGroup) (target : Int) (reservations : List Reservation) : Nat :=
  reservations.countP (fun reservation =>
    reservation.group = group ∧ reservation.now < target)

/-- The reservations of two lists. -/
theorem countBefore_append (group : QuotaGroup) (target : Int) (front back : List Reservation) :
    countBefore group target (front ++ back) =
      countBefore group target front + countBefore group target back :=
  List.countP_append

/-- A decision reserves at most once. -/
theorem countBefore_granted_le (group : QuotaGroup) (target : Int) (call : CallId) (now : Int)
    (decision : QuotaDecision) :
    countBefore group target (committed (grantedReservation call group now decision)) ≤
      if decision.blocked then 0 else 1 := by
  rw [committed_grantedReservation]
  split
  · exact le_refl _
  · exact List.countP_le_length

/-- A decision of another group, or after the reset, does not count. -/
theorem countBefore_granted_past {group other : QuotaGroup} {target now : Int}
    (past : other ≠ group ∨ target ≤ now) (call : CallId) (decision : QuotaDecision) :
    countBefore group target (committed (grantedReservation call other now decision)) = 0 := by
  rw [committed_grantedReservation]
  split
  · rfl
  · rcases past with distinct | passed
    · simp [countBefore, distinct]
    · simp [countBefore, passed]

variable {codec : PayloadCodec} {start world : World} {trace emitted : List Event}
  {file : Option Database}

/-- The reservations before the reset, and what the row still permits until
then, stay within the report. -/
def AllowanceLeft (group : QuotaGroup) (limit : Nat) (target : Int)
    (reservations : List Reservation) (database : Database) : Prop :=
  countBefore group target reservations ≤ limit ∧
    (target ≤ database.clockHighWater ∨
      ∃ left, AllowedUntil (database.quotaState group) left target ∧
        countBefore group target reservations + left ≤ limit)

/-- What is left of the allowance is an invariant of the accounts. -/
theorem allowanceLeft_invariant (codec : PayloadCodec) (start : World) (group : QuotaGroup)
    (limit : Nat) (target : Int) :
    AccountsInvariant codec start (fun seen database =>
      AllowanceLeft group limit target (start.unanswered ++ committed seen) database) where
  kept := by
    intro seen emitted database next allowed same quiet
    unfold AllowanceLeft
    rw [same.quotaState, same.clockHighWater, committed_append, quiet, List.append_nil]
    exact allowed
  reserved := by
    intro seen database next session call provider snapshot decision _ ahead reserves
      ⟨within, allowed⟩
    have clock := (reserveTransaction_clockHighWater reserves).trans (max_eq_right ahead)
    rw [committed_append, committed_append, committed_appliedFeedback, List.nil_append,
      ← List.append_assoc]
    unfold AllowanceLeft
    rw [countBefore_append, clock]
    by_cases past : quotaGroup provider ≠ group ∨ target ≤ snapshot.now
    · rw [countBefore_granted_past past, Nat.add_zero]
      refine ⟨within, ?_⟩
      by_cases passed : target ≤ snapshot.now
      · exact Or.inl passed
      · have distinct := past.resolve_right passed
        obtain ended | ⟨left, row, bounded⟩ := allowed
        · exact absurd (ended.trans ahead) passed
        · refine Or.inr ⟨left, ?_, bounded⟩
          rw [reserveTransaction_of_ne (Ne.symm distinct) reserves]
          exact row
    · rw [not_or, not_not, not_le] at past
      obtain ⟨rfl, before⟩ := past
      obtain ended | ⟨left, row, bounded⟩ := allowed
      · omega
      · obtain ⟨rest, kept, spent⟩ := reserveTransaction_allowed reserves (Or.inl row) before
        have one := countBefore_granted_le (quotaGroup provider) target call snapshot.now decision
        refine ⟨by omega, Or.inr ⟨rest, kept, by omega⟩⟩
  applied := by
    intro seen database next session provider now pending _ ahead applies ⟨within, allowed⟩
    have clock := (feedbackTransaction_clockHighWater applies).trans (max_eq_right ahead)
    rw [committed_append, committed_appliedFeedback, List.append_nil]
    refine ⟨within, ?_⟩
    rw [clock]
    by_cases passed : target ≤ now
    · exact Or.inl passed
    · obtain ended | ⟨left, row, bounded⟩ := allowed
      · exact absurd (ended.trans ahead) passed
      · refine Or.inr ⟨left, ?_, bounded⟩
        by_cases same : quotaGroup provider = group
        · subst same
          exact feedbackTransaction_allowed applies (Or.inl row) (not_le.mp passed)
        · rw [feedbackTransaction_of_ne (Ne.symm same) applies]
          exact row

/-- The commit of a report leaves its allowance in the row, less the attempt of
the reserve that committed it. -/
theorem allowanceLeft_of_commit {before after : World} {group : QuotaGroup}
    {merged : QuotaFeedback} {now : Int} {limit : Nat} {target : Int}
    (taken : Step codec before emitted after)
    (saved : Event.feedbackCommitted group merged now ∈ emitted)
    (announces : Announces merged limit target) (ahead : now < target) :
    ∃ database session, after = .running database session ∧
      AllowanceLeft group limit target after.unanswered database := by
  rcases taken.of_feedbackCommitted saved with
    ⟨_, next, session, call, provider, snapshot, decision, entry, rfl, _, reserves, rfl, present,
      rfl, rfl, rfl⟩ |
    ⟨_, next, session, _, provider, pending, rfl, _, applies, rfl, rfl, rfl⟩
  · refine ⟨_, _, rfl, ?_⟩
    obtain ⟨left, row, spent⟩ := reserveTransaction_allowed reserves
      (Or.inr ⟨entry, present, announces⟩) ahead
    have one := countBefore_granted_le (quotaGroup provider) target call snapshot.now decision
    unfold AllowanceLeft
    rw [unanswered_reserved]
    exact ⟨by omega, Or.inr ⟨left, row, by omega⟩⟩
  · refine ⟨_, _, rfl, ?_⟩
    have row := feedbackTransaction_allowed applies
      (Or.inr ⟨pending, rfl, announces⟩) ahead
    exact ⟨Nat.zero_le _, Or.inr ⟨limit, row, (Nat.zero_add _).le⟩⟩

/-- **Reported allowances bind.** After the commit of a feedback, alone or
merged with others, that reported `remaining` attempts until a later reset, at
most `remaining` reservations are answered with `Ok` before it. Reset headers
are whole seconds, so their milliseconds are exact. -/
theorem granted_allowance {before after : World} {later : List Event} {group : QuotaGroup}
    {feedback merged : QuotaFeedback} {now : Int} {remaining : Nat} {reset : DateTime}
    (reachable : Run (Step codec) (.closed file) trace before)
    (taken : Step codec before emitted after)
    (saved : Event.feedbackCommitted group merged now ∈ emitted)
    (part : PartOf feedback merged) (reported : feedback.remaining = some remaining)
    (window : feedback.resetAt = some reset) (ahead : now < reset.timestampMillis)
    (run : Run (Step codec) after later world) :
    countBefore group reset.timestampMillis (granted later) ≤ remaining := by
  have announces : Announces merged remaining reset.timestampMillis :=
    part.announces ⟨remaining, reset, reported, le_refl _, window, le_refl _⟩
  obtain ⟨database, session, rfl, initial⟩ := allowanceLeft_of_commit taken saved announces ahead
  have clocked := clocked_run (reachable.snoc taken) trivial
  obtain ⟨current, stored⟩ := database_present run rfl
  have bounded := (allowanceLeft_invariant codec _ group remaining reset.timestampMillis).run run
    clocked nofun (by
      intro first holds
      cases holds
      simpa using initial) stored
  have spent := (List.sublist_append_left _ _).trans (granted_sublist_committed run)
  exact (spent.countP_le).trans bounded.1

/-- One attempt until an hour past the epoch. -/
def QuotaFeedback.oneLeft : QuotaFeedback where
  cooldownUntil := none
  unknownReset := false
  remaining := some 1
  resetAt := some hourAfter

/-- The reserve that takes the last reported attempt. -/
def lastAttempt : List Event :=
  [.callStarted 1 (.reserve .abuseipdb), .reservationCommitted 1 .abuseipdbCheck 0,
    .reserveReturned 1 .abuseipdb .epoch (.ok ())]

/-- After a report of one attempt, at most one reserve is granted. -/
theorem granted_allowance_last :
    countBefore .abuseipdbCheck hourAfter.timestampMillis (granted lastAttempt) ≤ 1 := by
  obtain ⟨next, applies, last, reserves⟩ : ∃ next,
      feedbackTransaction (.create .epoch) .abuseipdbCheck .single 0
        { generation := 1, feedback := .oneLeft } = .ok next ∧
      ∃ last, reserveTransaction next .abuseipdbCheck .single .epoch 0 none =
        .ok (last, { blocked := false, retryAfter := none }) := ⟨_, rfl, _, rfl⟩
  obtain ⟨before, after, following, earlier, taken, cleared, free, idle, saved, single, clock,
      one⟩ := @uninterrupted_feedback .blank (.create .epoch) next (.fresh .single 0) .abuseipdb
    .oneLeft .epoch rfl rfl rfl applies
  have caughtUp : ¬ DateTime.epoch.timestampMillis <
      (following.runtime.observe .epoch).highWater := by
    change ¬ _ < max _ _
    rw [clock]
    decide
  obtain ⟨final, later⟩ := @uninterrupted_reserve .blank next last following .abuseipdb _ .epoch
    free idle saved caughtUp (by rw [single]; exact reserves) rfl
  rw [one] at later
  exact granted_allowance ((Run.single (first_opened .blank)).append earlier) taken
    (List.mem_singleton.mpr rfl) .refl rfl rfl (by decide) (cleared.append later)

end RustEnrich.Storage
