import RustEnrich.Enrichment.MergedFeedback
import RustEnrich.Enrichment.RetryDate
import RustEnrich.Storage.Exhaustion

/-!
# Rejected requests

What a 429 does to the next reservation at the same reading of the clock. It
asks to wait until the times its headers tell, or for a minute where they tell
none; a time that is over cools nothing, and then only what else restricts the
group denies the reservation.
-/

namespace RustEnrich.Enrichment

open Transitions Storage

/-! ### What the headers ask for -/

/-- A time that a header of a 429 asks to wait until. The wait for a date is
the least count of seconds that covers its whole milliseconds. -/
inductive Asks (parseHttpDate : String → Option DateTime) (provider : ProviderId)
    (headers : HeaderMap) (now : DateTime) : DateTime → Prop
  | delta {text : String} {seconds : UInt64} {target : DateTime}
      (header : headers "retry-after" = some text) (digits : isDigits text = true)
      (value : parseU64 text = some seconds)
      (finite : (seconds.toNat * secondNanos : Nat) ≤ i64Max * milliNanos)
      (reached : target.nanos = now.nanos + (seconds.toNat * secondNanos : Nat)) :
      Asks parseHttpDate provider headers now target
  | date {text : String} {date target : DateTime} {seconds : Nat}
      (header : headers "retry-after" = some text) (digits : isDigits text = false)
      (parsed : parseHttpDate text = some date)
      (rounded : ∀ count : Nat, seconds ≤ count ↔
        date.nanos - now.nanos < (count * 1000 + 1) * milliNanos)
      (reached : target.nanos = now.nanos + (seconds * secondNanos : Nat)) :
      Asks parseHttpDate provider headers now target
  | reset {text : String} {seconds : UInt64} {target : DateTime} (ours : provider = .abuseipdb)
      (header : headers "x-ratelimit-reset" = some text) (digits : isDigits text = true)
      (value : parseU64 text = some seconds) (finite : (seconds.toNat : Int) ≤ i64Max)
      (reached : target.nanos = (seconds.toNat * secondNanos : Nat)) :
      Asks parseHttpDate provider headers now target

section Asked

variable {parseHttpDate : String → Option DateTime} {provider : ProviderId} {headers : HeaderMap}
  {now date target : DateTime}

/-- Seconds are converted to the instant they are. -/
theorem fromTimestamp_eq_some {seconds : Nat} :
    DateTime.fromTimestamp seconds = some target ↔
      target.nanos = (seconds * secondNanos : Nat) := by
  have same := @checkedAddSigned_eq_some .epoch target (seconds * 1000000000)
  unfold DateTime.checkedAddSigned at same
  rw [show DateTime.epoch.nanos = 0 from rfl, Int.zero_add] at same
  unfold DateTime.fromTimestamp secondNanos
  rw [same]
  push_cast
  rfl

/-- Retry-After asks for the time it is turned into. -/
theorem asked_retry :
    ((parseRetryAfter parseHttpDate (headers "retry-after") now).bind fromStd).bind
        now.checkedAddSigned = some target ↔
      (∃ text seconds, headers "retry-after" = some text ∧ isDigits text = true ∧
        parseU64 text = some seconds ∧
        ((seconds.toNat * secondNanos : Nat) : Int) ≤ i64Max * milliNanos ∧
        target.nanos = now.nanos + (seconds.toNat * secondNanos : Nat)) ∨
      ∃ text date, headers "retry-after" = some text ∧ isDigits text = false ∧
        parseHttpDate text = some date ∧
        target.nanos = now.nanos + (secondsUntil date now * secondNanos : Nat) := by
  unfold parseRetryAfter
  simp only [Option.bind_eq_some_iff, checkedAddSigned_eq_some]
  cases headers "retry-after" with
  | none => simp
  | some text =>
      simp only [Option.some.injEq, exists_and_left, exists_eq_left']
      cases digits : isDigits text with
      | true =>
          simp only [↓reduceIte, Option.map_eq_some_iff, true_and, Bool.true_eq_false, false_and,
            or_false]
          constructor
          · rintro ⟨nanos, ⟨duration, ⟨seconds, value, rfl⟩, converted⟩, reached⟩
            obtain ⟨finite, rfl⟩ := fromStd_fromSecs.mp converted
            exact ⟨seconds, value, finite, reached⟩
          · rintro ⟨seconds, value, finite, reached⟩
            exact ⟨_, ⟨_, ⟨seconds, value, rfl⟩, fromStd_fromSecs.mpr ⟨finite, rfl⟩⟩, reached⟩
      | false =>
          simp only [Bool.false_eq_true, ↓reduceIte, Option.map_eq_some_iff, false_and, false_or,
            true_and]
          constructor
          · rintro ⟨nanos, ⟨duration, ⟨date, parsed, rfl⟩, converted⟩, reached⟩
            cases fromStd_secondsUntil.symm.trans converted
            exact ⟨date, parsed, reached⟩
          · rintro ⟨date, parsed, reached⟩
            exact ⟨_, ⟨_, ⟨date, parsed, rfl⟩, fromStd_secondsUntil⟩, reached⟩

/-- A number is read of a header of digits that fits its column. -/
theorem number_eq_some {name : String} {value : Nat} :
    number headers name = some value ↔ ∃ text seconds, headers name = some text ∧
      isDigits text = true ∧ parseU64 text = some seconds ∧ seconds.toNat = value ∧
      (value : Int) ≤ i64Max := by
  unfold number
  simp only [Option.filter_eq_some_iff, Option.map_eq_some_iff, Option.bind_eq_some_iff,
    decide_eq_true_eq]
  constructor
  · rintro ⟨⟨seconds, ⟨text, ⟨header, digits⟩, parsed⟩, same⟩, finite⟩
    exact ⟨text, seconds, header, digits, parsed, same, finite⟩
  · rintro ⟨text, seconds, header, digits, parsed, same, finite⟩
    exact ⟨⟨seconds, ⟨text, ⟨header, digits⟩, parsed⟩, same⟩, finite⟩

/-- What the headers of a 429 ask for is what its feedback weighs. -/
theorem asks_iff : Asks parseHttpDate provider headers now target ↔
    ((parseRetryAfter parseHttpDate (headers "retry-after") now).bind fromStd).bind
        now.checkedAddSigned = some target ∨ reportedReset headers provider = some target := by
  rw [asked_retry]
  constructor
  · intro asks
    cases asks with
    | delta header digits value finite reached =>
        exact Or.inl (Or.inl ⟨_, _, header, digits, value, finite, reached⟩)
    | @date text date _ seconds header digits parsed rounded reached =>
        have same : seconds = secondsUntil date now := by
          apply le_antisymm
          · exact (rounded _).mpr ((secondsUntil_le_iff _).mp (le_refl _))
          · exact (secondsUntil_le_iff _).mpr ((rounded _).mp (le_refl _))
        subst same
        exact Or.inl (Or.inr ⟨text, date, header, digits, parsed, reached⟩)
    | reset ours header digits value finite reached =>
        subst ours
        refine Or.inr (Option.bind_eq_some_iff.mpr ⟨_, ?_, fromTimestamp_eq_some.mpr reached⟩)
        exact number_eq_some.mpr ⟨_, _, header, digits, value, rfl, finite⟩
  · rintro ((⟨text, seconds, header, digits, value, finite, reached⟩ |
      ⟨text, date, header, digits, parsed, reached⟩) | window)
    · exact .delta header digits value finite reached
    · exact .date header digits parsed secondsUntil_le_iff reached
    · cases provider with
      | virustotal => cases window
      | abuseipdb =>
          obtain ⟨seconds, read, converted⟩ := Option.bind_eq_some_iff.mp window
          obtain ⟨text, value, header, digits, parsed, rfl, finite⟩ := number_eq_some.mp read
          exact .reset rfl header digits parsed finite (fromTimestamp_eq_some.mp converted)

/-- The cooldown a 429 reports lies ahead where it asks for a time ahead, or
for no time at all and chrono represents the minute after the reading. -/
theorem cools_rejected :
    Cools (feedbackFromHeaders parseHttpDate provider 429 headers now) now.timestampMillis ↔
      (∃ target, Asks parseHttpDate provider headers now target ∧
        now.timestampMillis < target.timestampMillis) ∨
      (∀ target, ¬ Asks parseHttpDate provider headers now target) ∧
        (now.checkedAddSigned (60 * 1000000000)).isSome := by
  have weighed : askedUntil parseHttpDate provider 429 headers now =
      laterOf (((parseRetryAfter parseHttpDate (headers "retry-after") now).bind fromStd).bind
        now.checkedAddSigned) (reportedReset headers provider) := rfl
  simp only [asks_iff, Cools, feedbackFromHeaders_eq, ↓reduceIte, weighed]
  generalize ((parseRetryAfter parseHttpDate (headers "retry-after") now).bind fromStd).bind
    now.checkedAddSigned = retry
  generalize reportedReset headers provider = reset
  have minute : ∀ target, now.checkedAddSigned (60 * 1000000000) = some target →
      now.timestampMillis < target.timestampMillis := by
    intro target reached
    have later := checkedAddSigned_eq_some.mp reached
    unfold DateTime.timestampMillis milliNanos
    omega
  cases retry with
  | none =>
      cases reset with
      | none =>
          simp only [laterOf, Option.none_or, reduceCtorEq, or_self, false_and, exists_false,
            not_false_eq_true, implies_true, true_and, false_or, Option.isSome_iff_exists]
          refine exists_congr fun target => and_iff_left_of_imp fun reached => ?_
          exact minute target reached
      | some reset => simp [laterOf]
  | some retry =>
      cases reset with
      | none => simp [laterOf]
      | some reset =>
          simp only [laterOf, Option.some_or, Option.some.injEq, exists_eq_left']
          rcases le_total retry reset with before | after
          · have same := DateTime.timestampMillis_mono before
            rw [max_eq_right before]
            constructor
            · intro ahead
              exact Or.inl ⟨reset, Or.inr rfl, ahead⟩
            · rintro (⟨target, rfl | rfl, ahead⟩ | ⟨silent, _⟩)
              · exact ahead.trans_le same
              · exact ahead
              · exact absurd (Or.inr rfl) (silent reset)
          · have same := DateTime.timestampMillis_mono after
            rw [max_eq_left after]
            constructor
            · intro ahead
              exact Or.inl ⟨retry, Or.inl rfl, ahead⟩
            · rintro (⟨target, rfl | rfl, ahead⟩ | ⟨silent, _⟩)
              · exact ahead
              · exact ahead.trans_le same
              · exact absurd (Or.inl rfl) (silent retry)

/-! ### What the row is left with -/

/-- What the retained feedback of a group and the headers of a response tell. -/
def Tells {α : Type} (retained : Option PendingFeedback) (field : QuotaFeedback → Option α)
    (read : Option α) (value : α) : Prop :=
  (∃ entry, retained = some entry ∧ field entry.feedback = some value) ∨ read = some value

/-- Every window told of has ended, and at least one is. -/
def Late (retained : Option PendingFeedback) (headers : HeaderMap) (provider : ProviderId)
    (now : Int) : Prop :=
  (∃ reset, Tells retained QuotaFeedback.resetAt (reportedReset headers provider) reset) ∧
    ∀ reset, Tells retained QuotaFeedback.resetAt (reportedReset headers provider) reset →
      reset.timestampMillis ≤ now

/-- What pauses a group after a 429, told from the row and the retained feedback
before it, the headers and the reading. -/
inductive Pauses (parseHttpDate : String → Option DateTime) (row : QuotaState)
    (retained : Option PendingFeedback) (unobservedAttempts : Nat) (provider : ProviderId)
    (headers : HeaderMap) (now : DateTime) : Prop
  /-- A cooldown of the row is active. -/
  | cooling (cooling : Cooling row now.timestampMillis)
  /-- Retained feedback asks for a cooldown. -/
  | retained {entry : PendingFeedback} (present : retained = some entry)
      (cools : Cools entry.feedback now.timestampMillis)
  /-- A header asks for a time ahead. -/
  | asked {target : DateTime} (asks : Asks parseHttpDate provider headers now target)
      (ahead : now.timestampMillis < target.timestampMillis)
  /-- No header asks for a time, and a minute later is one. -/
  | fallback (silent : ∀ target, ¬ Asks parseHttpDate provider headers now target)
      (minute : (now.checkedAddSigned (60 * 1000000000)).isSome)
  /-- The allowance of the row is exhausted. -/
  | exhausted (spent : (row.expireFeedback now.timestampMillis).providerRemaining = some 0)
  /-- The allowance told is exhausted, or may be by attempts not observed yet. -/
  | reported {remaining : Nat}
      (tells : Tells retained QuotaFeedback.remaining (reportedRemaining headers provider)
        remaining)
      (current : ¬ Late retained headers provider now.timestampMillis)
      (spends : remaining = 0 ∨
        (row.expireFeedback now.timestampMillis).providerRemaining = none ∧
          remaining ≤ unobservedAttempts)

/-- The retained feedback of a group with that of a new response. -/
def mergedWith (retained : Option PendingFeedback) (feedback : QuotaFeedback) : QuotaFeedback :=
  match retained with
  | some old => mergeFeedback old.feedback feedback
  | none => feedback

variable {retained : Option PendingFeedback} {row stored : QuotaState} {unobservedAttempts : Nat}
  {feedback : QuotaFeedback}

/-- What is merged cools where what is retained does or the feedback. -/
theorem cools_mergedWith {millis : Int} :
    Cools (mergedWith retained feedback) millis ↔
      (∃ entry, retained = some entry ∧ Cools entry.feedback millis) ∨ Cools feedback millis := by
  cases retained with
  | none => simp [mergedWith]
  | some old => simp [mergedWith, cools_mergeFeedback]

/-- What is merged is stale where its reset is over. -/
theorem stale_mergedWith {millis : Int}
    (reset : feedback.resetAt = reportedReset headers provider) :
    Stale (mergedWith retained feedback) millis ↔ Late retained headers provider millis := by
  unfold Late Tells
  rw [← reset]
  cases retained with
  | none => cases told : feedback.resetAt <;> simp [mergedWith, Stale, told]
  | some old =>
      simp only [mergedWith, stale_mergeFeedback, Option.some.injEq, exists_eq_left']
      unfold Stale
      cases first : old.feedback.resetAt <;> cases second : feedback.resetAt <;> simp
      · rename_i left right
        constructor
        · rintro ⟨one, two⟩
          rintro reset (rfl | rfl)
          · exact one
          · exact two
        · intro ended
          exact ⟨ended left (Or.inl rfl), ended right (Or.inr rfl)⟩

/-- What is merged exhausts where some of it tells so. -/
theorem exhausts_mergedWith {allowance : Option Nat}
    (remaining : feedback.remaining = reportedRemaining headers provider) :
    Exhausts (mergedWith retained feedback) allowance unobservedAttempts ↔
      ∃ told, Tells retained QuotaFeedback.remaining (reportedRemaining headers provider) told ∧
        (told = 0 ∨ allowance = none ∧ told ≤ unobservedAttempts) := by
  unfold Exhausts Tells
  rw [← remaining]
  cases retained with
  | none => simp [mergedWith]
  | some old =>
      simp only [mergedWith, mergeFeedback, Option.some.injEq, exists_eq_left']
      cases first : old.feedback.remaining <;> cases second : feedback.remaining <;> simp
      · rename_i left right
        rw [and_or_left]
        exact or_or_or_comm ..

/-- A committed 429 leaves the row restricted exactly where it pauses. -/
theorem restricted_rejected (applied : row.applyFeedback
      (mergedWith retained (feedbackFromHeaders parseHttpDate provider 429 headers now))
      now.timestampMillis unobservedAttempts = .ok stored) :
    Restricted stored now.timestampMillis ↔
      Pauses parseHttpDate row retained unobservedAttempts provider headers now := by
  have left := applied_of_applyFeedback applied
  have remaining : (feedbackFromHeaders parseHttpDate provider 429 headers now).remaining =
      reportedRemaining headers provider := by rw [feedbackFromHeaders_eq]
  have reset : (feedbackFromHeaders parseHttpDate provider 429 headers now).resetAt =
      reportedReset headers provider := by rw [feedbackFromHeaders_eq]
  have spent : stored.providerRemaining = some 0 ↔
      (row.expireFeedback now.timestampMillis).providerRemaining = some 0 ∨
        ¬ Late retained headers provider now.timestampMillis ∧
          ∃ told, Tells retained QuotaFeedback.remaining (reportedRemaining headers provider) told ∧
            (told = 0 ∨ (row.expireFeedback now.timestampMillis).providerRemaining = none ∧
              told ≤ unobservedAttempts) := by
    rw [left.remaining, ← stale_mergedWith reset, ← exhausts_mergedWith remaining]
    by_cases zero : (row.expireFeedback now.timestampMillis).providerRemaining = some 0
    · simp [zero, observedAllowance_zero]
    · rw [exhausts_iff zero]
      split <;> simp_all
  rw [left.restricted, cools_mergedWith, cools_rejected, spent]
  constructor
  · rintro (cooling | (⟨entry, present, cools⟩ | ⟨target, asks, ahead⟩ | ⟨silent, minute⟩) |
      exhausted | ⟨current, told, tells, spends⟩)
    · exact .cooling cooling
    · exact .retained present cools
    · exact .asked asks ahead
    · exact .fallback silent minute
    · exact .exhausted exhausted
    · exact .reported tells current spends
  · intro pauses
    cases pauses with
    | cooling cooling => exact Or.inl cooling
    | retained present cools => exact Or.inr (Or.inl (Or.inl ⟨_, present, cools⟩))
    | asked asks ahead => exact Or.inr (Or.inl (Or.inr (Or.inl ⟨_, asks, ahead⟩)))
    | fallback silent minute => exact Or.inr (Or.inl (Or.inr (Or.inr ⟨silent, minute⟩)))
    | exhausted spent => exact Or.inr (Or.inr (Or.inl spent))
    | reported tells current spends => exact Or.inr (Or.inr (Or.inr ⟨current, _, tells, spends⟩))

end Asked

/-! ### The next reservation -/

/-- The daily cap is spent on the day of a reading. -/
def DaySpent (limits : QuotaLimits) (row : QuotaState) (now : DateTime) : Prop :=
  limits.day ≤ if row.day = .ofDate now.dateNaive then row.dailyConsumed else 0

/-- The minute before a reading holds as many attempts as the cap permits. -/
def MinuteFull (limits : QuotaLimits) (attempts : List QuotaAttempt) (group : QuotaGroup)
    (now : DateTime) : Prop :=
  0 < limits.minute ∧ limits.minute ≤ attempts.countP
    (fun row => row.quotaGroup = group ∧ now.timestampMillis - 60000 < row.reservedAt)

/-- The recent attempts are counted in the rows. -/
theorem recentAttempts_length (attempts : List QuotaAttempt) (group : QuotaGroup)
    (now : DateTime) :
    (Verdict.recentAttempts attempts group (saturatingSub now.timestampMillis 60000)).length =
      attempts.countP
        (fun row => row.quotaGroup = group ∧ now.timestampMillis - 60000 < row.reservedAt) := by
  unfold Verdict.recentAttempts
  rw [List.length_insertionSort, List.length_map, ← List.countP_eq_length_filter,
    saturatingSub_window]

section Reserve

variable {database : Database} {group : QuotaGroup} {limits : QuotaLimits} {now : DateTime}

section LeftAt

variable {advanced : QuotaState} {saved : Int}

/-- A row brought up to date is spent where the stored one is, on its own day. -/
theorem daySpent_iff (started : saved ≤ now.dateNaive) {stored : QuotaState}
    (day : stored.day = .ofDate saved) (left : stored.LeftAt saved now advanced) :
    limits.day ≤ advanced.dailyConsumed ↔ DaySpent limits stored now := by
  unfold DaySpent
  rw [left.consumed, day]
  by_cases earlier : saved < now.dateNaive
  · rw [if_pos earlier, if_neg fun same => earlier.ne (DayText.ofDate.inj same)]
  · rw [if_neg earlier, if_pos (by rw [le_antisymm started (not_lt.mp earlier)])]

/-- An advanced row cools where the stored one does. -/
theorem cooling_iff {stored : QuotaState} (left : stored.LeftAt saved now advanced) :
    (∃ target, advanced.cooldownUntil = some target ∧ now.timestampMillis < target) ↔
      Cooling stored now.timestampMillis := by
  unfold Cooling
  rw [left.cooldown]
  simp only [Option.filter_eq_some_iff, decide_eq_true_eq, and_assoc, and_self]

/-- An exhaustion that a new day forgets leaves its cooldown. -/
theorem restricted_iff {stored : QuotaState} (current : Current stored now.timestampMillis)
    (ends : stored.Ends) (left : stored.LeftAt saved now advanced) :
    (Cooling stored now.timestampMillis ∨ advanced.providerRemaining = some 0) ↔
      Restricted stored now.timestampMillis := by
  unfold Restricted
  rw [left.exhausted]
  constructor
  · exact Or.imp_right And.left
  · intro either
    cases either with
    | inl cools => exact Or.inl cools
    | inr exhausted =>
        cases window : stored.providerResetAt with
        | some reset => exact Or.inr ⟨exhausted, current.reset reset window⟩
        | none =>
            obtain ⟨target, held⟩ := Option.ne_none_iff_exists'.mp
              ((ends exhausted).resolve_left (not_not.mpr window))
            exact Or.inl ⟨target, held, current.cooldown target held⟩

end LeftAt

/-- What denies a decision at the reading of a row in which nothing has ended. -/
theorem blocked_iff {advanced stored : QuotaState} {saved : Int} {decision : QuotaDecision}
    {attempts : List QuotaAttempt} (started : saved ≤ now.dateNaive)
    (day : stored.day = .ofDate saved) (left : stored.LeftAt saved now advanced)
    (current : Current stored now.timestampMillis) (ends : stored.Ends)
    (deciding : quotaDecision (pruneAttempts attempts group
      (saturatingSub now.timestampMillis 60000)) group limits advanced now.timestampMillis
        now.timestampMillis = .ok decision) :
    decision.blocked = true ↔ Restricted stored now.timestampMillis ∨
      DaySpent limits stored now ∨ MinuteFull limits attempts group now := by
  have minute : MinuteFull limits attempts group now ↔
      0 < limits.minute ∧ limits.minute ≤ (Verdict.recentAttempts
        (pruneAttempts attempts group (saturatingSub now.timestampMillis 60000)) group
          (saturatingSub now.timestampMillis 60000)).length := by
    rw [recentAttempts_pruneAttempts, recentAttempts_length]
    rfl
  rw [quotaDecision_blocked deciding, cooling_iff left, daySpent_iff started day left, ← minute,
    ← restricted_iff current ends left]
  have caughtUp := lt_irrefl now.timestampMillis
  tauto

/-- A reservation at the reading of a row in which nothing has ended is denied
by what restricts the row, a spent day or a full minute. -/
theorem reserveTransaction_denied (sound : database.Sound)
    (ahead : database.clockHighWater ≤ now.timestampMillis)
    (current : Current (database.quotaState group) now.timestampMillis)
    (ends : (database.quotaState group).Ends) :
    (∃ next decision, reserveTransaction database group limits now now.timestampMillis none =
        .ok (next, decision) ∧ decision.blocked = true) ↔
      (Restricted (database.quotaState group) now.timestampMillis ∨
        DaySpent limits (database.quotaState group) now ∨
        MinuteFull limits database.quotaAttempts group now) ∧
      (DaySpent limits (database.quotaState group) now →
        now.dateNaive + 1 ≤ NaiveDate.max) := by
  obtain ⟨saved, day, _⟩ := (sound.state group).day
  obtain ⟨advanced, advancing, _⟩ := (sound.state group).advanceDay ahead
  obtain ⟨started, left⟩ := QuotaState.leftAt_of_advanceDay day advancing
  have spent := @daySpent_iff limits now advanced saved started _ day left
  have applying : applyPending advanced none now.timestampMillis limits.unobservedAttempts =
      .ok advanced := rfl
  constructor
  · intro reserved
    obtain ⟨next, decision, reserves, blocked⟩ := reserved
    obtain ⟨_, _, _, _, advances, applies, deciding, _, _⟩ := reserveTransaction_ok reserves
    cases advancing.symm.trans advances
    cases applying.symm.trans applies
    refine ⟨(blocked_iff started day left current ends deciding).mp blocked, ?_⟩
    intro exhausted
    exact tomorrow_of_quotaDecision deciding (spent.mpr exhausted)
  · intro both
    obtain ⟨denies, tomorrow⟩ := both
    obtain ⟨decision, deciding, _⟩ := quotaDecision_spec
      (pruneAttempts database.quotaAttempts group (saturatingSub now.timestampMillis 60000)) group
      limits advanced now (le_refl now.timestampMillis)
      fun exhausted => tomorrow (spent.mp exhausted)
    obtain ⟨next, reserves⟩ := sound.reserve_of_decision ahead advancing applying deciding
    exact ⟨next, decision, reserves,
      (blocked_iff started day left current ends deciding).mpr denies⟩

end Reserve

section Alone

variable {database next : Database} {session following : Session} {provider : ProviderId}
  {now : DateTime}

/-- A feedback performed alone that succeeds has committed, and retains nothing. -/
theorem aloneFeedback_done {feedback : QuotaFeedback}
    (done : (aloneFeedback now database session provider feedback).answer = .done)
    (left : (aloneFeedback now database session provider feedback).world =
      .running next following) :
    ∃ entry, entry.feedback = mergedWith (session.runtime.pending (quotaGroup provider)) feedback ∧
      feedbackTransaction database (quotaGroup provider) (session.settings.limits provider)
        (max session.runtime.highWater now.timestampMillis) entry = .ok next ∧
      following.runtime.pending (quotaGroup provider) = none ∧
      following.runtime.highWater = max session.runtime.highWater now.timestampMillis ∧
      following.settings = session.settings := by
  have retained : (session.runtime.retain (quotaGroup provider) feedback).pending
      (quotaGroup provider) =
        some { generation := session.runtime.nextGeneration + 1
               feedback :=
                 mergedWith (session.runtime.pending (quotaGroup provider)) feedback } := by
    cases earlier : session.runtime.pending (quotaGroup provider) <;>
      simp [RuntimeState.retain, mergedWith, earlier]
  unfold aloneFeedback at done left
  simp only [retained] at done left
  split at done
  · cases done
  · rename_i committed applies
    rw [applies] at left
    cases left
    refine ⟨_, rfl, applies, ?_, ?_, rfl⟩
    · exact RuntimeState.clearPending_self retained
    · exact RuntimeState.clearPending_highWater ..

/-- The answer of a reserve with nothing retained and a clock that is not behind. -/
theorem aloneReserve_denied (unretained : session.runtime.pending (quotaGroup provider) = none)
    (caughtUp : session.runtime.highWater ≤ now.timestampMillis) :
    (∃ delay, (aloneReserve now database session provider).answer =
        .reserved (.error (.limited delay))) ↔
      ∃ next decision, reserveTransaction database (quotaGroup provider)
        (session.settings.limits provider) now now.timestampMillis none = .ok (next, decision) ∧
          decision.blocked = true := by
  have effective : (session.runtime.observe now).highWater = now.timestampMillis :=
    max_eq_right caughtUp
  unfold aloneReserve
  simp only [effective, lt_irrefl, ↓reduceIte, unretained]
  cases reserved : reserveTransaction database (quotaGroup provider)
      (session.settings.limits provider) now now.timestampMillis none with
  | error error => simp
  | ok left =>
      obtain ⟨next, decision⟩ := left
      simp only [reserveAnswer, RuntimeState.clearPending, RuntimeState.observe_pending, unretained,
        Option.isSome_none, Bool.false_eq_true, ↓reduceIte, Except.ok.injEq, Prod.mk.injEq]
      cases blocked : decision.blocked with
      | true => simp [blocked]
      | false =>
          simp only [Bool.false_eq_true, ↓reduceIte, Answer.reserved.injEq, reduceCtorEq,
            exists_false, false_iff]
          rintro ⟨_, _, ⟨rfl, rfl⟩, denied⟩
          rw [blocked] at denied
          cases denied

end Alone

/-- **When a 429 pauses its group.** In every reachable storage, a reserve at
the reading at which the feedback of a 429 was committed is denied exactly where
the clock is behind the session's, or the row, the retained feedback or the
headers pause the group, the day is spent or the minute full. On the last day
that chrono represents a spent day is an error instead. -/
theorem rejected_denied_iff {codec : PayloadCodec} {trace : List Event}
    {database next : Database} {session following : Session}
    {parseHttpDate : String → Option DateTime} {provider : ProviderId} {headers : HeaderMap}
    {now : DateTime}
    (run : Run (Step codec) (.closed none) trace (.running database session))
    (committed : (aloneFeedback now database session provider
      (feedbackFromHeaders parseHttpDate provider 429 headers now)).answer = .done)
    (left : (aloneFeedback now database session provider
      (feedbackFromHeaders parseHttpDate provider 429 headers now)).world =
        .running next following) :
    (∃ delay, (aloneReserve now next following provider).answer =
        .reserved (.error (.limited delay))) ↔
      now.timestampMillis < session.runtime.highWater ∨
        (Pauses parseHttpDate (database.quotaState (quotaGroup provider))
            (session.runtime.pending (quotaGroup provider))
            (session.settings.limits provider).unobservedAttempts provider headers now ∨
          DaySpent (session.settings.limits provider)
            (database.quotaState (quotaGroup provider)) now ∨
          MinuteFull (session.settings.limits provider) database.quotaAttempts
            (quotaGroup provider) now) ∧
        (DaySpent (session.settings.limits provider) (database.quotaState (quotaGroup provider))
          now → now.dateNaive + 1 ≤ NaiveDate.max) := by
  have sound := Storage.sound_run run World.sound_closed
  obtain ⟨entry, merged, applies, unretained, clock, settings⟩ := aloneFeedback_done committed left
  by_cases behind : now.timestampMillis < session.runtime.highWater
  · have late : now.timestampMillis < (following.runtime.observe now).highWater := by
      refine behind.trans_le ?_
      change _ ≤ max _ _
      rw [clock]
      exact (le_max_left _ _).trans (le_max_left _ _)
    refine iff_of_true ?_ (Or.inl behind)
    unfold aloneReserve
    simp only [late, ↓reduceIte]
    exact ⟨_, rfl⟩
  · have reading : max session.runtime.highWater now.timestampMillis = now.timestampMillis :=
      max_eq_right (not_lt.mp behind)
    rw [reading] at applies clock
    have ahead : database.clockHighWater ≤ now.timestampMillis :=
      sound.clocked.1.trans (not_lt.mp behind)
    have stored := (sound.database database rfl).of_feedback ahead applies
    obtain ⟨row, applying, rfl⟩ := feedbackTransaction_ok applies
    have current := (applied_of_applyFeedback applying).current
    have ends := QuotaState.ends_applyFeedback
      (exhaustion_ends run rfl (quotaGroup provider)) applying
    rw [merged] at applying
    rw [or_iff_right behind, aloneReserve_denied unretained clock.le, settings,
      reserveTransaction_denied stored (max_le ahead (le_refl _)) (by simpa using current)
        (by simpa using ends)]
    simp only [Function.update_self, restricted_rejected applying, DaySpent,
      QuotaState.applyFeedback_day applying, QuotaState.applyFeedback_dailyConsumed applying]

/-- What a 429 of VirusTotal at the epoch leaves of a new file. -/
def rejectedFirst (headers : HeaderMap) : Alone :=
  aloneFeedback .epoch (.create .epoch) (.fresh .single 0) .virustotal
    (feedbackFromHeaders (fun _ => none) .virustotal 429 headers .epoch)

/-- Without headers the group waits a minute. -/
theorem rejected_denied_iff_silent : ∃ next following,
    (rejectedFirst fun _ => none).world = .running next following ∧
      ∃ delay, (aloneReserve .epoch next following .virustotal).answer =
        .reserved (.error (.limited delay)) := by
  have run := Run.single (first_opened .blank)
  have committed : (rejectedFirst fun _ => none).answer = .done := rfl
  obtain ⟨next, following, left⟩ : ∃ next following,
      (rejectedFirst fun _ => none).world = .running next following := ⟨_, _, rfl⟩
  refine ⟨next, following, left, (rejected_denied_iff run committed left).mpr
    (Or.inr ⟨Or.inl ?_, ?_⟩)⟩
  · apply Pauses.fallback
    · intro target asks
      cases asks with
      | delta header => cases header
      | date header => cases header
      | reset ours => cases ours
    · decide
  · exact fun _ => by decide

/-- A header that asks for no pause. -/
def zeroDelta : HeaderMap := fun name => if name = "retry-after" then some "0" else none

/-- A known wait of nothing is no cooldown, and keeps the fallback away. -/
theorem rejected_granted :
    ¬ ∀ (codec : PayloadCodec) (trace : List Event) (database next : Database)
        (session following : Session) (parseHttpDate : String → Option DateTime)
        (provider : ProviderId) (headers : HeaderMap) (now : DateTime),
      Run (Step codec) (.closed none) trace (.running database session) →
      (aloneFeedback now database session provider
        (feedbackFromHeaders parseHttpDate provider 429 headers now)).answer = .done →
      (aloneFeedback now database session provider
        (feedbackFromHeaders parseHttpDate provider 429 headers now)).world =
          .running next following →
      ∃ delay, (aloneReserve now next following provider).answer =
        .reserved (.error (.limited delay)) := by
  intro claim
  have committed : (rejectedFirst zeroDelta).answer = .done := rfl
  obtain ⟨next, following, left, granted⟩ : ∃ next following,
      (rejectedFirst zeroDelta).world = .running next following ∧
        (aloneReserve .epoch next following .virustotal).answer = .reserved (.ok ()) :=
    ⟨_, _, rfl, rfl⟩
  obtain ⟨delay, denied⟩ := claim .blank _ _ next _ following (fun _ => none) .virustotal zeroDelta
    .epoch (Run.single (first_opened .blank)) committed left
  exact absurd (granted.symm.trans denied) nofun

end RustEnrich.Enrichment
