import RustEnrich.Storage.QuotaSoundness
import RustEnrich.Collections.OrderStatistic

/-!
# The advised delay

`retry_after` advises the longest wait until the restrictions of a group end.
With no operation in between, the restrictions in force at a later reading are
those whose end is still ahead of it, so a reservation is denied while a second
of the wait is left, and granted once it is over.
-/

namespace RustEnrich.Storage

open Transitions

/-- `reserve` performed alone, from its reading of the clock to its answer. -/
def reserveAlone (database : Database) (session : Session) (provider : ProviderId)
    (wall : DateTime) : Except ReservationError Unit :=
  let runtime := session.runtime.observe wall
  let pending := session.runtime.pending (quotaGroup provider)
  if wall.timestampMillis < runtime.highWater then
    .error (.limited (some (delaySeconds runtime.highWater wall.timestampMillis)))
  else
    match reserveTransaction database (quotaGroup provider) (session.settings.limits provider) wall
      runtime.highWater pending with
    | .error error => .error (.storage error)
    | .ok (_, decision) =>
        reserveAnswer (runtime.clearPending (quotaGroup provider) pending) (quotaGroup provider)
          decision

/-- `retry_after` performed alone. -/
def retryAfterAlone (database : Database) (session : Session) (provider : ProviderId)
    (wall : DateTime) : Except StorageError (Option Nat) :=
  retryAfterTransaction database (quotaGroup provider) (session.settings.limits provider) wall
    (session.runtime.observe wall).highWater (session.runtime.pending (quotaGroup provider))

variable {codec : PayloadCodec}

/-- An answer of `reserve` performed alone is one of the system. -/
theorem reserveAlone_run {database : Database} {session : Session} {provider : ProviderId}
    {wall : DateTime} {answer : Except ReservationError Unit} (free : session.gate = .free)
    (answers : reserveAlone database session provider wall = answer)
    (stored : ∀ error, answer ≠ .error (.storage error)) :
    ∃ events world, Run (Step codec) (.running database session)
      (events ++ [.reserveReturned session.nextCall provider wall answer]) world := by
  have run := Run.single (@Step.started codec database session (.reserve provider)
    (fun _ => nofun) trivial)
  unfold reserveAlone at answers
  dsimp only at answers
  split at answers
  · rename_i behind
    have run := run.snoc (@Step.reserveBehind _ _ _ session.waiting [] _ _ wall free rfl behind)
    subst answers
    exact ⟨_, _, run⟩
  · rename_i caughtUp
    have effective := RuntimeState.observe_caughtUp caughtUp
    have run := run.snoc (@Step.reserveSnapshot _ _ _ session.waiting [] _ _ wall free rfl caughtUp)
    split at answers
    · exact absurd answers.symm (stored _)
    · rename_i next decision reserves
      rw [effective] at reserves
      have run := run.snoc (.reserveCommitted rfl reserves)
      have run := run.snoc (.reserveCleared rfl)
      have run := run.snoc (.reserveReturned rfl)
      subst answers
      exact ⟨_, _, run⟩

/-- And of `retry_after`. -/
theorem retryAfterAlone_run {database : Database} {session : Session} {provider : ProviderId}
    {wall : DateTime} {delay : Option Nat} (free : session.gate = .free)
    (advised : retryAfterAlone database session provider wall = .ok delay) :
    ∃ events world, Run (Step codec) (.running database session)
      (events ++ [.retryAfterReturned session.nextCall provider wall delay]) world := by
  have run := Run.single (@Step.started codec database session (.retryAfter provider)
    (fun _ => nofun) trivial)
  have performs : (Request.retryAfter provider).perform codec session.settings database
      session.runtime.pending session.nextCall wall (session.runtime.observe wall).highWater =
        some (.ok { database, committed := [],
                    returned := [.retryAfterReturned session.nextCall provider wall delay] }) := by
    unfold retryAfterAlone at advised
    simp only [Request.perform, advised]
  have run := run.snoc (@Step.performed _ _ _ session.waiting [] _ _ _ wall free rfl performs)
  exact ⟨_, _, run⟩

/-! ### What is left of a row at a time -/

namespace QuotaState

/-- What is left at a time of a row stored on some day. -/
structure LeftAt (stored : QuotaState) (saved : Int) (instant : DateTime) (state : QuotaState) :
    Prop where
  cooldown : state.cooldownUntil =
    stored.cooldownUntil.filter (fun target => instant.timestampMillis < target)
  unknown : state.cooldownUntil ≠ none → state.cooldownUnknown = stored.cooldownUnknown
  consumed : state.dailyConsumed = if saved < instant.dateNaive then 0 else stored.dailyConsumed
  reset : state.providerResetAt =
    stored.providerResetAt.filter (fun reset => instant.timestampMillis < reset)
  exhausted : state.providerRemaining = some 0 ↔ stored.providerRemaining = some 0 ∧
    match stored.providerResetAt with
    | some reset => instant.timestampMillis < reset
    | none => ¬ saved < instant.dateNaive ∧
        ∀ target, stored.cooldownUntil = some target → instant.timestampMillis < target

variable {stored state : QuotaState} {saved : Int} {instant : DateTime}

/-- The mark of the fallback survives with its cooldown. -/
theorem cooldownUnknown_of_expireFeedback {now : Int}
    (held : (state.expireFeedback now).cooldownUntil ≠ none) :
    (state.expireFeedback now).cooldownUnknown = state.cooldownUnknown := by
  rw [expireFeedback_cooldownUntil] at held
  rw [expireFeedback_cooldownUnknown]
  cases cooldown : state.cooldownUntil with
  | none => rw [cooldown] at held; exact absurd rfl held
  | some target =>
      have ahead : now < target := by
        by_contra ended
        rw [cooldown, Option.filter_some, if_neg (by simpa using ended)] at held
        exact held rfl
      simp [ahead]

/-- A row that advances is what is left of it. -/
theorem leftAt_of_advanceDay (day : stored.day = .ofDate saved)
    (advanced : stored.advanceDay instant = .ok state) :
    saved ≤ instant.dateNaive ∧ stored.LeftAt saved instant state := by
  obtain ⟨date, same, ⟨today, rfl⟩ | ⟨earlier, rfl⟩⟩ := advanceDay_ok advanced
  · obtain rfl := DayText.ofDate.inj (day.symm.trans same)
    refine ⟨today.le, expireFeedback_cooldownUntil _ _, cooldownUnknown_of_expireFeedback, ?_,
      expireFeedback_providerResetAt _ _, ?_⟩
    · rw [expireFeedback_dailyConsumed, if_neg today.not_lt]
    · rw [expireFeedback_exhausted]
      cases stored.providerResetAt with
      | some reset => rfl
      | none => simp [today]
  · obtain rfl := DayText.ofDate.inj (day.symm.trans same)
    refine ⟨earlier.le, expireFeedback_cooldownUntil _ _, cooldownUnknown_of_expireFeedback, ?_,
      expireFeedback_providerResetAt _ _, ?_⟩
    · rw [expireFeedback_dailyConsumed, if_pos earlier]
      rfl
    · rw [expireFeedback_exhausted]
      unfold startDay
      dsimp only
      cases stored.providerResetAt with
      | some reset => simp
      | none => simp [earlier]

end QuotaState

/-! ### What is left of the restrictions -/

/-- Restrictions are left exactly where one of those known ends later. -/
def Outlast (later : Int) (ends left : List (Option Int)) : Prop :=
  left ≠ [] ↔ ∃ target, some target ∈ ends ∧ later < target

/-- Two lists of restrictions outlast two others. -/
theorem Outlast.append {later : Int} {ends left more others : List (Option Int)}
    (first : Outlast later ends left) (second : Outlast later more others) :
    Outlast later (ends ++ more) (left ++ others) := by
  unfold Outlast at *
  have either : left ++ others ≠ [] ↔ left ≠ [] ∨ others ≠ [] := by
    rw [Ne, List.append_eq_nil_iff, not_and_or]
  rw [either, first, second]
  constructor
  · rintro (⟨target, inside, ahead⟩ | ⟨target, inside, ahead⟩)
    · exact ⟨target, List.mem_append_left _ inside, ahead⟩
    · exact ⟨target, List.mem_append_right _ inside, ahead⟩
  · rintro ⟨target, inside, ahead⟩
    exact (List.mem_append.mp inside).imp (fun here => ⟨target, here, ahead⟩)
      fun here => ⟨target, here, ahead⟩

section Families

variable {stored state next : QuotaState} {saved actualNow : Int} {instant later : DateTime}
  {limits : QuotaLimits} {attempts : List QuotaAttempt} {group : QuotaGroup}

/-- The clock does not outlast its wait. -/
theorem clock_outlast (onward : instant.timestampMillis ≤ later.timestampMillis) :
    Outlast later.timestampMillis (clockRestrictions instant.timestampMillis actualNow)
      (clockRestrictions later.timestampMillis later.timestampMillis) := by
  unfold Outlast clockRestrictions
  rw [if_neg (lt_irrefl _)]
  constructor
  · exact fun left => absurd rfl left
  · rintro ⟨target, inside, ahead⟩
    split at inside
    · obtain rfl := Option.some.inj (List.mem_singleton.mp inside)
      exact absurd ahead (not_lt.mpr onward)
    · cases inside

/-- A row brought up to date has the cooldown of the stored one. -/
theorem QuotaState.LeftAt.cooldownRestrictions (left : stored.LeftAt saved instant state) :
    state.cooldownRestrictions instant.timestampMillis =
      stored.cooldownRestrictions instant.timestampMillis := by
  have unknown := left.unknown
  unfold QuotaState.cooldownRestrictions
  rw [left.cooldown, Option.filter_filter] at *
  simp only [Bool.and_self]
  cases held : stored.cooldownUntil.filter
      (fun target => instant.timestampMillis < target) with
  | none => rfl
  | some target => rw [unknown (by simp [held])]

/-- A stored cooldown restricts while it lasts. -/
theorem QuotaState.cooldownRestrictions_of_some {target now : Int}
    (held : stored.cooldownUntil = some target) :
    stored.cooldownRestrictions now =
      if now < target then [if stored.cooldownUnknown then none else some target] else [] := by
  unfold QuotaState.cooldownRestrictions
  rw [held, Option.filter_some]
  by_cases ahead : now < target <;> simp [ahead]

/-- A known cooldown does not outlast its wait. -/
theorem cooldown_outlast (onward : instant.timestampMillis ≤ later.timestampMillis)
    (before : stored.LeftAt saved instant state) (after : stored.LeftAt saved later next)
    (known : none ∉ state.cooldownRestrictions instant.timestampMillis) :
    Outlast later.timestampMillis (state.cooldownRestrictions instant.timestampMillis)
      (next.cooldownRestrictions later.timestampMillis) := by
  rw [before.cooldownRestrictions] at known ⊢
  rw [after.cooldownRestrictions]
  unfold Outlast
  cases held : stored.cooldownUntil with
  | none => simp [QuotaState.cooldownRestrictions, held]
  | some target =>
      rw [QuotaState.cooldownRestrictions_of_some held] at known ⊢
      rw [QuotaState.cooldownRestrictions_of_some held]
      by_cases ahead : later.timestampMillis < target
      · have certain : stored.cooldownUnknown = false := by
          rw [if_pos (onward.trans_lt ahead)] at known
          by_contra unknown
          simp [unknown] at known
        simp [ahead, onward.trans_lt ahead, certain]
      · rw [if_neg ahead]
        refine ⟨fun left => absurd rfl left, ?_⟩
        rintro ⟨other, inside, past⟩
        split at inside
        · split at inside
          · cases List.mem_singleton.mp inside
          · obtain rfl := Option.some.inj (List.mem_singleton.mp inside)
            exact absurd past ahead
        · cases inside

/-- A positive cap exhausted later was exhausted on the same day already. -/
theorem QuotaState.LeftAt.exhausted_day (onward : instant.timestampMillis ≤ later.timestampMillis)
    (started : saved ≤ instant.dateNaive) (before : stored.LeftAt saved instant state)
    (after : stored.LeftAt saved later next) (capped : 0 < limits.day) :
    limits.day ≤ next.dailyConsumed ↔
      limits.day ≤ state.dailyConsumed ∧ later.dateNaive = instant.dateNaive := by
  have days := DateTime.dateNaive_mono onward
  rw [before.consumed, after.consumed]
  split <;> split <;> omega

/-- A full day does not outlast its wait. -/
theorem day_outlast (onward : instant.timestampMillis ≤ later.timestampMillis)
    (started : saved ≤ instant.dateNaive) (before : stored.LeftAt saved instant state)
    (after : stored.LeftAt saved later next) (capped : 0 < limits.day) :
    Outlast later.timestampMillis (state.dayRestrictions limits instant.timestampMillis)
      (next.dayRestrictions limits later.timestampMillis) := by
  have same := before.exhausted_day onward started after capped
  -- the readings fall on one day exactly when the later one is before midnight
  have midnight : later.dateNaive = instant.dateNaive ↔
      later.timestampMillis < midnightAfter instant.timestampMillis := by
    rw [instant.dateNaive_eq, later.dateNaive_eq]
    unfold midnightAfter dayMillis
    omega
  unfold Outlast QuotaState.dayRestrictions
  by_cases exhausted : limits.day ≤ state.dailyConsumed
  · rw [if_pos exhausted]
    by_cases today : later.timestampMillis < midnightAfter instant.timestampMillis
    · rw [if_pos (same.mpr ⟨exhausted, midnight.mpr today⟩)]
      simpa using today
    · rw [if_neg fun full => today (midnight.mp (same.mp full).2)]
      simpa using today
  · rw [if_neg exhausted, if_neg fun full => exhausted (same.mp full).1]
    simp

/-- A known reset does not outlast its wait. -/
theorem remaining_outlast (onward : instant.timestampMillis ≤ later.timestampMillis)
    (before : stored.LeftAt saved instant state) (after : stored.LeftAt saved later next)
    (known : none ∉ state.remainingRestrictions instant.timestampMillis) :
    Outlast later.timestampMillis (state.remainingRestrictions instant.timestampMillis)
      (next.remainingRestrictions later.timestampMillis) := by
  have days := DateTime.dateNaive_mono onward
  have now := before.exhausted
  have then_ := after.exhausted
  unfold Outlast QuotaState.remainingRestrictions at *
  rw [before.reset] at known ⊢
  rw [after.reset]
  cases window : stored.providerResetAt with
  | none =>
      rw [window] at now then_ known
      -- an exhaustion without a window is of unknown length
      have available : ¬ state.providerRemaining = some 0 := by
        intro exhausted
        simp [exhausted] at known
      have later_ : ¬ next.providerRemaining = some 0 := by
        intro exhausted
        obtain ⟨spent, notLater, ahead⟩ := then_.mp exhausted
        refine available (now.mpr ⟨spent, by omega, fun target held => ?_⟩)
        exact onward.trans_lt (ahead target held)
      simp [available, later_]
  | some reset =>
      rw [window] at now then_
      by_cases spent : stored.providerRemaining = some 0
      · by_cases ahead : later.timestampMillis < reset
        · simp [now, then_, spent, ahead, onward.trans_lt ahead, Option.filter_some]
        · by_cases current : instant.timestampMillis < reset
          · simp [now, then_, spent, ahead, current, Option.filter_some]
          · simp [now, then_, spent, ahead, current]
      · simp [now, then_, spent]

/-- Pruning keeps every reservation that counts. -/
theorem recentAttempts_pruneAttempts (attempts : List QuotaAttempt) (group : QuotaGroup)
    (after : Int) : Verdict.recentAttempts (pruneAttempts attempts group after) group after =
      Verdict.recentAttempts attempts group after := by
  unfold Verdict.recentAttempts pruneAttempts
  rw [List.filter_filter]
  congr 2
  refine List.filter_congr fun row _ => ?_
  by_cases same : row.quotaGroup = group <;> simp [same]

/-- The reservations that still count later. -/
theorem length_recentAttempts_later {after recent : Int} (onward : after ≤ recent) :
    (Verdict.recentAttempts attempts group recent).length =
      (Verdict.recentAttempts attempts group after).countP (recent < ·) := by
  unfold Verdict.recentAttempts
  rw [List.length_insertionSort, (List.perm_insertionSort _ _).countP_eq, List.countP_map,
    List.countP_filter, List.length_map, ← List.countP_eq_length_filter]
  refine List.countP_congr fun row _ => ?_
  simp only [decide_eq_true_eq, Function.comp_apply, Bool.decide_and, Bool.and_eq_true]
  constructor
  · rintro ⟨same, here⟩
    exact ⟨here, same, onward.trans_lt here⟩
  · rintro ⟨here, same, _⟩
    exact ⟨same, here⟩

/-- A full minute does not outlast its wait. -/
theorem minute_outlast (onward : instant.timestampMillis ≤ later.timestampMillis) :
    Outlast later.timestampMillis
      (minuteRestrictions attempts group limits instant.timestampMillis)
      (minuteRestrictions (pruneAttempts attempts group
        (saturatingSub later.timestampMillis 60000)) group limits later.timestampMillis) := by
  unfold Outlast minuteRestrictions
  rw [recentAttempts_pruneAttempts, saturatingSub_window, saturatingSub_window]
  dsimp only
  have count : (Verdict.recentAttempts attempts group (later.timestampMillis - 60000)).length =
      (Verdict.recentAttempts attempts group (instant.timestampMillis - 60000)).countP
        (later.timestampMillis - 60000 < ·) :=
    length_recentAttempts_later (sub_le_sub_right onward 60000)
  generalize times : Verdict.recentAttempts attempts group (instant.timestampMillis - 60000) =
    recent at count
  have sorted : recent.Pairwise (· ≤ ·) := times ▸ List.pairwise_insertionSort _ _
  rw [count]
  have fewer := recent.countP_le_length (p := (later.timestampMillis - 60000 < ·))
  by_cases full : 0 < limits.minute ∧ limits.minute ≤ recent.length
  · have inside : recent.length - limits.minute < recent.length := by omega
    have there : recent[recent.length - limits.minute]? =
        some recent[recent.length - limits.minute] := List.getElem?_eq_getElem inside
    have still : later.timestampMillis - 60000 < recent[recent.length - limits.minute] ↔
        limits.minute ≤ recent.countP (later.timestampMillis - 60000 < ·) := by
      rw [OrderStatistic.lt_iff_le_countP sorted there,
        show recent.length - (recent.length - limits.minute) = limits.minute by omega]
    rw [if_pos full, there]
    simp only [Option.map_some, List.mem_singleton, Option.some.injEq, exists_eq_left,
      lt_saturatingAdd_iff, still]
    by_cases left : limits.minute ≤ recent.countP (later.timestampMillis - 60000 < ·)
    · simp [left, full.1]
    · simp [left]
  · rw [if_neg full, if_neg fun left => full ⟨left.1, left.2.trans fewer⟩]
    simp

/-- **Restrictions end when they are said to.** With all ends known, a group is
restricted at a later reading exactly while one of the ends is ahead of it. -/
theorem restrictions_outlast (onward : instant.timestampMillis ≤ later.timestampMillis)
    (started : saved ≤ instant.dateNaive) (before : stored.LeftAt saved instant state)
    (after : stored.LeftAt saved later next) (capped : 0 < limits.day)
    (known : none ∉ restrictions attempts group limits state instant.timestampMillis actualNow) :
    Outlast later.timestampMillis
      (restrictions attempts group limits state instant.timestampMillis actualNow)
      (restrictions (pruneAttempts attempts group (saturatingSub later.timestampMillis 60000))
        group limits next later.timestampMillis later.timestampMillis) := by
  simp only [restrictions, List.mem_append, not_or] at known
  obtain ⟨⟨⟨⟨_, cooldown⟩, _⟩, remaining⟩, _⟩ := known
  have cooled := cooldown_outlast onward before after cooldown
  have renewed := day_outlast onward started before after capped
  have reset := remaining_outlast onward before after remaining
  exact ((((clock_outlast onward).append cooled).append renewed).append reset).append
    (minute_outlast onward)

/-- No end is so far ahead that the delay saturates. -/
theorem le_of_mem_restrictions {target : Int} (sound : state.Sound instant.timestampMillis)
    (recent : ∀ row ∈ attempts, row.reservedAt ≤ instant.timestampMillis)
    (tomorrow : limits.day ≤ state.dailyConsumed → instant.dateNaive + 1 ≤ NaiveDate.max)
    (member : some target ∈
      restrictions attempts group limits state instant.timestampMillis actualNow) :
    target ≤ maxMillis + 60000 := by
  have upper := instant.le_maxMillis
  rcases of_mem_restrictions member with ⟨_, rfl⟩ | ⟨held, _⟩ | ⟨exhausted, rfl⟩ | ⟨window, _⟩ |
    ⟨time, counted, rfl⟩
  · omega
  · have bound := (sound.timed.cooldown target held).2
    omega
  · have date := tomorrow exhausted
    rw [instant.dateNaive_eq] at date
    simp only [midnightAfter, maxMillis, NaiveDate.max, dayMillis] at *
    omega
  · have bound := (sound.timed.reset target window).2
    omega
  · obtain ⟨row, inside, rfl⟩ := Verdict.mem_recentAttempts.mp counted
    have bound := recent row inside.1
    simp only [saturatingAdd, i64Min, i64Max, maxMillis, NaiveDate.max, dayMillis] at *
    omega

end Families

/-- The wait is over once the delay is. -/
theorem le_of_delaySeconds {target now later : Int} {delay : Nat}
    (near : target - now ≤ i64Max) (covers : delaySeconds target now ≤ delay)
    (passed : now + delay * 1000 ≤ later) : target ≤ later := by
  unfold delaySeconds saturatingSub i64Min at covers
  unfold i64Max at near covers
  omega

/-- And not a second earlier. -/
theorem lt_of_delaySeconds {target now later : Int} (ahead : now < target)
    (soon : later ≤ now + (delaySeconds target now - 1) * 1000) : later < target := by
  unfold delaySeconds saturatingSub i64Min i64Max at soon
  omega


/-! ### A reservation after the advice -/

/-- A decision on an exhausted day found the next one. -/
theorem tomorrow_of_quotaDecision {attempts : List QuotaAttempt} {group : QuotaGroup}
    {limits : QuotaLimits} {state : QuotaState} {effective : DateTime} {actualNow : Int}
    {decision : QuotaDecision}
    (decided : quotaDecision attempts group limits state effective.timestampMillis actualNow =
      .ok decision) (exhausted : limits.day ≤ state.dailyConsumed) :
    effective.dateNaive + 1 ≤ NaiveDate.max := by
  obtain ⟨instant, converted, same⟩ := effective.fromTimestampMillis_self
  have today := DateTime.dateNaive_congr same
  by_contra last
  have midnight : nextDayMillis instant = .error .invalidData := by
    unfold nextDayMillis
    rw [today, if_neg last]
  have fails : ∀ verdict : Verdict, verdict.checkDay limits state effective.timestampMillis
      actualNow = .error .invalidData := by
    intro verdict
    unfold Verdict.checkDay
    rw [if_pos exhausted, converted]
    simp only [midnight, bind, Except.bind]
  unfold quotaDecision at decided
  simp only [fails, bind, Except.bind] at decided
  cases decided

/-- An advice comes of a decision over the advanced row. -/
theorem retryAfterTransaction_ok {database : Database} {group : QuotaGroup}
    {limits : QuotaLimits} {wall effective : DateTime} {pending : Option PendingFeedback}
    {advice : Option Nat}
    (advised : retryAfterTransaction database group limits wall effective.timestampMillis pending =
      .ok advice) :
    ∃ instant advanced state decision, instant.timestampMillis = effective.timestampMillis ∧
      (database.quotaState group).advanceDay instant = .ok advanced ∧
      applyPending advanced pending effective.timestampMillis limits.unobservedAttempts =
        .ok state ∧
      quotaDecision database.quotaAttempts group limits state effective.timestampMillis
        wall.timestampMillis = .ok decision ∧ decision.retryAfter = advice := by
  obtain ⟨instant, converted, same⟩ := effective.fromTimestampMillis_self
  unfold retryAfterTransaction at advised
  simp only [converted, bind, Except.bind, pure, Except.pure] at advised
  split at advised
  · cases advised
  rename_i advanced advancing
  split at advised
  · cases advised
  rename_i state applying
  split at advised
  · cases advised
  rename_i decision deciding
  exact ⟨instant, advanced, state, decision, same, advancing, applying, deciding,
    Except.ok.inj advised⟩

/-- `reserve` past its rollback check answers by its decision. -/
theorem reserveAlone_decided {database next : Database} {session : Session}
    {provider : ProviderId} {wall : DateTime} {decision : QuotaDecision}
    (unretained : session.runtime.pending (quotaGroup provider) = none)
    (caughtUp : session.runtime.highWater ≤ wall.timestampMillis)
    (reserves : reserveTransaction database (quotaGroup provider)
      (session.settings.limits provider) wall wall.timestampMillis none = .ok (next, decision)) :
    reserveAlone database session provider wall =
      if decision.blocked then .error (.limited decision.retryAfter) else .ok () := by
  have effective : (session.runtime.observe wall).highWater = wall.timestampMillis :=
    max_eq_right caughtUp
  unfold reserveAlone
  simp only [effective, lt_irrefl, ↓reduceIte, unretained, reserves, reserveAnswer,
    RuntimeState.clearPending, RuntimeState.observe_pending, Option.isSome_none, Bool.false_eq_true]

/-- A reservation after a decision on known restrictions is denied exactly while
one of them lasts. -/
theorem Database.Sound.reserve_later {database : Database} (sound : database.Sound)
    {group : QuotaGroup} {limits : QuotaLimits} {state : QuotaState} {instant later : DateTime}
    {actualNow : Int} {decision : QuotaDecision} (capped : 0 < limits.day)
    (ahead : database.clockHighWater ≤ instant.timestampMillis)
    (onward : instant.timestampMillis ≤ later.timestampMillis)
    (advancing : (database.quotaState group).advanceDay instant = .ok state)
    (deciding : quotaDecision database.quotaAttempts group limits state instant.timestampMillis
      actualNow = .ok decision)
    (known : none ∉ restrictions database.quotaAttempts group limits state
      instant.timestampMillis actualNow) :
    ∃ next answer, reserveTransaction database group limits later later.timestampMillis none =
        .ok (next, answer) ∧
      (answer.blocked = true ↔ ∃ target, some target ∈ restrictions database.quotaAttempts group
        limits state instant.timestampMillis actualNow ∧ later.timestampMillis < target) := by
  obtain ⟨saved, day, _⟩ := (sound.state group).day
  have ahead_ := ahead.trans onward
  obtain ⟨advanced, advances, _⟩ := (sound.state group).advanceDay ahead_
  obtain ⟨started, before⟩ := QuotaState.leftAt_of_advanceDay day advancing
  obtain ⟨_, after⟩ := QuotaState.leftAt_of_advanceDay day advances
  have tomorrow : limits.day ≤ advanced.dailyConsumed → later.dateNaive + 1 ≤ NaiveDate.max := by
    intro exhausted
    obtain ⟨full, today⟩ := (before.exhausted_day onward started after capped).mp exhausted
    rw [today]
    exact tomorrow_of_quotaDecision deciding full
  obtain ⟨answer, decides, blocked, _⟩ := quotaDecision_spec
    (pruneAttempts database.quotaAttempts group (saturatingSub later.timestampMillis 60000)) group
    limits advanced later (le_refl later.timestampMillis) tomorrow
  have unretained : applyPending advanced none later.timestampMillis limits.unobservedAttempts =
      .ok advanced := rfl
  obtain ⟨next, reserves⟩ := sound.reserve_of_decision ahead_ advances unretained decides
  exact ⟨next, answer, reserves, blocked.trans
    (restrictions_outlast onward started before after capped known)⟩

/-- What an advised delay rests on: the row at the reading of the clock, and the
longest wait that its restrictions leave. -/
structure Advises (database : Database) (session : Session) (provider : ProviderId)
    (wall reading : DateTime) (state : QuotaState) (decision : QuotaDecision) (delay : Nat) :
    Prop where
  effective : reading.timestampMillis = max session.runtime.highWater wall.timestampMillis
  ahead : database.clockHighWater ≤ reading.timestampMillis
  advancing : (database.quotaState (quotaGroup provider)).advanceDay reading = .ok state
  deciding : quotaDecision database.quotaAttempts (quotaGroup provider)
    (session.settings.limits provider) state reading.timestampMillis wall.timestampMillis =
      .ok decision
  longest : LongestWait wall.timestampMillis (restrictions database.quotaAttempts
    (quotaGroup provider) (session.settings.limits provider) state reading.timestampMillis
      wall.timestampMillis) delay

section Advised

variable {database : Database} {session : Session} {provider : ProviderId}
  {wall reading later : DateTime} {state : QuotaState} {decision : QuotaDecision} {delay : Nat}

/-- An advised delay advises of a decision. -/
theorem retryAfterAlone_advises (sound : World.Sound (.running database session))
    (unretained : session.runtime.pending (quotaGroup provider) = none)
    (advised : retryAfterAlone database session provider wall = .ok (some delay)) :
    ∃ reading state decision,
      Advises database session provider wall reading state decision delay := by
  obtain ⟨instant, effective⟩ := sound.onClock.observe wall
  unfold retryAfterAlone at advised
  rw [unretained, effective] at advised
  obtain ⟨reading, state, _, decision, same, advancing, applying, deciding, advice⟩ :=
    retryAfterTransaction_ok advised
  cases applying
  rw [← same] at deciding effective
  have observed : wall.timestampMillis ≤ reading.timestampMillis := by
    rw [← effective]
    exact le_max_right _ _
  have ahead : database.clockHighWater ≤ reading.timestampMillis := by
    rw [← effective]
    exact sound.clocked.1.trans (le_max_left _ _)
  obtain ⟨_, decides, _, advises⟩ := quotaDecision_spec database.quotaAttempts (quotaGroup provider)
    (session.settings.limits provider) state reading observed (tomorrow_of_quotaDecision deciding)
  cases deciding.symm.trans decides
  exact ⟨reading, state, decision, effective.symm, ahead, advancing, deciding,
    (advises delay).mp advice⟩

namespace Advises

/-- The advice is given on a clock that is not behind. -/
theorem wall_le (advises : Advises database session provider wall reading state decision delay) :
    wall.timestampMillis ≤ reading.timestampMillis := by
  rw [advises.effective]
  exact le_max_right _ _

/-- Before the wait is over, the restriction it comes from still lasts. -/
theorem denied (advises : Advises database session provider wall reading state decision delay)
    (sound : database.Sound)
    (unretained : session.runtime.pending (quotaGroup provider) = none)
    (capped : 0 < (session.settings.limits provider).day)
    (onward : wall.timestampMillis ≤ later.timestampMillis)
    (soon : later.timestampMillis ≤ wall.timestampMillis + (delay - 1) * 1000) :
    ∃ advice, reserveAlone database session provider later = .error (.limited advice) := by
  by_cases behind : later.timestampMillis < session.runtime.highWater
  · refine ⟨_, if_pos ?_⟩
    exact behind.trans_le (session.runtime.highWater_le_observe later)
  · have caughtUp := not_lt.mp behind
    have past : reading.timestampMillis ≤ later.timestampMillis := by
      rw [advises.effective]
      exact max_le caughtUp onward
    obtain ⟨next, answer, reserves, blocked⟩ := sound.reserve_later capped advises.ahead past
      advises.advancing advises.deciding advises.longest.known
    obtain ⟨target, inside, same⟩ := advises.longest.attained
    rw [← same] at soon
    have left := lt_of_delaySeconds (lt_of_mem_restrictions advises.wall_le inside) soon
    have denied := blocked.mpr ⟨target, inside, left⟩
    refine ⟨answer.retryAfter, ?_⟩
    rw [reserveAlone_decided unretained caughtUp reserves, if_pos denied]

/-- After the wait no end is ahead any more, that of a clock behind included. -/
theorem ended (advises : Advises database session provider wall reading state decision delay)
    (sound : database.Sound)
    (passed : wall.timestampMillis + delay * 1000 ≤ later.timestampMillis) {target : Int}
    (inside : some target ∈ restrictions database.quotaAttempts (quotaGroup provider)
      (session.settings.limits provider) state reading.timestampMillis wall.timestampMillis) :
    target ≤ later.timestampMillis := by
  obtain ⟨_, fresh, kept⟩ := (sound.state (quotaGroup provider)).advanceDay advises.ahead
  cases advises.advancing.symm.trans fresh
  have bound := le_of_mem_restrictions kept
    (fun row member => (sound.attempts row member).trans advises.ahead)
    (tomorrow_of_quotaDecision advises.deciding) inside
  refine le_of_delaySeconds ?_ (advises.longest.covers target inside) passed
  have lower := wall.minMillis_le
  simp only [minMillis, maxMillis, NaiveDate.min, NaiveDate.max, dayMillis, i64Max] at *
  omega

/-- A reserve after the advised delay is granted. -/
theorem granted (advises : Advises database session provider wall reading state decision delay)
    (sound : database.Sound)
    (unretained : session.runtime.pending (quotaGroup provider) = none)
    (capped : 0 < (session.settings.limits provider).day)
    (passed : wall.timestampMillis + delay * 1000 ≤ later.timestampMillis) :
    reserveAlone database session provider later = .ok () := by
  have past : reading.timestampMillis ≤ later.timestampMillis := by
    rcases lt_or_ge wall.timestampMillis reading.timestampMillis with behind | caughtUp
    · apply advises.ended sound passed
      simp [restrictions, clockRestrictions, behind]
    · have waited : (0 : Int) ≤ delay * 1000 := by omega
      omega
  obtain ⟨next, answer, reserves, blocked⟩ := sound.reserve_later capped advises.ahead past
    advises.advancing advises.deciding advises.longest.known
  have granted : ¬ answer.blocked = true := by
    rw [blocked]
    rintro ⟨target, inside, left⟩
    exact absurd left (not_lt.mpr (advises.ended sound passed inside))
  have caughtUp : session.runtime.highWater ≤ later.timestampMillis := by
    rw [advises.effective] at past
    exact (le_max_left _ _).trans past
  rw [reserveAlone_decided unretained caughtUp reserves, if_neg granted]

end Advises

end Advised

/-- **The advised delay is exact.** Where `retry_after` advises a delay and
nothing else happens, a reservation is denied until its last second and granted
from its end on. -/
theorem retry_delay_exact {trace : List Event} {database : Database} {session : Session}
    (run : Run (Step codec) (.closed none) trace (.running database session))
    (provider : ProviderId) (unretained : session.runtime.pending (quotaGroup provider) = none)
    (capped : 0 < (session.settings.limits provider).day) (wall : DateTime) {delay : Nat}
    (advised : retryAfterAlone database session provider wall = .ok (some delay)) :
    (∀ later : DateTime, wall.timestampMillis ≤ later.timestampMillis →
      later.timestampMillis ≤ wall.timestampMillis + (delay - 1) * 1000 →
        ∃ advice, reserveAlone database session provider later = .error (.limited advice)) ∧
      ∀ later : DateTime, wall.timestampMillis + delay * 1000 ≤ later.timestampMillis →
        reserveAlone database session provider later = .ok () := by
  have sound := sound_run run World.sound_closed
  have stored := sound.database database rfl
  obtain ⟨reading, state, decision, advises⟩ := retryAfterAlone_advises sound unretained advised
  constructor
  · intro later onward soon
    exact advises.denied stored unretained capped onward soon
  · intro later passed
    exact advises.granted stored unretained capped passed

/-- The last attempt of a day is spent at its start. -/
theorem retry_delay_exact_midnight :
    ∃ database session,
      Run (Step .blank) (.closed none) (firstReservation ++ [firstAnswer])
        (.running database session) ∧
      retryAfterAlone database session .abuseipdb .epoch = .ok (some 86400) ∧
      (∀ later : DateTime, DateTime.epoch.timestampMillis ≤ later.timestampMillis →
        later.timestampMillis ≤ DateTime.epoch.timestampMillis + ((86400 : Nat) - 1) * 1000 →
          ∃ advice, reserveAlone database session .abuseipdb later = .error (.limited advice)) ∧
        ∀ later : DateTime,
          DateTime.epoch.timestampMillis + (86400 : Nat) * 1000 ≤ later.timestampMillis →
            reserveAlone database session .abuseipdb later = .ok () := by
  have run := Run.single (first_opened .blank)
  have run := run.snoc (.started (.reserve .abuseipdb) (fun _ => nofun) trivial)
  have run := run.snoc (.reserveSnapshot .epoch rfl (List.nil_append _).symm (by decide))
  have run := run.snoc (.reserveCommitted rfl rfl)
  have run := run.snoc (.reserveCleared rfl)
  have run := run.snoc (.reserveReturned rfl)
  exact ⟨_, _, run, rfl, retry_delay_exact run .abuseipdb rfl (by decide) .epoch rfl⟩

end RustEnrich.Storage
