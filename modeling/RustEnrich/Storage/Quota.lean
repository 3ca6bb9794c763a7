import RustEnrich.Domain
import Mathlib.Data.List.Sort
import Mathlib.Logic.Function.Basic

/-!
# Attempt accounting

The persisted quota row of one provider group, the feedback upstream headers
give about it, and the decision whether an attempt may be reserved. Every
function works on the values one storage transaction reads; the transactions
themselves are assembled in `RustEnrich.Storage.Database`.
-/

namespace RustEnrich.Storage

/-- The errors a caller of the storage sees. -/
inductive StorageError
  | unavailable
  | timeout
  | alreadyOwned
  | newerSchema
  | invalidData
  deriving DecidableEq, Repr

/-- Why a reservation is not granted. -/
inductive ReservationError
  | storage (error : StorageError)
  | limited (retryAfter : Option Nat)
  deriving DecidableEq, Repr

/-- The stable accounting groups, under which attempts are counted. -/
inductive QuotaGroup
  | abuseipdbCheck
  | virustotal
  deriving DecidableEq, Repr

/-- The group whose budget a provider draws on. -/
def quotaGroup : ProviderId → QuotaGroup
  | .abuseipdb => .abuseipdbCheck
  | .virustotal => .virustotal

/-- Providers do not share a group. -/
theorem quotaGroup_injective : Function.Injective quotaGroup := by
  intro left right equal
  cases left <;> cases right <;> first | rfl | cases equal

/-- What the headers of a response say about the quota of its group. -/
structure QuotaFeedback where
  cooldownUntil : Option DateTime
  unknownReset : Bool
  remaining : Option Nat
  resetAt : Option DateTime
  deriving DecidableEq

/-- Caps of one group for a session, and the attempts that may be in flight
before the first upstream observation. `Storage::open` rejects caps that do not
fit a signed counter. -/
structure QuotaLimits where
  minute : Nat
  day : Nat
  unobservedAttempts : Nat
  minute_le : (minute : Int) ≤ i64Max
  day_le : (day : Int) ≤ i64Max

/-- `Option::max` of chrono instants: an absent one is the least. -/
def laterOf : Option DateTime → Option DateTime → Option DateTime
  | none, right => right
  | some left, none => some left
  | some left, some right => some (max left right)

/-- The later of two instants is not before the first one. -/
theorem le_laterOf_left {left : Option DateTime} {instant : DateTime} (held : left = some instant)
    (right : Option DateTime) : ∃ later, laterOf left right = some later ∧ instant ≤ later := by
  subst held
  cases right with
  | none => exact ⟨instant, rfl, le_refl _⟩
  | some other => exact ⟨max instant other, rfl, le_max_left _ _⟩

/-- The later of two instants is not before the second one. -/
theorem le_laterOf_right {right : Option DateTime} {instant : DateTime}
    (held : right = some instant) (left : Option DateTime) :
    ∃ later, laterOf left right = some later ∧ instant ≤ later := by
  subst held
  cases left with
  | none => exact ⟨instant, rfl, le_refl _⟩
  | some other => exact ⟨max other instant, rfl, le_max_right _ _⟩

/-- Two reports retained as one, the newer one second. -/
def mergeFeedback (old new : QuotaFeedback) : QuotaFeedback :=
  let (cooldownUntil, unknownReset) : Option DateTime × Bool :=
    match old.cooldownUntil, new.cooldownUntil with
    | some a, some b =>
        if a > b then (some a, old.unknownReset)
        else if a = b then (some a, old.unknownReset || new.unknownReset)
        else (some b, new.unknownReset)
    | none, some b => (some b, new.unknownReset)
    | some a, none => (some a, old.unknownReset)
    | none, none => (none, false)
  { cooldownUntil
    unknownReset
    remaining :=
      match old.remaining, new.remaining with
      | some a, some b => some (min a b)
      | some a, none => some a
      | none, b => b
    resetAt := laterOf old.resetAt new.resetAt }

/-- The `utc_day` column: the text of a calendar day, or a text `%Y-%m-%d` does
not accept. -/
inductive DayText
  | ofDate (date : Int)
  | malformed
  deriving DecidableEq, Repr

/-- `NaiveDate::parse_from_str` at `%Y-%m-%d`, the inverse of `to_string`. -/
def DayText.parse : DayText → Option Int
  | .ofDate date => some date
  | .malformed => none

/-- The row of a group in `quota_state`. -/
structure QuotaState where
  day : DayText
  dailyConsumed : Nat
  cooldownUntil : Option Int
  cooldownUnknown : Bool
  providerRemaining : Option Nat
  providerResetAt : Option Int
  deriving DecidableEq

namespace QuotaState

/-- The row `initialize` inserts for a group. -/
def fresh (today : Int) : QuotaState where
  day := .ofDate today
  dailyConsumed := 0
  cooldownUntil := none
  cooldownUnknown := false
  providerRemaining := none
  providerResetAt := none

/-- An ended provider window forgets its allowance. -/
def expireReset (state : QuotaState) (now : Int) : QuotaState :=
  if state.providerResetAt.any (fun reset => reset ≤ now) then
    { state with providerRemaining := none, providerResetAt := none }
  else
    state

/-- An ended cooldown is cleared, and with it an exhaustion no reset time
bounds. -/
def expireCooldown (state : QuotaState) (now : Int) : QuotaState :=
  if state.cooldownUntil.any (fun target => target ≤ now) then
    { state with
      providerRemaining :=
        if state.providerResetAt.isNone ∧ state.providerRemaining = some 0 then none
        else state.providerRemaining
      cooldownUntil := none
      cooldownUnknown := false }
  else
    state

/-- What has ended at a reading is taken out of the row. -/
def expireFeedback (state : QuotaState) (now : Int) : QuotaState :=
  (state.expireReset now).expireCooldown now

/-- The branch of `advance_day` for a reading on a later day. -/
def startDay (state : QuotaState) (today : Int) : QuotaState :=
  { state with
    day := .ofDate today
    dailyConsumed := 0
    providerRemaining :=
      if state.providerResetAt.isNone then none else state.providerRemaining }

/-- A new UTC day starts with nothing consumed; a day ahead of the reading is no valid
row. -/
def advanceDay (state : QuotaState) (now : DateTime) : Except StorageError QuotaState :=
  match state.day.parse with
  | none => .error .invalidData
  | some saved =>
      if now.dateNaive < saved then
        .error .invalidData
      else if saved < now.dateNaive then
        .ok ((state.startDay now.dateNaive).expireFeedback now.timestampMillis)
      else
        .ok (state.expireFeedback now.timestampMillis)

/-- Missing reset headers permit paced probes, never a promised reset. -/
def ensureUnknownCooldown (state : QuotaState) (now : Int) : QuotaState :=
  if state.providerRemaining = some 0 ∧ state.providerResetAt = none ∧
      state.cooldownUntil = none then
    { state with
      cooldownUntil := some (saturatingAdd now 60000)
      cooldownUnknown := true }
  else
    state

/-- The cooldown part of `apply_feedback`: a later target replaces the stored
one, an equal one keeps the weaker promise. -/
def applyCooldown (state : QuotaState) (feedback : QuotaFeedback) (now : Int) : QuotaState :=
  match (feedback.cooldownUntil.map DateTime.timestampMillis).filter (fun target => now < target)
  with
  | none => state
  | some target =>
      if state.cooldownUntil.all (fun old => old < target) then
        { state with cooldownUntil := some target, cooldownUnknown := feedback.unknownReset }
      else if state.cooldownUntil = some target then
        { state with cooldownUnknown := state.cooldownUnknown || feedback.unknownReset }
      else
        state

/-- The allowance part of `apply_feedback`. The first observation leaves room
for every attempt that may be outstanding, later ones only decrease. -/
def applyAllowance (state : QuotaState) (feedback : QuotaFeedback) (unobservedAttempts : Nat) :
    QuotaState :=
  { state with
    providerRemaining :=
      match feedback.remaining, state.providerRemaining with
      | none, old => old
      | some remaining, none => some (remaining - unobservedAttempts)
      | some remaining, some old => some (min old remaining)
    providerResetAt :=
      match feedback.resetAt.map DateTime.timestampMillis, state.providerResetAt with
      | none, old => old
      | some reset, none => some reset
      | some reset, some old => some (max old reset) }

/-- A report becomes part of the row, after what has ended is taken out. -/
def applyFeedback (state : QuotaState) (feedback : QuotaFeedback) (now : Int)
    (unobservedAttempts : Nat) : Except StorageError QuotaState :=
  let state := (state.expireFeedback now).applyCooldown feedback now
  -- A late response for an ended window says nothing about the current one.
  if (feedback.resetAt.map DateTime.timestampMillis).any (fun reset => reset ≤ now) then
    .ok state
  else if feedback.remaining.any (fun remaining => i64Max < remaining) then
    .error .invalidData
  else
    .ok ((state.applyAllowance feedback unobservedAttempts).ensureUnknownCooldown now)

/-- The update of a granted reservation. -/
def consume (state : QuotaState) (now : Int) : Except StorageError QuotaState :=
  if u64Max < state.dailyConsumed + 1 then
    .error .invalidData
  else
    .ok (({ state with
      dailyConsumed := state.dailyConsumed + 1
      providerRemaining := state.providerRemaining.map (fun remaining => remaining - 1) } :
        QuotaState).ensureUnknownCooldown now)

/-- The row `write` stores, when its counters fit the signed columns. -/
def write (state : QuotaState) : Except StorageError QuotaState :=
  if i64Max < state.dailyConsumed then
    .error .invalidData
  else if state.providerRemaining.any (fun remaining => i64Max < remaining) then
    .error .invalidData
  else
    .ok state

/-! ### The rows an update leaves -/

section Frame

variable (state : QuotaState) (feedback : QuotaFeedback) (now : Int) (unobservedAttempts : Nat)

/-- Expiry keeps the day. -/
@[simp] theorem expireFeedback_day : (state.expireFeedback now).day = state.day := by
  unfold expireFeedback expireCooldown expireReset
  split <;> split <;> rfl

/-- Expiry keeps the count of the day. -/
@[simp] theorem expireFeedback_dailyConsumed :
    (state.expireFeedback now).dailyConsumed = state.dailyConsumed := by
  unfold expireFeedback expireCooldown expireReset
  split <;> split <;> rfl

/-- A reported cooldown keeps the day. -/
@[simp] theorem applyCooldown_day : (state.applyCooldown feedback now).day = state.day := by
  unfold applyCooldown
  split
  · rfl
  · split
    · rfl
    · split <;> rfl

/-- A reported cooldown keeps the count of the day. -/
@[simp] theorem applyCooldown_dailyConsumed :
    (state.applyCooldown feedback now).dailyConsumed = state.dailyConsumed := by
  unfold applyCooldown
  split
  · rfl
  · split
    · rfl
    · split <;> rfl

/-- A reported cooldown keeps what the provider has left. -/
@[simp] theorem applyCooldown_providerRemaining :
    (state.applyCooldown feedback now).providerRemaining = state.providerRemaining := by
  unfold applyCooldown
  split
  · rfl
  · split
    · rfl
    · split <;> rfl

/-- A reported cooldown keeps the reset. -/
@[simp] theorem applyCooldown_providerResetAt :
    (state.applyCooldown feedback now).providerResetAt = state.providerResetAt := by
  unfold applyCooldown
  split
  · rfl
  · split
    · rfl
    · split <;> rfl

/-- The fallback keeps the day. -/
@[simp] theorem ensureUnknownCooldown_day :
    (state.ensureUnknownCooldown now).day = state.day := by
  unfold ensureUnknownCooldown
  split <;> rfl

/-- The fallback keeps the count of the day. -/
@[simp] theorem ensureUnknownCooldown_dailyConsumed :
    (state.ensureUnknownCooldown now).dailyConsumed = state.dailyConsumed := by
  unfold ensureUnknownCooldown
  split <;> rfl

/-- The fallback keeps what the provider has left. -/
@[simp] theorem ensureUnknownCooldown_providerRemaining :
    (state.ensureUnknownCooldown now).providerRemaining = state.providerRemaining := by
  unfold ensureUnknownCooldown
  split <;> rfl

/-- The fallback keeps the reset. -/
@[simp] theorem ensureUnknownCooldown_providerResetAt :
    (state.ensureUnknownCooldown now).providerResetAt = state.providerResetAt := by
  unfold ensureUnknownCooldown
  split <;> rfl

end Frame

/-! ### What expiry leaves -/

section Expiry

variable (state : QuotaState) (now : Int)

/-- An expired reset leaves the cooldown. -/
@[simp] theorem expireReset_cooldownUntil :
    (state.expireReset now).cooldownUntil = state.cooldownUntil := by
  unfold expireReset
  split <;> rfl

/-- An expired reset leaves the mark of the fallback. -/
@[simp] theorem expireReset_cooldownUnknown :
    (state.expireReset now).cooldownUnknown = state.cooldownUnknown := by
  unfold expireReset
  split <;> rfl

/-- A cooldown survives expiry while it lasts. -/
theorem expireFeedback_cooldownUntil : (state.expireFeedback now).cooldownUntil =
    state.cooldownUntil.filter (fun target => now < target) := by
  unfold expireFeedback expireCooldown
  rw [expireReset_cooldownUntil]
  cases stored : state.cooldownUntil with
  | none => simp [stored]
  | some target =>
      by_cases ended : target ≤ now
      · simp [Option.filter_some, ended, not_lt.mpr ended]
      · simp [Option.filter_some, ended, not_le.mp ended, stored]

/-- The mark of the fallback goes with its cooldown. -/
theorem expireFeedback_cooldownUnknown : (state.expireFeedback now).cooldownUnknown =
    (state.cooldownUnknown && !state.cooldownUntil.any (fun target => target ≤ now)) := by
  unfold expireFeedback expireCooldown
  rw [expireReset_cooldownUntil]
  split
  · rename_i ended
    simp [ended]
  · rename_i ahead
    simp [ahead]

/-- A reset survives expiry while it is ahead. -/
theorem expireFeedback_providerResetAt : (state.expireFeedback now).providerResetAt =
    state.providerResetAt.filter (fun reset => now < reset) := by
  have window : (state.expireFeedback now).providerResetAt =
      (state.expireReset now).providerResetAt := by
    unfold expireFeedback expireCooldown
    split <;> rfl
  rw [window]
  unfold expireReset
  cases stored : state.providerResetAt with
  | none => exact stored
  | some reset =>
      by_cases ended : reset ≤ now
      · simp [Option.filter_some, ended, not_lt.mpr ended]
      · simp [Option.filter_some, ended, not_le.mp ended, stored]

/-- An exhausted allowance lasts until its window ends, or where it has none
until the cooldown does. -/
theorem expireFeedback_exhausted : (state.expireFeedback now).providerRemaining = some 0 ↔
    state.providerRemaining = some 0 ∧
      match state.providerResetAt with
      | some reset => now < reset
      | none => ∀ target, state.cooldownUntil = some target → now < target := by
  obtain ⟨day, consumed, cooldown, unknown, remaining, reset⟩ := state
  unfold expireFeedback expireCooldown expireReset
  cases reset with
  | none =>
      cases cooldown with
      | none => simp
      | some target => by_cases ended : target ≤ now <;> simp [ended, not_le.mp]
  | some reset =>
      -- with a window, the end of the cooldown leaves the allowance alone
      by_cases ended : reset ≤ now
      · cases cooldown with
        | none => simp [ended]
        | some target => by_cases past : target ≤ now <;> simp [ended, past]
      · cases cooldown with
        | none => simp [ended, not_le.mp]
        | some target => by_cases past : target ≤ now <;> simp [ended, past, not_le.mp]

end Expiry

/-! ### What each update can do -/

/-- A row that advances is of the reading's day, where only what has ended goes, or of
an earlier one, which starts anew. -/
theorem advanceDay_ok {state next : QuotaState} {now : DateTime}
    (advanced : state.advanceDay now = .ok next) :
    ∃ saved, state.day = .ofDate saved ∧
      ((saved = now.dateNaive ∧ next = state.expireFeedback now.timestampMillis) ∨
        (saved < now.dateNaive ∧
          next = (state.startDay now.dateNaive).expireFeedback now.timestampMillis)) := by
  unfold advanceDay at advanced
  cases day : state.day with
  | malformed => rw [day] at advanced; cases advanced
  | ofDate saved =>
      rw [day] at advanced
      simp only [DayText.parse] at advanced
      refine ⟨saved, rfl, ?_⟩
      split at advanced
      · cases advanced
      · rename_i notBefore
        split at advanced
        · rename_i earlier
          exact Or.inr ⟨earlier, (Except.ok.inj advanced).symm⟩
        · rename_i notEarlier
          exact Or.inl ⟨le_antisymm (not_lt.mp notBefore) (not_lt.mp notEarlier),
            (Except.ok.inj advanced).symm⟩

/-- A report of an ended window changes the cooldown alone; any other changes the
allowance too, and may start the fallback. -/
theorem applyFeedback_ok {state next : QuotaState} {feedback : QuotaFeedback} {now : Int}
    {unobservedAttempts : Nat}
    (applied : state.applyFeedback feedback now unobservedAttempts = .ok next) :
    ((∃ reset, feedback.resetAt = some reset ∧ reset.timestampMillis ≤ now) ∧
        next = (state.expireFeedback now).applyCooldown feedback now) ∨
      ((∀ reset, feedback.resetAt = some reset → now < reset.timestampMillis) ∧
        next = (((state.expireFeedback now).applyCooldown feedback now).applyAllowance feedback
          unobservedAttempts).ensureUnknownCooldown now) := by
  unfold applyFeedback at applied
  dsimp only at applied
  split at applied
  · rename_i stale
    refine Or.inl ⟨?_, (Except.ok.inj applied).symm⟩
    cases reset : feedback.resetAt with
    | none => simp only [reset, Option.map_none, Option.any_none, Bool.false_eq_true] at stale
    | some target =>
        simp only [reset, Option.map_some, Option.any_some, decide_eq_true_eq] at stale
        exact ⟨target, rfl, stale⟩
  · rename_i current
    split at applied
    · cases applied
    · refine Or.inr ⟨?_, (Except.ok.inj applied).symm⟩
      intro target reset
      simp only [reset, Option.map_some, Option.any_some, decide_eq_true_eq, not_le] at current
      exact current

/-- A report keeps the day. -/
theorem applyFeedback_day {state next : QuotaState} {feedback : QuotaFeedback} {now : Int}
    {unobservedAttempts : Nat}
    (applied : state.applyFeedback feedback now unobservedAttempts = .ok next) :
    next.day = state.day := by
  rcases applyFeedback_ok applied with ⟨_, rfl⟩ | ⟨_, rfl⟩ <;> simp [applyAllowance]

/-- A report keeps the count of the day. -/
theorem applyFeedback_dailyConsumed {state next : QuotaState} {feedback : QuotaFeedback}
    {now : Int} {unobservedAttempts : Nat}
    (applied : state.applyFeedback feedback now unobservedAttempts = .ok next) :
    next.dailyConsumed = state.dailyConsumed := by
  rcases applyFeedback_ok applied with ⟨_, rfl⟩ | ⟨_, rfl⟩ <;> simp [applyAllowance]

/-- A reservation adds one to the count of the day and takes one from what the
provider has left. -/
theorem consume_ok {state next : QuotaState} {now : Int} (consumed : state.consume now = .ok next) :
    next.day = state.day ∧ next.dailyConsumed = state.dailyConsumed + 1 ∧
      next.providerRemaining = state.providerRemaining.map (fun remaining => remaining - 1) ∧
      next.providerResetAt = state.providerResetAt := by
  unfold consume at consumed
  split at consumed
  · cases consumed
  · cases consumed
    simp

/-- A row is written as it is. -/
theorem write_ok {state stored : QuotaState} (written : state.write = .ok stored) :
    stored = state := by
  unfold write at written
  split at written
  · cases written
  · split at written
    · cases written
    · exact (Except.ok.inj written).symm

end QuotaState

/-- A reservation on record. -/
structure QuotaAttempt where
  quotaGroup : QuotaGroup
  reservedAt : Int
  deriving DecidableEq, Repr

/-- What a reservation is told. -/
structure QuotaDecision where
  blocked : Bool
  retryAfter : Option Nat
  deriving DecidableEq, Repr

/-- `next_day_millis`. -/
def nextDayMillis (now : DateTime) : Except StorageError Int :=
  if now.dateNaive + 1 ≤ NaiveDate.max then
    .ok ((now.dateNaive + 1) * dayMillis)
  else
    .error .invalidData

/-- The running variables of `quota_decision`. -/
structure Verdict where
  blocked : Bool
  delay : Nat
  unknown : Bool

namespace Verdict

/-- Deny, and wait at least until a known time. -/
def denyUntil (verdict : Verdict) (target actualNow : Int) : Verdict :=
  { verdict with blocked := true, delay := max verdict.delay (delaySeconds target actualNow) }

/-- A cooldown that lasts denies until it ends. -/
def checkCooldown (verdict : Verdict) (state : QuotaState) (now actualNow : Int) : Verdict :=
  match state.cooldownUntil.filter (fun target => now < target) with
  | some target =>
      { verdict.denyUntil target actualNow with unknown := state.cooldownUnknown }
  | none => verdict

/-- A full day denies until midnight, and on a clock behind it until then. -/
def checkDay (verdict : Verdict) (limits : QuotaLimits) (state : QuotaState)
    (now actualNow : Int) : Except StorageError Verdict :=
  if limits.day ≤ state.dailyConsumed then
    match DateTime.fromTimestampMillis now with
    | none => .error .invalidData
    | some effective => do
        let midnight ← nextDayMillis effective
        return verdict.denyUntil midnight actualNow
  else
    .ok verdict

/-- Nothing left at the provider denies until the reset, or for an unknown time. -/
def checkRemaining (verdict : Verdict) (state : QuotaState) (now actualNow : Int) : Verdict :=
  if state.providerRemaining = some 0 then
    match state.providerResetAt.filter (fun reset => now < reset) with
    | some reset => verdict.denyUntil reset actualNow
    | none => { verdict with blocked := true, unknown := true }
  else
    verdict

/-- The reservations of a group after a time, oldest first. -/
def recentAttempts (attempts : List QuotaAttempt) (group : QuotaGroup) (after : Int) :
    List Int :=
  ((attempts.filter (fun row => row.quotaGroup = group ∧ after < row.reservedAt)).map
    QuotaAttempt.reservedAt).insertionSort (· ≤ ·)

/-- A full minute denies until enough of its reservations are a minute old. -/
def checkMinute (verdict : Verdict) (attempts : List QuotaAttempt) (group : QuotaGroup)
    (limits : QuotaLimits) (now actualNow : Int) : Except StorageError Verdict :=
  let recent := recentAttempts attempts group (saturatingSub now 60000)
  if 0 < limits.minute ∧ limits.minute ≤ recent.length then
    -- A reduced cap can require several reservations to age out.
    match recent[recent.length - limits.minute]? with
    | none => .error .unavailable
    | some clearsAt => .ok (verdict.denyUntil (saturatingAdd clearsAt 60000) actualNow)
  else
    .ok verdict

/-- A target ahead denies. -/
@[simp] theorem denyUntil_blocked (verdict : Verdict) (target actualNow : Int) :
    (verdict.denyUntil target actualNow).blocked = true := rfl

/-- The cooldown denies while it lasts. -/
theorem checkCooldown_blocked (verdict : Verdict) (state : QuotaState) (now actualNow : Int) :
    (verdict.checkCooldown state now actualNow).blocked = true ↔
      verdict.blocked = true ∨ ∃ target, state.cooldownUntil = some target ∧ now < target := by
  unfold checkCooldown
  cases cooldown : state.cooldownUntil with
  | none => simp only [Option.filter_none, reduceCtorEq, false_and, exists_false, or_false]
  | some target =>
      by_cases ahead : now < target
      · simp [Option.filter_some, ahead]
      · simp [Option.filter_some, ahead]

/-- The day denies where its cap is reached. -/
theorem checkDay_blocked {verdict next : Verdict} {limits : QuotaLimits} {state : QuotaState}
    {now actualNow : Int} (checked : verdict.checkDay limits state now actualNow = .ok next) :
    next.blocked = true ↔ verdict.blocked = true ∨ limits.day ≤ state.dailyConsumed := by
  unfold checkDay at checked
  split at checked
  · rename_i exhausted
    split at checked
    · cases checked
    · rename_i effective _
      cases midnight : nextDayMillis effective with
      | error _ => rw [midnight] at checked; cases checked
      | ok target =>
          rw [midnight] at checked
          cases checked
          simp [exhausted]
  · rename_i available
    cases checked
    simp only [available, or_false]

/-- The provider denies where nothing is left. -/
theorem checkRemaining_blocked (verdict : Verdict) (state : QuotaState) (now actualNow : Int) :
    (verdict.checkRemaining state now actualNow).blocked = true ↔
      verdict.blocked = true ∨ state.providerRemaining = some 0 := by
  unfold checkRemaining
  by_cases exhausted : state.providerRemaining = some 0
  · rw [if_pos exhausted]
    split <;> simp [exhausted]
  · simp only [exhausted, ↓reduceIte, or_false]

/-- The minute denies where its cap is reached. -/
theorem checkMinute_blocked {verdict next : Verdict} {attempts : List QuotaAttempt}
    {group : QuotaGroup} {limits : QuotaLimits} {now actualNow : Int}
    (checked : verdict.checkMinute attempts group limits now actualNow = .ok next) :
    next.blocked = true ↔ verdict.blocked = true ∨
      (0 < limits.minute ∧
        limits.minute ≤ (recentAttempts attempts group (saturatingSub now 60000)).length) := by
  unfold checkMinute at checked
  dsimp only at checked
  split at checked
  · rename_i full
    split at checked
    · cases checked
    · cases checked
      simp [full]
  · rename_i available
    cases checked
    simp only [available, or_false]

end Verdict

/-- The verdict over the clock, the cooldown, the day, the provider and the minute, in
this order. -/
def quotaDecision (attempts : List QuotaAttempt) (group : QuotaGroup) (limits : QuotaLimits)
    (state : QuotaState) (now actualNow : Int) : Except StorageError QuotaDecision := do
  let verdict : Verdict :=
    { blocked := decide (actualNow < now), delay := delaySeconds now actualNow, unknown := false }
  let verdict := verdict.checkCooldown state now actualNow
  let verdict ← verdict.checkDay limits state now actualNow
  let verdict := verdict.checkRemaining state now actualNow
  let verdict ← verdict.checkMinute attempts group limits now actualNow
  return {
    blocked := verdict.blocked
    retryAfter :=
      if verdict.blocked ∧ verdict.unknown = false then some (max verdict.delay 1) else none }

/-- What denies an attempt. -/
theorem quotaDecision_blocked {attempts : List QuotaAttempt} {group : QuotaGroup}
    {limits : QuotaLimits} {state : QuotaState} {now actualNow : Int} {decision : QuotaDecision}
    (decided : quotaDecision attempts group limits state now actualNow = .ok decision) :
    decision.blocked = true ↔
      actualNow < now ∨ (∃ target, state.cooldownUntil = some target ∧ now < target) ∨
        limits.day ≤ state.dailyConsumed ∨ state.providerRemaining = some 0 ∨
        (0 < limits.minute ∧ limits.minute ≤
          (Verdict.recentAttempts attempts group (saturatingSub now 60000)).length) := by
  unfold quotaDecision at decided
  simp only [bind, Except.bind, pure, Except.pure] at decided
  split at decided
  · cases decided
  · rename_i afterDay dayChecked
    split at decided
    · cases decided
    · rename_i afterMinute minuteChecked
      cases decided
      rw [Verdict.checkMinute_blocked minuteChecked, Verdict.checkRemaining_blocked,
        Verdict.checkDay_blocked dayChecked, Verdict.checkCooldown_blocked]
      simp only [decide_eq_true_eq, or_assoc]

/-- What a granting decision found. -/
structure Permits (attempts : List QuotaAttempt) (group : QuotaGroup) (limits : QuotaLimits)
    (state : QuotaState) (now : Int) : Prop where
  cooldown : ∀ target, state.cooldownUntil = some target → target ≤ now
  day : state.dailyConsumed < limits.day
  remaining : state.providerRemaining ≠ some 0
  minute : 0 < limits.minute →
    (Verdict.recentAttempts attempts group (saturatingSub now 60000)).length < limits.minute

/-- A granted decision passed every check. -/
theorem permits_of_granted {attempts : List QuotaAttempt} {group : QuotaGroup}
    {limits : QuotaLimits} {state : QuotaState} {now actualNow : Int} {decision : QuotaDecision}
    (decided : quotaDecision attempts group limits state now actualNow = .ok decision)
    (granted : decision.blocked = false) : Permits attempts group limits state now := by
  have unblocked : ¬ decision.blocked = true := by
    rw [granted]
    exact Bool.false_ne_true
  rw [quotaDecision_blocked decided, not_or, not_or, not_or, not_or] at unblocked
  obtain ⟨_, cooldown, day, remaining, minute⟩ := unblocked
  refine ⟨?_, not_le.mp day, remaining, ?_⟩
  · intro target held
    by_contra ahead
    exact cooldown ⟨target, held, not_le.mp ahead⟩
  · intro capped
    by_contra full
    exact minute ⟨capped, not_lt.mp full⟩

end RustEnrich.Storage
