import RustEnrich.Storage.Cache

/-!
# Transactions over the database

The committed contents of the database file, the in-memory state of a session,
and the body of each transaction as a function from the contents it reads to
the contents it would commit.
-/

namespace RustEnrich.Storage

/-- The tables of the file. -/
structure Database where
  cacheEntries : CacheTable
  quotaState : QuotaGroup → QuotaState
  quotaAttempts : List QuotaAttempt
  clockHighWater : Int

/-- The migration transaction of `initialize` on a file without tables. -/
def Database.create (now : DateTime) : Database where
  cacheEntries := .empty
  quotaState := fun _ => .fresh now.dateNaive
  quotaAttempts := []
  clockHighWater := now.timestampMillis

/-- A new file gets its tables. -/
def initializeSchema (now : DateTime) : Option Database → Database
  | none => .create now
  | some database => database

/-- The checks of `initialize` on one stored quota row. -/
def QuotaState.isReadable (state : QuotaState) : Bool :=
  state.day.parse.isSome ∧
    state.cooldownUntil.all (fun target => (DateTime.fromTimestampMillis target).isSome) ∧
    state.providerResetAt.all (fun reset => (DateTime.fromTimestampMillis reset).isSome)

/-- The reconciling transaction of `initialize`, with the effective time the
session starts at. -/
def reconcile (settings : Settings) (wall : DateTime) (database : Database) :
    Except StorageError (Database × Int) :=
  if (DateTime.fromTimestampMillis database.clockHighWater).isNone then
    .error .invalidData
  else if (database.quotaState .abuseipdbCheck).isReadable = false ∨
      (database.quotaState .virustotal).isReadable = false then
    .error .invalidData
  else
    let now := max database.clockHighWater wall.timestampMillis
    let fresh := deleteAllExpired settings wall.timestampMillis now
      (database.cacheEntries.rows.length + 1) database.cacheEntries
    match evict settings fresh with
    | .error error => .error error
    | .ok table => .ok ({ database with cacheEntries := table }, now)

/-- Feedback retained in memory until it is durable. -/
structure PendingFeedback where
  generation : UInt64
  feedback : QuotaFeedback
  deriving DecidableEq

/-- What the storage keeps in memory. -/
structure RuntimeState where
  highWater : Int
  nextGeneration : UInt64
  pending : QuotaGroup → Option PendingFeedback

namespace RuntimeState

/-- What is in memory at a start. -/
def fresh (highWater : Int) : RuntimeState where
  highWater
  nextGeneration := 0
  pending := fun _ => none

/-- `observe_time`: the effective clock never moves backward. -/
def observe (runtime : RuntimeState) (wall : DateTime) : RuntimeState :=
  { runtime with highWater := max runtime.highWater wall.timestampMillis }

/-- The retention at the start of `feedback`, with `wrapping_add`. -/
def retain (runtime : RuntimeState) (group : QuotaGroup) (feedback : QuotaFeedback) :
    RuntimeState :=
  let generation := runtime.nextGeneration + 1
  let merged :=
    match runtime.pending group with
    | some old => mergeFeedback old.feedback feedback
    | none => feedback
  { runtime with
    nextGeneration := generation
    pending := Function.update runtime.pending group (some { generation, feedback := merged }) }

/-- What was saved is no longer retained, unless more was merged into it since. -/
def clearPending (runtime : RuntimeState) (group : QuotaGroup) (saved : Option PendingFeedback) :
    RuntimeState :=
  match saved with
  | none => runtime
  | some saved =>
      if (runtime.pending group).any (fun pending => pending.generation = saved.generation) then
        { runtime with pending := Function.update runtime.pending group none }
      else
        runtime

/-- A reading leaves what is retained. -/
@[simp] theorem observe_pending (runtime : RuntimeState) (wall : DateTime) :
    (runtime.observe wall).pending = runtime.pending := rfl

/-- A reading leaves the generations. -/
@[simp] theorem observe_nextGeneration (runtime : RuntimeState) (wall : DateTime) :
    (runtime.observe wall).nextGeneration = runtime.nextGeneration := rfl

/-- A report leaves the clock. -/
@[simp] theorem retain_highWater (runtime : RuntimeState) (group : QuotaGroup)
    (feedback : QuotaFeedback) : (runtime.retain group feedback).highWater = runtime.highWater :=
  rfl

/-- Clearing leaves the clock. -/
@[simp] theorem clearPending_highWater (runtime : RuntimeState) (group : QuotaGroup)
    (saved : Option PendingFeedback) :
    (runtime.clearPending group saved).highWater = runtime.highWater := by
  unfold clearPending
  split
  · rfl
  · split <;> rfl

/-- Clearing leaves the generations. -/
@[simp] theorem clearPending_nextGeneration (runtime : RuntimeState) (group : QuotaGroup)
    (saved : Option PendingFeedback) :
    (runtime.clearPending group saved).nextGeneration = runtime.nextGeneration := by
  unfold clearPending
  split
  · rfl
  · split <;> rfl

/-- A reading does not set the clock back. -/
theorem highWater_le_observe (runtime : RuntimeState) (wall : DateTime) :
    runtime.highWater ≤ (runtime.observe wall).highWater :=
  le_max_left _ _

end RuntimeState

/-- The retained feedback applied to the row a transaction read. -/
def applyPending (state : QuotaState) (pending : Option PendingFeedback) (now : Int)
    (unobservedAttempts : Nat) : Except StorageError QuotaState :=
  match pending with
  | some pending => state.applyFeedback pending.feedback now unobservedAttempts
  | none => .ok state

/-- `DELETE FROM quota_attempts` of a group up to a time. -/
def pruneAttempts (attempts : List QuotaAttempt) (group : QuotaGroup) (upTo : Int) :
    List QuotaAttempt :=
  attempts.filter (fun row => ¬(row.quotaGroup = group ∧ row.reservedAt ≤ upTo))

/-- The row and the attempts a decision leaves: a granted reservation consumes
one attempt, and leaves a timestamp where a minute cap is in force. -/
def settle (state : QuotaState) (attempts : List QuotaAttempt) (group : QuotaGroup)
    (limits : QuotaLimits) (now : Int) (decision : QuotaDecision) :
    Except StorageError (QuotaState × List QuotaAttempt) :=
  if decision.blocked then
    .ok (state, attempts)
  else
    match state.consume now with
    | .error error => .error error
    | .ok consumed =>
        .ok (consumed, attempts ++
          if 0 < limits.minute then [{ quotaGroup := group, reservedAt := now }] else [])

/-- The transaction of `reserve`. -/
def reserveTransaction (database : Database) (group : QuotaGroup) (limits : QuotaLimits)
    (wall : DateTime) (now : Int) (pending : Option PendingFeedback) :
    Except StorageError (Database × QuotaDecision) := do
  let state ← (database.quotaState group).advanceDay wall
  let state ← applyPending state pending now limits.unobservedAttempts
  let attempts := pruneAttempts database.quotaAttempts group (saturatingSub now 60000)
  let decision ← quotaDecision attempts group limits state now now
  let (state, attempts) ← settle state attempts group limits now decision
  let state ← state.write
  return ({ database with
    quotaState := Function.update database.quotaState group state
    quotaAttempts := attempts
    clockHighWater := max database.clockHighWater now }, decision)

/-- The transaction of `feedback`. -/
def feedbackTransaction (database : Database) (group : QuotaGroup) (limits : QuotaLimits)
    (now : Int) (pending : PendingFeedback) : Except StorageError Database := do
  let state ← (database.quotaState group).applyFeedback pending.feedback now
    limits.unobservedAttempts
  let state ← state.write
  return { database with
    quotaState := Function.update database.quotaState group state
    clockHighWater := max database.clockHighWater now }

/-- The transaction of `retry_after`, which is rolled back. -/
def retryAfterTransaction (database : Database) (group : QuotaGroup) (limits : QuotaLimits)
    (wall : DateTime) (now : Int) (pending : Option PendingFeedback) :
    Except StorageError (Option Nat) :=
  match DateTime.fromTimestampMillis now with
  | none => .error .invalidData
  | some effective => do
      let state ← (database.quotaState group).advanceDay effective
      let state ← applyPending state pending now limits.unobservedAttempts
      let decision ← quotaDecision database.quotaAttempts group limits state now
        wall.timestampMillis
      return decision.retryAfter

/-- A decision that blocks leaves row and reservations, and any other adds a
reservation. -/
theorem settle_ok {state stored : QuotaState} {attempts left : List QuotaAttempt}
    {group : QuotaGroup} {limits : QuotaLimits} {now : Int} {decision : QuotaDecision}
    (settled : settle state attempts group limits now decision = .ok (stored, left)) :
    (decision.blocked = true ∧ stored = state ∧ left = attempts) ∨
      (decision.blocked = false ∧ state.consume now = .ok stored ∧
        left = attempts ++
          if 0 < limits.minute then [{ quotaGroup := group, reservedAt := now }] else []) := by
  unfold settle at settled
  split at settled
  · rename_i denied
    cases settled
    exact Or.inl ⟨denied, rfl, rfl⟩
  · rename_i granted
    split at settled
    · cases settled
    · rename_i consumed consuming
      cases settled
      exact Or.inr ⟨Bool.eq_false_of_not_eq_true granted, consuming, rfl⟩

/-- What a reservation that commits has done: the row it decided on, and either
a denial or the consumption of one attempt. -/
theorem reserveTransaction_ok {database next : Database} {group : QuotaGroup}
    {limits : QuotaLimits} {wall : DateTime} {now : Int} {pending : Option PendingFeedback}
    {decision : QuotaDecision}
    (reserved : reserveTransaction database group limits wall now pending =
      .ok (next, decision)) :
    ∃ advanced state stored attempts,
      (database.quotaState group).advanceDay wall = .ok advanced ∧
      applyPending advanced pending now limits.unobservedAttempts = .ok state ∧
      quotaDecision (pruneAttempts database.quotaAttempts group (saturatingSub now 60000)) group
        limits state now now = .ok decision ∧
      settle state (pruneAttempts database.quotaAttempts group (saturatingSub now 60000)) group
        limits now decision = .ok (stored, attempts) ∧
      next = { database with
        quotaState := Function.update database.quotaState group stored
        quotaAttempts := attempts
        clockHighWater := max database.clockHighWater now } := by
  unfold reserveTransaction at reserved
  simp only [bind, Except.bind, pure, Except.pure] at reserved
  split at reserved
  · cases reserved
  rename_i advanced advancing
  split at reserved
  · cases reserved
  rename_i state applying
  split at reserved
  · cases reserved
  rename_i chosen deciding
  split at reserved
  · cases reserved
  rename_i settled settling
  split at reserved
  · cases reserved
  rename_i stored writing
  cases reserved
  rw [QuotaState.write_ok writing]
  exact ⟨advanced, state, settled.1, settled.2, advancing, applying, deciding, settling, rfl⟩

/-- A committed report leaves the row it was applied to. -/
theorem feedbackTransaction_ok {database next : Database} {group : QuotaGroup}
    {limits : QuotaLimits} {now : Int} {pending : PendingFeedback}
    (applied : feedbackTransaction database group limits now pending = .ok next) :
    ∃ stored,
      (database.quotaState group).applyFeedback pending.feedback now
        limits.unobservedAttempts = .ok stored ∧
      next = { database with
        quotaState := Function.update database.quotaState group stored
        clockHighWater := max database.clockHighWater now } := by
  unfold feedbackTransaction at applied
  simp only [bind, Except.bind, pure, Except.pure] at applied
  split at applied
  · cases applied
  rename_i state applying
  split at applied
  · cases applied
  rename_i stored writing
  cases applied
  have same := QuotaState.write_ok writing
  subst same
  exact ⟨stored, applying, rfl⟩

/-! ### What a transaction leaves alone -/

section Frame

variable {database next : Database} {group other : QuotaGroup} {limits : QuotaLimits}
  {wall : DateTime} {now : Int}

section Reserve

variable {pending : Option PendingFeedback} {decision : QuotaDecision}

/-- A transaction of one group leaves the rows of the others. -/
theorem reserveTransaction_of_ne (distinct : other ≠ group)
    (reserved : reserveTransaction database group limits wall now pending =
      .ok (next, decision)) : next.quotaState other = database.quotaState other := by
  obtain ⟨_, _, _, _, _, _, _, _, rfl⟩ := reserveTransaction_ok reserved
  exact Function.update_of_ne distinct _ _

/-- A committed reserve advances the durable clock. -/
theorem reserveTransaction_clockHighWater
    (reserved : reserveTransaction database group limits wall now pending =
      .ok (next, decision)) : next.clockHighWater = max database.clockHighWater now := by
  obtain ⟨_, _, _, _, _, _, _, _, rfl⟩ := reserveTransaction_ok reserved
  rfl

/-- A committed reserve leaves the cache. -/
theorem reserveTransaction_cacheEntries
    (reserved : reserveTransaction database group limits wall now pending =
      .ok (next, decision)) : next.cacheEntries = database.cacheEntries := by
  obtain ⟨_, _, _, _, _, _, _, _, rfl⟩ := reserveTransaction_ok reserved
  rfl

end Reserve

variable {pending : PendingFeedback}

/-- A committed report leaves the other group. -/
theorem feedbackTransaction_of_ne (distinct : other ≠ group)
    (applied : feedbackTransaction database group limits now pending = .ok next) :
    next.quotaState other = database.quotaState other := by
  obtain ⟨_, _, rfl⟩ := feedbackTransaction_ok applied
  exact Function.update_of_ne distinct _ _

/-- A committed report advances the durable clock. -/
theorem feedbackTransaction_clockHighWater
    (applied : feedbackTransaction database group limits now pending = .ok next) :
    next.clockHighWater = max database.clockHighWater now := by
  obtain ⟨_, _, rfl⟩ := feedbackTransaction_ok applied
  rfl

/-- A committed report leaves the cache. -/
theorem feedbackTransaction_cacheEntries
    (applied : feedbackTransaction database group limits now pending = .ok next) :
    next.cacheEntries = database.cacheEntries := by
  obtain ⟨_, _, rfl⟩ := feedbackTransaction_ok applied
  rfl

end Frame

/-- A start advances the clock and trims the cache. -/
theorem reconcile_ok {settings : Settings} {wall : DateTime} {database next : Database}
    {now : Int} (reconciled : reconcile settings wall database = .ok (next, now)) :
    now = max database.clockHighWater wall.timestampMillis ∧
      ∃ table, evict settings (deleteAllExpired settings wall.timestampMillis now
          (database.cacheEntries.rows.length + 1) database.cacheEntries) = .ok table ∧
        next = { database with cacheEntries := table } := by
  unfold reconcile at reconciled
  dsimp only at reconciled
  split at reconciled
  · cases reconciled
  split at reconciled
  · cases reconciled
  split at reconciled
  · cases reconciled
  rename_i table evicting
  cases reconciled
  exact ⟨rfl, table, evicting, rfl⟩

end RustEnrich.Storage
