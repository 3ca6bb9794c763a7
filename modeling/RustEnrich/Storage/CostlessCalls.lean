import RustEnrich.Storage.CatchingUp
import RustEnrich.Storage.Sequential
import RustEnrich.Transitions.Bisimulation

/-!
# Calls that cost nothing

A denied reservation still writes: it starts the day of the row, forgets what
has ended, prunes the log and moves the clocks. A read writes nothing. No later
sequence of calls tells a storage in which one of them was inserted from one in
which it was not.
-/

namespace RustEnrich.Storage

open Transitions

/-- Feedback about a group. -/
def Operation.Feeds (group : QuotaGroup) : Operation → Prop
  | .feedback provider _ => quotaGroup provider = group
  | _ => False

/-- A reservation that is denied, or a read of the quota or the file. -/
def Operation.Costless (answer : Answer) : Operation → Prop
  | .reserve _ => ∃ advice, answer = .reserved (.error (.limited advice))
  | .retryAfter _ | .health => True
  | _ => False

/-! ### Storages alike from a reading on -/

section Alike

variable (wall : DateTime)

/-- A row, and what a denial may leave of it. Feedback forgets what has ended and
starts no day, so a row still to be fed is one of the day of the reading. -/
inductive QuotaState.Alike (fed : Prop) (state : QuotaState) : QuotaState → Prop
  | same : QuotaState.Alike fed state state
  | advanced {next : QuotaState} (advances : state.advanceDay wall = .ok next)
      (today : fed → state.day = .ofDate wall.dateNaive)
      (readable : next.isReadable = state.isReadable) : QuotaState.Alike fed state next

/-- Clocks that no reading from this one on tells apart. -/
def ClocksAlike (left right : Int) : Prop :=
  max left wall.timestampMillis = max right wall.timestampMillis

/-- What is in memory differs at most in a clock that the reading passes. -/
structure RuntimeState.Alike (left right : RuntimeState) : Prop where
  highWater : ClocksAlike wall left.highWater right.highWater
  nextGeneration : left.nextGeneration = right.nextGeneration
  pending : left.pending = right.pending

/-- Sessions that differ at most in what is in memory. -/
structure Session.Alike (left right : Session) : Prop where
  settings : left.settings = right.settings
  runtime : left.runtime.Alike wall right.runtime

variable (fed : QuotaGroup → Prop)

/-- Databases that differ at most in what a reading makes equal. -/
structure Database.Alike (left right : Database) : Prop where
  cacheEntries : left.cacheEntries = right.cacheEntries
  quotaState : ∀ group, (left.quotaState group).Alike wall (fed group) (right.quotaState group)
  quotaAttempts : SameAttempts (saturatingSub wall.timestampMillis 60000) left.quotaAttempts
    right.quotaAttempts
  clockHighWater : ClocksAlike wall left.clockHighWater right.clockHighWater
  onClock : (DateTime.fromTimestampMillis left.clockHighWater).isNone =
    (DateTime.fromTimestampMillis right.clockHighWater).isNone

/-- Worlds that differ at most in what a reading makes equal. -/
inductive World.Alike : World → World → Prop
  | absent : World.Alike (.closed none) (.closed none)
  | closed {left right : Database} (databases : left.Alike wall fed right) :
      World.Alike (.closed (some left)) (.closed (some right))
  | running {left right : Database} {session other : Session}
      (databases : left.Alike wall fed right) (sessions : session.Alike wall other) :
      World.Alike (.running left session) (.running right other)

/-- Two calls performed alone that answer alike and leave worlds alike. -/
structure Alone.Alike (left right : Alone) : Prop where
  answer : left.answer = right.answer
  world : World.Alike wall fed left.world right.world

end Alike

variable {codec : PayloadCodec} {wall reading : DateTime} {fed : QuotaGroup → Prop}

/-- A later reading makes the clocks equal. -/
theorem ClocksAlike.max_eq {left right now : Int} (alike : ClocksAlike wall left right)
    (later : wall.timestampMillis ≤ now) : max left now = max right now := by
  unfold ClocksAlike at alike
  rw [← max_eq_right later, ← max_assoc, ← max_assoc, alike]

/-- Clocks that a reading makes equal stay so as they advance. -/
theorem ClocksAlike.max {left right now : Int} (alike : ClocksAlike wall left right)
    (later : wall.timestampMillis ≤ now) : ClocksAlike wall (max left now) (max right now) := by
  rw [alike.max_eq later]
  rfl

namespace QuotaState.Alike

variable {left right : QuotaState} {feeding : Prop}

/-- Alike rows are read back alike. -/
theorem isReadable (alike : left.Alike wall feeding right) :
    left.isReadable = right.isReadable := by
  cases alike with
  | same => rfl
  | advanced advances today readable => exact readable.symm

/-- Alike rows advance alike. -/
theorem advanceDay (alike : left.Alike wall feeding right)
    (later : wall.timestampMillis ≤ reading.timestampMillis) :
    left.advanceDay reading = right.advanceDay reading := by
  cases alike with
  | same => rfl
  | advanced advances today readable => exact (advanceDay_advanceDay advances later).symm

/-- Alike rows of a group that may be reported on take a report alike. -/
theorem applyFeedback (alike : left.Alike wall feeding right) (fed : feeding) {now : Int}
    (later : wall.timestampMillis ≤ now) (feedback : QuotaFeedback) (unobservedAttempts : Nat) :
    left.applyFeedback feedback now unobservedAttempts =
      right.applyFeedback feedback now unobservedAttempts := by
  cases alike with
  | same => rfl
  | advanced advances today readable =>
      rw [advanceDay_sameDay (today fed) rfl] at advances
      cases advances
      unfold QuotaState.applyFeedback
      rw [expireFeedback_expireFeedback later]

end QuotaState.Alike

/-! ### Transactions -/

/-- A decision is settled alike over the same recent attempts. -/
theorem SameAttempts.settle {horizon now : Int} {left right : List QuotaAttempt}
    (same : SameAttempts horizon left right) (state : QuotaState) (group : QuotaGroup)
    (limits : QuotaLimits) (decision : QuotaDecision) :
    Agree (fun first second => first.1 = second.1 ∧ SameAttempts horizon first.2 second.2)
      (Storage.settle state left group limits now decision)
      (Storage.settle state right group limits now decision) := by
  unfold Storage.settle
  cases blocked : decision.blocked with
  | true => exact .ok ⟨rfl, same⟩
  | false =>
      cases state.consume now with
      | error error => exact .error error
      | ok consumed => exact .ok ⟨rfl, same.append _⟩

namespace Database.Alike

variable {left right : Database}

/-- A database is like itself. -/
theorem refl (database : Database) : database.Alike wall fed database where
  cacheEntries := rfl
  quotaState := fun _ => .same
  quotaAttempts := .refl _ _
  clockHighWater := rfl
  onClock := rfl

/-- What a commit writes to both. -/
theorem commit (alike : left.Alike wall fed right) {now : Int}
    (later : wall.timestampMillis ≤ now) (group : QuotaGroup) (stored : QuotaState)
    {attempts others : List QuotaAttempt}
    (same : SameAttempts (saturatingSub wall.timestampMillis 60000) attempts others) :
    Database.Alike wall fed
      { left with
        quotaState := Function.update left.quotaState group stored
        quotaAttempts := attempts
        clockHighWater := max left.clockHighWater now }
      { right with
        quotaState := Function.update right.quotaState group stored
        quotaAttempts := others
        clockHighWater := max right.clockHighWater now } where
  cacheEntries := alike.cacheEntries
  quotaState := by
    intro other
    dsimp only
    by_cases here : other = group
    · subst here
      rw [Function.update_self, Function.update_self]
      exact .same
    · rw [Function.update_of_ne here, Function.update_of_ne here]
      exact alike.quotaState other
  quotaAttempts := same
  clockHighWater := alike.clockHighWater.max later
  onClock := by rw [alike.clockHighWater.max_eq later]

/-- Alike databases stay so under the same cache. -/
theorem withCacheEntries (alike : left.Alike wall fed right) (table : CacheTable) :
    Database.Alike wall fed { left with cacheEntries := table }
      { right with cacheEntries := table } :=
  { alike with cacheEntries := rfl }

/-- Alike databases reserve alike. -/
theorem reserveTransaction (alike : left.Alike wall fed right)
    (later : wall.timestampMillis ≤ reading.timestampMillis) (group : QuotaGroup)
    (limits : QuotaLimits) (pending : Option PendingFeedback) :
    Agree (fun first second => first.1.Alike wall fed second.1 ∧ first.2 = second.2)
      (Storage.reserveTransaction left group limits reading reading.timestampMillis pending)
      (Storage.reserveTransaction right group limits reading reading.timestampMillis pending) := by
  have window := saturatingSub_mono later 60000
  have pruned := alike.quotaAttempts.pruneAttempts group
    (saturatingSub reading.timestampMillis 60000)
  unfold Storage.reserveTransaction
  apply Agree.bind_eq ((alike.quotaState group).advanceDay later)
  intro advanced
  apply Agree.bind_eq rfl
  intro state
  apply Agree.bind_eq (pruned.quotaDecision window group limits state reading.timestampMillis)
  intro decision
  apply (pruned.settle state group limits decision).bind
  intro first second settled
  obtain ⟨row, attempts⟩ := first
  obtain ⟨other, others⟩ := second
  obtain ⟨equal, same⟩ := settled
  cases equal
  apply Agree.bind_eq rfl
  intro stored
  exact .ok ⟨alike.commit later group stored same, rfl⟩

/-- Alike databases take a report alike, where their group may be reported on. -/
theorem feedbackTransaction (alike : left.Alike wall fed right) {group : QuotaGroup}
    (feeds : fed group) {now : Int} (later : wall.timestampMillis ≤ now) (limits : QuotaLimits)
    (pending : PendingFeedback) :
    Agree (fun first second => first.Alike wall fed second)
      (Storage.feedbackTransaction left group limits now pending)
      (Storage.feedbackTransaction right group limits now pending) := by
  unfold Storage.feedbackTransaction
  apply Agree.bind_eq ((alike.quotaState group).applyFeedback feeds later _ _)
  intro state
  apply Agree.bind_eq rfl
  intro stored
  exact .ok (alike.commit later group stored alike.quotaAttempts)

/-- Alike databases advise the same delay. -/
theorem retryAfterTransaction (alike : left.Alike wall fed right) {now : Int}
    (later : wall.timestampMillis ≤ now) (group : QuotaGroup) (limits : QuotaLimits)
    (pending : Option PendingFeedback) :
    Storage.retryAfterTransaction left group limits reading now pending =
      Storage.retryAfterTransaction right group limits reading now pending := by
  unfold Storage.retryAfterTransaction
  cases converted : DateTime.fromTimestampMillis now with
  | none => rfl
  | some effective =>
      have same := DateTime.fromTimestampMillis_timestampMillis converted
      have row := (alike.quotaState group).advanceDay (later.trans same.ge)
      have decisions := fun state => alike.quotaAttempts.quotaDecision
        (saturatingSub_mono later 60000) group limits state reading.timestampMillis
      simp only [row, decisions]

/-- Alike databases start alike. -/
theorem reconcile (alike : left.Alike wall fed right)
    (later : wall.timestampMillis ≤ reading.timestampMillis) (settings : Settings) :
    Agree (fun first second => first.1.Alike wall fed second.1 ∧ first.2 = second.2)
      (Storage.reconcile settings reading left) (Storage.reconcile settings reading right) := by
  unfold Storage.reconcile
  rw [alike.onClock, (alike.quotaState .abuseipdbCheck).isReadable,
    (alike.quotaState .virustotal).isReadable, alike.cacheEntries,
    alike.clockHighWater.max_eq later]
  split
  · exact .error _
  · split
    · exact .error _
    · dsimp only
      split
      · exact .error _
      · exact .ok ⟨alike.withCacheEntries _, rfl⟩

end Database.Alike

/-! ### Calls -/

namespace RuntimeState.Alike

variable {left right : RuntimeState}

/-- What is in memory is like itself. -/
theorem refl (runtime : RuntimeState) : runtime.Alike wall runtime := ⟨rfl, rfl, rfl⟩

/-- A later reading makes what is in memory equal. -/
theorem observe (alike : left.Alike wall right)
    (later : wall.timestampMillis ≤ reading.timestampMillis) :
    left.observe reading = right.observe reading := by
  unfold RuntimeState.observe
  rw [alike.highWater.max_eq later, alike.nextGeneration, alike.pending]

/-- So does one after a report is retained. -/
theorem retain_observe (alike : left.Alike wall right)
    (later : wall.timestampMillis ≤ reading.timestampMillis) (group : QuotaGroup)
    (feedback : QuotaFeedback) :
    (left.retain group feedback).observe reading = (right.retain group feedback).observe reading :=
  congrArg (fun runtime => runtime.retain group feedback) (alike.observe later)

/-- Whatever a call observes keeps what is in memory alike. -/
theorem observeBy (alike : left.Alike wall right)
    (later : wall.timestampMillis ≤ reading.timestampMillis) (request : Request) :
    (request.observe left reading).Alike wall (request.observe right reading) := by
  unfold Request.observe
  split
  · rw [alike.observe later]
    exact refl _
  · exact alike

end RuntimeState.Alike

/-- Sessions stay alike over an answered call. -/
theorem Session.Alike.answered {left right : Session} {runtime other : RuntimeState}
    (sessions : left.Alike wall right) (runtimes : runtime.Alike wall other) :
    (left.answered runtime).Alike wall (right.answered other) :=
  ⟨sessions.settings, runtimes⟩

/-- The readings of a call past both clocks. -/
theorem RuntimeState.le_observe (runtime : RuntimeState)
    (later : wall.timestampMillis ≤ reading.timestampMillis) :
    wall.timestampMillis ≤ (runtime.observe reading).highWater :=
  later.trans (le_max_right _ _)

section Calls

variable {left right : Database} {session other : Session}

/-- A reserve performed alone does the same to alike storages. -/
theorem aloneReserve_alike (databases : left.Alike wall fed right)
    (sessions : session.Alike wall other)
    (later : wall.timestampMillis ≤ reading.timestampMillis) (provider : ProviderId) :
    (aloneReserve reading left session provider).Alike wall fed
      (aloneReserve reading right other provider) := by
  have agree := databases.reserveTransaction later (quotaGroup provider)
    (other.settings.limits provider) (other.runtime.pending (quotaGroup provider))
  unfold aloneReserve
  dsimp only
  rw [sessions.runtime.observe later, sessions.runtime.pending, sessions.settings]
  by_cases behind : reading.timestampMillis < (other.runtime.observe reading).highWater
  · rw [if_pos behind, if_pos behind]
    exact ⟨rfl, .running databases (sessions.answered (.refl _))⟩
  · rw [if_neg behind, if_neg behind]
    obtain ⟨error, fails, failsToo⟩ | ⟨first, second, reserves, reservesToo, commits, same⟩ :=
      agree.elim
    · rw [fails, failsToo]
      exact ⟨rfl, .running databases (sessions.answered (.refl _))⟩
    · rw [reserves, reservesToo]
      dsimp only
      rw [same]
      exact ⟨rfl, .running commits (sessions.answered (.refl _))⟩

/-- A report performed alone does the same to alike storages. -/
theorem aloneFeedback_alike (databases : left.Alike wall fed right)
    (sessions : session.Alike wall other)
    (later : wall.timestampMillis ≤ reading.timestampMillis) (provider : ProviderId)
    (feeds : fed (quotaGroup provider)) (feedback : QuotaFeedback) :
    (aloneFeedback reading left session provider feedback).Alike wall fed
      (aloneFeedback reading right other provider feedback) := by
  have observed := sessions.runtime.retain_observe later (quotaGroup provider) feedback
  have retained : (session.runtime.retain (quotaGroup provider) feedback).pending =
      (other.runtime.retain (quotaGroup provider) feedback).pending := by
    have equal := congrArg RuntimeState.pending observed
    exact equal
  have ahead := (other.runtime.retain (quotaGroup provider) feedback).le_observe later
  unfold aloneFeedback
  dsimp only
  rw [observed, retained, sessions.settings]
  cases (other.runtime.retain (quotaGroup provider) feedback).pending (quotaGroup provider) with
  | none => exact ⟨rfl, .running databases (sessions.answered (.refl _))⟩
  | some pending =>
      dsimp only
      obtain ⟨error, fails, failsToo⟩ | ⟨first, second, applies, appliesToo, commits⟩ :=
        (databases.feedbackTransaction feeds ahead (other.settings.limits provider) pending).elim
      · rw [fails, failsToo]
        exact ⟨rfl, .running databases (sessions.answered (.refl _))⟩
      · rw [applies, appliesToo]
        exact ⟨rfl, .running commits (sessions.answered (.refl _))⟩

/-- Work that tells its caller the same and leaves databases alike. -/
structure Performed.Alike (wall : DateTime) (fed : QuotaGroup → Prop) (left right : Performed) :
    Prop where
  database : left.database.Alike wall fed right.database
  answer : left.returned.findSome? Event.answer = right.returned.findSome? Event.answer

/-- A call in one go does the same to alike databases. -/
theorem Request.perform_alike (databases : left.Alike wall fed right) {now : Int}
    (later : wall.timestampMillis ≤ now) (settings : Settings)
    (pending : QuotaGroup → Option PendingFeedback) (call answered : CallId)
    (request : Request) :
    Option.Rel (Agree (Performed.Alike wall fed))
      (request.perform codec settings left pending call reading now)
      (request.perform codec settings right pending answered reading now) := by
  cases request with
  | reserve provider => exact .none
  | feedback provider => exact .none
  | retryAfter provider =>
      refine .some ?_
      rw [databases.retryAfterTransaction later]
      split
      · exact .error _
      · exact .ok ⟨databases, rfl⟩
  | cacheGet provider key kind =>
      refine .some ?_
      rw [databases.cacheEntries]
      split
      · exact .error _
      · exact .ok ⟨databases.withCacheEntries _, rfl⟩
  | cachePut put =>
      refine .some ?_
      rw [databases.cacheEntries]
      split
      · exact .error _
      · exact .ok ⟨databases.withCacheEntries _, rfl⟩
      · exact .ok ⟨databases.withCacheEntries _, rfl⟩
  | cleanup =>
      refine .some ?_
      rw [databases.cacheEntries]
      exact .ok ⟨databases.withCacheEntries _, rfl⟩
  | health => exact .some (.ok ⟨databases, rfl⟩)

/-- A call in one go performed alone does the same to alike storages. -/
theorem alonePerformed_alike (codec : PayloadCodec) (databases : left.Alike wall fed right)
    (sessions : session.Alike wall other)
    (later : wall.timestampMillis ≤ reading.timestampMillis) (request : Request) :
    (alonePerformed codec reading left session request).Alike wall fed
      (alonePerformed codec reading right other request) := by
  have performs := @request.perform_alike codec wall reading fed left right databases _
    (other.runtime.le_observe later) other.settings other.runtime.pending session.nextCall
    other.nextCall
  have sessions' := sessions.answered (sessions.runtime.observeBy later request)
  unfold alonePerformed
  dsimp only
  rw [sessions.settings, sessions.runtime.pending, sessions.runtime.observe later]
  generalize request.perform codec other.settings left other.runtime.pending session.nextCall
    reading (other.runtime.observe reading).highWater = first at performs ⊢
  generalize request.perform codec other.settings right other.runtime.pending other.nextCall
    reading (other.runtime.observe reading).highWater = second at performs ⊢
  cases performs with
  | none => exact ⟨rfl, .running databases sessions⟩
  | some outcome =>
      cases outcome with
      | error error => exact ⟨rfl, .running databases sessions'⟩
      | ok done =>
          refine ⟨?_, .running done.database sessions'⟩
          dsimp only
          rw [done.answer]

/-- A put performed alone does the same to alike storages. -/
theorem alonePut_alike (databases : left.Alike wall fed right)
    (sessions : session.Alike wall other)
    (later : wall.timestampMillis ≤ reading.timestampMillis) (put : PutRequest) :
    (alonePut codec reading left session put).Alike wall fed
      (alonePut codec reading right other put) := by
  unfold alonePut
  rw [sessions.settings]
  split
  · exact ⟨rfl, .running databases sessions⟩
  · exact ⟨rfl, .running databases sessions⟩
  · exact alonePerformed_alike codec databases sessions later (.cachePut put)

/-- A start performed alone does the same to alike files. -/
theorem aloneOpen_alike (databases : left.Alike wall fed right)
    (later : wall.timestampMillis ≤ reading.timestampMillis) (settings : Settings) :
    (aloneOpen reading settings (some left)).Alike wall fed
      (aloneOpen reading settings (some right)) := by
  unfold aloneOpen initializeSchema
  dsimp only
  obtain ⟨error, fails, failsToo⟩ | ⟨first, second, opens, opensToo, reopened, same⟩ :=
    (databases.reconcile later settings).elim
  · rw [fails, failsToo]
    exact ⟨rfl, .closed databases⟩
  · rw [opens, opensToo]
    dsimp only
    rw [same]
    exact ⟨rfl, .running reopened ⟨rfl, .refl _⟩⟩

end Calls

/-- A world is like itself. -/
theorem World.Alike.refl (wall : DateTime) (fed : QuotaGroup → Prop) (world : World) :
    World.Alike wall fed world world := by
  cases world with
  | closed file =>
      cases file with
      | none => exact .absent
      | some database => exact .closed (.refl database)
  | running database session => exact .running (.refl database) ⟨rfl, .refl _⟩

/-- A call no earlier than the reading keeps storages alike, and answers alike. -/
theorem Operation.alone_alike {left right : World} (alike : World.Alike wall fed left right)
    (later : wall ≤ reading) (operation : Operation)
    (feeds : ∀ group, operation.Feeds group → fed group) :
    (operation.alone codec reading left).Alike wall fed (operation.alone codec reading right) := by
  have later := DateTime.timestampMillis_mono later
  cases alike with
  | absent => exact ⟨rfl, .refl wall fed _⟩
  | closed databases =>
      cases operation with
      | reopen settings => exact aloneOpen_alike databases later settings
      | _ => exact ⟨rfl, .closed databases⟩
  | running databases sessions =>
      cases operation with
      | reserve provider => exact aloneReserve_alike databases sessions later provider
      | feedback provider reported =>
          exact aloneFeedback_alike databases sessions later provider (feeds _ rfl) reported
      | cachePut put => exact alonePut_alike databases sessions later put
      | reopen settings =>
          have opened := aloneOpen_alike databases later settings
          exact ⟨opened.answer, opened.world⟩
      | retryAfter provider =>
          exact alonePerformed_alike codec databases sessions later (.retryAfter provider)
      | cacheGet provider key kind =>
          exact alonePerformed_alike codec databases sessions later (.cacheGet provider key kind)
      | cleanup => exact alonePerformed_alike codec databases sessions later .cleanup
      | health => exact alonePerformed_alike codec databases sessions later .health

/-! ### What a costless call leaves -/

/-- A timestamp that has ended converts. -/
theorem all_convertible_filter {stored : Option Int} (wall : DateTime)
    (lower : ∀ time, stored = some time → minMillis ≤ time) :
    (stored.filter (fun time => wall.timestampMillis < time)).all
        (fun time => (DateTime.fromTimestampMillis time).isSome) =
      stored.all (fun time => (DateTime.fromTimestampMillis time).isSome) := by
  cases stored with
  | none => rfl
  | some time =>
      by_cases ahead : wall.timestampMillis < time
      · simp [Option.filter_some, ahead]
      · have upper : time ≤ maxMillis := (not_lt.mp ahead).trans wall.le_maxMillis
        simp [Option.filter_some, ahead, DateTime.fromTimestampMillis, lower time rfl, upper]

namespace QuotaState

variable {state next : QuotaState} {durable : Int}

/-- Expiry leaves a row readable or not. -/
theorem Timed.isReadable_expireFeedback (timed : state.Timed durable) (wall : DateTime) :
    (state.expireFeedback wall.timestampMillis).isReadable = state.isReadable := by
  unfold isReadable
  rw [expireFeedback_day, expireFeedback_cooldownUntil, expireFeedback_providerResetAt,
    all_convertible_filter wall fun target held => (timed.cooldown target held).1,
    all_convertible_filter wall fun reset held => (timed.reset reset held).1]

/-- A new day leaves a row readable or not. -/
theorem isReadable_startDay {saved : Int} (day : state.day = .ofDate saved) (today : Int) :
    (state.startDay today).isReadable = state.isReadable := by
  unfold isReadable startDay
  rw [day]
  rfl

/-- Advancing leaves a row readable or not. -/
theorem Timed.isReadable_advanceDay (timed : state.Timed durable)
    (advances : state.advanceDay wall = .ok next) : next.isReadable = state.isReadable := by
  obtain ⟨saved, day, ⟨_, rfl⟩ | ⟨_, rfl⟩⟩ := advanceDay_ok advances
  · exact timed.isReadable_expireFeedback wall
  · have started : (state.startDay wall.dateNaive).Timed durable := timed.congr rfl rfl
    rw [started.isReadable_expireFeedback wall, isReadable_startDay day]

end QuotaState

/-- A clock is like itself advanced to the reading. -/
theorem ClocksAlike.of_max (wall : DateTime) (clock : Int) :
    ClocksAlike wall clock (Max.max clock wall.timestampMillis) := by
  unfold ClocksAlike
  rw [max_assoc, max_self]

/-- The clock of a sound database is a date before and after a reading. -/
theorem Database.Sound.onClock_max {database : Database} (sound : database.Sound)
    (wall : DateTime) : (DateTime.fromTimestampMillis database.clockHighWater).isNone =
      (DateTime.fromTimestampMillis (max database.clockHighWater wall.timestampMillis)).isNone := by
  obtain ⟨instant, same⟩ := sound.clock
  obtain ⟨durable, converted, _⟩ := instant.fromTimestampMillis_self
  obtain ⟨observed, read, _⟩ := wall.fromTimestampMillis_self
  rcases max_choice database.clockHighWater wall.timestampMillis with kept | moved
  · rw [kept]
  · rw [moved, same, converted, read]
    rfl

/-- A denial brings the row of its group up to date and prunes its log. -/
theorem Database.Sound.alike_of_denied {database next : Database} (sound : database.Sound)
    {group : QuotaGroup} {limits : QuotaLimits} {decision : QuotaDecision}
    (reserves : reserveTransaction database group limits wall wall.timestampMillis none =
      .ok (next, decision)) (denied : decision.blocked = true)
    (today : fed group → (database.quotaState group).day = .ofDate wall.dateNaive) :
    database.Alike wall fed next := by
  obtain ⟨advanced, state, stored, attempts, advances, applying, _, settles, rfl⟩ :=
    reserveTransaction_ok reserves
  cases applying
  obtain ⟨_, rfl, rfl⟩ | ⟨granted, _⟩ := settle_ok settles
  · refine ⟨rfl, ?_, .of_pruneAttempts _ _ _, .of_max wall _, sound.onClock_max wall⟩
    intro other
    dsimp only
    by_cases here : other = group
    · subst here
      rw [Function.update_self]
      exact .advanced advances today ((sound.state other).timed.isReadable_advanceDay advances)
    · rw [Function.update_of_ne here]
      exact .same
  · rw [denied] at granted
    cases granted

/-- What is in memory is like itself after the reading. -/
theorem RuntimeState.alike_observe (runtime : RuntimeState) (wall : DateTime) :
    runtime.Alike wall (runtime.observe wall) :=
  ⟨.of_max wall _, rfl, rfl⟩

/-- A limited answer comes of a decision that blocks. -/
theorem blocked_of_limited {runtime : RuntimeState} {group : QuotaGroup}
    {decision : QuotaDecision} {advice : Option Nat}
    (denied : reserveAnswer runtime group decision = .error (.limited advice)) :
    decision.blocked = true := by
  unfold reserveAnswer at denied
  split at denied
  · cases denied
  · split at denied
    · assumption
    · cases denied

/-- A denied reserve leaves a storage like it was. -/
theorem alike_of_deniedReserve {database : Database} {session : Session} {provider : ProviderId}
    {advice : Option Nat} (sound : database.Sound)
    (unretained : session.runtime.pending (quotaGroup provider) = none)
    (denied : (aloneReserve wall database session provider).answer =
      .reserved (.error (.limited advice)))
    (today : fed (quotaGroup provider) →
      (database.quotaState (quotaGroup provider)).day = .ofDate wall.dateNaive) :
    World.Alike wall fed (.running database session)
      (aloneReserve wall database session provider).world := by
  unfold aloneReserve at denied ⊢
  dsimp only at denied ⊢
  rw [unretained] at denied ⊢
  split
  · exact .running (.refl database) ⟨rfl, session.runtime.alike_observe wall⟩
  · rename_i caughtUp
    rw [if_neg caughtUp] at denied
    split at denied
    · cases denied
    · rename_i next decision reserves
      have blocked := blocked_of_limited (Answer.reserved.inj denied)
      have stored := sound.alike_of_denied reserves blocked today
      exact .running stored ⟨rfl, session.runtime.alike_observe wall⟩

/-- A costless call leaves a storage like it was. -/
theorem alike_of_costless {database : Database} {session : Session} {inserted : Operation}
    (sound : database.Sound) (unretained : ∀ group, session.runtime.pending group = none)
    (costless : inserted.Costless
      (inserted.alone codec wall (.running database session)).answer)
    (today : ∀ provider, inserted = .reserve provider → fed (quotaGroup provider) →
      (database.quotaState (quotaGroup provider)).day = .ofDate wall.dateNaive) :
    World.Alike wall fed (.running database session)
      (inserted.alone codec wall (.running database session)).world := by
  have kept : World.Alike wall fed (.running database session)
      (.running database (session.answered session.runtime)) :=
    .running (.refl database) ⟨rfl, .refl _⟩
  cases inserted with
  | reserve provider =>
      obtain ⟨advice, denied⟩ := costless
      exact alike_of_deniedReserve sound (unretained _) denied (today provider rfl)
  | health => exact kept
  | retryAfter provider =>
      unfold Operation.alone alonePerformed
      dsimp only
      split
      · rename_i performs
        cases performs
      · exact kept
      · rename_i done performs
        cases Request.performs performs with
        | advised advises => exact kept
  | feedback provider reported => cases costless
  | cacheGet provider key kind => cases costless
  | cachePut put => cases costless
  | cleanup => cases costless
  | reopen settings => cases costless

/-! ### Sequences of calls -/

/-- The storage, taking a call and its reading of the clock at a time. -/
def storageMachine (codec : PayloadCodec) : Machine World (Operation × DateTime) Answer where
  answer := fun call world => (call.1.alone codec call.2 world).answer
  next := fun call world => (call.1.alone codec call.2 world).world

/-- The answers of calls performed alone are those of the storage as a machine. -/
theorem performAll_answers (codec : PayloadCodec) (calls : List (Operation × DateTime))
    (world : World) :
    (performAll codec calls world).answers = (storageMachine codec).answers calls world := by
  induction calls generalizing world with
  | nil => rfl
  | cons call rest ih =>
      unfold performAll Machine.answers
      dsimp only
      rw [ih]
      rfl

/-- Being alike is a bisimulation for calls from the reading on. -/
theorem bisimulation_alike (codec : PayloadCodec) (wall : DateTime) (fed : QuotaGroup → Prop) :
    (storageMachine codec).Bisimulation
      (fun call => wall ≤ call.2 ∧ ∀ group, call.1.Feeds group → fed group)
      (World.Alike wall fed) where
  answer := by
    intro call left right admitted alike
    exact (call.1.alone_alike alike admitted.1 admitted.2).answer
  next := by
    intro call left right admitted alike
    exact (call.1.alone_alike alike admitted.1 admitted.2).world

/-- **Denials and reads cost nothing.** In every open storage a run reaches with
no feedback retained, a denied reservation, an advised delay or a health check
changes no answer to a sequence of calls whose readings of the clock are no
earlier, as long as feedback about the group of a denied reservation finds the
row of the day of the denial. -/
theorem costless_calls {trace : List Event} {database : Database} {session : Session}
    (run : Run (Step codec) (.closed none) trace (.running database session))
    (unretained : ∀ group, session.runtime.pending group = none) (inserted : Operation)
    (wall : DateTime)
    (costless : inserted.Costless (inserted.alone codec wall (.running database session)).answer)
    (calls : List (Operation × DateTime)) (later : ∀ call ∈ calls, wall ≤ call.2)
    (today : ∀ provider, inserted = .reserve provider →
      (∃ call ∈ calls, call.1.Feeds (quotaGroup provider)) →
        (database.quotaState (quotaGroup provider)).day = .ofDate wall.dateNaive) :
    (performAll codec ((inserted, wall) :: calls) (.running database session)).answers =
      (inserted.alone codec wall (.running database session)).answer ::
        (performAll codec calls (.running database session)).answers := by
  have sound := (sound_run run World.sound_closed).database database rfl
  have alike := @alike_of_costless codec wall (fun group => ∃ call ∈ calls, call.1.Feeds group)
    database session inserted sound unretained costless today
  have admitted : ∀ call ∈ calls, wall ≤ call.2 ∧
      ∀ group, call.1.Feeds group → ∃ call ∈ calls, call.1.Feeds group :=
    fun call member => ⟨later call member, fun group feeds => ⟨call, member, feeds⟩⟩
  rw [performAll_answers, performAll_answers]
  exact congrArg (List.cons _) ((bisimulation_alike codec wall _).answers admitted alike).symm

/-- A cooldown of an hour. -/
def hourCooldown : QuotaFeedback := ⟨some hourAfter, true, none, none⟩

/-- With the day's attempt spent, a second try leaves the feedback, the restart
and the reservation that follow as they were. -/
theorem costless_calls_spent :
    ∃ trace database session,
      Run (Step .blank) (.closed none) trace (.running database session) ∧
      (performAll .blank [(.reserve .abuseipdb, .epoch),
          (.feedback .abuseipdb hourCooldown, .epoch), (.reopen .single, hourAfter),
          (.reserve .abuseipdb, hourAfter)] (.running database session)).answers =
        .reserved (.error (.limited (some 86400))) ::
          (performAll .blank [(.feedback .abuseipdb hourCooldown, .epoch),
            (.reopen .single, hourAfter), (.reserve .abuseipdb, hourAfter)]
            (.running database session)).answers := by
  have run := Run.single (first_opened .blank)
  have run := run.append (@aloneReserve_runs _ _ .blank .epoch rfl .abuseipdb).run
  refine ⟨_, _, _, run, ?_⟩
  refine costless_calls run ?_ (.reserve .abuseipdb) .epoch ?_ _ ?_ ?_
  · exact fun _ => rfl
  · exact ⟨_, rfl⟩
  · simp [hourAfter, DateTime.epoch, DateTime.le_iff_nanos]
  · intro provider same _
    cases same
    rfl

end RustEnrich.Storage
