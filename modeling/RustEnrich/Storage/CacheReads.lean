import RustEnrich.Storage.CacheCapacity
import RustEnrich.Serialization.Payload

/-!
# Cache reads

A hit returns what the text of the last committed put to its key is read as,
inside the lifetimes of the session that wrote it and of the session that reads
it. Every row of the table carries the history since its put: nothing that
observed its expiry is in it, so no later rollback of the clock brings a row back.
-/

namespace RustEnrich.Storage

open Transitions Serialization

/-- An event after which a row may still be stored: no put to its key, no read
that observed its expiry, and no start that saw it expired. -/
def Event.Keeps (row : CacheEntry) : Event → Prop
  | .putCommitted put => put.entry.primaryKey ≠ row.primaryKey
  | .cacheRead _ provider key _ _ _ .expired => row.primaryKey ≠ (provider, key)
  | .opened settings _ effective =>
      effective < row.expiresAt ∧
        effective < row.fetchedAt + settings.ttl row.kind row.outcome.status
  | _ => True

/-- The row of a put is made of its outcome and of the lifetime in force. -/
structure CommittedPut.Prepared (codec : PayloadCodec) (put : CommittedPut) : Prop where
  payload : put.entry.payload = codec.toVec put.outcome
  fetchedAt : put.outcome.fetchedAt.map DateTime.timestampMillis = some put.entry.fetchedAt
  expiresAt : put.entry.expiresAt = put.entry.fetchedAt + put.ttl
  lifetime : 0 < put.ttl
  status : put.entry.outcome.status = put.outcome.status

variable {codec : PayloadCodec}

/-- A checked sum is the sum. -/
theorem checkedAdd_eq {left right sum : Int} (added : checkedAdd left right = some sum) :
    sum = left + right := by
  unfold checkedAdd at added
  split at added
  · exact (Option.some.inj added).symm
  · cases added

/-- A prepared entry is what its request asks for. -/
theorem prepareEntry_ok {settings : Settings} {request : PutRequest} {stored : StoredOutcome}
    {entry : CacheEntry} {expiresAt : DateTime} (agrees : stored.status = request.outcome.status)
    (prepared : prepareEntry codec settings request stored = .ok (some (entry, expiresAt))) :
    CommittedPut.Prepared codec {
      entry
      outcome := request.outcome
      ttl := settings.ttl request.kind request.outcome.status } := by
  unfold prepareEntry at prepared
  dsimp only at prepared
  split at prepared
  · cases prepared
  rename_i enabled
  split at prepared
  · cases prepared
  rename_i fetched fetching
  split at prepared
  · cases prepared
  split at prepared
  · cases prepared
  rename_i expires adding
  split at prepared
  · cases prepared
  split at prepared
  · cases prepared
  · cases prepared
    have lifetime := lt_of_le_of_ne (settings.ttl_nonneg _ _) (Ne.symm enabled)
    exact ⟨rfl, fetching, checkedAdd_eq adding, lifetime, agrees⟩

/-- A prepared put is what its request asks for. -/
theorem preparePut_ok {settings : Settings} {request : PutRequest} {entry : CacheEntry}
    {expiresAt : DateTime}
    (prepared : preparePut codec settings request = .ok (some (entry, expiresAt))) :
    CommittedPut.Prepared codec {
      entry
      outcome := request.outcome
      ttl := settings.ttl request.kind request.outcome.status } := by
  unfold preparePut at prepared
  split at prepared
  · rename_i status
    exact prepareEntry_ok (by rw [status]; rfl) prepared
  · rename_i status
    exact prepareEntry_ok (by rw [status]; rfl) prepared
  · cases prepared

/-- A put is skipped, or its prepared row is put in. -/
theorem cachePut_ok {settings : Settings} {table rest : CacheTable} {request : PutRequest}
    {wall now : Int} {write : CacheWrite}
    (put : cachePut codec settings table request wall now = .ok (write, rest)) :
    (write = .skipped ∧ rest = table) ∨
      ∃ entry expiry, write = .committed entry expiry ∧
        CommittedPut.Prepared codec {
          entry
          outcome := request.outcome
          ttl := settings.ttl request.kind request.outcome.status } ∧
        ∀ row ∈ rest.rows, row = entry ∨
          (row ∈ table.rows ∧ row.primaryKey ≠ entry.primaryKey) := by
  unfold cachePut at put
  split at put
  · cases put
  · cases put
    exact Or.inl ⟨rfl, rfl⟩
  · rename_i entry expiresAt preparing
    rcases insertEntry_ok put with skipped | ⟨expiry, committed, _, rows⟩
    · exact Or.inl skipped
    · exact Or.inr ⟨entry, expiry, committed, preparePut_ok preparing, rows⟩

/-- The rows after a call are rows of before that its events keep, or the row
of the put it committed. -/
theorem Request.perform_rows {settings : Settings} {database : Database}
    {pending : QuotaGroup → Option PendingFeedback} {call : CallId} {wall : DateTime} {now : Int}
    {request : Request} {done : Performed}
    (performs : request.perform codec settings database pending call wall now =
      some (.ok done)) {row : CacheEntry} (member : row ∈ done.database.cacheEntries.rows) :
    (row ∈ database.cacheEntries.rows ∧
        ∀ event ∈ done.committed ++ done.returned, event.Keeps row) ∨
      ∃ put : CommittedPut, done.committed = [.putCommitted put] ∧ row = put.entry ∧
        put.Prepared codec ∧ ∀ event ∈ done.returned, event.Keeps row := by
  cases Request.performs performs with
  | advised advises => exact Or.inl ⟨member, by simp [Event.Keeps]⟩
  | @read _ _ _ read table reads =>
      left
      rcases cacheGet_ok reads with ⟨rfl, rfl⟩ | ⟨other, rfl⟩
      · obtain ⟨inside, different⟩ := CacheTable.mem_deleteKey.mp member
        exact ⟨inside, by simpa [Event.Keeps] using different⟩
      · refine ⟨member, ?_⟩
        intro event inside
        simp only [List.nil_append, List.mem_singleton] at inside
        subst inside
        cases read <;> trivial
  | skipped skips =>
      rcases cachePut_ok skips with ⟨_, rfl⟩ | ⟨_, _, other, _⟩
      · exact Or.inl ⟨member, by simp [Event.Keeps]⟩
      · cases other
  | stored stores =>
      rcases cachePut_ok stores with ⟨other, _⟩ | ⟨_, _, same, prepared, rows⟩
      · cases other
      · cases same
        rcases rows row member with rfl | ⟨inside, different⟩
        · exact Or.inr ⟨_, rfl, rfl, prepared, by simp [Event.Keeps]⟩
        · exact Or.inl ⟨inside, by simpa [Event.Keeps] using Ne.symm different⟩
  | cleaned => exact Or.inl ⟨(deleteExpired_sublist _ _ _ _).subset member, by simp⟩
  | checked => exact Or.inl ⟨member, by simp⟩

/-! ### The history of a row -/

variable {before after world : World} {seen trace emitted : List Event}

/-- A row is the one of a put of the trace, and everything since keeps it. -/
def StoredBy (codec : PayloadCodec) (seen : List Event) (row : CacheEntry) : Prop :=
  ∃ front put back, seen = front ++ .putCommitted put :: back ∧ row = put.entry ∧
    put.Prepared codec ∧ ∀ event ∈ back, event.Keeps row

/-- A row stays stored by its put while nothing touches it. -/
theorem StoredBy.append {row : CacheEntry} (stored : StoredBy codec seen row)
    (keeps : ∀ event ∈ emitted, event.Keeps row) : StoredBy codec (seen ++ emitted) row := by
  obtain ⟨front, put, back, rfl, same, prepared, since⟩ := stored
  refine ⟨front, put, back ++ emitted, ?_, same, prepared, ?_⟩
  · rw [List.append_assoc, List.cons_append]
  · intro event member
    rcases List.mem_append.mp member with earlier | later
    · exact since event earlier
    · exact keeps event later

/-- A row that survives a start was not seen expired by it. -/
theorem reconcile_keeps {settings : Settings} {wall : DateTime} {database next : Database}
    {now : Int} (reconciled : reconcile settings wall database = .ok (next, now))
    {row : CacheEntry} (member : row ∈ next.cacheEntries.rows) :
    row ∈ database.cacheEntries.rows ∧ (Event.opened settings wall now).Keeps row := by
  obtain ⟨_, inside, _⟩ := reconcile_cache reconciled
  obtain ⟨old, fresh⟩ := List.mem_filter.mp (inside.subset member)
  simp only [CacheEntry.isFresh, decide_eq_true_eq, lt_min_iff] at fresh
  exact ⟨old, fresh.2.1⟩

/-- A new file has no rows. -/
theorem mem_storedRows_of_initializeSchema {created : DateTime} {file : Option Database}
    {row : CacheEntry} (inside : row ∈ (initializeSchema created file).cacheEntries.rows) :
    row ∈ storedRows file := by
  cases file with
  | none => cases inside
  | some _ => exact inside

/-- Every step keeps each row stored by a put. -/
theorem Step.rowsStored (taken : Step codec before emitted after)
    (stored : ∀ row ∈ storedRows before.database, StoredBy codec seen row) :
    ∀ row ∈ storedRows after.database, StoredBy codec (seen ++ emitted) row := by
  intro row member
  cases taken with
  | migrated now => cases member
  | @opened database _ created _ _ _ reconciled =>
      obtain ⟨inside, keeps⟩ := reconcile_keeps reconciled member
      have old := mem_storedRows_of_initializeSchema inside
      exact (stored row old).append fun event here => List.mem_singleton.mp here ▸ keeps
  | @openTimedOut database _ created _ _ _ reconciled =>
      obtain ⟨inside, _⟩ := reconcile_keeps reconciled member
      have old := mem_storedRows_of_initializeSchema inside
      exact (stored row old).append fun _ none => absurd none List.not_mem_nil
  | @performed _ _ _ _ _ _ done wall free queued performs =>
      rcases Request.perform_rows performs member with
        ⟨inside, keeps⟩ | ⟨put, commits, rfl, prepared, keeps⟩
      · exact (stored row inside).append keeps
      · refine ⟨seen, put, done.returned, ?_, rfl, prepared, keeps⟩
        rw [commits, List.singleton_append]
  | @unreported _ _ _ _ call _ done wall free queued performs =>
      rcases Request.perform_rows performs member with
        ⟨inside, keeps⟩ | ⟨put, commits, rfl, prepared, _⟩
      · apply (stored row inside).append
        intro event here
        rcases List.mem_append.mp here with committed | failed
        · exact keeps event (List.mem_append_left _ committed)
        · rw [List.mem_singleton.mp failed]
          trivial
      · refine ⟨seen, put, [.callFailed call], ?_, rfl, prepared, by simp [Event.Keeps]⟩
        rw [commits, List.singleton_append]
  | @reserveCommitted database _ _ _ _ _ decision held reserves =>
      have old : row ∈ database.cacheEntries.rows := by
        rw [← reserveTransaction_cacheEntries reserves]
        exact member
      apply (stored row old).append
      intro event here
      rcases List.mem_append.mp here with applied | granted
      · obtain ⟨_, _, rfl⟩ := mem_appliedFeedback.mp applied
        trivial
      · obtain ⟨_, rfl⟩ := mem_grantedReservation.mp granted
        trivial
  | @feedbackCommitted database _ _ _ _ _ _ held applies =>
      have old : row ∈ database.cacheEntries.rows := by
        rw [← feedbackTransaction_cacheEntries applies]
        exact member
      apply (stored row old).append
      intro event here
      rw [List.mem_singleton.mp here]
      trivial
  | _ => exact (stored row member).append (by simp [Event.Keeps])

/-- After a run each row is stored by a put. -/
theorem rowsStored (run : Run (Step codec) (.closed none) trace world) :
    ∀ row ∈ storedRows world.database, StoredBy codec trace row := by
  refine run.invariant (fun seen world =>
    ∀ row ∈ storedRows world.database, StoredBy codec seen row) ?_ ?_
  · intro row member
    cases member
  · intro seen before emitted after _ stored taken
    exact taken.rowsStored stored

/-! ### What a hit returns -/

/-- A hit is a fresh row of the key, and what its payload is read as agrees with
its columns. -/
theorem cacheGet_hit {settings : Settings} {table rest : CacheTable} {provider : ProviderId}
    {key : String} {kind : IndicatorKind} {wall now : Int} {outcome : Outcome}
    {expiresAt : DateTime}
    (got : cacheGet codec settings table provider key kind wall now =
      .ok (.hit outcome expiresAt, rest)) :
    ∃ row ∈ table.rows, row.primaryKey = (provider, key) ∧ row.kind = kind ∧
      codec.fromSlice row.payload = some outcome ∧ outcome.status = row.outcome.status ∧
      outcome.fetchedAt.map DateTime.timestampMillis = some row.fetchedAt ∧ outcome.error = none ∧
      row.fetchedAt ≤ wall ∧ now < expiresAt.timestampMillis ∧
      expiresAt.timestampMillis ≤ row.expiresAt ∧
      expiresAt.timestampMillis ≤ row.fetchedAt + settings.ttl kind row.outcome.status := by
  unfold cacheGet at got
  dsimp only at got
  split at got
  · cases got
  rename_i row found
  have sought := List.find?_some found
  simp only [decide_eq_true_eq] at sought
  split at got
  · cases got
  split at got
  · cases got
  rename_i renewed adding
  split at got
  · cases got
  rename_i ahead
  split at got
  · cases got
  rename_i past
  split at got
  · cases got
  rename_i decoded decoding
  split at got
  · cases got
  rename_i agrees
  simp only [ne_eq, not_or, not_not, Bool.not_eq_true, Option.isSome_eq_false_iff,
    Option.isNone_iff_eq_none] at agrees
  split at got
  · cases got
  rename_i instant converting
  cases got
  rw [DateTime.fromTimestampMillis_timestampMillis converting]
  have sum := checkedAdd_eq adding
  refine ⟨row, List.mem_of_find?_eq_some found, Prod.ext sought.1 sought.2.1, sought.2.2, decoding,
    agrees.1, agrees.2.1, agrees.2.2, not_lt.mp past, not_le.mp ahead, min_le_left _ _, ?_⟩
  exact sum ▸ min_le_right _ _

/-- A read is told by a call of it. -/
theorem Request.perform_cacheRead {settings : Settings} {database : Database}
    {pending : QuotaGroup → Option PendingFeedback} {call asked : CallId} {wall reading : DateTime}
    {now effective : Int} {request : Request} {done : Performed} {provider : ProviderId}
    {key : String} {kind : IndicatorKind} {read : CacheRead}
    (performs : request.perform codec settings database pending call wall now =
      some (.ok done)) :
    Event.cacheRead asked provider key kind reading effective read ∉ done.committed ∧
      (Event.cacheRead asked provider key kind reading effective read ∈ done.returned →
        reading = wall ∧ effective = now ∧ ∃ rest, Storage.cacheGet codec settings
          database.cacheEntries provider key kind wall.timestampMillis now = .ok (read, rest)) := by
  cases Request.performs performs with
  | read reads =>
      refine ⟨by simp, ?_⟩
      intro returned
      simp only [List.mem_singleton, Event.cacheRead.injEq] at returned
      obtain ⟨_, rfl, rfl, rfl, rfl, rfl, rfl⟩ := returned
      exact ⟨rfl, rfl, _, reads⟩
  | _ => exact ⟨by simp, by simp⟩

/-- A read is the event of a `cache_get` at the effective clock of its
session. -/
theorem Step.of_cacheRead {call : CallId} {provider : ProviderId} {key : String}
    {kind : IndicatorKind} {wall : DateTime} {now : Int} {read : CacheRead} {database : Database}
    {session : Session} (taken : Step codec (.running database session) emitted after)
    (returned : Event.cacheRead call provider key kind wall now read ∈ emitted) :
    now = (session.runtime.observe wall).highWater ∧
      ∃ rest, cacheGet codec session.settings database.cacheEntries provider key kind
        wall.timestampMillis now = .ok (read, rest) := by
  cases taken with
  | performed reading free queued performs =>
      obtain ⟨unread, got⟩ := Request.perform_cacheRead performs
      rcases List.mem_append.mp returned with commits | returns
      · exact absurd commits unread
      · obtain ⟨rfl, rfl, rest⟩ := got returns
        exact ⟨rfl, rest⟩
  | unreported reading free queued performs =>
      obtain ⟨unread, _⟩ := Request.perform_cacheRead performs
      rcases List.mem_append.mp returned with commits | failed
      · exact absurd commits unread
      · simp at failed
  | reserveCommitted held reserves =>
      rcases List.mem_append.mp returned with applied | granted
      · obtain ⟨_, _, other⟩ := mem_appliedFeedback.mp applied
        cases other
      · cases (mem_grantedReservation.mp granted).2
  | feedbackCommitted held applies => simp [appliedFeedback] at returned
  | _ => simp at returned

/-- **Cache reads are sound and never resurrect.** A hit returns what the text
stored by the last committed put to its key is read as: the outcome of that put,
wherever it survives its text. It was fetched no later than the wall clock, and
the clock is before an expiry that both lifetimes bound; and since that put no
read observed the expiry of the row and no start saw it expired. Times are
compared in milliseconds, as storage reads its clocks. -/
theorem cacheGet_sound {database : Database} {session : Session} {call : CallId}
    {provider : ProviderId} {key : String} {kind : IndicatorKind} {wall : DateTime} {now : Int}
    {outcome : Outcome} {expiresAt : DateTime}
    (run : Run (Step codec) (.closed none) trace (.running database session))
    (taken : Step codec (.running database session) emitted after)
    (returned : Event.cacheRead call provider key kind wall now (.hit outcome expiresAt) ∈
      emitted) :
    ∃ front put back fetched, trace = front ++ .putCommitted put :: back ∧
      put.entry.primaryKey = (provider, key) ∧ put.entry.kind = kind ∧
      codec.fromSlice (codec.toVec put.outcome) = some outcome ∧
      (codec.RoundTrips put.outcome → put.outcome = outcome) ∧
      outcome.status = put.outcome.status ∧ outcome.error = none ∧
      outcome.fetchedAt = some fetched ∧
      put.outcome.fetchedAt.map DateTime.timestampMillis = some fetched.timestampMillis ∧
      fetched.timestampMillis ≤ wall.timestampMillis ∧
      now = (session.runtime.observe wall).highWater ∧ now < expiresAt.timestampMillis ∧
      expiresAt.timestampMillis ≤ fetched.timestampMillis + put.ttl ∧
      expiresAt.timestampMillis ≤
        fetched.timestampMillis + session.settings.ttl kind outcome.status ∧
      ∀ event ∈ back, event.Keeps put.entry := by
  obtain ⟨clock, rest, got⟩ := taken.of_cacheRead returned
  obtain ⟨row, member, primary, sameKind, decoding, status, fetchedAt, error, past, ahead, stored,
    current⟩ := cacheGet_hit got
  obtain ⟨front, put, back, rfl, rfl, prepared, since⟩ := rowsStored run row member
  obtain ⟨fetched, decoded, millis⟩ := Option.map_eq_some_iff.mp fetchedAt
  rw [prepared.payload] at decoding
  refine ⟨front, put, back, fetched, rfl, primary, sameKind, decoding, ?_,
    status.trans prepared.status, error, decoded, millis ▸ prepared.fetchedAt, millis ▸ past, clock,
    ahead, ?_, ?_, since⟩
  · intro survives
    exact Option.some.inj (survives.symm.trans decoding)
  · rw [millis]
    exact stored.trans prepared.expiresAt.le
  · rw [millis, status]
    exact current

/-- The row of a put is read while it is fresh, as what its payload is read as. -/
theorem PutRequest.Cacheable.cacheGet {settings : Settings} {rest : CacheTable}
    {request : PutRequest} {fetched expiresAt : DateTime} {wall now : Int} {outcome : Outcome}
    (cacheable : request.Cacheable codec settings fetched expiresAt)
    (reads : codec.fromSlice (codec.toVec request.outcome) = some outcome)
    (status : outcome.status = request.outcome.status) (error : outcome.error = none)
    (fetchedAt : outcome.fetchedAt = some fetched)
    (reached : fetched.timestampMillis ≤ wall) (fresh : now < expiresAt.timestampMillis)
    (member : request.row codec settings fetched ∈ rest.rows) :
    Storage.cacheGet codec settings rest request.provider request.key request.kind wall now =
      .ok (.hit outcome expiresAt, rest) := by
  have found : rest.rows.find? (fun entry => entry.provider = request.provider ∧
      entry.cacheKey = request.key ∧ entry.kind = request.kind) =
        some (request.row codec settings fetched) := CacheTable.find?_of_mem member
  have payload : codec.fromSlice (request.row codec settings fetched).payload = some outcome :=
    reads
  have times : (request.row codec settings fetched).fetchedAt = fetched.timestampMillis := rfl
  have sound : ¬ (outcome.status ≠ request.outcome.status ∨
      outcome.fetchedAt.map DateTime.timestampMillis ≠ some fetched.timestampMillis ∨
      outcome.error.isSome = true) := by
    rw [status, fetchedAt, error]
    simp
  unfold Storage.cacheGet
  rw [found]
  dsimp only
  rw [cacheable.row_status, if_neg cacheable.lifetime, times, cacheable.added,
    cacheable.row_expiresAt]
  dsimp only
  rw [min_self, if_neg (not_le.mpr fresh), if_neg (not_lt.mpr reached), payload]
  dsimp only
  rw [if_neg sound, cacheable.converted]

/-- Both absences survive their texts. -/
theorem absences_roundTrip :
    absenceCodec.RoundTrips (.notFound .epoch) ∧
      absenceCodec.RoundTrips (.notFound justBefore) := by
  have different : absencePayload "1969-12-31T23:59:59.999Z" ≠
      absencePayload "1970-01-01T00:00:00Z" := by decide +kernel
  have earlier : some justBefore ≠ some DateTime.epoch := by decide
  constructor
  · simp only [PayloadCodec.RoundTrips, absenceCodec, Outcome.notFound, if_true]
  · simp only [PayloadCodec.RoundTrips, absenceCodec, Outcome.notFound, if_neg earlier,
      if_neg different, if_true]

/-- A missing report that is stored twice, and read. -/
theorem cacheGet_sound_absence :
    ∃ front put back, absencesTrace ++ [.callStarted 2 (.cacheGet .abuseipdb "203.0.113.7" .ip)] =
        front ++ .putCommitted put :: back ∧
      put.entry.primaryKey = (.abuseipdb, "203.0.113.7") ∧ put.outcome = .notFound .epoch ∧
      hourAfter.timestampMillis ≤ 0 + put.ttl ∧ ∀ event ∈ back, event.Keeps put.entry := by
  have got : cacheGet absenceCodec .single (.single (absenceRow absenceCodec)) .abuseipdb
      "203.0.113.7" .ip 0 0 = .ok (.hit (.notFound .epoch) hourAfter, .single _) :=
    (absence_cacheable absence_small).cacheGet absences_roundTrip.1 rfl rfl rfl le_rfl (by decide)
      (List.mem_singleton.mpr rfl)
  obtain ⟨front, put, back, fetched, split, primary, _, _, same, _, _, fetchedAt, _, _, _, _,
      written, _, keeps⟩ :=
    cacheGet_sound (absences_run.snoc World.idle_ask) (World.asked_read got)
      (List.mem_singleton.mpr rfl)
  have member : Event.putCommitted put ∈
      absencesTrace ++ [.callStarted 2 (.cacheGet .abuseipdb "203.0.113.7" .ip)] := by
    rw [split]
    exact List.mem_append_right _ List.mem_cons_self
  have survives : absenceCodec.RoundTrips put.outcome := by
    simp only [absencesTrace, List.cons_append, List.nil_append, List.mem_cons, reduceCtorEq,
      Event.putCommitted.injEq, List.not_mem_nil, or_false, false_or] at member
    rcases member with rfl | rfl
    · exact absences_roundTrip.2
    · exact absences_roundTrip.1
  cases fetchedAt
  exact ⟨front, put, back, split, primary, same survives, written, keeps⟩

/-! ### A float that is read inexactly -/

/-- `serde_json` at the derived implementations of `Outcome`. -/
def payloadCodec (serializer : Serializer) (deserializer : Deserializer) : PayloadCodec where
  toVec outcome := serializer.toVec (serializer.outcome outcome)
  fromSlice payload := (deserializer.document payload).bind deserializer.outcome

/-- A quotient to the nearest integer, from the middle to the even one. -/
def nearest (dividend divisor : Nat) : Nat :=
  let quotient := dividend / divisor
  let rest := dividend % divisor
  if 2 * rest < divisor ∨ (2 * rest = divisor ∧ quotient % 2 = 0) then quotient else quotient + 1

/-- The bits of a float from 8 up to 16, by its multiple of `2 ^ -49`. -/
def floatBits (multiple : Nat) : UInt64 := .ofNat (1026 * 2 ^ 52 + (multiple - 2 ^ 52))

/-- The float nearest to `significand / 10 ^ places`. -/
def exactFloat (significand places : Nat) : UInt64 :=
  floatBits (nearest (significand * 2 ^ 49) (10 ^ places))

/-- What `serde_json` reads without its feature `float_roundtrip`: the
significand is rounded to a float first (here between `2 ^ 53` and `2 ^ 54`, to an
even number) and then divided. -/
def bestEffort (significand places : Nat) : UInt64 :=
  floatBits (nearest (2 * nearest significand 2 * 2 ^ 49) (10 ^ places))

/-- A score whose shortest text is `9.008340208121053`, and the float that this
text is read as. -/
def score : UInt64 := exactFloat 9008340208121053 15

/-- The score as it is read. -/
def rereadScore : UInt64 := bestEffort 9008340208121053 15

example : rereadScore = score - 1 := by decide

/-- A report with a score. -/
def scored (bits : UInt64) : Outcome where
  status := .ok
  summary := some (.abuseipdb
    ⟨some 100, none, none, none, none, none, none, none, none, none, none⟩)
  fetchedAt := some .epoch
  providerUpdatedAt := none
  error := none
  raw := some (.object [("data", .object [("abuseConfidenceScore", .number (.posInt 100)),
    ("score", .number (.float bits))])])

/-- A writer of the two scores. -/
def scoreSerializer : Serializer :=
  .whole (fun bits => if bits = score then "9.008340208121053" else "9.008340208121052")
    (fun _ => "1970-01-01T00:00:00Z")

/-- The payload of the report is read with the float that its text is read as. -/
def scoreDeserializer : Deserializer where
  document bytes :=
    if bytes = scoreSerializer.toVec (scoreSerializer.outcome (scored score)) then
      some (scoreSerializer.outcome (scored rereadScore))
    else none
  timestamp text := if text = "1970-01-01T00:00:00Z" then some .epoch else none
  parseFromRfc3339 _ := none

/-- Payloads as it writes them. -/
def scoreCodec : PayloadCodec := payloadCodec scoreSerializer scoreDeserializer

/-- A put of the score. -/
def scorePut : PutRequest :=
  { absencePut with outcome := scored score }

/-- It is cached. -/
theorem score_cacheable : scorePut.Cacheable scoreCodec .single .epoch hourAfter where
  status := Or.inl rfl
  lifetime := by decide
  fetchedAt := rfl
  error := rfl
  past := le_rfl
  expiresAt := rfl
  small := by decide +kernel

/-- It is read as the other score. -/
theorem score_rereads :
    scoreCodec.fromSlice (scoreCodec.toVec (scored score)) = some (scored rereadScore) := by
  have document : scoreDeserializer.document
      (scoreSerializer.toVec (scoreSerializer.outcome (scored score))) =
        some (scoreSerializer.outcome (scored rereadScore)) := by
    unfold scoreDeserializer
    dsimp only
    rw [if_pos rfl]
  have decoded : scoreDeserializer.outcome (scoreSerializer.outcome (scored rereadScore)) =
      some (scored rereadScore) := rfl
  unfold scoreCodec payloadCodec
  dsimp only
  rw [document, Option.bind_some, decoded]

/-- A hit with another outcome than any that was put: the float in its raw value
is the one below. -/
theorem cacheGet_inexact :
    ¬ ∀ (trace emitted : List Event) (after : World) (database : Database) (session : Session)
      (call : CallId) (provider : ProviderId) (key : String) (kind : IndicatorKind)
      (wall : DateTime) (now : Int) (outcome : Outcome) (expiresAt : DateTime),
      Run (Step scoreCodec) (.closed none) trace (.running database session) →
      Step scoreCodec (.running database session) emitted after →
      Event.cacheRead call provider key kind wall now (.hit outcome expiresAt) ∈ emitted →
      ∃ put, Event.putCommitted put ∈ trace ∧ put.entry.primaryKey = (provider, key) ∧
        put.outcome = outcome := by
  intro claimed
  obtain ⟨put, member, _, same⟩ := claimed _ _ _ _ _ 1 .abuseipdb "203.0.113.7" .ip .epoch 0
    (scored rereadScore) hourAfter ((score_cacheable.run (by decide)).snoc World.idle_ask)
    (World.asked_read (score_cacheable.cacheGet score_rereads rfl rfl rfl le_rfl (by decide)
      (List.mem_singleton.mpr rfl))) (List.mem_singleton.mpr rfl)
  simp only [List.cons_append, List.nil_append, List.mem_cons, reduceCtorEq,
    Event.putCommitted.injEq, List.not_mem_nil, or_false, false_or] at member
  rw [member] at same
  have raws := congrArg Outcome.raw same
  simp only [PutRequest.firstPut, scorePut, scored, Option.some.injEq, Value.object.injEq,
    List.cons.injEq, Prod.mk.injEq, Value.number.injEq, Number.float.injEq, true_and,
    and_true] at raws
  exact absurd raws (by decide)

end RustEnrich.Storage
