import RustEnrich.Storage.CacheReads
import RustEnrich.Serialization.PrintedText
import RustEnrich.Providers

/-!
# Stored payloads

A payload is read back as the outcome it was made of where the raw value leaves
room for the level of the outcome around it. A read of the cache finds nothing
invalid in a row that a put has stored with such a payload: each of its checks is
implied by what the put checked, also under lifetimes that were configured later.
-/

namespace RustEnrich.Storage

open Transitions Serialization

/-! ### Reads of readable rows -/

/-- What a read checks of a row. -/
structure CacheEntry.Readable (codec : PayloadCodec) (row : CacheEntry) (outcome : Outcome) :
    Prop where
  payload : codec.fromSlice row.payload = some outcome
  status : outcome.status = row.outcome.status
  fetchedAt : outcome.fetchedAt.map DateTime.timestampMillis = some row.fetchedAt
  error : outcome.error = none
  expiresAt : ∃ instant, DateTime.fromTimestampMillis row.expiresAt = some instant

section Reads

variable {codec : PayloadCodec}

/-- On readable rows a read fails on nothing. -/
theorem cacheGet_readable {settings : Settings} {table : CacheTable} {provider : ProviderId}
    {key : String} {kind : IndicatorKind} {wall now : Int}
    (readable : ∀ row ∈ table.rows, ∃ outcome, row.Readable codec outcome) :
    ∃ read rest, cacheGet codec settings table provider key kind wall now = .ok (read, rest) := by
  unfold cacheGet
  dsimp only
  split
  · exact ⟨_, _, rfl⟩
  rename_i row found
  obtain ⟨outcome, reads⟩ := readable row (List.mem_of_find?_eq_some found)
  obtain ⟨fetched, _, millis⟩ := Option.map_eq_some_iff.mp reads.fetchedAt
  have lower : minMillis ≤ row.fetchedAt := millis ▸ fetched.minMillis_le
  have upper : row.fetchedAt ≤ maxMillis := millis ▸ fetched.le_maxMillis
  split
  · exact ⟨_, _, rfl⟩
  rw [checkedAdd_ttl lower upper]
  dsimp only
  split
  · exact ⟨_, _, rfl⟩
  split
  · exact ⟨_, _, rfl⟩
  rw [reads.payload]
  dsimp only
  rw [if_neg (by simp [reads.status, reads.fetchedAt, reads.error])]
  obtain ⟨instant, converts⟩ := reads.expiresAt
  obtain ⟨above, below⟩ := inside_of_fromTimestampMillis converts
  have nonneg := settings.ttl_nonneg kind row.outcome.status
  have inside : minMillis ≤ min row.expiresAt
        (row.fetchedAt + settings.ttl kind row.outcome.status) ∧
      min row.expiresAt (row.fetchedAt + settings.ttl kind row.outcome.status) ≤ maxMillis := by
    omega
  rw [DateTime.fromTimestampMillis, dif_pos inside]
  exact ⟨_, _, rfl⟩

/-- A row with a payload that is read as no outcome is found invalid when it is
fetched. -/
theorem cacheGet_unread {table : CacheTable} {row : CacheEntry} (member : row ∈ table.rows)
    (unread : codec.fromSlice row.payload = none) (lower : minMillis ≤ row.fetchedAt)
    (upper : row.fetchedAt ≤ maxMillis) (fresh : row.fetchedAt < row.expiresAt) :
    cacheGet codec .single table row.provider row.cacheKey row.kind row.fetchedAt row.fetchedAt =
      .error .invalidData := by
  have enabled : Settings.single.ttl row.kind row.outcome.status = 3600000 := by
    cases row.kind <;> cases row.outcome <;> rfl
  have found : table.rows.find? (fun entry => entry.provider = row.provider ∧
      entry.cacheKey = row.cacheKey ∧ entry.kind = row.kind) = some row :=
    CacheTable.find?_of_mem member
  unfold cacheGet
  rw [found]
  dsimp only
  rw [checkedAdd_ttl lower upper, enabled, if_neg (by decide)]
  dsimp only
  rw [if_neg (by omega), if_neg (lt_irrefl _), unread]

end Reads

/-! ### What a put makes of its request -/

/-- The row of a request whose outcome has no error, with an expiry that can be
told. -/
structure CommittedPut.Makes (put : CommittedPut) (request : PutRequest) : Prop where
  outcome : put.outcome = request.outcome
  primaryKey : put.entry.primaryKey = (request.provider, request.key)
  error : put.outcome.error = none
  expiresAt : ∃ instant, DateTime.fromTimestampMillis put.entry.expiresAt = some instant

/-- The calls of the session that wait for the gate. -/
def World.waiting : World → List (CallId × Request)
  | .closed _ => []
  | .running _ session => session.waiting

section Puts

variable {codec : PayloadCodec}

/-- A prepared entry is made of its request. -/
theorem prepareEntry_makes {settings : Settings} {request : PutRequest} {stored : StoredOutcome}
    {entry : CacheEntry} {expiresAt : DateTime} {ttl : Int}
    (prepared : prepareEntry codec settings request stored = .ok (some (entry, expiresAt))) :
    CommittedPut.Makes { entry, outcome := request.outcome, ttl } request := by
  unfold prepareEntry at prepared
  dsimp only at prepared
  split at prepared
  · cases prepared
  split at prepared
  · cases prepared
  split at prepared
  · cases prepared
  rename_i admitted
  split at prepared
  · cases prepared
  split at prepared
  · cases prepared
  rename_i converts
  split at prepared
  · cases prepared
  · cases prepared
    exact ⟨rfl, rfl, by simpa using (not_or.mp admitted).1, _, converts⟩

/-- A committed put is made of its request. -/
theorem cachePut_makes {settings : Settings} {table rest : CacheTable} {request : PutRequest}
    {wall now ttl : Int} {entry : CacheEntry} {expiry : Option DateTime}
    (put : cachePut codec settings table request wall now = .ok (.committed entry expiry, rest)) :
    CommittedPut.Makes { entry, outcome := request.outcome, ttl } request := by
  unfold cachePut at put
  split at put
  · cases put
  · cases put
  rename_i prepared expiresAt preparing
  rcases insertEntry_ok put with ⟨skipped, _⟩ | ⟨_, committed, _⟩
  · cases skipped
  cases committed
  unfold preparePut at preparing
  split at preparing
  · exact prepareEntry_makes preparing
  · exact prepareEntry_makes preparing
  · cases preparing

/-- A put is committed by a call of it, as it was prepared. -/
theorem Request.perform_putCommitted {settings : Settings} {database : Database}
    {pending : QuotaGroup → Option PendingFeedback} {call : CallId} {wall : DateTime} {now : Int}
    {request : Request} {done : Performed} {put : CommittedPut}
    (performs : request.perform codec settings database pending call wall now = some (.ok done)) :
    Event.putCommitted put ∉ done.returned ∧
      (Event.putCommitted put ∈ done.committed →
        ∃ asked, request = .cachePut asked ∧ put.Makes asked ∧ put.Prepared codec) := by
  cases Request.performs performs with
  | @stored asked entry expiry table stores =>
      refine ⟨by simp, ?_⟩
      intro committed
      simp only [List.mem_singleton, Event.putCommitted.injEq] at committed
      subst committed
      refine ⟨asked, rfl, cachePut_makes stores, ?_⟩
      rcases cachePut_ok stores with ⟨other, _⟩ | ⟨_, _, same, prepared, _⟩
      · cases other
      · cases same
        exact prepared
  | _ => exact ⟨by simp, by simp⟩

variable {before after world : World} {trace emitted : List Event}

/-- A put is committed, as it was prepared, for a call that waited for the gate. -/
theorem Step.makes (taken : Step codec before emitted after) {put : CommittedPut}
    (committed : Event.putCommitted put ∈ emitted) :
    put.Prepared codec ∧
      ∃ call asked, (call, Request.cachePut asked) ∈ before.waiting ∧ put.Makes asked := by
  cases taken with
  | @performed _ _ _ _ call _ _ wall free queued performs =>
      obtain ⟨silent, made⟩ := Request.perform_putCommitted performs
      rcases List.mem_append.mp committed with commits | returns
      · obtain ⟨asked, rfl, makes, prepared⟩ := made commits
        refine ⟨prepared, call, asked, ?_, makes⟩
        rw [World.waiting, queued]
        exact List.mem_append_right _ List.mem_cons_self
      · exact absurd returns silent
  | @unreported _ _ _ _ call _ _ wall free queued performs =>
      obtain ⟨_, made⟩ := Request.perform_putCommitted performs
      rcases List.mem_append.mp committed with commits | failed
      · obtain ⟨asked, rfl, makes, prepared⟩ := made commits
        refine ⟨prepared, call, asked, ?_, makes⟩
        rw [World.waiting, queued]
        exact List.mem_append_right _ List.mem_cons_self
      · simp at failed
  | reserveCommitted held reserves =>
      rcases List.mem_append.mp committed with applied | granted
      · obtain ⟨_, _, other⟩ := mem_appliedFeedback.mp applied
        cases other
      · cases (mem_grantedReservation.mp granted).2
  | feedbackCommitted held applies => simp [appliedFeedback] at committed
  | _ => simp at committed

/-- What still waits has waited. -/
theorem mem_of_remaining {front back : List (CallId × Request)} {own waiting : CallId × Request}
    (member : waiting ∈ front ++ back) : waiting ∈ front ++ own :: back :=
  List.mem_append.mpr ((List.mem_append.mp member).imp_right (List.mem_cons_of_mem _))

/-- A call that waits has been started. -/
theorem Step.waits (taken : Step codec before emitted after) {call : CallId} {request : Request}
    (waiting : (call, request) ∈ after.waiting) :
    (call, request) ∈ before.waiting ∨ Event.callStarted call request ∈ emitted := by
  cases taken with
  | migrated => cases waiting
  | opened reconciled => cases waiting
  | openTimedOut reconciled => cases waiting
  | closed => cases waiting
  | started asked unretained queues =>
      rcases List.mem_append.mp waiting with earlier | here
      · exact Or.inl earlier
      · cases List.mem_singleton.mp here
        exact Or.inr (List.mem_singleton.mpr rfl)
  | retained provider feedback =>
      rcases List.mem_append.mp waiting with earlier | here
      · exact Or.inl earlier
      · cases List.mem_singleton.mp here
        exact Or.inr List.mem_cons_self
  | abandoned queued =>
      left
      rw [World.waiting, queued]
      exact mem_of_remaining waiting
  | performed wall free queued performs | unreported wall free queued performs
  | unperformed wall free queued performs | reserveBehind wall free queued behind
  | reserveSnapshot wall free queued caughtUp | feedbackSaved wall free queued saved
  | feedbackSnapshot wall free queued unsaved =>
      left
      rw [World.waiting, queued]
      exact mem_of_remaining waiting
  | _ => exact Or.inl waiting

/-- Every committed put was asked for by a call. -/
theorem puts_asked (run : Run (Step codec) (.closed none) trace world) :
    (∀ call request, (call, request) ∈ world.waiting → Event.callStarted call request ∈ trace) ∧
      ∀ put, Event.putCommitted put ∈ trace →
        ∃ call asked, Event.callStarted call (.cachePut asked) ∈ trace ∧ put.Makes asked := by
  refine run.invariant (fun seen world =>
    (∀ call request, (call, request) ∈ world.waiting → Event.callStarted call request ∈ seen) ∧
      ∀ put, Event.putCommitted put ∈ seen →
        ∃ call asked, Event.callStarted call (.cachePut asked) ∈ seen ∧ put.Makes asked) ?_ ?_
  · exact ⟨fun _ _ => nofun, fun _ => nofun⟩
  · rintro seen before emitted after _ ⟨started, asked⟩ taken
    constructor
    · intro call request waiting
      rcases taken.waits waiting with earlier | now
      · exact List.mem_append_left _ (started call request earlier)
      · exact List.mem_append_right _ now
    · intro put member
      rcases List.mem_append.mp member with earlier | now
      · obtain ⟨call, request, there, makes⟩ := asked put earlier
        exact ⟨call, request, List.mem_append_left _ there, makes⟩
      · obtain ⟨_, call, request, waiting, makes⟩ := taken.makes now
        exact ⟨call, request, List.mem_append_left _ (started call _ waiting), makes⟩

/-- Every committed put was prepared. -/
theorem puts_prepared (run : Run (Step codec) (.closed none) trace world) {put : CommittedPut}
    (committed : Event.putCommitted put ∈ trace) : put.Prepared codec := by
  obtain ⟨_, _, _, _, _, _, inside, _, taken, _⟩ := run.step_of_mem committed
  exact (taken.makes inside).1

/-- A step that reports a read is taken by an open storage. -/
theorem Step.running_of_cacheRead {call : CallId} {provider : ProviderId} {key : String}
    {kind : IndicatorKind} {wall : DateTime} {now : Int} {read : CacheRead}
    (taken : Step codec before emitted after)
    (returned : Event.cacheRead call provider key kind wall now read ∈ emitted) :
    ∃ database session, before = .running database session := by
  cases taken with
  | migrated => cases returned
  | opened reconciled => cases List.mem_singleton.mp returned
  | openTimedOut reconciled => cases returned
  | _ => exact ⟨_, _, rfl⟩

/-- A hit returns what the payload of a committed put to its key decodes to. -/
theorem hits_committed (run : Run (Step codec) (.closed none) trace world) {call : CallId}
    {provider : ProviderId} {key : String} {kind : IndicatorKind} {wall : DateTime} {now : Int}
    {outcome : Outcome} {expiresAt : DateTime}
    (returned : Event.cacheRead call provider key kind wall now (.hit outcome expiresAt) ∈ trace) :
    ∃ put, Event.putCommitted put ∈ trace ∧ put.entry.primaryKey = (provider, key) ∧
      codec.fromSlice (codec.toVec put.outcome) = some outcome := by
  induction run with
  | refl => cases returned
  | @snoc seen emitted before after previous taken ih =>
      rcases List.mem_append.mp returned with old | new
      · obtain ⟨put, inside, facts⟩ := ih old
        exact ⟨put, List.mem_append_left _ inside, facts⟩
      · obtain ⟨database, session, rfl⟩ := taken.running_of_cacheRead new
        obtain ⟨_, rest, got⟩ := taken.of_cacheRead new
        obtain ⟨row, inside, primary, _, decoding, _⟩ := cacheGet_hit got
        obtain ⟨front, put, back, rfl, rfl, prepared, _⟩ := rowsStored previous row inside
        rw [prepared.payload] at decoding
        exact ⟨put, by simp, primary, decoding⟩

end Puts

/-! ### Payloads of outcomes -/

section Payloads

variable {serializer : Serializer} {deserializer : Deserializer}

/-- What the raw field is read as: a null is read like an absence, and anything
else as a tree. -/
def asRaw : Value → Option Value
  | .null => none
  | value => some value.deserialize

/-- A value with raw data in it is read as raw data. -/
theorem readRaw_eq (value : Value) : readRaw value = some (asRaw value) := by
  cases value <;> rfl

/-- The raw field of an outcome is read back from a text of its own. -/
def RawRereads (serializer : Serializer) (deserializer : Deserializer) (outcome : Outcome) :
    Prop :=
  (deserializer.document (serializer.toVec (outcome.raw.getD .null))).map asRaw = some outcome.raw

/-- A payload is read as its outcome with the raw value as that is read by
itself, and as nothing where the raw value leaves no level. -/
theorem payload_read (timestamps : TimestampsRoundTrip serializer deserializer)
    (reads : ReadsPrinted serializer deserializer) {outcome : Outcome}
    (error : outcome.error = none) :
    (payloadCodec serializer deserializer).fromSlice
        ((payloadCodec serializer deserializer).toVec outcome) =
      if outcome.rawLevels < maxLevels then
        (deserializer.document (serializer.toVec (outcome.raw.getD .null))).map fun value =>
          { outcome with raw := asRaw value }
      else none := by
  change (deserializer.document (serializer.toVec (serializer.outcome outcome))).bind
    deserializer.outcome = _
  rw [reads.outcome]
  by_cases room : outcome.rawLevels < maxLevels
  · rw [if_pos room, if_pos room]
    cases deserializer.document (serializer.toVec (outcome.raw.getD .null)) with
    | none => rfl
    | some value =>
        exact @outcome_reads serializer deserializer timestamps { outcome with raw := some value }
          (asRaw value) error (readRaw_eq value)
  · rw [if_neg room, if_neg room, Option.bind_none]

/-- An outcome without an error survives its payload exactly where its raw value
leaves a level and survives by itself. -/
theorem payload_roundTrips_iff (timestamps : TimestampsRoundTrip serializer deserializer)
    (reads : ReadsPrinted serializer deserializer) {outcome : Outcome}
    (error : outcome.error = none) :
    (payloadCodec serializer deserializer).RoundTrips outcome ↔
      outcome.rawLevels < maxLevels ∧ RawRereads serializer deserializer outcome := by
  unfold PayloadCodec.RoundTrips RawRereads
  rw [payload_read timestamps reads error]
  by_cases room : outcome.rawLevels < maxLevels
  · rw [if_pos room, and_iff_right room]
    cases deserializer.document (serializer.toVec (outcome.raw.getD .null)) with
    | none => exact iff_of_false nofun nofun
    | some value =>
        rw [Option.map_some, Option.map_some, Option.some.injEq, Option.some.injEq]
        constructor
        · intro same
          exact congrArg Outcome.raw same
        · intro same
          rw [same]
  · rw [if_neg room]
    exact iff_of_false nofun fun both => room both.1

/-- A row of a put is readable where the raw value leaves a level. -/
theorem CommittedPut.Prepared.readable (timestamps : TimestampsRoundTrip serializer deserializer)
    (reads : ReadsPrinted serializer deserializer) {put : CommittedPut} {request : PutRequest}
    (prepared : put.Prepared (payloadCodec serializer deserializer)) (makes : put.Makes request)
    (trips : put.outcome.RawRoundTrips serializer deserializer)
    (room : put.outcome.rawLevels < maxLevels) :
    ∃ outcome, put.entry.Readable (payloadCodec serializer deserializer) outcome := by
  refine ⟨{ put.outcome with raw := asRaw (put.outcome.raw.getD .null) }, ?_,
    prepared.status.symm, prepared.fetchedAt, makes.error, makes.expiresAt⟩
  rw [prepared.payload, payload_read timestamps reads makes.error, if_pos room,
    trips.document reads, Option.map_some]

/-- **The persisted payload decodes to what was stored, where it fits.** What a
provider's answer is decoded to, and an explicit absence, are read back from
their payloads, with the summary they had, exactly where the raw value has at
most 126 levels; and in a store that only puts have written, no read under any
settings finds invalid data exactly where each row that is left is of such an
outcome. -/
theorem payload_decodes_iff (timestamps : TimestampsRoundTrip serializer deserializer)
    (reads : ReadsPrinted serializer deserializer) :
    (∀ (id : ProviderId) (status : UInt16) (body : List UInt8) (indicator : ValidatedIndicator)
      (now : DateTime) (outcome : Outcome),
      decode serializer deserializer id status body indicator now = .ok outcome ∨
        outcome = .notFound now →
      outcome.RawRoundTrips serializer deserializer →
      ((payloadCodec serializer deserializer).RoundTrips outcome ↔
        outcome.rawLevels < maxLevels)) ∧
    ∀ (trace : List Event) (world : World) (database : Database),
      Run (Step (payloadCodec serializer deserializer)) (.closed none) trace world →
      world.database = some database →
      (∀ put, Event.putCommitted put ∈ trace →
        put.outcome.RawRoundTrips serializer deserializer) →
      ((∀ (settings : Settings) (provider : ProviderId) (key : String) (kind : IndicatorKind)
          (wall now : Int),
        ∃ read rest, cacheGet (payloadCodec serializer deserializer) settings
          database.cacheEntries provider key kind wall now = .ok (read, rest)) ↔
        ∀ put, Event.putCommitted put ∈ trace → put.entry ∈ database.cacheEntries.rows →
          put.outcome.rawLevels < maxLevels) := by
  constructor
  · intro id status body indicator now outcome produced trips
    have produced : outcome = .notFound now ∨ _ := produced.elim decode_ok Or.inl
    have error : outcome.error = none := by
      rcases produced with rfl | ⟨_, _, _, rfl, _⟩ <;> rfl
    rw [payload_roundTrips_iff timestamps reads error, and_iff_left]
    unfold RawRereads
    rw [trips.document reads, Option.map_some, Option.some.injEq]
    rcases produced with rfl | ⟨_, _, document, rfl, _, notNull, _⟩
    · rfl
    · have kept : asRaw document.deserialize = some document.deserialize.deserialize := by
        unfold asRaw
        split
        · rename_i null
          exact absurd null notNull
        · rfl
      rw [Option.getD_some, kept, document.deserialize_deserialize]
  · intro trace world database run there trips
    constructor
    · intro valid put committed inside
      by_contra deep
      have prepared := puts_prepared run committed
      obtain ⟨_, _, _, makes⟩ := (puts_asked run).2 put committed
      obtain ⟨fetched, _, millis⟩ := Option.map_eq_some_iff.mp prepared.fetchedAt
      have unread : (payloadCodec serializer deserializer).fromSlice put.entry.payload = none := by
        rw [prepared.payload, payload_read timestamps reads makes.error, if_neg deep]
      have fresh : put.entry.fetchedAt < put.entry.expiresAt := by
        rw [prepared.expiresAt]
        exact lt_add_of_pos_right _ prepared.lifetime
      obtain ⟨_, _, got⟩ := valid .single put.entry.provider put.entry.cacheKey put.entry.kind
        put.entry.fetchedAt put.entry.fetchedAt
      rw [cacheGet_unread inside unread (millis ▸ fetched.minMillis_le)
        (millis ▸ fetched.le_maxMillis) fresh] at got
      cases got
    · intro shallow settings provider key kind wall now
      apply cacheGet_readable
      intro row member
      have stored : row ∈ storedRows world.database := by
        rw [there]
        exact member
      obtain ⟨front, put, back, rfl, rfl, prepared, _⟩ := rowsStored run row stored
      have committed : Event.putCommitted put ∈ front ++ Event.putCommitted put :: back :=
        List.mem_append_right _ List.mem_cons_self
      obtain ⟨_, _, _, makes⟩ := (puts_asked run).2 put committed
      exact prepared.readable timestamps reads makes (trips put committed)
        (shallow put committed member)

end Payloads

/-! ### A report as deep as can be read -/

/-- A text for each instant: of the epoch as it is printed, of any other with as
many letters as it has nanoseconds from the first. -/
def instantText (instant : DateTime) : String :=
  if instant = .epoch then "1970-01-01T00:00:00Z"
  else .ofList (.replicate (instant.nanos - minMillis * milliNanos).toNat 'n')

/-- A reader of what `instantText` prints. -/
def readInstant (text : String) : Option DateTime :=
  if text = "1970-01-01T00:00:00Z" then some DateTime.epoch
  else DateTime.ofNanos (text.toList.length + minMillis * milliNanos)

/-- A printer without fractions, and the reader of its texts. -/
def printedSerializer : Serializer := .whole Value.zeroText instantText

/-- The reader of what is printed. -/
noncomputable def printedDeserializer : Deserializer := .printed readInstant readInstant

/-- Times are read back. -/
theorem instants_roundTrip : TimestampsRoundTrip printedSerializer printedDeserializer := by
  intro instant
  change readInstant (instantText instant) = some instant
  unfold instantText
  split
  · rename_i same
    rw [same]
    rfl
  · have lower := instant.lower
    have count : ((instant.nanos - minMillis * milliNanos).toNat : Int) +
        minMillis * milliNanos = instant.nanos := by omega
    have different : String.ofList (.replicate (instant.nanos - minMillis * milliNanos).toNat 'n') ≠
        "1970-01-01T00:00:00Z" := by
      intro same
      have letters := congrArg String.toList same
      rw [String.toList_ofList] at letters
      have digit : '1' ∈ "1970-01-01T00:00:00Z".toList := by decide
      rw [← letters] at digit
      exact absurd (List.eq_of_mem_replicate digit) (by decide)
    rw [readInstant, if_neg different, String.toList_ofList, List.length_replicate, count]
    exact dif_pos ⟨instant.lower, instant.upper⟩

/-- What is printed is read back, as deep as can be read. -/
theorem printed_reads : ReadsPrinted printedSerializer printedDeserializer :=
  readsPrinted_printed _ _ _

/-- An integral document within the levels is read back. -/
theorem printed_document {value : Value} (integral : Integral value)
    (room : value.levels ≤ maxLevels) :
    printedDeserializer.document (printedSerializer.toVec value) = some value := by
  refine (printedDocument_text value).trans ?_
  rw [if_pos room, Value.plain_of_integral integral]

/-- Arrays in one another. -/
def nested : Nat → Value
  | 0 => .array []
  | depth + 1 => .array [nested depth]

/-- Nested arrays have their depth and one. -/
theorem nested_levels (depth : Nat) : (nested depth).levels = depth + 1 := by
  induction depth with
  | zero => rfl
  | succ depth ih =>
      rw [nested, Value.levels, Value.valuesLevels, Value.valuesLevels, ih, Nat.max_zero]

/-- They have no numbers. -/
theorem nested_integral (depth : Nat) : Integral (nested depth) := by
  induction depth with
  | zero => exact .array (List.forall_mem_nil _)
  | succ depth ih => exact .array (List.forall_mem_singleton.mpr ih)

/-- They are kept as they are. -/
theorem nested_deserialize (depth : Nat) : (nested depth).deserialize = nested depth := by
  induction depth with
  | zero => rfl
  | succ depth ih =>
      rw [nested, Value.deserialize, Value.deserializeValues, ih]
      rfl

/-- A report of AbuseIPDB with a member it does not know. -/
def deepReport (depth : Nat) : Value :=
  .object [("data", .object [("ipAddress", .string "203.0.113.7"), ("notes", nested depth)])]

/-- The report is three levels deeper. -/
theorem deepReport_levels (depth : Nat) : (deepReport depth).levels = depth + 3 := by
  simp [deepReport, Value.levels, Value.membersLevels, nested_levels]

/-- It has no numbers. -/
theorem deepReport_integral (depth : Nat) : Integral (deepReport depth) := by
  refine .object (List.forall_mem_singleton.mpr (.object ?_))
  rw [List.forall_mem_cons, List.forall_mem_singleton]
  exact ⟨.string _, nested_integral depth⟩

/-- It is kept as it is. -/
theorem deepReport_deserialize (depth : Nat) :
    (deepReport depth).deserialize = deepReport depth := by
  have data : Value.deserializeMembers [] [("ipAddress", .string "203.0.113.7"),
      ("notes", nested depth)] =
      [("ipAddress", .string "203.0.113.7"), ("notes", nested depth)] := by
    rw [Value.deserializeMembers, Value.deserializeMembers, nested_deserialize]
    rfl
  rw [deepReport, Value.deserialize, Value.deserializeMembers, Value.deserialize, data]
  rfl

/-- The indicator of the report. -/
def askedFor : ValidatedIndicator where
  input := { kind := .ip, value := "203.0.113.7" }
  lookupValue := "203.0.113.7"
  hashAlgorithm := none

/-- What the report is decoded to. -/
def deepOutcome (depth : Nat) : Outcome where
  status := .ok
  summary := some (.abuseipdb ⟨none, none, none, none, none, none, none, none, none, none, none⟩)
  fetchedAt := some .epoch
  providerUpdatedAt := none
  error := none
  raw := some (deepReport depth)

/-- It is decoded where it is read. -/
theorem deep_decoded {depth : Nat} (room : depth + 3 ≤ maxLevels) :
    decode printedSerializer printedDeserializer .abuseipdb 200
      (printedSerializer.toVec (deepReport depth)) askedFor .epoch =
      .ok (deepOutcome depth) := by
  have read :=
    printed_document (deepReport_integral depth) ((deepReport_levels depth).trans_le room)
  have reported : decodeReport printedDeserializer .abuseipdb (deepReport depth) askedFor =
      some (.abuseipdb ⟨none, none, none, none, none, none, none, none, none, none, none⟩, none) :=
    rfl
  unfold decode
  rw [if_neg (by decide), read, Option.map_some, deepReport_deserialize]
  dsimp only
  rw [reported]
  dsimp only
  rw [printedSerializer.toWriter_limited, if_pos (by decide +kernel)]
  rfl

/-- Its raw document is read back where it is read. -/
theorem deep_trips {depth : Nat} (room : depth + 3 ≤ maxLevels) :
    (deepOutcome depth).RawRoundTrips printedSerializer printedDeserializer := by
  intro value there
  cases there
  exact printed_document (deepReport_integral depth) ((deepReport_levels depth).trans_le room)

/-- So is what is written of it. -/
theorem deep_rereads {depth : Nat} (room : depth + 3 ≤ maxLevels) :
    RawRereads printedSerializer printedDeserializer (deepOutcome depth) := by
  unfold RawRereads
  rw [(deep_trips room).document printed_reads, Option.map_some]
  exact congrArg (fun raw => some (some raw)) (deepReport_deserialize depth)

/-- A put of the report. -/
def deepPut (depth : Nat) : PutRequest := { absencePut with outcome := deepOutcome depth }

/-- Payloads as they are printed. -/
noncomputable abbrev printedCodec : PayloadCodec :=
  payloadCodec printedSerializer printedDeserializer

/-- A short report is cached. -/
theorem deep_cacheable {depth : Nat}
    (small : (printedSerializer.toVec (printedSerializer.outcome (deepOutcome depth))).length ≤
      4096) : (deepPut depth).Cacheable printedCodec .single .epoch hourAfter where
  status := Or.inl rfl
  lifetime := (by decide : (3600000 : Int) ≠ 0)
  fetchedAt := rfl
  error := rfl
  past := le_rfl
  expiresAt := rfl
  small := small

/-- A put of a report whose raw value leaves a level, and of one that does not. -/
theorem payload_decodes_iff_deep :
    printedCodec.RoundTrips (deepOutcome 123) ∧ ¬ printedCodec.RoundTrips (deepOutcome 124) ∧
      ∃ read rest, cacheGet printedCodec .single
        (.single ((deepPut 123).row printedCodec .single .epoch)) .abuseipdb "203.0.113.7" .ip 0 0 =
          .ok (read, rest) := by
  obtain ⟨produced, stored⟩ := payload_decodes_iff instants_roundTrip printed_reads
  have levels : ∀ depth, (deepOutcome depth).rawLevels = depth + 3 := deepReport_levels
  have within := produced _ _ _ _ _ _ (Or.inl (@deep_decoded 123 (by decide)))
    (deep_trips (by decide))
  have beyond := produced _ _ _ _ _ _ (Or.inl (@deep_decoded 124 (by decide)))
    (deep_trips (by decide))
  refine ⟨within.mpr (by rw [levels]; decide), ?_, ?_⟩
  · intro survives
    have room := beyond.mp survives
    rw [levels] at room
    exact absurd room (by decide)
  · have only : ∀ put, Event.putCommitted put ∈ [.opened .single .epoch 0,
        .callStarted 0 (.cachePut (deepPut 123)),
        .putCommitted ((deepPut 123).firstPut printedCodec), .putReturned 0 (some hourAfter)] →
        put.outcome = deepOutcome 123 := by
      intro put member
      simp only [List.mem_cons, reduceCtorEq, Event.putCommitted.injEq, List.not_mem_nil, or_false,
        false_or] at member
      rw [member]
      rfl
    have run := (@deep_cacheable 123 (by decide +kernel)).run (by decide)
    refine (stored _ _ _ run rfl ?_).mpr ?_ .single .abuseipdb "203.0.113.7" .ip 0 0
    · intro put member
      rw [only put member]
      exact deep_trips (by decide)
    · intro put member _
      rw [only put member, levels]
      decide

/-- The payload of the deepest report has a level too many. -/
theorem deep_unread : printedCodec.fromSlice (printedCodec.toVec (deepOutcome 124)) = none := by
  have deep : ¬ (deepOutcome 124).rawLevels < maxLevels := by
    rw [show (deepOutcome 124).rawLevels = 127 from deepReport_levels 124]
    decide
  exact (payload_read instants_roundTrip printed_reads rfl).trans (if_neg deep)

/-- A report with as many levels as can be read is decoded and put, and neither
its payload nor its row can be read again. -/
theorem payload_unread :
    decode printedSerializer printedDeserializer .abuseipdb 200
        (printedSerializer.toVec (deepReport 124)) askedFor .epoch = .ok (deepOutcome 124) ∧
      (deepOutcome 124).RawRoundTrips printedSerializer printedDeserializer ∧
      ¬ printedCodec.RoundTrips (deepOutcome 124) ∧
      Run (Step printedCodec) (.closed none) [.opened .single .epoch 0,
        .callStarted 0 (.cachePut (deepPut 124)),
        .putCommitted ((deepPut 124).firstPut printedCodec), .putReturned 0 (some hourAfter)]
        (.idle (.create .epoch) 1 (.single ((deepPut 124).row printedCodec .single .epoch))) ∧
      cacheGet printedCodec .single (.single ((deepPut 124).row printedCodec .single .epoch))
        .abuseipdb "203.0.113.7" .ip 0 0 = .error .invalidData := by
  refine ⟨deep_decoded (by decide), deep_trips (by decide), ?_,
    (@deep_cacheable 124 (by decide +kernel)).run (by decide), ?_⟩
  · intro survives
    cases survives.symm.trans deep_unread
  · exact @cacheGet_unread printedCodec _ ((deepPut 124).row printedCodec .single .epoch)
      (List.mem_singleton.mpr rfl) deep_unread (by decide : minMillis ≤ 0)
      (by decide : 0 ≤ maxMillis) (by decide : (0 : Int) < 3600000)

end RustEnrich.Storage
