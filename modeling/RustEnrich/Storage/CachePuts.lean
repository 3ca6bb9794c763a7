import RustEnrich.Storage.Eviction

/-!
# Puts

A put of a cacheable outcome is an insertion into a bounded queue: the first
stale rows go, the new row replaces one of its key, and the oldest rows go until
both limits hold.
-/

namespace RustEnrich.Storage

/-! ### Lifetimes -/

/-- A lifetime is within the range of instants. -/
theorem Settings.ttl_le (settings : Settings) (kind : IndicatorKind) (status : Status) :
    settings.ttl kind status ≤ maxMillis - minMillis := by
  unfold ttl
  split
  · exact settings.notFoundTtl.representable
  · cases kind
    · exact settings.ipTtl.representable
    · exact settings.urlTtl.representable
    · exact settings.hashTtl.representable

/-- A converted instant is within the range. -/
theorem inside_of_fromTimestampMillis {millis : Int} {instant : DateTime}
    (converted : DateTime.fromTimestampMillis millis = some instant) :
    minMillis ≤ millis ∧ millis ≤ maxMillis := by
  unfold DateTime.fromTimestampMillis at converted
  split at converted
  · assumption
  · cases converted

/-- A lifetime can be added to any stored time. -/
theorem checkedAdd_ttl {settings : Settings} {kind : IndicatorKind} {status : Status}
    {fetched : Int} (lower : minMillis ≤ fetched) (upper : fetched ≤ maxMillis) :
    checkedAdd fetched (settings.ttl kind status) = some (fetched + settings.ttl kind status) := by
  have nonneg := settings.ttl_nonneg kind status
  have bound := settings.ttl_le kind status
  unfold checkedAdd
  simp only [minMillis, maxMillis, NaiveDate.min, NaiveDate.max, dayMillis] at lower upper bound
  rw [if_pos]
  simp only [i64Min, i64Max]
  omega

/-! ### Cacheable outcomes -/

/-- What `cache_put` checks of an outcome before its transaction. -/
structure PutRequest.Cacheable (codec : PayloadCodec) (settings : Settings) (request : PutRequest)
    (fetched expiresAt : DateTime) : Prop where
  status : request.outcome.status = .ok ∨ request.outcome.status = .notFound
  lifetime : settings.ttl request.kind request.outcome.status ≠ 0
  fetchedAt : request.outcome.fetchedAt = some fetched
  error : request.outcome.error = none
  past : fetched.timestampMillis ≤ request.entered.timestampMillis
  expiresAt : DateTime.fromTimestampMillis
    (fetched.timestampMillis + settings.ttl request.kind request.outcome.status) = some expiresAt
  small : (codec.toVec request.outcome).length ≤ settings.maxBytes

/-- The row of an outcome fetched at a time. -/
def PutRequest.row (codec : PayloadCodec) (settings : Settings) (request : PutRequest)
    (fetched : DateTime) : CacheEntry where
  provider := request.provider
  cacheKey := request.key
  payloadVersion := request.version
  kind := request.kind
  outcome := if request.outcome.status = .ok then .ok else .notFound
  fetchedAt := fetched.timestampMillis
  expiresAt := fetched.timestampMillis + settings.ttl request.kind request.outcome.status
  payload := codec.toVec request.outcome
  payloadBytes := (codec.toVec request.outcome).length

/-- The table a put would leave were it not for its limits: without the first
chunk of stale rows, and with the new row for any of its key. -/
def insertedRows (settings : Settings) (wall now : Int) (table : CacheTable) (entry : CacheEntry) :
    List CacheEntry :=
  entry :: table.rows.filter fun row =>
    row ∉ (staleRows settings wall now table).take cleanupChunk ∧
      row.primaryKey ≠ entry.primaryKey

/-! ### The inserted row -/

/-- After a put there are the row and what has another key. -/
theorem CacheTable.mem_upsert_iff {table : CacheTable} {entry row : CacheEntry} :
    row ∈ (table.upsert entry).rows ↔
      row = entry ∨ (row ∈ table.rows ∧ row.primaryKey ≠ entry.primaryKey) := by
  refine ⟨mem_upsert, ?_⟩
  intro kept
  change row ∈ upsertRows entry table.rows
  unfold upsertRows
  split
  · rename_i present
    apply List.mem_map.mpr
    rcases kept with same | ⟨inside, other⟩
    · obtain ⟨old, inside, replaced⟩ := List.mem_map.mp present
      refine ⟨old, inside, ?_⟩
      rw [if_pos replaced, same]
    · refine ⟨row, inside, ?_⟩
      rw [if_neg other]
  · apply List.mem_append.mpr
    rcases kept with same | ⟨inside, _⟩
    · exact Or.inr (List.mem_singleton.mpr same)
    · exact Or.inl inside

/-- The inserted rows are those of the put after the deletion. -/
theorem insertedRows_perm (settings : Settings) (wall now : Int) (table : CacheTable)
    (entry : CacheEntry) :
    (insertedRows settings wall now table entry).Perm
      ((deleteExpired settings wall now table).1.upsert entry).rows := by
  apply (List.perm_ext_iff_of_nodup ?_ (CacheTable.nodup _)).mpr
  · intro row
    have deleted : (deleteExpired settings wall now table).1.rows =
        table.rows.filter
          (fun row => row ∉ (staleRows settings wall now table).take cleanupChunk) :=
      delete_eq_filter table _
    rw [CacheTable.mem_upsert_iff, deleted]
    simp only [insertedRows, List.mem_cons, List.mem_filter, decide_eq_true_eq, and_assoc]
  · apply List.nodup_cons.mpr
    refine ⟨?_, table.nodup.filter _⟩
    intro again
    simp only [List.mem_filter, decide_eq_true_eq, ne_eq, not_true_eq_false, and_false] at again

/-- Both have their rows in the same order. -/
theorem fifo_insertedRows (settings : Settings) (wall now : Int) (table : CacheTable)
    (entry : CacheEntry) :
    fifo ((deleteExpired settings wall now table).1.upsert entry).rows =
      fifo (insertedRows settings wall now table entry) := by
  apply fifo_eq_of_perm (CacheTable.primaryKey _)
  · exact (fifo_perm _).trans (insertedRows_perm settings wall now table entry)
  · exact fifo_pairwise _

/-- The count of the rows with the key of the new one tells whether it is left. -/
theorem retained_iff {table rest : CacheTable} {entry : CacheEntry}
    (inside : rest.rows.Sublist (table.upsert entry).rows) :
    (rest.rows.filter (fun row => row.primaryKey = entry.primaryKey)).length = 1 ↔
      entry ∈ rest.rows := by
  have own : ∀ row ∈ rest.rows, row.primaryKey = entry.primaryKey → row = entry := by
    intro row member same
    rcases CacheTable.mem_upsert (inside.subset member) with equal | ⟨_, other⟩
    · exact equal
    · exact absurd same other
  constructor
  · intro one
    obtain ⟨row, alone⟩ := List.length_eq_one_iff.mp one
    have chosen : row ∈ rest.rows.filter (fun row => row.primaryKey = entry.primaryKey) := by
      rw [alone]
      exact List.mem_singleton.mpr rfl
    obtain ⟨member, same⟩ := List.mem_filter.mp chosen
    rw [← own row member (of_decide_eq_true same)]
    exact member
  · intro member
    have single : (rest.rows.filter (fun row => row.primaryKey = entry.primaryKey)).Perm
        [entry] := by
      apply (List.perm_ext_iff_of_nodup (rest.nodup.filter _) (List.nodup_singleton _)).mpr
      intro row
      rw [List.mem_filter, List.mem_singleton, decide_eq_true_eq]
      constructor
      · intro ⟨here, same⟩
        exact own row here same
      · intro equal
        rw [equal]
        exact ⟨member, rfl⟩
    exact single.length_eq

/-- A read of a key finds its row. -/
theorem CacheTable.find?_of_mem {table : CacheTable} {entry : CacheEntry}
    (member : entry ∈ table.rows) :
    table.rows.find? (fun row => row.provider = entry.provider ∧ row.cacheKey = entry.cacheKey ∧
      row.kind = entry.kind) = some entry := by
  cases found : table.rows.find? (fun row => row.provider = entry.provider ∧
      row.cacheKey = entry.cacheKey ∧ row.kind = entry.kind) with
  | none =>
      have missed := List.find?_eq_none.mp found entry member
      simp at missed
  | some row =>
      have sought := List.find?_some found
      simp only [decide_eq_true_eq] at sought
      have same : row.primaryKey = entry.primaryKey := Prod.ext sought.1 sought.2.1
      rw [List.inj_on_of_nodup_map table.primaryKey (List.mem_of_find?_eq_some found) member same]

/-! ### The put -/

variable {codec : PayloadCodec} {settings : Settings} {table rest : CacheTable}
  {request : PutRequest} {fetched expiresAt : DateTime} {wall now : Int}

namespace PutRequest.Cacheable

/-- The lifetime is added without an overflow. -/
theorem added (cacheable : request.Cacheable codec settings fetched expiresAt) :
    checkedAdd fetched.timestampMillis (settings.ttl request.kind request.outcome.status) =
      some expiresAt.timestampMillis := by
  rw [checkedAdd_ttl fetched.minMillis_le fetched.le_maxMillis,
    DateTime.fromTimestampMillis_timestampMillis cacheable.expiresAt]

/-- The row expires when its outcome does. -/
theorem row_expiresAt (cacheable : request.Cacheable codec settings fetched expiresAt) :
    (request.row codec settings fetched).expiresAt = expiresAt.timestampMillis :=
  (DateTime.fromTimestampMillis_timestampMillis cacheable.expiresAt).symm

/-- The time of expiry is read back. -/
theorem converted (cacheable : request.Cacheable codec settings fetched expiresAt) :
    DateTime.fromTimestampMillis expiresAt.timestampMillis = some expiresAt := by
  rw [DateTime.fromTimestampMillis_timestampMillis cacheable.expiresAt, cacheable.expiresAt]

/-- The row has the status of its outcome. -/
theorem row_status (cacheable : request.Cacheable codec settings fetched expiresAt) :
    (request.row codec settings fetched).outcome.status = request.outcome.status := by
  rcases cacheable.status with status | status <;> rw [row, status] <;> rfl

/-- A cacheable outcome gets to the transaction. -/
theorem preparePut (cacheable : request.Cacheable codec settings fetched expiresAt) :
    Storage.preparePut codec settings request =
      .ok (some (request.row codec settings fetched, expiresAt)) := by
  have stored : Storage.preparePut codec settings request =
      prepareEntry codec settings request (request.row codec settings fetched).outcome := by
    unfold Storage.preparePut row
    rcases cacheable.status with status | status <;> rw [status] <;> rfl
  have admitted : ¬ (request.outcome.error.isSome = true ∨
      request.entered.timestampMillis < fetched.timestampMillis) := by
    rw [cacheable.error, not_or, not_lt]
    exact ⟨Bool.false_ne_true, cacheable.past⟩
  rw [stored, prepareEntry, cacheable.fetchedAt]
  dsimp only [Option.map_some]
  rw [if_neg cacheable.lifetime, if_neg admitted, cacheable.added]
  dsimp only
  rw [cacheable.converted]
  dsimp only
  rw [if_neg (not_lt.mpr cacheable.small), ← cacheable.row_expiresAt]
  rfl

end PutRequest.Cacheable

/-- A put of a prepared row that is fresh commits, whatever the table. -/
theorem insertEntry_committed {entry : CacheEntry} (reached : entry.fetchedAt ≤ wall)
    (fresh : now < entry.expiresAt) :
    ∃ rest, insertEntry settings table entry expiresAt wall now =
        .ok (.committed entry (if entry ∈ rest.rows then some expiresAt else none), rest) ∧
      FittingSuffix.IsLongest settings.Fits (fifo (insertedRows settings wall now table entry))
        (fifo rest.rows) := by
  obtain ⟨rest, evicted, order, inside⟩ :=
    evict_ok settings ((deleteExpired settings wall now table).1.upsert entry)
  refine ⟨rest, ?_, ?_⟩
  · have admitted : ¬ (wall < entry.fetchedAt ∨ entry.expiresAt ≤ now) := by omega
    rw [insertEntry, if_neg admitted, evicted]
    dsimp only
    simp only [retained_iff inside]
  · rw [order, fifo_insertedRows]
    exact FittingSuffix.longest_isLongest _ settings.fits_nil _

/-- What a put leaves of a table: at most its own row and rows of before. -/
theorem insertEntry_ok {settings : Settings} {table rest : CacheTable} {entry : CacheEntry}
    {expiresAt : DateTime} {wall now : Int} {write : CacheWrite}
    (inserted : insertEntry settings table entry expiresAt wall now = .ok (write, rest)) :
    (write = .skipped ∧ rest = table) ∨
      ∃ expiry, write = .committed entry expiry ∧ settings.Fits rest.rows ∧
        ∀ row ∈ rest.rows, row = entry ∨
          (row ∈ table.rows ∧ row.primaryKey ≠ entry.primaryKey) := by
  unfold insertEntry at inserted
  split at inserted
  · cases inserted
    exact Or.inl ⟨rfl, rfl⟩
  · split at inserted
    · cases inserted
    · rename_i kept evicting
      cases inserted
      refine Or.inr ⟨_, rfl, evict_fits evicting, ?_⟩
      intro row member
      rcases CacheTable.mem_upsert ((evict_sublist evicting).subset member) with same | ⟨old, other⟩
      · exact Or.inl same
      · exact Or.inr ⟨(deleteExpired_sublist settings wall now table).subset old, other⟩

/-- A put leaves a cache that fits. -/
theorem cachePut_fits {settings : Settings} {table rest : CacheTable} {request : PutRequest}
    {wall now : Int} {write : CacheWrite}
    (put : cachePut codec settings table request wall now = .ok (write, rest))
    (fits : settings.Fits table.rows) : settings.Fits rest.rows := by
  unfold cachePut at put
  split at put
  · cases put
  · cases put
    exact fits
  · rcases insertEntry_ok put with ⟨_, rfl⟩ | ⟨_, _, within, _⟩
    · exact fits
    · exact within

/-! ### The first put of a file -/

/-- A table of one row. -/
def CacheTable.single (row : CacheEntry) : CacheTable where
  rows := [row]
  primaryKey := List.nodup_singleton _

/-- A put into an empty table leaves its own row. -/
theorem PutRequest.Cacheable.first
    (cacheable : request.Cacheable codec settings fetched expiresAt)
    (room : 1 ≤ settings.maxEntries) (reached : fetched.timestampMillis ≤ wall)
    (fresh : now < expiresAt.timestampMillis) :
    cachePut codec settings .empty request wall now =
      .ok (.committed (request.row codec settings fetched) (some expiresAt),
        .single (request.row codec settings fetched)) := by
  have fits : settings.Fits (CacheTable.single (request.row codec settings fetched)).rows :=
    ⟨room, cacheable.small⟩
  have kept : evict settings
      ((deleteExpired settings wall now .empty).1.upsert (request.row codec settings fetched)) =
        .ok (.single (request.row codec settings fetched)) := evict_of_fits fits
  have admitted : ¬ (wall < (request.row codec settings fetched).fetchedAt ∨
      (request.row codec settings fetched).expiresAt ≤ now) := by
    rw [cacheable.row_expiresAt, not_or, not_lt, not_le]
    exact ⟨reached, fresh⟩
  unfold cachePut
  rw [cacheable.preparePut]
  dsimp only
  rw [insertEntry, if_neg admitted, kept]
  simp [CacheTable.single]

/-- The put of a request fetched at the epoch. -/
def PutRequest.firstPut (codec : PayloadCodec) (request : PutRequest) : CommittedPut where
  entry := request.row codec .single .epoch
  outcome := request.outcome
  ttl := Settings.single.ttl request.kind request.outcome.status

/-- A session of the first file after some calls, with none at work, over what they have
made of the database. -/
def World.idle (base : Database) (calls : Nat) (table : CacheTable) : World :=
  .running { base with cacheEntries := table }
    { Session.fresh .single 0 with nextCall := calls }

open Transitions

/-- The session of an idle one that has been asked for one more call. -/
def Session.asked (calls : Nat) (request : Request) : Session :=
  { Session.fresh .single 0 with nextCall := calls + 1, waiting := [(calls, request)] }

/-- A first start. -/
theorem World.idle_opened :
    Step codec (.closed none) [.opened .single .epoch 0] (.idle (.create .epoch) 0 .empty) :=
  first_opened codec

/-- A put at the epoch is asked for in an idle session. -/
theorem World.idle_asked {base : Database} {calls : Nat}
    (prepared : ∃ prepared, preparePut codec .single request = .ok (some prepared)) :
    Step codec (.idle base calls table) [.callStarted calls (.cachePut request)]
      (.running { base with cacheEntries := table }
        (.asked calls (.cachePut request))) :=
  .started (.cachePut request) (fun _ => nofun) prepared

/-- The put takes place. -/
theorem World.asked_put {base : Database} {entry : CacheEntry} {expiry : Option DateTime}
    {calls : Nat}
    (put : cachePut codec .single table request 0 0 = .ok (.committed entry expiry, rest)) :
    Step codec (.running { base with cacheEntries := table }
        (.asked calls (.cachePut request)))
      [.putCommitted {
          entry, outcome := request.outcome,
          ttl := Settings.single.ttl request.kind request.outcome.status },
        .putReturned calls expiry] (.idle base (calls + 1) rest) := by
  have performs : Request.perform codec .single
      { base with cacheEntries := table } (fun _ => none) calls .epoch 0
      (.cachePut request) = some (.ok {
        database := { base with cacheEntries := rest }
        committed := [.putCommitted {
          entry, outcome := request.outcome,
          ttl := Settings.single.ttl request.kind request.outcome.status }]
        returned := [.putReturned calls expiry] }) := by
    unfold Request.perform
    dsimp only
    rw [show Storage.cachePut codec .single table request DateTime.epoch.timestampMillis 0 = _
      from put]
  exact @Step.performed codec { base with cacheEntries := table }
    (.asked calls (.cachePut request)) [] [] _ _ _ .epoch rfl rfl performs

/-- A put at the epoch in an idle session. -/
theorem World.idle_put {base : Database} {entry : CacheEntry} {expiry : Option DateTime}
    {calls : Nat} (prepared : ∃ prepared, preparePut codec .single request = .ok (some prepared))
    (put : cachePut codec .single table request 0 0 = .ok (.committed entry expiry, rest)) :
    Run (Step codec) (.idle base calls table)
      [.callStarted calls (.cachePut request),
        .putCommitted {
          entry, outcome := request.outcome,
          ttl := Settings.single.ttl request.kind request.outcome.status },
        .putReturned calls expiry] (.idle base (calls + 1) rest) :=
  (Run.single (World.idle_asked prepared)).snoc (World.asked_put put)

/-- A read at the epoch is asked for in an idle session. -/
theorem World.idle_ask {base : Database} {calls : Nat} {provider : ProviderId} {key : String}
    {kind : IndicatorKind} :
    Step codec (.idle base calls table) [.callStarted calls (.cacheGet provider key kind)]
      (.running { base with cacheEntries := table }
        (.asked calls (.cacheGet provider key kind))) :=
  .started (.cacheGet provider key kind) (fun _ => nofun) trivial

/-- The read takes place. -/
theorem World.asked_read {base : Database} {calls : Nat} {provider : ProviderId} {key : String}
    {kind : IndicatorKind} {read : CacheRead}
    (reads : cacheGet codec .single table provider key kind 0 0 = .ok (read, rest)) :
    Step codec (.running { base with cacheEntries := table }
        (.asked calls (.cacheGet provider key kind)))
      [.cacheRead calls provider key kind .epoch 0 read] (.idle base (calls + 1) rest) := by
  have performs : Request.perform codec .single
      { base with cacheEntries := table } (fun _ => none) calls .epoch 0
      (.cacheGet provider key kind) = some (.ok {
        database := { base with cacheEntries := rest }
        committed := []
        returned := [.cacheRead calls provider key kind .epoch 0 read] }) := by
    unfold Request.perform
    dsimp only
    rw [show Storage.cacheGet codec .single table provider key kind
      DateTime.epoch.timestampMillis 0 = _ from reads]
  exact @Step.performed codec { base with cacheEntries := table }
    (.asked calls (.cacheGet provider key kind)) [] [] _ _ _ .epoch rfl rfl performs

/-- A session opens a new file and puts a first row. -/
theorem PutRequest.Cacheable.run (cacheable : request.Cacheable codec .single .epoch expiresAt)
    (fresh : 0 < expiresAt.timestampMillis) :
    Run (Step codec) (.closed none)
      [.opened .single .epoch 0, .callStarted 0 (.cachePut request),
        .putCommitted (request.firstPut codec), .putReturned 0 (some expiresAt)]
      (.idle (.create .epoch) 1 (.single (request.row codec .single .epoch))) :=
  Run.cons World.idle_opened (World.idle_put ⟨_, cacheable.preparePut⟩
    (cacheable.first le_rfl le_rfl fresh))

end RustEnrich.Storage
