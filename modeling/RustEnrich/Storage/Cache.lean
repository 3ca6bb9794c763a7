import RustEnrich.Storage.Quota
import RustEnrich.Collections.FittingSuffix
import Mathlib.Data.String.Basic
import Mathlib.Data.Prod.Lex
import Mathlib.Data.List.Sort

/-!
# The evidence cache

The `cache_entries` table and the work a transaction does on it: freshness on
read, bounded deletion of stale rows, insertion, and first-in-first-out
eviction down to the configured capacity.
-/

namespace RustEnrich.Storage

/-- A cache lifetime in milliseconds. `Config::validate` rejects a duration
that cannot be added to a current time. -/
structure Ttl where
  millis : Nat
  representable : (millis : Int) ≤ maxMillis - minMillis

/-- The fields `Storage::open` fixes for one session. -/
structure Settings where
  maxEntries : Nat
  maxBytes : Nat
  ipTtl : Ttl
  urlTtl : Ttl
  hashTtl : Ttl
  notFoundTtl : Ttl
  abuseipdbLimits : QuotaLimits
  virustotalLimits : QuotaLimits

namespace Settings

/-- The limits of a provider. -/
def limits (settings : Settings) : ProviderId → QuotaLimits
  | .abuseipdb => settings.abuseipdbLimits
  | .virustotal => settings.virustotalLimits

/-- How long an outcome of a kind lasts, in milliseconds. -/
def ttl (settings : Settings) (kind : IndicatorKind) (status : Status) : Int :=
  if status = .notFound then
    settings.notFoundTtl.millis
  else
    match kind with
    | .ip => settings.ipTtl.millis
    | .url => settings.urlTtl.millis
    | .hash => settings.hashTtl.millis

/-- A lifetime is not negative. -/
theorem ttl_nonneg (settings : Settings) (kind : IndicatorKind) (status : Status) :
    0 ≤ settings.ttl kind status := by
  unfold ttl
  split
  · exact Int.natCast_nonneg _
  · cases kind <;> exact Int.natCast_nonneg _

end Settings

/-- `serde_json` at the derived implementations of `Outcome`. -/
structure PayloadCodec where
  toVec : Outcome → List UInt8
  fromSlice : List UInt8 → Option Outcome

/-- The outcome survives a write and a read of its payload. -/
def PayloadCodec.RoundTrips (codec : PayloadCodec) (outcome : Outcome) : Prop :=
  codec.fromSlice (codec.toVec outcome) = some outcome

/-- The two texts the `outcome` column admits. -/
inductive StoredOutcome
  | ok
  | notFound
  deriving DecidableEq, Repr

/-- The status of a stored outcome. -/
def StoredOutcome.status : StoredOutcome → Status
  | .ok => .ok
  | .notFound => .notFound

/-- A row of `cache_entries`. -/
structure CacheEntry where
  provider : ProviderId
  cacheKey : String
  payloadVersion : Nat
  kind : IndicatorKind
  outcome : StoredOutcome
  fetchedAt : Int
  expiresAt : Int
  payload : List UInt8
  payloadBytes : Nat
  deriving DecidableEq

namespace CacheEntry

/-- What a row is found by. -/
def primaryKey (entry : CacheEntry) : ProviderId × String := (entry.provider, entry.cacheKey)

/-- `ORDER BY fetched_at, cache_key, provider`. -/
def fifoKey (entry : CacheEntry) : Int ×ₗ String ×ₗ String :=
  toLex (entry.fetchedAt, toLex (entry.cacheKey, entry.provider.asStr))

/-- `ORDER BY expires_at, cache_key, provider`. -/
def expiryKey (entry : CacheEntry) : Int ×ₗ String ×ₗ String :=
  toLex (entry.expiresAt, toLex (entry.cacheKey, entry.provider.asStr))

/-- The `CASE` expression of the deletion statement. -/
def caseTtl (settings : Settings) (entry : CacheEntry) : Int :=
  if entry.outcome = .notFound then settings.notFoundTtl.millis
  else if entry.kind = .ip then settings.ipTtl.millis
  else if entry.kind = .url then settings.urlTtl.millis
  else settings.hashTtl.millis

/-- The `WHERE` clause of the deletion statement. Its operands are timestamps
and lifetimes inside chrono's range, far from the ends of a 64-bit integer. -/
def isStale (settings : Settings) (wall now : Int) (entry : CacheEntry) : Bool :=
  entry.expiresAt ≤ now ∨ wall < entry.fetchedAt ∨
    entry.fetchedAt ≤ now - entry.caseTtl settings

/-- The name tells the provider. -/
theorem asStr_injective : Function.Injective ProviderId.asStr := by
  intro left right equal
  cases left <;> cases right <;> first | rfl | exact absurd equal (by decide)

/-- The key of the eviction order tells the row. -/
theorem primaryKey_eq_of_fifoKey_eq {left right : CacheEntry}
    (equal : left.fifoKey = right.fifoKey) : left.primaryKey = right.primaryKey := by
  simp only [fifoKey, EmbeddingLike.apply_eq_iff_eq, Prod.mk.injEq] at equal
  exact Prod.ext (asStr_injective equal.2.2) equal.2.1

end CacheEntry

/-- The table, with its primary key constraint. -/
structure CacheTable where
  rows : List CacheEntry
  primaryKey : (rows.map CacheEntry.primaryKey).Nodup

namespace CacheTable

/-- A table without rows. -/
def empty : CacheTable where
  rows := []
  primaryKey := List.nodup_nil

/-- Delete exactly the chosen rows. -/
def delete (table : CacheTable) (chosen : List CacheEntry) : CacheTable where
  rows := table.rows.diff chosen
  primaryKey := table.primaryKey.sublist ((List.diff_sublist _ _).map _)

/-- The row of a key is deleted. -/
def deleteKey (table : CacheTable) (provider : ProviderId) (key : String) : CacheTable where
  rows := table.rows.filter (fun entry => entry.primaryKey ≠ (provider, key))
  primaryKey := table.primaryKey.sublist (List.filter_sublist.map _)

/-- `INSERT .. ON CONFLICT (provider, cache_key) DO UPDATE`. -/
def upsertRows (entry : CacheEntry) (rows : List CacheEntry) : List CacheEntry :=
  if entry.primaryKey ∈ rows.map CacheEntry.primaryKey then
    rows.map (fun row => if row.primaryKey = entry.primaryKey then entry else row)
  else
    rows ++ [entry]

/-- A row that is put keeps the keys apart. -/
theorem upsertRows_primaryKey (entry : CacheEntry) {rows : List CacheEntry}
    (unique : (rows.map CacheEntry.primaryKey).Nodup) :
    ((upsertRows entry rows).map CacheEntry.primaryKey).Nodup := by
  unfold upsertRows
  split
  · have same : (rows.map (fun row => if row.primaryKey = entry.primaryKey then entry else row)).map
        CacheEntry.primaryKey = rows.map CacheEntry.primaryKey := by
      rw [List.map_map]
      apply List.map_congr_left
      intro row _
      by_cases replaced : row.primaryKey = entry.primaryKey
      · simp only [Function.comp_apply, replaced, ↓reduceIte]
      · simp only [Function.comp_apply, replaced, ↓reduceIte]
    rwa [same]
  · rename_i absent
    rw [List.map_append, List.map_cons, List.map_nil]
    exact unique.append (List.nodup_singleton _)
      (List.disjoint_singleton.mpr absent)

/-- A row is put in the place of the one of its key. -/
def upsert (table : CacheTable) (entry : CacheEntry) : CacheTable where
  rows := upsertRows entry table.rows
  primaryKey := upsertRows_primaryKey entry table.primaryKey

/-- After a put there is the row, and what has another key. -/
theorem mem_upsert {table : CacheTable} {entry row : CacheEntry}
    (member : row ∈ (table.upsert entry).rows) :
    row = entry ∨ (row ∈ table.rows ∧ row.primaryKey ≠ entry.primaryKey) := by
  change row ∈ upsertRows entry table.rows at member
  unfold upsertRows at member
  split at member
  · obtain ⟨old, inside, rfl⟩ := List.mem_map.mp member
    by_cases replaced : old.primaryKey = entry.primaryKey
    · left
      rw [if_pos replaced]
    · right
      rw [if_neg replaced]
      exact ⟨inside, replaced⟩
  · rename_i absent
    rcases List.mem_append.mp member with kept | added
    · refine Or.inr ⟨kept, ?_⟩
      intro same
      exact absent (same ▸ List.mem_map_of_mem kept)
    · exact Or.inl (List.mem_singleton.mp added)

/-- After a deletion there is what has another key. -/
theorem mem_deleteKey {table : CacheTable} {provider : ProviderId} {key : String}
    {row : CacheEntry} :
    row ∈ (table.deleteKey provider key).rows ↔
      row ∈ table.rows ∧ row.primaryKey ≠ (provider, key) := by
  simp only [deleteKey, List.mem_filter, decide_eq_true_eq]

end CacheTable

/-- How many rows are deleted at once. -/
def cleanupChunk : Nat := 500

/-- `delete_expired`, with the number of rows affected. -/
def deleteExpired (settings : Settings) (wall now : Int) (table : CacheTable) :
    CacheTable × Nat :=
  let chosen := ((table.rows.filter (CacheEntry.isStale settings wall now)).insertionSort
    (fun left right => left.expiryKey ≤ right.expiryKey)).take cleanupChunk
  (table.delete chosen, chosen.length)

/-- The loop `while delete_expired(..) == CLEANUP_CHUNK {}` of `initialize`. -/
def deleteAllExpired (settings : Settings) (wall now : Int) : Nat → CacheTable → CacheTable
  | 0, table => table
  | fuel + 1, table =>
      let (rest, affected) := deleteExpired settings wall now table
      if affected = cleanupChunk then deleteAllExpired settings wall now fuel rest else rest

/-- The rows in the order they are evicted in. -/
def fifo (rows : List CacheEntry) : List CacheEntry :=
  rows.insertionSort (fun left right => left.fifoKey ≤ right.fifoKey)

/-- The bytes of all payloads. -/
def totalBytes (rows : List CacheEntry) : Nat := (rows.map CacheEntry.payloadBytes).sum

/-- The running variables of `evict` after the scan of one chunk. -/
structure EvictScan where
  entries : Int
  bytes : Int
  count : Nat

/-- Rows are counted off until what is left fits. -/
def evictScan (settings : Settings) : List CacheEntry → Int → Int → EvictScan
  | [], entries, bytes => { entries, bytes, count := 0 }
  | row :: rows, entries, bytes =>
      if entries ≤ settings.maxEntries ∧ bytes ≤ settings.maxBytes then
        { entries, bytes, count := 0 }
      else
        let scan := evictScan settings rows (entries - 1) (bytes - row.payloadBytes)
        { scan with count := scan.count + 1 }

/-- The `while` loop of `evict`. -/
def evictLoop (settings : Settings) :
    Nat → CacheTable → Int → Int → Except StorageError CacheTable
  | 0, _, _, _ => .error .unavailable
  | fuel + 1, table, entries, bytes =>
      if settings.maxEntries < entries ∨ settings.maxBytes < bytes then
        let scan := evictScan settings ((fifo table.rows).take cleanupChunk) entries bytes
        if scan.count = 0 then
          .error .invalidData
        else
          evictLoop settings fuel (table.delete ((fifo table.rows).take scan.count))
            scan.entries scan.bytes
      else
        .ok table

/-- Rows are evicted until what is left fits. -/
def evict (settings : Settings) (table : CacheTable) : Except StorageError CacheTable :=
  evictLoop settings (table.rows.length + 1) table table.rows.length (totalBytes table.rows)

/-- What `cache_get` finds. The source reports every case but a hit as
`None`. -/
inductive CacheRead
  | hit (outcome : Outcome) (expiresAt : DateTime)
  | absent
  | disabled
  | expired
  | future

/-- The body of `cache_get`, once it holds the connection. -/
def cacheGet (codec : PayloadCodec) (settings : Settings) (table : CacheTable)
    (provider : ProviderId) (key : String) (kind : IndicatorKind) (wall now : Int) :
    Except StorageError (CacheRead × CacheTable) :=
  match table.rows.find? (fun entry =>
    entry.provider = provider ∧ entry.cacheKey = key ∧ entry.kind = kind) with
  | none => .ok (.absent, table)
  | some row =>
      let status := row.outcome.status
      let ttl := settings.ttl kind status
      if ttl = 0 then
        .ok (.disabled, table)
      else
        match checkedAdd row.fetchedAt ttl with
        | none => .error .invalidData
        | some renewed =>
            let effectiveExpiry := min row.expiresAt renewed
            if effectiveExpiry ≤ now then
              -- Persist observed expiry, so that a rollback cannot resurrect the row.
              .ok (.expired, table.deleteKey provider key)
            else if wall < row.fetchedAt then
              .ok (.future, table)
            else
              match codec.fromSlice row.payload with
              | none => .error .invalidData
              | some outcome =>
                  if outcome.status ≠ status ∨
                      outcome.fetchedAt.map DateTime.timestampMillis ≠ some row.fetchedAt ∨
                      outcome.error.isSome then
                    .error .invalidData
                  else
                    match DateTime.fromTimestampMillis effectiveExpiry with
                    | none => .error .invalidData
                    | some expiresAt => .ok (.hit outcome expiresAt, table)

/-- The arguments of a `cache_put` call, with the clock reading it takes before
it queues for the gate. -/
structure PutRequest where
  provider : ProviderId
  key : String
  version : Nat
  kind : IndicatorKind
  outcome : Outcome
  entered : DateTime

/-- The row of an outcome of a status the cache stores. -/
def prepareEntry (codec : PayloadCodec) (settings : Settings) (request : PutRequest)
    (stored : StoredOutcome) : Except StorageError (Option (CacheEntry × DateTime)) :=
  let outcome := request.outcome
  let ttl := settings.ttl request.kind outcome.status
  if ttl = 0 then
    .ok none
  else
    match outcome.fetchedAt.map DateTime.timestampMillis with
    | none => .error .invalidData
    | some fetched =>
        if outcome.error.isSome ∨ request.entered.timestampMillis < fetched then
          .ok none
        else
          match checkedAdd fetched ttl with
          | none => .error .invalidData
          | some expires =>
              match DateTime.fromTimestampMillis expires with
              | none => .error .invalidData
              | some expiresAt =>
                  let payload := codec.toVec outcome
                  if settings.maxBytes < payload.length then
                    .ok none
                  else
                    .ok (some ({
                      provider := request.provider
                      cacheKey := request.key
                      payloadVersion := request.version
                      kind := request.kind
                      outcome := stored
                      fetchedAt := fetched
                      expiresAt := expires
                      payload := payload
                      payloadBytes := payload.length }, expiresAt))

/-- The part of `cache_put` before its transaction: the row to insert and its
expiry, or nothing where the outcome is not to be stored. -/
def preparePut (codec : PayloadCodec) (settings : Settings) (request : PutRequest) :
    Except StorageError (Option (CacheEntry × DateTime)) :=
  match request.outcome.status with
  | .ok => prepareEntry codec settings request .ok
  | .notFound => prepareEntry codec settings request .notFound
  | _ => .ok none

/-- What the transaction of `cache_put` did. -/
inductive CacheWrite
  | skipped
  | committed (entry : CacheEntry) (expiry : Option DateTime)

/-- The transaction of `cache_put` on a prepared row. -/
def insertEntry (settings : Settings) (table : CacheTable) (entry : CacheEntry)
    (expiresAt : DateTime) (wall now : Int) : Except StorageError (CacheWrite × CacheTable) :=
  if wall < entry.fetchedAt ∨ entry.expiresAt ≤ now then
    .ok (.skipped, table)
  else
    match evict settings ((deleteExpired settings wall now table).1.upsert entry) with
    | .error error => .error error
    | .ok rest =>
        let retained := (rest.rows.filter (fun row => row.primaryKey = entry.primaryKey)).length
        .ok (.committed entry (if retained = 1 then some expiresAt else none), rest)

/-- The body of `cache_put`, once it holds the connection. -/
def cachePut (codec : PayloadCodec) (settings : Settings) (table : CacheTable)
    (request : PutRequest) (wall now : Int) : Except StorageError (CacheWrite × CacheTable) :=
  match preparePut codec settings request with
  | .error error => .error error
  | .ok none => .ok (.skipped, table)
  | .ok (some (entry, expiresAt)) => insertEntry settings table entry expiresAt wall now

end RustEnrich.Storage
