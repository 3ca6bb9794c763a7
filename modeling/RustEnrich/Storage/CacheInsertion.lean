import RustEnrich.Storage.CachePayloads

/-!
# Insertion into the cache

A put of a cacheable outcome is an exact insertion, for every table. The caller
is told an expiry exactly where its own row is not among the evicted ones; what a
read then returns is the outcome, where the raw value leaves a level in the
payload and is read back from a text of its own.
-/

namespace RustEnrich.Storage

open Serialization Transitions

variable {settings : Settings} {table : CacheTable} {request : PutRequest}
  {fetched expiresAt : DateTime} {wall now : Int} {serializer : Serializer}
  {deserializer : Deserializer}

/-- A row that is itself evicted when it is inserted: what is left of the table and
the row does not have it. -/
def EvictedAtOnce (settings : Settings) (wall now : Int) (table : CacheTable)
    (entry : CacheEntry) : Prop :=
  entry ∉ FittingSuffix.longest settings.Fits (fifo (insertedRows settings wall now table entry))

/-- A row is evicted at once exactly where the table that is left is without it. -/
theorem evictedAtOnce_iff {entry : CacheEntry} {rest : CacheTable}
    (longest : FittingSuffix.IsLongest settings.Fits
      (fifo (insertedRows settings wall now table entry)) (fifo rest.rows)) :
    EvictedAtOnce settings wall now table entry ↔ entry ∉ rest.rows := by
  unfold EvictedAtOnce
  rw [← longest.eq_longest settings.Fits settings.fits_nil]
  exact (fifo_perm rest.rows).mem_iff.not

/-- A row that is left is read back, with its expiry, exactly where its payload is
read as the outcome. -/
theorem PutRequest.Cacheable.cacheGet_iff {codec : PayloadCodec} {rest : CacheTable}
    (cacheable : request.Cacheable codec settings fetched expiresAt)
    (reached : fetched.timestampMillis ≤ wall) (fresh : now < expiresAt.timestampMillis)
    (member : request.row codec settings fetched ∈ rest.rows) :
    Storage.cacheGet codec settings rest request.provider request.key request.kind wall now =
        .ok (.hit request.outcome expiresAt, rest) ↔ codec.RoundTrips request.outcome := by
  constructor
  · intro got
    obtain ⟨row, inside, primary, _, decoding, _⟩ := cacheGet_hit got
    have same : row = request.row codec settings fetched :=
      List.inj_on_of_nodup_map rest.primaryKey inside member primary
    rw [same] at decoding
    exact decoding
  · intro survives
    exact cacheable.cacheGet survives rfl cacheable.error cacheable.fetchedAt reached fresh member

/-- **A put is an exact bounded insertion.** For every table, a put of a fresh
outcome commits: its eviction ends, and never finds its totals wrong. The rows
that are left are, oldest first, the longest suffix within both limits of the
table without its first stale rows and with the new row. The caller is told the
expiry if and only if the new row is left. That a caller who is told it gets the
outcome with that expiry by a read at the same clock holds exactly where the row
is evicted at once, or the raw value has at most 126 levels and is read back by
itself. -/
theorem cachePut_exact_iff (timestamps : TimestampsRoundTrip serializer deserializer)
    (reads : ReadsPrinted serializer deserializer)
    (cacheable :
      request.Cacheable (payloadCodec serializer deserializer) settings fetched expiresAt)
    (reached : fetched.timestampMillis ≤ wall) (fresh : now < expiresAt.timestampMillis) :
    ∃ entry expiry rest,
      entry = request.row (payloadCodec serializer deserializer) settings fetched ∧
      cachePut (payloadCodec serializer deserializer) settings table request wall now =
        .ok (.committed entry expiry, rest) ∧
      FittingSuffix.IsLongest settings.Fits (fifo (insertedRows settings wall now table entry))
        (fifo rest.rows) ∧
      (expiry = some expiresAt ↔ entry ∈ rest.rows) ∧ (expiry = none ↔ entry ∉ rest.rows) ∧
      ((expiry = some expiresAt →
          cacheGet (payloadCodec serializer deserializer) settings rest request.provider
            request.key request.kind wall now = .ok (.hit request.outcome expiresAt, rest)) ↔
        EvictedAtOnce settings wall now table entry ∨
          request.outcome.rawLevels < maxLevels ∧
            RawRereads serializer deserializer request.outcome) := by
  have live : now < (request.row (payloadCodec serializer deserializer) settings
      fetched).expiresAt := by
    rw [cacheable.row_expiresAt]
    exact fresh
  obtain ⟨rest, inserted, longest⟩ := @insertEntry_committed settings table expiresAt wall now
    (request.row (payloadCodec serializer deserializer) settings fetched) reached live
  refine ⟨_, if request.row (payloadCodec serializer deserializer) settings fetched ∈ rest.rows
    then some expiresAt else none, rest, rfl, ?_, longest, ?_, ?_, ?_⟩
  · unfold cachePut
    rw [cacheable.preparePut]
    exact inserted
  · simp
  · simp
  · rw [evictedAtOnce_iff longest, ← payload_roundTrips_iff timestamps reads cacheable.error]
    by_cases member : request.row (payloadCodec serializer deserializer) settings fetched ∈
      rest.rows
    · rw [if_pos member, or_iff_right (not_not_intro member)]
      exact (forall_prop_of_true rfl).trans (cacheable.cacheGet_iff reached fresh member)
    · rw [if_neg member]
      exact iff_of_true nofun (Or.inl member)

/-! ### Beside an older row -/

/-- A row of an older absence of another address. -/
def agedRow : CacheEntry :=
  { absenceRow absenceCodec with
    cacheKey := "198.51.100.4", fetchedAt := -1, expiresAt := 3599999 }

/-- The aged row is evicted first. -/
theorem fifo_agedRow {row : CacheEntry} (key : row.primaryKey = (.abuseipdb, "203.0.113.7"))
    (fetched : row.fetchedAt = 0) :
    fifo (insertedRows .single 0 0 (.single agedRow) row) = [agedRow, row] := by
  have other : agedRow.primaryKey ≠ row.primaryKey := by
    rw [key]
    decide
  have rows : insertedRows .single 0 0 (.single agedRow) row = [row, agedRow] := by
    have fresh : staleRows .single 0 0 (.single agedRow) = [] := rfl
    unfold insertedRows
    rw [fresh]
    simp [CacheTable.single, other]
  rw [rows]
  apply fifo_eq_of_perm
  · change [row.primaryKey, agedRow.primaryKey].Nodup
    exact List.nodup_cons.mpr ⟨fun same => other (List.mem_singleton.mp same).symm,
      List.nodup_singleton _⟩
  · exact List.Perm.swap _ _ _
  · apply List.pairwise_pair.mpr
    apply Prod.Lex.toLex_le_toLex.mpr
    left
    rw [fetched]
    exact (by decide : (-1 : Int) < 0)

/-- The put of a report takes the place of an older row, and its expiry is told. -/
theorem deep_told {depth : Nat}
    (cacheable : (deepPut depth).Cacheable printedCodec .single .epoch hourAfter)
    {rest : CacheTable}
    (longest : FittingSuffix.IsLongest Settings.single.Fits
      (fifo (insertedRows .single 0 0 (.single agedRow)
        ((deepPut depth).row printedCodec .single .epoch))) (fifo rest.rows)) :
    (deepPut depth).row printedCodec .single .epoch ∈ rest.rows ∧ rest.rows.length ≤ 1 := by
  have fits : Settings.single.Fits [(deepPut depth).row printedCodec .single .epoch] :=
    ⟨Nat.le_refl 1, cacheable.small⟩
  have ordered := @fifo_agedRow ((deepPut depth).row printedCodec .single .epoch) rfl rfl
  have newest := longest.greatest [_] (ordered ▸ List.suffix_cons _ _) fits
  exact ⟨(fifo_perm rest.rows).subset (newest.subset (List.mem_singleton.mpr rfl)),
    (fifo_perm rest.rows).length_eq ▸ longest.fitting.1⟩

/-- A report as deep as can be read takes the place of an aged row, and is read back.
-/
theorem cachePut_exact_iff_deep :
    ∃ rest, cachePut printedCodec .single (.single agedRow) (deepPut 123) 0 0 =
        .ok (.committed ((deepPut 123).row printedCodec .single .epoch) (some hourAfter), rest) ∧
      rest.rows.length ≤ 1 ∧
      cacheGet printedCodec .single rest .abuseipdb "203.0.113.7" .ip 0 0 =
        .ok (.hit (deepOutcome 123) hourAfter, rest) := by
  have cacheable := @deep_cacheable 123 (by decide +kernel)
  obtain ⟨entry, expiry, rest, rfl, put, longest, told, _, read⟩ :=
    @cachePut_exact_iff .single (.single agedRow) (deepPut 123) .epoch hourAfter 0 0 _ _
      instants_roundTrip printed_reads cacheable le_rfl (by decide)
  obtain ⟨member, one⟩ := deep_told cacheable longest
  have reported := told.mpr member
  refine ⟨rest, ?_, one, read.mpr (Or.inr ⟨?_, ?_⟩) reported⟩
  · rw [put, reported]
  · rw [show (deepPut 123).outcome.rawLevels = 126 from deepReport_levels 123]
    decide
  · exact deep_rereads (by decide)

/-- A put of a report with as many levels as can be read is told its expiry, and
its row is not read back. -/
theorem cachePut_unread :
    ∃ rest, cachePut printedCodec .single (.single agedRow) (deepPut 124) 0 0 =
        .ok (.committed ((deepPut 124).row printedCodec .single .epoch) (some hourAfter), rest) ∧
      cacheGet printedCodec .single rest .abuseipdb "203.0.113.7" .ip 0 0 =
        .error .invalidData := by
  have cacheable := @deep_cacheable 124 (by decide +kernel)
  obtain ⟨rest, inserted, longest⟩ := @insertEntry_committed .single (.single agedRow) hourAfter 0 0
    ((deepPut 124).row printedCodec .single .epoch) le_rfl (by decide : (0 : Int) < 3600000)
  obtain ⟨member, one⟩ := deep_told cacheable longest
  rw [if_pos member] at inserted
  refine ⟨rest, ?_, ?_⟩
  · unfold cachePut
    rw [cacheable.preparePut]
    exact inserted
  · exact @cacheGet_unread printedCodec _ ((deepPut 124).row printedCodec .single .epoch) member
      deep_unread (by decide : minMillis ≤ 0) (by decide : 0 ≤ maxMillis)
      (by decide : (0 : Int) < 3600000)

end RustEnrich.Storage
