import RustEnrich.Storage.CachePuts

/-!
# Cache capacity

Every committed table of an open storage fits its limits, and opening a file
keeps of the fresh rows what fits the limits of the new session.
-/

namespace RustEnrich.Storage

open Transitions

variable {codec : PayloadCodec} {before after world : World} {trace emitted : List Event}
  {file : Option Database}

/-- A read deletes a row exactly where it observes its expiry. -/
theorem cacheGet_ok {settings : Settings} {table rest : CacheTable} {provider : ProviderId}
    {key : String} {kind : IndicatorKind} {wall now : Int} {read : CacheRead}
    (got : cacheGet codec settings table provider key kind wall now = .ok (read, rest)) :
    (read = .expired ∧ rest = table.deleteKey provider key) ∨
      (read ≠ .expired ∧ rest = table) := by
  unfold cacheGet at got
  dsimp only at got
  split at got
  · cases got
    exact Or.inr ⟨nofun, rfl⟩
  split at got
  · cases got
    exact Or.inr ⟨nofun, rfl⟩
  split at got
  · cases got
  split at got
  · cases got
    exact Or.inl ⟨rfl, rfl⟩
  split at got
  · cases got
    exact Or.inr ⟨nofun, rfl⟩
  split at got
  · cases got
  split at got
  · cases got
  split at got
  · cases got
  · cases got
    exact Or.inr ⟨nofun, rfl⟩

/-- A read adds no row. -/
theorem cacheGet_sublist {settings : Settings} {table rest : CacheTable} {provider : ProviderId}
    {key : String} {kind : IndicatorKind} {wall now : Int} {read : CacheRead}
    (got : cacheGet codec settings table provider key kind wall now = .ok (read, rest)) :
    rest.rows.Sublist table.rows := by
  rcases cacheGet_ok got with ⟨_, rfl⟩ | ⟨_, rfl⟩
  · exact List.filter_sublist
  · exact List.Sublist.refl _

/-- Calls in one go leave a cache that fits. -/
theorem Request.perform_fits {settings : Settings} {database : Database}
    {pending : QuotaGroup → Option PendingFeedback} {call : CallId} {wall : DateTime} {now : Int}
    {request : Request} {done : Performed}
    (performs : request.perform codec settings database pending call wall now =
      some (.ok done)) (fits : settings.Fits database.cacheEntries.rows) :
    settings.Fits done.database.cacheEntries.rows := by
  cases Request.performs performs with
  | advised advises => exact fits
  | read reads => exact fits.sublist (cacheGet_sublist reads)
  | skipped skips => exact cachePut_fits skips fits
  | stored stores => exact cachePut_fits stores fits
  | cleaned => exact fits.sublist (deleteExpired_sublist _ _ _ _)
  | checked => exact fits

/-- The open table is within the limits of its session. -/
def World.CacheFits : World → Prop
  | .closed _ => True
  | .running database session => session.settings.Fits database.cacheEntries.rows

/-- Every step leaves a cache that fits. -/
theorem Step.cacheFits (taken : Step codec before emitted after) (fits : before.CacheFits) :
    after.CacheFits := by
  cases taken with
  | migrated now => trivial
  | openTimedOut reconciled => trivial
  | closed => trivial
  | opened reconciled => exact (reconcile_cache reconciled).1
  | performed wall free queued performs => exact Request.perform_fits performs fits
  | unreported wall free queued performs => exact Request.perform_fits performs fits
  | reserveCommitted held reserves =>
      rw [World.CacheFits, reserveTransaction_cacheEntries reserves]
      exact fits
  | feedbackCommitted held applies =>
      rw [World.CacheFits, feedbackTransaction_cacheEntries applies]
      exact fits
  | _ => exact fits

/-- The rows of a file, which has none before its first start. -/
def storedRows : Option Database → List CacheEntry
  | none => []
  | some database => database.cacheEntries.rows

/-- **Cache capacity.** Every committed table of an open storage is within both
limits, and opening a file keeps the longest suffix, oldest rows first, that
fits them among the rows a read would accept. -/
theorem cache_capacity (run : Run (Step codec) (.closed file) trace world) :
    (∀ {database : Database} {session : Session}, world = .running database session →
      database.cacheEntries.rows.length ≤ session.settings.maxEntries ∧
        totalBytes database.cacheEntries.rows ≤ session.settings.maxBytes) ∧
    (∀ {left : Option Database} {settings : Settings} {opening : DateTime} {effective : Int}
        {next : World}, world = .closed left →
      Step codec world [.opened settings opening effective] next →
      ∃ database session, next = .running database session ∧ session.settings = settings ∧
        FittingSuffix.IsLongest settings.Fits
          (fifo ((storedRows left).filter
            (CacheEntry.isFresh settings opening.timestampMillis effective)))
          (fifo database.cacheEntries.rows)) := by
  constructor
  · intro database session running
    have fits := run.stateInvariant World.CacheFits trivial fun _ _ _ fits taken =>
      taken.cacheFits fits
    rw [running] at fits
    exact fits
  · intro left settings opening effective next same taken
    rw [same] at taken
    cases taken with
    | @opened _ _ created _ _ _ reconciled =>
        obtain ⟨_, _, order⟩ := reconcile_cache reconciled
        refine ⟨_, _, rfl, rfl, ?_⟩
        rw [order]
        have rows : (initializeSchema created left).cacheEntries.rows = storedRows left := by
          cases left <;> rfl
        rw [rows]
        exact FittingSuffix.longest_isLongest _ settings.fits_nil _

/-! ### An absence that takes the place of an older one -/

/-- The JSON text of an absence. -/
def absenceText (fetchedAt : String) : String :=
  "\x7b\"status\":\"not_found\",\"summary\":null,\"fetched_at\":\"" ++ fetchedAt ++
    "\",\"provider_updated_at\":null,\"error\":null,\"raw\":null\x7d"

/-- The bytes of an absence. -/
def absencePayload (fetchedAt : String) : List UInt8 :=
  (absenceText fetchedAt).toList.map (fun char => UInt8.ofNat char.toNat)

/-- A millisecond before the epoch. -/
def justBefore : DateTime := ⟨-1000000, by decide, by decide⟩

/-- A millisecond before an hour has passed. -/
def justBeforeHour : DateTime := ⟨3599999000000, by decide, by decide⟩

/-- The codec as it behaves on absences at the epoch and just before it. -/
def absenceCodec : PayloadCodec where
  toVec outcome :=
    absencePayload (if outcome.fetchedAt = some .epoch then "1970-01-01T00:00:00Z"
      else "1969-12-31T23:59:59.999Z")
  fromSlice bytes :=
    if bytes = absencePayload "1970-01-01T00:00:00Z" then some (.notFound .epoch)
    else if bytes = absencePayload "1969-12-31T23:59:59.999Z" then some (.notFound justBefore)
    else none

/-- A put of an absence. -/
def absencePut : PutRequest where
  provider := .abuseipdb
  key := "203.0.113.7"
  version := 1
  kind := .ip
  outcome := .notFound .epoch
  entered := .epoch

/-- An absence of another address, a millisecond older. -/
def olderPut : PutRequest :=
  { absencePut with key := "198.51.100.4", outcome := .notFound justBefore }

/-- It is cached. -/
theorem absence_cacheable (small : (codec.toVec (.notFound .epoch)).length ≤ 4096) :
    absencePut.Cacheable codec .single .epoch hourAfter where
  status := Or.inr rfl
  lifetime := by decide
  fetchedAt := rfl
  error := rfl
  past := le_rfl
  expiresAt := rfl
  small := small

/-- The older one is cached too. -/
theorem older_cacheable : olderPut.Cacheable absenceCodec .single justBefore justBeforeHour where
  status := Or.inr rfl
  lifetime := by decide
  fetchedAt := rfl
  error := rfl
  past := by decide
  expiresAt := rfl
  small := by decide +kernel

/-- Its payload fits. -/
theorem absence_small : (absenceCodec.toVec (.notFound .epoch)).length ≤ 4096 := by
  decide +kernel

/-- The rows of the two absences. -/
def absenceRow (codec : PayloadCodec) : CacheEntry := absencePut.row codec .single .epoch

/-- The row of the older one. -/
def olderRow (codec : PayloadCodec) : CacheEntry := olderPut.row codec .single justBefore

/-- The older one is evicted first. -/
theorem fifo_absences :
    fifo (insertedRows .single 0 0 (.single (olderRow codec)) (absenceRow codec)) =
      [olderRow codec, absenceRow codec] := by
  have rows : insertedRows .single 0 0 (.single (olderRow codec)) (absenceRow codec) =
      [absenceRow codec, olderRow codec] := rfl
  rw [rows]
  apply fifo_eq_of_perm
  · change [absencePut.key, "198.51.100.4"].map (Prod.mk absencePut.provider) |>.Nodup
    decide
  · exact List.Perm.swap _ _ _
  · apply List.pairwise_pair.mpr
    apply Prod.Lex.toLex_le_toLex.mpr
    exact Or.inl (by decide : (-1 : Int) < 0)

/-- A table of one row is that row. -/
theorem CacheTable.eq_single {table : CacheTable} {row : CacheEntry} (member : row ∈ table.rows)
    (one : table.rows.length ≤ 1) : table = .single row := by
  obtain ⟨only, alone⟩ :=
    List.length_eq_one_iff.mp (le_antisymm one (List.length_pos_of_mem member))
  rw [alone, List.mem_singleton] at member
  obtain ⟨rows, primaryKey⟩ := table
  cases alone
  rw [member]
  rfl

/-- In a table for one row, the younger absence takes the place of the older
one. -/
theorem absence_evicts (small : (codec.toVec (.notFound .epoch)).length ≤ 4096) :
    cachePut codec .single (.single (olderRow codec)) absencePut 0 0 =
      .ok (.committed (absenceRow codec) (some hourAfter), .single (absenceRow codec)) := by
  obtain ⟨rest, inserted, longest⟩ := @insertEntry_committed .single (.single (olderRow codec))
    hourAfter 0 0 (absenceRow codec) le_rfl (by change (0 : Int) < 3600000; decide)
  have fits : Settings.single.Fits [absenceRow codec] := ⟨Nat.le_refl 1, small⟩
  have newest := longest.greatest [absenceRow codec] (fifo_absences ▸ List.suffix_cons _ _) fits
  have member : absenceRow codec ∈ rest.rows :=
    (fifo_perm rest.rows).subset (newest.subset (List.mem_singleton.mpr rfl))
  have alone : rest = .single (absenceRow codec) :=
    CacheTable.eq_single member ((fifo_perm rest.rows).length_eq ▸ longest.fitting.1)
  rw [if_pos member, alone] at inserted
  unfold cachePut
  rw [(absence_cacheable small).preparePut]
  exact inserted

/-- A new file is opened, and the two absences are put one after the other. -/
def absencesTrace : List Event :=
  [.opened .single .epoch 0, .callStarted 0 (.cachePut olderPut),
    .putCommitted {
      entry := olderRow absenceCodec, outcome := .notFound justBefore, ttl := 3600000 },
    .putReturned 0 (some justBeforeHour), .callStarted 1 (.cachePut absencePut),
    .putCommitted {
      entry := absenceRow absenceCodec, outcome := .notFound .epoch, ttl := 3600000 },
    .putReturned 1 (some hourAfter)]

/-- The two puts are a run. -/
theorem absences_run :
    Run (Step absenceCodec) (.closed none) absencesTrace
      (.idle (.create .epoch) 2 (.single (absenceRow absenceCodec))) :=
  Run.cons World.idle_opened ((World.idle_put ⟨_, older_cacheable.preparePut⟩
    (older_cacheable.first le_rfl (by decide) (by decide))).append
      (World.idle_put ⟨_, (absence_cacheable absence_small).preparePut⟩
        (absence_evicts absence_small)))

/-- The file is opened again with its row. -/
theorem absence_reopened (small : (codec.toVec (.notFound .epoch)).length ≤ 4096) :
    Step codec
      (.closed (some { Database.create .epoch with cacheEntries := .single (absenceRow codec) }))
      [.opened .single .epoch 0] (.idle (.create .epoch) 0 (.single (absenceRow codec))) := by
  have fits : Settings.single.Fits (CacheTable.single (absenceRow codec)).rows :=
    ⟨Nat.le_refl 1, small⟩
  have whole : evict .single (deleteAllExpired .single DateTime.epoch.timestampMillis
      (max (Database.create .epoch).clockHighWater DateTime.epoch.timestampMillis)
      ((CacheTable.single (absenceRow codec)).rows.length + 1) (.single (absenceRow codec))) =
        .ok (.single (absenceRow codec)) := evict_of_fits fits
  have kept : reconcile .single .epoch { Database.create .epoch with
      cacheEntries := .single (absenceRow codec) } = .ok ({ Database.create .epoch with
        cacheEntries := .single (absenceRow codec) }, 0) := by
    have ranged : ¬ (DateTime.fromTimestampMillis (Database.create .epoch).clockHighWater).isNone =
        true := by decide
    have readable : ¬ (((Database.create .epoch).quotaState .abuseipdbCheck).isReadable = false ∨
        ((Database.create .epoch).quotaState .virustotal).isReadable = false) := by decide
    refine (if_neg ranged).trans ((if_neg readable).trans ?_)
    dsimp only
    rw [whole]
    rfl
  exact @Step.opened codec (some _) .single .epoch .epoch _ _ kept

/-- The second absence takes the place of the first. -/
theorem cache_capacity_evicted :
    [absenceRow absenceCodec].length ≤ 1 ∧ totalBytes [absenceRow absenceCodec] ≤ 4096 ∧
      FittingSuffix.IsLongest Settings.single.Fits
        (fifo ([absenceRow absenceCodec].filter (CacheEntry.isFresh .single 0 0)))
        (fifo [absenceRow absenceCodec]) := by
  obtain ⟨entries, bytes⟩ := (cache_capacity absences_run).1 rfl
  obtain ⟨database, session, same, _, kept⟩ :=
    (cache_capacity (absences_run.snoc .closed)).2 rfl (absence_reopened absence_small)
  cases same
  exact ⟨entries, bytes, kept⟩

end RustEnrich.Storage
