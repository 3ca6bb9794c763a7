import RustEnrich.Storage.Reservations
import Mathlib.Algebra.Order.BigOperators.Group.List

/-!
# Deletion and eviction

The chunked loops of the cache reach their fixed points: deletion leaves
exactly the rows a read would accept, and eviction leaves the longest suffix in
first-in-first-out order that fits both limits.
-/

namespace RustEnrich.Storage

/-- The rows fit the entry limit and the byte limit. -/
def Settings.Fits (settings : Settings) (rows : List CacheEntry) : Prop :=
  rows.length ≤ settings.maxEntries ∧ totalBytes rows ≤ settings.maxBytes

instance (settings : Settings) : DecidablePred settings.Fits :=
  fun _ => inferInstanceAs (Decidable (_ ∧ _))

/-- No rows fit. -/
theorem Settings.fits_nil (settings : Settings) : settings.Fits [] :=
  ⟨Nat.zero_le _, Nat.zero_le _⟩

/-- Fewer rows have no more bytes. -/
theorem totalBytes_sublist {rows kept : List CacheEntry} (inside : kept.Sublist rows) :
    totalBytes kept ≤ totalBytes rows :=
  (inside.map _).sum_le_sum fun _ _ => Nat.zero_le _

/-- Fewer rows fit too. -/
theorem Settings.Fits.sublist {settings : Settings} {rows kept : List CacheEntry}
    (fits : settings.Fits rows) (inside : kept.Sublist rows) : settings.Fits kept :=
  ⟨inside.length_le.trans fits.1, (totalBytes_sublist inside).trans fits.2⟩

/-- The order of the rows does not matter for their bytes. -/
theorem totalBytes_perm {left right : List CacheEntry} (same : left.Perm right) :
    totalBytes left = totalBytes right :=
  (same.map _).sum_nat

/-- The order of the rows does not matter for their fitting. -/
theorem Settings.fits_perm {settings : Settings} {left right : List CacheEntry}
    (same : left.Perm right) : settings.Fits left ↔ settings.Fits right := by
  unfold Fits
  rw [same.length_eq, totalBytes_perm same]

/-! ### Freshness -/

namespace CacheEntry

/-- The test by which `cache_get` accepts a row: its lifetime is not disabled,
the effective clock is before its effective expiry, and it does not come from
the future. -/
def isFresh (settings : Settings) (wall now : Int) (entry : CacheEntry) : Bool :=
  settings.ttl entry.kind entry.outcome.status ≠ 0 ∧
    now < min entry.expiresAt
      (entry.fetchedAt + settings.ttl entry.kind entry.outcome.status) ∧
    entry.fetchedAt ≤ wall

/-- The lifetime of a row is that of its kind and status. -/
theorem caseTtl_eq (settings : Settings) (entry : CacheEntry) :
    entry.caseTtl settings = settings.ttl entry.kind entry.outcome.status := by
  unfold caseTtl Settings.ttl
  cases entry.outcome <;> cases entry.kind <;> rfl

/-- The statement deletes exactly what a read would not accept. -/
theorem isStale_eq {settings : Settings} {wall now : Int} (behind : wall ≤ now)
    (entry : CacheEntry) :
    entry.isStale settings wall now = !entry.isFresh settings wall now := by
  have lifetime := settings.ttl_nonneg entry.kind entry.outcome.status
  unfold isStale isFresh
  rw [caseTtl_eq, ← decide_not]
  apply decide_eq_decide.mpr
  constructor
  · omega
  · intro refused
    by_contra accepted
    rw [not_or, not_or] at accepted
    refine refused ⟨?_, ?_, ?_⟩ <;> omega

end CacheEntry

/-- The freshness test is the one `cache_get` runs on the row it finds: a fresh
row is read, and any other is refused. -/
theorem cacheGet_of_row {codec : PayloadCodec} {settings : Settings} {table : CacheTable}
    {provider : ProviderId} {key : String} {kind : IndicatorKind} {wall now renewed : Int}
    {row : CacheEntry}
    (found : table.rows.find? (fun entry =>
      entry.provider = provider ∧ entry.cacheKey = key ∧ entry.kind = kind) = some row)
    (added : checkedAdd row.fetchedAt (settings.ttl kind row.outcome.status) = some renewed) :
    (row.isFresh settings wall now = true ∧ ∀ read rest,
        cacheGet codec settings table provider key kind wall now = .ok (read, rest) →
        ∃ outcome expiresAt, read = .hit outcome expiresAt) ∨
      (row.isFresh settings wall now = false ∧ ∃ read rest,
        cacheGet codec settings table provider key kind wall now = .ok (read, rest) ∧
        (read = .disabled ∨ read = .expired ∨ read = .future)) := by
  have sought := List.find?_some found
  simp only [decide_eq_true_eq] at sought
  obtain ⟨_, _, rfl⟩ := sought
  have sum : renewed = row.fetchedAt + settings.ttl row.kind row.outcome.status := by
    unfold checkedAdd at added
    split at added
    · exact (Option.some.inj added).symm
    · cases added
  subst sum
  unfold cacheGet CacheEntry.isFresh
  rw [found]
  dsimp only
  rw [added]
  by_cases disabled : settings.ttl row.kind row.outcome.status = 0
  · right
    simp [disabled]
  by_cases expired : min row.expiresAt
      (row.fetchedAt + settings.ttl row.kind row.outcome.status) ≤ now
  · right
    simp only [disabled, expired, ↓reduceIte]
    refine ⟨?_, .expired, _, rfl, Or.inr (Or.inl rfl)⟩
    simp only [decide_eq_false_iff_not, not_and]
    omega
  by_cases future : wall < row.fetchedAt
  · right
    simp only [disabled, expired, future, ↓reduceIte]
    refine ⟨?_, .future, _, rfl, Or.inr (Or.inr rfl)⟩
    simp only [decide_eq_false_iff_not, not_and]
    omega
  · left
    simp only [disabled, expired, future, ↓reduceIte]
    refine ⟨by simp only [decide_eq_true_eq]; omega, ?_⟩
    intro read rest answered
    split at answered
    · cases answered
    · split at answered
      · cases answered
      · split at answered
        · cases answered
        · cases answered
          exact ⟨_, _, rfl⟩

/-! ### First in, first out -/

/-- No row is there twice. -/
theorem CacheTable.nodup (table : CacheTable) : table.rows.Nodup :=
  List.Nodup.of_map _ table.primaryKey

instance : Std.Total fun left right : CacheEntry => left.fifoKey ≤ right.fifoKey :=
  ⟨fun left right => le_total left.fifoKey right.fifoKey⟩

instance : IsTrans CacheEntry fun left right => left.fifoKey ≤ right.fifoKey :=
  ⟨fun _ _ _ => le_trans⟩

/-- The eviction order has the same rows. -/
theorem fifo_perm (rows : List CacheEntry) : (fifo rows).Perm rows :=
  List.perm_insertionSort _ rows

/-- The eviction order is in order. -/
theorem fifo_pairwise (rows : List CacheEntry) :
    (fifo rows).Pairwise fun left right => left.fifoKey ≤ right.fifoKey :=
  List.pairwise_insertionSort _ rows

/-- Under the primary key, a sorted rearrangement is the sort. -/
theorem fifo_eq_of_perm {rows sorted : List CacheEntry}
    (unique : (rows.map CacheEntry.primaryKey).Nodup) (same : sorted.Perm rows)
    (ordered : sorted.Pairwise fun left right => left.fifoKey ≤ right.fifoKey) :
    fifo rows = sorted := by
  refine List.Perm.eq_of_pairwise ?_ (fifo_pairwise rows) ordered ((fifo_perm rows).trans same.symm)
  intro left right inLeft inRight forward backward
  have equal := CacheEntry.primaryKey_eq_of_fifoKey_eq (le_antisymm forward backward)
  exact List.inj_on_of_nodup_map unique ((fifo_perm rows).subset inLeft) (same.subset inRight) equal

/-- What is behind a front is left without it. -/
theorem append_diff_left {α : Type*} [DecidableEq α] (front back : List α) :
    (front ++ back).diff front = back := by
  induction front with
  | nil => rw [List.nil_append, List.diff_nil]
  | cons head front ih => rw [List.cons_append, List.diff_cons, List.erase_cons_head, ih]

/-- Deleting the oldest rows leaves the rest in order. -/
theorem fifo_delete_take (table : CacheTable) (count : Nat) :
    fifo (table.delete ((fifo table.rows).take count)).rows = (fifo table.rows).drop count := by
  apply fifo_eq_of_perm (table.delete _).primaryKey
  · have left : ((fifo table.rows).diff ((fifo table.rows).take count)).Perm
        (table.rows.diff ((fifo table.rows).take count)) :=
      (fifo_perm table.rows).diff_right _
    have split := append_diff_left ((fifo table.rows).take count) ((fifo table.rows).drop count)
    rw [List.take_append_drop] at split
    rw [split] at left
    exact left
  · exact (fifo_pairwise table.rows).sublist (List.drop_sublist _ _)

/-! ### Eviction -/

/-- The scan of a chunk drops rows until the rest fits or the chunk is used up. -/
theorem evictScan_eq (settings : Settings) (chunk : Nat) (rows : List CacheEntry) :
    ∃ count, evictScan settings (rows.take chunk) rows.length (totalBytes rows) = {
        entries := (FittingSuffix.dropUpTo settings.Fits chunk rows).length
        bytes := totalBytes (FittingSuffix.dropUpTo settings.Fits chunk rows)
        count } ∧
      rows.drop count = FittingSuffix.dropUpTo settings.Fits chunk rows := by
  induction chunk generalizing rows with
  | zero => exact ⟨0, rfl, rfl⟩
  | succ chunk ih =>
      cases rows with
      | nil => exact ⟨0, rfl, rfl⟩
      | cons head tail =>
          rw [List.take_succ_cons]
          unfold evictScan FittingSuffix.dropUpTo
          by_cases fits : settings.Fits (head :: tail)
          · have within : ((head :: tail).length : Int) ≤ settings.maxEntries ∧
                (totalBytes (head :: tail) : Int) ≤ settings.maxBytes := by
              exact_mod_cast fits
            rw [if_pos within, if_pos fits]
            exact ⟨0, rfl, rfl⟩
          · have exceeds : ¬ (((head :: tail).length : Int) ≤ settings.maxEntries ∧
                (totalBytes (head :: tail) : Int) ≤ settings.maxBytes) := by
              exact_mod_cast fits
            rw [if_neg exceeds, if_neg fits]
            obtain ⟨count, scanned, rest⟩ := ih tail
            have entries : ((head :: tail).length : Int) - 1 = tail.length := by
              rw [List.length_cons]
              omega
            have bytes : (totalBytes (head :: tail) : Int) - head.payloadBytes =
                totalBytes tail := by
              simp only [totalBytes, List.map_cons, List.sum_cons]
              omega
            rw [entries, bytes, scanned]
            exact ⟨count + 1, rfl, rest⟩

/-- The loop ends with the longest suffix that fits. -/
theorem evictLoop_ok (settings : Settings) (fuel : Nat) (table : CacheTable)
    (enough : table.rows.length < fuel) :
    ∃ rest, evictLoop settings fuel table table.rows.length (totalBytes table.rows) = .ok rest ∧
      fifo rest.rows = FittingSuffix.longest settings.Fits (fifo table.rows) ∧
      rest.rows.Sublist table.rows := by
  induction fuel generalizing table with
  | zero => omega
  | succ fuel ih =>
      have sorted := fifo_perm table.rows
      unfold evictLoop
      by_cases fits : settings.Fits table.rows
      · have within : ¬ ((settings.maxEntries : Int) < table.rows.length ∨
            (settings.maxBytes : Int) < totalBytes table.rows) := by
          rw [not_or, not_lt, not_lt]
          exact_mod_cast fits
        rw [if_neg within]
        refine ⟨table, rfl, ?_, List.Sublist.refl _⟩
        exact (FittingSuffix.longest_of_fits _ ((Settings.fits_perm sorted).mpr fits)).symm
      · have exceeds : (settings.maxEntries : Int) < table.rows.length ∨
            (settings.maxBytes : Int) < totalBytes table.rows := by
          by_contra within
          rw [not_or, not_lt, not_lt] at within
          exact fits (by exact_mod_cast within)
        rw [if_pos exceeds]
        obtain ⟨count, scanned, rest⟩ := evictScan_eq settings cleanupChunk (fifo table.rows)
        rw [sorted.length_eq, totalBytes_perm sorted] at scanned
        have unfit : ¬ settings.Fits (fifo table.rows) := mt (Settings.fits_perm sorted).mp fits
        have nonempty : fifo table.rows ≠ [] := by
          intro empty
          rw [empty] at unfit
          exact unfit settings.fits_nil
        have shorter : (FittingSuffix.dropUpTo settings.Fits cleanupChunk
            (fifo table.rows)).length < (fifo table.rows).length :=
          FittingSuffix.length_dropUpTo_lt _ (by decide) nonempty unfit
        have progress : count ≠ 0 := by
          rintro rfl
          rw [← rest, List.drop_zero] at shorter
          exact lt_irrefl _ shorter
        have kept := fifo_delete_take table count
        have remaining := fifo_perm (table.delete ((fifo table.rows).take count)).rows
        rw [kept, rest] at remaining
        rw [scanned]
        simp only [progress, ↓reduceIte]
        rw [remaining.length_eq, totalBytes_perm remaining]
        rw [remaining.length_eq, sorted.length_eq] at shorter
        obtain ⟨final, evicted, order, inside⟩ :=
          ih (table.delete ((fifo table.rows).take count)) (by omega)
        refine ⟨final, evicted, ?_, inside.trans (List.diff_sublist _ _)⟩
        rw [order, kept, rest, FittingSuffix.longest_dropUpTo]

/-- Eviction never fails, and keeps the longest suffix that fits. -/
theorem evict_ok (settings : Settings) (table : CacheTable) :
    ∃ rest, evict settings table = .ok rest ∧
      fifo rest.rows = FittingSuffix.longest settings.Fits (fifo table.rows) ∧
      rest.rows.Sublist table.rows :=
  evictLoop_ok settings _ table (Nat.lt_succ_self _)

/-- Eviction leaves a table that fits alone. -/
theorem evict_of_fits {settings : Settings} {table : CacheTable}
    (fits : settings.Fits table.rows) : evict settings table = .ok table := by
  have within : ¬ ((settings.maxEntries : Int) < table.rows.length ∨
      (settings.maxBytes : Int) < totalBytes table.rows) := by
    rw [not_or, not_lt, not_lt]
    exact_mod_cast fits
  unfold evict evictLoop
  rw [if_neg within]

/-- What eviction leaves fits. -/
theorem evict_fits {settings : Settings} {table rest : CacheTable}
    (evicted : evict settings table = .ok rest) : settings.Fits rest.rows := by
  obtain ⟨final, same, order, _⟩ := evict_ok settings table
  rw [evicted] at same
  cases same
  apply (Settings.fits_perm (fifo_perm rest.rows)).mp
  rw [order]
  exact FittingSuffix.longest_fits _ settings.fits_nil _

/-- Eviction adds no row. -/
theorem evict_sublist {settings : Settings} {table rest : CacheTable}
    (evicted : evict settings table = .ok rest) : rest.rows.Sublist table.rows := by
  obtain ⟨final, same, _, inside⟩ := evict_ok settings table
  rw [evicted] at same
  cases same
  exact inside

/-! ### Deletion -/

/-- What is not chosen for deletion is left. -/
theorem delete_eq_filter (table : CacheTable) (chosen : List CacheEntry) :
    (table.delete chosen).rows = table.rows.filter (fun row => row ∉ chosen) :=
  table.nodup.sdiff_eq_filter

/-- A chunk of deletion adds no row. -/
theorem deleteExpired_sublist (settings : Settings) (wall now : Int) (table : CacheTable) :
    (deleteExpired settings wall now table).1.rows.Sublist table.rows :=
  List.diff_sublist _ _

/-- The stale rows in the order a pass takes them. -/
def staleRows (settings : Settings) (wall now : Int) (table : CacheTable) : List CacheEntry :=
  (table.rows.filter (CacheEntry.isStale settings wall now)).insertionSort
    (fun left right => left.expiryKey ≤ right.expiryKey)

/-- A stale row is one of the table. -/
theorem mem_staleRows {settings : Settings} {wall now : Int} {table : CacheTable}
    {row : CacheEntry} :
    row ∈ staleRows settings wall now table ↔
      row ∈ table.rows ∧ row.isStale settings wall now = true := by
  unfold staleRows
  rw [List.mem_insertionSort, List.mem_filter]

/-- One pass either deletes a whole chunk of stale rows, or all of them. -/
theorem deleteExpired_cases (settings : Settings) (wall now : Int) (table : CacheTable) :
    ((deleteExpired settings wall now table).2 = cleanupChunk ∧
        (deleteExpired settings wall now table).1.rows.length < table.rows.length ∧
        (deleteExpired settings wall now table).1.rows.filter
            (fun row => !row.isStale settings wall now) =
          table.rows.filter (fun row => !row.isStale settings wall now)) ∨
      ((deleteExpired settings wall now table).2 ≠ cleanupChunk ∧
        (deleteExpired settings wall now table).1.rows =
          table.rows.filter (fun row => !row.isStale settings wall now)) := by
  have chosen : deleteExpired settings wall now table =
      (table.delete ((staleRows settings wall now table).take cleanupChunk),
        ((staleRows settings wall now table).take cleanupChunk).length) := rfl
  rw [chosen]
  dsimp only
  rw [delete_eq_filter]
  by_cases whole : ((staleRows settings wall now table).take cleanupChunk).length = cleanupChunk
  · left
    refine ⟨whole, ?_, ?_⟩
    · have nonempty : (staleRows settings wall now table).take cleanupChunk ≠ [] := by
        intro empty
        rw [empty] at whole
        exact absurd whole (by decide)
      obtain ⟨row, inside⟩ := List.exists_mem_of_ne_nil _ nonempty
      rw [List.length_filter_lt_length_iff_exists]
      exact ⟨row, (mem_staleRows.mp (List.mem_of_mem_take inside)).1, by simpa using inside⟩
    · rw [List.filter_filter]
      apply List.filter_congr
      intro row _
      by_cases stale : row.isStale settings wall now = true
      · simp [stale]
      · have kept : row ∉ (staleRows settings wall now table).take cleanupChunk :=
          fun inside => stale (mem_staleRows.mp (List.mem_of_mem_take inside)).2
        simp [kept]
  · right
    refine ⟨whole, ?_⟩
    have all : (staleRows settings wall now table).take cleanupChunk =
        staleRows settings wall now table := by
      apply List.take_of_length_le
      rw [List.length_take] at whole
      omega
    rw [all]
    apply List.filter_congr
    intro row inside
    by_cases stale : row.isStale settings wall now = true
    · simp [mem_staleRows, inside, stale]
    · simp [mem_staleRows, stale]

/-- The loop deletes exactly the stale rows. -/
theorem deleteAllExpired_rows (settings : Settings) (wall now : Int) (fuel : Nat)
    (table : CacheTable) (enough : table.rows.length < fuel) :
    (deleteAllExpired settings wall now fuel table).rows =
      table.rows.filter (fun row => !row.isStale settings wall now) := by
  induction fuel generalizing table with
  | zero => omega
  | succ fuel ih =>
      unfold deleteAllExpired
      dsimp only
      rcases deleteExpired_cases settings wall now table with ⟨whole, shorter, same⟩ | ⟨rest, all⟩
      · rw [if_pos whole, ih _ (by omega), same]
      · rw [if_neg rest, all]

/-! ### Reconciliation -/

/-- What reconciliation leaves of a table. -/
theorem reconcile_cache {settings : Settings} {wall : DateTime} {database next : Database}
    {now : Int} (reconciled : reconcile settings wall database = .ok (next, now)) :
    settings.Fits next.cacheEntries.rows ∧
      next.cacheEntries.rows.Sublist (database.cacheEntries.rows.filter
        (CacheEntry.isFresh settings wall.timestampMillis now)) ∧
      fifo next.cacheEntries.rows = FittingSuffix.longest settings.Fits
        (fifo (database.cacheEntries.rows.filter
          (CacheEntry.isFresh settings wall.timestampMillis now))) := by
  obtain ⟨effective, table, evicting, rfl⟩ := reconcile_ok reconciled
  have behind : wall.timestampMillis ≤ now := effective ▸ le_max_right _ _
  have rows := deleteAllExpired_rows settings wall.timestampMillis now
    (database.cacheEntries.rows.length + 1) database.cacheEntries (Nat.lt_succ_self _)
  have fresh : database.cacheEntries.rows.filter
        (fun row => !row.isStale settings wall.timestampMillis now) =
      database.cacheEntries.rows.filter
        (CacheEntry.isFresh settings wall.timestampMillis now) := by
    apply List.filter_congr
    intro row _
    rw [CacheEntry.isStale_eq behind, Bool.not_not]
  rw [fresh] at rows
  obtain ⟨final, same, order, inside⟩ := evict_ok settings
    (deleteAllExpired settings wall.timestampMillis now
      (database.cacheEntries.rows.length + 1) database.cacheEntries)
  rw [evicting] at same
  cases same
  rw [rows] at order inside
  exact ⟨evict_fits evicting, inside, order⟩

end RustEnrich.Storage
