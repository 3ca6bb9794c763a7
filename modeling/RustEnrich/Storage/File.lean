import RustEnrich.Storage.Eviction

/-!
# The database file

What `open` makes of a file it finds: whatever there is, by whomever it was written, and
wherever it is ended, by a statement that fails, a deadline or the end of its process.
Connecting creates a file that is missing and switches its journal before anything is
checked. A schema is created only where there is nothing of anybody; a file is otherwise
read as it is or left alone.
-/

namespace RustEnrich.Storage

/-- A row of `quota_state`, as its columns are read. -/
structure QuotaRow where
  utcDay : DayText
  dailyConsumed : Int
  cooldownUntil : Option Int
  cooldownUnknown : Bool
  providerRemaining : Option Int
  providerResetAt : Option Int

/-- One value for each group. -/
def perGroup {α : Type} (abuseipdb virustotal : α) : QuotaGroup → α
  | .abuseipdbCheck => abuseipdb
  | .virustotal => virustotal

/-- A value for each group is made of its two. -/
theorem perGroup_eta {α : Type} (values : QuotaGroup → α) :
    perGroup (values .abuseipdbCheck) (values .virustotal) = values := by
  funext group
  cases group <;> rfl

/-- How a file keeps what is not yet written to it. It stays so when it is closed. -/
inductive JournalMode
  | delete
  | wal

/-- A SQLite file. A part that is absent is one that the statements of `initialize` do
not find, or not in the form they read. -/
structure File where
  journalMode : JournalMode
  /-- `PRAGMA user_version`. -/
  userVersion : Int
  /-- `PRAGMA quick_check(1)` answers `ok`. -/
  intact : Bool
  /-- The names of the tables. -/
  tables : List String
  /-- The names of the indexes and views. -/
  others : List String
  cacheEntries : Option CacheTable
  quotaAttempts : Option (List QuotaAttempt)
  /-- The one row of `storage_metadata`. -/
  clockHighWater : Option Int
  quotaState : QuotaGroup → Option QuotaRow

/-- The file `create_if_missing` makes. -/
def File.empty : File where
  journalMode := .delete
  userVersion := 0
  intact := true
  tables := []
  others := []
  cacheEntries := none
  quotaAttempts := none
  clockHighWater := none
  quotaState := fun _ => none

/-- What `journal_mode(Wal)` makes of a file when it is connected. -/
def File.inWal (file : File) : File := { file with journalMode := .wal }

/-- The schema this service writes. -/
def schemaVersion : Int := 1

/-- `LIKE 'sqlite_%'`, where the line stands for any character. -/
def likeSqlite (name : String) : Bool :=
  (name.toList.take 6).map Char.toLower = "sqlite".toList ∧ 7 ≤ name.toList.length

/-- The tables and indexes of the migration. -/
def schemaNames : List String :=
  ["cache_entries", "cache_expiry", "cache_fifo", "quota_state", "quota_attempts",
    "quota_attempt_window", "storage_metadata"]

/-- Names are compared without regard to case. -/
def sameName (left right : String) : Bool :=
  left.toList.map Char.toLower = right.toList.map Char.toLower

namespace QuotaRow

/-- The row a migration inserts. -/
def fresh (today : Int) : QuotaRow where
  utcDay := .ofDate today
  dailyConsumed := 0
  cooldownUntil := none
  cooldownUnknown := false
  providerRemaining := none
  providerResetAt := none

/-- `QuotaState::read`, of a row that is there. -/
def read (row : QuotaRow) : Except StorageError QuotaState :=
  if row.dailyConsumed < 0 then .error .invalidData
  else
    match row.providerRemaining with
    | none => .ok {
        day := row.utcDay
        dailyConsumed := row.dailyConsumed.toNat
        cooldownUntil := row.cooldownUntil
        cooldownUnknown := row.cooldownUnknown
        providerRemaining := none
        providerResetAt := row.providerResetAt }
    | some remaining =>
        if remaining < 0 then .error .invalidData
        else .ok {
          day := row.utcDay
          dailyConsumed := row.dailyConsumed.toNat
          cooldownUntil := row.cooldownUntil
          cooldownUnknown := row.cooldownUnknown
          providerRemaining := some remaining.toNat
          providerResetAt := row.providerResetAt }

end QuotaRow

namespace File

/-- The tables that a migration must not find. -/
def existingTables (file : File) : Nat :=
  file.tables.countP fun name => !likeSqlite name

/-- The migration transaction, which fails where a name is taken. -/
def migrate (file : File) (now : DateTime) : Except StorageError File :=
  if file.existingTables ≠ 0 then .error .invalidData
  else if (file.tables ++ file.others).any fun name => schemaNames.any (sameName name) then
    .error .unavailable
  else .ok {
    journalMode := file.journalMode
    userVersion := 1
    intact := true
    tables := file.tables ++ ["cache_entries", "quota_state", "quota_attempts", "storage_metadata"]
    others := file.others ++ ["cache_expiry", "cache_fifo", "quota_attempt_window"]
    cacheEntries := some .empty
    quotaAttempts := some []
    clockHighWater := some now.timestampMillis
    quotaState := fun _ => some (.fresh now.dateNaive) }

/-- The checks of `initialize`, and the migration of a file without a schema. -/
def prepare (file : File) (created : DateTime) : Except StorageError File :=
  if schemaVersion < file.userVersion then .error .newerSchema
  else if file.userVersion < 0 then .error .invalidData
  else if !file.intact then .error .invalidData
  else if file.userVersion = 0 then file.migrate created
  else .ok file

/-- A row of a group and the checks of `initialize` on it. -/
def readGroup (file : File) (group : QuotaGroup) : Except StorageError QuotaState :=
  match file.quotaState group with
  | none => .error .unavailable
  | some row =>
      match row.read with
      | .error error => .error error
      | .ok state => if state.isReadable then .ok state else .error .invalidData

/-- The part of a file a session reads. -/
def contents (file : File) : Except StorageError Database :=
  match file.cacheEntries, file.quotaAttempts, file.clockHighWater with
  | some cacheEntries, some quotaAttempts, some clockHighWater =>
      if (DateTime.fromTimestampMillis clockHighWater).isNone then .error .invalidData
      else
        match file.readGroup .abuseipdbCheck with
        | .error error => .error error
        | .ok abuseipdb =>
            match file.readGroup .virustotal with
            | .error error => .error error
            | .ok virustotal => .ok {
                cacheEntries
                quotaState := perGroup abuseipdb virustotal
                quotaAttempts
                clockHighWater }
  | _, _, _ => .error .unavailable

/-- The second transaction of `initialize`. -/
def reconcile (settings : Settings) (wall : DateTime) (file : File) :
    Except StorageError (File × Int) :=
  match file.contents with
  | .error error => .error error
  | .ok database =>
      let now := max database.clockHighWater wall.timestampMillis
      match evict settings (deleteAllExpired settings wall.timestampMillis now
        (database.cacheEntries.rows.length + 1) database.cacheEntries) with
      | .error error => .error error
      | .ok table => .ok ({ file with cacheEntries := some table }, now)

end File

/-- What is ahead of an `open` when something ends it. -/
inductive Moment
  /-- The file is not touched. -/
  | connecting
  /-- It is there, with its journal as it was. -/
  | switching
  /-- No transaction has been committed. -/
  | checking
  /-- The checks are done and a migration is committed. -/
  | reconciling
  /-- The reconciliation is committed. -/
  | answering

/-- What ends an `open` from outside, if anything does: a statement that fails, a
deadline, or the end of its caller. What is begun and not committed is rolled back. -/
abbrev Ending := Moment → Option StorageError

/-- Nothing ends it but its own answer. -/
def Ending.never : Ending := fun _ => none

/-- What `initialize` answers, and the file it leaves. -/
def initializeFile (settings : Settings) (created wall : DateTime) (ending : Ending)
    (file : File) : Except StorageError Int × File :=
  match ending .checking with
  | some error => (.error error, file)
  | none =>
      match file.prepare created with
      | .error error => (.error error, file)
      | .ok prepared =>
          match ending .reconciling with
          | some error => (.error error, prepared)
          | none =>
              match prepared.reconcile settings wall with
              | .error error => (.error error, prepared)
              | .ok (next, now) =>
                  match ending .answering with
                  | some error => (.error error, next)
                  | none => (.ok now, next)

/-- What `open` answers once it has the lock, and what it leaves of what it found. -/
def openFile (settings : Settings) (created wall : DateTime) (ending : Ending)
    (found : Option File) : Except StorageError Int × Option File :=
  match ending .connecting with
  | some error => (.error error, found)
  | none =>
      let file := found.getD .empty
      match ending .switching with
      | some error => (.error error, some file)
      | none =>
          let (answer, left) := initializeFile settings created wall ending file.inWal
          (answer, some left)

/-! ### What a file holds -/

/-- The columns a session writes for a state. -/
def QuotaRow.of (state : QuotaState) : QuotaRow where
  utcDay := state.day
  dailyConsumed := state.dailyConsumed
  cooldownUntil := state.cooldownUntil
  cooldownUnknown := state.cooldownUnknown
  providerRemaining := state.providerRemaining.map Int.ofNat
  providerResetAt := state.providerResetAt

/-- A row is read back as what was written. -/
theorem QuotaRow.read_of (state : QuotaState) : (QuotaRow.of state).read = .ok state := by
  unfold QuotaRow.read QuotaRow.of
  rw [if_neg (not_lt.mpr (Int.natCast_nonneg _))]
  obtain ⟨_, _, _, _, remaining, _⟩ := state
  cases remaining with
  | none => rfl
  | some remaining => exact if_neg (not_lt.mpr (Int.natCast_nonneg _))

namespace File

/-- What the rows of a file say, whether or not `initialize` accepts it. -/
def stored (file : File) : Option Database := do
  let cacheEntries ← file.cacheEntries
  let quotaAttempts ← file.quotaAttempts
  let clockHighWater ← file.clockHighWater
  let abuseipdb ← (← file.quotaState .abuseipdbCheck).read.toOption
  let virustotal ← (← file.quotaState .virustotal).read.toOption
  return {
    cacheEntries
    quotaState := perGroup abuseipdb virustotal
    quotaAttempts
    clockHighWater }

/-- A file of nobody, which may be migrated. -/
structure Blank (file : File) : Prop where
  version : file.userVersion = 0
  intact : file.intact = true
  unclaimed : file.existingTables = 0
  free : (file.tables ++ file.others).any (fun name => schemaNames.any (sameName name)) = false

/-- An empty file is blank. -/
theorem empty_blank : empty.Blank := ⟨rfl, rfl, rfl, rfl⟩

/-- The file a migration leaves. -/
def migrated (file : File) (now : DateTime) : File where
  journalMode := file.journalMode
  userVersion := 1
  intact := true
  tables := file.tables ++ ["cache_entries", "quota_state", "quota_attempts", "storage_metadata"]
  others := file.others ++ ["cache_expiry", "cache_fifo", "quota_attempt_window"]
  cacheEntries := some .empty
  quotaAttempts := some []
  clockHighWater := some now.timestampMillis
  quotaState := fun _ => some (.fresh now.dateNaive)

/-- A file of this schema, with what it stores. -/
structure Keeps (file : File) (database : Database) : Prop where
  version : file.userVersion = 1
  intact : file.intact = true
  stored : file.stored = some database

/-- A database written over what a file stores. -/
def write (file : File) (database : Database) : File :=
  { file with
    cacheEntries := some database.cacheEntries
    quotaAttempts := some database.quotaAttempts
    clockHighWater := some database.clockHighWater
    quotaState := fun group => some (.of (database.quotaState group)) }

section Contents

variable {file left : File} {database next : Database} {created wall : DateTime}
  {settings : Settings} {now : Int}

/-- What was written is stored. -/
theorem stored_write (file : File) (database : Database) :
    (file.write database).stored = some database := by
  unfold stored write
  simp only [Option.bind_eq_bind, Option.bind_some, QuotaRow.read_of, Except.toOption,
    perGroup_eta]
  rfl

/-- A written file keeps what was written. -/
theorem Keeps.write (keeps : file.Keeps database) (next : Database) :
    (file.write next).Keeps next :=
  ⟨keeps.version, keeps.intact, stored_write file next⟩

/-- A migrated file has the new tables. -/
theorem stored_migrated (file : File) (now : DateTime) :
    (file.migrated now).stored = some (.create now) := by
  have written : file.migrated now =
      { file with
        userVersion := 1
        intact := true
        tables := (file.migrated now).tables
        others := (file.migrated now).others }.write (.create now) := rfl
  rw [written, stored_write]

/-- What is stored is in all tables. -/
theorem stored_eq_some : file.stored = some database ↔
    file.cacheEntries = some database.cacheEntries ∧
      file.quotaAttempts = some database.quotaAttempts ∧
      file.clockHighWater = some database.clockHighWater ∧
      ∀ group, ∃ row, file.quotaState group = some row ∧
        row.read = .ok (database.quotaState group) := by
  have read : ∀ {row : QuotaRow} {state : QuotaState},
      row.read.toOption = some state ↔ row.read = .ok state := by
    intro row state
    cases row.read <;> simp [Except.toOption]
  unfold stored
  simp only [Option.bind_eq_bind, Option.bind_eq_some_iff, Option.pure_def, Option.some.injEq, read]
  constructor
  · rintro ⟨cache, cached, attempts, counted, clock, timed, first, one, abuseipdb, reads,
      second, two, virustotal, also, rfl⟩
    refine ⟨cached, counted, timed, fun group => ?_⟩
    cases group with
    | abuseipdbCheck => exact ⟨first, one, reads⟩
    | virustotal => exact ⟨second, two, also⟩
  · rintro ⟨cached, counted, timed, rows⟩
    obtain ⟨first, one, reads⟩ := rows .abuseipdbCheck
    obtain ⟨second, two, also⟩ := rows .virustotal
    refine ⟨_, cached, _, counted, _, timed, first, one, _, reads, second, two, _, also, ?_⟩
    rw [perGroup_eta]

/-- A group is read where its row is and can be. -/
theorem readGroup_ok {group : QuotaGroup} {state : QuotaState} :
    file.readGroup group = .ok state ↔ ∃ row, file.quotaState group = some row ∧
      row.read = .ok state ∧ state.isReadable = true := by
  unfold readGroup
  cases there : file.quotaState group with
  | none => simp
  | some row =>
      cases reads : row.read with
      | error error => simp [reads]
      | ok found =>
          by_cases readable : found.isReadable = true
          · simp only [readable, if_true, Except.ok.injEq, Option.some.injEq, exists_eq_left',
              reads]
            constructor
            · rintro rfl
              exact ⟨rfl, readable⟩
            · exact And.left
          · simp only [readable, Option.some.injEq, exists_eq_left', reads, Except.ok.injEq]
            constructor
            · exact nofun
            · rintro ⟨rfl, other⟩
              exact absurd other readable

/-- A file is read where its rows can be read and its times are ones. -/
theorem contents_ok : file.contents = .ok database ↔ file.stored = some database ∧
    (DateTime.fromTimestampMillis database.clockHighWater).isSome ∧
      ∀ group, (database.quotaState group).isReadable = true := by
  rw [stored_eq_some]
  constructor
  · intro contents
    unfold File.contents at contents
    split at contents
    · rename_i cache attempts clock cached counted timed
      split at contents
      · cases contents
      rename_i ranged
      split at contents
      · cases contents
      rename_i abuseipdb first
      split at contents
      · cases contents
      rename_i virustotal second
      cases contents
      obtain ⟨one, found, reads, readable⟩ := readGroup_ok.mp first
      obtain ⟨two, also, alike, legible⟩ := readGroup_ok.mp second
      refine ⟨⟨cached, counted, timed, fun group => ?_⟩, ?_, fun group => ?_⟩
      · cases group with
        | abuseipdbCheck => exact ⟨one, found, reads⟩
        | virustotal => exact ⟨two, also, alike⟩
      · rwa [Option.isNone_iff_eq_none, ← ne_eq, ← Option.isSome_iff_ne_none] at ranged
      · cases group with
        | abuseipdbCheck => exact readable
        | virustotal => exact legible
    · cases contents
  · rintro ⟨⟨cached, counted, timed, rows⟩, ranged, readable⟩
    have groups : ∀ group, file.readGroup group = .ok (database.quotaState group) := by
      intro group
      obtain ⟨row, found, reads⟩ := rows group
      exact readGroup_ok.mpr ⟨row, found, reads, readable group⟩
    unfold File.contents
    rw [cached, counted, timed]
    dsimp only
    rw [if_neg (by rw [Option.isNone_iff_eq_none]; exact Option.isSome_iff_ne_none.mp ranged),
      groups, groups]
    dsimp only
    rw [perGroup_eta]

/-- The checks of a file are those of what it stores. -/
theorem reconcile_ok : file.reconcile settings wall = .ok (left, now) ↔
    ∃ database next, file.stored = some database ∧
      Storage.reconcile settings wall database = .ok (next, now) ∧
      left = { file with cacheEntries := some next.cacheEntries } := by
  have opens : ∀ {database next}, Storage.reconcile settings wall database = .ok (next, now) →
      file.stored = some database → file.contents = .ok database := by
    intro database next reconciled there
    unfold Storage.reconcile at reconciled
    split_ifs at reconciled with unranged unreadable
    rw [not_or, Bool.not_eq_false, Bool.not_eq_false] at unreadable
    refine contents_ok.mpr ⟨there, ?_, fun group => ?_⟩
    · rwa [Option.isNone_iff_eq_none, ← ne_eq, ← Option.isSome_iff_ne_none] at unranged
    · cases group with
      | abuseipdbCheck => exact unreadable.1
      | virustotal => exact unreadable.2
  constructor
  · intro reconciled
    unfold File.reconcile at reconciled
    split at reconciled
    · cases reconciled
    rename_i database contents
    obtain ⟨there, ranged, readable⟩ := contents_ok.mp contents
    dsimp only at reconciled
    split at reconciled
    · cases reconciled
    rename_i table evicting
    cases reconciled
    refine ⟨database, { database with cacheEntries := table }, there, ?_, rfl⟩
    unfold Storage.reconcile
    rw [if_neg (by rw [Option.isNone_iff_eq_none]; exact Option.isSome_iff_ne_none.mp ranged),
      if_neg (by simp [readable])]
    dsimp only
    rw [evicting]
  · rintro ⟨database, next, there, reconciled, rfl⟩
    have contents := opens reconciled there
    obtain ⟨rfl, table, evicting, rfl⟩ := reconcile_ok reconciled
    unfold File.reconcile
    rw [contents]
    dsimp only
    rw [evicting]

/-- The migration fails on any other file, and leaves the one it says. -/
theorem migrate_ok (version : file.userVersion = 0) (intact : file.intact = true) :
    file.migrate created = .ok left ↔ file.Blank ∧ left = file.migrated created := by
  unfold migrate
  constructor
  · intro migrates
    split_ifs at migrates with claimed taken
    cases migrates
    exact ⟨⟨version, intact, not_not.mp claimed, Bool.eq_false_of_not_eq_true taken⟩, rfl⟩
  · rintro ⟨blank, rfl⟩
    rw [if_neg (not_not.mpr blank.unclaimed), if_neg (by rw [blank.free]; exact Bool.false_ne_true)]
    rfl

end Contents

/-- What `initialize` reconciles: the contents, and the file that has them. -/
inductive Opens (created : DateTime) (file : File) : Database → File → Prop
  | migrated (blank : file.Blank) : Opens created file (.create created) (file.migrated created)
  | kept {database : Database} (keeps : file.Keeps database) : Opens created file database file

/-- A file that opens keeps its database. -/
theorem Opens.keeps {created : DateTime} {file base : File} {database : Database}
    (opens : file.Opens created database base) : base.Keeps database := by
  cases opens with
  | migrated blank => exact ⟨rfl, rfl, stored_migrated file created⟩
  | kept keeps => exact keeps

/-- A file stores one database. -/
theorem Keeps.stored_unique {file : File} {database other : Database}
    (keeps : file.Keeps database) (stored : file.stored = some other) : other = database :=
  Option.some.inj (stored.symm.trans keeps.stored)

/-- A file with the schema of this service, whatever is in it. -/
structure Versioned (file : File) : Prop where
  version : file.userVersion = 1
  intact : file.intact = true

/-- A file that a start comes up on: one of nobody, or one whose rows can be read. -/
def Startable (file : File) : Prop :=
  file.Blank ∨ file.Versioned ∧ ∃ database, file.contents = .ok database

section Preparation

variable {file base left : File} {created wall : DateTime} {settings : Settings} {now : Int}
  {database : Database}

/-- A file of this schema is taken as it is, one of nobody is migrated, and no other is
accepted. -/
theorem prepare_ok : file.prepare created = .ok base ↔
    file.Blank ∧ base = file.migrated created ∨ file.Versioned ∧ base = file := by
  unfold prepare schemaVersion
  constructor
  · intro prepares
    split_ifs at prepares with newer negative corrupted unversioned
    · have intact : file.intact = true := by simpa using corrupted
      exact .inl ((migrate_ok unversioned intact).mp prepares)
    · cases prepares
      exact .inr ⟨⟨by omega, by simpa using corrupted⟩, rfl⟩
  · intro accepted
    rcases accepted with ⟨blank, rfl⟩ | ⟨versioned, rfl⟩
    · rw [if_neg (by rw [blank.version]; decide), if_neg (by rw [blank.version]; decide),
        if_neg (by simp [blank.intact]), if_pos blank.version]
      exact (migrate_ok blank.version blank.intact).mpr ⟨blank, rfl⟩
    · rw [if_neg (by rw [versioned.version]; decide), if_neg (by rw [versioned.version]; decide),
        if_neg (by simp [versioned.intact]), if_neg (by rw [versioned.version]; decide)]

/-- What is reconciled has the schema. -/
theorem Versioned.of_prepare (prepares : file.prepare created = .ok base) : base.Versioned := by
  rcases prepare_ok.mp prepares with ⟨_, rfl⟩ | ⟨versioned, rfl⟩
  · exact ⟨rfl, rfl⟩
  · exact versioned

/-- A file of this schema is never migrated. -/
theorem Versioned.prepare (versioned : file.Versioned) (created : DateTime) :
    file.prepare created = .ok file :=
  prepare_ok.mpr (.inr ⟨versioned, rfl⟩)

/-- A file opens as what it stores once it is prepared. -/
theorem opens_iff : file.Opens created database base ↔
    file.prepare created = .ok base ∧ base.stored = some database := by
  constructor
  · intro opens
    cases opens with
    | migrated blank =>
        exact ⟨prepare_ok.mpr (.inl ⟨blank, rfl⟩), stored_migrated file created⟩
    | kept keeps =>
        exact ⟨Versioned.prepare ⟨keeps.version, keeps.intact⟩ created, keeps.stored⟩
  · rintro ⟨prepares, stored⟩
    rcases prepare_ok.mp prepares with ⟨blank, rfl⟩ | ⟨versioned, rfl⟩
    · rw [stored_migrated] at stored
      cases stored
      exact .migrated blank
    · exact .kept ⟨versioned.version, versioned.intact, stored⟩

/-- A reconciliation leaves the schema. -/
theorem Versioned.reconcile (versioned : file.Versioned)
    (reconciled : file.reconcile settings wall = .ok (left, now)) : left.Versioned := by
  obtain ⟨_, _, _, _, rfl⟩ := reconcile_ok.mp reconciled
  exact ⟨versioned.version, versioned.intact⟩

/-- What is stored once the rows of the cache are replaced. -/
theorem stored_replaced (stored : file.stored = some database) (table : CacheTable) :
    ({ file with cacheEntries := some table } : File).stored =
      some { database with cacheEntries := table } := by
  obtain ⟨_, counted, timed, rows⟩ := stored_eq_some.mp stored
  exact stored_eq_some.mpr ⟨rfl, counted, timed, rows⟩

end Preparation

end File

section Opening

variable {settings : Settings} {created wall : DateTime} {file base left : File} {now : Int}
  {database next : Database}

/-- What a start leaves has what it reconciled. -/
theorem File.Opens.reconciled (opens : file.Opens created database base)
    (reconciled : Storage.reconcile settings wall database = .ok (next, now)) :
    ({ base with cacheEntries := some next.cacheEntries } : File).Keeps next := by
  obtain ⟨_, table, _, rfl⟩ := Storage.reconcile_ok reconciled
  exact ⟨opens.keeps.version, opens.keeps.intact,
    File.stored_replaced opens.keeps.stored table⟩

/-- Reconciling again at the same reading changes nothing. -/
theorem reconcile_again (reconciled : reconcile settings wall database = .ok (next, now)) :
    reconcile settings wall next = .ok (next, now) := by
  obtain ⟨fits, inside, _⟩ := reconcile_cache reconciled
  obtain ⟨rfl, table, _, rfl⟩ := reconcile_ok reconciled
  have settled : deleteAllExpired settings wall.timestampMillis
      (max database.clockHighWater wall.timestampMillis) (table.rows.length + 1) table = table := by
    have rows := deleteAllExpired_rows settings wall.timestampMillis
      (max database.clockHighWater wall.timestampMillis) (table.rows.length + 1) table
      (Nat.lt_succ_self _)
    rw [List.filter_eq_self.mpr] at rows
    · cases table
      cases deleted : deleteAllExpired settings wall.timestampMillis _ _ _
      rw [deleted] at rows
      cases rows
      rfl
    · intro row member
      have fresh := (List.mem_filter.mp (inside.subset member)).2
      rw [CacheEntry.isStale_eq (le_max_right _ _), Bool.not_not]
      exact fresh
  unfold reconcile at reconciled ⊢
  dsimp only at reconciled ⊢
  split_ifs at reconciled with ranged readable
  rw [if_neg ranged, if_neg readable, settled, evict_of_fits fits]

/-- The same of a file. -/
theorem File.reconcile_again (reconciled : file.reconcile settings wall = .ok (left, now)) :
    left.reconcile settings wall = .ok (left, now) := by
  obtain ⟨database, next, stored, does, rfl⟩ := File.reconcile_ok.mp reconciled
  refine File.reconcile_ok.mpr ⟨next, next, ?_, Storage.reconcile_again does, rfl⟩
  obtain ⟨_, table, _, rfl⟩ := Storage.reconcile_ok does
  exact File.stored_replaced stored table

/-- Every file whose rows can be read is reconciled, whatever the bounds. -/
theorem File.reconciles_iff (settings : Settings) (wall : DateTime) :
    (∃ left now, file.reconcile settings wall = .ok (left, now)) ↔
      ∃ database, file.contents = .ok database := by
  unfold File.reconcile
  constructor
  · rintro ⟨left, now, reconciled⟩
    cases contents : file.contents with
    | error error =>
        rw [contents] at reconciled
        cases reconciled
    | ok database => exact ⟨database, rfl⟩
  · rintro ⟨database, contents⟩
    obtain ⟨table, evicted, _⟩ := evict_ok settings (deleteAllExpired settings
      wall.timestampMillis (max database.clockHighWater wall.timestampMillis)
      (database.cacheEntries.rows.length + 1) database.cacheEntries)
    rw [contents]
    dsimp only
    rw [evicted]
    exact ⟨_, _, rfl⟩

/-- A new file can always be read. -/
theorem File.contents_migrated (file : File) (created : DateTime) :
    (file.migrated created).contents = .ok (.create created) := by
  refine contents_ok.mpr ⟨stored_migrated file created, ?_, fun group => rfl⟩
  obtain ⟨_, converted, _⟩ := created.fromTimestampMillis_self
  rw [show (Database.create created).clockHighWater = created.timestampMillis from rfl, converted]
  rfl

/-! ### A start that is ended -/

/-- A start that nothing ends is a preparation and a reconciliation. -/
theorem initializeFile_never : initializeFile settings created wall .never file =
    match file.prepare created with
    | .error error => (.error error, file)
    | .ok prepared =>
        match prepared.reconcile settings wall with
        | .error error => (.error error, prepared)
        | .ok (next, now) => (.ok now, next) := by
  unfold initializeFile Ending.never
  cases file.prepare created <;> rfl

/-- Wherever a start is ended, it leaves the file, the file prepared, or what it would
leave if nothing ended it. -/
theorem initializeFile_left (settings : Settings) (created wall : DateTime) (ending : Ending)
    (file : File) : (initializeFile settings created wall ending file).2 = file ∨
      ∃ prepared, file.prepare created = .ok prepared ∧
        ((initializeFile settings created wall ending file).2 = prepared ∨
          ∃ now, prepared.reconcile settings wall =
            .ok ((initializeFile settings created wall ending file).2, now)) := by
  unfold initializeFile
  cases ending .checking with
  | some error => exact .inl rfl
  | none =>
      cases prepares : file.prepare created with
      | error error => exact .inl rfl
      | ok prepared =>
          refine .inr ⟨prepared, rfl, ?_⟩
          dsimp only
          cases ending .reconciling with
          | some error => exact .inl rfl
          | none =>
              dsimp only
              cases reconciles : prepared.reconcile settings wall with
              | error error => exact .inl rfl
              | ok done =>
                  obtain ⟨next, now⟩ := done
                  refine .inr ⟨now, ?_⟩
                  dsimp only
                  cases ending .answering <;> rfl

/-- A start is answered exactly where nothing ended it. What it leaves differs from what
it found in the migration and in the rows of the cache. -/
theorem initializeFile_ok {ending : Ending} :
    initializeFile settings created wall ending file = (.ok now, left) ↔
      (ending .checking = none ∧ ending .reconciling = none ∧ ending .answering = none) ∧
        ∃ database next base, file.Opens created database base ∧
          reconcile settings wall database = .ok (next, now) ∧
          left = { base with cacheEntries := some next.cacheEntries } := by
  constructor
  · intro initialized
    unfold initializeFile at initialized
    split at initialized
    · cases initialized
    rename_i unchecked
    split at initialized
    · cases initialized
    rename_i prepared prepares
    split at initialized
    · cases initialized
    rename_i unreconciled
    split at initialized
    · cases initialized
    rename_i next effective reconciled
    split at initialized
    · cases initialized
    rename_i unanswered
    cases initialized
    obtain ⟨database, after, stored, does, rfl⟩ := File.reconcile_ok.mp reconciled
    exact ⟨⟨unchecked, unreconciled, unanswered⟩, database, after, prepared,
      File.opens_iff.mpr ⟨prepares, stored⟩, does, rfl⟩
  · rintro ⟨⟨unchecked, unreconciled, unanswered⟩, database, next, base, opens, does, rfl⟩
    obtain ⟨prepares, stored⟩ := File.opens_iff.mp opens
    have reconciled := File.reconcile_ok.mpr ⟨database, next, stored, does, rfl⟩
    unfold initializeFile
    rw [unchecked]
    dsimp only
    rw [prepares]
    dsimp only
    rw [unreconciled]
    dsimp only
    rw [reconciled]
    dsimp only
    rw [unanswered]

/-- A start comes up exactly on the files that one can come up on. -/
theorem initializeFile_starts (settings : Settings) (created wall : DateTime) :
    (∃ now left, initializeFile settings created wall .never file = (.ok now, left)) ↔
      file.Startable := by
  rw [initializeFile_never]
  have reconciles : ∀ {prepared : File},
      (∃ now left, (match prepared.reconcile settings wall with
        | .error error => (.error error, prepared)
        | .ok (next, now) => (.ok now, next) : Except StorageError Int × File) =
          (.ok now, left)) ↔ ∃ database, prepared.contents = .ok database := by
    intro prepared
    rw [← File.reconciles_iff settings wall]
    cases prepared.reconcile settings wall with
    | error error => exact iff_of_false nofun nofun
    | ok done => exact iff_of_true ⟨_, _, rfl⟩ ⟨_, _, rfl⟩
  unfold File.Startable
  cases prepares : file.prepare created with
  | error error =>
      refine iff_of_false nofun ?_
      rintro (blank | ⟨versioned, _⟩)
      · rw [File.prepare_ok.mpr (.inl ⟨blank, rfl⟩)] at prepares
        cases prepares
      · rw [versioned.prepare] at prepares
        cases prepares
  | ok prepared =>
      rw [reconciles]
      rcases File.prepare_ok.mp prepares with ⟨blank, rfl⟩ | ⟨versioned, rfl⟩
      · exact iff_of_true ⟨_, File.contents_migrated file created⟩ (.inl blank)
      · refine ⟨fun readable => .inr ⟨versioned, readable⟩, ?_⟩
        rintro (blank | ⟨_, readable⟩)
        · exact absurd (blank.version.symm.trans versioned.version) (by decide)
        · exact readable

/-- A start that was ended is not noticed by one at the same readings. -/
theorem initializeFile_again (settings : Settings) (created wall : DateTime) (ending : Ending)
    (file : File) :
    initializeFile settings created wall .never
        (initializeFile settings created wall ending file).2 =
      initializeFile settings created wall .never file := by
  rcases initializeFile_left settings created wall ending file with
    same | ⟨prepared, prepares, same | ⟨now, reconciled⟩⟩
  · rw [same]
  · rw [same, initializeFile_never, initializeFile_never, prepares,
      (File.Versioned.of_prepare prepares).prepare]
  · have versioned := (File.Versioned.of_prepare prepares).reconcile reconciled
    rw [initializeFile_never, versioned.prepare]
    dsimp only
    rw [File.reconcile_again reconciled, initializeFile_never, prepares]
    dsimp only
    rw [reconciled]

/-- Nor does it change whether a later one comes up. -/
theorem startable_left (settings : Settings) (created wall : DateTime) (ending : Ending)
    (file : File) :
    (initializeFile settings created wall ending file).2.Startable ↔ file.Startable := by
  rw [← initializeFile_starts settings created wall, initializeFile_again,
    initializeFile_starts]

/-- Wherever a start is ended, nothing that was stored is lost but rows of the cache. -/
theorem File.Keeps.started (keeps : file.Keeps database) (settings : Settings)
    (created wall : DateTime) (ending : Ending) :
    ∃ table : CacheTable, table.rows.Sublist database.cacheEntries.rows ∧
      (initializeFile settings created wall ending file).2.Keeps
        { database with cacheEntries := table } := by
  have unprepared : ∀ {prepared}, file.prepare created = .ok prepared → prepared = file := by
    intro prepared prepares
    rw [File.Versioned.prepare ⟨keeps.version, keeps.intact⟩] at prepares
    cases prepares
    rfl
  rcases initializeFile_left settings created wall ending file with
    same | ⟨prepared, prepares, same | ⟨now, reconciled⟩⟩
  · rw [same]
    exact ⟨database.cacheEntries, List.Sublist.refl _, keeps⟩
  · rw [same, unprepared prepares]
    exact ⟨database.cacheEntries, List.Sublist.refl _, keeps⟩
  · obtain rfl := unprepared prepares
    obtain ⟨contents, next, stored, does, left⟩ := File.reconcile_ok.mp reconciled
    obtain rfl := keeps.stored_unique stored
    obtain ⟨_, inside, _⟩ := reconcile_cache does
    obtain ⟨_, table, _, rfl⟩ := Storage.reconcile_ok does
    refine ⟨table, inside.trans (List.filter_sublist ..), ?_⟩
    rw [left]
    exact ⟨keeps.version, keeps.intact, File.stored_replaced stored table⟩

end Opening

/-! ### The file an `open` connects to -/

/-- The file that is checked. -/
def File.connected (found : Option File) : File := (found.getD .empty).inWal

section Connecting

variable {settings : Settings} {created wall : DateTime} {file : File} {found : Option File}

/-- The journal says nothing about whose a file is. -/
theorem File.blank_inWal : file.inWal.Blank ↔ file.Blank :=
  ⟨fun blank => ⟨blank.version, blank.intact, blank.unclaimed, blank.free⟩,
    fun blank => ⟨blank.version, blank.intact, blank.unclaimed, blank.free⟩⟩

/-- Nor about what it stores. -/
theorem File.keeps_inWal {database : Database} :
    file.inWal.Keeps database ↔ file.Keeps database :=
  ⟨fun keeps => ⟨keeps.version, keeps.intact, keeps.stored⟩,
    fun keeps => ⟨keeps.version, keeps.intact, keeps.stored⟩⟩

/-- No start switches a journal back. -/
theorem initializeFile_inWal (settings : Settings) (created wall : DateTime) (ending : Ending)
    (file : File) : (initializeFile settings created wall ending file.inWal).2.inWal =
      (initializeFile settings created wall ending file.inWal).2 := by
  have prepared_inWal : ∀ {prepared}, file.inWal.prepare created = .ok prepared →
      prepared.inWal = prepared := by
    intro prepared prepares
    rcases File.prepare_ok.mp prepares with ⟨_, rfl⟩ | ⟨_, rfl⟩ <;> rfl
  rcases initializeFile_left settings created wall ending file.inWal with
    same | ⟨prepared, prepares, same | ⟨now, reconciled⟩⟩
  · rw [same]
    rfl
  · rw [same, prepared_inWal prepares]
  · obtain ⟨database, next, _, _, left⟩ := File.reconcile_ok.mp reconciled
    rw [left, ← prepared_inWal prepares]
    rfl

/-- Where nothing ends it, an `open` starts on the file it connects to. -/
theorem openFile_never : openFile settings created wall .never found =
    ((initializeFile settings created wall .never (File.connected found)).1,
      some (initializeFile settings created wall .never (File.connected found)).2) := rfl

/-- Wherever an `open` is ended, the file it leaves is connected to as what it found, or
it is what a start leaves of that. -/
theorem openFile_left (settings : Settings) (created wall : DateTime) (ending : Ending)
    (found : Option File) :
    File.connected (openFile settings created wall ending found).2 = File.connected found ∨
      File.connected (openFile settings created wall ending found).2 =
        (initializeFile settings created wall ending (File.connected found)).2 := by
  unfold openFile
  cases ending .connecting with
  | some error => exact .inl rfl
  | none =>
      dsimp only
      cases ending .switching with
      | some error => exact .inl rfl
      | none => exact .inr (initializeFile_inWal settings created wall ending _)

/-- What an `open` does to a file or to none, wherever a statement that fails, a deadline
or the end of its process ends it. -/
structure OpenContract (settings : Settings) (created wall : DateTime) (found : Option File) :
    Prop where
  /-- It succeeds exactly where nothing ends it, on a file it can migrate or read, and then
  replaces nothing but rows of the cache. -/
  succeeds : ∀ ending now left, openFile settings created wall ending found = (.ok now, left) ↔
    (∀ moment, ending moment = none) ∧ ∃ database next base,
      (File.connected found).Opens created database base ∧
        reconcile settings wall database = .ok (next, now) ∧
        left = some { base with cacheEntries := some next.cacheEntries }
  /-- A file that is refused has been connected to, and nothing more. -/
  refuses : ∀ error left, openFile settings created wall .never found = (.error error, left) →
    left = some (File.connected found)
  /-- A missing file and one of nobody are never refused. -/
  migrates : (∀ file ∈ found, file.Blank) →
    ∃ now left, openFile settings created wall .never found = (.ok now, left)
  /-- An `open` that was ended is made good by one at the same readings. -/
  again : ∀ ending, openFile settings created wall .never
      (openFile settings created wall ending found).2 = openFile settings created wall .never found
  /-- At any others it comes up exactly where it would have. -/
  later : ∀ ending (other : Settings) (later reading : DateTime),
    (∃ now left, openFile other later reading .never
      (openFile settings created wall ending found).2 = (.ok now, left)) ↔
        ∃ now left, openFile other later reading .never found = (.ok now, left)
  /-- Nothing that was stored is lost but rows of the cache. -/
  preserves : ∀ ending file database, found = some file → file.Keeps database →
    ∃ (left : File) (table : CacheTable),
      (openFile settings created wall ending found).2 = some left ∧
        table.rows.Sublist database.cacheEntries.rows ∧
        left.Keeps { database with cacheEntries := table }

/-- A start comes up exactly on what it can be connected to and start on. -/
theorem openFile_starts (settings : Settings) (created wall : DateTime) :
    (∃ now left, openFile settings created wall .never found = (.ok now, left)) ↔
      (File.connected found).Startable := by
  rw [← initializeFile_starts settings created wall, openFile_never]
  constructor
  · rintro ⟨now, left, opened⟩
    obtain ⟨answered, _⟩ := Prod.mk.inj opened
    exact ⟨now, _, Prod.ext answered rfl⟩
  · rintro ⟨now, left, initialized⟩
    exact ⟨now, some left, by rw [initialized]⟩

/-- An `open` succeeds exactly where nothing ends it, and as the start does. -/
theorem openFile_ok {ending : Ending} {now : Int} {left : Option File} :
    openFile settings created wall ending found = (.ok now, left) ↔
      (∀ moment, ending moment = none) ∧ ∃ database next base,
        (File.connected found).Opens created database base ∧
          reconcile settings wall database = .ok (next, now) ∧
          left = some { base with cacheEntries := some next.cacheEntries } := by
  constructor
  · intro opened
    unfold openFile at opened
    split at opened
    · cases opened
    rename_i connects
    dsimp only at opened
    split at opened
    · cases opened
    rename_i switches
    obtain ⟨answered, rfl⟩ := Prod.mk.inj opened
    obtain ⟨⟨checks, reconciles, answers⟩, database, next, base, opens, does, same⟩ :=
      initializeFile_ok.mp (Prod.ext answered rfl)
    refine ⟨?_, database, next, base, opens, does, congrArg some same⟩
    intro moment
    cases moment with
    | connecting => exact connects
    | switching => exact switches
    | checking => exact checks
    | reconciling => exact reconciles
    | answering => exact answers
  · rintro ⟨free, database, next, base, opens, does, rfl⟩
    have initialized := initializeFile_ok.mpr
      ⟨⟨free .checking, free .reconciling, free .answering⟩, database, next, base, opens, does,
        rfl⟩
    unfold openFile
    rw [free .connecting]
    dsimp only
    rw [free .switching]
    exact congrArg (fun result => (result.1, some result.2)) initialized

/-- A start that nothing ends and that fails leaves the file alone. -/
theorem initializeFile_refused {left : File} {error : StorageError}
    (refused : initializeFile settings created wall .never file = (.error error, left)) :
    left = file := by
  rw [initializeFile_never] at refused
  cases prepares : file.prepare created with
  | error other =>
      rw [prepares] at refused
      cases refused
      rfl
  | ok prepared =>
      rw [prepares] at refused
      dsimp only at refused
      cases reconciles : prepared.reconcile settings wall with
      | ok done =>
          rw [reconciles] at refused
          cases refused
      | error other =>
          rw [reconciles] at refused
          cases refused
          rcases File.prepare_ok.mp prepares with ⟨_, rfl⟩ | ⟨_, rfl⟩
          · -- The rows of a new file can be read.
            obtain ⟨next, now, reconciled⟩ := (File.reconciles_iff settings wall).mpr
              ⟨_, File.contents_migrated file created⟩
            rw [reconciled] at reconciles
            cases reconciles
          · rfl

/-- Wherever an `open` is ended, nothing that was stored is lost but rows of the cache. -/
theorem File.Keeps.opened {database : Database} (keeps : file.Keeps database)
    (settings : Settings) (created wall : DateTime) (ending : Ending) :
    ∃ (left : File) (table : CacheTable),
      (openFile settings created wall ending (some file)).2 = some left ∧
        table.rows.Sublist database.cacheEntries.rows ∧
        left.Keeps { database with cacheEntries := table } := by
  unfold openFile
  cases ending .connecting with
  | some error => exact ⟨file, database.cacheEntries, rfl, List.Sublist.refl _, keeps⟩
  | none =>
      dsimp only
      cases ending .switching with
      | some error => exact ⟨file, database.cacheEntries, rfl, List.Sublist.refl _, keeps⟩
      | none =>
          have connected : file.inWal.Keeps database := File.keeps_inWal.mpr keeps
          obtain ⟨table, inside, left⟩ := connected.started settings created wall ending
          exact ⟨_, table, rfl, inside, left⟩

end Connecting

/-- **What an `open` does to a file.** Each part is one about `initialize` on the file that
is connected to. -/
theorem openFile_contract (settings : Settings) (created wall : DateTime)
    (found : Option File) : OpenContract settings created wall found where
  succeeds := fun _ _ _ => openFile_ok
  refuses := by
    intro error left opened
    rw [openFile_never] at opened
    obtain ⟨refused, rfl⟩ := Prod.mk.inj opened
    exact congrArg some (initializeFile_refused (Prod.ext refused rfl))
  migrates := by
    intro nobody
    refine (openFile_starts settings created wall).mpr (.inl ?_)
    cases found with
    | none => exact File.blank_inWal.mpr File.empty_blank
    | some file => exact File.blank_inWal.mpr (nobody file rfl)
  again := by
    intro ending
    rw [openFile_never, openFile_never]
    rcases openFile_left settings created wall ending found with same | same
    · rw [same]
    · rw [same, initializeFile_again]
  later := by
    intro ending other later reading
    rw [openFile_starts, openFile_starts]
    rcases openFile_left settings created wall ending found with same | same
    · rw [same]
    · rw [same, startable_left]
  preserves := by
    intro ending file database there keeps
    rw [there]
    exact keeps.opened settings created wall ending

end RustEnrich.Storage
