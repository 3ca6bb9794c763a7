import RustEnrich.Storage.File
import RustEnrich.Storage.Reservations
import RustEnrich.Transitions.Simulation

/-!
# Many processes at one file

Any number of processes start on one database file, work on it and end, at any time and
in any order. A process makes the name of its lock from its path, and the operating
system lends the lock of that name to one process at a time and takes it back when that
process gives it up or is gone, however it ended. A process that has a lock opens the file
as it finds it, in the steps of `open`, and one that works commits to it. What a process
that is ended was executing is taken to be over when its lock is given back.

The name follows a symbolic link only to a file that exists. Unless a link to a file that
does not exist yet is among the paths, all locks are one, and such a run is one of a
single process that is started again and again.
-/

namespace RustEnrich.Storage

open Transitions

/-- The identity of a process. -/
abbrev ProcessId := Nat

/-- How the paths of the processes lead to one file, which has no hard links. -/
structure Place where
  /-- The canonical name of the file. -/
  canonical : String
  /-- The paths, each as the canonical name of its directory with its own last part. -/
  names : Set String

namespace Place

/-- No path ends in a symbolic link. -/
def Direct (place : Place) : Prop := ∀ name ∈ place.names, name = place.canonical

/-- The lock of the file itself. -/
def fileLock (place : Place) : String := place.canonical ++ ".lock"

/-- The lock `open` tries for a path. A link is followed where its file exists. -/
def lockPath (place : Place) (file : Option File) (name : String) : String :=
  match file with
  | some _ => place.canonical ++ ".lock"
  | none => name ++ ".lock"

end Place

/-- How far a process is in `open` once it has its lock. -/
inductive Phase
  | connecting
  /-- Connected, with nothing checked. -/
  | initializing
  /-- With the checks done and a migration committed. -/
  | reconciling

/-- Where a process is with the file. -/
inductive Process
  | idle
  /-- In `open`, before its lock is tried. -/
  | naming (settings : Settings) (lock : String)
  | opening (phase : Phase) (settings : Settings) (lock : String)
  | running (session : Session) (lock : String)

namespace Process

/-- The lock a process has or is about to try. -/
def aim : Process → Option String
  | .idle => none
  | .naming _ lock | .opening _ _ lock | .running _ lock => some lock

/-- The lock it has. -/
def holds : Process → Option String
  | .idle | .naming .. => none
  | .opening _ _ lock | .running _ lock => some lock

end Process

/-- The file and everybody who may be at it. -/
structure Machine where
  /-- Absent until a process connects. -/
  file : Option File
  /-- Who has the lock of a name. -/
  owner : String → Option ProcessId
  processes : ProcessId → Process

/-- What is told of a machine. -/
inductive MachineEvent
  /-- `open` finds the lock taken. -/
  | alreadyOwned (process : ProcessId)
  | openFailed (process : ProcessId) (error : StorageError)
  | worked (process : ProcessId) (event : Event)

/-- What a single process would have done. -/
def MachineEvent.storage : MachineEvent → Option Event
  | .worked _ event => some event
  | _ => none

/-- What is heard of an `open` that does not come up: its error, or nothing of one that is
dropped or whose process ends. -/
inductive Unopened (process : ProcessId) : List MachineEvent → Prop
  | gone : Unopened process []
  | failed (error : StorageError) : Unopened process [.openFailed process error]

/-- The contents a start begins with, none where it migrates. -/
inductive File.Found : Option File → Option Database → Prop
  | missing : Found none none
  | blank {file : File} (blank : file.Blank) : Found (some file) none
  | kept {file : File} {database : Database} (keeps : file.Keeps database) :
      Found (some file) (some database)

namespace Machine

/-- Nobody works at the file, if there is one. -/
def initial (file : Option File) : Machine where
  file
  owner := fun _ => none
  processes := fun _ => .idle

/-- A process goes on, and the file is as it leaves it. -/
def go (machine : Machine) (process : ProcessId) (state : Process) (file : Option File) :
    Machine :=
  { machine with file, processes := Function.update machine.processes process state }

/-- The end of a process, or of its `open`: the lock goes with it. -/
def leave (machine : Machine) (process : ProcessId) (lock : String) (file : Option File) :
    Machine where
  file
  owner := Function.update machine.owner lock none
  processes := Function.update machine.processes process .idle

/-- What can happen on a machine. -/
inductive Step (codec : PayloadCodec) (place : Place) :
    Machine → List MachineEvent → Machine → Prop
  | named {machine : Machine} {process : ProcessId} {name : String} (settings : Settings)
      (idle : machine.processes process = .idle) (spelled : name ∈ place.names) :
      Step codec place machine [] (machine.go process
        (.naming settings (place.lockPath machine.file name)) machine.file)
  /-- A directory or a lock file that cannot be made, or the end of the process. -/
  | unlocked {machine : Machine} {process : ProcessId} {settings : Settings} {lock : String}
      {report : List MachineEvent} (naming : machine.processes process = .naming settings lock)
      (reports : Unopened process report) :
      Step codec place machine report (machine.go process .idle machine.file)
  | alreadyOwned {machine : Machine} {process owner : ProcessId} {settings : Settings}
      {lock : String} (naming : machine.processes process = .naming settings lock)
      (owned : machine.owner lock = some owner) :
      Step codec place machine [.alreadyOwned process] (machine.go process .idle machine.file)
  | locked {machine : Machine} {process : ProcessId} {settings : Settings} {lock : String}
      (naming : machine.processes process = .naming settings lock)
      (free : machine.owner lock = none) :
      Step codec place machine [] { machine with
        owner := Function.update machine.owner lock (some process)
        processes := Function.update machine.processes process
          (.opening .connecting settings lock) }
  /-- `open` fails, times out or is dropped, or its process ends, and what it has not
  committed is rolled back. -/
  | unopened {machine : Machine} {process : ProcessId} {phase : Phase} {settings : Settings}
      {lock : String} {report : List MachineEvent}
      (opening : machine.processes process = .opening phase settings lock)
      (reports : Unopened process report) :
      Step codec place machine report (machine.leave process lock machine.file)
  /-- Connecting creates a file that is missing. -/
  | created {machine : Machine} {process : ProcessId} {settings : Settings} {lock : String}
      (opening : machine.processes process = .opening .connecting settings lock)
      (missing : machine.file = none) :
      Step codec place machine [] { machine with file := some .empty }
  /-- It switches the journal before anything is checked. -/
  | switched {machine : Machine} {process : ProcessId} {settings : Settings} {lock : String}
      {file : File} (opening : machine.processes process = .opening .connecting settings lock)
      (there : machine.file = some file) :
      Step codec place machine [] { machine with file := some file.inWal }
  | connected {machine : Machine} {process : ProcessId} {settings : Settings} {lock : String}
      {file : File} (opening : machine.processes process = .opening .connecting settings lock)
      (there : machine.file = some file) :
      Step codec place machine []
        (machine.go process (.opening .initializing settings lock) machine.file)
  | prepared {machine : Machine} {process : ProcessId} {settings : Settings} {lock : String}
      {file base : File} {created : DateTime}
      (opening : machine.processes process = .opening .initializing settings lock)
      (there : machine.file = some file) (prepares : file.prepare created = .ok base) :
      Step codec place machine []
        (machine.go process (.opening .reconciling settings lock) (some base))
  /-- The reconciliation takes effect, and is not answered. -/
  | unanswered {machine : Machine} {process : ProcessId} {settings : Settings} {lock : String}
      {file left : File} {wall : DateTime} {effective : Int} {report : List MachineEvent}
      (opening : machine.processes process = .opening .reconciling settings lock)
      (there : machine.file = some file)
      (reconciled : file.reconcile settings wall = .ok (left, effective))
      (reports : Unopened process report) :
      Step codec place machine report (machine.leave process lock (some left))
  | opened {machine : Machine} {process : ProcessId} {settings : Settings} {lock : String}
      {file left : File} {wall : DateTime} {effective : Int}
      (opening : machine.processes process = .opening .reconciling settings lock)
      (there : machine.file = some file)
      (reconciled : file.reconcile settings wall = .ok (left, effective)) :
      Step codec place machine [.worked process (.opened settings wall effective)]
        (machine.go process (.running (.fresh settings effective) lock) (some left))
  /-- A step of an open storage, on what the file stores. -/
  | worked {machine : Machine} {process : ProcessId} {session after : Session} {lock : String}
      {file : File} {database next : Database} {events : List Event}
      (running : machine.processes process = .running session lock)
      (there : machine.file = some file) (stored : file.stored = some database)
      (taken : Storage.Step codec (.running database session) events (.running next after)) :
      Step codec place machine (events.map (.worked process))
        (machine.go process (.running after lock) (some (file.write next)))
  /-- `close`, or the end of the process. -/
  | closed {machine : Machine} {process : ProcessId} {session : Session} {lock : String}
      (running : machine.processes process = .running session lock) :
      Step codec place machine [.worked process .closed]
        (machine.leave process lock machine.file)

/-- A lock has the process that holds it. -/
def Disciplined (machine : Machine) : Prop :=
  ∀ process lock, machine.owner lock = some process ↔
    (machine.processes process).holds = some lock

/-- At most one process is at the file. -/
def Exclusive (machine : Machine) : Prop :=
  ∀ process other, (machine.processes process).holds ≠ none →
    (machine.processes other).holds ≠ none → process = other

/-- Everybody goes for the lock of the file itself. -/
structure OneLock (place : Place) (machine : Machine) : Prop where
  found : machine.file.isSome ∨ place.Direct
  aims : ∀ process lock, (machine.processes process).aim = some lock → lock = place.fileLock

/-- What is reconciled has the schema. -/
def Prepared (machine : Machine) : Prop :=
  ∀ process settings lock, machine.processes process = .opening .reconciling settings lock →
    ∃ file, machine.file = some file ∧ file.Versioned

/-- No process works at the file. -/
def Resting (machine : Machine) : Prop :=
  ∀ process session lock, machine.processes process ≠ .running session lock

/-- What a single process would see: the file while nobody works at it, and otherwise the
session of the one who does. -/
inductive Shows (machine : Machine) : World → Prop
  | resting {database : Option Database} (resting : machine.Resting)
      (found : File.Found machine.file database) : Shows machine (.closed database)
  | running {file : File} {database : Database} {process : ProcessId} {session : Session}
      {lock : String} (runs : machine.processes process = .running session lock)
      (there : machine.file = some file) (keeps : file.Keeps database) :
      Shows machine (.running database session)

section Locks

variable {codec : PayloadCodec} {place : Place} {machine after : Machine}
  {process other : ProcessId} {state : Process} {lock : String} {events : List MachineEvent}

/-- A process goes on with the lock it has, or without one. -/
theorem Disciplined.go (disciplined : machine.Disciplined)
    (same : state.holds = (machine.processes process).holds) (file : Option File) :
    (machine.go process state file).Disciplined := by
  intro other held
  by_cases own : other = process
  · subst own
    rw [Machine.go]
    dsimp only
    rw [Function.update_self, same]
    exact disciplined other held
  · rw [Machine.go]
    dsimp only
    rw [Function.update_of_ne own]
    exact disciplined other held

/-- A process gives its lock up. -/
theorem Disciplined.leave (disciplined : machine.Disciplined)
    (has : (machine.processes process).holds = some lock) (file : Option File) :
    (machine.leave process lock file).Disciplined := by
  have owner := (disciplined process lock).mpr has
  intro other held
  rw [Machine.leave]
  dsimp only
  by_cases own : other = process
  · subst own
    rw [Function.update_self]
    refine iff_of_false ?_ nofun
    by_cases given : held = lock
    · rw [given, Function.update_self]
      exact nofun
    · rw [Function.update_of_ne given, disciplined, has]
      exact fun equal => given (Option.some.inj equal).symm
  · rw [Function.update_of_ne own]
    by_cases given : held = lock
    · rw [given, Function.update_self, ← disciplined, owner]
      exact iff_of_false nofun fun equal => own (Option.some.inj equal).symm
    · rw [Function.update_of_ne given]
      exact disciplined other held

/-- A process takes a lock that nobody has. -/
theorem Disciplined.take (disciplined : machine.Disciplined) (free : machine.owner lock = none)
    (has : (machine.processes process).holds = none) (takes : state.holds = some lock) :
    Disciplined { machine with
      owner := Function.update machine.owner lock (some process)
      processes := Function.update machine.processes process state } := by
  intro other held
  dsimp only
  by_cases own : other = process
  · subst own
    rw [Function.update_self, takes]
    by_cases taken : held = lock
    · rw [taken, Function.update_self]
      exact iff_of_true rfl rfl
    · rw [Function.update_of_ne taken, disciplined, has]
      exact iff_of_false nofun fun equal => taken (Option.some.inj equal).symm
  · rw [Function.update_of_ne own]
    by_cases taken : held = lock
    · rw [taken, Function.update_self, ← disciplined, free]
      exact iff_of_false (fun equal => own (Option.some.inj equal).symm) nofun
    · rw [Function.update_of_ne taken]
      exact disciplined other held

/-- No step leaves a lock with somebody who is gone, or takes one from its owner. -/
theorem Disciplined.step (disciplined : machine.Disciplined)
    (taken : Step codec place machine events after) : after.Disciplined := by
  cases taken with
  | named settings idle => exact disciplined.go (by rw [idle]; rfl) _
  | unlocked naming | alreadyOwned naming => exact disciplined.go (by rw [naming]; rfl) _
  | locked naming free => exact disciplined.take free (by rw [naming]; rfl) rfl
  | created | switched => exact disciplined
  | connected opening | prepared opening | opened opening =>
      exact disciplined.go (by rw [opening]; rfl) _
  | unopened opening | unanswered opening => exact disciplined.leave (by rw [opening]; rfl) _
  | worked running => exact disciplined.go (by rw [running]; rfl) _
  | closed running => exact disciplined.leave (by rw [running]; rfl) _

/-- Where all go for one lock, it keeps them apart. -/
theorem OneLock.exclusive (oneLock : machine.OneLock place)
    (disciplined : machine.Disciplined) : machine.Exclusive := by
  have aims : ∀ {process lock}, (machine.processes process).holds = some lock →
      lock = place.fileLock := by
    intro process lock holds
    refine oneLock.aims process lock ?_
    cases state : machine.processes process with
    | idle | naming =>
        rw [state] at holds
        cases holds
    | opening | running =>
        rw [state] at holds
        exact holds
  intro process other busy active
  obtain ⟨lock, has⟩ := Option.ne_none_iff_exists'.mp busy
  obtain ⟨held, also⟩ := Option.ne_none_iff_exists'.mp active
  have owner := (disciplined process lock).mpr has
  rw [aims has, ← aims also, (disciplined other held).mpr also] at owner
  exact (Option.some.inj owner).symm

/-- A process goes on for the lock it went for, and a file that is there stays. -/
theorem OneLock.go (oneLock : machine.OneLock place)
    (aims : ∀ lock, state.aim = some lock → lock = place.fileLock) {file : Option File}
    (found : file.isSome ∨ place.Direct) {owner : String → Option ProcessId} :
    OneLock place {
      file
      owner
      processes := Function.update machine.processes process state } where
  found
  aims := by
    intro other lock aim
    by_cases own : other = process
    · subst own
      dsimp only at aim
      rw [Function.update_self] at aim
      exact aims lock aim
    · dsimp only at aim
      rw [Function.update_of_ne own] at aim
      exact oneLock.aims other lock aim

/-- A file that is there is there to the end, and locked under its own name. -/
theorem OneLock.step (oneLock : machine.OneLock place)
    (taken : Step codec place machine events after) : after.OneLock place := by
  have kept : ∀ {process settings phase lock},
      machine.processes process = .opening phase settings lock → lock = place.fileLock :=
    fun opening => oneLock.aims _ _ (by rw [opening]; rfl)
  have left : ∀ lock, Process.idle.aim = some lock → lock = place.fileLock := fun _ => nofun
  cases taken with
  | @named process name settings idle spelled =>
      refine oneLock.go ?_ oneLock.found
      rintro _ ⟨⟩
      cases there : machine.file with
      | some file => rfl
      | none =>
          rcases oneLock.found with found | direct
          · rw [there] at found
            cases found
          · exact congrArg (· ++ ".lock") (direct name spelled)
  | unlocked | alreadyOwned | unopened | closed => exact oneLock.go left oneLock.found
  | unanswered => exact oneLock.go left (.inl rfl)
  | locked naming =>
      refine oneLock.go ?_ oneLock.found
      rintro _ ⟨⟩
      exact oneLock.aims _ _ (by rw [naming]; rfl)
  | created | switched => exact ⟨.inl rfl, oneLock.aims⟩
  | connected opening =>
      refine oneLock.go ?_ oneLock.found
      rintro _ ⟨⟩
      exact kept opening
  | prepared opening | opened opening =>
      refine oneLock.go ?_ (.inl rfl)
      rintro _ ⟨⟩
      exact kept opening
  | worked running =>
      refine oneLock.go ?_ (.inl rfl)
      rintro _ ⟨⟩
      exact oneLock.aims _ _ (by rw [running]; rfl)

/-- A process goes on, and what is reconciled keeps its schema. -/
theorem Prepared.go (prepared : machine.Prepared) {file : Option File}
    {owner : String → Option ProcessId}
    (stays : ∀ found, machine.file = some found → found.Versioned →
      ∃ left, file = some left ∧ left.Versioned)
    (own : ∀ settings lock, state = .opening .reconciling settings lock →
      ∃ left, file = some left ∧ left.Versioned) :
    Prepared { file, owner, processes := Function.update machine.processes process state } := by
  intro other settings lock opening
  by_cases same : other = process
  · subst same
    dsimp only at opening
    rw [Function.update_self] at opening
    exact own settings lock opening
  · dsimp only at opening
    rw [Function.update_of_ne same] at opening
    obtain ⟨found, there, versioned⟩ := prepared other settings lock opening
    exact stays found there versioned

/-- Whoever comes to the reconciliation has checked the file, and nobody takes its schema
away. -/
theorem Prepared.step (prepared : machine.Prepared)
    (taken : Step codec place machine events after) : after.Prepared := by
  have unchanged : ∀ found, machine.file = some found → found.Versioned →
      ∃ left, machine.file = some left ∧ left.Versioned :=
    fun found there versioned => ⟨found, there, versioned⟩
  cases taken with
  | named | unlocked | alreadyOwned | locked | unopened | connected | closed =>
      exact prepared.go unchanged fun _ _ => nofun
  | created opening missing =>
      intro other settings lock reconciling
      obtain ⟨file, there, _⟩ := prepared other settings lock reconciling
      rw [missing] at there
      cases there
  | switched opening there =>
      intro other settings lock reconciling
      obtain ⟨file, same, versioned⟩ := prepared other settings lock reconciling
      rw [there] at same
      cases same
      exact ⟨_, rfl, versioned.version, versioned.intact⟩
  | prepared opening there prepares =>
      exact prepared.go (fun _ _ _ => ⟨_, rfl, .of_prepare prepares⟩)
        fun _ _ _ => ⟨_, rfl, .of_prepare prepares⟩
  | unanswered opening there reconciled | opened opening there reconciled =>
      refine prepared.go ?_ fun _ _ => nofun
      intro found same versioned
      rw [there] at same
      cases same
      exact ⟨_, rfl, versioned.reconcile reconciled⟩
  | worked running there =>
      refine prepared.go ?_ fun _ _ => nofun
      intro found same versioned
      rw [there] at same
      cases same
      exact ⟨_, rfl, versioned.version, versioned.intact⟩

end Locks

end Machine

section Opening

variable {file left : File} {found : Option File} {database : Option Database}
  {settings : Settings} {created wall : DateTime} {effective : Int}

/-- What can be found does not depend on the journal. -/
theorem File.Found.of_inWal {other : Option File} (there : File.Found other database)
    (alike : other.map File.inWal = found.map File.inWal) : File.Found found database := by
  cases found with
  | none =>
      cases other with
      | none => exact there
      | some file => cases alike
  | some file =>
      cases there with
      | missing => cases alike
      | blank blank =>
          exact .blank (File.blank_inWal.mp (Option.some.inj alike ▸ File.blank_inWal.mpr blank))
      | kept keeps =>
          exact .kept (File.keeps_inWal.mp (Option.some.inj alike ▸ File.keeps_inWal.mpr keeps))

/-- A file with the schema is not one to migrate. -/
theorem File.Found.of_versioned (found : File.Found (some file) database)
    (versioned : file.Versioned) :
    ∃ contents, database = some contents ∧ file.Keeps contents := by
  cases found with
  | blank blank => exact absurd (blank.version.symm.trans versioned.version) (by decide)
  | kept keeps => exact ⟨_, rfl, keeps⟩

/-- A reconciliation of the file is one of what it stores. -/
theorem File.Keeps.reconciled {held : Database} (keeps : file.Keeps held)
    (reconciled : file.reconcile settings wall = .ok (left, effective)) :
    ∃ next, Storage.reconcile settings wall held = .ok (next, effective) ∧
      left.Keeps next := by
  obtain ⟨database, next, stored, does, rfl⟩ := File.reconcile_ok.mp reconciled
  obtain rfl := keeps.stored_unique stored
  have opens : file.Opens .epoch database file := .kept keeps
  exact ⟨next, does, opens.reconciled does⟩

/-- A file that is prepared shows what it showed, or a migration. -/
theorem File.Found.prepared (found : File.Found (some file) database) {codec : PayloadCodec}
    {base : File} (prepares : file.prepare created = .ok base) :
    ∃ next, Run (Storage.Step codec) (.closed database) [] (.closed next) ∧
      File.Found (some base) next := by
  rcases File.prepare_ok.mp prepares with ⟨blank, rfl⟩ | ⟨versioned, rfl⟩
  · cases found with
    | blank => exact ⟨_, .single (.migrated created), .kept (File.Opens.migrated blank).keeps⟩
    | kept keeps => exact absurd (blank.version.symm.trans keeps.version) (by decide)
  · exact ⟨_, .refl, found⟩

end Opening

namespace Machine

section Simulation

variable {codec : PayloadCodec} {place : Place} {machine after : Machine} {process : ProcessId}
  {world : World} {events : List MachineEvent} {lock : String}

/-- Of what is not from a storage nothing is seen. -/
theorem Unopened.unseen {report : List MachineEvent} (reports : Unopened process report) :
    report.filterMap MachineEvent.storage = [] := by
  cases reports <;> rfl

/-- While a process opens the file nobody works at it. -/
theorem Exclusive.resting (exclusive : machine.Exclusive) {phase : Phase} {settings : Settings}
    (opening : machine.processes process = .opening phase settings lock) : machine.Resting := by
  intro other session held running
  have same : process = other := exclusive process other (by rw [opening]; exact nofun)
    (by rw [running]; exact nofun)
  rw [← same, opening] at running
  cases running

/-- Nobody starts to work by going on to anything else. -/
theorem Resting.update (resting : machine.Resting) (file : Option File)
    (owner : String → Option ProcessId) (process : ProcessId) {state : Process}
    (unworked : ∀ session lock, state ≠ .running session lock) :
    Resting { file, owner, processes := Function.update machine.processes process state } := by
  intro other session lock
  by_cases same : other = process
  · subst same
    dsimp only
    rw [Function.update_self]
    exact unworked session lock
  · dsimp only
    rw [Function.update_of_ne same]
    exact resting other session lock

/-- When the process that works ends, nobody does. -/
theorem Exclusive.resting_leave (exclusive : machine.Exclusive) {session : Session}
    (running : machine.processes process = .running session lock) (file : Option File) :
    (machine.leave process lock file).Resting := by
  intro other after held works
  rw [Machine.leave] at works
  dsimp only at works
  by_cases same : other = process
  · rw [same, Function.update_self] at works
    cases works
  · rw [Function.update_of_ne same] at works
    exact same (exclusive other process (by rw [works]; exact nofun)
      (by rw [running]; exact nofun))

/-- What a process does that is not at the file is not seen. -/
theorem Shows.unseen (shows_ : machine.Shows world) (owner : String → Option ProcessId)
    {state : Process}
    (unworked : ∀ session lock, machine.processes process ≠ .running session lock)
    (still : ∀ session lock, state ≠ .running session lock) :
    Shows { machine with
      owner
      processes := Function.update machine.processes process state } world := by
  cases shows_ with
  | resting resting found => exact .resting (resting.update _ _ _ still) found
  | @running file database worker session lock runs there keeps =>
      have apart : worker ≠ process := by
        rintro rfl
        exact unworked session lock runs
      have still_runs : Function.update machine.processes process state worker =
          .running session lock := (Function.update_of_ne apart ..).trans runs
      exact .running still_runs there keeps

/-- What is seen while a process opens the file. -/
theorem Shows.opening (shows_ : machine.Shows world) (exclusive : machine.Exclusive)
    {phase : Phase} {settings : Settings}
    (opening : machine.processes process = .opening phase settings lock) :
    ∃ database, world = .closed database ∧ File.Found machine.file database := by
  cases shows_ with
  | resting resting found => exact ⟨_, rfl, found⟩
  | running runs => exact absurd runs (exclusive.resting opening _ _ _)

/-- What is seen while a process works at it. -/
theorem Shows.working (shows_ : machine.Shows world) (exclusive : machine.Exclusive)
    {session : Session} (running : machine.processes process = .running session lock) :
    ∃ file database, world = .running database session ∧ machine.file = some file ∧
      file.Keeps database := by
  cases shows_ with
  | resting resting => exact absurd running (resting _ _ _)
  | @running file database worker other held runs there keeps =>
      have same : worker = process := exclusive worker process (by rw [runs]; exact nofun)
        (by rw [running]; exact nofun)
      rw [same, running] at runs
      cases runs
      exact ⟨file, database, rfl, there, keeps⟩

/-- What is seen when a file is about to be reconciled. -/
theorem Shows.reconciling (shows_ : machine.Shows world) (exclusive : machine.Exclusive)
    (prepared : machine.Prepared) {settings : Settings} {file left : File} {wall : DateTime}
    {effective : Int}
    (opening : machine.processes process = .opening .reconciling settings lock)
    (there : machine.file = some file)
    (reconciled : file.reconcile settings wall = .ok (left, effective)) :
    ∃ contents next, world = .closed (some contents) ∧
      Storage.reconcile settings wall contents = .ok (next, effective) ∧ left.Keeps next := by
  obtain ⟨database, rfl, found⟩ := shows_.opening exclusive opening
  obtain ⟨same, also, versioned⟩ := prepared process settings lock opening
  rw [there] at also found
  cases also
  obtain ⟨contents, rfl, keeps⟩ := found.of_versioned versioned
  obtain ⟨next, does, left⟩ := keeps.reconciled reconciled
  exact ⟨contents, next, rfl, does, left⟩

/-- Each step of a process is one of the single process, or nothing to it. -/
theorem Step.seen (taken : Step codec place machine events after)
    (exclusive : machine.Exclusive) (prepared : machine.Prepared)
    (shows_ : machine.Shows world) :
    ∃ next, Run (Storage.Step codec) world (events.filterMap MachineEvent.storage) next ∧
      after.Shows next := by
  cases taken with
  | named settings idle =>
      exact ⟨world, .refl, shows_.unseen _ (by rw [idle]; exact fun _ _ => nofun)
        fun _ _ => nofun⟩
  | unlocked naming reports =>
      rw [Unopened.unseen reports]
      exact ⟨world, .refl, shows_.unseen _ (by rw [naming]; exact fun _ _ => nofun)
        fun _ _ => nofun⟩
  | alreadyOwned naming | locked naming =>
      exact ⟨world, .refl, shows_.unseen _ (by rw [naming]; exact fun _ _ => nofun)
        fun _ _ => nofun⟩
  | unopened opening reports =>
      rw [Unopened.unseen reports]
      exact ⟨world, .refl, shows_.unseen _ (by rw [opening]; exact fun _ _ => nofun)
        fun _ _ => nofun⟩
  | connected opening =>
      exact ⟨world, .refl, shows_.unseen _ (by rw [opening]; exact fun _ _ => nofun)
        fun _ _ => nofun⟩
  | created opening missing =>
      obtain ⟨database, rfl, found⟩ := shows_.opening exclusive opening
      rw [missing] at found
      cases found
      exact ⟨_, .refl, .resting (exclusive.resting opening) (.blank File.empty_blank)⟩
  | switched opening there =>
      obtain ⟨database, rfl, found⟩ := shows_.opening exclusive opening
      rw [there] at found
      exact ⟨_, .refl, .resting (exclusive.resting opening) (found.of_inWal rfl)⟩
  | prepared opening there prepares =>
      obtain ⟨database, rfl, found⟩ := shows_.opening exclusive opening
      rw [there] at found
      obtain ⟨next, migrates, base⟩ := found.prepared prepares
      exact ⟨_, migrates, .resting ((exclusive.resting opening).update _ _ _ fun _ _ => nofun)
        base⟩
  | unanswered opening there reconciled reports =>
      obtain ⟨contents, next, rfl, does, keeps⟩ :=
        shows_.reconciling exclusive prepared opening there reconciled
      rw [Unopened.unseen reports]
      exact ⟨_, .single (@Storage.Step.openTimedOut _ _ _ .epoch _ _ _ does),
        .resting ((exclusive.resting opening).update _ _ _ fun _ _ => nofun) (.kept keeps)⟩
  | opened opening there reconciled =>
      obtain ⟨contents, next, rfl, does, keeps⟩ :=
        shows_.reconciling exclusive prepared opening there reconciled
      exact ⟨_, .single (@Storage.Step.opened _ _ _ .epoch _ _ _ does),
        .running (Function.update_self ..) rfl keeps⟩
  | @worked process session next_ lock file database next events running there stored taken =>
      obtain ⟨kept, contents, rfl, same, keeps⟩ := shows_.working exclusive running
      rw [there] at same
      cases same
      obtain rfl := keeps.stored_unique stored
      have view : (events.map (MachineEvent.worked process)).filterMap MachineEvent.storage =
          events := by
        rw [List.filterMap_map]
        exact List.filterMap_some
      rw [view]
      exact ⟨_, .single taken, .running (Function.update_self ..) rfl (keeps.write next)⟩
  | closed running =>
      obtain ⟨file, database, rfl, there, keeps⟩ := shows_.working exclusive running
      refine ⟨_, .single .closed, .resting (exclusive.resting_leave running _) ?_⟩
      rw [Machine.leave, there]
      exact .kept keeps

/-- A file that cannot be opened stays as it is but for its journal, and nobody works at
it. -/
theorem Step.unopenable {found : Option File} (taken : Step codec place machine events after)
    (prepared : machine.Prepared) (unopenable : ∀ database, ¬ File.Found found database)
    (rests : machine.file.map File.inWal = found.map File.inWal ∧ machine.Resting) :
    after.file.map File.inWal = found.map File.inWal ∧ after.Resting := by
  obtain ⟨same, resting⟩ := rests
  have refused : ∀ database, ¬ File.Found machine.file database :=
    fun database there => unopenable database (there.of_inWal same)
  have unreconciled : ∀ {process settings lock file left wall effective},
      machine.processes process = .opening .reconciling settings lock →
        machine.file = some file → file.reconcile settings wall ≠ .ok (left, effective) := by
    intro process settings lock file left wall effective opening there reconciled
    obtain ⟨_, also, versioned⟩ := prepared process settings lock opening
    rw [there] at also refused
    cases also
    obtain ⟨database, _, stored, _, _⟩ := File.reconcile_ok.mp reconciled
    exact refused _ (.kept ⟨versioned.version, versioned.intact, stored⟩)
  cases taken with
  | named | unlocked | alreadyOwned | locked | unopened | connected | closed =>
      exact ⟨same, resting.update _ _ _ fun _ _ => nofun⟩
  | created opening missing =>
      rw [missing] at refused
      exact absurd .missing (refused none)
  | switched opening there =>
      rw [there] at same
      exact ⟨same, resting⟩
  | prepared opening there prepares =>
      rw [there] at refused same
      rcases File.prepare_ok.mp prepares with ⟨blank, rfl⟩ | ⟨_, rfl⟩
      · exact absurd (.blank blank) (refused none)
      · exact ⟨same, resting.update _ _ _ fun _ _ => nofun⟩
  | unanswered opening there reconciled | opened opening there reconciled =>
      exact absurd reconciled (unreconciled opening there)
  | worked running => exact absurd running (resting _ _ _)

end Simulation

section Runs

variable {codec : PayloadCodec} {place : Place} {machine after : Machine} {process : ProcessId}
  {file : Option File} {trace : List MachineEvent}

/-- The lock discipline and the order of the phases hold in every run. -/
theorem disciplined_run (run : Run (Step codec place) (.initial file) trace after) :
    after.Disciplined ∧ after.Prepared :=
  run.stateInvariant (fun machine => machine.Disciplined ∧ machine.Prepared)
    ⟨fun _ _ => iff_of_false nofun nofun, fun _ _ _ => nofun⟩
    fun _ _ _ both taken => ⟨both.1.step taken, both.2.step taken⟩

/-- Where every path leads to one lock, all go for it in every run. -/
theorem oneLock_run (found : file.isSome ∨ place.Direct)
    (run : Run (Step codec place) (.initial file) trace after) : after.OneLock place :=
  run.stateInvariant (OneLock place) ⟨found, fun _ _ => nofun⟩
    fun _ _ _ oneLock taken => oneLock.step taken

/-- A process whose lock is free comes up on a file that one can come up on, and leaves
one. -/
theorem comes_up {name : String} (codec : PayloadCodec) (machine : Machine)
    (process : ProcessId)
    (idle : machine.processes process = .idle) (spelled : name ∈ place.names)
    (free : machine.owner (place.lockPath machine.file name) = none)
    (startable : (machine.file.getD .empty).Startable) (settings : Settings)
    (wall : DateTime) :
    ∃ trace session left, Run (Step codec place) machine trace
        { file := some left
          owner := Function.update machine.owner (place.lockPath machine.file name) (some process)
          processes := Function.update machine.processes process
            (.running session (place.lockPath machine.file name)) } ∧
      left.Startable := by
  obtain ⟨now, left, initialized⟩ := (initializeFile_starts settings wall wall).mpr startable
  obtain ⟨_, database, next, base, opens, does, rfl⟩ := initializeFile_ok.mp initialized
  obtain ⟨prepares, stored⟩ := File.opens_iff.mp opens
  have reconciled := File.reconcile_ok.mpr ⟨database, next, stored, does, rfl⟩
  obtain ⟨again, readable⟩ := (File.reconciles_iff settings wall).mp
    ⟨_, _, File.reconcile_again reconciled⟩
  have versioned := (File.Versioned.of_prepare prepares).reconcile reconciled
  have run : Run (Step codec place) machine [] machine := .refl
  have run := run.snoc (Step.named settings idle spelled)
  have run := run.snoc (@Step.locked _ _ _ process _ _ (Function.update_self ..) free)
  have arrived : ∃ trace, Run (Step codec place) machine trace
      { file := some (machine.file.getD .empty)
        owner := Function.update machine.owner (place.lockPath machine.file name) (some process)
        processes := Function.update machine.processes process
          (.opening .connecting settings (place.lockPath machine.file name)) } := by
    rw [Machine.go] at run
    dsimp only at run
    rw [Function.update_idem] at run
    cases there : machine.file with
    | some file =>
        rw [there] at run
        exact ⟨_, run⟩
    | none =>
        rw [there] at run
        exact ⟨_, run.snoc (@Step.created _ _ _ process _ _ (Function.update_self ..) rfl)⟩
  obtain ⟨trace, run⟩ := arrived
  have run := run.snoc (@Step.connected _ _ _ process _ _ _ (Function.update_self ..) rfl)
  have run := run.snoc
    (@Step.prepared _ _ _ process _ _ _ _ _ (Function.update_self ..) rfl prepares)
  have run := run.snoc
    (@Step.opened _ _ _ process _ _ _ _ _ _ (Function.update_self ..) rfl reconciled)
  simp only [Machine.go, Function.update_idem] at run
  exact ⟨_, _, _, run, .inr ⟨versioned, again, readable⟩⟩

/-- Through a link to a missing file one process comes up with a lock beside the link, and
a second with the lock beside the file. -/
theorem not_exclusive {name : String} (codec : PayloadCodec) (spelled : name ∈ place.names)
    (linked : name ≠ place.canonical) :
    ∃ trace after, Run (Step codec place) (.initial none) trace after ∧ ¬ after.Exclusive := by
  have apart : place.fileLock ≠ name ++ ".lock" := by
    intro same
    exact linked (String.append_left_inj ".lock" |>.mp same).symm
  have free : Function.update (fun _ => none) (name ++ ".lock") (some 0) place.fileLock = none :=
    Function.update_of_ne apart ..
  obtain ⟨first, one, left, run, startable⟩ := comes_up codec (.initial none) 0 rfl spelled rfl
    (.inl File.empty_blank) .single .epoch
  obtain ⟨second, two, kept, next, _⟩ := comes_up codec
    { file := some left
      owner := Function.update (fun _ => none) (name ++ ".lock") (some 0)
      processes := Function.update (fun _ => .idle) 0 (.running one (name ++ ".lock")) }
    1 rfl spelled free startable .single .epoch
  refine ⟨_, _, run.append next, fun exclusive => ?_⟩
  refine absurd (exclusive 0 1 ?_ ?_) Nat.zero_ne_one
  · dsimp only
    rw [Function.update_of_ne Nat.zero_ne_one, Function.update_self]
    exact nofun
  · dsimp only
    rw [Function.update_self]
    exact nofun

/-- What holds of every run of processes at one place. -/
structure OneProcess (codec : PayloadCodec) (place : Place) (file : Option File) : Prop where
  /-- A lock has the process that holds it, and none that is gone. -/
  locks : ∀ trace after, Run (Step codec place) (.initial file) trace after → after.Disciplined
  /-- It keeps them apart exactly where the file was there before or no path is a link. -/
  exclusive : (∀ trace after, Run (Step codec place) (.initial file) trace after →
    after.Exclusive) ↔ file.isSome ∨ place.Direct
  /-- Then they do what a single process would that is started again and again. -/
  serial : file.isSome ∨ place.Direct → ∀ database, File.Found file database →
    ∀ trace after, Run (Step codec place) (.initial file) trace after → ∃ world,
      Run (Storage.Step codec) (.closed database) (trace.filterMap MachineEvent.storage) world ∧
        after.Shows world
  /-- A file that cannot be opened is only connected to. -/
  untouched : (∀ database, ¬ File.Found file database) →
    ∀ trace after, Run (Step codec place) (.initial file) trace after →
      after.file.map File.inWal = file.map File.inWal ∧ after.Resting

/-- **One process at a time.** However many processes start on a file, through whatever
paths, and however they end, at most one is at it, unless a path is a link to a file that
did not exist. On a file that can be opened they do what a single process would; a file
that cannot be opened is never changed but for its journal, and nobody ever works at it. -/
theorem one_process (codec : PayloadCodec) (place : Place) (file : Option File) :
    OneProcess codec place file where
  locks := fun _ _ run => (disciplined_run run).1
  exclusive := by
    constructor
    · intro exclusive
      cases file with
      | some file => exact .inl rfl
      | none =>
          refine .inr fun name spelled => ?_
          by_contra linked
          obtain ⟨trace, after, run, both⟩ := not_exclusive codec spelled linked
          exact both (exclusive trace after run)
    · intro found trace after run
      exact (oneLock_run found run).exclusive (disciplined_run run).1
  serial := by
    intro apart database found trace after run
    have shown : (initial file).Shows (.closed database) := .resting (fun _ _ _ => nofun) found
    have still : Run (Step codec place) (.initial file) [] (.initial file) := .refl
    have start : (initial file).Disciplined ∧ (initial file).Prepared ∧
        (initial file).OneLock place :=
      ⟨(disciplined_run still).1, (disciplined_run still).2, oneLock_run apart still⟩
    obtain ⟨world, seen, _, shows_⟩ := @Run.simulate _ _ _ _ _ (Storage.Step codec) _
      (fun machine world => (machine.Disciplined ∧ machine.Prepared ∧ machine.OneLock place) ∧
        machine.Shows world) _ _ _ _ run ⟨start, shown⟩
      fun before _ next world both taken => by
        obtain ⟨⟨disciplined, prepared, oneLock⟩, shows_⟩ := both
        obtain ⟨later, seen, shows_⟩ :=
          taken.seen (oneLock.exclusive disciplined) prepared shows_
        exact ⟨later, seen, ⟨disciplined.step taken, prepared.step taken, oneLock.step taken⟩,
          shows_⟩
    exact ⟨world, seen, shows_⟩
  untouched := by
    intro unopenable trace after run
    have both := run.stateInvariant (fun machine => machine.Prepared ∧
        machine.file.map File.inWal = file.map File.inWal ∧ machine.Resting)
      ⟨fun _ _ _ => nofun, rfl, fun _ _ _ => nofun⟩
      fun _ _ _ rests taken =>
        ⟨rests.1.step taken, taken.unopenable rests.1 unopenable rests.2⟩
    exact both.2

end Runs

end Machine

end RustEnrich.Storage
