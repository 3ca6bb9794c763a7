import RustEnrich.Storage.System

/-!
# Committed and granted reservations

The reservations a trace committed and those it answered with `Ok`. An answer
never precedes its commit and a commit is answered at most once, so a bound on
committed reservations bounds the granted ones. The rest of the module is the
induction rule for the accounts of the database: only the transactions of
`reserve` and `feedback` touch them, and neither runs behind the durable clock.
-/

namespace RustEnrich.Storage

open Transitions

/-- A reservation of a call, with the reading it was made at. -/
structure Reservation where
  call : CallId
  group : QuotaGroup
  now : Int
  deriving DecidableEq

/-- The reservation an event commits. -/
@[simp] def Event.commitment : Event → Option Reservation
  | .reservationCommitted call group now => some { call, group, now }
  | _ => none

/-- The reservation an answer grants. -/
@[simp] def Event.grant : Event → Option Reservation
  | .reserveReturned call provider wall (.ok _) =>
      some { call, group := quotaGroup provider, now := wall.timestampMillis }
  | _ => none

/-- The reservations a trace committed, whether or not their callers learned
of it. -/
def committed (trace : List Event) : List Reservation := trace.filterMap Event.commitment

/-- The reservations a trace answered with `Ok`. -/
def granted (trace : List Event) : List Reservation := trace.filterMap Event.grant

/-- The times of the reservations of a group, oldest first. -/
def reservationTimes (group : QuotaGroup) (reservations : List Reservation) : List Int :=
  (reservations.filter (fun reservation => reservation.group = group)).map Reservation.now

/-- The reservations of a group with timestamps in a half-open window. -/
def countWithin (group : QuotaGroup) (after upTo : Int) (reservations : List Reservation) : Nat :=
  reservations.countP (fun reservation =>
    reservation.group = group ∧ after < reservation.now ∧ reservation.now ≤ upTo)

/-- What two traces commit, one after the other. -/
@[simp] theorem committed_append (front back : List Event) :
    committed (front ++ back) = committed front ++ committed back :=
  List.filterMap_append

/-- What two traces grant, one after the other. -/
@[simp] theorem granted_append (front back : List Event) :
    granted (front ++ back) = granted front ++ granted back :=
  List.filterMap_append

/-- An empty trace commits nothing. -/
@[simp] theorem committed_nil : committed [] = [] := rfl

/-- An empty trace grants nothing. -/
@[simp] theorem granted_nil : granted [] = [] := rfl

/-- What an event and the rest commit. -/
@[simp] theorem committed_cons (event : Event) (rest : List Event) :
    committed (event :: rest) = event.commitment.toList ++ committed rest := by
  unfold committed
  cases commits : event.commitment with
  | none => rw [List.filterMap_cons_none commits]; rfl
  | some reservation => rw [List.filterMap_cons_some commits]; rfl

/-- What an event and the rest grant. -/
@[simp] theorem granted_cons (event : Event) (rest : List Event) :
    granted (event :: rest) = event.grant.toList ++ granted rest := by
  unfold granted
  cases grants : event.grant with
  | none => rw [List.filterMap_cons_none grants]; rfl
  | some reservation => rw [List.filterMap_cons_some grants]; rfl

/-- Applied feedback commits no reservation. -/
@[simp] theorem committed_appliedFeedback (group : QuotaGroup)
    (pending : Option PendingFeedback) (now : Int) :
    committed (appliedFeedback group pending now) = [] := by
  cases pending <;> rfl

/-- Applied feedback grants no reservation. -/
@[simp] theorem granted_appliedFeedback (group : QuotaGroup)
    (pending : Option PendingFeedback) (now : Int) :
    granted (appliedFeedback group pending now) = [] := by
  cases pending <;> rfl

/-- The only event of applied feedback is its commit. -/
theorem mem_appliedFeedback {group : QuotaGroup} {pending : Option PendingFeedback} {now : Int}
    {event : Event} : event ∈ appliedFeedback group pending now ↔
      ∃ entry, pending = some entry ∧ event = .feedbackCommitted group entry.feedback now := by
  cases pending with
  | none => simp [appliedFeedback]
  | some entry => simp [appliedFeedback]

/-- The only event of a decision is the commit of a granted one. -/
theorem mem_grantedReservation {call : CallId} {group : QuotaGroup} {now : Int}
    {decision : QuotaDecision} {event : Event} :
    event ∈ grantedReservation call group now decision ↔
      decision.blocked = false ∧ event = .reservationCommitted call group now := by
  unfold grantedReservation
  cases decision.blocked with
  | true => simp
  | false => simp

/-- A decision that does not block commits its reservation. -/
theorem committed_grantedReservation (call : CallId) (group : QuotaGroup) (now : Int)
    (decision : QuotaDecision) :
    committed (grantedReservation call group now decision) =
      if decision.blocked then [] else [{ call, group, now }] := by
  unfold grantedReservation
  split <;> rfl

/-- A decision is no answer yet. -/
@[simp] theorem granted_grantedReservation (call : CallId) (group : QuotaGroup) (now : Int)
    (decision : QuotaDecision) : granted (grantedReservation call group now decision) = [] := by
  unfold grantedReservation
  split <;> rfl

/-- The times of two lists, one after the other. -/
@[simp] theorem reservationTimes_append (group : QuotaGroup) (front back : List Reservation) :
    reservationTimes group (front ++ back) =
      reservationTimes group front ++ reservationTimes group back := by
  simp [reservationTimes]

/-- A decision that does not block adds its time to its group. -/
theorem reservationTimes_granted (call : CallId) (group : QuotaGroup) (now : Int)
    (decision : QuotaDecision) :
    reservationTimes group (committed (grantedReservation call group now decision)) =
      if decision.blocked then [] else [now] := by
  rw [committed_grantedReservation]
  split <;> simp [reservationTimes]

/-- A decision adds no time to another group. -/
theorem reservationTimes_granted_of_ne {group other : QuotaGroup} (distinct : other ≠ group)
    (call : CallId) (now : Int) (decision : QuotaDecision) :
    reservationTimes group (committed (grantedReservation call other now decision)) = [] := by
  rw [committed_grantedReservation]
  split <;> simp [reservationTimes, distinct]

/-! ### From answers to commits -/

/-- A granting decision whose caller has not been answered. -/
def Gate.unanswered : Gate → List Reservation
  | .reserved call provider snapshot decision | .checking call provider snapshot decision =>
      if decision.blocked then []
      else [{ call, group := quotaGroup provider, now := snapshot.now }]
  | _ => []

/-- The reservations committed by a call that is yet to answer. -/
def World.unanswered : World → List Reservation
  | .running _ session => session.gate.unanswered
  | .closed _ => []

/-- The decision of a reserve waits for its answer as it was committed. -/
theorem unanswered_reserved (database : Database) (session : Session) (call : CallId)
    (provider : ProviderId) (snapshot : ReserveSnapshot) (decision : QuotaDecision) :
    (World.running database
        { session with gate := .reserved call provider snapshot decision }).unanswered =
      committed (grantedReservation call (quotaGroup provider) snapshot.now decision) :=
  (committed_grantedReservation ..).symm

variable {codec : PayloadCodec} {before after start world : World} {trace emitted : List Event}

/-- The events of the calls that do their work in one go. -/
def Event.Direct : Event → Prop
  | .retryAfterReturned .. | .cacheRead .. | .putCommitted _ | .putReturned .. => True
  | _ => False

/-- Calls that work in one go commit no reservation. -/
theorem committed_of_direct (direct : ∀ event ∈ trace, event.Direct) : committed trace = [] := by
  apply List.filterMap_eq_nil_iff.mpr
  intro event member
  have here := direct event member
  cases event <;> first | rfl | cases here

/-- Calls that work in one go grant none. -/
theorem granted_of_direct (direct : ∀ event ∈ trace, event.Direct) : granted trace = [] := by
  apply List.filterMap_eq_nil_iff.mpr
  intro event member
  have here := direct event member
  cases event <;> first | rfl | cases here

/-- The calls that work in one go neither reserve nor touch the accounts. -/
theorem Request.perform_ok {settings : Settings} {database : Database}
    {pending : QuotaGroup → Option PendingFeedback} {call : CallId} {wall : DateTime} {now : Int}
    {request : Request} {done : Performed}
    (performs : request.perform codec settings database pending call wall now =
      some (.ok done)) :
    (∃ table, done.database = { database with cacheEntries := table }) ∧
      (∀ event ∈ done.committed, event.Direct) ∧ ∀ event ∈ done.returned, event.Direct := by
  cases Request.performs performs with
  | advised advises => exact ⟨⟨database.cacheEntries, rfl⟩, by simp, by simp [Event.Direct]⟩
  | read reads => exact ⟨⟨_, rfl⟩, by simp, by simp [Event.Direct]⟩
  | skipped skips => exact ⟨⟨_, rfl⟩, by simp, by simp [Event.Direct]⟩
  | stored stores => exact ⟨⟨_, rfl⟩, by simp [Event.Direct], by simp [Event.Direct]⟩
  | cleaned => exact ⟨⟨_, rfl⟩, by simp, by simp⟩
  | checked => exact ⟨⟨database.cacheEntries, rfl⟩, by simp, by simp⟩

/-- An answer spends the decision that waited for it. -/
theorem granted_reserveReturned (runtime : RuntimeState) (call : CallId)
    (provider : ProviderId) (snapshot : ReserveSnapshot) (decision : QuotaDecision) :
    (granted [.reserveReturned call provider snapshot.wall
      (reserveAnswer runtime (quotaGroup provider) decision)]).Sublist
        (Gate.checking call provider snapshot decision).unanswered := by
  unfold reserveAnswer
  split
  · exact List.nil_sublist _
  · split
    · exact List.nil_sublist _
    · rename_i permitted
      simp only [Gate.unanswered, permitted, Bool.false_eq_true, ↓reduceIte]
      exact List.Sublist.refl _

/-- A step grants only what was committed and unanswered. -/
theorem Step.granted_sublist (taken : Step codec before emitted after) :
    (granted emitted ++ after.unanswered).Sublist
      (before.unanswered ++ committed emitted) := by
  cases taken with
  | performed wall free queued performs =>
      obtain ⟨_, commits, returns⟩ := Request.perform_ok performs
      simp [World.unanswered, committed_of_direct commits, committed_of_direct returns,
        granted_of_direct commits, granted_of_direct returns]
  | unreported wall free queued performs =>
      obtain ⟨_, commits, _⟩ := Request.perform_ok performs
      simp [World.unanswered, committed_of_direct commits, granted_of_direct commits]
  | reserveCommitted held reserves =>
      simp [World.unanswered, held, Gate.unanswered, committed_grantedReservation]
  | reserveCleared held => simp [World.unanswered, held, Gate.unanswered]
  | @reserveReturned _ session call provider snapshot decision held =>
      have answered := granted_reserveReturned session.runtime call provider snapshot decision
      rw [World.unanswered, World.unanswered, held, committed_cons, committed_nil]
      simpa only [Gate.unanswered, Event.commitment, Option.toList_none, List.append_nil]
        using answered
  | _ => simp_all [World.unanswered, Gate.unanswered, Session.fresh]

/-- What was granted or is still to be answered was committed before, each
commit serving one answer. -/
theorem granted_sublist_committed (run : Run (Step codec) start trace world) :
    (granted trace ++ world.unanswered).Sublist (start.unanswered ++ committed trace) := by
  induction run with
  | refl => simp
  | @snoc seen emitted before after _ taken ih =>
      rw [granted_append, committed_append, List.append_assoc, ← List.append_assoc _ (committed _)]
      have answered := taken.granted_sublist
      calc (granted seen ++ (granted emitted ++ after.unanswered)).Sublist
            (granted seen ++ (before.unanswered ++ committed emitted)) := answered.append_left _
        _ = granted seen ++ before.unanswered ++ committed emitted := (List.append_assoc ..).symm
        List.Sublist _ (start.unanswered ++ committed seen ++ committed emitted) :=
            ih.append_right _

/-- Once a step has answered, every answer has its commit in the trace before. -/
theorem granted_snoc_sublist {file : Option Database}
    (run : Run (Step codec) (.closed file) trace before) (taken : Step codec before emitted after)
    (quiet : committed emitted = []) :
    (granted (trace ++ emitted)).Sublist (committed trace) := by
  have spent := granted_sublist_committed (run.snoc taken)
  rw [committed_append, quiet, List.append_nil] at spent
  exact (List.sublist_append_left _ _).trans spent

/-! ### The accounts of the database -/

/-- Two databases that differ at most in their cache. -/
structure SameAccounts (left right : Database) : Prop where
  quotaState : right.quotaState = left.quotaState
  quotaAttempts : right.quotaAttempts = left.quotaAttempts
  clockHighWater : right.clockHighWater = left.clockHighWater

/-- A change of the cache leaves the accounts. -/
theorem SameAccounts.withCache (database : Database) (table : CacheTable) :
    SameAccounts database { database with cacheEntries := table } :=
  ⟨rfl, rfl, rfl⟩

/-- A database has its own accounts. -/
theorem SameAccounts.refl (database : Database) : SameAccounts database database :=
  ⟨rfl, rfl, rfl⟩

/-- Calls that work in one go leave the accounts. -/
theorem Request.perform_sameAccounts {settings : Settings} {database : Database}
    {pending : QuotaGroup → Option PendingFeedback} {call : CallId} {wall : DateTime} {now : Int}
    {request : Request} {done : Performed}
    (performs : request.perform codec settings database pending call wall now =
      some (.ok done)) : SameAccounts database done.database := by
  obtain ⟨⟨table, same⟩, _⟩ := perform_ok performs
  rw [same]
  exact SameAccounts.withCache database table

/-- A start leaves the accounts. -/
theorem reconcile_sameAccounts {settings : Settings} {wall : DateTime} {database next : Database}
    {now : Int} (reconciled : reconcile settings wall database = .ok (next, now)) :
    SameAccounts database next := by
  obtain ⟨_, table, _, rfl⟩ := reconcile_ok reconciled
  exact SameAccounts.withCache database table

/-- A transaction in progress runs at the effective time in memory, which the
durable clock never exceeds. -/
def Gate.Clocked (durable highWater : Int) : Gate → Prop
  | .reserving _ _ snapshot => durable ≤ snapshot.now ∧ highWater = snapshot.now
  | .applying _ _ now _ => durable ≤ now ∧ highWater = now
  | _ => True

/-- The durable clock is not ahead of the one in memory. -/
def World.Clocked : World → Prop
  | .closed _ => True
  | .running database session =>
      database.clockHighWater ≤ session.runtime.highWater ∧
        session.gate.Clocked database.clockHighWater session.runtime.highWater

/-- A call does not set the clock back. -/
theorem Request.highWater_le_observe (request : Request) (runtime : RuntimeState)
    (wall : DateTime) : runtime.highWater ≤ (request.observe runtime wall).highWater := by
  unfold observe
  split
  · exact runtime.highWater_le_observe wall
  · exact le_refl _

/-- Past its rollback check, `reserve` works at the effective time. -/
theorem RuntimeState.observe_caughtUp {runtime : RuntimeState} {wall : DateTime}
    (caughtUp : ¬ wall.timestampMillis < (runtime.observe wall).highWater) :
    (runtime.observe wall).highWater = wall.timestampMillis :=
  le_antisymm (not_lt.mp caughtUp) (le_max_right _ _)

/-- Every step keeps the clocks in order. -/
theorem Step.clocked (taken : Step codec before emitted after) (clocked : before.Clocked) :
    after.Clocked := by
  cases taken with
  | migrated now => trivial
  | openTimedOut reconciled => trivial
  | closed => trivial
  | opened reconciled =>
      obtain ⟨effective, _⟩ := reconcile_ok reconciled
      refine ⟨?_, trivial⟩
      rw [(reconcile_sameAccounts reconciled).clockHighWater]
      exact effective ▸ le_max_left _ _
  | started request unretained queues => exact clocked
  | retained provider feedback => exact clocked
  | abandoned queued => exact clocked
  | @performed _ session _ _ _ request _ wall free queued performs =>
      refine ⟨?_, by rw [free]; trivial⟩
      rw [(Request.perform_sameAccounts performs).clockHighWater]
      exact clocked.1.trans (request.highWater_le_observe session.runtime wall)
  | @unreported _ session _ _ _ request _ wall free queued performs =>
      refine ⟨?_, by rw [free]; trivial⟩
      rw [(Request.perform_sameAccounts performs).clockHighWater]
      exact clocked.1.trans (request.highWater_le_observe session.runtime wall)
  | @unperformed _ session _ _ _ request _ wall free queued performs =>
      refine ⟨?_, by rw [free]; trivial⟩
      exact clocked.1.trans (request.highWater_le_observe session.runtime wall)
  | @reserveBehind _ session _ _ _ _ wall free queued behind =>
      exact ⟨clocked.1.trans (session.runtime.highWater_le_observe wall), by rw [free]; trivial⟩
  | @reserveSnapshot _ session _ _ _ _ wall free queued caughtUp =>
      have effective := RuntimeState.observe_caughtUp caughtUp
      have ahead := clocked.1.trans (session.runtime.highWater_le_observe wall)
      exact ⟨ahead, ahead.trans effective.le, effective⟩
  | reserveCommitted held reserves =>
      obtain ⟨durable, gate⟩ := clocked
      rw [held] at gate
      rw [World.Clocked, reserveTransaction_clockHighWater reserves]
      exact ⟨max_le durable gate.2.ge, trivial⟩
  | reserveCleared held => exact ⟨by simpa using clocked.1, trivial⟩
  | reserveReturned held => exact ⟨clocked.1, trivial⟩
  | @feedbackSaved _ session _ _ _ _ wall free queued saved =>
      exact ⟨clocked.1.trans (session.runtime.highWater_le_observe wall), by rw [free]; trivial⟩
  | @feedbackSnapshot _ session _ _ _ _ _ wall free queued unsaved =>
      have ahead := clocked.1.trans (session.runtime.highWater_le_observe wall)
      exact ⟨ahead, ahead, rfl⟩
  | feedbackCommitted held applies =>
      obtain ⟨durable, gate⟩ := clocked
      rw [held] at gate
      rw [World.Clocked, feedbackTransaction_clockHighWater applies]
      exact ⟨max_le durable gate.2.ge, trivial⟩
  | feedbackCleared held => exact ⟨by simpa using clocked.1, trivial⟩
  | released held => exact ⟨clocked.1, trivial⟩

/-- A run keeps the clocks in order. -/
theorem clocked_run (run : Run (Step codec) start trace world) (clocked : start.Clocked) :
    world.Clocked :=
  run.stateInvariant World.Clocked clocked fun _ _ _ before taken => taken.clocked before

/-- The database of a world, if it has been created. -/
def World.database : World → Option Database
  | .closed database => database
  | .running database _ => some database

/-- A step other than the two commits leaves the accounts of an existing file
alone, and creates those of a new one. -/
def KeepsAccounts (before : World) (emitted : List Event) (after : World) : Prop :=
  committed emitted = [] ∧ ∃ next, after.database = some next ∧
    (∀ database, before.database = some database → SameAccounts database next) ∧
    (before.database = none → ∃ now, SameAccounts (.create now) next)

/-- An open storage that commits nothing keeps its accounts. -/
theorem KeepsAccounts.of_running {database next : Database} {session : Session}
    (quiet : committed emitted = []) (stored : after.database = some next)
    (same : SameAccounts database next) :
    KeepsAccounts (.running database session) emitted after := by
  refine ⟨quiet, next, stored, ?_, ?_⟩
  · intro earlier holds
    cases holds
    exact same
  · intro missing
    cases missing

/-- A start keeps the accounts, or creates them. -/
theorem KeepsAccounts.of_reconcile {settings : Settings} {created wall : DateTime}
    {database : Option Database} {next : Database} {now : Int} (quiet : committed emitted = [])
    (stored : after.database = some next)
    (reconciled : reconcile settings wall (initializeSchema created database) = .ok (next, now)) :
    KeepsAccounts (.closed database) emitted after := by
  have same := reconcile_sameAccounts reconciled
  refine ⟨quiet, next, stored, ?_, ?_⟩
  · intro earlier holds
    cases holds
    exact same
  · intro missing
    cases missing
    exact ⟨created, same⟩

/-- What a step does to the accounts. -/
theorem Step.accounts (taken : Step codec before emitted after) :
    KeepsAccounts before emitted after ∨
    (∃ database next session call provider snapshot decision,
      before = .running database session ∧
      session.gate = .reserving call provider snapshot ∧
      reserveTransaction database (quotaGroup provider) (session.settings.limits provider)
        snapshot.wall snapshot.now snapshot.pending = .ok (next, decision) ∧
      emitted = appliedFeedback (quotaGroup provider) snapshot.pending snapshot.now ++
        grantedReservation call (quotaGroup provider) snapshot.now decision ∧
      after = .running next { session with gate := .reserved call provider snapshot decision }) ∨
    (∃ database next session call provider now pending,
      before = .running database session ∧
      session.gate = .applying call provider now pending ∧
      feedbackTransaction database (quotaGroup provider) (session.settings.limits provider) now
        pending = .ok next ∧
      emitted = appliedFeedback (quotaGroup provider) (some pending) now ∧
      after = .running next { session with gate := .applied call provider pending }) := by
  cases taken with
  | migrated now =>
      refine Or.inl ⟨rfl, .create now, rfl, ?_, fun _ => ⟨now, .refl _⟩⟩
      intro database holds
      cases holds
  | opened reconciled => exact Or.inl (.of_reconcile rfl rfl reconciled)
  | openTimedOut reconciled => exact Or.inl (.of_reconcile rfl rfl reconciled)
  | performed wall free queued performs =>
      obtain ⟨_, commits, returns⟩ := Request.perform_ok performs
      refine Or.inl (.of_running ?_ rfl (Request.perform_sameAccounts performs))
      rw [committed_append, committed_of_direct commits, committed_of_direct returns,
        List.append_nil]
  | unreported wall free queued performs =>
      obtain ⟨_, commits, _⟩ := Request.perform_ok performs
      refine Or.inl (.of_running ?_ rfl (Request.perform_sameAccounts performs))
      rw [committed_append, committed_of_direct commits]
      rfl
  | reserveCommitted held reserves =>
      exact Or.inr (Or.inl ⟨_, _, _, _, _, _, _, rfl, held, reserves, rfl, rfl⟩)
  | feedbackCommitted held applies =>
      exact Or.inr (Or.inr ⟨_, _, _, _, _, _, _, rfl, held, applies, rfl, rfl⟩)
  | _ => exact Or.inl (.of_running rfl rfl (.refl _))

/-- No step deletes the file. -/
theorem Step.database_present (taken : Step codec before emitted after) :
    ∃ database, after.database = some database := by
  rcases taken.accounts with ⟨_, next, stored, _⟩ |
    ⟨_, next, _, _, _, _, _, _, _, _, _, rfl⟩ | ⟨_, next, _, _, _, _, _, _, _, _, _, rfl⟩
  · exact ⟨next, stored⟩
  · exact ⟨next, rfl⟩
  · exact ⟨next, rfl⟩

/-- A database is never lost. -/
theorem database_present (run : Run (Step codec) start trace world) {database : Database}
    (present : start.database = some database) : ∃ database, world.database = some database := by
  cases run with
  | refl => exact ⟨database, present⟩
  | snoc _ taken => exact taken.database_present

/-- A predicate of the accounts that both transactions preserve. -/
structure AccountsInvariant (codec : PayloadCodec) (start : World)
    (predicate : List Event → Database → Prop) : Prop where
  kept : ∀ {seen emitted : List Event} {database next : Database}, predicate seen database →
    SameAccounts database next → committed emitted = [] → predicate (seen ++ emitted) next
  reserved : ∀ {seen : List Event} {database next : Database} {session : Session}
    {call : CallId} {provider : ProviderId} {snapshot : ReserveSnapshot}
    {decision : QuotaDecision},
    Run (Step codec) start seen (.running database session) →
    database.clockHighWater ≤ snapshot.now →
    reserveTransaction database (quotaGroup provider) (session.settings.limits provider)
      snapshot.wall snapshot.now snapshot.pending = .ok (next, decision) →
    predicate seen database →
    predicate (seen ++ (appliedFeedback (quotaGroup provider) snapshot.pending snapshot.now ++
      grantedReservation call (quotaGroup provider) snapshot.now decision)) next
  applied : ∀ {seen : List Event} {database next : Database} {session : Session}
    {provider : ProviderId} {now : Int} {pending : PendingFeedback},
    Run (Step codec) start seen (.running database session) →
    database.clockHighWater ≤ now →
    feedbackTransaction database (quotaGroup provider) (session.settings.limits provider) now
      pending = .ok next →
    predicate seen database →
    predicate (seen ++ appliedFeedback (quotaGroup provider) (some pending) now) next

/-- What each commit preserves holds after a run. -/
theorem AccountsInvariant.run {predicate : List Event → Database → Prop}
    (invariant : AccountsInvariant codec start predicate)
    (run : Run (Step codec) start trace world) (clocked : start.Clocked)
    (created : start.database = none → ∀ now, predicate [] (.create now))
    (initial : ∀ database, start.database = some database → predicate [] database)
    {database : Database} (stored : world.database = some database) :
    predicate trace database := by
  -- No step deletes the file, so before there is one nothing has happened.
  have both : (∀ database, world.database = some database → predicate trace database) ∧
      (world.database = none → trace = [] ∧ start.database = none) := by
    refine run.invariant (fun seen world =>
      (∀ database, world.database = some database → predicate seen database) ∧
        (world.database = none → seen = [] ∧ start.database = none)) ?_ ?_
    · exact ⟨initial, fun missing => ⟨rfl, missing⟩⟩
    · rintro seen before emitted after previous ⟨holds, absent⟩ taken
      have ahead := clocked_run previous clocked
      rcases taken.accounts with ⟨quiet, next, stored, same, new⟩ |
        ⟨old, next, session, call, provider, snapshot, decision, rfl, held, reserves, rfl, rfl⟩ |
        ⟨old, next, session, call, provider, now, pending, rfl, held, applies, rfl, rfl⟩
      · rw [stored]
        refine ⟨?_, fun missing => absurd missing (by simp)⟩
        intro database equal
        cases equal
        cases earlier : before.database with
        | some old => exact invariant.kept (holds old earlier) (same old earlier) quiet
        | none =>
            obtain ⟨rfl, missing⟩ := absent earlier
            obtain ⟨now, fresh⟩ := new earlier
            exact invariant.kept (created missing now) fresh quiet
      · obtain ⟨_, gate⟩ := ahead
        rw [held] at gate
        refine ⟨?_, fun missing => absurd missing (by simp [World.database])⟩
        intro database equal
        cases equal
        exact invariant.reserved previous gate.1 reserves (holds old rfl)
      · obtain ⟨_, gate⟩ := ahead
        rw [held] at gate
        refine ⟨?_, fun missing => absurd missing (by simp [World.database])⟩
        intro database equal
        cases equal
        exact invariant.applied previous gate.1 applies (holds old rfl)
  exact both.1 database stored

/-! ### The transaction behind an answer -/

/-- A granting decision was committed, under the settings of its session, and
nothing was committed since. -/
def CommittedAs (codec : PayloadCodec) (start : World) (trace : List Event)
    (settings : Settings) (call : CallId) (provider : ProviderId) (snapshot : ReserveSnapshot)
    (decision : QuotaDecision) : Prop :=
  ∃ front back database next session,
    trace = front ++ (appliedFeedback (quotaGroup provider) snapshot.pending snapshot.now ++
      grantedReservation call (quotaGroup provider) snapshot.now decision) ++ back ∧
    Run (Step codec) start front (.running database session) ∧
    session.settings = settings ∧
    session.gate = .reserving call provider snapshot ∧
    reserveTransaction database (quotaGroup provider) (settings.limits provider) snapshot.wall
      snapshot.now snapshot.pending = .ok (next, decision) ∧
    committed back = []

/-- The origin of a commit stays as the trace goes on. -/
theorem CommittedAs.snoc {settings : Settings} {call : CallId} {provider : ProviderId}
    {snapshot : ReserveSnapshot} {decision : QuotaDecision}
    (origin : CommittedAs codec start trace settings call provider snapshot decision)
    (quiet : committed emitted = []) :
    CommittedAs codec start (trace ++ emitted) settings call provider snapshot decision := by
  obtain ⟨front, back, database, next, session, rfl, run, same, held, reserves, rest⟩ := origin
  refine ⟨front, back ++ emitted, database, next, session, ?_, run, same, held, reserves, ?_⟩
  · simp only [List.append_assoc]
  · rw [committed_append, rest, quiet, List.append_nil]

/-- The decision a gate holds past its commit. -/
def Gate.decided (gate : Gate) (call : CallId) (provider : ProviderId)
    (snapshot : ReserveSnapshot) (decision : QuotaDecision) : Prop :=
  gate = .reserved call provider snapshot decision ∨
    gate = .checking call provider snapshot decision

/-- Where an answer comes from. -/
theorem decided_origin {file : Option Database}
    (run : Run (Step codec) (.closed file) trace world) :
    ∀ {database session call provider snapshot decision},
      world = .running database session → session.gate.decided call provider snapshot decision →
      CommittedAs codec (.closed file) trace session.settings call provider snapshot decision := by
  induction run with
  | refl => intro database session _ _ _ _ holds; cases holds
  | @snoc seen emitted before after previous taken ih =>
      intro database session call provider snapshot decision holds gate
      cases taken with
      | migrated now => cases holds
      | openTimedOut reconciled => cases holds
      | closed => cases holds
      | reserveCommitted held reserves =>
          cases holds
          rcases gate with same | same <;> cases same
          exact ⟨seen, [], _, _, _, (List.append_nil _).symm, previous, rfl, held, reserves, rfl⟩
      | reserveCleared held =>
          cases holds
          rcases gate with same | same <;> cases same
          exact (ih rfl (Or.inl held)).snoc rfl
      | started request unretained queues => cases holds; exact (ih rfl gate).snoc rfl
      | retained provider feedback => cases holds; exact (ih rfl gate).snoc rfl
      | abandoned queued => cases holds; exact (ih rfl gate).snoc rfl
      | _ => cases holds; simp_all [Gate.decided, Session.fresh]

/-- Feedback is committed by the two transactions that apply it. -/
theorem Step.of_feedbackCommitted {group : QuotaGroup} {feedback : QuotaFeedback} {now : Int}
    (taken : Step codec before emitted after)
    (saved : Event.feedbackCommitted group feedback now ∈ emitted) :
    (∃ database next session call provider snapshot decision pending,
      before = .running database session ∧
      session.gate = .reserving call provider snapshot ∧
      reserveTransaction database (quotaGroup provider) (session.settings.limits provider)
        snapshot.wall snapshot.now snapshot.pending = .ok (next, decision) ∧
      after = .running next { session with gate := .reserved call provider snapshot decision } ∧
      snapshot.pending = some pending ∧ group = quotaGroup provider ∧
      feedback = pending.feedback ∧ now = snapshot.now) ∨
    (∃ database next session call provider pending,
      before = .running database session ∧
      session.gate = .applying call provider now pending ∧
      feedbackTransaction database (quotaGroup provider) (session.settings.limits provider) now
        pending = .ok next ∧
      after = .running next { session with gate := .applied call provider pending } ∧
      group = quotaGroup provider ∧ feedback = pending.feedback) := by
  have direct : ∀ {events : List Event}, (∀ event ∈ events, event.Direct) →
      Event.feedbackCommitted group feedback now ∉ events := fun only member => only _ member
  cases taken with
  | performed wall free queued performs =>
      obtain ⟨_, commits, returns⟩ := Request.perform_ok performs
      rcases List.mem_append.mp saved with first | second
      · exact absurd first (direct commits)
      · exact absurd second (direct returns)
  | unreported wall free queued performs =>
      obtain ⟨_, commits, _⟩ := Request.perform_ok performs
      rcases List.mem_append.mp saved with first | second
      · exact absurd first (direct commits)
      · simp at second
  | @reserveCommitted _ _ _ _ _ snapshot decision held reserves =>
      left
      rcases List.mem_append.mp saved with first | second
      · obtain ⟨entry, pending, same⟩ := mem_appliedFeedback.mp first
        rw [Event.feedbackCommitted.injEq] at same
        exact ⟨_, _, _, _, _, _, _, entry, rfl, held, reserves, rfl, pending, same⟩
      · cases (mem_grantedReservation.mp second).2
  | feedbackCommitted held applies =>
      right
      simp only [appliedFeedback, List.mem_singleton, Event.feedbackCommitted.injEq] at saved
      obtain ⟨rfl, rfl, rfl⟩ := saved
      exact ⟨_, _, _, _, _, _, rfl, held, applies, rfl, rfl, rfl⟩
  | _ => simp at saved

/-- A granted answer has nothing retained and a decision that does not block. -/
theorem reserveAnswer_ok {runtime : RuntimeState} {group : QuotaGroup}
    {decision : QuotaDecision} (answer : reserveAnswer runtime group decision = .ok ()) :
    runtime.pending group = none ∧ decision.blocked = false := by
  unfold reserveAnswer at answer
  split at answer
  · cases answer
  · rename_i saved
    split at answer
    · cases answer
    · rename_i permitted
      exact ⟨by simpa using saved, by simpa using permitted⟩

/-- Every `Ok` of `reserve` is the answer to a decision past its final check. -/
theorem Step.of_grant {call : CallId} {provider : ProviderId} {wall : DateTime}
    (taken : Step codec before emitted after)
    (answered : Event.reserveReturned call provider wall (.ok ()) ∈ emitted) :
    ∃ database session snapshot decision,
      before = .running database session ∧
      session.gate = .checking call provider snapshot decision ∧
      snapshot.wall = wall ∧ decision.blocked = false ∧
      session.runtime.pending (quotaGroup provider) = none ∧
      emitted = [.reserveReturned call provider wall (.ok ())] := by
  have grants : granted emitted ≠ [] := by
    refine List.ne_nil_of_mem
      (a := { call, group := quotaGroup provider, now := wall.timestampMillis }) ?_
    exact List.mem_filterMap.mpr ⟨_, answered, rfl⟩
  cases taken with
  | @reserveReturned database session holder asked snapshot decision held =>
      obtain equal := List.mem_singleton.mp answered
      simp only [Event.reserveReturned.injEq] at equal
      obtain ⟨rfl, rfl, rfl, answer⟩ := equal
      obtain ⟨saved, permitted⟩ := reserveAnswer_ok answer.symm
      exact ⟨database, session, snapshot, decision, rfl, held, rfl, permitted, saved,
        by rw [answer]⟩
  | performed wall free queued performs =>
      obtain ⟨_, commits, returns⟩ := Request.perform_ok performs
      refine absurd ?_ grants
      rw [granted_append, granted_of_direct commits, granted_of_direct returns, List.append_nil]
  | unreported wall free queued performs =>
      obtain ⟨_, commits, _⟩ := Request.perform_ok performs
      refine absurd ?_ grants
      rw [granted_append, granted_of_direct commits]
      rfl
  | reserveCommitted held reserves => exact absurd (by simp) grants
  | feedbackCommitted held applies => exact absurd (by simp) grants
  | _ => exact absurd rfl grants

/-- A granting decision with nothing pending is answered with `Ok`. -/
theorem Step.grants {database : Database} {session : Session} {call : CallId}
    {provider : ProviderId} {snapshot : ReserveSnapshot} {decision : QuotaDecision}
    (held : session.gate = .checking call provider snapshot decision)
    (saved : session.runtime.pending (quotaGroup provider) = none)
    (permitted : decision.blocked = false) :
    Step codec (.running database session) [.reserveReturned call provider snapshot.wall (.ok ())]
      (.running database { session with gate := .free }) := by
  have answering := @Step.reserveReturned codec database _ _ _ _ _ held
  have answer : reserveAnswer session.runtime (quotaGroup provider) decision = .ok () := by
    simp [reserveAnswer, saved, permitted]
  rwa [answer] at answering

/-- A reserve that nothing interrupts, on a row with nothing pending. -/
theorem uninterrupted_reserve {database next : Database} {session : Session}
    {provider : ProviderId} {decision : QuotaDecision} (wall : DateTime)
    (free : session.gate = .free) (idle : session.waiting = [])
    (saved : session.runtime.pending (quotaGroup provider) = none)
    (caughtUp : ¬ wall.timestampMillis < (session.runtime.observe wall).highWater)
    (reserves : reserveTransaction database (quotaGroup provider)
      (session.settings.limits provider) wall wall.timestampMillis none = .ok (next, decision))
    (permitted : decision.blocked = false) :
    ∃ following, Run (Step codec) (.running database session)
      [.callStarted session.nextCall (.reserve provider),
        .reservationCommitted session.nextCall (quotaGroup provider) wall.timestampMillis,
        .reserveReturned session.nextCall provider wall (.ok ())]
      (.running next following) := by
  have run := Run.single (@Step.started codec database session (.reserve provider)
    (fun _ => nofun) trivial)
  have run := run.snoc (@Step.reserveSnapshot _ _ _ [] [] _ _ wall free (by rw [idle])
    caughtUp)
  rw [saved] at run
  have run := run.snoc (.reserveCommitted rfl reserves)
  have run := run.snoc (.reserveCleared rfl)
  have run := run.snoc (.grants rfl saved permitted)
  simp only [appliedFeedback, grantedReservation, permitted, List.nil_append, List.append_nil,
    Bool.false_eq_true, ↓reduceIte, List.cons_append] at run
  exact ⟨_, run⟩

/-- A feedback that nothing interrupts, up to, at and past its commit. -/
theorem uninterrupted_feedback {database next : Database} {session : Session}
    {provider : ProviderId} {feedback : QuotaFeedback} (wall : DateTime)
    (free : session.gate = .free) (idle : session.waiting = [])
    (saved : session.runtime.pending (quotaGroup provider) = none)
    (applies : feedbackTransaction database (quotaGroup provider)
      (session.settings.limits provider) (session.runtime.observe wall).highWater
      { generation := session.runtime.nextGeneration + 1, feedback } = .ok next) :
    ∃ before after following,
      Run (Step codec) (.running database session)
        [.callStarted session.nextCall (.feedback provider),
          .feedbackRetained (quotaGroup provider) feedback] before ∧
      Step codec before [.feedbackCommitted (quotaGroup provider) feedback
        (session.runtime.observe wall).highWater] after ∧
      Run (Step codec) after [] (.running next following) ∧
      following.gate = .free ∧ following.waiting = [] ∧
      following.runtime.pending (quotaGroup provider) = none ∧
      following.settings = session.settings ∧
      following.runtime.highWater = (session.runtime.observe wall).highWater ∧
      following.nextCall = session.nextCall + 1 := by
  have retained : (session.runtime.retain (quotaGroup provider) feedback).pending
      (quotaGroup provider) =
        some { generation := session.runtime.nextGeneration + 1, feedback } := by
    simp [RuntimeState.retain, saved]
  have run := Run.single (@Step.retained codec database session provider feedback)
  have run := run.snoc (@Step.feedbackSnapshot _ _ _ [] [] _ _ _ wall free (by rw [idle]) retained)
  have taken := @Step.feedbackCommitted codec database next
    { session with
      runtime := (session.runtime.retain (quotaGroup provider) feedback).observe wall
      nextCall := session.nextCall + 1
      waiting := []
      gate := .applying session.nextCall provider (session.runtime.observe wall).highWater
        { generation := session.runtime.nextGeneration + 1, feedback } }
    session.nextCall provider _ _ rfl applies
  refine ⟨_, _, _, run, taken, .single (.feedbackCleared rfl), rfl, rfl, ?_, rfl, ?_, rfl⟩
  · simp [RuntimeState.clearPending, retained]
  · rw [RuntimeState.clearPending_highWater]
    rfl

/-! ### The first reservation of a file -/

/-- A codec for runs that leave the cache alone. -/
def PayloadCodec.blank : PayloadCodec where
  toVec := fun _ => []
  fromSlice := fun _ => none

/-- An hour. -/
def Ttl.hour : Ttl := ⟨3600000, by decide⟩

/-- One reservation a minute and a day. -/
def QuotaLimits.single : QuotaLimits where
  minute := 1
  day := 1
  unobservedAttempts := 0
  minute_le := by decide
  day_le := by decide

/-- Room for one attempt of each group. -/
def Settings.single : Settings where
  maxEntries := 1
  maxBytes := 4096
  ipTtl := .hour
  urlTtl := .hour
  hashTtl := .hour
  notFoundTtl := .hour
  abuseipdbLimits := .single
  virustotalLimits := .single

/-- Room for two attempts of each group. -/
def twoAttempts : QuotaLimits where
  minute := 0
  day := 2
  unobservedAttempts := 0
  minute_le := by decide
  day_le := by decide

/-- The settings that leave both providers two reservations. -/
def twoAttemptSettings : Settings :=
  { Settings.single with abuseipdbLimits := twoAttempts, virustotalLimits := twoAttempts }

/-- The events of a first reservation, up to its commit. -/
def firstReservation : List Event :=
  [.opened .single .epoch 0, .callStarted 0 (.reserve .abuseipdb),
    .reservationCommitted 0 .abuseipdbCheck 0]

/-- The answer that grants it. -/
def firstAnswer : Event := .reserveReturned 0 .abuseipdb .epoch (.ok ())

/-- An hour past the epoch. -/
def hourAfter : DateTime := ⟨3600000000000, by decide, by decide⟩

/-- A new file opened at the epoch. -/
def World.first : World := .running (.create .epoch) (.fresh .single 0)

/-- A first start on a new file. -/
theorem first_opened (codec : PayloadCodec) :
    Step codec (.closed none) [.opened .single .epoch 0] .first :=
  @Step.opened codec none .single .epoch .epoch _ _ rfl

/-- A first reservation, committed and yet to answer. -/
theorem firstReservation_run (codec : PayloadCodec) :
    ∃ database session,
      Run (Step codec) (.closed none) firstReservation (.running database session) ∧
      session.gate = .checking 0 .abuseipdb { wall := .epoch, pending := none }
        { blocked := false, retryAfter := none } ∧
      session.runtime.pending .abuseipdbCheck = none ∧ session.settings = .single := by
  have run := Run.single (first_opened codec)
  have run := run.snoc (.started (.reserve .abuseipdb) (fun _ => nofun) trivial)
  have run := run.snoc (.reserveSnapshot .epoch rfl (List.nil_append _).symm (by decide))
  have run := run.snoc (.reserveCommitted rfl rfl)
  have run := run.snoc (.reserveCleared rfl)
  exact ⟨_, _, run, rfl, rfl, rfl⟩

end RustEnrich.Storage
