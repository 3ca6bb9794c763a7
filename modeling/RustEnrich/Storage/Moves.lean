import RustEnrich.Storage.Reservations

/-!
# What a step does inside a session

The steps of an open storage, told apart by what they do to the accounts, the
retained feedback and the gate. Invariants of a session that speak about these
three are proved by cases on the move.
-/

namespace RustEnrich.Storage

open Transitions

/-- The snapshot a transaction has yet to clear, with its group. -/
def Gate.saving : Gate → Option (QuotaGroup × PendingFeedback)
  | .reserving _ provider snapshot | .reserved _ provider snapshot _ =>
      snapshot.pending.map (fun pending => (quotaGroup provider, pending))
  | .applying _ provider _ pending | .applied _ provider pending =>
      some (quotaGroup provider, pending)
  | .free | .checking .. => none

/-- The snapshot a transaction has committed and has yet to clear. -/
def Gate.saved : Gate → Option (QuotaGroup × PendingFeedback)
  | .reserved _ provider snapshot _ =>
      snapshot.pending.map (fun pending => (quotaGroup provider, pending))
  | .applied _ provider pending => some (quotaGroup provider, pending)
  | _ => none

/-- What is saved was being saved. -/
theorem Gate.saving_of_saved {gate : Gate} {entry : QuotaGroup × PendingFeedback}
    (saved : gate.saved = some entry) : gate.saving = some entry := by
  cases gate with
  | reserved call provider snapshot decision => exact saved
  | applied call provider pending => exact saved
  | _ => cases saved

/-- A reserve is saving what it found retained. -/
theorem Gate.saving_reserving {call : CallId} {provider : ProviderId} {snapshot : ReserveSnapshot}
    {group : QuotaGroup} {entry : PendingFeedback} :
    (Gate.reserving call provider snapshot).saving = some (group, entry) ↔
      quotaGroup provider = group ∧ snapshot.pending = some entry := by
  simp only [Gate.saving, Option.map_eq_some_iff, Prod.mk.injEq]
  constructor
  · rintro ⟨_, present, same, rfl⟩
    exact ⟨same, present⟩
  · rintro ⟨same, present⟩
    exact ⟨entry, present, same, rfl⟩

/-- A report is saving what it found retained. -/
theorem Gate.saving_applying {call : CallId} {provider : ProviderId} {now : Int}
    {group : QuotaGroup} {pending entry : PendingFeedback} :
    (Gate.applying call provider now pending).saving = some (group, entry) ↔
      quotaGroup provider = group ∧ pending = entry := by
  simp only [Gate.saving, Option.some.injEq, Prod.mk.injEq]

/-- A gate that holds no snapshot and no decision another one lacks. -/
structure Gate.Within (gate outer : Gate) : Prop where
  saving : ∀ entry, gate.saving = some entry → outer.saving = some entry
  saved : ∀ entry, gate.saved = some entry → outer.saved = some entry
  decided : ∀ call provider snapshot decision, gate.decided call provider snapshot decision →
    outer.decided call provider snapshot decision

/-- A gate is within itself. -/
theorem Gate.Within.refl (gate : Gate) : gate.Within gate :=
  ⟨fun _ => id, fun _ => id, fun _ _ _ _ => id⟩

/-- A free gate is within any. -/
theorem Gate.Within.free (outer : Gate) : Gate.free.Within outer where
  saving := fun _ => nofun
  saved := fun _ => nofun
  decided := by
    rintro call provider snapshot decision (held | held) <;> cases held

/-- A gate with no snapshot to clear is within any that has its decision. -/
theorem Gate.Within.of_cleared {gate outer : Gate} (cleared : gate.saving = none)
    (decided : ∀ call provider snapshot decision, gate.decided call provider snapshot decision →
      outer.decided call provider snapshot decision) : gate.Within outer where
  saving := fun _ held => absurd (cleared.symm.trans held) nofun
  saved := fun _ held => absurd (cleared.symm.trans (Gate.saving_of_saved held)) nofun
  decided := decided

namespace RuntimeState

variable {runtime : RuntimeState} {group : QuotaGroup} {saved : Option PendingFeedback}

/-- Clearing leaves the other group. -/
theorem clearPending_of_ne {other : QuotaGroup} (distinct : other ≠ group) :
    (runtime.clearPending group saved).pending other = runtime.pending other := by
  unfold clearPending
  split
  · rfl
  · split
    · exact Function.update_of_ne distinct _ _
    · rfl

/-- Clearing what is retained leaves nothing. -/
theorem clearPending_self {entry : PendingFeedback} (present : runtime.pending group = some entry) :
    (runtime.clearPending group (some entry)).pending group = none := by
  simp [clearPending, present]

/-- Clearing changes an entry only by dropping the one it saved. -/
theorem of_clearPending_ne {other : QuotaGroup}
    (changed : (runtime.clearPending group saved).pending other ≠ runtime.pending other) :
    group = other ∧ ∃ old entry, saved = some old ∧ runtime.pending group = some entry ∧
      entry.generation = old.generation := by
  constructor
  · by_contra distinct
    exact changed (clearPending_of_ne (Ne.symm distinct))
  · cases saved with
    | none => exact absurd rfl changed
    | some old =>
        by_cases same : (runtime.pending group).any
            (fun entry => entry.generation = old.generation) = true
        · obtain ⟨entry, present, equal⟩ := (Option.any_eq_true _ _).mp same
          exact ⟨old, entry, rfl, present, of_decide_eq_true equal⟩
        · rw [clearPending, if_neg same] at changed
          exact absurd rfl changed

/-- A report leaves the other group. -/
theorem retain_of_ne {other : QuotaGroup} (distinct : other ≠ group) (feedback : QuotaFeedback) :
    (runtime.retain group feedback).pending other = runtime.pending other :=
  Function.update_of_ne distinct _ _

end RuntimeState

/-- Applied feedback retains nothing. -/
theorem appliedFeedback_unretained (applied group : QuotaGroup)
    (pending : Option PendingFeedback) (now : Int) (feedback : QuotaFeedback) :
    Event.feedbackRetained group feedback ∉ appliedFeedback applied pending now := by
  cases pending <;> simp [appliedFeedback]

/-- The commit of a reserve retains nothing. -/
theorem reservation_unretained (applied group : QuotaGroup) (pending : Option PendingFeedback)
    (now : Int) (call : CallId) (decision : QuotaDecision) (feedback : QuotaFeedback) :
    Event.feedbackRetained group feedback ∉
      appliedFeedback applied pending now ++ grantedReservation call applied now decision := by
  intro member
  rcases List.mem_append.mp member with saved | granted
  · exact appliedFeedback_unretained _ _ _ _ _ saved
  · unfold grantedReservation at granted
    split at granted <;> simp at granted

/-- A move that retains nothing, commits nothing and clears nothing, and at
most lets go of the gate. -/
structure Idle (database : Database) (session : Session) (emitted : List Event)
    (next : Database) (following : Session) : Prop where
  unretained : ∀ group feedback, Event.feedbackRetained group feedback ∉ emitted
  uncommitted : committed emitted = []
  unapplied : ∀ group feedback now, Event.feedbackCommitted group feedback now ∉ emitted
  accounts : SameAccounts database next
  pending : following.runtime.pending = session.runtime.pending
  clock : session.runtime.highWater ≤ following.runtime.highWater
  gate : following.gate = session.gate ∨ following.gate = .free

/-- A step that is idle for the accounts starts saving nothing. -/
theorem Idle.within {database next : Database} {session following : Session}
    {emitted : List Event} (idle : Idle database session emitted next following) :
    following.gate.Within session.gate := by
  rcases idle.gate with same | free
  · exact same ▸ .refl _
  · exact free ▸ .free _

/-- What a step does to the accounts of an open storage. -/
inductive Move (database : Database) (session : Session) :
    List Event → Database → Session → Prop
  | idle {emitted : List Event} {next : Database} {following : Session}
      (idle : Idle database session emitted next following) :
      Move database session emitted next following
  | retained {following : Session} (call : CallId) (provider : ProviderId)
      (feedback : QuotaFeedback)
      (runtime : following.runtime = session.runtime.retain (quotaGroup provider) feedback)
      (gate : following.gate = session.gate) :
      Move database session [.callStarted call (.feedback provider),
        .feedbackRetained (quotaGroup provider) feedback] database following
  | reserveSnapshot {following : Session} (call : CallId) (provider : ProviderId)
      (wall : DateTime) (free : session.gate = .free)
      (runtime : following.runtime = session.runtime.observe wall)
      (gate : following.gate = .reserving call provider
        { wall, pending := session.runtime.pending (quotaGroup provider) }) :
      Move database session [] database following
  | feedbackSnapshot {following : Session} (call : CallId) (provider : ProviderId)
      (wall : DateTime) (pending : PendingFeedback) (free : session.gate = .free)
      (runtime : following.runtime = session.runtime.observe wall)
      (unsaved : session.runtime.pending (quotaGroup provider) = some pending)
      (gate : following.gate =
        .applying call provider (session.runtime.observe wall).highWater pending) :
      Move database session [] database following
  | reserveCommitted {next : Database} {following : Session} (call : CallId)
      (provider : ProviderId) (snapshot : ReserveSnapshot) (decision : QuotaDecision)
      (held : session.gate = .reserving call provider snapshot)
      (reserves : reserveTransaction database (quotaGroup provider)
        (session.settings.limits provider) snapshot.wall snapshot.now snapshot.pending =
          .ok (next, decision))
      (runtime : following.runtime = session.runtime)
      (gate : following.gate = .reserved call provider snapshot decision) :
      Move database session
        (appliedFeedback (quotaGroup provider) snapshot.pending snapshot.now ++
          grantedReservation call (quotaGroup provider) snapshot.now decision) next following
  | feedbackCommitted {next : Database} {following : Session} (call : CallId)
      (provider : ProviderId) (now : Int) (pending : PendingFeedback)
      (held : session.gate = .applying call provider now pending)
      (applies : feedbackTransaction database (quotaGroup provider)
        (session.settings.limits provider) now pending = .ok next)
      (runtime : following.runtime = session.runtime)
      (gate : following.gate = .applied call provider pending) :
      Move database session (appliedFeedback (quotaGroup provider) (some pending) now) next
        following
  | reserveCleared {following : Session} (call : CallId) (provider : ProviderId)
      (snapshot : ReserveSnapshot) (decision : QuotaDecision)
      (held : session.gate = .reserved call provider snapshot decision)
      (runtime : following.runtime =
        session.runtime.clearPending (quotaGroup provider) snapshot.pending)
      (gate : following.gate = .checking call provider snapshot decision) :
      Move database session [] database following
  | feedbackCleared {following : Session} (call : CallId) (provider : ProviderId)
      (pending : PendingFeedback) (held : session.gate = .applied call provider pending)
      (runtime : following.runtime =
        session.runtime.clearPending (quotaGroup provider) (some pending))
      (gate : following.gate = .free) :
      Move database session [] database following

variable {codec : PayloadCodec} {after : World} {emitted : List Event} {database : Database}
  {session : Session}

/-- A step that only reads the clock and lets a call of the queue go. -/
theorem Idle.of_observe {following : Session} (request : Request) (wall : DateTime)
    (unretained : ∀ group feedback, Event.feedbackRetained group feedback ∉ emitted)
    (uncommitted : committed emitted = [])
    (unapplied : ∀ group feedback now, Event.feedbackCommitted group feedback now ∉ emitted)
    {next : Database} (accounts : SameAccounts database next)
    (runtime : following.runtime = request.observe session.runtime wall)
    (gate : following.gate = session.gate) :
    Idle database session emitted next following where
  unretained := unretained
  uncommitted := uncommitted
  unapplied := unapplied
  accounts := accounts
  pending := by
    rw [runtime]
    unfold Request.observe
    split <;> rfl
  clock := runtime ▸ request.highWater_le_observe session.runtime wall
  gate := Or.inl gate

/-- A step without reports and commits is idle. -/
theorem Idle.of_quiet {following : Session}
    (unretained : ∀ group feedback, Event.feedbackRetained group feedback ∉ emitted)
    (uncommitted : committed emitted = [])
    (unapplied : ∀ group feedback now, Event.feedbackCommitted group feedback now ∉ emitted)
    (runtime : following.runtime = session.runtime)
    (gate : following.gate = session.gate ∨ following.gate = .free) :
    Idle database session emitted database following where
  unretained := unretained
  uncommitted := uncommitted
  unapplied := unapplied
  accounts := .refl database
  pending := by rw [runtime]
  clock := by rw [runtime]
  gate := gate

/-- The events of a call that works in one go, and of its failure. -/
theorem unretained_of_direct (events : List Event)
    (direct : ∀ event ∈ events, event.Direct ∨ ∃ call, event = .callFailed call) :
    (∀ group feedback, Event.feedbackRetained group feedback ∉ events) ∧
      committed events = [] ∧
      ∀ group feedback now, Event.feedbackCommitted group feedback now ∉ events := by
  refine ⟨?_, ?_, ?_⟩
  · intro group feedback member
    rcases direct _ member with here | ⟨_, other⟩
    · exact here
    · cases other
  · apply List.filterMap_eq_nil_iff.mpr
    intro event member
    rcases direct event member with here | ⟨_, rfl⟩
    · cases event <;> first | rfl | cases here
    · rfl
  · intro group feedback now member
    rcases direct _ member with here | ⟨_, other⟩
    · exact here
    · cases other

/-- A step of an open storage closes it or is a move of its session. -/
theorem Step.move (taken : Step codec (.running database session) emitted after) :
    (emitted = [.closed] ∧ after = .closed (some database)) ∨
      ∃ next following, after = .running next following ∧
        following.settings = session.settings ∧ Move database session emitted next following := by
  cases taken with
  | closed => exact Or.inl ⟨rfl, rfl⟩
  | started request unretained queues =>
      exact Or.inr ⟨_, _, rfl, rfl, .idle (.of_quiet (by simp) rfl (by simp) rfl (Or.inl rfl))⟩
  | retained provider feedback => exact Or.inr ⟨_, _, rfl, rfl, .retained _ _ _ rfl rfl⟩
  | abandoned queued =>
      exact Or.inr ⟨_, _, rfl, rfl, .idle (.of_quiet (by simp) rfl (by simp) rfl (Or.inl rfl))⟩
  | @performed _ _ _ _ _ request done wall free queued performs =>
      obtain ⟨_, commits, returns⟩ := request.perform_ok performs
      obtain ⟨unretained, uncommitted, unapplied⟩ :=
        unretained_of_direct (done.committed ++ done.returned) (by
          intro event member
          rcases List.mem_append.mp member with first | second
          · exact Or.inl (commits event first)
          · exact Or.inl (returns event second))
      exact Or.inr ⟨_, _, rfl, rfl, .idle (.of_observe request wall unretained uncommitted unapplied
        (request.perform_sameAccounts performs) rfl rfl)⟩
  | @unreported _ _ _ _ call request done wall free queued performs =>
      obtain ⟨_, commits, _⟩ := request.perform_ok performs
      obtain ⟨unretained, uncommitted, unapplied⟩ :=
        unretained_of_direct (done.committed ++ [.callFailed call]) (by
          intro event member
          rcases List.mem_append.mp member with first | second
          · exact Or.inl (commits event first)
          · exact Or.inr ⟨call, List.mem_singleton.mp second⟩)
      exact Or.inr ⟨_, _, rfl, rfl, .idle (.of_observe request wall unretained uncommitted unapplied
        (request.perform_sameAccounts performs) rfl rfl)⟩
  | @unperformed _ _ _ _ _ request _ wall free queued performs =>
      exact Or.inr ⟨_, _, rfl, rfl, .idle
        (.of_observe request wall (by simp) rfl (by simp) (.refl _) rfl rfl)⟩
  | @reserveBehind _ _ _ _ _ provider wall free queued behind =>
      exact Or.inr ⟨_, _, rfl, rfl, .idle
        (.of_observe (.reserve provider) wall (by simp) rfl (by simp) (.refl _) rfl rfl)⟩
  | reserveSnapshot wall free queued caughtUp =>
      exact Or.inr ⟨_, _, rfl, rfl, .reserveSnapshot _ _ wall free rfl rfl⟩
  | reserveCommitted held reserves =>
      exact Or.inr ⟨_, _, rfl, rfl, .reserveCommitted _ _ _ _ held reserves rfl rfl⟩
  | reserveCleared held => exact Or.inr ⟨_, _, rfl, rfl, .reserveCleared _ _ _ _ held rfl rfl⟩
  | reserveReturned held =>
      exact Or.inr ⟨_, _, rfl, rfl, .idle (.of_quiet (by simp) rfl (by simp) rfl (Or.inr rfl))⟩
  | @feedbackSaved _ _ _ _ _ provider wall free queued saved =>
      exact Or.inr ⟨_, _, rfl, rfl, .idle
        (.of_observe (.feedback provider) wall (by simp) rfl (by simp) (.refl _) rfl rfl)⟩
  | feedbackSnapshot wall free queued unsaved =>
      exact Or.inr ⟨_, _, rfl, rfl, .feedbackSnapshot _ _ wall _ free rfl unsaved rfl⟩
  | feedbackCommitted held applies =>
      exact Or.inr ⟨_, _, rfl, rfl, .feedbackCommitted _ _ _ _ held applies rfl rfl⟩
  | feedbackCleared held => exact Or.inr ⟨_, _, rfl, rfl, .feedbackCleared _ _ _ held rfl rfl⟩
  | released held =>
      exact Or.inr ⟨_, _, rfl, rfl, .idle (.of_quiet (by simp) rfl (by simp) rfl (Or.inr rfl))⟩

/-- Only the start of `feedback` retains. -/
theorem Move.of_feedbackRetained {next : Database} {following : Session} {group : QuotaGroup}
    {feedback : QuotaFeedback} (move : Move database session emitted next following)
    (member : Event.feedbackRetained group feedback ∈ emitted) :
    next = database ∧ following.runtime = session.runtime.retain group feedback ∧
      following.gate = session.gate := by
  cases move with
  | idle idle => exact absurd member (idle.unretained group feedback)
  | retained call provider reported runtime gate =>
      simp only [List.mem_cons, reduceCtorEq, Event.feedbackRetained.injEq, List.not_mem_nil,
        or_false, false_or] at member
      obtain ⟨rfl, rfl⟩ := member
      exact ⟨rfl, runtime, gate⟩
  | reserveCommitted call provider snapshot decision held reserves runtime gate =>
      exact absurd member (reservation_unretained _ _ _ _ _ _ _)
  | feedbackCommitted call provider now pending held applies runtime gate =>
      exact absurd member (appliedFeedback_unretained _ _ _ _ _)
  | _ => cases member

end RustEnrich.Storage
