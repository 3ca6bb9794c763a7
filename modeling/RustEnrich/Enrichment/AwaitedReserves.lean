import RustEnrich.Enrichment.Dispatches
import RustEnrich.Storage.Moves

/-!
# Reserves that are awaited

A fetch that reserves awaits a call of the storage. Until it is answered the
call waits for the gate or holds it, so it can always fail or time out; and no
two fetches await the same call.
-/

namespace RustEnrich.Enrichment

open Transitions Storage

/-- The holder of the gate, if it is a `reserve`. -/
def reservingCall : Gate → Option CallId
  | .reserving call .. | .reserved call .. | .checking call .. => some call
  | _ => none

/-- A reserve that waits for the gate or holds it. -/
def Underway (session : Session) (call : CallId) : Prop :=
  (∃ provider, (call, Request.reserve provider) ∈ session.waiting) ∨
    reservingCall session.gate = some call

variable {codec : PayloadCodec} {database : Database} {session following : Session}
  {emitted : List Event} {after : World} {call : CallId}

/-- A reserve under way holds the gate. -/
theorem holder_of_reservingCall {gate : Gate} (holds : reservingCall gate = some call) :
    gate.holder = some call := by
  cases gate <;> first | exact holds | cases holds

/-- A step that takes another call, or none, out of the queue. -/
theorem Underway.of_waiting (underway : Underway session call)
    (kept : ∀ provider, (call, Request.reserve provider) ∈ session.waiting →
      (call, Request.reserve provider) ∈ following.waiting)
    (gate : reservingCall session.gate = some call → reservingCall following.gate = some call) :
    Underway following call :=
  underway.imp (fun ⟨provider, waits⟩ => ⟨provider, kept provider waits⟩) gate

/-- What leaves the queue is the call itself, or leaves it waiting. -/
theorem waits_or_taken {front back : List (CallId × Request)} {own waiting : CallId × Request}
    (member : waiting ∈ front ++ own :: back) : waiting = own ∨ waiting ∈ front ++ back := by
  rw [List.mem_append, List.mem_cons] at member
  rw [List.mem_append]
  tauto

/-- Where the gate is free, a reserve under way is the call taken from the queue,
or still waits. -/
theorem Underway.taken_or_left {front back : List (CallId × Request)} {own : CallId × Request}
    (underway : Underway session call) (free : session.gate = .free)
    (queued : session.waiting = front ++ own :: back) :
    (∃ provider, (call, Request.reserve provider) = own) ∨
      ∃ provider, (call, Request.reserve provider) ∈ front ++ back := by
  rcases underway with ⟨provider, waits⟩ | holds
  · rw [queued] at waits
    exact (waits_or_taken waits).imp (fun same => ⟨provider, same⟩) fun left => ⟨provider, left⟩
  · rw [free] at holds
    cases holds

/-- A reserve that is under way is answered, lost with its process, or still
under way. -/
theorem underway_of_step (taken : Step codec (.running database session) emitted after)
    (underway : Underway session call) :
    .closed ∈ emitted ∨ (∃ event ∈ emitted, answeredCall event = some call) ∨
      ∃ next following, after = .running next following ∧ Underway following call := by
  cases taken with
  | closed => exact Or.inl (List.mem_singleton.mpr rfl)
  | started request unretained queues =>
      exact Or.inr (Or.inr ⟨_, _, rfl, underway.of_waiting
        (fun _ waits => List.mem_append_left _ waits) (fun holds => holds)⟩)
  | retained provider feedback =>
      exact Or.inr (Or.inr ⟨_, _, rfl, underway.of_waiting
        (fun _ waits => List.mem_append_left _ waits) (fun holds => holds)⟩)
  | @abandoned _ _ front back other request queued =>
      right
      rcases underway with ⟨provider, waits⟩ | holds
      · rw [queued] at waits
        rcases waits_or_taken waits with same | left
        · cases same
          exact Or.inl ⟨_, List.mem_singleton.mpr rfl, rfl⟩
        · exact Or.inr ⟨_, _, rfl, Or.inl ⟨provider, left⟩⟩
      · exact Or.inr ⟨_, _, rfl, Or.inr holds⟩
  -- A reserve is never performed at once: it takes a snapshot first.
  | performed wall free queued performs | unreported wall free queued performs
  | unperformed wall free queued performs =>
      rcases underway.taken_or_left free queued with ⟨provider, same⟩ | left
      · cases same
        cases performs
      · exact Or.inr (Or.inr ⟨_, _, rfl, Or.inl left⟩)
  | reserveBehind wall free queued behind =>
      rcases underway.taken_or_left free queued with ⟨provider, same⟩ | left
      · cases same
        exact Or.inr (Or.inl ⟨_, List.mem_singleton.mpr rfl, rfl⟩)
      · exact Or.inr (Or.inr ⟨_, _, rfl, Or.inl left⟩)
  | reserveSnapshot wall free queued caughtUp =>
      rcases underway.taken_or_left free queued with ⟨provider, same⟩ | left
      · cases same
        exact Or.inr (Or.inr ⟨_, _, rfl, Or.inr rfl⟩)
      · exact Or.inr (Or.inr ⟨_, _, rfl, Or.inl left⟩)
  | feedbackSaved wall free queued saved | feedbackSnapshot wall free queued unsaved =>
      rcases underway.taken_or_left free queued with ⟨provider, same⟩ | left
      · cases same
      · exact Or.inr (Or.inr ⟨_, _, rfl, Or.inl left⟩)
  | reserveCommitted held reserves | reserveCleared held =>
      refine Or.inr (Or.inr ⟨_, _, rfl, underway.of_waiting (fun _ waits => waits) ?_⟩)
      rw [held]
      exact fun holds => holds
  | reserveReturned held =>
      right
      rcases underway with waits | holds
      · exact Or.inr ⟨_, _, rfl, Or.inl waits⟩
      · rw [held] at holds
        exact Or.inl ⟨_, List.mem_singleton.mpr rfl, holds⟩
  | feedbackCommitted held applies | feedbackCleared held =>
      refine Or.inr (Or.inr ⟨_, _, rfl, underway.of_waiting (fun _ waits => waits) ?_⟩)
      rw [held]
      exact nofun
  | released held =>
      right
      rcases underway with waits | holds
      · exact Or.inr ⟨_, _, rfl, Or.inl waits⟩
      · have own := holder_of_reservingCall holds
        rw [held] at own
        exact Or.inl ⟨_, List.mem_singleton.mpr rfl, own⟩

/-- A reserve under way can fail at any time. -/
theorem Underway.fails (underway : Underway session call) (codec : PayloadCodec)
    (database : Database) :
    ∃ after, Step codec (.running database session) [.callFailed call] after := by
  rcases underway with ⟨provider, waits⟩ | holds
  · obtain ⟨front, back, queued⟩ := List.append_of_mem waits
    exact ⟨_, .abandoned queued⟩
  · exact ⟨_, .released (holder_of_reservingCall holds)⟩

/-- The numbers of calls do not go back. -/
theorem nextCall_le_of_step {next : Database}
    (taken : Step codec (.running database session) emitted (.running next following)) :
    session.nextCall ≤ following.nextCall := by
  cases taken <;> first | exact le_refl _ | exact Nat.le_succ _

/-- A reserve that starts is a new call, and waits. -/
theorem running_of_reserveStarted {before : World} {provider : ProviderId}
    (taken : Step codec before [.callStarted call (.reserve provider)] after) :
    ∃ database session, before = .running database session ∧ call = session.nextCall ∧
      after = .running database { session with
        nextCall := session.nextCall + 1
        waiting := session.waiting ++ [(call, .reserve provider)] } := by
  generalize event : [Event.callStarted call (.reserve provider)] = emitted at taken
  cases taken with
  | started request unretained queues =>
      cases event
      exact ⟨_, _, rfl, rfl, rfl⟩
  | performed wall free queued performs =>
      obtain ⟨_, commits, returns⟩ := Request.perform_ok performs
      have member : Event.callStarted call (.reserve provider) ∈ [_] := List.mem_singleton.mpr rfl
      rw [event] at member
      rcases List.mem_append.mp member with first | second
      · cases commits _ first
      · cases returns _ second
  | unreported wall free queued performs =>
      have last := congrArg List.getLast? event
      simp at last
  | @reserveCommitted _ _ _ _ _ snapshot decision held reserves =>
      have member : Event.callStarted call (.reserve provider) ∈ [_] := List.mem_singleton.mpr rfl
      rw [event] at member
      rcases List.mem_append.mp member with applied | granted
      · obtain ⟨_, _, same⟩ := mem_appliedFeedback.mp applied
        cases same
      · cases (mem_grantedReservation.mp granted).2
  | feedbackCommitted held applies =>
      simp [appliedFeedback] at event
  | _ => cases event

/-! ### The calls of fetches -/

/-- A fetch that may still take a step. -/
def FetchPhase.unfinished : FetchPhase → Bool
  | .returned _ | .panicked | .dropped => false
  | _ => true

/-- What an attempt ends in: a pause, or the end of the fetch. -/
def FetchPhase.Ends : FetchPhase → Prop
  | .sleeping .. | .returned _ | .panicked | .dropped => True
  | _ => False

/-- A concluded attempt holds no call. -/
theorem ends_conclude (service : Service) (deadline : Instant) (attempt : Nat)
    (result : Except ErrorCode Attempt) (now : Instant) :
    (conclude service deadline attempt result now).Ends := by
  unfold conclude
  split
  · trivial
  · split <;> trivial

/-- The moves between the awaits of a fetch. -/
inductive Moves : FetchPhase → FetchPhase → Prop
  | admitted (attempt : Nat) : Moves (.acquiringProvider attempt) (.acquiringGlobal attempt)
  | reserved (attempt : Nat) (call : CallId) :
      Moves (.acquiringGlobal attempt) (.reserving attempt call)
  | dispatched (attempt : Nat) (call : CallId) (attemptDeadline : Instant) :
      Moves (.reserving attempt call) (.sending attempt attemptDeadline)
  | woken (attempt : Nat) (delay : Duration) :
      Moves (.sleeping attempt delay) (.acquiringProvider (attempt + 1))
  | ended {phase next : FetchPhase} (unfinished : phase.unfinished = true) (ends : next.Ends) :
      Moves phase next

variable {service : Service} {request : FetchRequest} {phase next : FetchPhase}
  {actions : List FetchAction} {fetching : Fetching} {reached : Fetching}
  {events : List FetchEvent} {id : FetchId} {fetch : Fetch}

/-- How a fetch gets on in its phases. -/
theorem Progress.moves (progress : Progress service request phase actions next) :
    Moves phase next := by
  cases progress with
  | providerPermit attempt => exact .admitted attempt
  | globalPermit attempt call => exact .reserved attempt call
  | dispatched wall checked started inTime limited built => exact .dispatched _ _ _
  | woken more => exact .woken _ _
  | overflowed | exhausted | droppedAcquiringProvider | droppedAcquiringGlobal
  | droppedReserving | droppedSending | droppedSleeping => exact .ended rfl trivial
  | _ => exact .ended rfl (ends_conclude _ _ _ _ _)

/-- What a fetch does in the storage: it ends no process, and answers no call
but its own. -/
theorem Progress.stored (progress : Progress service request phase actions next) {event : Event}
    (member : event ∈ actions.filterMap FetchAction.stored) :
    event ≠ .closed ∧ ∀ call, answeredCall event = some call →
      ∃ attempt, phase = .reserving attempt call := by
  cases progress with
  | globalPermit attempt call =>
      simp only [List.filterMap_cons, FetchAction.stored, List.filterMap_nil,
        List.mem_singleton] at member
      subst member
      exact ⟨nofun, nofun⟩
  | limited | unavailable | failed | late | overflowed | unsent | dispatched
  | droppedReserving =>
      simp only [List.filterMap_cons, FetchAction.stored, List.filterMap_nil,
        List.mem_singleton] at member
      subst member
      refine ⟨nofun, ?_⟩
      rintro call ⟨⟩
      exact ⟨_, rfl⟩
  | _ => simp [FetchAction.stored] at member

/-- A fetch gets to a reserve by starting it. -/
theorem Progress.reserves {attempt : Nat}
    (progress : Progress service request phase actions (.reserving attempt call)) :
    actions = [.storage (.callStarted call (.reserve request.provider))] := by
  generalize reserving : FetchPhase.reserving attempt call = next at progress
  cases progress with
  | globalPermit attempt call =>
      cases reserving
      rfl
  | providerPermit | dispatched | overflowed | woken | exhausted | droppedAcquiringProvider
  | droppedAcquiringGlobal | droppedReserving | droppedSending | droppedSleeping =>
      cases reserving
  | _ =>
      have ends : (FetchPhase.reserving attempt call).Ends := by
        rw [reserving]
        exact ends_conclude _ _ _ _ _
      exact ends.elim

/-- The call a fetch awaits. -/
def Awaiting (fetching : Fetching) (id : FetchId) (call : CallId) : Prop :=
  ∃ fetch attempt, fetching.fetches[id]? = some fetch ∧ fetch.phase = .reserving attempt call

/-- The storage is open for unfinished fetches, and has the calls they await. -/
structure Awaited (fetching : Fetching) : Prop where
  running : ∀ fetch ∈ fetching.fetches, fetch.phase.unfinished = true →
    ∃ database session, fetching.storage = .running database session
  underway : ∀ id call database session, Awaiting fetching id call →
    fetching.storage = .running database session →
      Underway session call ∧ call < session.nextCall
  distinct : ∀ id other call, Awaiting fetching id call → Awaiting fetching other call → id = other

/-- Nothing is awaited at the start. -/
theorem Awaited.initial (file : Option Database) : Awaited (.initial file) where
  running := fun _ => nofun
  underway := by
    rintro id call database session ⟨_, _, there, _⟩
    cases there
  distinct := by
    rintro id other call ⟨_, _, there, _⟩
    cases there

/-- A step of an open storage that does not end its process leaves it open. -/
theorem running_of_step (taken : Step codec (.running database session) emitted after)
    (open_ : Event.closed ∉ emitted) :
    ∃ next following, after = .running next following := by
  obtain ⟨rfl, _⟩ | ⟨next, following, rfl, _⟩ := taken.move
  · exact absurd (List.mem_singleton.mpr rfl) open_
  · exact ⟨next, following, rfl⟩

/-- A reserve that a storage step does not answer is still under way. -/
theorem underway_of_unanswered {next : Database}
    (taken : Step codec (.running database session) emitted (.running next following))
    (open_ : Event.closed ∉ emitted)
    (unanswered : ∀ event ∈ emitted, answeredCall event ≠ some call)
    (underway : Underway session call) (earlier : call < session.nextCall) :
    Underway following call ∧ call < following.nextCall := by
  refine ⟨?_, earlier.trans_le (nextCall_le_of_step taken)⟩
  rcases underway_of_step taken underway with closed | ⟨event, member, answered⟩ |
    ⟨_, _, same, still⟩
  · exact absurd closed open_
  · exact absurd answered (unanswered event member)
  · cases same
    exact still

/-- What the storage does for a fetch, or beside all of them. -/
theorem Awaited.storage {storage : World} (awaited : Awaited fetching)
    (taken : Step codec fetching.storage emitted storage) (open_ : Event.closed ∉ emitted)
    (unanswered : ∀ id call, Awaiting fetching id call →
      ∀ event ∈ emitted, answeredCall event ≠ some call) :
    Awaited { fetching with storage } where
  running := by
    intro fetch member unfinished
    obtain ⟨database, session, running⟩ := awaited.running fetch member unfinished
    rw [running] at taken
    exact running_of_step taken open_
  underway := by
    rintro id call next following waits rfl
    obtain ⟨fetch, attempt, there, phase⟩ := waits
    obtain ⟨database, session, running⟩ :=
      awaited.running fetch (List.mem_of_getElem? there) (by rw [phase]; rfl)
    obtain ⟨underway, earlier⟩ :=
      awaited.underway id call database session ⟨fetch, attempt, there, phase⟩ running
    rw [running] at taken
    exact underway_of_unanswered taken open_
      (unanswered id call ⟨fetch, attempt, there, phase⟩) underway earlier
  distinct := awaited.distinct

/-- A fetch that gets on is unfinished. -/
theorem Moves.unfinished (moves : Moves phase next) : phase.unfinished = true := by
  cases moves with
  | ended unfinished ends => exact unfinished
  | _ => rfl

/-- Who awaits a call once a fetch has come to another phase. -/
theorem awaiting_set (there : fetching.fetches[id]? = some fetch) {other : FetchId}
    {storage : World}
    (waits : Awaiting { storage, fetches := fetching.fetches.set id { fetch with phase := next } }
      other call) :
    (other ≠ id ∧ Awaiting fetching other call) ∨
      (other = id ∧ ∃ attempt, next = .reserving attempt call) := by
  obtain ⟨found, attempt, present, phase⟩ := waits
  by_cases same : other = id
  · subst same
    rw [List.getElem?_set_self (List.getElem?_eq_some_iff.mp there).1] at present
    cases present
    exact Or.inr ⟨rfl, attempt, phase⟩
  · rw [List.getElem?_set_ne (Ne.symm same)] at present
    exact Or.inl ⟨same, found, attempt, present, phase⟩

/-- A fetch that comes to a phase in which it awaits no call. -/
theorem Awaited.settle (awaited : Awaited fetching)
    (there : fetching.fetches[id]? = some fetch) (unfinished : fetch.phase.unfinished = true)
    (settled : ∀ attempt call, next ≠ .reserving attempt call) :
    Awaited { fetching with fetches := fetching.fetches.set id { fetch with phase := next } } := by
  have kept : ∀ {other call}, Awaiting { fetching with
      fetches := fetching.fetches.set id { fetch with phase := next } } other call →
        other ≠ id ∧ Awaiting fetching other call := by
    intro other call waits
    rcases awaiting_set there waits with apart | ⟨_, attempt, reserving⟩
    · exact apart
    · exact absurd reserving (settled attempt call)
  refine ⟨?_, ?_, ?_⟩
  · intro _ _ _
    exact awaited.running fetch (List.mem_of_getElem? there) unfinished
  · intro other call database session waits running
    exact awaited.underway other call database session (kept waits).2 running
  · intro one two call first second
    exact awaited.distinct one two call (kept first).2 (kept second).2

/-- A fetch that starts to reserve awaits a new call. -/
theorem Awaited.reserve {storage : World} {attempt : Nat} (awaited : Awaited fetching)
    (there : fetching.fetches[id]? = some fetch)
    (taken : Step codec fetching.storage
      [.callStarted call (.reserve fetch.request.provider)] storage) :
    Awaited { storage
              fetches := fetching.fetches.set id
                { fetch with phase := .reserving attempt call } } := by
  obtain ⟨database, session, open_, rfl, rfl⟩ := running_of_reserveStarted taken
  have below : ∀ {other waited}, Awaiting fetching other waited →
      Underway session waited ∧ waited < session.nextCall := by
    intro other waited waits
    exact awaited.underway other waited database session waits open_
  refine ⟨fun _ _ _ => ⟨_, _, rfl⟩, ?_, ?_⟩
  · rintro other waited next following waits ⟨⟩
    rcases awaiting_set there waits with ⟨_, earlier⟩ | ⟨_, again, same⟩
    · obtain ⟨underway, before⟩ := below earlier
      exact ⟨underway.of_waiting (fun _ queued => List.mem_append_left _ queued)
        (fun holds => holds), before.trans (Nat.lt_succ_self _)⟩
    · cases same
      exact ⟨Or.inl ⟨_, List.mem_append_right _ (List.mem_singleton.mpr rfl)⟩,
        Nat.lt_succ_self _⟩
  · intro one two waited first second
    rcases awaiting_set there first with ⟨_, early⟩ | ⟨rfl, _, same⟩ <;>
      rcases awaiting_set there second with ⟨_, late⟩ | ⟨rfl, _, again⟩
    · exact awaited.distinct one two waited early late
    · cases again
      exact absurd (below early).2 (lt_irrefl _)
    · cases same
      exact absurd (below late).2 (lt_irrefl _)
    · rfl

/-- A fetch that gets on keeps what is awaited. -/
theorem Awaited.progressed {storage : World} (awaited : Awaited fetching)
    (there : fetching.fetches[id]? = some fetch)
    (progress : Progress service fetch.request fetch.phase actions next)
    (follows : Follows codec fetching.storage (actions.filterMap FetchAction.stored) storage) :
    Awaited { storage, fetches := fetching.fetches.set id { fetch with phase := next } } := by
  by_cases reserving : ∃ attempt call, next = .reserving attempt call
  · obtain ⟨attempt, call, rfl⟩ := reserving
    rw [progress.reserves] at follows
    exact awaited.reserve there follows
  · have settled : ∀ attempt call, next ≠ .reserving attempt call :=
      fun attempt call same => reserving ⟨attempt, call, same⟩
    have moved := awaited.settle there progress.moves.unfinished settled
    have answers := fun {event} => @Progress.stored _ _ _ _ _ progress event
    generalize actions.filterMap FetchAction.stored = emitted at follows answers
    cases emitted with
    | nil =>
        cases follows
        exact moved
    | cons first rest =>
        refine moved.storage follows (fun closed => (answers closed).1 rfl) ?_
        intro other call waits event member answered
        obtain ⟨attempt, own⟩ := (answers member).2 call answered
        rcases awaiting_set there waits with ⟨apart, held⟩ | ⟨_, attempt, same⟩
        · exact apart (awaited.distinct other id call held ⟨fetch, attempt, there, own⟩)
        · exact settled attempt call same

/-- Every step of the fetches keeps their calls. -/
theorem Awaited.step (awaited : Awaited fetching)
    (taken : FetchStep codec service fetching events reached) : Awaited reached := by
  cases taken with
  | @started database session request running =>
      have kept : ∀ {id call}, Awaiting { fetching with
          fetches := fetching.fetches ++ [{ request, phase := .acquiringProvider 0 }] } id call →
            Awaiting fetching id call := by
        rintro id call ⟨fetch, attempt, there, reserving⟩
        refine ⟨fetch, attempt, ?_, reserving⟩
        rcases lt_or_ge id fetching.fetches.length with before | after
        · rwa [List.getElem?_append_left before] at there
        · rw [List.getElem?_append_right after, List.getElem?_singleton] at there
          split at there
          · cases there
            cases reserving
          · cases there
      refine ⟨fun _ _ _ => ⟨_, _, running⟩, ?_, ?_⟩
      · intro id call database session waits open_
        exact awaited.underway id call database session (kept waits) open_
      · intro one two call first second
        exact awaited.distinct one two call (kept first) (kept second)
  | progressed there progress permits follows => exact awaited.progressed there progress follows
  | storage taken unawaited open_ =>
      refine awaited.storage taken open_ ?_
      rintro id call ⟨fetch, attempt, there, phase⟩ event member answered
      exact unawaited event member
        ⟨fetch, List.mem_of_getElem? there, attempt, call, phase, answered⟩
  | ended taken =>
      have lost : ∀ phase : FetchPhase, phase.lost.unfinished = false := by
        intro phase
        cases phase <;> rfl
      have none_ : ∀ id call storage, ¬ Awaiting {
          storage
          fetches := fetching.fetches.map fun fetch =>
            { fetch with phase := fetch.phase.lost } } id call := by
        rintro id call storage ⟨fetch, attempt, there, reserving⟩
        obtain ⟨old, _, rfl⟩ := List.mem_map.mp (List.mem_of_getElem? there)
        have finished := lost old.phase
        rw [show old.phase.lost = _ from reserving] at finished
        cases finished
      refine ⟨?_, ?_, ?_⟩
      · intro fetch member unfinished
        obtain ⟨old, _, rfl⟩ := List.mem_map.mp member
        exact absurd ((lost old.phase).symm.trans unfinished) nofun
      · intro id call database session waits
        exact absurd waits (none_ id call _)
      · intro one two call first
        exact absurd first (none_ one call _)

/-- After a run the storage has what is awaited. -/
theorem awaited_run {file : Option Database} {trace : List FetchEvent}
    (run : Run (FetchStep codec service) (.initial file) trace reached) : Awaited reached :=
  run.stateInvariant Awaited (.initial file) fun _ _ _ awaited taken => awaited.step taken

end RustEnrich.Enrichment
