import RustEnrich.Storage.RetryDelay

/-!
# Calls performed alone

Each call of a storage with nothing else going on: the events it emits, what it
answers and the world it leaves. A sequence of such calls, restarts among them,
is a run of the system.
-/

namespace RustEnrich.Storage

open Transitions

/-- A call on an open storage, or a restart of its process. -/
inductive Operation
  | reserve (provider : ProviderId)
  | retryAfter (provider : ProviderId)
  | feedback (provider : ProviderId) (feedback : QuotaFeedback)
  | cacheGet (provider : ProviderId) (key : String) (kind : IndicatorKind)
  | cachePut (put : PutRequest)
  | cleanup
  | health
  | reopen (settings : Settings)

/-- What a call performed alone answers. -/
inductive Answer
  | reserved (answer : Except ReservationError Unit)
  | advised (delay : Option Nat)
  | read (read : CacheRead)
  | put (expiry : Option DateTime)
  | done
  | failed (error : StorageError)
  /-- No process has the file open. -/
  | closed

/-- What a call performed alone does. -/
structure Alone where
  events : List Event
  answer : Answer
  world : World

variable (codec : PayloadCodec) (wall : DateTime) (database : Database) (session : Session)

/-- The session after a call that started, with its clock and retained feedback. -/
def Session.answered (session : Session) (runtime : RuntimeState) : Session :=
  { session with runtime, nextCall := session.nextCall + 1 }

/-- A reserve with nothing else going on. -/
def aloneReserve (provider : ProviderId) : Alone :=
  let runtime := session.runtime.observe wall
  let pending := session.runtime.pending (quotaGroup provider)
  let started : Event := .callStarted session.nextCall (.reserve provider)
  if wall.timestampMillis < runtime.highWater then
    let answer := .error (.limited (some
      (delaySeconds runtime.highWater wall.timestampMillis)))
    { events := [started, .reserveReturned session.nextCall provider wall answer]
      answer := .reserved answer
      world := .running database (session.answered runtime) }
  else
    match reserveTransaction database (quotaGroup provider) (session.settings.limits provider) wall
      wall.timestampMillis pending with
    | .error error =>
        { events := [started, .callFailed session.nextCall]
          answer := .reserved (.error (.storage error))
          world := .running database (session.answered runtime) }
    | .ok (next, decision) =>
        let cleared := runtime.clearPending (quotaGroup provider) pending
        let answer := reserveAnswer cleared (quotaGroup provider) decision
        { events := started ::
            (appliedFeedback (quotaGroup provider) pending wall.timestampMillis ++
              grantedReservation session.nextCall (quotaGroup provider) wall.timestampMillis
                decision) ++ [.reserveReturned session.nextCall provider wall answer]
          answer := .reserved answer
          world := .running next (session.answered cleared) }

/-- A report with nothing else going on. -/
def aloneFeedback (provider : ProviderId) (feedback : QuotaFeedback) : Alone :=
  let retained := session.runtime.retain (quotaGroup provider) feedback
  let runtime := retained.observe wall
  let started : List Event := [.callStarted session.nextCall (.feedback provider),
    .feedbackRetained (quotaGroup provider) feedback]
  match retained.pending (quotaGroup provider) with
  | none =>
      { events := started, answer := .done
        world := .running database (session.answered runtime) }
  | some pending =>
      match feedbackTransaction database (quotaGroup provider) (session.settings.limits provider)
        runtime.highWater pending with
      | .error error =>
          { events := started ++ [.callFailed session.nextCall]
            answer := .failed error
            world := .running database (session.answered runtime) }
      | .ok next =>
          { events := started ++
              appliedFeedback (quotaGroup provider) (some pending) runtime.highWater
            answer := .done
            world := .running next (session.answered
              (runtime.clearPending (quotaGroup provider) (some pending))) }

/-- What the returned event of a call tells its caller. -/
def Event.answer : Event → Option Answer
  | .reserveReturned _ _ _ answer => some (.reserved answer)
  | .retryAfterReturned _ _ _ delay => some (.advised delay)
  | .cacheRead _ _ _ _ _ _ read => some (.read read)
  | .putReturned _ expiry => some (.put expiry)
  | _ => none

/-- A call that does its work in one go. -/
def alonePerformed (request : Request) : Alone :=
  let world := .running database (session.answered (request.observe session.runtime wall))
  match request.perform codec session.settings database session.runtime.pending session.nextCall
    wall (session.runtime.observe wall).highWater with
  | none => { events := [], answer := .closed, world := .running database session }
  | some (.error error) =>
      { events := [.callStarted session.nextCall request, .callFailed session.nextCall]
        answer := .failed error, world }
  | some (.ok done) =>
      { events := .callStarted session.nextCall request :: (done.committed ++ done.returned)
        answer := (done.returned.findSome? Event.answer).getD .done
        world := .running done.database
          (session.answered (request.observe session.runtime wall)) }

/-- A put of nothing answers before it queues. -/
def alonePut (put : PutRequest) : Alone :=
  match preparePut codec session.settings put with
  | .error error =>
      { events := [], answer := .failed error, world := .running database session }
  | .ok none => { events := [], answer := .put none, world := .running database session }
  | .ok (some _) => alonePerformed codec wall database session (.cachePut put)

/-- A start of the process on a file. -/
def aloneOpen (settings : Settings) (file : Option Database) : Alone :=
  match reconcile settings wall (initializeSchema wall file) with
  | .error error => { events := [], answer := .failed error, world := .closed file }
  | .ok (next, effective) =>
      { events := [.opened settings wall effective]
        answer := .done
        world := .running next (.fresh settings effective) }

variable {database session}

/-- A call with nothing else going on. -/
def Operation.alone (operation : Operation) : World → Alone
  | .closed file =>
      match operation with
      | .reopen settings => aloneOpen wall settings file
      | _ => { events := [], answer := .closed, world := .closed file }
  | .running database session =>
      match operation with
      | .reserve provider => aloneReserve wall database session provider
      | .retryAfter provider => alonePerformed codec wall database session (.retryAfter provider)
      | .feedback provider reported => aloneFeedback wall database session provider reported
      | .cacheGet provider key kind =>
          alonePerformed codec wall database session (.cacheGet provider key kind)
      | .cachePut put => alonePut codec wall database session put
      | .cleanup => alonePerformed codec wall database session .cleanup
      | .health => alonePerformed codec wall database session .health
      | .reopen settings =>
          let opened := aloneOpen wall settings (some database)
          { opened with events := .closed :: opened.events }

/-- A sequence of calls, each with its reading of the clock. -/
structure Performances where
  events : List Event
  answers : List Answer
  world : World

/-- Calls one after the other. -/
def performAll (codec : PayloadCodec) : List (Operation × DateTime) → World → Performances
  | [], world => { events := [], answers := [], world }
  | (operation, wall) :: rest, world =>
      let first := operation.alone codec wall world
      let others := performAll codec rest first.world
      { events := first.events ++ others.events
        answers := first.answer :: others.answers
        world := others.world }

/-! ### They are runs of the system -/

/-- Nothing holds the gate. -/
def World.Free : World → Prop
  | .closed _ => True
  | .running _ session => session.gate = .free

/-- A call performed alone runs, and leaves the gate free. -/
structure Alone.Runs (codec : PayloadCodec) (before : World) (alone : Alone) : Prop where
  run : Run (Step codec) before alone.events alone.world
  free : alone.world.Free

variable {codec : PayloadCodec} {wall : DateTime}

/-- A reserve performed alone runs. -/
theorem aloneReserve_runs (free : session.gate = .free) (provider : ProviderId) :
    (aloneReserve wall database session provider).Runs codec (.running database session) := by
  have run := Run.single (@Step.started codec database session (.reserve provider)
    (fun _ => nofun) trivial)
  unfold aloneReserve
  dsimp only
  split
  · rename_i behind
    have run := run.snoc (@Step.reserveBehind _ _ _ session.waiting [] _ _ wall free rfl behind)
    rw [List.append_nil] at run
    exact ⟨run, free⟩
  · rename_i caughtUp
    have run := run.snoc (@Step.reserveSnapshot _ _ _ session.waiting [] _ _ wall free rfl caughtUp)
    split
    · have run := run.snoc (.released rfl)
      rw [List.append_nil, List.append_nil] at run
      refine ⟨?_, free⟩
      rw [← free] at run
      exact run
    · rename_i next decision reserves
      have run := run.snoc (.reserveCommitted rfl reserves)
      have run := run.snoc (.reserveCleared rfl)
      have run := run.snoc (.reserveReturned rfl)
      simp only [List.append_nil] at run
      refine ⟨?_, free⟩
      rw [← free] at run
      exact run

/-- A report performed alone runs. -/
theorem aloneFeedback_runs (free : session.gate = .free) (provider : ProviderId)
    (feedback : QuotaFeedback) :
    (aloneFeedback wall database session provider feedback).Runs codec
      (.running database session) := by
  have run := Run.single (@Step.retained codec database session provider feedback)
  unfold aloneFeedback
  dsimp only
  split
  · rename_i saved
    have run := run.snoc (@Step.feedbackSaved _ _ _ session.waiting [] _ _ wall free rfl saved)
    simp only [List.append_nil] at run
    exact ⟨run, free⟩
  · rename_i pending unsaved
    have run := run.snoc
      (@Step.feedbackSnapshot _ _ _ session.waiting [] _ _ _ wall free rfl unsaved)
    split
    · have run := run.snoc (.released rfl)
      simp only [List.append_nil] at run
      refine ⟨?_, free⟩
      rw [← free] at run
      exact run
    · rename_i next applies
      have run := run.snoc (.feedbackCommitted rfl applies)
      have run := run.snoc (.feedbackCleared rfl)
      simp only [List.append_nil] at run
      refine ⟨?_, free⟩
      rw [← free] at run
      exact run

/-- The commit inside a feedback performed alone on a group with nothing
retained. -/
theorem aloneFeedback_commit {next : Database} {provider : ProviderId} {feedback : QuotaFeedback}
    (free : session.gate = .free)
    (unretained : session.runtime.pending (quotaGroup provider) = none)
    (applies : feedbackTransaction database (quotaGroup provider)
      (session.settings.limits provider) (session.runtime.observe wall).highWater
      { generation := session.runtime.nextGeneration + 1, feedback } = .ok next) :
    ∃ during after,
      Run (Step codec) (.running database session)
        [.callStarted session.nextCall (.feedback provider),
          .feedbackRetained (quotaGroup provider) feedback] (.running database during) ∧
      Step codec (.running database during) [.feedbackCommitted (quotaGroup provider) feedback
        (session.runtime.observe wall).highWater] after ∧
      during.settings = session.settings ∧
      Run (Step codec) after []
        (aloneFeedback wall database session provider feedback).world := by
  have retained : (session.runtime.retain (quotaGroup provider) feedback).pending
      (quotaGroup provider) =
        some { generation := session.runtime.nextGeneration + 1, feedback } := by
    simp [RuntimeState.retain, unretained]
  have run := Run.single (@Step.retained codec database session provider feedback)
  have run := run.snoc
    (@Step.feedbackSnapshot _ _ _ session.waiting [] _ _ _ wall free rfl retained)
  have taken := @Step.feedbackCommitted codec database next
    { session with
      runtime := (session.runtime.retain (quotaGroup provider) feedback).observe wall
      nextCall := session.nextCall + 1
      waiting := session.waiting ++ []
      gate := .applying session.nextCall provider (session.runtime.observe wall).highWater
        { generation := session.runtime.nextGeneration + 1, feedback } }
    session.nextCall provider _ _ rfl applies
  refine ⟨_, _, run, taken, rfl, ?_⟩
  have same : (aloneFeedback wall database session provider feedback).world =
      .running next (session.answered
        (((session.runtime.retain (quotaGroup provider) feedback).observe wall).clearPending
          (quotaGroup provider)
            (some { generation := session.runtime.nextGeneration + 1, feedback }))) := by
    have retains : feedbackTransaction database (quotaGroup provider)
        (session.settings.limits provider)
        ((session.runtime.retain (quotaGroup provider) feedback).observe wall).highWater
        { generation := session.runtime.nextGeneration + 1, feedback } = .ok next := applies
    unfold aloneFeedback
    simp only [retained, retains]
  have left : ∀ runtime, session.answered runtime =
      { session with
        runtime
        nextCall := session.nextCall + 1
        waiting := session.waiting ++ []
        gate := .free } := by
    intro runtime
    rw [List.append_nil, ← free]
    rfl
  rw [same, left]
  exact .single (.feedbackCleared rfl)

/-- A call in one go performed alone runs. -/
theorem alonePerformed_runs (free : session.gate = .free) {request : Request}
    (unretained : ∀ provider, request ≠ .feedback provider)
    (queues : request.Queues codec session.settings) :
    (alonePerformed codec wall database session request).Runs codec
      (.running database session) := by
  have run := Run.single (@Step.started codec database session request unretained queues)
  unfold alonePerformed
  dsimp only
  split
  · exact ⟨.refl, free⟩
  · rename_i error performs
    have run := run.snoc
      (@Step.unperformed _ _ _ session.waiting [] _ _ _ wall free rfl performs)
    rw [List.append_nil] at run
    exact ⟨run, free⟩
  · rename_i done performs
    have run := run.snoc
      (@Step.performed _ _ _ session.waiting [] _ _ _ wall free rfl performs)
    rw [List.append_nil] at run
    exact ⟨run, free⟩

/-- A put performed alone runs. -/
theorem alonePut_runs (free : session.gate = .free) (put : PutRequest) :
    (alonePut codec wall database session put).Runs codec (.running database session) := by
  unfold alonePut
  split
  · exact ⟨.refl, free⟩
  · exact ⟨.refl, free⟩
  · rename_i prepared prepares
    exact alonePerformed_runs free (fun _ => nofun) ⟨prepared, prepares⟩

/-- A start performed alone runs. -/
theorem aloneOpen_runs (settings : Settings) (file : Option Database) :
    (aloneOpen wall settings file).Runs codec (.closed file) := by
  unfold aloneOpen
  split
  · exact ⟨.refl, trivial⟩
  · rename_i next effective reconciled
    exact ⟨.single (.opened reconciled), rfl⟩

/-- Every call performed alone runs. -/
theorem Operation.alone_runs (codec : PayloadCodec) (wall : DateTime) (operation : Operation)
    {world : World} (free : world.Free) :
    (operation.alone codec wall world).Runs codec world := by
  cases world with
  | closed file =>
      cases operation with
      | reopen settings => exact aloneOpen_runs settings file
      | _ => exact ⟨.refl, trivial⟩
  | running database session =>
      cases operation with
      | reserve provider => exact aloneReserve_runs free provider
      | feedback provider reported => exact aloneFeedback_runs free provider reported
      | cachePut put => exact alonePut_runs free put
      | reopen settings =>
          obtain ⟨run, after⟩ := @aloneOpen_runs codec wall settings (some database)
          exact ⟨Run.cons .closed run, after⟩
      | cleanup => exact @alonePerformed_runs _ _ codec wall free .cleanup (fun _ => nofun) trivial
      | health => exact @alonePerformed_runs _ _ codec wall free .health (fun _ => nofun) trivial
      | _ => exact alonePerformed_runs free (fun _ => nofun) trivial

/-- A sequence of calls performed alone is a run of the system. -/
theorem performAll_runs (operations : List (Operation × DateTime)) {world : World}
    (free : world.Free) :
    Run (Step codec) world (performAll codec operations world).events
        (performAll codec operations world).world ∧
      (performAll codec operations world).world.Free := by
  induction operations generalizing world with
  | nil => exact ⟨.refl, free⟩
  | cons first rest ih =>
      obtain ⟨run, after⟩ := first.1.alone_runs codec first.2 free
      obtain ⟨others, last⟩ := ih after
      exact ⟨run.append others, last⟩

end RustEnrich.Storage
