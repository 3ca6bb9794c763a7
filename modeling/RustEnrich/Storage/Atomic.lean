import RustEnrich.Storage.CachePayloads
import RustEnrich.Storage.Cooldown
import RustEnrich.Storage.Sequential
import RustEnrich.Transitions.Reordering

/-!
# Calls in one piece

Only the holder of the gate works on the database, but calls start, are dropped
and retain feedback while it does. All of that can be told after the call: the
calls of any run can be put in an order in which each that takes the gate is
performed in one piece, at a moment between its start and its end. Where feedback
came in between, the piece is one of a call that commits and is not answered.
-/

namespace RustEnrich.Storage

open Transitions

/-- A call that is not answered: it failed, or was lost with its process. A
feedback that is saved has no answer either. -/
inductive Unanswered (call : CallId) : List Event → Prop
  | lost : Unanswered call []
  | failed : Unanswered call [.callFailed call]

/-- A call of the queue that finds the gate free. -/
structure Enters (session : Session) (call : CallId) (request : Request)
    (front back : List (CallId × Request)) : Prop where
  free : session.gate = .free
  queued : session.waiting = front ++ (call, request) :: back

/-- The session once a call has left its queue for the gate. -/
def Session.enter (session : Session) (wall : DateTime) (front back : List (CallId × Request)) :
    Session :=
  { session with
    runtime := session.runtime.observe wall
    waiting := front ++ back }

/-- What a reserve reads as it takes the gate. -/
def Session.snapshot (session : Session) (provider : ProviderId) (wall : DateTime) :
    ReserveSnapshot :=
  { wall, pending := session.runtime.pending (quotaGroup provider) }

/-- The session after `clear_pending`. -/
def Session.clear (session : Session) (group : QuotaGroup) (saved : Option PendingFeedback) :
    Session :=
  { session with runtime := session.runtime.clearPending group saved }

/-- What the transaction of a reserve commits. -/
def reserveEvents (call : CallId) (provider : ProviderId) (snapshot : ReserveSnapshot)
    (decision : QuotaDecision) : List Event :=
  appliedFeedback (quotaGroup provider) snapshot.pending snapshot.now ++
    grantedReservation call (quotaGroup provider) snapshot.now decision

/-- The answer of a reserve that finds feedback it did not apply. -/
def turnedDown (call : CallId) (provider : ProviderId) (wall : DateTime) : Event :=
  .reserveReturned call provider wall (.error (.storage .unavailable))

/-- The storage with its calls in one piece: between two of its steps nobody
holds the gate. -/
inductive AtomicStep (codec : PayloadCodec) : World → List Event → World → Prop
  | outside {before after : World} {emitted : List Event}
      (taken : Step codec before emitted after) (free : before.Free) (still : after.Free) :
      AtomicStep codec before emitted after
  | reserveUncommitted {database : Database} {session : Session}
      {front back : List (CallId × Request)} {call : CallId} {provider : ProviderId}
      {report : List Event} (wall : DateTime)
      (enters : Enters session call (.reserve provider) front back)
      (caughtUp : ¬ wall.timestampMillis < (session.runtime.observe wall).highWater)
      (unanswered : Unanswered call report) :
      AtomicStep codec (.running database session) report
        (.running database (session.enter wall front back))
  /-- A reserve that commits and is not answered, or is turned down. -/
  | reserveUnanswered {database next : Database} {session after : Session}
      {front back : List (CallId × Request)} {call : CallId} {provider : ProviderId}
      {decision : QuotaDecision} {report : List Event} (wall : DateTime)
      (enters : Enters session call (.reserve provider) front back)
      (caughtUp : ¬ wall.timestampMillis < (session.runtime.observe wall).highWater)
      (reserves : reserveTransaction database (quotaGroup provider)
        (session.settings.limits provider) wall wall.timestampMillis
          (session.runtime.pending (quotaGroup provider)) = .ok (next, decision))
      (saved : after = session.enter wall front back ∨
        after = (session.enter wall front back).clear (quotaGroup provider)
          (session.runtime.pending (quotaGroup provider)))
      (unanswered : Unanswered call report ∨ report = [turnedDown call provider wall]) :
      AtomicStep codec (.running database session)
        (reserveEvents call provider (session.snapshot provider wall) decision ++ report)
        (.running next after)
  | reserveAnswered {database next : Database} {session after : Session}
      {front back : List (CallId × Request)} {call : CallId} {provider : ProviderId}
      {decision : QuotaDecision} (wall : DateTime)
      (enters : Enters session call (.reserve provider) front back)
      (caughtUp : ¬ wall.timestampMillis < (session.runtime.observe wall).highWater)
      (reserves : reserveTransaction database (quotaGroup provider)
        (session.settings.limits provider) wall wall.timestampMillis
          (session.runtime.pending (quotaGroup provider)) = .ok (next, decision))
      (cleared : after = (session.enter wall front back).clear (quotaGroup provider)
        (session.runtime.pending (quotaGroup provider))) :
      AtomicStep codec (.running database session)
        (reserveEvents call provider (session.snapshot provider wall) decision ++
          [.reserveReturned call provider wall
            (reserveAnswer after.runtime (quotaGroup provider) decision)])
        (.running next after)
  | feedbackUncommitted {database : Database} {session : Session}
      {front back : List (CallId × Request)} {call : CallId} {provider : ProviderId}
      {report : List Event} (wall : DateTime)
      (enters : Enters session call (.feedback provider) front back)
      (unanswered : Unanswered call report) :
      AtomicStep codec (.running database session) report
        (.running database (session.enter wall front back))
  | feedbackCommitted {database next : Database} {session after : Session}
      {front back : List (CallId × Request)} {call : CallId} {provider : ProviderId}
      {pending : PendingFeedback} {report : List Event} (wall : DateTime)
      (enters : Enters session call (.feedback provider) front back)
      (unsaved : session.runtime.pending (quotaGroup provider) = some pending)
      (applies : feedbackTransaction database (quotaGroup provider)
        (session.settings.limits provider) (session.runtime.observe wall).highWater pending =
          .ok next)
      (saved : after = session.enter wall front back ∨
        after = (session.enter wall front back).clear (quotaGroup provider) (some pending))
      (unanswered : Unanswered call report) :
      AtomicStep codec (.running database session)
        (appliedFeedback (quotaGroup provider) (some pending)
          (session.runtime.observe wall).highWater ++ report)
        (.running next after)

/-! ### Who may overtake whom -/

namespace Event

/-- The call an event belongs to. -/
def call : Event → Option CallId
  | .callStarted call _ | .callFailed call | .reservationCommitted call .. => some call
  | .reserveReturned call .. | .retryAfterReturned call .. => some call
  | .cacheRead call .. | .putReturned call _ => some call
  | _ => none

/-- What happens beside the holder of the gate. -/
def FromOutside : Event → Prop
  | .callStarted .. | .feedbackRetained .. | .callFailed _ => True
  | _ => False

/-- What the holder of the gate does. -/
def OfHolder : Event → Prop
  | .feedbackCommitted .. | .reservationCommitted .. | .reserveReturned .. | .callFailed _ => True
  | _ => False

end Event

/-- The holder of the gate overtakes what another call does outside. -/
structure Overtakes (later earlier : Event) : Prop where
  holder : later.OfHolder
  outside : earlier.FromOutside
  apart : ∀ call, earlier.call = some call → later.call ≠ some call

/-- The commits of a reserve tell of its call. -/
theorem reserveEvents_ofHolder {call : CallId} {provider : ProviderId}
    {snapshot : ReserveSnapshot} {decision : QuotaDecision} {event : Event}
    (member : event ∈ reserveEvents call provider snapshot decision) :
    event.OfHolder ∧ ∀ other, event.call = some other → other = call := by
  unfold reserveEvents appliedFeedback grantedReservation at member
  rcases List.mem_append.mp member with applied | granted
  · split at applied
    · rw [List.mem_singleton.mp applied]
      exact ⟨trivial, nofun⟩
    · cases applied
  · split at granted
    · cases granted
    · rw [List.mem_singleton.mp granted]
      exact ⟨trivial, fun _ same => (Option.some.inj same).symm⟩

/-! ### What happens outside -/

/-- What may fall between two steps of a call that holds the gate. -/
inductive Outside (codec : PayloadCodec) : Session → List Event → Session → Prop
  | started {session : Session} (request : Request)
      (unretained : ∀ provider, request ≠ .feedback provider)
      (queues : request.Queues codec session.settings) :
      Outside codec session [.callStarted session.nextCall request]
        { session with
          nextCall := session.nextCall + 1
          waiting := session.waiting ++ [(session.nextCall, request)] }
  | retained {session : Session} (provider : ProviderId) (feedback : QuotaFeedback) :
      Outside codec session
        [.callStarted session.nextCall (.feedback provider),
          .feedbackRetained (quotaGroup provider) feedback]
        { session with
          runtime := session.runtime.retain (quotaGroup provider) feedback
          nextCall := session.nextCall + 1
          waiting := session.waiting ++ [(session.nextCall, .feedback provider)] }
  | abandoned {session : Session} {front back : List (CallId × Request)} {call : CallId}
      {request : Request} (queued : session.waiting = front ++ (call, request) :: back) :
      Outside codec session [.callFailed call] { session with waiting := front ++ back }

variable {codec : PayloadCodec} {database : Database} {session following entered calm : Session}
  {emitted seen : List Event} {group : QuotaGroup} {saved : Option PendingFeedback}

namespace Outside

/-- What happens outside is a step, whatever the database. -/
theorem step (taken : Outside codec session emitted following) (database : Database) :
    Step codec (.running database session) emitted (.running database following) := by
  cases taken with
  | started request unretained queues => exact .started request unretained queues
  | retained provider feedback => exact .retained provider feedback
  | abandoned queued => exact .abandoned queued

/-- What happens outside leaves the gate. -/
theorem gate (taken : Outside codec session emitted following) :
    following.gate = session.gate := by
  cases taken <;> rfl

/-- What happens outside leaves the settings. -/
theorem settings (taken : Outside codec session emitted following) :
    following.settings = session.settings := by
  cases taken <;> rfl

/-- What happens outside tells of it. -/
theorem fromOutside (taken : Outside codec session emitted following) {event : Event}
    (member : event ∈ emitted) : event.FromOutside := by
  cases taken with
  | started => rw [List.mem_singleton.mp member]; trivial
  | retained =>
      rcases List.mem_cons.mp member with rfl | second
      · trivial
      · rw [List.mem_singleton.mp second]
        trivial
  | abandoned => rw [List.mem_singleton.mp member]; trivial

/-- Nothing that is retained is dropped outside. -/
theorem pending_isSome (taken : Outside codec session emitted following)
    (some_ : (session.runtime.pending group).isSome = true) :
    (following.runtime.pending group).isSome = true := by
  cases taken with
  | retained provider feedback =>
      by_cases same : group = quotaGroup provider
      · subst same
        simp [RuntimeState.retain]
      · rw [RuntimeState.retain_of_ne same]
        exact some_
  | _ => exact some_

/-- Outside, an entry of a group changes only by a retention. -/
theorem pending_eq (taken : Outside codec session emitted following)
    (quiet : ∀ feedback, Event.feedbackRetained group feedback ∉ emitted) :
    following.runtime.pending group = session.runtime.pending group := by
  cases taken with
  | retained provider feedback =>
      refine RuntimeState.retain_of_ne ?_ feedback
      rintro rfl
      exact quiet feedback (by simp)
  | _ => rfl

/-- Clearing the entry of a group and what does not retain for it commute. -/
theorem clear (taken : Outside codec session emitted following)
    (quiet : ∀ feedback, Event.feedbackRetained group feedback ∉ emitted)
    (saved : Option PendingFeedback) :
    Outside codec (session.clear group saved) emitted (following.clear group saved) := by
  cases taken with
  | started request unretained queues =>
      exact @Outside.started codec (session.clear group saved) request unretained queues
  | retained provider feedback =>
      have distinct : quotaGroup provider ≠ group := by
        rintro rfl
        exact quiet feedback (by simp)
      have commutes : (session.runtime.retain (quotaGroup provider) feedback).clearPending group
          saved = (session.runtime.clearPending group saved).retain (quotaGroup provider)
            feedback := by
        unfold RuntimeState.clearPending RuntimeState.retain
        cases saved with
        | none => rfl
        | some saved =>
            simp only [Function.update_of_ne (Ne.symm distinct)]
            split
            · simp only [Function.update_of_ne distinct, Function.update_comm distinct]
            · rfl
      have taken := @Outside.retained codec (session.clear group saved) provider feedback
      unfold Session.clear at taken ⊢
      rw [commutes]
      exact taken
  | abandoned queued =>
      exact @Outside.abandoned codec (session.clear group saved) _ _ _ _ queued

variable (run : Run (Outside codec) entered seen calm)

include run

/-- Any of it leaves the gate. -/
theorem gate_run : calm.gate = entered.gate := by
  refine run.stateInvariant (fun state => state.gate = entered.gate) rfl ?_
  intro before events after same taken
  exact taken.gate.trans same

/-- Any of it leaves the settings. -/
theorem settings_run : calm.settings = entered.settings := by
  refine run.stateInvariant (fun state => state.settings = entered.settings) rfl ?_
  intro before events after same taken
  exact taken.settings.trans same

/-- Clearing does not mind what happens outside, where no report comes. -/
theorem clear_run (quiet : ∀ feedback, Event.feedbackRetained group feedback ∉ seen)
    (saved : Option PendingFeedback) :
    Run (Outside codec) (entered.clear group saved) seen (calm.clear group saved) := by
  induction run with
  | refl => exact .refl
  | snoc _ taken ih =>
      have earlier := ih fun feedback member => quiet feedback (List.mem_append_left _ member)
      exact earlier.snoc (taken.clear
        (fun feedback member => quiet feedback (List.mem_append_right _ member)) saved)

/-- With the gate free, what happens outside are steps of the storage. -/
theorem atomic_run (free : entered.gate = .free) (database : Database) :
    Run (AtomicStep codec) (.running database entered) seen (.running database calm) := by
  have still : ∀ {trace state}, Run (Outside codec) entered trace state → state.gate = .free :=
    fun run => (gate_run run).trans free
  induction run with
  | refl => exact .refl
  | snoc previous taken ih =>
      exact ih.snoc (.outside (taken.step database) (still previous)
        (taken.gate.trans (still previous)))

end Outside

end RustEnrich.Storage
