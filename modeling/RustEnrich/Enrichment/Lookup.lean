import RustEnrich.Storage.Quota
import RustEnrich.Transitions.Run
import Mathlib.Data.List.AList

/-!
# Shared lookups as a transition system

A lookup reads the cache, and on a miss joins the flight of its key or
registers one under the flight lock. The flight belongs to a task of the
service: its owner reads the cache once more, fetches, stores a cacheable
outcome, publishes its result on the channel of the flight and removes the
entry. Callers and owners take their steps in any order, a caller may be dropped
or time out at every await, an owner may panic at any point of its work, and the
cancel token may fire at any time. Cache reads, fetches and cache writes answer
arbitrarily.
-/

namespace RustEnrich.Enrichment

open Transitions Storage

/-- An outcome read from the cache. -/
structure CachedOutcome where
  outcome : Outcome
  expiresAt : DateTime

/-- What a caller of `lookup` gets. -/
structure LookupResult where
  outcome : Outcome
  cacheHit : Bool
  expiresAt : Option DateTime

namespace LookupResult

/-- An outcome that does not come from the cache. -/
def uncached (outcome : Outcome) : LookupResult where
  outcome
  cacheHit := false
  expiresAt := none

/-- A failed lookup. -/
def failure (code : ErrorCode) : LookupResult := uncached (.failure code)

/-- The result of a cache read that hits. -/
def hit (cached : CachedOutcome) : LookupResult where
  outcome := cached.outcome
  cacheHit := true
  expiresAt := some cached.expiresAt

end LookupResult

/-- `Adapter::supports`. -/
def supports (id : ProviderId) (kind : IndicatorKind) : Bool :=
  id = .virustotal ∨ kind = .ip

/-- What concurrent callers share a fetch by. -/
structure FlightKey where
  provider : ProviderId
  cacheKey : String
  deriving DecidableEq

/-- What a caller asks for, with the cache key of its indicator, absent where it
does not serialize. -/
structure LookupRequest where
  provider : ProviderId
  kind : IndicatorKind
  cacheKey : Option String

/-- What a lookup reads of the configuration. -/
structure LookupConfig where
  maxSharedLookups : Nat
  enabled : ProviderId → Bool

/-- The part of `lookup` and `subscribe` before the first await. -/
def flightKey (config : LookupConfig) (request : LookupRequest) :
    Except LookupResult FlightKey :=
  if config.enabled request.provider = false then
    .error (.uncached (.empty .disabled))
  else if supports request.provider request.kind = false then
    .error (.uncached (.empty .unsupported))
  else
    match request.cacheKey with
    | none => .error (.failure .internalError)
    | some cacheKey => .ok { provider := request.provider, cacheKey }

/-- A task that owns a flight. Its identity is that of its channel. -/
abbrev OwnerId := Nat

/-- The place of a caller among those that came. -/
abbrev CallerId := Nat

/-- What a cache read answers. -/
abbrev CacheAnswer := Except StorageError (Option CachedOutcome)

/-- Where the task of a flight is. -/
inductive Work
  /-- The recheck at the start of `perform`. -/
  | rechecking
  | fetching
  /-- `cache_put` of a cacheable outcome. -/
  | storing (outcome : Outcome)
  /-- Done, and about to take the flight lock. -/
  | completed (result : LookupResult)
  /-- Holding the flight lock, between `send_replace` and `remove`. -/
  | published (result : LookupResult)
  | finished (result : LookupResult)

/-- Inside `perform`, where a panic is caught and the cancel token is heard. -/
def Work.Performing : Work → Prop
  | .rechecking | .fetching | .storing _ => True
  | _ => False

/-- What the work of an owner comes to. -/
inductive PerformEvent
  | rechecked (answer : CacheAnswer)
  | fetchStarted
  | fetched (outcome : Outcome)
  | putReturned (answer : Except StorageError (Option DateTime))
  | panicked

/-- One step of `perform`. A fetch past its deadline answers with a failure, and
a put past its deadline counts as failed. -/
inductive Perform : Work → List PerformEvent → Work → Prop
  | recheckHit (cached : CachedOutcome) :
      Perform .rechecking [.rechecked (.ok (some cached))] (.completed (.hit cached))
  | recheckMissed {answer : CacheAnswer} (missed : ∀ cached, answer ≠ .ok (some cached)) :
      Perform .rechecking [.rechecked answer, .fetchStarted] .fetching
  | fetchedReport {outcome : Outcome} (cacheable : outcome.isCacheable = true) :
      Perform .fetching [.fetched outcome] (.storing outcome)
  | fetchedFailure {outcome : Outcome} (uncacheable : outcome.isCacheable = false) :
      Perform .fetching [.fetched outcome] (.completed (.uncached outcome))
  | putConfirmed {outcome : Outcome} (expiry : Option DateTime) :
      Perform (.storing outcome) [.putReturned (.ok expiry)]
        (.completed { LookupResult.uncached outcome with expiresAt := expiry })
  | putFailed {outcome : Outcome} (error : StorageError) :
      Perform (.storing outcome) [.putReturned (.error error)] (.completed (.uncached outcome))
  | panicked {work : Work} (performing : work.Performing) :
      Perform work [.panicked] (.completed (.failure .internalError))

/-- The task behind a flight. -/
structure Owner where
  key : FlightKey
  work : Work
  channel : Option LookupResult

/-- Where a caller is in `lookup`. -/
inductive CallerPhase
  /-- Awaiting `cache_get`. -/
  | reading (key : FlightKey)
  /-- Past its cache read, and about to take the flight lock. -/
  | missed (key : FlightKey)
  /-- Awaiting the channel of a flight, joined or registered. -/
  | waiting (key : FlightKey) (owner : OwnerId) (joined : Bool)
  | returned (result : LookupResult)
  /-- Returned `RequestDeadlineExceeded` at its deadline. -/
  | timedOut
  | dropped

/-- At an await, where a caller may be dropped or time out. -/
def CallerPhase.Awaiting : CallerPhase → Prop
  | .reading _ | .waiting .. => True
  | _ => False

/-- A caller with its request. -/
structure Caller where
  request : LookupRequest
  phase : CallerPhase

/-- The flights with their owners and callers. -/
structure Lookups where
  flights : AList (fun _ : FlightKey => OwnerId)
  /-- The owner between its publication and the removal of its entry. -/
  lock : Option OwnerId
  cancelled : Bool
  owners : OwnerId → Option Owner
  callers : CallerId → Option Caller

/-- A service that has just started. -/
def Lookups.initial : Lookups where
  flights := ∅
  lock := none
  cancelled := false
  owners := fun _ => none
  callers := fun _ => none

namespace Lookups

/-- A caller gets on. -/
def setCaller (lookups : Lookups) (id : CallerId) (request : LookupRequest)
    (phase : CallerPhase) : Lookups :=
  { lookups with callers := Function.update lookups.callers id (some { request, phase }) }

/-- An owner gets on. -/
def setOwner (lookups : Lookups) (id : OwnerId) (owner : Owner) : Lookups :=
  { lookups with owners := Function.update lookups.owners id (some owner) }

section Frame

variable (lookups : Lookups) (caller : CallerId) (id : OwnerId) (request : LookupRequest)
  (phase : CallerPhase) (owner : Owner)

/-- A caller that gets on leaves the flights. -/
@[simp] theorem setCaller_flights :
    (lookups.setCaller caller request phase).flights = lookups.flights := rfl

/-- A caller that gets on leaves the lock. -/
@[simp] theorem setCaller_lock :
    (lookups.setCaller caller request phase).lock = lookups.lock := rfl

/-- A caller that gets on leaves the owners. -/
@[simp] theorem setCaller_owners :
    (lookups.setCaller caller request phase).owners = lookups.owners := rfl

/-- A caller that gets on cancels nothing. -/
@[simp] theorem setCaller_cancelled :
    (lookups.setCaller caller request phase).cancelled = lookups.cancelled := rfl

/-- An owner that gets on leaves the flights. -/
@[simp] theorem setOwner_flights : (lookups.setOwner id owner).flights = lookups.flights := rfl

/-- An owner that gets on leaves the lock. -/
@[simp] theorem setOwner_lock : (lookups.setOwner id owner).lock = lookups.lock := rfl

/-- An owner that gets on leaves the callers. -/
@[simp] theorem setOwner_callers : (lookups.setOwner id owner).callers = lookups.callers := rfl

/-- An owner that gets on cancels nothing. -/
@[simp] theorem setOwner_cancelled :
    (lookups.setOwner id owner).cancelled = lookups.cancelled := rfl

end Frame

/-- What holds of every owner, after one of them has moved. -/
theorem forall_setOwner {lookups : Lookups} {predicate : OwnerId → Owner → Prop}
    (all : ∀ id owner, lookups.owners id = some owner → predicate id owner) {id : OwnerId}
    {next : Owner} (moved : predicate id next) :
    ∀ other owner, (lookups.setOwner id next).owners other = some owner →
      predicate other owner := by
  intro other owner spawned
  unfold setOwner at spawned
  by_cases same : other = id
  · subst same
    simp only [Function.update_self, Option.some.injEq] at spawned
    exact spawned ▸ moved
  · simp only [Function.update_of_ne same] at spawned
    exact all other owner spawned

/-- What holds of every caller, after one of them has moved. -/
theorem forall_setCaller {lookups : Lookups} {predicate : CallerId → Caller → Prop}
    (all : ∀ id caller, lookups.callers id = some caller → predicate id caller) {id : CallerId}
    {request : LookupRequest} {phase : CallerPhase} (moved : predicate id { request, phase }) :
    ∀ other caller, (lookups.setCaller id request phase).callers other = some caller →
      predicate other caller := by
  intro other caller there
  unfold setCaller at there
  by_cases same : other = id
  · subst same
    simp only [Function.update_self, Option.some.injEq] at there
    exact there ▸ moved
  · simp only [Function.update_of_ne same] at there
    exact all other caller there

end Lookups

/-- What is told of the lookups. -/
inductive LookupEvent
  | started (caller : CallerId)
  | cacheRead (caller : CallerId) (key : FlightKey) (answer : CacheAnswer)
  | joined (caller : CallerId) (owner : OwnerId)
  | registered (caller : CallerId) (owner : OwnerId)
  | turnedAway (caller : CallerId) (key : FlightKey) (code : ErrorCode)
  | received (caller : CallerId)
  | channelClosed (caller : CallerId)
  | timedOut (caller : CallerId)
  | dropped (caller : CallerId)
  | performed (owner : OwnerId) (key : FlightKey) (event : PerformEvent)
  | cancelled (owner : OwnerId)
  | published (owner : OwnerId)
  | removed (owner : OwnerId)
  | cancelFired

/-- What a waiting caller returns. -/
def receivedResult (joined : Bool) (result : LookupResult) : LookupResult :=
  if joined then { result with cacheHit := false } else result

/-- What can happen to the lookups, in any order. -/
inductive LookupStep (config : LookupConfig) : Lookups → List LookupEvent → Lookups → Prop
  | answered {lookups : Lookups} {request : LookupRequest} {result : LookupResult}
      (caller : CallerId) (fresh : lookups.callers caller = none)
      (refuses : flightKey config request = .error result) :
      LookupStep config lookups [.started caller]
        (lookups.setCaller caller request (.returned result))
  | started {lookups : Lookups} {request : LookupRequest} {key : FlightKey}
      (caller : CallerId) (fresh : lookups.callers caller = none)
      (accepts : flightKey config request = .ok key) :
      LookupStep config lookups [.started caller]
        (lookups.setCaller caller request (.reading key))
  | cacheHit {lookups : Lookups} {caller : CallerId} {request : LookupRequest} {key : FlightKey}
      (cached : CachedOutcome)
      (reading : lookups.callers caller = some { request, phase := .reading key }) :
      LookupStep config lookups [.cacheRead caller key (.ok (some cached))]
        (lookups.setCaller caller request (.returned (.hit cached)))
  | cacheMissed {lookups : Lookups} {caller : CallerId} {request : LookupRequest}
      {key : FlightKey} {answer : CacheAnswer} (missed : ∀ cached, answer ≠ .ok (some cached))
      (reading : lookups.callers caller = some { request, phase := .reading key }) :
      LookupStep config lookups [.cacheRead caller key answer]
        (lookups.setCaller caller request (.missed key))
  | joined {lookups : Lookups} {caller : CallerId} {request : LookupRequest} {key : FlightKey}
      {owner : OwnerId} (unlocked : lookups.lock = none)
      (missed : lookups.callers caller = some { request, phase := .missed key })
      (flying : lookups.flights.lookup key = some owner) :
      LookupStep config lookups [.joined caller owner]
        (lookups.setCaller caller request (.waiting key owner true))
  | busy {lookups : Lookups} {caller : CallerId} {request : LookupRequest} {key : FlightKey}
      (unlocked : lookups.lock = none)
      (missed : lookups.callers caller = some { request, phase := .missed key })
      (absent : lookups.flights.lookup key = none)
      (full : config.maxSharedLookups ≤ lookups.flights.keys.length) :
      LookupStep config lookups [.turnedAway caller key .providerBusy]
        (lookups.setCaller caller request (.returned (.failure .providerBusy)))
  | unavailable {lookups : Lookups} {caller : CallerId} {request : LookupRequest}
      {key : FlightKey} (unlocked : lookups.lock = none)
      (missed : lookups.callers caller = some { request, phase := .missed key })
      (absent : lookups.flights.lookup key = none)
      (room : lookups.flights.keys.length < config.maxSharedLookups)
      (fired : lookups.cancelled = true) :
      LookupStep config lookups [.turnedAway caller key .serviceUnavailable]
        (lookups.setCaller caller request (.returned (.failure .serviceUnavailable)))
  | registered {lookups : Lookups} {caller : CallerId} {request : LookupRequest}
      {key : FlightKey} (owner : OwnerId) (unlocked : lookups.lock = none)
      (missed : lookups.callers caller = some { request, phase := .missed key })
      (absent : lookups.flights.lookup key = none)
      (room : lookups.flights.keys.length < config.maxSharedLookups)
      (running : lookups.cancelled = false) (fresh : lookups.owners owner = none) :
      LookupStep config lookups [.registered caller owner]
        (({ lookups with flights := lookups.flights.insert key owner }.setOwner owner
          { key, work := .rechecking, channel := none }).setCaller caller request
            (.waiting key owner false))
  | received {lookups : Lookups} {caller : CallerId} {request : LookupRequest} {key : FlightKey}
      {owner : OwnerId} {joined : Bool} {flight : Owner} {result : LookupResult}
      (waiting : lookups.callers caller = some { request, phase := .waiting key owner joined })
      (spawned : lookups.owners owner = some flight) (carried : flight.channel = some result) :
      LookupStep config lookups [.received caller]
        (lookups.setCaller caller request (.returned (receivedResult joined result)))
  /-- The task of the flight is gone and its channel never carried a result. -/
  | channelClosed {lookups : Lookups} {caller : CallerId} {request : LookupRequest}
      {key : FlightKey} {owner : OwnerId} {joined : Bool} {flight : Owner} {result : LookupResult}
      (waiting : lookups.callers caller = some { request, phase := .waiting key owner joined })
      (spawned : lookups.owners owner = some flight) (gone : flight.work = .finished result)
      (silent : flight.channel = none) :
      LookupStep config lookups [.channelClosed caller]
        (lookups.setCaller caller request (.returned (.failure .internalError)))
  | timedOut {lookups : Lookups} {caller : CallerId} {request : LookupRequest}
      {phase : CallerPhase} (there : lookups.callers caller = some { request, phase })
      (awaiting : phase.Awaiting) :
      LookupStep config lookups [.timedOut caller] (lookups.setCaller caller request .timedOut)
  | dropped {lookups : Lookups} {caller : CallerId} {request : LookupRequest}
      {phase : CallerPhase} (there : lookups.callers caller = some { request, phase })
      (awaiting : phase.Awaiting) :
      LookupStep config lookups [.dropped caller] (lookups.setCaller caller request .dropped)
  | performed {lookups : Lookups} {owner : OwnerId} {key : FlightKey} {work next : Work}
      {events : List PerformEvent}
      (spawned : lookups.owners owner = some { key, work, channel := none })
      (performs : Perform work events next) :
      LookupStep config lookups (events.map (.performed owner key))
        (lookups.setOwner owner { key, work := next, channel := none })
  | cancelled {lookups : Lookups} {owner : OwnerId} {key : FlightKey} {work : Work}
      (spawned : lookups.owners owner = some { key, work, channel := none })
      (performing : work.Performing) (fired : lookups.cancelled = true) :
      LookupStep config lookups [.cancelled owner]
        (lookups.setOwner owner
          { key, work := .completed (.failure .providerTimeout), channel := none })
  | published {lookups : Lookups} {owner : OwnerId} {key : FlightKey} {result : LookupResult}
      {channel : Option LookupResult} (unlocked : lookups.lock = none)
      (spawned : lookups.owners owner = some { key, work := .completed result, channel }) :
      LookupStep config lookups [.published owner]
        ({ lookups with lock := some owner }.setOwner owner
          { key, work := .published result, channel := some result })
  | removed {lookups : Lookups} {owner : OwnerId} {key : FlightKey} {result : LookupResult}
      {channel : Option LookupResult} (locked : lookups.lock = some owner)
      (spawned : lookups.owners owner = some { key, work := .published result, channel }) :
      LookupStep config lookups [.removed owner]
        ({ lookups with lock := none, flights := lookups.flights.erase key }.setOwner owner
          { key, work := .finished result, channel })
  | cancelFired {lookups : Lookups} :
      LookupStep config lookups [.cancelFired] { lookups with cancelled := true }

end RustEnrich.Enrichment
