import RustEnrich.Storage.Reservations
import RustEnrich.Instant

/-!
# Fetches as a transition system

A fetch makes at most two attempts. Each acquires a permit of its provider and a
global one, reserves quota, sends its request and waits for the reply; both
permits are released at the end of the attempt, before the pause that precedes
the second. Any number of fetches run over one storage, each stretch of a fetch
between two awaits is one step, and every reading of a clock is arbitrary. A
fetch may be dropped at every await.
-/

namespace RustEnrich.Enrichment

open Transitions Storage

/-- `seconds_until`: the wait until an instant, in seconds rounded up. -/
def secondsUntil (target now : DateTime) : Nat :=
  ((max ((target.nanos - now.nanos).tdiv milliNanos) 0).toNat + 999) / 1000

/-! ### One exchange with a provider -/

/-- What `is_tls_error`, `is_timeout`, `is_connect` and `is_connection_reset`
tell of a failed exchange. -/
structure TransportError where
  tls : Bool
  timeout : Bool
  connect : Bool
  reset : Bool

/-- A part of a body. -/
inductive Chunk
  | data (bytes : List UInt8)
  | failed (error : TransportError)

/-- A response, with what `feedback_from_headers` and `parse_retry_after` make
of its headers. -/
structure Response where
  status : UInt16
  feedback : QuotaFeedback
  retryAfter : Option Duration
  chunks : List Chunk

/-- What an attempt comes to. -/
structure Attempt where
  outcome : Outcome
  retry : Bool
  retryAfter : Option Duration

/-- The adapter of a provider, as far as `send` uses it. -/
structure Adapter where
  request : ValidatedIndicator → Except ErrorCode Unit
  decode : UInt16 → List UInt8 → ValidatedIndicator → DateTime → Except ErrorCode Outcome

/-- What a fetch reads of the service, and the compact length `serde_json` gives
a value. -/
structure Service where
  providerTimeout : Duration
  maxProviderBytes : Nat
  maxOutboundRequests : Nat
  maxConcurrency : ProviderId → Nat
  adapter : ProviderId → Adapter
  serializedLength : Value → Nat

/-- How the network answers a request. The wall clock is read when the response
begins, to decode it and to stamp it; `retry_after` answers after a 429. -/
inductive Exchange
  | failed (error : TransportError)
  | responded (response : Response) (now decodedAt fetchedAt : DateTime)
      (delay : Except StorageError (Option Nat))

/-- An attempt without a response. -/
def Attempt.unanswered (error : TransportError) : Attempt where
  outcome := .failure <|
    if error.tls then .providerTlsError
    else if error.timeout then .providerTimeout
    else .networkError
  retry := !error.tls && !error.timeout && (error.connect || error.reset)
  retryAfter := none

/-- The body of a response, or what `send` returns in the middle of it. -/
def readBody (maxProviderBytes : Nat) (body : List UInt8) :
    List Chunk → Except (Except ErrorCode Attempt) (List UInt8)
  | [] => .ok body
  | .failed error :: _ =>
      .error <|
        if error.reset then
          .ok { outcome := .failure .networkError, retry := true, retryAfter := none }
        else
          .error (if error.timeout then .providerTimeout else .invalidResponse)
  | .data bytes :: rest =>
      if maxProviderBytes - body.length < bytes.length then
        .error (.error .responseTooLarge)
      else
        readBody maxProviderBytes (body ++ bytes) rest

/-- The delay reported after a 429. Where the store cannot tell, it is that of
the response itself, if its reset is known. -/
def reportedDelay (response : Response) (now : DateTime) :
    Except StorageError (Option Nat) → Option Nat
  | .ok delay => delay
  | .error _ =>
      if response.feedback.unknownReset then none
      else response.feedback.cooldownUntil.map (secondsUntil · now)

/-- `send`, from the answer of the network on. -/
def send (service : Service) (provider : ProviderId) (indicator : ValidatedIndicator) :
    Exchange → Except ErrorCode Attempt
  | .failed error => .ok (.unanswered error)
  | .responded response now decodedAt fetchedAt delay =>
      match readBody service.maxProviderBytes [] response.chunks with
      | .error returned => returned
      | .ok body =>
          let decoded :=
            match (service.adapter provider).decode response.status body indicator decodedAt with
            | .ok outcome => outcome
            | .error code => .failure code
          if (decoded.raw.map service.serializedLength).getD 0 > service.maxProviderBytes then
            .error .responseTooLarge
          else
            let stamped :=
              match decoded.status with
              | .ok | .notFound => { decoded with fetchedAt := some fetchedAt }
              | _ => decoded
            let outcome :=
              if response.status = 429 then
                { stamped with
                  error := stamped.error.map fun error =>
                    { error with retryAfterSeconds := reportedDelay response now delay } }
              else
                stamped
            .ok {
              outcome
              retry := 502 ≤ response.status ∧ response.status ≤ 504
              retryAfter := response.retryAfter }

/-! ### One fetch -/

/-- What a fetch is asked for. -/
structure FetchRequest where
  provider : ProviderId
  indicator : ValidatedIndicator
  deadline : Instant

/-- The last index of `0..=1`. -/
def lastAttempt : Nat := 1

/-- The shortest pause before another attempt. -/
def backoff : Duration := .fromMillis 200

/-- Where a fetch is, with its attempt. -/
inductive FetchPhase
  | acquiringProvider (attempt : Nat)
  /-- Holding a permit of the provider. -/
  | acquiringGlobal (attempt : Nat)
  /-- Holding both permits and awaiting `reserve`. -/
  | reserving (attempt : Nat) (call : CallId)
  /-- Holding both permits, with the request sent. -/
  | sending (attempt : Nat) (attemptDeadline : Instant)
  | sleeping (attempt : Nat) (delay : Duration)
  | returned (outcome : Outcome)
  | panicked
  | dropped

namespace FetchPhase

/-- The fetch holds a permit of its provider. -/
def holdsProvider : FetchPhase → Bool
  | .acquiringGlobal _ | .reserving .. | .sending .. => true
  | _ => false

/-- The fetch holds a global permit. -/
def holdsGlobal : FetchPhase → Bool
  | .reserving .. | .sending .. => true
  | _ => false

/-- The phase of a fetch whose process has ended. -/
def lost : FetchPhase → FetchPhase
  | .returned outcome => .returned outcome
  | .panicked => .panicked
  | _ => .dropped

end FetchPhase

/-- A request sent, with the reservation it was sent under and the reading that
was compared with the deadline just before. -/
structure Dispatch where
  attempt : Nat
  reservation : Reservation
  checked : Instant

/-- What a fetch does on its way. -/
inductive FetchAction
  /-- A step of the storage that answers a call of the fetch, or starts it. -/
  | storage (event : Event)
  | dispatched (dispatch : Dispatch)
  /-- The end of an attempt, at the reading that decides on another one. -/
  | attempted (attempt : Nat) (result : Except ErrorCode Attempt) (now : Instant)
  /-- The return after the loop. -/
  | exhausted

/-- The attempt that an exhausted quota answers. -/
def Attempt.limited (delay : Option Nat) : Attempt where
  outcome := { Outcome.failure .quotaExhausted with
    error := some { PublicError.new .quotaExhausted with retryAfterSeconds := delay } }
  retry := false
  retryAfter := none

/-- The pause that an attempt asks for. -/
def Attempt.delay (attempt : Attempt) : Duration := max (attempt.retryAfter.getD backoff) backoff

/-- A result counts if it is there before the deadline of its attempt. -/
def collect (attemptDeadline : Instant) (result : Except ErrorCode Attempt)
    (collected : Instant) : Except ErrorCode Attempt :=
  if collected < attemptDeadline then result else .error .providerTimeout

/-- Only a first attempt is repeated, and only with the time for the pause and a
whole second attempt. -/
def retries (service : Service) (deadline : Instant) (attempt : Nat) (result : Attempt)
    (now : Instant) : Bool :=
  attempt = 0 ∧ result.retry ∧
    result.delay.saturatingAdd service.providerTimeout ≤ deadline.saturatingDurationSince now

/-- The rest of an iteration. -/
def conclude (service : Service) (deadline : Instant) (attempt : Nat)
    (result : Except ErrorCode Attempt) (now : Instant) : FetchPhase :=
  match result with
  | .error code => .returned (.failure code)
  | .ok result =>
      if retries service deadline attempt result now then .sleeping attempt result.delay
      else .returned result.outcome

/-- How a fetch gets from one await to the next. -/
inductive Progress (service : Service) (request : FetchRequest) :
    FetchPhase → List FetchAction → FetchPhase → Prop
  | providerPermit (attempt : Nat) :
      Progress service request (.acquiringProvider attempt) [] (.acquiringGlobal attempt)
  /-- The semaphore is closed, which the service never does. -/
  | providerRefused (attempt : Nat) (now : Instant) :
      Progress service request (.acquiringProvider attempt)
        [.attempted attempt (.error .providerBusy) now]
        (conclude service request.deadline attempt (.error .providerBusy) now)
  | globalPermit (attempt : Nat) (call : CallId) :
      Progress service request (.acquiringGlobal attempt)
        [.storage (.callStarted call (.reserve request.provider))] (.reserving attempt call)
  | globalRefused (attempt : Nat) (now : Instant) :
      Progress service request (.acquiringGlobal attempt)
        [.attempted attempt (.error .providerBusy) now]
        (conclude service request.deadline attempt (.error .providerBusy) now)
  | limited {attempt : Nat} {call : CallId} (wall : DateTime) (delay : Option Nat)
      (now : Instant) :
      Progress service request (.reserving attempt call)
        [.storage (.reserveReturned call request.provider wall (.error (.limited delay))),
          .attempted attempt (.ok (.limited delay)) now]
        (conclude service request.deadline attempt (.ok (.limited delay)) now)
  | unavailable {attempt : Nat} {call : CallId} (wall : DateTime) (error : StorageError)
      (now : Instant) :
      Progress service request (.reserving attempt call)
        [.storage (.reserveReturned call request.provider wall (.error (.storage error))),
          .attempted attempt (.error .storageUnavailable) now]
        (conclude service request.deadline attempt (.error .storageUnavailable) now)
  /-- The call failed or timed out, its commit unknown. -/
  | failed {attempt : Nat} {call : CallId} (now : Instant) :
      Progress service request (.reserving attempt call)
        [.storage (.callFailed call), .attempted attempt (.error .storageUnavailable) now]
        (conclude service request.deadline attempt (.error .storageUnavailable) now)
  | late {attempt : Nat} {call : CallId} (wall : DateTime) (checked now : Instant)
      (late : request.deadline ≤ checked) :
      Progress service request (.reserving attempt call)
        [.storage (.reserveReturned call request.provider wall (.ok ())),
          .attempted attempt (.error .providerTimeout) now]
        (conclude service request.deadline attempt (.error .providerTimeout) now)
  | overflowed {attempt : Nat} {call : CallId} (wall : DateTime) (checked started : Instant)
      (inTime : ¬ request.deadline ≤ checked)
      (overflows : started.checkedAdd service.providerTimeout = none) :
      Progress service request (.reserving attempt call)
        [.storage (.reserveReturned call request.provider wall (.ok ()))] .panicked
  /-- The adapter builds no request. -/
  | unsent {attempt : Nat} {call : CallId} {limit : Instant} {code : ErrorCode}
      (wall : DateTime) (checked started collected now : Instant)
      (inTime : ¬ request.deadline ≤ checked)
      (limited : started.checkedAdd service.providerTimeout = some limit)
      (unbuilt : (service.adapter request.provider).request request.indicator = .error code) :
      Progress service request (.reserving attempt call)
        [.storage (.reserveReturned call request.provider wall (.ok ())),
          .attempted attempt (collect (min request.deadline limit) (.error code) collected) now]
        (conclude service request.deadline attempt
          (collect (min request.deadline limit) (.error code) collected) now)
  | dispatched {attempt : Nat} {call : CallId} {limit : Instant} (wall : DateTime)
      (checked started : Instant) (inTime : ¬ request.deadline ≤ checked)
      (limited : started.checkedAdd service.providerTimeout = some limit)
      (built : (service.adapter request.provider).request request.indicator = .ok ()) :
      Progress service request (.reserving attempt call)
        [.storage (.reserveReturned call request.provider wall (.ok ())),
          .dispatched {
            attempt
            reservation :=
              { call, group := quotaGroup request.provider, now := wall.timestampMillis }
            checked }]
        (.sending attempt (min request.deadline limit))
  | answered {attempt : Nat} {attemptDeadline : Instant} (exchange : Exchange)
      (collected now : Instant) :
      Progress service request (.sending attempt attemptDeadline)
        [.attempted attempt (collect attemptDeadline
          (send service request.provider request.indicator exchange) collected) now]
        (conclude service request.deadline attempt (collect attemptDeadline
          (send service request.provider request.indicator exchange) collected) now)
  | timedOut {attempt : Nat} {attemptDeadline : Instant} (now : Instant) :
      Progress service request (.sending attempt attemptDeadline)
        [.attempted attempt (.error .providerTimeout) now]
        (conclude service request.deadline attempt (.error .providerTimeout) now)
  | woken {attempt : Nat} {delay : Duration} (more : attempt < lastAttempt) :
      Progress service request (.sleeping attempt delay) [] (.acquiringProvider (attempt + 1))
  | exhausted {attempt : Nat} {delay : Duration} (last : ¬ attempt < lastAttempt) :
      Progress service request (.sleeping attempt delay) [.exhausted]
        (.returned (.failure .internalError))
  | droppedAcquiringProvider (attempt : Nat) :
      Progress service request (.acquiringProvider attempt) [] .dropped
  | droppedAcquiringGlobal (attempt : Nat) :
      Progress service request (.acquiringGlobal attempt) [] .dropped
  | droppedReserving (attempt : Nat) (call : CallId) :
      Progress service request (.reserving attempt call) [.storage (.callFailed call)] .dropped
  | droppedSending (attempt : Nat) (attemptDeadline : Instant) :
      Progress service request (.sending attempt attemptDeadline) [] .dropped
  | droppedSleeping (attempt : Nat) (delay : Duration) :
      Progress service request (.sleeping attempt delay) [] .dropped

/-! ### All fetches -/

/-- The place of a fetch among those started. -/
abbrev FetchId := Nat

/-- A fetch that has been started. -/
structure Fetch where
  request : FetchRequest
  phase : FetchPhase

/-- The storage with all fetches. -/
structure Fetching where
  storage : World
  fetches : List Fetch

/-- What is told of fetches and storage. -/
inductive FetchEvent
  /-- A step of the storage that no fetch awaits. -/
  | storage (event : Event)
  | started (id : FetchId) (request : FetchRequest)
  | progressed (id : FetchId) (action : FetchAction)

/-- What the storage sees of an action. -/
def FetchAction.stored : FetchAction → Option Event
  | .storage event => some event
  | _ => none

/-- What the storage sees of an event. -/
def FetchEvent.stored : FetchEvent → Option Event
  | .storage event => some event
  | .progressed _ action => action.stored
  | .started .. => none

/-- What a fetch does in an event. -/
def FetchEvent.action (id : FetchId) : FetchEvent → Option FetchAction
  | .progressed other action => if other = id then some action else none
  | _ => none

/-- The call an event answers. -/
def answeredCall : Event → Option CallId
  | .reserveReturned call .. | .callFailed call => some call
  | _ => none

namespace Fetching

/-- Nothing is fetched yet. -/
def initial (file : Option Database) : Fetching where
  storage := .closed file
  fetches := []

/-- The attempts of a provider that hold one of its permits. -/
def active (fetching : Fetching) (provider : ProviderId) : Nat :=
  fetching.fetches.countP fun fetch =>
    fetch.request.provider = provider ∧ fetch.phase.holdsProvider

/-- The attempts that hold a global permit. -/
def outbound (fetching : Fetching) : Nat :=
  fetching.fetches.countP fun fetch => fetch.phase.holdsGlobal

/-- A permit is taken only where one is left. -/
def Permits (service : Service) (fetching : Fetching) (fetch : Fetch) (next : FetchPhase) : Prop :=
  (fetch.phase.holdsProvider = false → next.holdsProvider = true →
    fetching.active fetch.request.provider < service.maxConcurrency fetch.request.provider) ∧
  (fetch.phase.holdsGlobal = false → next.holdsGlobal = true →
    fetching.outbound < service.maxOutboundRequests)

/-- An answer to a fetch that waits for it. -/
def Awaits (fetching : Fetching) (event : Event) : Prop :=
  ∃ fetch ∈ fetching.fetches, ∃ attempt call,
    fetch.phase = .reserving attempt call ∧ answeredCall event = some call

end Fetching

/-- The storage takes the step that a fetch takes part in, if any. -/
def Follows (codec : PayloadCodec) (before : World) (events : List Event) (after : World) : Prop :=
  match events with
  | [] => after = before
  | _ => Step codec before events after

/-- What can happen to fetches and storage. -/
inductive FetchStep (codec : PayloadCodec) (service : Service) :
    Fetching → List FetchEvent → Fetching → Prop
  | started {fetching : Fetching} {database : Database} {session : Session}
      (request : FetchRequest) (running : fetching.storage = .running database session) :
      FetchStep codec service fetching [.started fetching.fetches.length request]
        { fetching with
          fetches := fetching.fetches ++ [{ request, phase := .acquiringProvider 0 }] }
  | progressed {fetching : Fetching} {id : FetchId} {fetch : Fetch} {actions : List FetchAction}
      {next : FetchPhase} {storage : World} (there : fetching.fetches[id]? = some fetch)
      (progress : Progress service fetch.request fetch.phase actions next)
      (permits : fetching.Permits service fetch next)
      (follows : Follows codec fetching.storage (actions.filterMap FetchAction.stored) storage) :
      FetchStep codec service fetching (actions.map (.progressed id))
        { storage, fetches := fetching.fetches.set id { fetch with phase := next } }
  | storage {fetching : Fetching} {emitted : List Event} {storage : World}
      (taken : Step codec fetching.storage emitted storage)
      (unawaited : ∀ event ∈ emitted, ¬ fetching.Awaits event) (open_ : .closed ∉ emitted) :
      FetchStep codec service fetching (emitted.map .storage) { fetching with storage }
  /-- The process ends, and its fetches with it. -/
  | ended {fetching : Fetching} {storage : World}
      (taken : Step codec fetching.storage [.closed] storage) :
      FetchStep codec service fetching [.storage .closed]
        { storage
          fetches := fetching.fetches.map fun fetch => { fetch with phase := fetch.phase.lost } }

end RustEnrich.Enrichment
