import RustEnrich.Storage.Database
import RustEnrich.Transitions.Run

/-!
# The storage as a transition system

Any number of calls run concurrently against one open storage. A call first
waits for the gate; the holder of the gate works alone on the database, but the
retention of feedback happens outside the gate and may fall between any two of
its steps. A call may be dropped or time out at every await, a commit may take
effect without its caller learning of it, and the process may end at any point
and be started again with other settings. Every step that reads the wall clock
takes an arbitrary reading.
-/

namespace RustEnrich.Storage

/-- The identity of one call of a session. -/
abbrev CallId := Nat

/-- The calls a session serves. The feedback of `feedback` is retained when the
call starts. -/
inductive Request
  | reserve (provider : ProviderId)
  | retryAfter (provider : ProviderId)
  | feedback (provider : ProviderId)
  | cacheGet (provider : ProviderId) (key : String) (kind : IndicatorKind)
  | cachePut (put : PutRequest)
  | cleanup
  | health

/-- A row that a put committed, with the outcome it was made of and the
lifetime in force. -/
structure CommittedPut where
  entry : CacheEntry
  outcome : Outcome
  ttl : Int

/-- What is told of a storage. -/
inductive Event
  | opened (settings : Settings) (wall : DateTime) (effective : Int)
  | closed
  | callStarted (call : CallId) (request : Request)
  | callFailed (call : CallId)
  | feedbackRetained (group : QuotaGroup) (feedback : QuotaFeedback)
  | feedbackCommitted (group : QuotaGroup) (feedback : QuotaFeedback) (now : Int)
  | reservationCommitted (call : CallId) (group : QuotaGroup) (now : Int)
  | reserveReturned (call : CallId) (provider : ProviderId) (wall : DateTime)
      (result : Except ReservationError Unit)
  | retryAfterReturned (call : CallId) (provider : ProviderId) (wall : DateTime)
      (delay : Option Nat)
  | cacheRead (call : CallId) (provider : ProviderId) (key : String) (kind : IndicatorKind)
      (wall : DateTime) (now : Int) (read : CacheRead)
  | putCommitted (put : CommittedPut)
  | putReturned (call : CallId) (expiry : Option DateTime)

/-- What `reserve` reads under the runtime lock. Past its rollback check the
effective time is the wall reading. -/
structure ReserveSnapshot where
  wall : DateTime
  pending : Option PendingFeedback

/-- The reading of a reserve in milliseconds. -/
def ReserveSnapshot.now (snapshot : ReserveSnapshot) : Int := snapshot.wall.timestampMillis

/-- The holder of the gate, between two of its awaits. -/
inductive Gate
  | free
  /-- `reserve` with its snapshot taken and nothing committed. -/
  | reserving (call : CallId) (provider : ProviderId) (snapshot : ReserveSnapshot)
  /-- `reserve` with its transaction committed. -/
  | reserved (call : CallId) (provider : ProviderId) (snapshot : ReserveSnapshot)
      (decision : QuotaDecision)
  /-- `reserve` past `clear_pending`. -/
  | checking (call : CallId) (provider : ProviderId) (snapshot : ReserveSnapshot)
      (decision : QuotaDecision)
  /-- `feedback` with its snapshot taken and nothing committed. -/
  | applying (call : CallId) (provider : ProviderId) (now : Int) (pending : PendingFeedback)
  /-- `feedback` with its transaction committed. -/
  | applied (call : CallId) (provider : ProviderId) (pending : PendingFeedback)

/-- The call that holds the gate. -/
def Gate.holder : Gate → Option CallId
  | .free => none
  | .reserving call .. | .reserved call .. | .checking call .. => some call
  | .applying call .. | .applied call .. => some call

/-- A process with the file open. -/
structure Session where
  settings : Settings
  runtime : RuntimeState
  nextCall : CallId
  waiting : List (CallId × Request)
  gate : Gate

/-- A process that has just opened it. -/
def Session.fresh (settings : Settings) (highWater : Int) : Session where
  settings
  runtime := .fresh highWater
  nextCall := 0
  waiting := []
  gate := .free

/-- A database file that no process has open, absent before the first start, or
one with its session. -/
inductive World
  | closed (database : Option Database)
  | running (database : Database) (session : Session)

/-- A call that does its work in one go once it holds the gate. -/
structure Performed where
  database : Database
  committed : List Event
  returned : List Event

/-- The work of the calls other than `reserve` and `feedback`. -/
def Request.perform (codec : PayloadCodec) (settings : Settings) (database : Database)
    (pending : QuotaGroup → Option PendingFeedback) (call : CallId) (wall : DateTime)
    (now : Int) : Request → Option (Except StorageError Performed)
  | .reserve _ | .feedback _ => none
  | .retryAfter provider => some <|
      match retryAfterTransaction database (quotaGroup provider) (settings.limits provider) wall
        now (pending (quotaGroup provider)) with
      | .error error => .error error
      | .ok delay =>
          .ok { database, committed := [],
                returned := [.retryAfterReturned call provider wall delay] }
  | .cacheGet provider key kind => some <|
      match Storage.cacheGet codec settings database.cacheEntries provider key kind
        wall.timestampMillis now with
      | .error error => .error error
      | .ok (read, table) =>
          .ok { database := { database with cacheEntries := table }, committed := [],
                returned := [.cacheRead call provider key kind wall now read] }
  | .cachePut put => some <|
      match Storage.cachePut codec settings database.cacheEntries put wall.timestampMillis now with
      | .error error => .error error
      | .ok (.skipped, table) =>
          .ok { database := { database with cacheEntries := table }, committed := [],
                returned := [.putReturned call none] }
      | .ok (.committed entry expiry, table) =>
          .ok { database := { database with cacheEntries := table }
                committed := [.putCommitted {
                  entry
                  outcome := put.outcome
                  ttl := settings.ttl put.kind put.outcome.status }]
                returned := [.putReturned call expiry] }
  | .cleanup => some <|
      .ok { database := { database with
              cacheEntries :=
                (deleteExpired settings wall.timestampMillis now database.cacheEntries).1 }
            committed := [], returned := [] }
  | .health => some <| .ok { database, committed := [], returned := [] }

/-- What the calls that work in one go can do. -/
inductive Request.Performs (codec : PayloadCodec) (settings : Settings) (database : Database)
    (pending : QuotaGroup → Option PendingFeedback) (call : CallId) (wall : DateTime)
    (now : Int) : Request → Performed → Prop
  | advised {provider : ProviderId} {delay : Option Nat}
      (advises : retryAfterTransaction database (quotaGroup provider) (settings.limits provider)
        wall now (pending (quotaGroup provider)) = .ok delay) :
      Request.Performs codec settings database pending call wall now (.retryAfter provider)
        { database, committed := [],
          returned := [.retryAfterReturned call provider wall delay] }
  | read {provider : ProviderId} {key : String} {kind : IndicatorKind} {read : CacheRead}
      {table : CacheTable}
      (reads : Storage.cacheGet codec settings database.cacheEntries provider key kind
        wall.timestampMillis now = .ok (read, table)) :
      Request.Performs codec settings database pending call wall now (.cacheGet provider key kind)
        { database := { database with cacheEntries := table }, committed := [],
          returned := [.cacheRead call provider key kind wall now read] }
  | skipped {put : PutRequest} {table : CacheTable}
      (skips : Storage.cachePut codec settings database.cacheEntries put wall.timestampMillis now =
        .ok (.skipped, table)) :
      Request.Performs codec settings database pending call wall now (.cachePut put)
        { database := { database with cacheEntries := table }, committed := [],
          returned := [.putReturned call none] }
  | stored {put : PutRequest} {entry : CacheEntry} {expiry : Option DateTime} {table : CacheTable}
      (stores : Storage.cachePut codec settings database.cacheEntries put wall.timestampMillis
        now = .ok (.committed entry expiry, table)) :
      Request.Performs codec settings database pending call wall now (.cachePut put)
        { database := { database with cacheEntries := table }
          committed := [.putCommitted {
            entry
            outcome := put.outcome
            ttl := settings.ttl put.kind put.outcome.status }]
          returned := [.putReturned call expiry] }
  | cleaned :
      Request.Performs codec settings database pending call wall now .cleanup
        { database := { database with
            cacheEntries :=
              (deleteExpired settings wall.timestampMillis now database.cacheEntries).1 }
          committed := [], returned := [] }
  | checked :
      Request.Performs codec settings database pending call wall now .health
        { database, committed := [], returned := [] }

/-- A call in one go does one of these. -/
theorem Request.performs {codec : PayloadCodec} {settings : Settings} {database : Database}
    {pending : QuotaGroup → Option PendingFeedback} {call : CallId} {wall : DateTime} {now : Int}
    {request : Request} {done : Performed}
    (performed : request.perform codec settings database pending call wall now =
      some (.ok done)) :
    request.Performs codec settings database pending call wall now done := by
  cases request with
  | reserve provider => cases performed
  | feedback provider => cases performed
  | retryAfter provider =>
      simp only [perform, Option.some.injEq] at performed
      split at performed
      · cases performed
      · rename_i advises
        cases performed
        exact .advised advises
  | cacheGet provider key kind =>
      simp only [perform, Option.some.injEq] at performed
      split at performed
      · cases performed
      · rename_i reads
        cases performed
        exact .read reads
  | cachePut put =>
      simp only [perform, Option.some.injEq] at performed
      split at performed
      · cases performed
      · rename_i skips
        cases performed
        exact .skipped skips
      · rename_i stores
        cases performed
        exact .stored stores
  | cleanup =>
      cases performed
      exact .cleaned
  | health =>
      cases performed
      exact .checked

/-- The calls that advance the in-memory clock. -/
def Request.observes : Request → Bool
  | .cacheGet .. | .cachePut _ | .cleanup | .reserve _ | .feedback _ => true
  | .retryAfter _ | .health => false

/-- A call that observes advances the clock in memory. -/
def Request.observe (request : Request) (runtime : RuntimeState) (wall : DateTime) :
    RuntimeState :=
  if request.observes then runtime.observe wall else runtime

/-- A put that returns before it reaches the gate never waits. -/
def Request.Queues (codec : PayloadCodec) (settings : Settings) : Request → Prop
  | .cachePut put => ∃ prepared, preparePut codec settings put = .ok (some prepared)
  | _ => True

/-- The answer of `reserve` at its final check. -/
def reserveAnswer (runtime : RuntimeState) (group : QuotaGroup) (decision : QuotaDecision) :
    Except ReservationError Unit :=
  if (runtime.pending group).isSome then
    .error (.storage .unavailable)
  else if decision.blocked then
    .error (.limited decision.retryAfter)
  else
    .ok ()

/-- The feedback a committing transaction applied. -/
def appliedFeedback (group : QuotaGroup) (pending : Option PendingFeedback) (now : Int) :
    List Event :=
  match pending with
  | some pending => [.feedbackCommitted group pending.feedback now]
  | none => []

/-- The reservation a committing transaction granted. -/
def grantedReservation (call : CallId) (group : QuotaGroup) (now : Int)
    (decision : QuotaDecision) : List Event :=
  if decision.blocked then [] else [.reservationCommitted call group now]

/-- What can happen to a storage. -/
inductive Step (codec : PayloadCodec) : World → List Event → World → Prop
  /-- A first start that ends between the migration and the reconciliation. -/
  | migrated (now : DateTime) :
      Step codec (.closed none) [] (.closed (some (.create now)))
  | opened {database : Option Database} {settings : Settings} {created wall : DateTime}
      {next : Database} {effective : Int}
      (reconciled : reconcile settings wall (initializeSchema created database) =
        .ok (next, effective)) :
      Step codec (.closed database) [.opened settings wall effective]
        (.running next (.fresh settings effective))
  /-- `open` past its deadline, after the reconciliation took effect. -/
  | openTimedOut {database : Option Database} {settings : Settings} {created wall : DateTime}
      {next : Database} {effective : Int}
      (reconciled : reconcile settings wall (initializeSchema created database) =
        .ok (next, effective)) :
      Step codec (.closed database) [] (.closed (some next))
  /-- `close`, or the end of the process. -/
  | closed {database : Database} {session : Session} :
      Step codec (.running database session) [.closed] (.closed (some database))
  | started {database : Database} {session : Session} (request : Request)
      (unretained : ∀ provider, request ≠ .feedback provider)
      (queues : request.Queues codec session.settings) :
      Step codec (.running database session) [.callStarted session.nextCall request]
        (.running database { session with
          nextCall := session.nextCall + 1
          waiting := session.waiting ++ [(session.nextCall, request)] })
  | retained {database : Database} {session : Session} (provider : ProviderId)
      (feedback : QuotaFeedback) :
      Step codec (.running database session)
        [.callStarted session.nextCall (.feedback provider),
          .feedbackRetained (quotaGroup provider) feedback]
        (.running database { session with
          runtime := session.runtime.retain (quotaGroup provider) feedback
          nextCall := session.nextCall + 1
          waiting := session.waiting ++ [(session.nextCall, .feedback provider)] })
  /-- A call dropped or timed out while it waits for the gate. -/
  | abandoned {database : Database} {session : Session} {front back : List (CallId × Request)}
      {call : CallId} {request : Request}
      (queued : session.waiting = front ++ (call, request) :: back) :
      Step codec (.running database session) [.callFailed call]
        (.running database { session with waiting := front ++ back })
  | performed {database : Database} {session : Session} {front back : List (CallId × Request)}
      {call : CallId} {request : Request} {done : Performed} (wall : DateTime)
      (free : session.gate = .free)
      (queued : session.waiting = front ++ (call, request) :: back)
      (performs : request.perform codec session.settings database session.runtime.pending call
        wall (session.runtime.observe wall).highWater = some (.ok done)) :
      Step codec (.running database session) (done.committed ++ done.returned)
        (.running done.database { session with
          runtime := request.observe session.runtime wall
          waiting := front ++ back })
  /-- The work takes effect and its caller is told of a timeout. -/
  | unreported {database : Database} {session : Session} {front back : List (CallId × Request)}
      {call : CallId} {request : Request} {done : Performed} (wall : DateTime)
      (free : session.gate = .free)
      (queued : session.waiting = front ++ (call, request) :: back)
      (performs : request.perform codec session.settings database session.runtime.pending call
        wall (session.runtime.observe wall).highWater = some (.ok done)) :
      Step codec (.running database session) (done.committed ++ [.callFailed call])
        (.running done.database { session with
          runtime := request.observe session.runtime wall
          waiting := front ++ back })
  /-- The work fails, or is cancelled before it commits. -/
  | unperformed {database : Database} {session : Session} {front back : List (CallId × Request)}
      {call : CallId} {request : Request} {outcome : Except StorageError Performed}
      (wall : DateTime) (free : session.gate = .free)
      (queued : session.waiting = front ++ (call, request) :: back)
      (performs : request.perform codec session.settings database session.runtime.pending call
        wall (session.runtime.observe wall).highWater = some outcome) :
      Step codec (.running database session) [.callFailed call]
        (.running database { session with
          runtime := request.observe session.runtime wall
          waiting := front ++ back })
  /-- `reserve` behind the effective clock is denied before its transaction. -/
  | reserveBehind {database : Database} {session : Session}
      {front back : List (CallId × Request)} {call : CallId} {provider : ProviderId}
      (wall : DateTime) (free : session.gate = .free)
      (queued : session.waiting = front ++ (call, .reserve provider) :: back)
      (behind : wall.timestampMillis < (session.runtime.observe wall).highWater) :
      Step codec (.running database session)
        [.reserveReturned call provider wall (.error (.limited (some
          (delaySeconds (session.runtime.observe wall).highWater wall.timestampMillis))))]
        (.running database { session with
          runtime := session.runtime.observe wall
          waiting := front ++ back })
  | reserveSnapshot {database : Database} {session : Session}
      {front back : List (CallId × Request)} {call : CallId} {provider : ProviderId}
      (wall : DateTime) (free : session.gate = .free)
      (queued : session.waiting = front ++ (call, .reserve provider) :: back)
      (caughtUp : ¬ wall.timestampMillis < (session.runtime.observe wall).highWater) :
      Step codec (.running database session) []
        (.running database { session with
          runtime := session.runtime.observe wall
          waiting := front ++ back
          gate := .reserving call provider
            { wall, pending := session.runtime.pending (quotaGroup provider) } })
  | reserveCommitted {database next : Database} {session : Session} {call : CallId}
      {provider : ProviderId} {snapshot : ReserveSnapshot} {decision : QuotaDecision}
      (held : session.gate = .reserving call provider snapshot)
      (reserves : reserveTransaction database (quotaGroup provider)
        (session.settings.limits provider) snapshot.wall snapshot.now snapshot.pending =
          .ok (next, decision)) :
      Step codec (.running database session)
        (appliedFeedback (quotaGroup provider) snapshot.pending snapshot.now ++
          grantedReservation call (quotaGroup provider) snapshot.now decision)
        (.running next { session with gate := .reserved call provider snapshot decision })
  | reserveCleared {database : Database} {session : Session} {call : CallId}
      {provider : ProviderId} {snapshot : ReserveSnapshot} {decision : QuotaDecision}
      (held : session.gate = .reserved call provider snapshot decision) :
      Step codec (.running database session) []
        (.running database { session with
          runtime := session.runtime.clearPending (quotaGroup provider) snapshot.pending
          gate := .checking call provider snapshot decision })
  /-- The final check of `reserve`, and its answer. -/
  | reserveReturned {database : Database} {session : Session} {call : CallId}
      {provider : ProviderId} {snapshot : ReserveSnapshot} {decision : QuotaDecision}
      (held : session.gate = .checking call provider snapshot decision) :
      Step codec (.running database session)
        [.reserveReturned call provider snapshot.wall
          (reserveAnswer session.runtime (quotaGroup provider) decision)]
        (.running database { session with gate := .free })
  /-- `feedback` finds its retained entry already saved. -/
  | feedbackSaved {database : Database} {session : Session}
      {front back : List (CallId × Request)} {call : CallId} {provider : ProviderId}
      (wall : DateTime) (free : session.gate = .free)
      (queued : session.waiting = front ++ (call, .feedback provider) :: back)
      (saved : session.runtime.pending (quotaGroup provider) = none) :
      Step codec (.running database session) []
        (.running database { session with
          runtime := session.runtime.observe wall
          waiting := front ++ back })
  | feedbackSnapshot {database : Database} {session : Session}
      {front back : List (CallId × Request)} {call : CallId} {provider : ProviderId}
      {pending : PendingFeedback} (wall : DateTime) (free : session.gate = .free)
      (queued : session.waiting = front ++ (call, .feedback provider) :: back)
      (unsaved : session.runtime.pending (quotaGroup provider) = some pending) :
      Step codec (.running database session) []
        (.running database { session with
          runtime := session.runtime.observe wall
          waiting := front ++ back
          gate := .applying call provider (session.runtime.observe wall).highWater pending })
  | feedbackCommitted {database next : Database} {session : Session} {call : CallId}
      {provider : ProviderId} {now : Int} {pending : PendingFeedback}
      (held : session.gate = .applying call provider now pending)
      (applies : feedbackTransaction database (quotaGroup provider)
        (session.settings.limits provider) now pending = .ok next) :
      Step codec (.running database session)
        (appliedFeedback (quotaGroup provider) (some pending) now)
        (.running next { session with gate := .applied call provider pending })
  | feedbackCleared {database : Database} {session : Session} {call : CallId}
      {provider : ProviderId} {pending : PendingFeedback}
      (held : session.gate = .applied call provider pending) :
      Step codec (.running database session) []
        (.running database { session with
          runtime := session.runtime.clearPending (quotaGroup provider) (some pending)
          gate := .free })
  /-- The holder of the gate fails, times out or is dropped. -/
  | released {database : Database} {session : Session} {call : CallId}
      (held : session.gate.holder = some call) :
      Step codec (.running database session) [.callFailed call]
        (.running database { session with gate := .free })

end RustEnrich.Storage
