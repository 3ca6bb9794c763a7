import RustEnrich.Http.Handle
import RustEnrich.Transitions.History
import RustEnrich.Transitions.Run

/-!
# The server

Connections are accepted while there is room for them, and each serves one
request. A request takes a permit for as long as it is handled and its response is
written; a lookup belongs to the service and goes on without the connection that
started it. On a shutdown nothing new is accepted, and the storage is closed last.
Everything may happen in any order, and time passes in between as it likes.
-/

namespace RustEnrich.Serving

open Http Transitions Serialization

/-! ### What a request meets first -/

/-- What `handle` does with a request before it waits for anything. -/
inductive Entry
  | answered (response : Response)
  | probing (readiness : Bool)
  | enriching

/-- The entry of a probe. -/
def probe (service : Service) (standing : Standing) (id : RequestId) (request : HttpRequest)
    (readiness : Bool) : Entry :=
  if request.method ≠ "GET" then .answered (methodError service.serializer id "GET")
  else if standing.healthAdmission then .probing readiness
  else .answered (errorResponse service.serializer id 503 .serviceOverloaded none)

/-- The entry of a request. -/
def entry (service : Service) (standing : Standing) (id : RequestId) (request : HttpRequest) :
    Entry :=
  match route request.path with
  | .unmatched => .answered (errorResponse service.serializer id 404 .routeNotFound none)
  | .live => probe service standing id request false
  | .ready => probe service standing id request true
  | .enrich =>
      if request.method ≠ "POST" then .answered (methodError service.serializer id "POST")
      else if !authorized service request.headers then
        .answered (errorResponse service.serializer id 401 .unauthorized none)
      else if standing.stopping || !standing.healthy then
        .answered (errorResponse service.serializer id 503 .serviceUnavailable none)
      else if !standing.admission then
        .answered (errorResponse service.serializer id 503 .serviceOverloaded none)
      else .enriching

/-- The rest of `handle`, for a request that entered. -/
def Entry.finish (service : Service) (moment : Moment) (id : RequestId) (request : HttpRequest) :
    Entry → Response
  | .answered response => response
  | .probing readiness => health service moment id readiness
  | .enriching =>
      enrichAdmitted service.serializer service.config service.read service.parser id
        (supportedMediaType request.headers) request.body (serve service moment id)

section Entry

variable {service : Service} {moment : Moment} {id : RequestId} {request : HttpRequest}

/-- A probe is answered as `health` answers it. -/
theorem probe_finish (readiness : Bool) :
    (probe service moment.toStanding id request readiness).finish service moment id request =
      if request.method ≠ "GET" then methodError service.serializer id "GET"
      else health service moment id readiness := by
  unfold probe
  by_cases get : request.method ≠ "GET"
  · rw [if_pos get, if_pos get]
    rfl
  · rw [if_neg get, if_neg get]
    by_cases room : moment.healthAdmission = true
    · rw [if_pos room]
      rfl
    · rw [if_neg room, health, if_neg room]
      rfl

/-- A request is handled by where it enters. -/
theorem handle_entry :
    handle service moment id request =
      (entry service moment.toStanding id request).finish service moment id request := by
  unfold handle entry
  cases route request.path with
  | unmatched => rfl
  | live => exact (probe_finish false).symm
  | ready => exact (probe_finish true).symm
  | enrich =>
      dsimp only [enrich]
      split_ifs <;> rfl

end Entry

/-! ### The server -/

/-- Whose permits a response holds. -/
inductive Pool
  | admission
  | health
  deriving DecidableEq

/-- Where a connection is with its request. -/
inductive Phase
  /-- The head of a request is awaited. -/
  | reading
  /-- `health`, which may ask the storage. -/
  | probing (asks : Bool)
  /-- `enrich_admitted`, with so many pairs yet to look up. -/
  | enriching (pairs : Nat)
  /-- The response is written, its permit on the connection. -/
  | writing (permit : Option Pool)

/-- The permit that a phase holds. -/
def Phase.permit : Phase → Option Pool
  | .reading => none
  | .probing _ => some .health
  | .enriching _ => some .admission
  | .writing permit => permit

/-- The task of a connection, with the time it was accepted. -/
structure Connection where
  phase : Phase
  timer : Nat
  accepted : Nat

/-- The task that cleans the cache. -/
inductive Maintenance
  /-- The next tick of the interval is awaited. -/
  | sleeping (next : Nat)
  | cleaning (next : Nat)
  | finished

/-- Where `serve` is. The flags of `draining` say which of the two it joins are
through. -/
inductive Main
  | accepting
  | draining (deadline : Nat) (lookups connections : Bool)
  | waiting (deadline : Nat)
  | settling (deadline : Nat)
  | finishing (deadline : Nat)
  | closing (deadline : Nat)
  | closed (deadline : Nat)

/-- The state of `serve`, its connections and its service. -/
structure Server where
  now : Nat
  connections : List Connection
  /-- The permits that are left of each semaphore. -/
  sockets : Nat
  admission : Nat
  health : Nat
  /-- The lookups that run, each with the calls it may yet make to the storage. -/
  lookups : List Nat
  maintenance : Maintenance
  /-- The tokens of the service. -/
  stopping : Bool
  cancelled : Bool
  /-- The token of the connections. -/
  dropping : Bool
  main : Main

/-- What is told of a server. -/
inductive Event
  | accepted
  | refused
  | ended
  | storageUsed
  | lookupStarted
  | lookupEnded
  | shutdownBegun (deadline : Nat)
  | storageClosed
  deriving DecidableEq

/-- The permits for sockets. -/
def capacity (config : Config) : Nat :=
  min (saturatingAddUsize (saturatingMulUsize config.maxConcurrentRequests.toNat 2) 2)
    maxPermits.toNat

/-- The interval of the maintenance. -/
def period : Nat := 60 * secondNanos

/-- The most pairs of a valid request. -/
def mostPairs : Nat := 40

/-- The calls a lookup makes to the storage: it reads the cache, reserves and
reports twice at most, and stores. -/
def mostCalls : Nat := 6

/-- A server that starts to listen. -/
def initial (config : Config) (now : Nat) : Server where
  now
  connections := []
  sockets := capacity config
  admission := config.maxConcurrentRequests.toNat
  health := 2
  lookups := []
  maintenance := .sleeping (now + period)
  stopping := false
  cancelled := false
  dropping := false
  main := .accepting

namespace Server

/-- What a request finds of the server. -/
def standing (server : Server) (healthy : Bool) : Standing where
  stopping := server.stopping
  healthy
  admission := decide (0 < server.admission)
  healthAdmission := decide (0 < server.health)

/-- A permit is taken from its pool. -/
def take (server : Server) : Pool → Server
  | .admission => { server with admission := server.admission - 1 }
  | .health => { server with health := server.health - 1 }

/-- A permit goes back to its pool. -/
def give (server : Server) : Option Pool → Server
  | none => server
  | some .admission => { server with admission := server.admission + 1 }
  | some .health => { server with health := server.health + 1 }

/-- The task of a connection ends, and whatever it held is given back. -/
def release (server : Server) (front back : List Connection) (connection : Connection) : Server :=
  { server.give connection.phase.permit with
    connections := front ++ back
    sockets := server.sockets + 1 }

end Server

/-- A connection that has just been accepted. -/
def Connection.fresh (config : Config) (now : Nat) : Connection where
  phase := .reading
  timer := now + (config.requestTimeout.nanos + config.responseWriteTimeout.nanos)
  accepted := now

/-- What can happen to a server. -/
inductive Step (service : Service) : Server → List Event → Server → Prop
  | elapsed {server : Server} {time : Nat} (later : server.now < time) :
      Step service server [] { server with now := time }
  | accepted {server : Server} (listening : server.main = .accepting)
      (room : 0 < server.sockets) :
      Step service server [.accepted] { server with
        connections := server.connections ++ [.fresh service.config server.now]
        sockets := server.sockets - 1 }
  | refused {server : Server} (listening : server.main = .accepting)
      (full : server.sockets = 0) :
      Step service server [.refused] server
  /-- A request that is answered at once. -/
  | answered {server : Server} {front back : List Connection} {connection : Connection}
      {response : Response} (id : RequestId) (request : HttpRequest) (healthy : Bool)
      (there : server.connections = front ++ connection :: back)
      (reading : connection.phase = .reading)
      (enters : entry service (server.standing healthy) id request = .answered response) :
      Step service server [] { server with
        connections := front ++ { connection with
          phase := .writing none
          timer := server.now + service.config.responseWriteTimeout.nanos } :: back }
  | probing {server : Server} {front back : List Connection} {connection : Connection}
      {readiness : Bool} (id : RequestId) (request : HttpRequest) (healthy : Bool)
      (there : server.connections = front ++ connection :: back)
      (reading : connection.phase = .reading)
      (enters : entry service (server.standing healthy) id request = .probing readiness) :
      Step service server [] { server.take .health with
        connections := front ++
          { connection with phase := .probing (readiness && !server.stopping) } :: back }
  | probed {server : Server} {front back : List Connection} {connection : Connection}
      {asks : Bool} (there : server.connections = front ++ connection :: back)
      (probes : connection.phase = .probing asks) :
      Step service server (if asks then [.storageUsed] else []) { server with
        connections := front ++ { connection with
          phase := .writing (some .health)
          timer := server.now + service.config.responseWriteTimeout.nanos } :: back }
  | enriching {server : Server} {front back : List Connection} {connection : Connection}
      {pairs : Nat} (id : RequestId) (request : HttpRequest) (healthy : Bool)
      (there : server.connections = front ++ connection :: back)
      (reading : connection.phase = .reading)
      (enters : entry service (server.standing healthy) id request = .enriching)
      (bounded : pairs ≤ mostPairs) :
      Step service server [] { server.take .admission with
        connections := front ++ { connection with
          phase := .enriching pairs
          timer := server.now + service.config.requestTimeout.nanos +
            service.config.responseWriteTimeout.nanos } :: back }
  /-- A pair of a provider that is off, or does not take its kind. -/
  | passed {server : Server} {front back : List Connection} {connection : Connection}
      {pairs : Nat} (there : server.connections = front ++ connection :: back)
      (enriches : connection.phase = .enriching (pairs + 1)) :
      Step service server [] { server with
        connections := front ++ { connection with phase := .enriching pairs } :: back }
  /-- A pair that is cached, shares a lookup or finds no room for one. -/
  | lookedUp {server : Server} {front back : List Connection} {connection : Connection}
      {pairs : Nat} (there : server.connections = front ++ connection :: back)
      (enriches : connection.phase = .enriching (pairs + 1)) :
      Step service server [.storageUsed] { server with
        connections := front ++ { connection with phase := .enriching pairs } :: back }
  | lookupStarted {server : Server} {front back : List Connection} {connection : Connection}
      {pairs : Nat} (there : server.connections = front ++ connection :: back)
      (enriches : connection.phase = .enriching (pairs + 1)) (open_ : server.cancelled = false)
      (room : server.lookups.length < service.config.maxSharedLookups.toNat) :
      Step service server [.storageUsed, .lookupStarted] { server with
        connections := front ++ { connection with phase := .enriching pairs } :: back
        lookups := server.lookups ++ [mostCalls] }
  /-- An error of `enrich_admitted`, under the deadline it has. -/
  | rejected {server : Server} {front back : List Connection} {connection : Connection}
      {pairs : Nat} (there : server.connections = front ++ connection :: back)
      (enriches : connection.phase = .enriching pairs) :
      Step service server [] { server with
        connections := front ++ { connection with phase := .writing (some .admission) } :: back }
  | projected {server : Server} {front back : List Connection} {connection : Connection}
      (there : server.connections = front ++ connection :: back)
      (enriches : connection.phase = .enriching 0) :
      Step service server [] { server with
        connections := front ++ { connection with
          phase := .writing (some .admission)
          timer := server.now + service.config.responseWriteTimeout.nanos } :: back }
  /-- The response is written, or the client is gone. -/
  | ended {server : Server} {front back : List Connection} {connection : Connection}
      (there : server.connections = front ++ connection :: back) :
      Step service server [.ended] (server.release front back connection)
  | expired {server : Server} {front back : List Connection} {connection : Connection}
      (there : server.connections = front ++ connection :: back)
      (due : connection.timer ≤ server.now) :
      Step service server [.ended] (server.release front back connection)
  | dropped {server : Server} {front back : List Connection} {connection : Connection}
      (there : server.connections = front ++ connection :: back)
      (dropping : server.dropping = true) :
      Step service server [.ended] (server.release front back connection)
  | lookupWorked {server : Server} {front back : List Nat} {calls : Nat}
      (there : server.lookups = front ++ (calls + 1) :: back) :
      Step service server [.storageUsed] { server with lookups := front ++ calls :: back }
  | lookupEnded {server : Server} {front back : List Nat} {calls : Nat}
      (there : server.lookups = front ++ calls :: back) :
      Step service server [.lookupEnded] { server with lookups := front ++ back }
  | lookupCancelled {server : Server} {front back : List Nat} {calls : Nat}
      (there : server.lookups = front ++ calls :: back) (cancelled : server.cancelled = true) :
      Step service server [.lookupEnded] { server with lookups := front ++ back }
  | cleaning {server : Server} {next : Nat} (sleeps : server.maintenance = .sleeping next)
      (due : next ≤ server.now) :
      Step service server [.storageUsed] { server with
        maintenance := .cleaning (next + period) }
  /-- A cleanup ends by itself or at the deadline of its call. -/
  | cleaned {server : Server} {next : Nat} (cleans : server.maintenance = .cleaning next) :
      Step service server [] { server with maintenance := .sleeping next }
  | retired {server : Server} {next : Nat} (sleeps : server.maintenance = .sleeping next)
      (stopping : server.stopping = true) :
      Step service server [] { server with maintenance := .finished }
  /-- A signal, or a listener that fails. -/
  | shutdown {server : Server} (listening : server.main = .accepting) :
      Step service server [.shutdownBegun (server.now + service.config.shutdownGrace.nanos)]
        { server with
          stopping := true
          main := .draining (server.now + service.config.shutdownGrace.nanos) false false }
  | lookupsDrained {server : Server} {deadline : Nat} {connections : Bool}
      (drains : server.main = .draining deadline false connections)
      (none_ : server.lookups = []) :
      Step service server [] { server with main := .draining deadline true connections }
  | connectionsDrained {server : Server} {deadline : Nat} {lookups : Bool}
      (drains : server.main = .draining deadline lookups false)
      (none_ : server.connections = []) :
      Step service server [] { server with main := .draining deadline lookups true }
  /-- The timeout of `Enrichment::drain`. -/
  | lookupsLate {server : Server} {deadline : Nat} {connections : Bool}
      (drains : server.main = .draining deadline false connections)
      (due : deadline ≤ server.now) (open_ : server.cancelled = false) :
      Step service server [] { server with cancelled := true }
  | drained {server : Server} {deadline : Nat}
      (drains : server.main = .draining deadline true true) :
      Step service server [] { server with main := .waiting deadline }
  | drainLate {server : Server} {deadline : Nat} {lookups connections : Bool}
      (drains : server.main = .draining deadline lookups connections)
      (pending : ¬ (lookups = true ∧ connections = true)) (due : deadline ≤ server.now) :
      Step service server [] { server with
        cancelled := true
        dropping := true
        main := .waiting deadline }
  | connectionsGone {server : Server} {deadline : Nat}
      (waits : server.main = .waiting deadline) (none_ : server.connections = []) :
      Step service server [] { server with main := .settling deadline }
  | lookupsGone {server : Server} {deadline : Nat} (settles : server.main = .settling deadline)
      (none_ : server.lookups = []) :
      Step service server [] { server with main := .finishing deadline }
  | settleLate {server : Server} {deadline : Nat} (settles : server.main = .settling deadline)
      (due : deadline ≤ server.now) (open_ : server.cancelled = false) :
      Step service server [] { server with cancelled := true }
  | maintenanceGone {server : Server} {deadline : Nat}
      (finishes : server.main = .finishing deadline)
      (finished : server.maintenance = .finished) :
      Step service server [] { server with main := .closing deadline }
  | closed {server : Server} {deadline : Nat} (closes : server.main = .closing deadline) :
      Step service server [.storageClosed] { server with main := .closed deadline }

/-! ### Timers -/

/-- No timer is overdue for longer than the runtime takes to notice it. -/
def Punctual (lateness : Nat) (server : Server) : Prop :=
  ∀ connection ∈ server.connections, server.now ≤ connection.timer + lateness

/-- A step after which no timer is overdue for longer. -/
def PunctualStep (service : Service) (lateness : Nat) : Relation Server Event :=
  fun before emitted after => Step service before emitted after ∧ Punctual lateness after

/-! ### Permits -/

/-- The responses that hold a permit of a pool. -/
def held (pool : Pool) (connections : List Connection) : Nat :=
  connections.countP fun connection => decide (connection.phase.permit = some pool)

/-- The permits left in a pool. -/
def Server.left (server : Server) : Pool → Nat
  | .admission => server.admission
  | .health => server.health

/-- The permits of a pool. -/
def size (config : Config) : Pool → Nat
  | .admission => config.maxConcurrentRequests.toNat
  | .health => 2

section Permits

variable {service : Service} {server after : Server} {emitted trace : List Event}
  {connection next : Connection} {front back : List Connection} {pool : Pool}

/-- What two stretches of connections hold. -/
theorem held_append : held pool (front ++ back) = held pool front + held pool back :=
  List.countP_append

/-- What a connection and the rest hold. -/
theorem held_cons : held pool (connection :: back) =
    held pool back + (if connection.phase.permit = some pool then 1 else 0) := by
  rw [held, List.countP_cons]
  simp only [decide_eq_true_eq]
  rfl

/-- A probe and a lookup request find room where they enter. -/
theorem entry_probing {standing : Standing} {id : RequestId} {request : HttpRequest}
    {readiness : Bool} (enters : entry service standing id request = .probing readiness) :
    standing.healthAdmission = true := by
  have probed : ∀ other, probe service standing id request other = .probing readiness →
      standing.healthAdmission = true := by
    intro other same
    unfold probe at same
    split_ifs at same with _ room
    exact room
  unfold entry at enters
  cases routed : route request.path with
  | unmatched =>
      rw [routed] at enters
      cases enters
  | live =>
      rw [routed] at enters
      exact probed false enters
  | ready =>
      rw [routed] at enters
      exact probed true enters
  | enrich =>
      rw [routed] at enters
      dsimp only at enters
      split_ifs at enters

/-- A lookup enters a server that is not stopping and has room. -/
theorem entry_enriching {standing : Standing} {id : RequestId} {request : HttpRequest}
    (enters : entry service standing id request = .enriching) :
    standing.stopping = false ∧ standing.admission = true := by
  have probed : ∀ other, probe service standing id request other ≠ .enriching := by
    intro other same
    unfold probe at same
    split_ifs at same
  unfold entry at enters
  cases routed : route request.path with
  | unmatched =>
      rw [routed] at enters
      cases enters
  | live =>
      rw [routed] at enters
      exact absurd enters (probed false)
  | ready =>
      rw [routed] at enters
      exact absurd enters (probed true)
  | enrich =>
      rw [routed] at enters
      dsimp only at enters
      split_ifs at enters with _ _ down full
      simp only [Bool.or_eq_true, Bool.not_eq_true', not_or, Bool.not_eq_true,
        Bool.not_eq_false] at down full
      exact ⟨down.1, full⟩

/-- What a step does to connections and permits. -/
inductive Flow (server : Server) (emitted : List Event) (after : Server) : Prop
  | still (connections : after.connections = server.connections)
      (sockets : after.sockets = server.sockets) (left : after.left = server.left)
      (unaccepted : .accepted ∉ emitted) (unended : .ended ∉ emitted)
  | accepted {connection : Connection} (events : emitted = [.accepted])
      (room : 0 < server.sockets)
      (connections : after.connections = server.connections ++ [connection])
      (unpermitted : connection.phase.permit = none)
      (sockets : after.sockets = server.sockets - 1) (left : after.left = server.left)
  | moved {front back : List Connection} {connection next : Connection}
      (there : server.connections = front ++ connection :: back)
      (connections : after.connections = front ++ next :: back)
      (permit : next.phase.permit = connection.phase.permit)
      (sockets : after.sockets = server.sockets) (left : after.left = server.left)
      (unaccepted : .accepted ∉ emitted) (unended : .ended ∉ emitted)
  | entered {front back : List Connection} {connection next : Connection} (pool : Pool)
      (there : server.connections = front ++ connection :: back)
      (connections : after.connections = front ++ next :: back)
      (unpermitted : connection.phase.permit = none) (permit : next.phase.permit = some pool)
      (room : 0 < server.left pool) (sockets : after.sockets = server.sockets)
      (left : after.left = (server.take pool).left)
      (unaccepted : .accepted ∉ emitted) (unended : .ended ∉ emitted)
  | released {front back : List Connection} {connection : Connection} (events : emitted = [.ended])
      (there : server.connections = front ++ connection :: back)
      (connections : after.connections = front ++ back)
      (sockets : after.sockets = server.sockets + 1)
      (left : after.left = (server.give connection.phase.permit).left)

/-- A connection that ends gives back what it holds. -/
theorem Flow.release (there : server.connections = front ++ connection :: back) :
    Flow server [.ended] (server.release front back connection) := by
  refine .released rfl there rfl ?_ ?_
  · unfold Server.release
    cases connection.phase.permit <;> rfl
  · unfold Server.release
    cases connection.phase.permit with
    | none => rfl
    | some pool => cases pool <;> rfl

/-- Every step is one of these flows. -/
theorem Step.flow (taken : Step service server emitted after) : Flow server emitted after := by
  cases taken with
  | accepted listening room => exact .accepted rfl room rfl rfl rfl rfl
  | answered id request healthy there reading enters =>
      exact .moved there rfl (by rw [reading]; rfl) rfl rfl List.not_mem_nil List.not_mem_nil
  | probing id request healthy there reading enters =>
      refine .entered .health there rfl (by rw [reading]; rfl) rfl ?_ rfl rfl
        List.not_mem_nil List.not_mem_nil
      exact of_decide_eq_true (entry_probing enters)
  | probed there probes =>
      refine .moved there rfl (by rw [probes]; rfl) rfl rfl ?_ ?_ <;> split <;> simp
  | enriching id request healthy there reading enters bounded =>
      refine .entered .admission there rfl (by rw [reading]; rfl) rfl ?_ rfl rfl
        List.not_mem_nil List.not_mem_nil
      exact of_decide_eq_true (entry_enriching enters).2
  | passed there enriches =>
      exact .moved there rfl (by rw [enriches]; rfl) rfl rfl List.not_mem_nil List.not_mem_nil
  | lookedUp there enriches =>
      exact .moved there rfl (by rw [enriches]; rfl) rfl rfl (by simp) (by simp)
  | lookupStarted there enriches =>
      exact .moved there rfl (by rw [enriches]; rfl) rfl rfl (by simp) (by simp)
  | rejected there enriches =>
      exact .moved there rfl (by rw [enriches]; rfl) rfl rfl List.not_mem_nil List.not_mem_nil
  | projected there enriches =>
      exact .moved there rfl (by rw [enriches]; rfl) rfl rfl List.not_mem_nil List.not_mem_nil
  | ended there => exact .release there
  | expired there => exact .release there
  | dropped there => exact .release there
  | _ => exact .still rfl rfl rfl (by simp) (by simp)

/-- Every permit is left or held, and every socket is a connection. -/
structure Accounted (config : Config) (server : Server) : Prop where
  sockets : server.sockets + server.connections.length = capacity config
  pools : ∀ pool, server.left pool + held pool server.connections = size config pool

/-- A permit taken is one less in its pool. -/
theorem Server.left_take (server : Server) (pool other : Pool) :
    (server.take pool).left other =
      if pool = other then server.left other - 1 else server.left other := by
  cases pool <;> cases other <;> rfl

/-- A permit given back is one more in its pool. -/
theorem Server.left_give (server : Server) (permit : Option Pool) (other : Pool) :
    (server.give permit).left other =
      server.left other + (if permit = some other then 1 else 0) := by
  cases permit with
  | none => rfl
  | some pool => cases pool <;> cases other <;> rfl

/-- A flow keeps the account. -/
theorem Accounted.flow {config : Config} (accounted : Accounted config server)
    (flow : Flow server emitted after) : Accounted config after := by
  obtain ⟨sockets, pools⟩ := accounted
  cases flow with
  | still same unchanged left =>
      exact ⟨by rw [unchanged, same, sockets], fun pool => by rw [left, same, pools]⟩
  | accepted events room joined unpermitted taken left =>
      refine ⟨?_, fun pool => ?_⟩
      · rw [taken, joined, List.length_append, List.length_singleton]
        omega
      · rw [left, joined, held_append, held_cons, unpermitted, if_neg nofun]
        exact pools pool
  | moved there moved permit unchanged left =>
      rw [there] at sockets pools
      refine ⟨?_, fun pool => ?_⟩
      · rw [unchanged, moved, ← sockets]
        simp only [List.length_append, List.length_cons]
      · rw [left, moved, ← pools pool, held_append, held_append, held_cons, held_cons, permit]
  | entered pool there moved unpermitted permit room unchanged left =>
      rw [there] at sockets pools
      refine ⟨?_, fun other => ?_⟩
      · rw [unchanged, moved, ← sockets]
        simp only [List.length_append, List.length_cons]
      · have before := pools other
        rw [held_append, held_cons, unpermitted, if_neg nofun] at before
        rw [left, moved, held_append, held_cons, permit, Server.left_take]
        by_cases same : pool = other
        · subst same
          rw [if_pos rfl, if_pos rfl]
          omega
        · rw [if_neg same, if_neg fun equal => same (Option.some.inj equal)]
          exact before
  | released events there freed given left =>
      rw [there] at sockets pools
      refine ⟨?_, fun other => ?_⟩
      · rw [given, freed, ← sockets]
        simp only [List.length_append, List.length_cons]
        omega
      · have before := pools other
        rw [held_append, held_cons] at before
        rw [left, freed, held_append, Server.left_give]
        omega

/-- A server starts with all its permits. -/
theorem accounted_initial (config : Config) (now : Nat) :
    Accounted config (initial config now) where
  sockets := rfl
  pools := fun pool => by cases pool <;> rfl

/-- **No permit is lost, and none is made.** In every state of the server the
sockets and the permits of both pools are left or held by a connection. So there are
never more connections, requests in work or probes than there is room for, a
connection is refused only where all sockets are taken, and when all connections are
gone all permits are back. -/
theorem permits_accounted {now : Nat}
    (run : Run (Step service) (initial service.config now) trace server) :
    Accounted service.config server ∧
      (∀ emitted after, Step service server emitted after → .refused ∈ emitted →
        server.connections.length = capacity service.config) := by
  have accounted : Accounted service.config server :=
    run.stateInvariant (Accounted service.config) (accounted_initial _ _)
      fun _ _ _ accounted taken => accounted.flow taken.flow
  refine ⟨accounted, ?_⟩
  intro emitted after taken refuses
  have sockets := accounted.sockets
  cases taken with
  | refused listening full => omega
  | probed =>
      split at refuses <;> simp at refuses
  | _ => simp at refuses

/-- A service with the settings of the tests that reads no request. -/
def sampleService : Service where
  config := .forTests
  representable := by decide
  serializer := epochSerializer
  read := fun _ => none
  parser := fun _ => none
  digest := id

/-- An authorized lookup, its body yet to come. -/
def sampleLookup : HttpRequest where
  method := "POST"
  path := "/v1/enrich"
  headers := [("authorization", utf8 "Bearer test-service-token-with-at-least-32-bytes")]
  body := []

/-- A question for readiness. -/
def sampleReadiness : HttpRequest where
  method := "GET"
  path := "/health/ready"
  headers := []
  body := []

/-- A connection with two pairs, of which one is being looked up. -/
def busyLookup : Connection where
  phase := .enriching 1
  timer := 21 * secondNanos
  accepted := 0

/-- A connection, a second younger, that is asked for readiness. -/
def busyProbe : Connection where
  phase := .probing true
  timer := 21 * secondNanos
  accepted := secondNanos

/-- The server of the tests at work: a lookup and a probe hold a permit each, and
their timers are due. -/
def busy : Server :=
  { initial .forTests 0 with
    now := 21 * secondNanos
    connections := [busyLookup, busyProbe]
    sockets := capacity .forTests - 2
    admission := 31
    health := 1
    lookups := [mostCalls] }

/-- What is told of it until then. -/
def busyTrace : List Event := [.accepted, .storageUsed, .lookupStarted, .accepted]

/-- It is reached with no timer overdue. -/
theorem busy_run :
    Run (PunctualStep sampleService 0) (initial .forTests 0) busyTrace busy := by
  have one : ∀ {now : Nat} {connection : Connection}, now ≤ connection.timer →
      ∀ other ∈ [connection], now ≤ other.timer := by
    intro now connection early other listed
    exact List.mem_singleton.mp listed ▸ early
  have two : ∀ {now : Nat} {first second : Connection}, now ≤ first.timer → now ≤ second.timer →
      ∀ other ∈ [first, second], now ≤ other.timer := by
    intro now first second early also other listed
    rcases List.mem_cons.mp listed with rfl | rest
    · exact early
    · exact one also other rest
  have accepted : Step sampleService (initial .forTests 0) [.accepted] _ :=
    .accepted rfl (by decide)
  have run : Run (PunctualStep sampleService 0) _ _ _ := .single ⟨accepted, one (Nat.zero_le _)⟩
  have run := run.snoc ⟨@Step.elapsed _ _ secondNanos (by decide), one (by decide)⟩
  have run := run.snoc ⟨@Step.enriching _ _ [] [] _ 2 sampleId sampleLookup true rfl rfl rfl
    (by decide), one (by decide)⟩
  have run := run.snoc ⟨@Step.lookupStarted _ _ [] [] _ 1 rfl rfl rfl (by decide),
    one (by decide)⟩
  have run := run.snoc ⟨.accepted rfl (by decide), two (by decide) (by decide)⟩
  have run := run.snoc ⟨@Step.probing _ _ [busyLookup] [] _ true sampleId sampleReadiness true rfl
    rfl rfl, two (by decide) (by decide)⟩
  exact run.snoc ⟨@Step.elapsed _ _ (21 * secondNanos) (by decide), two (by decide) (by decide)⟩

/-- It is reached. -/
theorem busy_reached : Run (Step sampleService) (initial .forTests 0) busyTrace busy :=
  busy_run.mono fun _ _ _ taken => taken.1

/-- A permit of each pool and two sockets are held, and the account is even. -/
theorem permits_accounted_visited :
    Run (Step sampleService) (initial .forTests 0) busyTrace busy ∧
      (held .admission busy.connections = 1 ∧ held .health busy.connections = 1) ∧
      Accounted .forTests busy ∧
      ∀ emitted after, Step sampleService busy emitted after → .refused ∈ emitted →
        busy.connections.length = capacity .forTests :=
  ⟨busy_reached, ⟨rfl, rfl⟩, @permits_accounted sampleService busy busyTrace 0 busy_reached⟩

end Permits

end RustEnrich.Serving
