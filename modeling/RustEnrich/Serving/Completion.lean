import RustEnrich.Serving.Shutdown

/-!
# A shutdown comes to its end

Once the grace of a shutdown is over the server does not wait for clients or
providers any more: whatever they do, some step of its own is possible until the
storage is closed. And every step but the passing of time is paid for, so there
are not many of them.
-/

namespace RustEnrich.Serving

open Http Transitions

/-- A step the server takes by itself: it cuts something off, or goes on with its
shutdown. -/
inductive Prompt (service : Service) : Relation Server Event
  | dropped {server : Server} {front back : List Connection} {connection : Connection}
      (there : server.connections = front ++ connection :: back)
      (dropping : server.dropping = true) :
      Prompt service server [.ended] (server.release front back connection)
  | cancelled {server : Server} {front back : List Nat} {calls : Nat}
      (there : server.lookups = front ++ calls :: back) (cancelled : server.cancelled = true) :
      Prompt service server [.lookupEnded] { server with lookups := front ++ back }
  /-- A cleanup has a deadline of its own. -/
  | cleaned {server : Server} {next : Nat} (cleans : server.maintenance = .cleaning next) :
      Prompt service server [] { server with maintenance := .sleeping next }
  | retired {server : Server} {next : Nat} (sleeps : server.maintenance = .sleeping next)
      (stopping : server.stopping = true) :
      Prompt service server [] { server with maintenance := .finished }
  | went {server after : Server} {emitted : List Event}
      (taken : Step service server emitted after) (begun : 0 < server.main.stage)
      (on : after.main ≠ server.main ∨ server.cancelled = false ∧ after.cancelled = true) :
      Prompt service server emitted after

/-- The steps of the server until some time, each but the passing of time with one
event. -/
inductive Counted (service : Service) (horizon : Nat) : Relation Server Unit
  | elapsed {server : Server} {time : Nat} (later : server.now < time) (within : time ≤ horizon) :
      Counted service horizon server [] { server with now := time }
  | worked {server after : Server} {emitted : List Event}
      (taken : Step service server emitted after) (still : after.now = server.now) :
      Counted service horizon server [()] after

/-! ### What is left to do -/

/-- What a connection has left to do. -/
def Phase.work : Phase → Nat
  | .reading => 8 * mostPairs + 3
  | .probing _ => 2
  | .enriching pairs => 8 * pairs + 2
  | .writing _ => 1

/-- The ticks of an interval until a time. -/
def ticks (horizon next : Nat) : Nat :=
  if next ≤ horizon then (horizon - next) / period + 1 else 0

/-- What the maintenance has left to do until some time. -/
def Maintenance.work (horizon : Nat) : Maintenance → Nat
  | .sleeping next => 2 * ticks horizon next + 1
  | .cleaning next => 2 * ticks horizon next + 2
  | .finished => 0

/-- What the shutdown has left to do. -/
def Main.work : Main → Nat
  | .accepting => 8
  | .draining _ lookups connections => 5 + (!lookups).toNat + (!connections).toNat
  | .waiting _ => 4
  | .settling _ => 3
  | .finishing _ => 2
  | .closing _ => 1
  | .closed _ => 0

namespace Server

/-- What the lookups have left to do. -/
def lookupWork (server : Server) : Nat :=
  (server.lookups.map (· + 1)).sum

/-- What the connections have left to do. -/
def connectionWork (server : Server) : Nat :=
  (server.connections.map (·.phase.work)).sum

/-- The steps a server may yet take once its shutdown has begun. -/
def work (server : Server) (horizon : Nat) : Nat :=
  server.connectionWork + server.lookupWork + server.maintenance.work horizon +
    server.main.work + (!server.cancelled).toNat

end Server

section Completion

variable {service : Service} {server after : Server} {emitted trace : List Event}
  {front back : List Connection} {connection next : Connection} {deadline horizon : Nat}

/-- A tick that is due is one of those until some time. -/
theorem ticks_due {next : Nat} (due : next ≤ horizon) :
    ticks horizon next = ticks horizon (next + period) + 1 := by
  have positive : 0 < period := by decide
  unfold ticks
  rw [if_pos due]
  by_cases again : next + period ≤ horizon
  · rw [if_pos again, Nat.div_eq_sub_div positive (by omega), Nat.sub_sub]
  · rw [if_neg again, Nat.div_eq_of_lt (by omega)]

/-- A step of one connection, which may start a lookup. -/
theorem work_move (there : server.connections = front ++ connection :: back)
    (moved : after.connections = front ++ next :: back)
    (less : after.lookupWork + next.phase.work < server.lookupWork + connection.phase.work)
    (maintenance : after.maintenance = server.maintenance) (main : after.main = server.main)
    (cancelled : after.cancelled = server.cancelled) :
    1 + after.work horizon ≤ server.work horizon := by
  unfold Server.work Server.connectionWork
  rw [maintenance, main, cancelled, there, moved]
  simp only [List.map_append, List.map_cons, List.sum_append, List.sum_cons]
  omega

/-- A connection that ends is work done. -/
theorem work_release (there : server.connections = front ++ connection :: back) :
    1 + (server.release front back connection).work horizon ≤ server.work horizon := by
  obtain ⟨_, main, _, cancelled, _, lookups, maintenance, connections⟩ :=
    release_fields server front back connection
  have some_ : 1 ≤ connection.phase.work := by
    cases connection.phase <;> simp only [Phase.work] <;> omega
  unfold Server.work Server.connectionWork Server.lookupWork
  rw [maintenance, main, cancelled, lookups, connections, there]
  simp only [List.map_append, List.map_cons, List.sum_append, List.sum_cons]
  omega

/-- A step of `serve` or of the maintenance. -/
theorem work_go (connections : after.connections = server.connections)
    (lookups : after.lookups = server.lookups)
    (less : after.maintenance.work horizon + after.main.work + (!after.cancelled).toNat <
      server.maintenance.work horizon + server.main.work + (!server.cancelled).toNat) :
    1 + after.work horizon ≤ server.work horizon := by
  unfold Server.work Server.connectionWork Server.lookupWork
  rw [connections, lookups]
  omega

/-- A lookup that gets on is work done. -/
theorem work_lookup {front back rest : List Nat} {calls : Nat}
    (there : server.lookups = front ++ calls :: back) (left : after.lookups = front ++ rest)
    (less : (rest.map (· + 1)).sum < (back.map (· + 1)).sum + (calls + 1))
    (connections : after.connections = server.connections)
    (maintenance : after.maintenance = server.maintenance) (main : after.main = server.main)
    (cancelled : after.cancelled = server.cancelled) :
    1 + after.work horizon ≤ server.work horizon := by
  unfold Server.work Server.connectionWork Server.lookupWork
  rw [connections, maintenance, main, cancelled, there, left]
  simp only [List.map_append, List.map_cons, List.sum_append, List.sum_cons]
  omega

/-- Every step of a server that shuts down is paid for. -/
theorem Step.pays (taken : Step service server emitted after) (still : after.now = server.now)
    (begun : server.main.deadline = some deadline) (within : server.now ≤ horizon) :
    1 + after.work horizon ≤ server.work horizon := by
  cases taken with
  | elapsed later => exact absurd still later.ne'
  | accepted listening | refused listening | shutdown listening =>
      rw [listening] at begun
      cases begun
  | answered id request healthy there reading | probing id request healthy there reading
  | enriching id request healthy there reading =>
      refine work_move there rfl (Nat.add_lt_add_left ?_ _) rfl rfl rfl
      rw [reading]
      simp only [Phase.work]
      omega
  | probed there phase | passed there phase | lookedUp there phase | rejected there phase
  | projected there phase =>
      refine work_move there rfl (Nat.add_lt_add_left ?_ _) rfl rfl rfl
      rw [phase]
      simp only [Phase.work]
      omega
  | lookupStarted there enriches =>
      refine work_move there rfl ?_ rfl rfl rfl
      rw [enriches]
      simp only [Server.lookupWork, List.map_append, List.sum_append, Phase.work]
      simp [mostCalls]
      omega
  | ended there => exact work_release there
  | expired there => exact work_release there
  | dropped there => exact work_release there
  | lookupWorked there =>
      refine work_lookup there rfl ?_ rfl rfl rfl rfl
      simp only [List.map_cons, List.sum_cons]
      omega
  | lookupEnded there =>
      exact work_lookup there rfl (by omega) rfl rfl rfl rfl
  | lookupCancelled there =>
      exact work_lookup there rfl (by omega) rfl rfl rfl rfl
  | cleaning sleeps due =>
      refine work_go rfl rfl ?_
      have paid := ticks_due (due.trans within)
      rw [sleeps]
      simp only [Maintenance.work]
      omega
  | cleaned cleans =>
      refine work_go rfl rfl ?_
      rw [cleans]
      simp only [Maintenance.work]
      omega
  | retired sleeps =>
      refine work_go rfl rfl ?_
      rw [sleeps]
      simp only [Maintenance.work]
      omega
  | lookupsDrained moves | connectionsDrained moves | drained moves | connectionsGone moves
  | lookupsGone moves | maintenanceGone moves | closed moves =>
      refine work_go rfl rfl ?_
      rw [moves]
      simp only [Main.work, Bool.not_true, Bool.not_false, Bool.toNat_true, Bool.toNat_false]
      omega
  | drainLate moves =>
      refine work_go rfl rfl ?_
      rw [moves]
      simp only [Main.work, Bool.not_true, Bool.toNat_false]
      omega
  | lookupsLate moves due open_ | settleLate moves due open_ =>
      refine work_go rfl rfl ?_
      rw [open_]
      simp only [Bool.not_true, Bool.not_false, Bool.toNat_true, Bool.toNat_false]
      omega

/-- A shutdown that has begun goes on under its deadline. -/
theorem Step.begun (taken : Step service server emitted after)
    (begun : server.main.deadline = some deadline) : after.main.deadline = some deadline := by
  cases taken with
  | accepted | refused => exact begun
  | shutdown listening =>
      rw [listening] at begun
      cases begun
  | ended | expired | dropped =>
      rw [(release_fields _ _ _ _).2.1]
      exact begun
  | lookupsDrained moves | connectionsDrained moves | drained moves | drainLate moves
  | connectionsGone moves | lookupsGone moves | maintenanceGone moves | closed moves =>
      rw [moves] at begun
      exact begun
  | _ => exact begun

/-- Time does not go back. -/
theorem Step.now_le (taken : Step service server emitted after) : server.now ≤ after.now := by
  cases taken with
  | elapsed later => exact later.le
  | ended | expired | dropped => rw [(release_fields _ _ _ _).1]
  | _ => exact le_refl _

/-- A step of the server's own is a step. -/
theorem Prompt.step (prompt : Prompt service server emitted after) :
    Step service server emitted after := by
  cases prompt with
  | dropped there dropping => exact .dropped there dropping
  | cancelled there cancelled => exact .lookupCancelled there cancelled
  | cleaned cleans => exact .cleaned cleans
  | retired sleeps stopping => exact .retired sleeps stopping
  | went taken => exact taken

/-- Once the grace is over some step of the server's own is possible until the
storage is closed. -/
theorem prompt_possible (ordered : Ordered server) (begun : server.main.deadline = some deadline)
    (due : deadline ≤ server.now) (unclosed : server.main ≠ .closed deadline) :
    ∃ emitted after, Prompt service server emitted after := by
  have stopping : 0 < server.main.stage → server.stopping = true := ordered.stopping.mpr
  cases phase : server.main with
  | accepting =>
      rw [phase] at begun
      cases begun
  | draining until_ lookups connections =>
      rw [phase] at begun
      obtain rfl := Option.some.inj begun
      have stage : 0 < server.main.stage := by rw [phase]; exact Nat.one_pos
      by_cases through : lookups = true ∧ connections = true
      · obtain ⟨rfl, rfl⟩ := through
        exact ⟨_, _, .went (.drained phase) stage (.inl (by rw [phase]; exact nofun))⟩
      · exact ⟨_, _, .went (.drainLate phase through due) stage (.inl (by rw [phase]; exact nofun))⟩
  | waiting until_ =>
      have stage : 0 < server.main.stage := by rw [phase]; exact Nat.zero_lt_succ 1
      cases there : server.connections with
      | nil =>
          exact ⟨_, _, .went (.connectionsGone phase there) stage
            (.inl (by rw [phase]; exact nofun))⟩
      | cons connection rest =>
          have dropping : server.dropping = true := by
            by_contra kept
            have gone := ordered.waiting (by rw [phase]; rfl) (eq_false_of_ne_true kept)
            rw [there] at gone
            cases gone
          exact ⟨_, _, @Prompt.dropped _ _ [] rest connection there dropping⟩
  | settling until_ =>
      rw [phase] at begun
      obtain rfl := Option.some.inj begun
      have stage : 0 < server.main.stage := by rw [phase]; exact Nat.zero_lt_succ 2
      cases there : server.lookups with
      | nil =>
          exact ⟨_, _, .went (.lookupsGone phase there) stage (.inl (by rw [phase]; exact nofun))⟩
      | cons calls rest =>
          by_cases cancelled : server.cancelled = true
          · exact ⟨_, _, @Prompt.cancelled _ _ [] rest calls there cancelled⟩
          · have open_ := eq_false_of_ne_true cancelled
            exact ⟨_, _, .went (.settleLate phase due open_) stage (.inr ⟨open_, rfl⟩)⟩
  | finishing until_ =>
      have stage : 0 < server.main.stage := by rw [phase]; exact Nat.zero_lt_succ 3
      cases maintenance : server.maintenance with
      | sleeping next => exact ⟨_, _, .retired maintenance (stopping stage)⟩
      | cleaning next => exact ⟨_, _, .cleaned maintenance⟩
      | finished =>
          exact ⟨_, _, .went (.maintenanceGone phase maintenance) stage
            (.inl (by rw [phase]; exact nofun))⟩
  | closing until_ =>
      have stage : 0 < server.main.stage := by rw [phase]; exact Nat.zero_lt_succ 4
      exact ⟨_, _, .went (.closed phase) stage (.inl (by rw [phase]; exact nofun))⟩
  | closed until_ =>
      rw [phase] at begun unclosed
      exact absurd (congrArg Main.closed (Option.some.inj begun)) unclosed

/-- **A shutdown comes to its end.** Once its grace is over, and whatever clients,
providers and timers do: until the storage is closed the server has a step of its own
to take, and up to any time it takes no more steps than its work until that time. -/
theorem shutdown_ends {now : Nat}
    (run : Run (Step service) (initial service.config now) trace server)
    (begun : server.main.deadline = some deadline) (due : deadline ≤ server.now) :
    (∀ {more after}, Run (Step service) server more after → after.main ≠ .closed deadline →
      ∃ emitted next, Step service after emitted next ∧ Prompt service after emitted next) ∧
    (∀ {horizon worked after}, server.now ≤ horizon →
      Run (Counted service horizon) server worked after →
        worked.length + after.work horizon ≤ server.work horizon) := by
  have ordered : Ordered server :=
    run.stateInvariant Ordered (ordered_initial _ _)
      fun _ _ _ ordered taken => taken.ordered ordered
  constructor
  · intro more after rest unclosed
    obtain ⟨later, there, past⟩ : Ordered after ∧ after.main.deadline = some deadline ∧
        deadline ≤ after.now := by
      refine rest.stateInvariant (fun state => Ordered state ∧
        state.main.deadline = some deadline ∧ deadline ≤ state.now) ⟨ordered, begun, due⟩ ?_
      rintro before events next ⟨kept, there, past⟩ taken
      exact ⟨taken.ordered kept, taken.begun there, past.trans taken.now_le⟩
    obtain ⟨emitted, next, prompt⟩ := prompt_possible later there past unclosed
    exact ⟨emitted, next, prompt.step, prompt⟩
  · intro horizon worked after within rest
    refine @Run.paid _ _ _ _ _ _ (fun state => state.main.deadline = some deadline ∧
      state.now ≤ horizon) (fun state => state.work horizon) rest ⟨begun, within⟩ ?_ ?_
    · rintro before ticked next ⟨there, past⟩ counted
      cases counted with
      | elapsed later within => exact ⟨there, within⟩
      | worked taken still => exact ⟨taken.begun there, still.trans_le past⟩
    · rintro before ticked next ⟨there, past⟩ counted
      cases counted with
      | elapsed later within => exact Nat.le_of_eq (Nat.zero_add _)
      | worked taken still => exact taken.pays still there past

/-- With the grace over, two connections open and a lookup under way, the busy server
has steps of its own to take until it has closed the storage. -/
theorem shutdown_ends_signalled :
    ∃ server, Run (Step sampleService) (initial .forTests 0)
        (busyTrace ++ [.shutdownBegun graceEnd]) server ∧
      server.connections = [busyLookup, busyProbe] ∧ server.lookups = [mostCalls] ∧
      (∀ {more after}, Run (Step sampleService) server more after →
        after.main ≠ .closed graceEnd →
          ∃ emitted next, Step sampleService after emitted next ∧
            Prompt sampleService after emitted next) ∧
      (∀ {horizon worked after}, server.now ≤ horizon →
        Run (Counted sampleService horizon) server worked after →
          worked.length + after.work horizon ≤ server.work horizon) := by
  have run := signalled_reached.snoc (@Step.elapsed _ _ graceEnd (by decide))
  exact ⟨_, run, rfl, rfl, @shutdown_ends sampleService _ _ _ 0 run rfl (le_refl _)⟩

end Completion

end RustEnrich.Serving
