import RustEnrich.Serving.System

/-!
# Shutting down

A shutdown lets connections and lookups finish until the grace is over, and cuts
them off then. A lookup may start after the lookups were found to be through, so
they are awaited once more when no connection is left. Only then, and when the
maintenance has retired, the storage is closed.
-/

namespace RustEnrich.Serving

open Http Transitions

/-- How far a shutdown has come. -/
def Main.stage : Main → Nat
  | .accepting => 0
  | .draining .. => 1
  | .waiting _ => 2
  | .settling _ => 3
  | .finishing _ => 4
  | .closing _ => 5
  | .closed _ => 6

/-- The end of the grace, once a shutdown has begun. -/
def Main.deadline : Main → Option Nat
  | .accepting => none
  | .draining deadline .. | .waiting deadline | .settling deadline => some deadline
  | .finishing deadline | .closing deadline | .closed deadline => some deadline

/-- The connections were found to be through while draining. -/
def Main.quiet : Main → Bool
  | .draining _ _ connections => connections
  | _ => false

/-- What holds at each stage. -/
structure Ordered (server : Server) : Prop where
  stopping : server.stopping = true ↔ 0 < server.main.stage
  /-- Nothing is cut off before the grace is over. -/
  cancelled : server.cancelled = true → ∃ deadline, server.main.deadline = some deadline ∧
    deadline ≤ server.now
  dropping : server.dropping = true → ∃ deadline, server.main.deadline = some deadline ∧
    deadline ≤ server.now
  quiet : server.main.quiet = true → server.connections = []
  waiting : server.main.stage = 2 → server.dropping = false → server.connections = []
  connections : 3 ≤ server.main.stage → server.connections = []
  lookups : 4 ≤ server.main.stage → server.lookups = []
  maintenance : 5 ≤ server.main.stage → server.maintenance = .finished

section Order

variable {service : Service} {server after : Server} {emitted trace : List Event}
  {front back : List Connection} {connection : Connection}

/-- A server that starts is in order. -/
theorem ordered_initial (config : Config) (now : Nat) : Ordered (initial config now) := by
  constructor <;> simp [initial, Main.stage, Main.quiet]

/-- A step of a connection, of a lookup or of the maintenance leaves the order as it
is: it only happens where there is something to step. -/
theorem Ordered.work (ordered : Ordered server) (now : after.now = server.now)
    (main : after.main = server.main) (stopping : after.stopping = server.stopping)
    (cancelled : after.cancelled = server.cancelled) (dropping : after.dropping = server.dropping)
    (connections : server.connections = [] → after.connections = [])
    (lookups : server.connections = [] → server.lookups = [] → after.lookups = [])
    (maintenance : server.maintenance = .finished → after.maintenance = .finished) :
    Ordered after where
  stopping := by rw [stopping, main]; exact ordered.stopping
  cancelled := by rw [cancelled, main, now]; exact ordered.cancelled
  dropping := by rw [dropping, main, now]; exact ordered.dropping
  quiet := by rw [main]; exact fun quiet => connections (ordered.quiet quiet)
  waiting := by
    rw [main, dropping]
    exact fun waits kept => connections (ordered.waiting waits kept)
  connections := by rw [main]; exact fun late => connections (ordered.connections late)
  lookups := by
    rw [main]
    exact fun late => lookups (ordered.connections (by omega)) (ordered.lookups late)
  maintenance := by rw [main]; exact fun late => maintenance (ordered.maintenance late)

/-- A connection that ends leaves all but the permits. -/
theorem release_fields (server : Server) (front back : List Connection) (connection : Connection) :
    let released := server.release front back connection
    released.now = server.now ∧ released.main = server.main ∧
      released.stopping = server.stopping ∧ released.cancelled = server.cancelled ∧
      released.dropping = server.dropping ∧ released.lookups = server.lookups ∧
      released.maintenance = server.maintenance ∧ released.connections = front ++ back := by
  unfold Server.release
  cases connection.phase.permit with
  | none => exact ⟨rfl, rfl, rfl, rfl, rfl, rfl, rfl, rfl⟩
  | some pool => cases pool <;> exact ⟨rfl, rfl, rfl, rfl, rfl, rfl, rfl, rfl⟩

/-- A connection that ends leaves the server in order. -/
theorem Ordered.release (ordered : Ordered server)
    (there : server.connections = front ++ connection :: back) :
    Ordered (server.release front back connection) := by
  obtain ⟨now, main, stopping, cancelled, dropping, lookups, maintenance, _⟩ :=
    release_fields server front back connection
  refine ordered.work now main stopping cancelled dropping ?_ ?_ ?_
  · intro none
    rw [there] at none
    exact absurd none (List.append_ne_nil_of_right_ne_nil _ (List.cons_ne_nil _ _))
  · exact fun _ none => lookups.trans none
  · exact fun finished => maintenance.trans finished

/-- What goes on at a connection that is there. -/
theorem Ordered.goOn (ordered : Ordered server)
    (there : server.connections = front ++ connection :: back) (now : after.now = server.now)
    (main : after.main = server.main) (stopping : after.stopping = server.stopping)
    (cancelled : after.cancelled = server.cancelled) (dropping : after.dropping = server.dropping)
    (maintenance : after.maintenance = server.maintenance) : Ordered after := by
  have some_ : server.connections ≠ [] := by
    rw [there]
    exact List.append_ne_nil_of_right_ne_nil _ (List.cons_ne_nil _ _)
  exact ordered.work now main stopping cancelled dropping (fun none => absurd none some_)
    (fun none => absurd none some_) fun finished => maintenance.trans finished

/-- A step of `serve` itself. -/
theorem Ordered.advance {main : Main} (ordered : Ordered server) (begun : 0 < server.main.stage)
    (stage : 0 < main.stage) (deadline : main.deadline = server.main.deadline)
    (quiet : main.quiet = true → server.connections = [])
    (waiting : main.stage = 2 → server.dropping = false → server.connections = [])
    (connections : 3 ≤ main.stage → server.connections = [])
    (lookups : 4 ≤ main.stage → server.lookups = [])
    (maintenance : 5 ≤ main.stage → server.maintenance = .finished) :
    Ordered { server with main } where
  stopping := iff_of_true (ordered.stopping.mpr begun) stage
  cancelled := by
    intro cancelled
    rw [deadline]
    exact ordered.cancelled cancelled
  dropping := by
    intro dropping
    rw [deadline]
    exact ordered.dropping dropping
  quiet := quiet
  waiting := waiting
  connections := connections
  lookups := lookups
  maintenance := maintenance

/-- The lookups are cut off once the grace is over. -/
theorem Ordered.cancel (ordered : Ordered server) {deadline : Nat}
    (there : server.main.deadline = some deadline) (due : deadline ≤ server.now) :
    Ordered { server with cancelled := true } where
  stopping := ordered.stopping
  cancelled := fun _ => ⟨deadline, there, due⟩
  dropping := ordered.dropping
  quiet := ordered.quiet
  waiting := ordered.waiting
  connections := ordered.connections
  lookups := ordered.lookups
  maintenance := ordered.maintenance

/-- Dropping the connections after the grace leaves the server in order. -/
theorem Ordered.drop (ordered : Ordered server) {deadline : Nat}
    (there : server.main.deadline = some deadline) (due : deadline ≤ server.now) :
    Ordered { server with dropping := true } where
  stopping := ordered.stopping
  cancelled := ordered.cancelled
  dropping := fun _ => ⟨deadline, there, due⟩
  quiet := ordered.quiet
  waiting := fun _ => nofun
  connections := ordered.connections
  lookups := ordered.lookups
  maintenance := ordered.maintenance

/-- Every step leaves the server in order. -/
theorem Step.ordered (taken : Step service server emitted after) (ordered : Ordered server) :
    Ordered after := by
  cases taken with
  | elapsed later =>
      refine ⟨ordered.stopping, ?_, ?_, ordered.quiet, ordered.waiting, ordered.connections,
        ordered.lookups, ordered.maintenance⟩
      · intro cancelled
        obtain ⟨deadline, there, due⟩ := ordered.cancelled cancelled
        exact ⟨deadline, there, due.trans later.le⟩
      · intro dropping
        obtain ⟨deadline, there, due⟩ := ordered.dropping dropping
        exact ⟨deadline, there, due.trans later.le⟩
  | accepted listening room =>
      have stage : server.main.stage = 0 := by rw [listening]; rfl
      refine ⟨ordered.stopping, ordered.cancelled, ordered.dropping, ?_, ?_, ?_, ?_, ?_⟩
      · intro quiet
        change server.main.quiet = true at quiet
        rw [listening] at quiet
        cases quiet
      all_goals
        intro late
        change _ at late
        first
          | exact absurd (show server.main.stage = 2 from late) (by omega)
          | exact absurd (show _ ≤ server.main.stage from late) (by omega)
  | refused listening full => exact ordered
  | answered id request healthy there | probing id request healthy there
  | enriching id request healthy there =>
      exact ordered.goOn there rfl rfl rfl rfl rfl rfl
  | probed there | passed there | lookedUp there | lookupStarted there | rejected there
  | projected there =>
      exact ordered.goOn there rfl rfl rfl rfl rfl rfl
  | ended there => exact ordered.release there
  | expired there => exact ordered.release there
  | dropped there => exact ordered.release there
  | lookupWorked there | lookupEnded there | lookupCancelled there =>
      refine ordered.work rfl rfl rfl rfl rfl id (fun _ none => ?_) id
      rw [there] at none
      exact absurd none (List.append_ne_nil_of_right_ne_nil _ (List.cons_ne_nil _ _))
  | cleaning sleeps due =>
      refine ordered.work rfl rfl rfl rfl rfl id (fun _ none => none) fun finished => ?_
      rw [sleeps] at finished
      cases finished
  | cleaned cleans =>
      refine ordered.work rfl rfl rfl rfl rfl id (fun _ none => none) fun finished => ?_
      rw [cleans] at finished
      cases finished
  | retired sleeps stopping =>
      exact ordered.work rfl rfl rfl rfl rfl id (fun _ none => none) fun _ => rfl
  | shutdown listening =>
      have never : ∀ {flag}, (flag = true → ∃ deadline, server.main.deadline = some deadline ∧
          deadline ≤ server.now) → flag = true → False := by
        intro flag bounded on
        obtain ⟨_, there, _⟩ := bounded on
        rw [listening] at there
        cases there
      refine ⟨iff_of_true rfl Nat.one_pos, fun on => (never ordered.cancelled on).elim,
        fun on => (never ordered.dropping on).elim, nofun, nofun, ?_, ?_, ?_⟩
      all_goals
        intro late
        exact absurd (show _ ≤ 1 from late) (by decide)
  | lookupsDrained drains none_ =>
      refine ordered.advance (by rw [drains]; exact Nat.one_pos) Nat.one_pos (by rw [drains]; rfl)
        ?_ nofun ?_ ?_ ?_
      · have quiet := ordered.quiet
        rw [drains] at quiet
        exact quiet
      all_goals
        intro late
        exact absurd (show _ ≤ 1 from late) (by decide)
  | connectionsDrained drains none_ =>
      refine ordered.advance (by rw [drains]; exact Nat.one_pos) Nat.one_pos (by rw [drains]; rfl)
        (fun _ => none_) nofun ?_ ?_ ?_
      all_goals
        intro late
        exact absurd (show _ ≤ 1 from late) (by decide)
  | lookupsLate drains due => exact ordered.cancel (by rw [drains]; rfl) due
  | drained drains =>
      have quiet : server.connections = [] := ordered.quiet (by rw [drains]; rfl)
      refine ordered.advance (by rw [drains]; exact Nat.one_pos) (Nat.zero_lt_succ 1)
        (by rw [drains]; rfl) nofun (fun _ _ => quiet) (fun _ => quiet) ?_ ?_
      all_goals
        intro late
        exact absurd (show _ ≤ 2 from late) (by decide)
  | @drainLate deadline lookups connections drains pending due =>
      have there : server.main.deadline = some deadline := by rw [drains]; rfl
      have cut := (ordered.cancel there due).drop there due
      refine @Ordered.advance _ (.waiting deadline) cut ?_ (Nat.zero_lt_succ 1) there.symm nofun
        (fun _ => nofun) ?_ ?_ ?_
      · rw [drains]
        exact Nat.one_pos
      all_goals
        intro late
        exact absurd (show _ ≤ 2 from late) (by decide)
  | connectionsGone waits none_ =>
      refine ordered.advance (by rw [waits]; exact Nat.zero_lt_succ 1) (Nat.zero_lt_succ 2)
        (by rw [waits]; rfl) nofun nofun (fun _ => none_) ?_ ?_
      all_goals
        intro late
        exact absurd (show _ ≤ 3 from late) (by decide)
  | lookupsGone settles none_ =>
      have gone := ordered.connections (by rw [settles]; exact le_refl 3)
      refine ordered.advance (by rw [settles]; exact Nat.zero_lt_succ 2) (Nat.zero_lt_succ 3)
        (by rw [settles]; rfl) nofun nofun (fun _ => gone) (fun _ => none_) ?_
      intro late
      exact absurd (show _ ≤ 4 from late) (by decide)
  | settleLate settles due => exact ordered.cancel (by rw [settles]; rfl) due
  | maintenanceGone finishes finished =>
      have gone := ordered.connections (by rw [finishes]; exact Nat.le_succ 3)
      have idle := ordered.lookups (by rw [finishes]; exact le_refl 4)
      exact ordered.advance (by rw [finishes]; exact Nat.zero_lt_succ 3) (Nat.zero_lt_succ 4)
        (by rw [finishes]; rfl) nofun nofun (fun _ => gone) (fun _ => idle) fun _ => finished
  | closed closes =>
      have stage : server.main.stage = 5 := by rw [closes]; rfl
      have gone := ordered.connections (by omega)
      have idle := ordered.lookups (by omega)
      have retired := ordered.maintenance (by omega)
      exact ordered.advance (by omega) (Nat.zero_lt_succ 5) (by rw [closes]; rfl) nofun nofun
        (fun _ => gone) (fun _ => idle) fun _ => retired

/-! ### The order of a whole run -/

/-- An event that only a server that listens has. -/
def Event.listens : Event → Bool
  | .accepted | .refused | .shutdownBegun _ => true
  | _ => false

/-- Where an event may stand: nothing is accepted after a shutdown has begun, the
storage is closed once every connection and every lookup is over, and nothing comes
after that. -/
structure InOrder (front : List Event) (event : Event) : Prop where
  unclosed : .storageClosed ∉ front
  listening : event.listens = true → ∀ deadline, .shutdownBegun deadline ∉ front
  last : event = .storageClosed → (∃ deadline, .shutdownBegun deadline ∈ front) ∧
    front.count .accepted = front.count .ended ∧
    front.count .lookupStarted = front.count .lookupEnded

/-- What a trace tells of the state it led to. -/
structure Told (trace : List Event) (server : Server) : Prop where
  ordered : Ordered server
  connections : trace.count .accepted = trace.count .ended + server.connections.length
  lookups : trace.count .lookupStarted = trace.count .lookupEnded + server.lookups.length
  begun : ∀ deadline, .shutdownBegun deadline ∈ trace ↔ server.main.deadline = some deadline
  closed : .storageClosed ∈ trace ↔ server.main.stage = 6
  inOrder : Throughout InOrder trace

/-- Where a connection or a lookup is left, the storage is not closed. -/
theorem Ordered.lively (ordered : Ordered server)
    (there : server.connections = front ++ connection :: back) : server.main.stage < 6 := by
  by_contra late
  rw [ordered.connections (by omega)] at there
  exact List.append_ne_nil_of_right_ne_nil _ (List.cons_ne_nil _ _) there.symm

/-- A lookup that runs is before the end. -/
theorem Ordered.busy (ordered : Ordered server) {front back : List Nat} {calls : Nat}
    (there : server.lookups = front ++ calls :: back) : server.main.stage < 6 := by
  by_contra late
  rw [ordered.lookups (by omega)] at there
  exact List.append_ne_nil_of_right_ne_nil _ (List.cons_ne_nil _ _) there.symm

/-- A step that leaves `serve` where it is, and emits no event of `serve`. -/
theorem Told.work (told : Told trace server) (ordered : Ordered after)
    (main : after.main = server.main)
    (working : ∀ event ∈ emitted, event.listens = false ∧ event ≠ .storageClosed)
    (early : emitted ≠ [] → server.main.stage < 6)
    (connections : emitted.count .accepted + server.connections.length =
      emitted.count .ended + after.connections.length)
    (lookups : emitted.count .lookupStarted + server.lookups.length =
      emitted.count .lookupEnded + after.lookups.length) :
    Told (trace ++ emitted) after where
  ordered := ordered
  connections := by
    rw [List.count_append, List.count_append, told.connections]
    omega
  lookups := by
    rw [List.count_append, List.count_append, told.lookups]
    omega
  begun := by
    intro deadline
    rw [List.mem_append, main, ← told.begun]
    refine or_iff_left fun member => ?_
    exact Bool.noConfusion (working _ member).1
  closed := by
    rw [List.mem_append, main, ← told.closed]
    exact or_iff_left fun member => (working _ member).2 rfl
  inOrder := by
    refine throughout_append.mpr ⟨told.inOrder, ?_⟩
    intro front event back split
    have here : event ∈ emitted := split ▸ List.mem_append_right _ List.mem_cons_self
    have stage := early (List.ne_nil_of_mem here)
    refine ⟨?_, ?_, ?_⟩
    · intro member
      rcases List.mem_append.mp member with before | inside
      · exact absurd (told.closed.mp before) (by omega)
      · exact (working _ (split ▸ List.mem_append_left _ inside)).2 rfl
    · intro listens
      rw [(working event here).1] at listens
      cases listens
    · exact fun closes => absurd closes (working event here).2

/-- A step of `serve` that emits nothing. -/
theorem Told.advance (told : Told trace server) (ordered : Ordered after)
    (deadline : after.main.deadline = server.main.deadline)
    (stage : after.main.stage < 6) (early : server.main.stage < 6)
    (connections : after.connections = server.connections)
    (lookups : after.lookups = server.lookups) : Told (trace ++ []) after := by
  rw [List.append_nil]
  refine ⟨ordered, ?_, ?_, ?_, ?_, told.inOrder⟩
  · rw [connections, told.connections]
  · rw [lookups, told.lookups]
  · rw [deadline]
    exact told.begun
  · rw [told.closed]
    exact iff_of_false (by omega) (by omega)

/-- The one event of `serve` itself. -/
theorem Told.inOrder_snoc {event : Event} (told : Told trace server)
    (unclosed : server.main.stage < 6)
    (listening : event.listens = true → server.main.deadline = none)
    (last : event = .storageClosed → server.main.stage = 5) :
    Throughout InOrder (trace ++ [event]) := by
  refine throughout_append.mpr ⟨told.inOrder, throughout_cons.mpr ⟨?_, throughout_nil⟩⟩
  rw [List.append_nil]
  refine ⟨?_, ?_, ?_⟩
  · intro member
    exact absurd (told.closed.mp member) (by omega)
  · intro listens deadline member
    have begun := (told.begun deadline).mp member
    rw [listening listens] at begun
    cases begun
  · intro closes
    have stage := last closes
    have connections := told.connections
    have lookups := told.lookups
    rw [told.ordered.connections (by omega)] at connections
    rw [told.ordered.lookups (by omega)] at lookups
    refine ⟨?_, connections, lookups⟩
    cases there : server.main with
    | closing deadline =>
        refine ⟨deadline, (told.begun deadline).mpr ?_⟩
        rw [there]
        rfl
    | _ =>
        rw [there] at stage
        cases stage

/-- A connection that ends is told. -/
theorem Told.release (told : Told trace server)
    (ordered : Ordered (server.release front back connection))
    (there : server.connections = front ++ connection :: back) :
    Told (trace ++ [.ended]) (server.release front back connection) := by
  obtain ⟨_, main, _, _, _, lookups, _, connections⟩ :=
    release_fields server front back connection
  refine told.work ordered main (by simp [Event.listens]) (fun _ => told.ordered.lively there) ?_ ?_
  · rw [connections, there, List.length_append, List.length_append]
    simp
    omega
  · rw [lookups]
    simp

/-- Every step is told in order. -/
theorem Step.told (taken : Step service server emitted after) (told : Told trace server) :
    Told (trace ++ emitted) after := by
  have ordered := taken.ordered told.ordered
  cases taken with
  | elapsed later =>
      exact told.work ordered rfl (fun _ none => absurd none List.not_mem_nil) (absurd rfl) rfl rfl
  | accepted listening room =>
      have stage : server.main.stage = 0 := by rw [listening]; rfl
      have deadline : server.main.deadline = none := by rw [listening]; rfl
      refine ⟨ordered, ?_, ?_, ?_, ?_, told.inOrder_snoc (by omega) (fun _ => deadline) nofun⟩
      · simp only [List.count_append, told.connections, List.length_append]
        simp
        omega
      · simp [List.count_append, told.lookups]
      · intro other
        rw [List.mem_append, ← told.begun other]
        simp
      · rw [List.mem_append, ← told.closed]
        simp
  | refused listening full =>
      have stage : server.main.stage = 0 := by rw [listening]; rfl
      have deadline : server.main.deadline = none := by rw [listening]; rfl
      refine ⟨ordered, ?_, ?_, ?_, ?_, told.inOrder_snoc (by omega) (fun _ => deadline) nofun⟩
      · simp [List.count_append, told.connections]
      · simp [List.count_append, told.lookups]
      · intro other
        rw [List.mem_append, ← told.begun other]
        simp
      · rw [List.mem_append, ← told.closed]
        simp
  | answered id request healthy there | probing id request healthy there
  | enriching id request healthy there | passed there | rejected there | projected there =>
      refine told.work ordered rfl (fun _ none => absurd none List.not_mem_nil) (absurd rfl) ?_ rfl
      rw [there, List.length_append, List.length_append]
      rfl
  | @probed _ _ _ asks there probes =>
      refine told.work ordered rfl ?_ (fun _ => told.ordered.lively there) ?_ ?_
      · cases asks <;> simp [Event.listens]
      · rw [there, List.length_append, List.length_append]
        cases asks <;> simp
      · cases asks <;> simp
  | lookedUp there =>
      refine told.work ordered rfl (by simp [Event.listens])
        (fun _ => told.ordered.lively there) ?_ (by simp)
      rw [there, List.length_append, List.length_append]
      simp
  | lookupStarted there =>
      refine told.work ordered rfl (by simp [Event.listens])
        (fun _ => told.ordered.lively there) ?_ ?_
      · rw [there, List.length_append, List.length_append]
        simp
      · rw [List.length_append]
        simp
        omega
  | ended there => exact told.release ordered there
  | expired there => exact told.release ordered there
  | dropped there => exact told.release ordered there
  | lookupWorked there =>
      refine told.work ordered rfl (by simp [Event.listens])
        (fun _ => told.ordered.busy there) (by simp) ?_
      rw [there, List.length_append, List.length_append]
      simp
  | lookupEnded there | lookupCancelled there =>
      refine told.work ordered rfl (by simp [Event.listens])
        (fun _ => told.ordered.busy there) (by simp) ?_
      rw [there, List.length_append, List.length_append]
      simp
      omega
  | cleaning sleeps due =>
      refine told.work ordered rfl (by simp [Event.listens]) (fun _ => ?_) (by simp) (by simp)
      by_contra late
      have finished := told.ordered.maintenance (by omega)
      rw [sleeps] at finished
      cases finished
  | cleaned | retired =>
      exact told.work ordered rfl (fun _ none => absurd none List.not_mem_nil) (absurd rfl) rfl rfl
  | shutdown listening =>
      have stage : server.main.stage = 0 := by rw [listening]; rfl
      have deadline : server.main.deadline = none := by rw [listening]; rfl
      refine ⟨ordered, ?_, ?_, ?_, ?_, told.inOrder_snoc (by omega) (fun _ => deadline) nofun⟩
      · simp [List.count_append, told.connections]
      · simp [List.count_append, told.lookups]
      · intro other
        rw [List.mem_append, told.begun other, deadline]
        simp [Main.deadline, eq_comm]
      · rw [List.mem_append, told.closed, stage]
        simp [Main.stage]
  | lookupsLate | settleLate =>
      exact told.work ordered rfl (fun _ none => absurd none List.not_mem_nil) (absurd rfl) rfl rfl
  | lookupsDrained moves | connectionsDrained moves | drained moves | drainLate moves
  | connectionsGone moves | lookupsGone moves | maintenanceGone moves =>
      refine told.advance ordered (by rw [moves]; rfl) ?_ ?_ rfl rfl
      · exact Nat.lt_of_sub_pos (Nat.zero_lt_succ _)
      · rw [moves]
        exact Nat.lt_of_sub_pos (Nat.zero_lt_succ _)
  | closed closes =>
      have stage : server.main.stage = 5 := by rw [closes]; rfl
      refine ⟨ordered, ?_, ?_, ?_, ?_, told.inOrder_snoc (by omega) nofun (fun _ => stage)⟩
      · simp [List.count_append, told.connections]
      · simp [List.count_append, told.lookups]
      · intro other
        rw [List.mem_append, told.begun other, closes]
        simp [Main.deadline]
      · rw [List.mem_append]
        simp [Main.stage]

/-- **A shutdown goes in order.** In every run of the server, nothing is accepted or
refused, and no second shutdown begins, once one has begun. When the storage is
closed a shutdown has begun, every connection that was accepted has ended and every
lookup that was started has ended, and after that nothing uses the storage: nothing
happens at all. And neither a connection nor a lookup is cut off before the grace of
the shutdown is over. -/
theorem shutdown_in_order {now : Nat}
    (run : Run (Step service) (initial service.config now) trace server) :
    Throughout InOrder trace ∧
      (server.cancelled = true ∨ server.dropping = true →
        ∃ deadline, .shutdownBegun deadline ∈ trace ∧ deadline ≤ server.now) := by
  have told : Told trace server := by
    refine run.invariant Told ⟨ordered_initial _ _, rfl, rfl, ?_, ?_, throughout_nil⟩ ?_
    · intro deadline
      exact iff_of_false List.not_mem_nil nofun
    · exact iff_of_false List.not_mem_nil nofun
    · exact fun _ _ _ _ _ told taken => taken.told told
  refine ⟨told.inOrder, ?_⟩
  rintro (cancelled | dropping)
  · obtain ⟨deadline, there, due⟩ := told.ordered.cancelled cancelled
    exact ⟨deadline, (told.begun deadline).mpr there, due⟩
  · obtain ⟨deadline, there, due⟩ := told.ordered.dropping dropping
    exact ⟨deadline, (told.begun deadline).mpr there, due⟩

/-- When the grace of a shutdown of the busy server is over. -/
def graceEnd : Nat := busy.now + Config.forTests.shutdownGrace.nanos

/-- The busy server when a signal comes. -/
def signalled : Server :=
  { busy with
    stopping := true
    main := .draining graceEnd false false }

/-- It is reached. -/
theorem signalled_reached :
    Run (Step sampleService) (initial .forTests 0) (busyTrace ++ [.shutdownBegun graceEnd])
      signalled :=
  busy_reached.snoc (.shutdown rfl)

/-- What is told of the busy server from the signal on. -/
def signalledTrace : List Event :=
  [.shutdownBegun graceEnd, .ended, .ended, .lookupEnded, .storageClosed]

/-- Neither its connections nor its lookup end in time, and all are cut off. -/
theorem signalled_closes :
    ∃ server, Run (Step sampleService) (initial .forTests 0) (busyTrace ++ signalledTrace) server ∧
      server.cancelled = true := by
  have late := signalled_reached.snoc (@Step.elapsed _ _ graceEnd (by decide))
  have late := late.snoc (.drainLate rfl (by decide) (le_refl _))
  have dropped := late.snoc (@Step.dropped _ _ [] [busyProbe] busyLookup rfl rfl)
  have dropped := dropped.snoc (@Step.dropped _ _ [] [] busyProbe rfl rfl)
  have gone := dropped.snoc (.connectionsGone rfl rfl)
  have gone := gone.snoc (@Step.lookupCancelled _ _ [] [] mostCalls rfl rfl)
  have gone := (gone.snoc (.lookupsGone rfl rfl)).snoc (.retired rfl rfl)
  exact ⟨_, (gone.snoc (.maintenanceGone rfl rfl)).snoc (.closed rfl), rfl⟩

/-- The busy server cuts its work off, and only when the grace is over. -/
theorem shutdown_in_order_signalled :
    ∃ server, Run (Step sampleService) (initial .forTests 0) (busyTrace ++ signalledTrace) server ∧
      server.cancelled = true ∧
      Throughout InOrder (busyTrace ++ signalledTrace) ∧
      (server.cancelled = true ∨ server.dropping = true →
        ∃ deadline, .shutdownBegun deadline ∈ busyTrace ++ signalledTrace ∧
          deadline ≤ server.now) := by
  obtain ⟨server, run, cancelled⟩ := signalled_closes
  exact ⟨server, run, cancelled, @shutdown_in_order sampleService _ _ 0 run⟩

end Order

end RustEnrich.Serving
