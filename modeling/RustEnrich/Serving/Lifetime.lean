import RustEnrich.Serving.System

/-!
# How long a connection lasts

A connection ends when its timer is noticed, and its timer is set again as its
request gets on. It is set a bounded number of times, so a connection, and the
permits it holds, last no longer than a fixed time however slow the client is, where
timers are noticed in time.
-/

namespace RustEnrich.Serving

open Http Transitions

/-- How long after its acceptance the timer of a connection is due at most. -/
def timerBound (config : Config) (lateness : Nat) : Phase → Nat
  | .reading | .probing _ => config.requestTimeout.nanos + config.responseWriteTimeout.nanos
  | .enriching _ => 2 * config.requestTimeout.nanos + 2 * config.responseWriteTimeout.nanos +
      lateness
  | .writing _ => 2 * config.requestTimeout.nanos + 3 * config.responseWriteTimeout.nanos +
      2 * lateness

/-- The timers of all connections are bounded. -/
def Timed (config : Config) (lateness : Nat) (server : Server) : Prop :=
  ∀ connection ∈ server.connections,
    connection.timer ≤ connection.accepted + timerBound config lateness connection.phase

section Lifetime

variable {service : Service} {lateness : Nat} {server after : Server} {emitted trace : List Event}
  {front back : List Connection} {connection next : Connection}

/-- One connection goes on under a bound of its own. -/
theorem Timed.move (timed : Timed service.config lateness server)
    (there : server.connections = front ++ connection :: back)
    (moved : after.connections = front ++ next :: back)
    (bounded : next.timer ≤ next.accepted + timerBound service.config lateness next.phase) :
    Timed service.config lateness after := by
  intro other member
  rw [moved, List.mem_append, List.mem_cons] at member
  rcases member with before | rfl | behind
  · exact timed other (there ▸ List.mem_append_left _ before)
  · exact bounded
  · exact timed other (there ▸ List.mem_append_right _ (List.mem_cons_of_mem _ behind))

/-- A connection that ends leaves the others timed. -/
theorem Timed.remain (timed : Timed service.config lateness server)
    (there : server.connections = front ++ connection :: back)
    (left : after.connections = front ++ back) : Timed service.config lateness after := by
  intro other member
  rw [left, List.mem_append] at member
  rcases member with before | behind
  · exact timed other (there ▸ List.mem_append_left _ before)
  · exact timed other (there ▸ List.mem_append_right _ (List.mem_cons_of_mem _ behind))

/-- Every step leaves all connections timed. -/
theorem Timed.step (timed : Timed service.config lateness server)
    (punctual : Punctual lateness server) (taken : Step service server emitted after) :
    Timed service.config lateness after := by
  have here : ∀ {front back connection}, server.connections = front ++ connection :: back →
      connection.timer ≤ connection.accepted +
        timerBound service.config lateness connection.phase ∧
      server.now ≤ connection.timer + lateness := by
    intro front back connection there
    have member : connection ∈ server.connections :=
      there ▸ List.mem_append_right _ List.mem_cons_self
    exact ⟨timed connection member, punctual connection member⟩
  cases taken with
  | accepted listening room =>
      intro other member
      rcases List.mem_append.mp member with before | new
      · exact timed other before
      · rw [List.mem_singleton.mp new]
        exact le_refl _
  | answered id request healthy there reading enters =>
      obtain ⟨due, noticed⟩ := here there
      rw [reading] at due
      refine timed.move there rfl ?_
      simp only [timerBound] at due ⊢
      omega
  | probing id request healthy there reading enters =>
      obtain ⟨due, noticed⟩ := here there
      rw [reading] at due
      exact timed.move there rfl due
  | probed there probes =>
      obtain ⟨due, noticed⟩ := here there
      rw [probes] at due
      refine timed.move there rfl ?_
      simp only [timerBound] at due ⊢
      omega
  | enriching id request healthy there reading enters bounded =>
      obtain ⟨due, noticed⟩ := here there
      rw [reading] at due
      refine timed.move there rfl ?_
      simp only [timerBound] at due ⊢
      omega
  | passed there enriches | lookedUp there enriches | lookupStarted there enriches =>
      obtain ⟨due, _⟩ := here there
      rw [enriches] at due
      exact timed.move there rfl due
  | rejected there enriches =>
      obtain ⟨due, noticed⟩ := here there
      rw [enriches] at due
      refine timed.move there rfl ?_
      simp only [timerBound] at due ⊢
      omega
  | projected there enriches =>
      obtain ⟨due, noticed⟩ := here there
      rw [enriches] at due
      refine timed.move there rfl ?_
      simp only [timerBound] at due ⊢
      omega
  | ended there => exact timed.remain there rfl
  | expired there => exact timed.remain there rfl
  | dropped there => exact timed.remain there rfl
  | _ => exact timed

/-- **A connection does not outlast its timers.** Whatever a client sends or leaves
out, where timers are noticed within `lateness` its connection is over, and its
permits are back, before two request timeouts, three response timeouts and three times
that have passed since it was accepted. -/
theorem connection_lifetime {now : Nat}
    (run : Run (PunctualStep service lateness) (initial service.config now) trace server)
    (alive : connection ∈ server.connections) :
    server.now ≤ connection.accepted + (2 * service.config.requestTimeout.nanos +
      3 * service.config.responseWriteTimeout.nanos + 3 * lateness) := by
  have kept : Timed service.config lateness server ∧ Punctual lateness server := by
    refine run.stateInvariant
      (fun state => Timed service.config lateness state ∧ Punctual lateness state) ?_ ?_
    · exact ⟨fun _ none => absurd none List.not_mem_nil, fun _ none => absurd none List.not_mem_nil⟩
    · rintro before events after ⟨timed, punctual⟩ ⟨taken, next⟩
      exact ⟨timed.step punctual taken, next⟩
  have due := kept.1 connection alive
  have noticed := kept.2 connection alive
  have most : timerBound service.config lateness connection.phase ≤
      2 * service.config.requestTimeout.nanos + 3 * service.config.responseWriteTimeout.nanos +
        2 * lateness := by
    cases connection.phase <;> simp only [timerBound] <;> omega
  omega

/-- After 21 seconds, with its timer due, the older connection is within the bound. -/
theorem connection_lifetime_visited :
    Run (PunctualStep sampleService 0) (initial .forTests 0) busyTrace busy ∧
      busyLookup ∈ busy.connections ∧
      busy.now ≤ busyLookup.accepted + (2 * Config.forTests.requestTimeout.nanos +
        3 * Config.forTests.responseWriteTimeout.nanos + 3 * 0) :=
  ⟨busy_run, List.mem_cons_self, @connection_lifetime sampleService 0 busy busyTrace busyLookup 0
    busy_run List.mem_cons_self⟩

end Lifetime

end RustEnrich.Serving
