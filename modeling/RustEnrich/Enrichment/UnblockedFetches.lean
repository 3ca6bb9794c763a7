import RustEnrich.Enrichment.Permits

/-!
# Fetches that share permits are never stuck

With their semaphores the fetches only do what fetches do. A fetch that sends or
pauses can always go on, and one that reserves can always be refused; the others
wait for a permit. A semaphore that serves nobody is held, a global permit by a
fetch that can go on and a permit of a provider by one that at most waits for a
global one, so some fetch always can.
-/

namespace RustEnrich.Enrichment

open Transitions Storage Concurrency

variable {codec : PayloadCodec} {service : Service} {policy : Policy}
  {permitted reached : Permitted} {trace events : List FetchEvent} {id : FetchId} {fetch : Fetch}
  {phase next : FetchPhase} {actions : List FetchAction} {storage : World}

/-! ### Fetches with their semaphores are fetches -/

/-- Behind the permits a fetch gets on as without them. -/
theorem Permitted.fetching_reach (permitted : Permitted) (id : FetchId) (fetch : Fetch)
    (next : FetchPhase) (storage : World) :
    (permitted.reach id fetch next storage).fetching =
      { storage, fetches := permitted.fetching.fetches.set id { fetch with phase := next } } := by
  cases next <;> rfl

/-- The attempts of a provider are those that hold its permits. -/
theorem Fetching.active_eq (fetching : Fetching) (provider : ProviderId) :
    fetching.active provider =
      fetching.fetches.countP (fun fetch => providerStage provider fetch = .holding) := by
  refine List.countP_congr fun fetch _ => ?_
  rw [decide_eq_true_iff, decide_eq_true_iff, FetchPhase.holdsProvider_iff, providerStage]
  split <;> simp [*]

/-- The attempts are those that hold global permits. -/
theorem Fetching.outbound_eq (fetching : Fetching) :
    fetching.outbound = fetching.fetches.countP (fun fetch => globalStage fetch = .holding) := by
  refine List.countP_congr fun fetch _ => ?_
  rw [decide_eq_true_iff]
  exact FetchPhase.holdsGlobal_iff

/-- A provider has no more attempts than permits. -/
theorem Kept.active_le (kept : Kept service permitted) (provider : ProviderId) :
    permitted.fetching.active provider ≤ service.maxConcurrency provider := by
  rw [Fetching.active_eq]
  exact (kept.providers provider).held_le

/-- There are no more attempts than global permits. -/
theorem Kept.outbound_le (kept : Kept service permitted) :
    permitted.fetching.outbound ≤ service.maxOutboundRequests := by
  rw [Fetching.outbound_eq]
  exact kept.outbound.held_le

/-- A semaphore that serves a fetch has a permit left. -/
theorem Kept.permits (kept : Kept service permitted) (moves : Moves fetch.phase next)
    (admits : permitted.Admits policy id fetch next) :
    permitted.fetching.Permits service fetch next := by
  generalize same : fetch.phase = phase at moves
  cases moves with
  | admitted attempt =>
      unfold Permitted.Admits at admits
      rw [same] at admits
      refine ⟨fun _ _ => ?_, fun _ => nofun⟩
      rw [Fetching.active_eq]
      exact (kept.providers _).held_lt admits
  | reserved attempt call =>
      unfold Permitted.Admits at admits
      rw [same] at admits
      refine ⟨fun released => ?_, fun _ _ => ?_⟩
      · rw [same] at released
        cases released
      · rw [Fetching.outbound_eq]
        exact kept.outbound.held_lt admits
  | dispatched attempt call attemptDeadline =>
      refine ⟨fun released => ?_, fun released => ?_⟩ <;>
        · rw [same] at released
          cases released
  | woken attempt delay => exact .of_released rfl rfl
  | ended unfinished ends =>
      cases next <;> first | exact ends.elim | exact .of_released rfl rfl

/-- A step with semaphores is one without. -/
theorem PermitStep.fetchStep (kept : Kept service permitted)
    (taken : PermitStep codec service policy permitted events reached) :
    FetchStep codec service permitted.fetching events reached.fetching := by
  cases taken with
  | started request running => exact .started request running
  | progressed there progress admits follows =>
      rw [Permitted.fetching_reach]
      exact .progressed there progress (kept.permits progress.moves admits) follows
  | storage taken unawaited open_ => exact .storage taken unawaited open_
  | ended taken => exact .ended taken

/-- After a run all permits are accounted for. -/
theorem kept_run {file : Option Database}
    (run : Run (PermitStep codec service policy) (.initial service file) trace reached) :
    Kept service reached :=
  run.stateInvariant (Kept service) (.initial service file) fun _ _ _ kept taken => kept.step taken

/-- The fetches of a run with semaphores take a run of their own. -/
theorem fetches_run {file : Option Database}
    (run : Run (PermitStep codec service policy) (.initial service file) trace reached) :
    Run (FetchStep codec service) (.initial file) trace reached.fetching := by
  induction run with
  | refl => exact .refl
  | snoc previous taken ih => exact ih.snoc (taken.fetchStep (kept_run previous))

/-! ### Who can go on -/

/-- Some fetch can take a step other than to be dropped. -/
def Advances (codec : PayloadCodec) (service : Service) (policy : Policy)
    (permitted : Permitted) : Prop :=
  ∃ id fetch actions next storage,
    permitted.fetching.fetches[id]? = some fetch ∧
    Progress service fetch.request fetch.phase actions next ∧ next ≠ .dropped ∧
    PermitStep codec service policy permitted (actions.map (.progressed id))
      (permitted.reach id fetch next storage)

/-- What a fetch does by itself concludes no attempt as dropped. -/
theorem conclude_ne_dropped (service : Service) (deadline : Instant) (attempt : Nat)
    (result : Except ErrorCode Attempt) (now : Instant) :
    conclude service deadline attempt result now ≠ .dropped := by
  unfold conclude
  split
  · nofun
  · split <;> nofun

/-- A fetch that holds or leaves its permits asks no semaphore. -/
theorem Advances.free (there : permitted.fetching.fetches[id]? = some fetch)
    (progress : Progress service fetch.request fetch.phase actions next)
    (kept : next ≠ .dropped) (admitted : fetch.phase.globalStage = .holding ∨
      fetch.phase.providerStage = .out)
    (follows : Follows codec permitted.fetching.storage
      (actions.filterMap FetchAction.stored) storage) :
    Advances codec service policy permitted := by
  refine ⟨id, fetch, actions, next, storage, there, progress, kept,
    .progressed there progress ?_ follows⟩
  obtain ⟨request, phase⟩ := fetch
  cases phase <;>
    first
    | trivial
    | simp [FetchPhase.globalStage, FetchPhase.providerStage] at admitted

/-- A request that is sent may time out. -/
theorem Advances.of_sending {attempt : Nat} {attemptDeadline : Instant}
    (there : permitted.fetching.fetches[id]? = some fetch)
    (sends : fetch.phase = .sending attempt attemptDeadline) :
    Advances codec service policy permitted := by
  obtain ⟨request, _⟩ := fetch
  subst sends
  exact .free there (.timedOut attemptDeadline) (conclude_ne_dropped _ _ _ _ _) (Or.inl rfl) rfl

/-- A pause comes to its end. -/
theorem Advances.of_sleeping {attempt : Nat} {delay : Duration}
    (there : permitted.fetching.fetches[id]? = some fetch)
    (sleeps : fetch.phase = .sleeping attempt delay) :
    Advances codec service policy permitted := by
  obtain ⟨request, _⟩ := fetch
  subst sleeps
  by_cases more : attempt < lastAttempt
  · exact .free there (.woken more) nofun (Or.inr rfl) rfl
  · exact .free there (.exhausted more) nofun (Or.inr rfl) rfl

/-- A reserve may fail, for want of the storage or of time. -/
theorem Advances.of_reserving {attempt : Nat} {call : CallId}
    (awaited : Awaited permitted.fetching)
    (there : permitted.fetching.fetches[id]? = some fetch)
    (reserves : fetch.phase = .reserving attempt call) :
    Advances codec service policy permitted := by
  obtain ⟨database, session, running⟩ :=
    awaited.running fetch (List.mem_of_getElem? there) (by rw [reserves]; rfl)
  obtain ⟨underway, _⟩ :=
    awaited.underway id call database session ⟨fetch, attempt, there, reserves⟩ running
  obtain ⟨after, fails⟩ := underway.fails codec database
  have follows : Follows codec permitted.fetching.storage [.callFailed call] after := by
    rw [running]
    exact fails
  obtain ⟨request, _⟩ := fetch
  subst reserves
  exact .free there (.failed request.deadline) (conclude_ne_dropped _ _ _ _ _) (Or.inl rfl)
    follows

/-- A fetch that its provider serves takes its permit. -/
theorem Advances.of_providerServed {attempt : Nat}
    (there : permitted.fetching.fetches[id]? = some fetch)
    (waits : fetch.phase = .acquiringProvider attempt)
    (served : policy.serves (permitted.providers fetch.request.provider).permits
      (permitted.providers fetch.request.provider).waiters id) :
    Advances codec service policy permitted := by
  obtain ⟨request, _⟩ := fetch
  subst waits
  exact ⟨id, _, _, _, _, there, .providerPermit attempt, nofun,
    .progressed there (.providerPermit attempt) served rfl⟩

/-- A fetch that is served a global permit takes it and starts to reserve. -/
theorem Advances.of_globalServed {attempt : Nat} (awaited : Awaited permitted.fetching)
    (there : permitted.fetching.fetches[id]? = some fetch)
    (waits : fetch.phase = .acquiringGlobal attempt)
    (served : policy.serves permitted.outbound.permits permitted.outbound.waiters id) :
    Advances codec service policy permitted := by
  obtain ⟨database, session, running⟩ :=
    awaited.running fetch (List.mem_of_getElem? there) (by rw [waits]; rfl)
  have follows : ∃ after, Follows codec permitted.fetching.storage
      [.callStarted session.nextCall (.reserve fetch.request.provider)] after := by
    rw [running]
    exact ⟨_, .started (.reserve fetch.request.provider) (fun _ => nofun) trivial⟩
  obtain ⟨after, follows⟩ := follows
  obtain ⟨request, _⟩ := fetch
  subst waits
  exact ⟨id, _, _, _, after, there, .globalPermit attempt session.nextCall, nofun,
    .progressed there (.globalPermit attempt session.nextCall) served follows⟩

/-- A fetch that holds a global permit can go on. -/
theorem Advances.of_globalHeld (awaited : Awaited permitted.fetching)
    (there : permitted.fetching.fetches[id]? = some fetch)
    (holds : fetch.phase.globalStage = .holding) :
    Advances codec service policy permitted := by
  cases phase : fetch.phase with
  | reserving attempt call => exact .of_reserving awaited there phase
  | sending attempt attemptDeadline => exact .of_sending there phase
  | _ =>
      rw [phase] at holds
      cases holds

/-- Where a fetch waits for a global permit, somebody takes one or holds one. -/
theorem Advances.of_acquiringGlobal (kept : Kept service permitted)
    (awaited : Awaited permitted.fetching) (capacity : 0 < service.maxOutboundRequests)
    (there : permitted.fetching.fetches[id]? = some fetch)
    (waits : fetch.phase.globalStage = .waiting) : Advances codec service policy permitted := by
  rcases kept.outbound.served_or_held policy capacity there waits with
    ⟨other, waiter, present, also, served⟩ | ⟨other, holder, present, holds⟩
  · cases phase : waiter.phase with
    | acquiringGlobal attempt => exact .of_globalServed awaited present phase served
    | _ =>
        rw [globalStage, phase] at also
        cases also
  · exact .of_globalHeld awaited present holds

/-- Where a fetch waits for its provider, somebody takes a permit of it or holds
one, and who holds one can go on or waits for a global permit. -/
theorem Advances.of_acquiringProvider (kept : Kept service permitted)
    (awaited : Awaited permitted.fetching) (capacity : 0 < service.maxOutboundRequests)
    (own : 0 < service.maxConcurrency fetch.request.provider)
    (there : permitted.fetching.fetches[id]? = some fetch)
    (waits : fetch.phase.providerStage = .waiting) : Advances codec service policy permitted := by
  have asks : providerStage fetch.request.provider fetch = .waiting :=
    (providerStage_own fetch).trans waits
  rcases (kept.providers fetch.request.provider).served_or_held policy own there asks with
    ⟨other, waiter, present, also, served⟩ | ⟨other, holder, present, holds⟩
  · unfold providerStage at also
    split at also
    · rename_i same
      cases phase : waiter.phase with
      | acquiringProvider attempt =>
          rw [← same] at served
          exact .of_providerServed present phase served
      | _ =>
          rw [phase] at also
          cases also
    · cases also
  · unfold providerStage at holds
    split at holds
    · cases phase : holder.phase with
      | acquiringGlobal attempt =>
          exact .of_acquiringGlobal kept awaited capacity present (by rw [phase]; rfl)
      | reserving attempt call => exact .of_reserving awaited present phase
      | sending attempt attemptDeadline => exact .of_sending present phase
      | _ =>
          rw [phase] at holds
          cases holds
    · cases holds

/-- While a fetch is unfinished some fetch can get on. -/
theorem Advances.of_unfinished (kept : Kept service permitted)
    (awaited : Awaited permitted.fetching) (capacity : 0 < service.maxOutboundRequests)
    (each : ∀ provider, 0 < service.maxConcurrency provider)
    (there : permitted.fetching.fetches[id]? = some fetch)
    (unfinished : fetch.phase.unfinished = true) : Advances codec service policy permitted := by
  cases phase : fetch.phase with
  | acquiringProvider attempt =>
      exact .of_acquiringProvider kept awaited capacity (each _) there (by rw [phase]; rfl)
  | acquiringGlobal attempt =>
      exact .of_acquiringGlobal kept awaited capacity there (by rw [phase]; rfl)
  | reserving attempt call => exact .of_reserving awaited there phase
  | sending attempt attemptDeadline => exact .of_sending there phase
  | sleeping attempt delay => exact .of_sleeping there phase
  | returned | panicked | dropped =>
      rw [phase] at unfinished
      cases unfinished

/-! ### The service under a valid configuration -/

/-- The attempts of a provider between `reserve` and the end of `send`. -/
def attempting (provider : ProviderId) (fetching : Fetching) : Nat :=
  fetching.fetches.countP fun fetch =>
    fetch.request.provider = provider ∧ fetch.phase.holdsGlobal

/-- An attempt with a global permit has one of its provider. -/
theorem attempting_le_active (provider : ProviderId) (fetching : Fetching) :
    attempting provider fetching ≤ fetching.active provider := by
  refine List.countP_mono_left fun fetch _ => ?_
  simp only [decide_eq_true_eq]
  rintro ⟨own, holds⟩
  refine ⟨own, ?_⟩
  cases phase : fetch.phase <;> rw [phase] at holds <;> first | rfl | cases holds

/-- A fetch that waits for a permit of its provider, or pauses. -/
def FetchPhase.holdsNothing : FetchPhase → Bool
  | .acquiringProvider _ | .sleeping .. => true
  | _ => false

section Valid

variable {config : Config} {surroundings : Surroundings}
  (valid : config.validate surroundings = .ok ()) {adapter : ProviderId → Adapter}
  {serializedLength : Value → Nat} {file : Option Database}
  (run : Run (PermitStep codec (withAdapters config adapter serializedLength) policy)
    (.initial (withAdapters config adapter serializedLength) file) trace reached)
include valid run

/-- **Outbound permits.** Under a valid configuration, however many fetches run
and whomever the semaphores serve, the attempts between `reserve` and the end of
`send` stay within the global bound, and those of a provider within its own; no
fetch holds a global permit while it waits for its provider or pauses; and while
any fetch is unfinished, some fetch can take a step other than to be dropped. -/
theorem outbound_permits :
    reached.fetching.outbound ≤ config.maxOutboundRequests.toNat ∧
    (∀ provider, attempting provider reached.fetching ≤
      (config.provider provider).maxConcurrency.toNat) ∧
    (∀ (id : FetchId) (fetch : Fetch), reached.fetching.fetches[id]? = some fetch →
      fetch.phase.holdsNothing = true → (reached.guards id).global = false) ∧
    ∀ (id : FetchId) (fetch : Fetch), reached.fetching.fetches[id]? = some fetch →
      fetch.phase.unfinished = true →
        Advances codec (withAdapters config adapter serializedLength) policy reached := by
  have kept := kept_run run
  have awaited := awaited_run (fetches_run run)
  refine ⟨kept.outbound_le, ?_, ?_, ?_⟩
  · intro provider
    exact (attempting_le_active provider _).trans (kept.active_le provider)
  · intro id fetch there idle
    rw [kept.guards id fetch there]
    cases phase : fetch.phase <;> rw [phase] at idle <;> first | rfl | cases idle
  · intro id fetch there unfinished
    exact .of_unfinished kept awaited (Config.maxOutboundRequests_pos valid)
      (Config.maxConcurrency_pos valid) there unfinished

end Valid

/-- The settings of the tests with one request at a time, of each provider and of
both. -/
def soleConfig : Config :=
  { Config.forTests with
    maxOutboundRequests := 1
    abuseipdb := { Config.forTests.abuseipdb with maxConcurrency := 1 }
    virustotal := { Config.forTests.virustotal with maxConcurrency := 1 } }

/-- They are valid. -/
theorem validate_soleConfig : soleConfig.validate .plain = .ok () := by
  decide +kernel

/-- The service under these settings. -/
def soleService : Service :=
  withAdapters soleConfig singleService.adapter singleService.serializedLength

/-- Three fetches that compete: one holds both its permits, one waits for the
first one's provider and one, with the permit of its own, for the global one. -/
def competing : List Fetch := [
  { request := sampleFetch, phase := .reserving 0 0 },
  { request := sampleFetch, phase := .acquiringProvider 0 },
  { request := { sampleFetch with provider := .virustotal }, phase := .acquiringGlobal 0 }]

/-- They get there. -/
theorem competing_run :
    ∃ trace reached, Run (PermitStep .blank soleService .fair) (.initial soleService none)
      trace reached ∧ reached.fetching.fetches = competing := by
  have run := Run.single (@PermitStep.storage .blank soleService .fair
    (.initial soleService none) _ _
    (@Step.opened .blank none twoAttemptSettings .epoch .epoch _ _ rfl)
    (fun _ _ ⟨_, member, _⟩ => absurd member List.not_mem_nil) (by simp))
  have run := run.snoc (.started sampleFetch rfl)
  have run := run.snoc (.started sampleFetch rfl)
  have run := run.snoc (.started { sampleFetch with provider := .virustotal } rfl)
  have run := run.snoc (@PermitStep.progressed _ _ _ _ 0 _ _ _ _ rfl (.providerPermit 0)
    (show 0 ∈ List.take 1 [0, 1] from List.mem_cons_self) rfl)
  have run := run.snoc (@PermitStep.progressed _ _ _ _ 0 _ _ _ _ rfl (.globalPermit 0 0)
    (show 0 ∈ List.take 1 [0] from List.mem_cons_self)
    (.started (.reserve .abuseipdb) (fun _ => nofun) trivial))
  have run := run.snoc (@PermitStep.progressed _ _ _ _ 2 _ _ _ _ rfl (.providerPermit 0)
    (show 2 ∈ List.take 1 [2] from List.mem_cons_self) rfl)
  exact ⟨_, _, run, rfl⟩

/-- With the one global permit taken, the fetch that holds it can go on. -/
theorem outbound_permits_forTests :
    ∃ trace reached, Run (PermitStep .blank soleService .fair) (.initial soleService none)
        trace reached ∧
      reached.fetching.fetches = competing ∧ reached.fetching.outbound = 1 ∧
      reached.fetching.outbound ≤ 1 ∧
      (∀ provider, attempting provider reached.fetching ≤
        (soleConfig.provider provider).maxConcurrency.toNat) ∧
      (∀ (id : FetchId) (fetch : Fetch), reached.fetching.fetches[id]? = some fetch →
        fetch.phase.holdsNothing = true → (reached.guards id).global = false) ∧
      ∀ (id : FetchId) (fetch : Fetch), reached.fetching.fetches[id]? = some fetch →
        fetch.phase.unfinished = true → Advances .blank soleService .fair reached := by
  obtain ⟨trace, reached, run, fetches⟩ := competing_run
  have taken : reached.fetching.outbound = 1 := by
    unfold Fetching.outbound
    rw [fetches]
    rfl
  exact ⟨trace, reached, run, fetches, taken, outbound_permits validate_soleConfig run⟩

end RustEnrich.Enrichment
