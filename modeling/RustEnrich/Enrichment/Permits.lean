import RustEnrich.Concurrency.Semaphore
import RustEnrich.Config
import RustEnrich.Enrichment.AwaitedReserves

/-!
# Permits of outbound requests

The fetches with the semaphores they share: one for each provider, and one for
all requests. A fetch asks for a permit of its provider and, holding it, for a
global one; the guards of an attempt give both back when the attempt ends or the
fetch is dropped. Whom a semaphore serves is left to the semaphore.
-/

namespace RustEnrich.Enrichment

open Transitions Storage Concurrency

/-- `with_adapters`, as far as a fetch reads the service. -/
def withAdapters (config : Config) (adapter : ProviderId → Adapter)
    (serializedLength : Value → Nat) : Service where
  providerTimeout := config.providerTimeout
  maxProviderBytes := config.maxProviderBytes.toNat
  maxOutboundRequests := config.maxOutboundRequests.toNat
  maxConcurrency := fun provider => (config.provider provider).maxConcurrency.toNat
  adapter
  serializedLength

/-- `_provider_permit` and `_global_permit`, where an attempt holds them. -/
structure Guards where
  provider : Bool
  global : Bool
  deriving DecidableEq

/-- An attempt that holds no permit. -/
def Guards.none : Guards := ⟨false, false⟩

/-- The fetches with the semaphores and guards. -/
structure Permitted where
  fetching : Fetching
  providers : ProviderId → Semaphore
  outbound : Semaphore
  guards : FetchId → Guards

namespace Permitted

/-- All permits are there. -/
def initial (service : Service) (file : Option Database) : Permitted where
  fetching := .initial file
  providers := fun provider => .new (service.maxConcurrency provider)
  outbound := .new service.maxOutboundRequests
  guards := fun _ => .none

/-- What a fetch does to the semaphores on the way to its next await. An
attempt that ends drops its guards, as does a fetch that is dropped. -/
def reach (permitted : Permitted) (id : FetchId) (fetch : Fetch) (next : FetchPhase)
    (storage : World) : Permitted :=
  let fetching : Fetching :=
    { storage, fetches := permitted.fetching.fetches.set id { fetch with phase := next } }
  let provider := fetch.request.provider
  let own := permitted.providers provider
  let guards := permitted.guards id
  match next with
  | .acquiringProvider _ =>
      { permitted with
        fetching
        providers := Function.update permitted.providers provider (own.ask id) }
  | .acquiringGlobal _ =>
      { fetching
        providers := Function.update permitted.providers provider (own.take id)
        outbound := permitted.outbound.ask id
        guards := Function.update permitted.guards id { guards with provider := true } }
  | .reserving .. =>
      { permitted with
        fetching
        outbound := permitted.outbound.take id
        guards := Function.update permitted.guards id { guards with global := true } }
  | .sending .. => { permitted with fetching }
  | .sleeping .. | .returned _ | .panicked | .dropped =>
      { fetching
        providers := Function.update permitted.providers provider (own.leave id guards.provider)
        outbound := permitted.outbound.leave id guards.global
        guards := Function.update permitted.guards id .none }

/-- A permit is taken where its semaphore serves the fetch, and refused where it
is closed. -/
def Admits (policy : Policy) (permitted : Permitted) (id : FetchId) (fetch : Fetch)
    (next : FetchPhase) : Prop :=
  let own := permitted.providers fetch.request.provider
  let outbound := permitted.outbound
  match fetch.phase, next with
  | .acquiringProvider _, .acquiringGlobal _ => policy.serves own.permits own.waiters id
  | .acquiringProvider _, .returned _ => own.closed = true
  | .acquiringGlobal _, .reserving .. => policy.serves outbound.permits outbound.waiters id
  | .acquiringGlobal _, .returned _ => outbound.closed = true
  | _, _ => True

end Permitted

/-- What can happen to fetches that need permits. -/
inductive PermitStep (codec : PayloadCodec) (service : Service) (policy : Policy) :
    Permitted → List FetchEvent → Permitted → Prop
  | started {permitted : Permitted} {database : Database} {session : Session}
      (request : FetchRequest)
      (running : permitted.fetching.storage = .running database session) :
      PermitStep codec service policy permitted
        [.started permitted.fetching.fetches.length request]
        { permitted with
          fetching := { permitted.fetching with
            fetches := permitted.fetching.fetches ++ [{ request, phase := .acquiringProvider 0 }] }
          providers := Function.update permitted.providers request.provider
            ((permitted.providers request.provider).ask permitted.fetching.fetches.length) }
  | progressed {permitted : Permitted} {id : FetchId} {fetch : Fetch}
      {actions : List FetchAction} {next : FetchPhase} {storage : World}
      (there : permitted.fetching.fetches[id]? = some fetch)
      (progress : Progress service fetch.request fetch.phase actions next)
      (admits : permitted.Admits policy id fetch next)
      (follows : Follows codec permitted.fetching.storage
        (actions.filterMap FetchAction.stored) storage) :
      PermitStep codec service policy permitted (actions.map (.progressed id))
        (permitted.reach id fetch next storage)
  | storage {permitted : Permitted} {emitted : List Event} {storage : World}
      (taken : Step codec permitted.fetching.storage emitted storage)
      (unawaited : ∀ event ∈ emitted, ¬ permitted.fetching.Awaits event)
      (open_ : .closed ∉ emitted) :
      PermitStep codec service policy permitted (emitted.map .storage)
        { permitted with fetching := { permitted.fetching with storage } }
  /-- The process ends; the next one makes its own semaphores. -/
  | ended {permitted : Permitted} {storage : World}
      (taken : Step codec permitted.fetching.storage [.closed] storage) :
      PermitStep codec service policy permitted [.storage .closed]
        { Permitted.initial service none with
          fetching := {
            storage
            fetches := permitted.fetching.fetches.map fun fetch =>
              { fetch with phase := fetch.phase.lost } } }

/-! ### The semaphores keep account -/

namespace FetchPhase

/-- What a fetch has to do with the semaphore of its provider. -/
def providerStage : FetchPhase → Stage
  | .acquiringProvider _ => .waiting
  | .acquiringGlobal _ | .reserving .. | .sending .. => .holding
  | _ => .out

/-- What a fetch has to do with the global semaphore. -/
def globalStage : FetchPhase → Stage
  | .acquiringGlobal _ => .waiting
  | .reserving .. | .sending .. => .holding
  | _ => .out

variable {phase : FetchPhase}

/-- A fetch holds a permit of its provider where it is holding. -/
theorem holdsProvider_iff : phase.holdsProvider = true ↔ phase.providerStage = .holding := by
  cases phase <;> simp [holdsProvider, providerStage]

/-- A fetch holds a global permit where it is holding. -/
theorem holdsGlobal_iff : phase.holdsGlobal = true ↔ phase.globalStage = .holding := by
  cases phase <;> simp [holdsGlobal, globalStage]

end FetchPhase

/-- What a fetch has to do with the semaphore of a provider. -/
def providerStage (provider : ProviderId) (fetch : Fetch) : Stage :=
  if fetch.request.provider = provider then fetch.phase.providerStage else .out

/-- What a fetch has to do with the global semaphore. -/
def globalStage (fetch : Fetch) : Stage := fetch.phase.globalStage

/-- The guards an attempt has by the phase of its fetch. -/
def heldGuards (phase : FetchPhase) : Guards := ⟨phase.holdsProvider, phase.holdsGlobal⟩

/-- The semaphores and guards account for the phases of the fetches. -/
structure Kept (service : Service) (permitted : Permitted) : Prop where
  providers : ∀ provider, Shared (service.maxConcurrency provider) (providerStage provider)
    permitted.fetching.fetches (permitted.providers provider)
  outbound : Shared service.maxOutboundRequests globalStage permitted.fetching.fetches
    permitted.outbound
  guards : ∀ id fetch, permitted.fetching.fetches[id]? = some fetch →
    permitted.guards id = heldGuards fetch.phase
  fresh : ∀ id, permitted.fetching.fetches.length ≤ id → permitted.guards id = .none

variable {codec : PayloadCodec} {service : Service} {policy : Policy}
  {permitted reached : Permitted} {events : List FetchEvent} {id : FetchId} {fetch : Fetch}
  {actions : List FetchAction} {next : FetchPhase} {storage : World}

/-- A fetch has to do with the semaphore of its provider. -/
theorem providerStage_own (fetch : Fetch) :
    providerStage fetch.request.provider fetch = fetch.phase.providerStage := if_pos rfl

/-- A fetch has nothing to do with another. -/
theorem providerStage_of_ne {provider : ProviderId} (other : fetch.request.provider ≠ provider) :
    providerStage provider fetch = .out := if_neg other

/-- At the start all is accounted for. -/
theorem Kept.initial (service : Service) (file : Option Database) :
    Kept service (.initial service file) where
  providers := fun _ => Shared.new _ fun _ member => absurd member List.not_mem_nil
  outbound := Shared.new _ fun _ member => absurd member List.not_mem_nil
  guards := by
    intro id fetch there
    cases there
  fresh := fun _ _ => rfl

/-- A fetch that moves concerns the semaphore of its provider alone. -/
theorem Kept.provider_moved (kept : Kept service permitted)
    (there : permitted.fetching.fetches[id]? = some fetch) {semaphore : Semaphore}
    (own : Shared (service.maxConcurrency fetch.request.provider)
      (providerStage fetch.request.provider)
      (permitted.fetching.fetches.set id { fetch with phase := next }) semaphore)
    (provider : ProviderId) :
    Shared (service.maxConcurrency provider) (providerStage provider)
      (permitted.fetching.fetches.set id { fetch with phase := next })
      (Function.update permitted.providers fetch.request.provider semaphore provider) := by
  by_cases same : provider = fetch.request.provider
  · subst same
    rw [Function.update_self]
    exact own
  · rw [Function.update_of_ne same]
    refine (kept.providers provider).keep there ?_
    rw [providerStage_of_ne (Ne.symm same)]
    exact providerStage_of_ne (Ne.symm same)

/-- The guards of a fetch that moves. -/
theorem Kept.guards_moved (kept : Kept service permitted)
    (there : permitted.fetching.fetches[id]? = some fetch) {guards : Guards}
    (held : guards = heldGuards next) :
    (∀ other found, (permitted.fetching.fetches.set id { fetch with phase := next })[other]? =
        some found → Function.update permitted.guards id guards other = heldGuards found.phase) ∧
      ∀ other, (permitted.fetching.fetches.set id { fetch with phase := next }).length ≤ other →
        Function.update permitted.guards id guards other = .none := by
  have inside : id < permitted.fetching.fetches.length := (List.getElem?_eq_some_iff.mp there).1
  constructor
  · intro other found present
    by_cases same : other = id
    · subst same
      rw [List.getElem?_set_self inside] at present
      cases present
      rw [Function.update_self]
      exact held
    · rw [List.getElem?_set_ne (Ne.symm same)] at present
      rw [Function.update_of_ne same]
      exact kept.guards other found present
  · intro other beyond
    rw [List.length_set] at beyond
    rw [Function.update_of_ne (inside.trans_le beyond).ne']
    exact kept.fresh other beyond

section Reach

variable (kept : Kept service permitted) (there : permitted.fetching.fetches[id]? = some fetch)
include kept there

/-- Taking a permit of the provider, and asking for a global one. -/
theorem Kept.admitted {attempt : Nat} (waits : fetch.phase = .acquiringProvider attempt)
    (served : policy.serves (permitted.providers fetch.request.provider).permits
      (permitted.providers fetch.request.provider).waiters id) :
    Kept service (permitted.reach id fetch (.acquiringGlobal attempt) storage) := by
  have waiting : providerStage fetch.request.provider fetch = .waiting := by
    rw [providerStage_own, waits]
    rfl
  have idle : globalStage fetch = .out := by
    rw [globalStage, waits]
    rfl
  have guards : ({ permitted.guards id with provider := true } : Guards) =
      heldGuards (.acquiringGlobal attempt) := by
    rw [kept.guards id fetch there, waits]
    rfl
  obtain ⟨moved, fresh⟩ := kept.guards_moved there guards
  exact ⟨kept.provider_moved there ((kept.providers _).take there waiting served (if_pos rfl)),
    kept.outbound.ask there idle rfl, moved, fresh⟩

/-- Taking a global permit. -/
theorem Kept.reserved {attempt : Nat} (call : CallId)
    (waits : fetch.phase = .acquiringGlobal attempt)
    (served : policy.serves permitted.outbound.permits permitted.outbound.waiters id) :
    Kept service (permitted.reach id fetch (.reserving attempt call) storage) := by
  have waiting : globalStage fetch = .waiting := by
    rw [globalStage, waits]
    rfl
  have guards : ({ permitted.guards id with global := true } : Guards) =
      heldGuards (.reserving attempt call) := by
    rw [kept.guards id fetch there, waits]
    rfl
  obtain ⟨moved, fresh⟩ := kept.guards_moved there guards
  refine ⟨?_, kept.outbound.take there waiting served rfl, moved, fresh⟩
  intro provider
  refine (kept.providers provider).keep there ?_
  unfold providerStage
  rw [waits]
  rfl

/-- Sending under the permits of the reserve. -/
theorem Kept.dispatched {attempt : Nat} {call : CallId} (attemptDeadline : Instant)
    (reserves : fetch.phase = .reserving attempt call) :
    Kept service (permitted.reach id fetch (.sending attempt attemptDeadline) storage) := by
  have guards : permitted.guards id = heldGuards (.sending attempt attemptDeadline) := by
    rw [kept.guards id fetch there, reserves]
    rfl
  obtain ⟨moved, fresh⟩ := kept.guards_moved there guards
  rw [Function.update_eq_self] at moved fresh
  refine ⟨?_, kept.outbound.keep there ?_, moved, fresh⟩
  · intro provider
    refine (kept.providers provider).keep there ?_
    unfold providerStage
    rw [reserves]
    rfl
  · unfold globalStage
    rw [reserves]
    rfl

/-- A second attempt asks for a permit of the provider again. -/
theorem Kept.woken {attempt : Nat} {delay : Duration}
    (sleeps : fetch.phase = .sleeping attempt delay) :
    Kept service (permitted.reach id fetch (.acquiringProvider (attempt + 1)) storage) := by
  have idle : providerStage fetch.request.provider fetch = .out := by
    rw [providerStage_own, sleeps]
    rfl
  have guards : permitted.guards id = heldGuards (.acquiringProvider (attempt + 1)) := by
    rw [kept.guards id fetch there, sleeps]
    rfl
  obtain ⟨moved, fresh⟩ := kept.guards_moved there guards
  rw [Function.update_eq_self] at moved fresh
  refine ⟨kept.provider_moved there ((kept.providers _).ask there idle (if_pos rfl)),
    kept.outbound.keep there ?_, moved, fresh⟩
  unfold globalStage
  rw [sleeps]
  rfl

/-- The end of an attempt or of a fetch gives back what is held. -/
theorem Kept.left (ends : next.Ends) : Kept service (permitted.reach id fetch next storage) := by
  have outside : next.providerStage = .out ∧ next.globalStage = .out ∧
      Guards.none = heldGuards next := by
    cases next <;> first | exact ends.elim | exact ⟨rfl, rfl, rfl⟩
  obtain ⟨provider, global, none_⟩ := outside
  have held := kept.guards id fetch there
  have own : (permitted.guards id).provider = true ↔
      providerStage fetch.request.provider fetch = .holding := by
    rw [held, providerStage_own]
    exact FetchPhase.holdsProvider_iff
  have global_ : (permitted.guards id).global = true ↔ globalStage fetch = .holding := by
    rw [held]
    exact FetchPhase.holdsGlobal_iff
  obtain ⟨moved, fresh⟩ := kept.guards_moved there none_
  have away : providerStage fetch.request.provider { fetch with phase := next } = .out :=
    (providerStage_own { fetch with phase := next }).trans provider
  have providers := kept.provider_moved there ((kept.providers _).leave there own away)
  have outbound := kept.outbound.leave there global_
    (show globalStage { fetch with phase := next } = .out from global)
  cases next <;> first | exact ends.elim | exact ⟨providers, outbound, moved, fresh⟩

/-- A step of a fetch, by the await it comes to. -/
theorem Kept.reach (moves : Moves fetch.phase next)
    (admits : permitted.Admits policy id fetch next) :
    Kept service (permitted.reach id fetch next storage) := by
  generalize same : fetch.phase = phase at moves
  cases moves with
  | admitted attempt =>
      unfold Permitted.Admits at admits
      rw [same] at admits
      exact kept.admitted there same admits
  | reserved attempt call =>
      unfold Permitted.Admits at admits
      rw [same] at admits
      exact kept.reserved there call same admits
  | dispatched attempt call attemptDeadline => exact kept.dispatched there attemptDeadline same
  | woken attempt delay => exact kept.woken there same
  | ended unfinished ends => exact kept.left there ends

end Reach

/-- Every step keeps account. -/
theorem Kept.step (kept : Kept service permitted)
    (taken : PermitStep codec service policy permitted events reached) : Kept service reached := by
  cases taken with
  | started request running =>
      refine ⟨?_, kept.outbound.append rfl, ?_, ?_⟩
      · intro provider
        by_cases same : provider = request.provider
        · subst same
          dsimp only
          rw [Function.update_self]
          exact (kept.providers _).enter (if_pos rfl)
        · dsimp only
          rw [Function.update_of_ne same]
          exact (kept.providers provider).append (providerStage_of_ne (Ne.symm same))
      · intro id fetch there
        rcases lt_or_ge id permitted.fetching.fetches.length with before | after
        · rw [List.getElem?_append_left before] at there
          exact kept.guards id fetch there
        · rw [List.getElem?_append_right after, List.getElem?_singleton] at there
          split at there
          · cases there
            exact kept.fresh id after
          · cases there
      · intro id beyond
        rw [List.length_append] at beyond
        exact kept.fresh id ((Nat.le_add_right _ _).trans beyond)
  | progressed there progress admits follows => exact kept.reach there progress.moves admits
  | storage taken unawaited open_ => exact ⟨kept.providers, kept.outbound, kept.guards, kept.fresh⟩
  | ended taken =>
      have lost : ∀ phase : FetchPhase, phase.lost.providerStage = .out ∧
          phase.lost.globalStage = .out ∧ heldGuards phase.lost = .none := by
        intro phase
        cases phase <;> exact ⟨rfl, rfl, rfl⟩
      refine ⟨fun provider => Shared.new _ ?_, Shared.new _ ?_, ?_, fun _ _ => rfl⟩
      · intro fetch member
        obtain ⟨old, _, rfl⟩ := List.mem_map.mp member
        unfold providerStage
        split
        · exact (lost old.phase).1
        · rfl
      · intro fetch member
        obtain ⟨old, _, rfl⟩ := List.mem_map.mp member
        exact (lost old.phase).2.1
      · intro id fetch there
        obtain ⟨old, _, rfl⟩ := List.mem_map.mp (List.mem_of_getElem? there)
        exact (lost old.phase).2.2.symm

end RustEnrich.Enrichment
