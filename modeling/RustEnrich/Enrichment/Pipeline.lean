import RustEnrich.Enrichment.Dispatches
import RustEnrich.Enrichment.Flights
import RustEnrich.Storage.CachePayloads

/-!
# The lookup pipeline

The lookups over the fetches and the storage of one service. What a lookup is
told by the cache has been answered by the storage, what it is told by a fetch
has been returned by one of its provider, and a put stores what an owner is
about to store. Nothing else is said about which call answers which lookup, so
every interleaving of the service is a run of this system.
-/

namespace RustEnrich.Enrichment

open Transitions Storage

/-- The lookups with the fetches behind them. -/
structure Pipeline where
  lookups : Lookups
  fetching : Fetching
  /-- What the storage has done so far. -/
  history : List Event

namespace Pipeline

/-- A service before its first start. -/
def initial : Pipeline where
  lookups := .initial
  fetching := .initial none
  history := []

/-- The storage has answered a read of the key with the entry. -/
def Answered (pipeline : Pipeline) (key : FlightKey) (cached : CachedOutcome) : Prop :=
  ∃ call kind wall now, Event.cacheRead call key.provider key.cacheKey kind wall now
    (.hit cached.outcome cached.expiresAt) ∈ pipeline.history

/-- A fetch for the provider has returned the outcome. -/
def Returned (pipeline : Pipeline) (provider : ProviderId) (outcome : Outcome) : Prop :=
  ∃ fetch ∈ pipeline.fetching.fetches,
    fetch.request.provider = provider ∧ fetch.phase = .returned outcome

/-- What a lookup is told. A fetch past its deadline is given up. -/
def Backed (pipeline : Pipeline) : LookupEvent → Prop
  | .cacheRead _ key (.ok (some cached)) => pipeline.Answered key cached
  | .performed _ key (.rechecked (.ok (some cached))) => pipeline.Answered key cached
  | .performed _ key (.fetched outcome) =>
      outcome = .failure .providerTimeout ∨ pipeline.Returned key.provider outcome
  | _ => True

/-- A put is the one of an owner. -/
def Asked (pipeline : Pipeline) : Event → Prop
  | .callStarted _ (.cachePut put) =>
      ∃ id owner, pipeline.lookups.owners id = some owner ∧
        owner.key = { provider := put.provider, cacheKey := put.key } ∧
        owner.work = .storing put.outcome
  | _ => True

end Pipeline

/-- What is told of lookups and fetches. -/
inductive PipelineEvent
  | looked (event : LookupEvent)
  | fetched (event : FetchEvent)

/-- What can happen to lookups and fetches. -/
inductive PipelineStep (config : LookupConfig) (codec : PayloadCodec) (service : Service) :
    Pipeline → List PipelineEvent → Pipeline → Prop
  | looked {pipeline : Pipeline} {events : List LookupEvent} {lookups : Lookups}
      (taken : LookupStep config pipeline.lookups events lookups)
      (backed : ∀ event ∈ events, pipeline.Backed event) :
      PipelineStep config codec service pipeline (events.map .looked) { pipeline with lookups }
  | fetched {pipeline : Pipeline} {events : List FetchEvent} {fetching : Fetching}
      (taken : FetchStep codec service pipeline.fetching events fetching)
      (asked : ∀ event ∈ stored events, pipeline.Asked event) (open_ : .closed ∉ stored events) :
      PipelineStep config codec service pipeline (events.map .fetched)
        { pipeline with fetching, history := pipeline.history ++ stored events }
  /-- The process ends, and its lookups with it. -/
  | ended {pipeline : Pipeline} {fetching : Fetching}
      (taken : FetchStep codec service pipeline.fetching [.storage .closed] fetching) :
      PipelineStep config codec service pipeline [.fetched (.storage .closed)]
        { lookups := .initial, fetching, history := pipeline.history ++ [.closed] }

section Runs

variable {config : LookupConfig} {codec : PayloadCodec} {service : Service}
  {pipeline : Pipeline} {trace : List PipelineEvent}

/-- What the storage has done is not undone. -/
theorem PipelineStep.history_mono {after : Pipeline}
    (taken : PipelineStep config codec service pipeline trace after) {event : Event}
    (member : event ∈ pipeline.history) : event ∈ after.history := by
  cases taken with
  | looked taken backed => exact member
  | fetched taken asked open_ => exact List.mem_append_left _ member
  | ended taken => exact List.mem_append_left _ member

/-- The history of a pipeline is a run of its storage. -/
theorem Pipeline.storage_run
    (run : Run (PipelineStep config codec service) .initial trace pipeline) :
    Run (Step codec) (.closed none) pipeline.history pipeline.fetching.storage := by
  refine run.stateInvariant (fun pipeline =>
    Run (Step codec) (.closed none) pipeline.history pipeline.fetching.storage) .refl ?_
  intro before events after earlier taken
  cases taken with
  | looked taken backed => exact earlier
  | fetched taken asked open_ => exact earlier.append taken.storage_run
  | ended taken => exact earlier.append taken.storage_run

/-- The lookups of a pipeline keep their flight table. -/
theorem Pipeline.flightsInvariant
    (run : Run (PipelineStep config codec service) .initial trace pipeline) :
    FlightsInvariant config pipeline.lookups := by
  refine run.stateInvariant (fun pipeline => FlightsInvariant config pipeline.lookups)
    (.initial config) ?_
  intro before events after invariant taken
  cases taken with
  | looked taken backed => exact invariant.step taken
  | fetched taken asked open_ => exact invariant
  | ended taken => exact .initial config

end Runs

end RustEnrich.Enrichment
