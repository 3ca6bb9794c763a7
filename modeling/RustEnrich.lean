import RustEnrich.Transitions.Run
import RustEnrich.Transitions.History
import RustEnrich.Collections.FittingSuffix
import RustEnrich.Collections.PrunedLog
import RustEnrich.Storage.RollingMinute
import RustEnrich.Storage.UtcDay
import RustEnrich.Storage.Cooldown
import RustEnrich.Storage.Allowance
import RustEnrich.Storage.FirstObservation
import RustEnrich.Storage.CacheReads
import RustEnrich.Enrichment.ProviderWindow
import RustEnrich.Enrichment.SingleFetch
import RustEnrich.Enrichment.Dispatches
import RustEnrich.Storage.RetryDelay
import RustEnrich.Storage.RollbackDelay
import RustEnrich.Enrichment.Headers
import RustEnrich.Enrichment.MergedFeedback
import RustEnrich.Http.Deduplication
import RustEnrich.Http.EnvelopeBound
import RustEnrich.Enrichment.ResultShape
import RustEnrich.Storage.FallbackWindow
import RustEnrich.Storage.PacedProbes
import RustEnrich.Enrichment.RetryDate
import RustEnrich.Enrichment.Rejection
import RustEnrich.ObjectReports
import RustEnrich.Storage.CacheInsertion
import RustEnrich.LookupIdentity
import RustEnrich.Validation.Locations
import RustEnrich.Transitions.Bisimulation
import RustEnrich.Storage.CatchingUp
import RustEnrich.Storage.CostlessCalls
import RustEnrich.Enrichment.RetainedFeedback
import RustEnrich.Enrichment.UnblockedFetches
import RustEnrich.Storage.Bounded
import RustEnrich.Http.ReportBound
import RustEnrich.Storage.Linearization
import RustEnrich.Serving.Lifetime
import RustEnrich.Serving.Completion
import RustEnrich.Storage.Batches
import RustEnrich.Storage.Ownership
import RustEnrich.Enrichment.Settlement
import RustEnrich.Providers.Request
import RustEnrich.Config.Readings
import RustEnrich.Startup
