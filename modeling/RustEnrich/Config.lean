import RustEnrich.Enrichment.Headers

/-!
# Settings

The startup settings, their defaults, and the checks a configuration passes. The
checks are made in order and the first that fails is reported, with the setting
it is about and never with a supplied value.
-/

namespace RustEnrich

open Enrichment

/-- What is reported of a setting. -/
structure ConfigError where
  setting : String
  message : String
  deriving DecidableEq, Repr

/-- The settings of one provider. -/
structure ProviderConfig where
  enabled : Bool
  apiKey : Option String
  maxConcurrency : UInt64
  requestsPerMinute : UInt64
  requestsPerDay : UInt64

/-- The settings. -/
structure Config where
  serviceToken : String
  /-- The path, where it is a text. -/
  databasePath : String
  maxBatchSize : UInt64
  maxRequestBytes : UInt64
  maxConcurrentRequests : UInt64
  maxSharedLookups : UInt64
  maxOutboundRequests : UInt64
  requestTimeout : Duration
  lookupTimeout : Duration
  providerTimeout : Duration
  connectTimeout : Duration
  responseWriteTimeout : Duration
  storageTimeout : Duration
  shutdownGrace : Duration
  maxProviderBytes : UInt64
  maxRawResponseBytes : UInt64
  cacheMaxEntries : UInt64
  cacheMaxBytes : UInt64
  cacheIpTtl : Duration
  cacheUrlTtl : Duration
  cacheHashTtl : Duration
  cacheNotFoundTtl : Duration
  logLevel : String
  abuseipdb : ProviderConfig
  virustotal : ProviderConfig
  abuseipdbMaxAgeDays : UInt16

/-- What the checks ask of their surroundings: whether a text makes a header
value, and the clocks, read once for each setting. -/
structure Surroundings where
  headerValue : String → Bool
  instant : String → Instant
  now : String → DateTime

/-- `tokio::sync::Semaphore::MAX_PERMITS`. -/
def maxPermits : UInt64 := 2305843009213693951

/-- A check and what is reported where it fails. -/
structure Check where
  passes : Bool
  error : ConfigError

/-- The check of a secret. -/
def validateSecret (surroundings : Surroundings) (value setting : String) : Check where
  passes := value ≠ "" ∧ '\r' ∉ value.toList ∧ '\n' ∉ value.toList ∧
    surroundings.headerValue value
  error := ⟨setting, "secret must be nonempty and valid in an HTTP header without line breaks"⟩

/-- The checks of one provider. -/
def ProviderConfig.checks (surroundings : Surroundings) (maxOutboundRequests : UInt64)
    (setting : String) (provider : ProviderConfig) : List Check :=
  [⟨¬(provider.enabled ∧ provider.apiKey.isNone),
    ⟨setting, "enabled provider requires an API key"⟩⟩] ++
  provider.apiKey.toList.map (validateSecret surroundings · setting) ++
  [⟨provider.maxConcurrency ≠ 0 ∧ provider.maxConcurrency ≤ maxOutboundRequests,
    ⟨setting, "concurrency must be positive and not exceed global outbound capacity"⟩⟩,
  ⟨provider.requestsPerDay ≠ 0, ⟨setting, "daily request budget must be positive"⟩⟩,
  ⟨provider.requestsPerDay ≤ 9223372036854775807 ∧
      provider.requestsPerMinute ≤ 9223372036854775807,
    ⟨setting, "quota must fit a signed 64-bit storage counter"⟩⟩]

namespace Config

variable (config : Config)

/-- The settings that must be positive. -/
def capacities : List (String × UInt64) := [
  ("ENRICH_MAX_REQUEST_BYTES", config.maxRequestBytes),
  ("ENRICH_MAX_CONCURRENT_REQUESTS", config.maxConcurrentRequests),
  ("ENRICH_MAX_SHARED_LOOKUPS", config.maxSharedLookups),
  ("ENRICH_MAX_OUTBOUND_REQUESTS", config.maxOutboundRequests),
  ("ENRICH_MAX_PROVIDER_BYTES", config.maxProviderBytes),
  ("ENRICH_MAX_RAW_RESPONSE_BYTES", config.maxRawResponseBytes),
  ("ENRICH_CACHE_MAX_ENTRIES", config.cacheMaxEntries),
  ("ENRICH_CACHE_MAX_BYTES", config.cacheMaxBytes)]

/-- The settings that are permits of a semaphore. -/
def semaphores : List (String × UInt64) := [
  ("ENRICH_MAX_CONCURRENT_REQUESTS", config.maxConcurrentRequests),
  ("ENRICH_MAX_SHARED_LOOKUPS", config.maxSharedLookups),
  ("ENRICH_MAX_OUTBOUND_REQUESTS", config.maxOutboundRequests)]

/-- The settings that are timeouts. -/
def timeouts : List (String × Duration) := [
  ("ENRICH_REQUEST_TIMEOUT_MS", config.requestTimeout),
  ("ENRICH_LOOKUP_TIMEOUT_MS", config.lookupTimeout),
  ("ENRICH_PROVIDER_TIMEOUT_MS", config.providerTimeout),
  ("ENRICH_CONNECT_TIMEOUT_MS", config.connectTimeout),
  ("ENRICH_RESPONSE_WRITE_TIMEOUT_MS", config.responseWriteTimeout),
  ("ENRICH_STORAGE_TIMEOUT_MS", config.storageTimeout),
  ("ENRICH_SHUTDOWN_GRACE_MS", config.shutdownGrace)]

/-- The settings that are lifetimes. -/
def ttls : List (String × Duration) := [
  ("ENRICH_CACHE_IP_TTL_SECONDS", config.cacheIpTtl),
  ("ENRICH_CACHE_URL_TTL_SECONDS", config.cacheUrlTtl),
  ("ENRICH_CACHE_HASH_TTL_SECONDS", config.cacheHashTtl),
  ("ENRICH_CACHE_NOT_FOUND_TTL_SECONDS", config.cacheNotFoundTtl)]

/-- The checks of `validate`, in order. -/
def checks (surroundings : Surroundings) : List Check :=
  [validateSecret surroundings config.serviceToken "ENRICH_SERVICE_TOKEN",
    ⟨32 ≤ config.serviceToken.utf8ByteSize,
      ⟨"ENRICH_SERVICE_TOKEN", "requires at least 32 UTF-8 bytes"⟩⟩,
    ⟨config.databasePath ≠ "", ⟨"ENRICH_DATABASE_PATH", "must not be empty"⟩⟩,
    ⟨1 ≤ config.maxBatchSize ∧ config.maxBatchSize ≤ 20,
      ⟨"ENRICH_MAX_BATCH_SIZE", "must be between 1 and 20"⟩⟩] ++
  config.capacities.map (fun (setting, capacity) =>
    ⟨capacity ≠ 0, ⟨setting, "must be positive"⟩⟩) ++
  config.semaphores.map (fun (setting, capacity) =>
    ⟨capacity ≤ maxPermits, ⟨setting, "capacity exceeds the semaphore limit"⟩⟩) ++
  [⟨config.maxRawResponseBytes.toNat + 1048576 < 18446744073709551616,
    ⟨"ENRICH_MAX_RAW_RESPONSE_BYTES", "total response size cannot be represented"⟩⟩] ++
  config.timeouts.map (fun (setting, timeout) =>
    ⟨timeout ≠ .zero ∧ ((surroundings.instant setting).checkedAdd timeout).isSome,
      ⟨setting, "must be a positive representable deadline"⟩⟩) ++
  [⟨config.connectTimeout ≤ config.providerTimeout ∧
        config.providerTimeout ≤ config.lookupTimeout ∧
        config.lookupTimeout ≤ config.requestTimeout,
      ⟨"ENRICH_ timeouts", "require connect <= provider <= lookup <= request"⟩⟩,
    ⟨config.storageTimeout ≤ config.lookupTimeout,
      ⟨"ENRICH_STORAGE_TIMEOUT_MS", "must not exceed the lookup timeout"⟩⟩] ++
  config.ttls.map (fun (setting, ttl) =>
    ⟨((fromStd ttl).bind (surroundings.now setting).checkedAddSigned).isSome,
      ⟨setting, "duration cannot be represented"⟩⟩) ++
  [⟨config.logLevel ∈ ["error", "warn", "info", "debug", "trace"],
      ⟨"ENRICH_LOG_LEVEL", "expected error, warn, info, debug, or trace"⟩⟩,
    ⟨config.abuseipdb.enabled ∨ config.virustotal.enabled,
      ⟨"ENRICH_ providers", "at least one provider must be enabled"⟩⟩] ++
  config.abuseipdb.checks surroundings config.maxOutboundRequests "ENRICH_ABUSEIPDB" ++
  config.virustotal.checks surroundings config.maxOutboundRequests "ENRICH_VIRUSTOTAL" ++
  [⟨1 ≤ config.abuseipdbMaxAgeDays ∧ config.abuseipdbMaxAgeDays ≤ 365,
    ⟨"ENRICH_ABUSEIPDB_MAX_AGE_DAYS", "must be between 1 and 365"⟩⟩]

/-- The first check that fails is reported. -/
def validate (surroundings : Surroundings) : Except ConfigError Unit :=
  match (config.checks surroundings).find? (fun check => !check.passes) with
  | some failed => .error failed.error
  | none => .ok ()

/-- The settings of a provider. -/
def provider : ProviderId → ProviderConfig
  | .abuseipdb => config.abuseipdb
  | .virustotal => config.virustotal

/-- The defaults of `from_map`, with both providers enabled. -/
def standard (serviceToken abuseipdbKey virustotalKey : String) : Config where
  serviceToken
  databasePath := "./data/rustenrich.sqlite"
  maxBatchSize := 20
  maxRequestBytes := 131072
  maxConcurrentRequests := 32
  maxSharedLookups := 64
  maxOutboundRequests := 16
  requestTimeout := .fromMillis 15000
  lookupTimeout := .fromMillis 12000
  providerTimeout := .fromMillis 5000
  connectTimeout := .fromMillis 2000
  responseWriteTimeout := .fromMillis 5000
  storageTimeout := .fromMillis 1000
  shutdownGrace := .fromMillis 20000
  maxProviderBytes := 1048576
  maxRawResponseBytes := 8388608
  cacheMaxEntries := 10000
  cacheMaxBytes := 134217728
  cacheIpTtl := .fromSecs 3600
  cacheUrlTtl := .fromSecs 3600
  cacheHashTtl := .fromSecs 86400
  cacheNotFoundTtl := .fromSecs 300
  logLevel := "info"
  abuseipdb := {
    enabled := true
    apiKey := some abuseipdbKey
    maxConcurrency := 4
    requestsPerMinute := 0
    requestsPerDay := 1000 }
  virustotal := {
    enabled := true
    apiKey := some virustotalKey
    maxConcurrency := 4
    requestsPerMinute := 4
    requestsPerDay := 500 }
  abuseipdbMaxAgeDays := 30

end Config

/-! ### What a valid configuration has -/

section Valid

variable {config : Config} {surroundings : Surroundings}

/-- A valid configuration passes every check. -/
theorem Config.passes_of_validate (valid : config.validate surroundings = .ok ()) {check : Check}
    (listed : check ∈ config.checks surroundings) : check.passes = true := by
  unfold validate at valid
  split at valid
  · cases valid
  · rename_i passed
    simpa using List.find?_eq_none.mp passed check listed

/-- A capacity that is not zero is positive. -/
theorem pos_of_ne_zero {capacity : UInt64} (positive : decide (capacity ≠ 0) = true) :
    0 < capacity.toNat :=
  Nat.pos_of_ne_zero fun zero => of_decide_eq_true positive (UInt64.toNat_inj.mp zero)

/-- There is a permit for some request. -/
theorem Config.maxOutboundRequests_pos (valid : config.validate surroundings = .ok ()) :
    0 < config.maxOutboundRequests.toNat := by
  have listed : (⟨config.maxOutboundRequests ≠ 0,
      ⟨"ENRICH_MAX_OUTBOUND_REQUESTS", "must be positive"⟩⟩ : Check) ∈
        config.checks surroundings := by
    simp [checks, capacities]
  exact pos_of_ne_zero (passes_of_validate valid listed)

/-- A provider that passes its checks has a permit. -/
theorem ProviderConfig.maxConcurrency_pos {provider : ProviderConfig}
    {maxOutboundRequests : UInt64} {setting : String}
    (valid : ∀ check ∈ provider.checks surroundings maxOutboundRequests setting,
      check.passes = true) : 0 < provider.maxConcurrency.toNat := by
  have passes := valid ⟨provider.maxConcurrency ≠ 0 ∧ provider.maxConcurrency ≤ maxOutboundRequests,
    ⟨setting, "concurrency must be positive and not exceed global outbound capacity"⟩⟩
    (by simp [checks])
  exact pos_of_ne_zero (decide_eq_true (of_decide_eq_true passes).1)

/-- Each provider has a permit. -/
theorem Config.maxConcurrency_pos (valid : config.validate surroundings = .ok ())
    (id : ProviderId) : 0 < (config.provider id).maxConcurrency.toNat := by
  have each : ∀ check ∈ (config.provider id).checks surroundings config.maxOutboundRequests
      (match id with | .abuseipdb => "ENRICH_ABUSEIPDB" | .virustotal => "ENRICH_VIRUSTOTAL"),
      check ∈ config.checks surroundings := by
    intro check listed
    simp only [checks, List.mem_append]
    cases id with
    | abuseipdb => exact Or.inl (Or.inl (Or.inr listed))
    | virustotal => exact Or.inl (Or.inr listed)
  exact ProviderConfig.maxConcurrency_pos fun check listed =>
    passes_of_validate valid (each check listed)

end Valid

/-- The settings the tests of the repository start from. -/
def Config.forTests : Config := .standard "test-service-token-with-at-least-32-bytes"
  "test-abuseipdb-key" "test-virustotal-key"

/-- A start of the machine at the epoch, where every text makes a header value. -/
def Surroundings.plain : Surroundings where
  headerValue := fun _ => true
  instant := fun _ => ⟨0, Instant.inRange_zero⟩
  now := fun _ => .epoch

/-- Every default passes its own check. -/
theorem Config.validate_forTests : forTests.validate .plain = .ok () := by
  decide +kernel

end RustEnrich
