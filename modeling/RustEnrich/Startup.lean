import RustEnrich.Config.Environment
import RustEnrich.Providers.Request
import RustEnrich.Serving.System

/-!
# The start of the service

What `main` puts together before it serves. What `validate` lets pass is not refused again
by the parts it is handed to, but for a cache bound that no signed counter holds: beyond
that a start fails for its surroundings alone.
-/

namespace RustEnrich

open Fallible Storage Serving

namespace Storage

/-! ### The fields of a storage -/

/-- The caps of a group, before they are checked. -/
structure Limits where
  minute : Nat
  day : Nat
  unobservedAttempts : Nat

/-- What `open` computes of a configuration. -/
structure Fields where
  maxEntries : Nat
  maxBytes : Nat
  ipTtl : Nat
  urlTtl : Nat
  hashTtl : Nat
  notFoundTtl : Nat
  abuseipdbLimits : Limits
  virustotalLimits : Limits

/-- `i64::try_from`, of a number that is not negative. -/
def asInt64 (number : Nat) : Except StorageError Nat :=
  if (number : Int) ≤ i64Max then .ok number else .error .invalidData

/-- A lifetime as a column holds it. -/
def ttlMillis (duration : Duration) : Except StorageError Nat := asInt64 (duration.nanos / 1000000)

/-- The limits of a provider as they are configured. -/
def Limits.ofConfig (provider : ProviderConfig) : Limits where
  minute := provider.requestsPerMinute.toNat
  day := provider.requestsPerDay.toNat
  unobservedAttempts := provider.maxConcurrency.toNat - 1

/-- The fields of a storage as they are configured, where they fit. -/
def Fields.ofConfig (config : Config) : Except StorageError Fields := do
  let fields : Fields := {
    maxEntries := ← asInt64 config.cacheMaxEntries.toNat
    maxBytes := ← asInt64 config.cacheMaxBytes.toNat
    ipTtl := ← ttlMillis config.cacheIpTtl
    urlTtl := ← ttlMillis config.cacheUrlTtl
    hashTtl := ← ttlMillis config.cacheHashTtl
    notFoundTtl := ← ttlMillis config.cacheNotFoundTtl
    abuseipdbLimits := .ofConfig config.abuseipdb
    virustotalLimits := .ofConfig config.virustotal }
  if [fields.abuseipdbLimits, fields.virustotalLimits].any fun limits =>
      i64Max < limits.day ∨ i64Max < limits.minute then
    throw .invalidData
  return fields

/-- The fields of a configuration, where none is refused. -/
def Fields.plain (config : Config) : Fields where
  maxEntries := config.cacheMaxEntries.toNat
  maxBytes := config.cacheMaxBytes.toNat
  ipTtl := config.cacheIpTtl.nanos / 1000000
  urlTtl := config.cacheUrlTtl.nanos / 1000000
  hashTtl := config.cacheHashTtl.nanos / 1000000
  notFoundTtl := config.cacheNotFoundTtl.nanos / 1000000
  abuseipdbLimits := .ofConfig config.abuseipdb
  virustotalLimits := .ofConfig config.virustotal

/-- The numbers of limits that fit. -/
def QuotaLimits.toLimits (limits : QuotaLimits) : Limits where
  minute := limits.minute
  day := limits.day
  unobservedAttempts := limits.unobservedAttempts

/-- The fields that a session is opened with. -/
def Settings.fields (settings : Settings) : Fields where
  maxEntries := settings.maxEntries
  maxBytes := settings.maxBytes
  ipTtl := settings.ipTtl.millis
  urlTtl := settings.urlTtl.millis
  hashTtl := settings.hashTtl.millis
  notFoundTtl := settings.notFoundTtl.millis
  abuseipdbLimits := settings.abuseipdbLimits.toLimits
  virustotalLimits := settings.virustotalLimits.toLimits

/-- They tell the limits. -/
theorem QuotaLimits.toLimits_injective : Function.Injective QuotaLimits.toLimits := by
  intro left right same
  cases left
  cases right
  cases same
  rfl

/-- The milliseconds tell the lifetime. -/
theorem Ttl.millis_injective : Function.Injective Ttl.millis := by
  intro left right same
  cases left
  cases right
  cases same
  rfl

/-- The fields tell the settings. -/
theorem Settings.fields_injective : Function.Injective Settings.fields := by
  intro left right same
  simp only [fields, Fields.mk.injEq, Ttl.millis_injective.eq_iff,
    QuotaLimits.toLimits_injective.eq_iff] at same
  cases left
  cases right
  simp only [Settings.mk.injEq]
  exact same

end Storage

/-! ### The steps of a start -/

/-- What a start asks of the system it runs on. -/
structure Platform extends Host where
  /-- `EnvFilter::try_new`. -/
  filter : String → Bool
  /-- `try_init`. -/
  subscribes : Bool
  /-- The file lock, and the connection within a timeout. -/
  connect : String → Duration → Except StorageError Unit
  /-- What `initialize` answers at the fields of a storage, within its timeout. -/
  reconciled : Storage.Fields → Except StorageError Unit
  /-- `Client::builder`, with the timeouts of a connection and of an attempt. -/
  client : Duration → Duration → Bool
  binds : SocketAddr → Bool

/-- A path of a share or in memory. -/
def isForeign (path : String) : Prop := ['\\', '\\'] <+: path.toList ∨ path = ":memory:"

instance (path : String) : Decidable (isForeign path) := inferInstanceAs (Decidable (_ ∨ _))

/-- The start of the storage. -/
def openStorage (platform : Platform) (config : Config) : Except StorageError Storage.Fields := do
  ensure (¬isForeign config.databasePath) .unavailable
  platform.connect config.databasePath config.storageTimeout
  let fields ← Storage.Fields.ofConfig config
  platform.reconciled fields
  return fields

/-- Why an adapter is not built. -/
inductive AdapterBuildError
  | invalidCredentials
  | client

/-- The source's `Adapter::new`. -/
def Adapter.new (platform : Platform) (id : ProviderId) (apiKey : String) (maxAgeDays : UInt16)
    (connectTimeout attemptTimeout : Duration) : Except AdapterBuildError Adapter :=
  if !platform.headerValue apiKey then .error .invalidCredentials
  else if !platform.client connectTimeout attemptTimeout then .error .client
  else .ok { id, maxAgeDays, payloadVersionOverride := none, apiKey }

/-- The loop of `Enrichment::new`. -/
def buildAdapters (platform : Platform) (config : Config) :
    List (ProviderId × ProviderConfig) → Except AdapterBuildError (List Adapter)
  | [] => .ok []
  | (id, provider) :: rest =>
      match provider.enabled, provider.apiKey with
      | true, some key => do
          let adapter ← Adapter.new platform id key config.abuseipdbMaxAgeDays
            config.connectTimeout config.providerTimeout
          let others ← buildAdapters platform config rest
          return adapter :: others
      | _, _ => buildAdapters platform config rest

/-- What `main` serves with. -/
structure Running where
  config : BoundConfig
  storage : Storage.Fields
  adapters : List Adapter

/-- The `Display` of a configuration error. -/
def ConfigError.toText (error : ConfigError) : String := error.setting ++ ": " ++ error.message

/-- `run`, up to `serve`. -/
def start (platform : Platform) (vars : List (OsString × OsString)) : Except String Running := do
  let config ← (fromEnv platform.toHost vars).mapError ConfigError.toText
  ensure (platform.filter ("off,rustenrich=" ++ config.logLevel))
    "Startup failed: invalid logging configuration."
  ensure platform.subscribes "Startup failed: logging initialization failed."
  let storage ← (openStorage platform config.toConfig).mapError fun _ =>
    "Startup failed: persistent storage unavailable, locked, or incompatible."
  let adapters ← (buildAdapters platform config.toConfig
      [(.abuseipdb, config.abuseipdb), (.virustotal, config.virustotal)]).mapError fun _ =>
    "Startup failed: provider client initialization failed."
  ensure (platform.binds config.bindAddr) "Startup failed: listener unavailable."
  return { config, storage, adapters }

namespace Running

/-- The providers that run. -/
def enabled (running : Running) : List ProviderId :=
  [.abuseipdb, .virustotal].filter fun id => running.adapters.any (·.id = id)

/-- The permits each semaphore of the service is made with. `Semaphore::new` panics past
the most. -/
def permits (running : Running) : List Nat :=
  [running.config.maxOutboundRequests.toNat, running.config.maxConcurrentRequests.toNat, 2,
    capacity running.config.toConfig] ++
  running.adapters.map fun adapter => (running.config.provider adapter.id).maxConcurrency.toNat

end Running

/-- The adapter of a provider that is enabled. -/
def Config.adapter (config : Config) (id : ProviderId) : List Adapter :=
  if (config.provider id).enabled then
    (config.provider id).apiKey.toList.map fun apiKey =>
      { id, maxAgeDays := config.abuseipdbMaxAgeDays, payloadVersionOverride := none, apiKey }
  else []

/-- The adapters of a configuration. -/
def Config.adapters (config : Config) : List Adapter :=
  config.adapter .abuseipdb ++ config.adapter .virustotal

/-! ### What is valid is in range -/

section Valid

variable {config : Config} {surroundings : Surroundings}
  (valid : config.validate surroundings = .ok ())

section
include valid

/-- What the checks of many settings say of each. -/
theorem Config.passed_of_validate :
    (∀ setting ∈ config.capacities, decide (setting.2 ≠ 0) = true) ∧
      (∀ setting ∈ config.semaphores, setting.2 ≤ maxPermits) ∧
      config.maxRawResponseBytes.toNat + 1048576 < 18446744073709551616 ∧
      (∀ setting ∈ config.ttls, ((Enrichment.fromStd setting.2).bind
        (surroundings.now setting.1).checkedAddSigned).isSome = true) ∧
      (config.abuseipdb.enabled = true ∨ config.virustotal.enabled = true) := by
  have all : ∀ check ∈ config.checks surroundings, check.passes = true :=
    fun _ listed => passes_of_validate valid listed
  simp only [checks, List.forall_mem_append, List.forall_mem_map, List.forall_mem_cons] at all
  obtain ⟨⟨⟨⟨⟨⟨⟨⟨⟨⟨_, positive⟩, permits⟩, bytes, _⟩, _⟩, _⟩, ttls⟩, _, providers, _⟩, _⟩, _⟩,
    _⟩ := all
  exact ⟨positive, fun setting listed => of_decide_eq_true (permits setting listed),
    of_decide_eq_true bytes, ttls, of_decide_eq_true providers⟩

/-- A lifetime is a difference of two instants. -/
theorem Config.representable_ttl {ttl : Duration} (listed : ttl ∈ config.ttls.map Prod.snd) :
    ((ttl.nanos / 1000000 : Nat) : Int) ≤ maxMillis - minMillis := by
  obtain ⟨⟨setting, ttl⟩, there, rfl⟩ := List.mem_map.mp listed
  obtain ⟨target, reached⟩ :=
    Option.isSome_iff_exists.mp ((passed_of_validate valid).2.2.2.1 _ there)
  obtain ⟨nanos, converted, added⟩ := Option.bind_eq_some_iff.mp reached
  have far := Enrichment.checkedAddSigned_eq_some.mp added
  unfold Enrichment.fromStd at converted
  split at converted
  · cases converted
    have lower := (surroundings.now setting).lower
    have upper := target.upper
    simp only [minMillis, maxMillis, NaiveDate.min, NaiveDate.max, dayMillis, milliNanos] at *
    omega
  · cases converted

/-- The budgets of a valid configuration fit their columns. -/
theorem Config.quota_le (id : ProviderId) :
    ((config.provider id).requestsPerMinute.toNat : Int) ≤ i64Max ∧
      ((config.provider id).requestsPerDay.toNat : Int) ≤ i64Max := by
  obtain ⟨setting, passes⟩ := passes_provider valid id
  have within := of_decide_eq_true (passes
    ⟨(config.provider id).requestsPerDay ≤ 9223372036854775807 ∧
        (config.provider id).requestsPerMinute ≤ 9223372036854775807,
      ⟨setting, "quota must fit a signed 64-bit storage counter"⟩⟩
    (by simp [ProviderConfig.checks]))
  rw [UInt64.le_iff_toNat_le, UInt64.le_iff_toNat_le] at within
  unfold i64Max
  exact ⟨Int.ofNat_le.mpr within.2, Int.ofNat_le.mpr within.1⟩

/-- Permits that a semaphore can be made with. -/
theorem Config.permits_valid {permits : UInt64}
    (listed : permits ∈ config.semaphores.map Prod.snd) :
    0 < permits.toNat ∧ permits.toNat ≤ maxPermits.toNat := by
  obtain ⟨⟨setting, permits⟩, there, rfl⟩ := List.mem_map.mp listed
  obtain ⟨positive, within, _⟩ := passed_of_validate valid
  have capacity : (setting, permits) ∈ config.capacities := by
    simp only [semaphores, List.mem_cons, List.not_mem_nil, or_false] at there
    rcases there with here | here | here <;> simp [capacities, here]
  exact ⟨pos_of_ne_zero (positive _ capacity), UInt64.le_iff_toNat_le.mp (within _ there)⟩

/-- A provider has no more permits than there are. -/
theorem Config.maxConcurrency_le (id : ProviderId) :
    (config.provider id).maxConcurrency.toNat ≤ config.maxOutboundRequests.toNat := by
  obtain ⟨setting, passes⟩ := passes_provider valid id
  have within := of_decide_eq_true (passes
    ⟨(config.provider id).maxConcurrency ≠ 0 ∧
        (config.provider id).maxConcurrency ≤ config.maxOutboundRequests,
      ⟨setting, "concurrency must be positive and not exceed global outbound capacity"⟩⟩
    (by simp [ProviderConfig.checks]))
  exact UInt64.le_iff_toNat_le.mp within.2

/-- Some provider is enabled. -/
theorem Config.exists_enabled : ∃ id, (config.provider id).enabled = true := by
  rcases (passed_of_validate valid).2.2.2.2 with abuse | virus
  · exact ⟨.abuseipdb, abuse⟩
  · exact ⟨.virustotal, virus⟩

/-- What is valid is the fields of one session. -/
theorem Config.existsUnique_settings :
    ∃! settings : Settings, settings.fields = Fields.plain config := by
  have abuse := quota_le valid .abuseipdb
  have virus := quota_le valid .virustotal
  have lived : ∀ ttl ∈ config.ttls.map Prod.snd,
      ((ttl.nanos / 1000000 : Nat) : Int) ≤ maxMillis - minMillis :=
    fun _ listed => representable_ttl valid listed
  simp only [ttls, List.map_cons, List.map_nil, List.forall_mem_cons] at lived
  obtain ⟨ip, url, hash, notFound, _⟩ := lived
  refine ⟨{
    maxEntries := config.cacheMaxEntries.toNat
    maxBytes := config.cacheMaxBytes.toNat
    ipTtl := ⟨_, ip⟩
    urlTtl := ⟨_, url⟩
    hashTtl := ⟨_, hash⟩
    notFoundTtl := ⟨_, notFound⟩
    abuseipdbLimits := ⟨_, _, config.abuseipdb.maxConcurrency.toNat - 1, abuse.1, abuse.2⟩
    virustotalLimits := ⟨_, _, config.virustotal.maxConcurrency.toNat - 1, virus.1, virus.2⟩ },
    rfl, ?_⟩
  intro other same
  exact Settings.fields_injective same

/-- Of what `validate` lets pass, `open` refuses the cache bounds past a signed counter. -/
theorem Config.fields_of_validate :
    Fields.ofConfig config =
      if (config.cacheMaxEntries.toNat : Int) ≤ i64Max ∧
        (config.cacheMaxBytes.toNat : Int) ≤ i64Max
      then .ok (.plain config) else .error .invalidData := by
  have abuse := quota_le valid .abuseipdb
  have virus := quota_le valid .virustotal
  have lived : ∀ ttl ∈ config.ttls.map Prod.snd, ttlMillis ttl = .ok (ttl.nanos / 1000000) := by
    intro ttl listed
    have representable := representable_ttl valid listed
    have fits : maxMillis - minMillis ≤ i64Max := by decide
    exact if_pos (representable.trans fits)
  simp only [ttls, List.map_cons, List.map_nil, List.forall_mem_cons] at lived
  obtain ⟨ip, url, hash, notFound, _⟩ := lived
  unfold Fields.ofConfig
  rw [ip, url, hash, notFound]
  unfold asInt64
  by_cases entries : (config.cacheMaxEntries.toNat : Int) ≤ i64Max
  · by_cases bytes : (config.cacheMaxBytes.toNat : Int) ≤ i64Max
    · have none_ : ([Limits.ofConfig config.abuseipdb, .ofConfig config.virustotal].any
          fun limits => i64Max < limits.day ∨ i64Max < limits.minute) = false := by
        simp only [List.any_cons, List.any_nil, Bool.or_false, Bool.or_eq_false_iff,
          decide_eq_false_iff_not, not_or, not_lt]
        exact ⟨⟨abuse.2, abuse.1⟩, virus.2, virus.1⟩
      simp only [entries, bytes, bind, Except.bind, pure, Except.pure, none_, Bool.false_eq_true,
        if_true, if_false, and_self]
      rfl
    · simp [entries, bytes, bind, Except.bind]
  · simp [entries, bind, Except.bind]

/-- A provider that is enabled has a key, which makes a header. -/
theorem Config.exists_apiKey {id : ProviderId} (enabled : (config.provider id).enabled = true) :
    ∃ apiKey, (config.provider id).apiKey = some apiKey ∧
      surroundings.headerValue apiKey = true := by
  obtain ⟨setting, passes⟩ := passes_provider valid id
  have present := of_decide_eq_true (passes
    ⟨¬((config.provider id).enabled ∧ (config.provider id).apiKey.isNone),
      ⟨setting, "enabled provider requires an API key"⟩⟩ (by simp [ProviderConfig.checks]))
  cases key : (config.provider id).apiKey with
  | none => exact absurd ⟨enabled, by rw [key]; rfl⟩ present
  | some apiKey =>
      have header := of_decide_eq_true (passes_apiKey valid id setting apiKey key)
      exact ⟨apiKey, rfl, header.2.2.2⟩

/-- The adapters are built one after the other. -/
theorem Config.buildAdapters_cons {platform : Platform}
    (same : platform.toSurroundings = surroundings) (id : ProviderId)
    (rest : List (ProviderId × ProviderConfig)) :
    buildAdapters platform config ((id, config.provider id) :: rest) =
      if (config.provider id).enabled = true ∧
        platform.client config.connectTimeout config.providerTimeout = false then .error .client
      else (buildAdapters platform config rest).map (config.adapter id ++ ·) := by
  subst same
  rw [buildAdapters]
  unfold Config.adapter
  cases enabled : (config.provider id).enabled with
  | false =>
      rw [if_neg fun both => Bool.false_ne_true both.1]
      cases buildAdapters platform config rest <;> rfl
  | true =>
      obtain ⟨apiKey, there, header⟩ := exists_apiKey valid enabled
      unfold Adapter.new
      rw [there]
      dsimp only
      rw [header]
      cases built : platform.client config.connectTimeout config.providerTimeout with
      | false => rfl
      | true => cases buildAdapters platform config rest <;> rfl

/-- Of what `validate` lets pass, `Enrichment::new` refuses nothing. -/
theorem Config.buildAdapters_of_validate {platform : Platform}
    (same : platform.toSurroundings = surroundings) :
    buildAdapters platform config
        [(.abuseipdb, config.abuseipdb), (.virustotal, config.virustotal)] =
      if platform.client config.connectTimeout config.providerTimeout
      then .ok config.adapters else .error .client := by
  have last := buildAdapters_cons valid same .virustotal []
  rw [buildAdapters] at last
  refine (buildAdapters_cons valid same .abuseipdb _).trans ?_
  rw [show buildAdapters platform config [(.virustotal, config.virustotal)] = _ from last]
  unfold Config.adapters
  cases built : platform.client config.connectTimeout config.providerTimeout with
  | true => simp [Except.map]
  | false =>
      obtain ⟨id, enabled⟩ := exists_enabled valid
      cases id with
      | abuseipdb => simp [enabled]
      | virustotal =>
          simp only [enabled, and_true, if_true, Bool.false_eq_true, if_false]
          split
          · rfl
          · rfl

end

end Valid

/-- A bound that is valid, and refused. -/
example :
    let config : Config := { Config.forTests with cacheMaxBytes := 9223372036854775808 }
    (config.validate .plain).isOk = true ∧ (Fields.ofConfig config).isOk = false := by
  decide +kernel

/-! ### What a start needs -/

/-- What a start asks of its surroundings for a configuration that is valid, and of the
configuration beyond its being valid. -/
structure Platform.Allows (platform : Platform) (config : BoundConfig) : Prop where
  filter : platform.filter ("off,rustenrich=" ++ config.logLevel) = true
  subscribes : platform.subscribes = true
  path : ¬isForeign config.databasePath
  connect : platform.connect config.databasePath config.storageTimeout = .ok ()
  maxEntries : (config.cacheMaxEntries.toNat : Int) ≤ i64Max
  maxBytes : (config.cacheMaxBytes.toNat : Int) ≤ i64Max
  reconciled : platform.reconciled (.plain config.toConfig) = .ok ()
  client : platform.client config.connectTimeout config.providerTimeout = true
  binds : platform.binds config.bindAddr = true

/-- What is reported of a start that fails. -/
def startupTexts : List String := [
  "Startup failed: invalid logging configuration.",
  "Startup failed: logging initialization failed.",
  "Startup failed: persistent storage unavailable, locked, or incompatible.",
  "Startup failed: provider client initialization failed.",
  "Startup failed: listener unavailable."]

/-- A text that holds nothing of what was supplied. -/
def FixedText (text : String) : Prop :=
  text ∈ startupTexts ∨ ∃ error : ConfigError, error.Fixed ∧ text = error.toText

/-- What the parts of a service that runs rely on. -/
structure Running.Sound (running : Running) : Prop where
  /-- The storage is opened with the fields of one session. -/
  settings : ∃! settings : Settings, settings.fields = running.storage
  /-- A provider is asked exactly if it is enabled, and some provider is. -/
  enabled : ∀ id, id ∈ running.enabled ↔ (running.config.provider id).enabled = true
  asked : running.enabled ≠ []
  /-- Each adapter is one of its kind, and sends the key of its own provider. -/
  distinct : (running.adapters.map (·.id)).Nodup
  keyed : ∀ adapter ∈ running.adapters,
    (running.config.provider adapter.id).apiKey = some adapter.apiKey
  /-- The bytes of a response can be counted. -/
  budget : ∃ budget : Http.RawBudget, budget.bytes = running.config.maxRawResponseBytes.toNat
  /-- No semaphore is empty, and none is too large to be made. -/
  permits : ∀ permits ∈ running.permits, 0 < permits ∧ permits ≤ maxPermits.toNat

section Start

variable {platform : Platform} {vars : List (OsString × OsString)} {running : Running}

/-- The storage starts where its path is one, the platform connects and the fields
fit. -/
theorem openStorage_eq_ok {config : Config} {surroundings : Surroundings}
    (valid : config.validate surroundings = .ok ()) {fields : Fields} :
    openStorage platform config = .ok fields ↔
      ¬isForeign config.databasePath ∧
        platform.connect config.databasePath config.storageTimeout = .ok () ∧
        (config.cacheMaxEntries.toNat : Int) ≤ i64Max ∧
        (config.cacheMaxBytes.toNat : Int) ≤ i64Max ∧
        platform.reconciled (.plain config) = .ok () ∧ fields = .plain config := by
  unfold openStorage
  rw [Config.fields_of_validate valid]
  simp only [bind_eq_ok, ensure_eq_ok, pure_eq_ok, decide_eq_true_eq]
  constructor
  · rintro ⟨_, own, _, connected, computed, small, _, reconciled, rfl⟩
    split_ifs at small with bounds
    cases small
    exact ⟨own, connected, bounds.1, bounds.2, reconciled, rfl⟩
  · rintro ⟨own, connected, entries, bytes, reconciled, rfl⟩
    exact ⟨(), own, (), connected, _, if_pos ⟨entries, bytes⟩, (), reconciled, rfl⟩

/-- A start succeeds where the environment is valid and the platform allows it. -/
theorem start_eq_ok : start platform vars = .ok running ↔
    fromEnv platform.toHost vars = .ok running.config ∧ platform.Allows running.config ∧
      running.storage = .plain running.config.toConfig ∧
      running.adapters = running.config.adapters := by
  unfold start
  simp only [bind_eq_ok, ensure_eq_ok, pure_eq_ok, mapError_eq_ok]
  constructor
  · rintro ⟨config, read, _, filter, _, subscribes, storage, opened, adapters, built, _, binds, rfl⟩
    have valid := valid_of_fromEnv read
    obtain ⟨path, connect, maxEntries, maxBytes, reconciled, rfl⟩ :=
      (openStorage_eq_ok valid).mp opened
    rw [Config.buildAdapters_of_validate valid rfl] at built
    split_ifs at built with client
    cases built
    exact ⟨read, ⟨filter, subscribes, path, connect, maxEntries, maxBytes, reconciled, client,
      binds⟩, rfl, rfl⟩
  · rintro ⟨read, allows, storage, adapters⟩
    have valid := valid_of_fromEnv read
    have opened := (openStorage_eq_ok valid).mpr ⟨allows.path, allows.connect, allows.maxEntries,
      allows.maxBytes, allows.reconciled, storage⟩
    have built := (Config.buildAdapters_of_validate valid rfl).trans (if_pos allows.client)
    rw [← adapters] at built
    exact ⟨_, read, (), allows.filter, (), allows.subscribes, _, opened, _, built, (),
      allows.binds, rfl⟩

/-- The adapter of a provider is there where it is enabled, with its key. -/
theorem mem_adapter {config : Config} {id : ProviderId} {adapter : Adapter} :
    adapter ∈ config.adapter id ↔ (config.provider id).enabled = true ∧
      ∃ apiKey, (config.provider id).apiKey = some apiKey ∧
        adapter = ⟨⟨id, config.abuseipdbMaxAgeDays, none⟩, apiKey⟩ := by
  unfold Config.adapter
  split_ifs with enabled
  · simp [enabled, eq_comm]
  · simp [enabled]

/-- An adapter is that of its provider. -/
theorem mem_adapters {config : Config} {adapter : Adapter} :
    adapter ∈ config.adapters ↔ adapter ∈ config.adapter adapter.id := by
  unfold Config.adapters
  rw [List.mem_append]
  constructor
  · rintro (abuse | virus)
    · obtain ⟨_, _, _, rfl⟩ := mem_adapter.mp abuse
      exact abuse
    · obtain ⟨_, _, _, rfl⟩ := mem_adapter.mp virus
      exact virus
  · intro own
    cases id : adapter.id with
    | abuseipdb => exact Or.inl (id ▸ own)
    | virustotal => exact Or.inr (id ▸ own)

/-- No provider has two adapters. -/
theorem distinct_adapters (config : Config) : (config.adapters.map (·.id)).Nodup := by
  have once : ∀ id, ((config.adapter id).map (·.id)).Sublist [id] := by
    intro id
    unfold Config.adapter
    split_ifs
    · cases (config.provider id).apiKey with
      | none => exact List.nil_sublist _
      | some apiKey => exact .refl _
    · exact List.nil_sublist _
  unfold Config.adapters
  rw [List.map_append]
  exact List.Nodup.sublist ((once .abuseipdb).append (once .virustotal)) (by decide)

/-- What has started is sound. -/
theorem start_sound (started : start platform vars = .ok running) : running.Sound := by
  obtain ⟨read, _, storage, adapters⟩ := start_eq_ok.mp started
  have valid := valid_of_fromEnv read
  have enabled : ∀ id, id ∈ running.enabled ↔ (running.config.provider id).enabled = true := by
    intro id
    have listed : id ∈ [ProviderId.abuseipdb, .virustotal] := by cases id <;> simp
    unfold Running.enabled
    rw [List.mem_filter, and_iff_right listed, List.any_eq_true, adapters]
    simp only [decide_eq_true_eq]
    constructor
    · rintro ⟨adapter, there, rfl⟩
      exact (mem_adapter.mp (mem_adapters.mp there)).1
    · intro enabled
      obtain ⟨apiKey, there, _⟩ := Config.exists_apiKey valid enabled
      have made := mem_adapter.mpr ⟨enabled, apiKey, there, rfl⟩
      exact ⟨_, mem_adapters.mpr made, rfl⟩
  constructor
  · rw [storage]
    exact Config.existsUnique_settings valid
  · exact enabled
  · obtain ⟨id, on⟩ := Config.exists_enabled valid
    exact List.ne_nil_of_mem ((enabled id).mpr on)
  · rw [adapters]
    exact distinct_adapters _
  · intro adapter there
    rw [adapters] at there
    obtain ⟨_, apiKey, keyed, same⟩ := mem_adapter.mp (mem_adapters.mp there)
    rw [keyed, same]
  · have bytes := (Config.passed_of_validate valid).2.2.1
    exact ⟨⟨_, Nat.le_of_lt_succ bytes⟩, rfl⟩
  · have sizes : ∀ permits ∈ running.config.semaphores.map Prod.snd,
        0 < permits.toNat ∧ permits.toNat ≤ maxPermits.toNat :=
      fun _ listed => Config.permits_valid valid listed
    simp only [Config.semaphores, List.map_cons, List.map_nil, List.forall_mem_cons] at sizes
    obtain ⟨requests, _, outbound, _⟩ := sizes
    unfold Running.permits
    simp only [List.forall_mem_append, List.forall_mem_cons, List.forall_mem_map]
    refine ⟨⟨outbound, requests, by decide, ?_, List.forall_mem_nil _⟩, fun adapter _ => ?_⟩
    · have most : 0 < maxPermits.toNat := by decide
      have whole : 0 < Serialization.usizeMax := by decide
      unfold capacity Http.saturatingAddUsize
      exact ⟨by omega, min_le_right _ _⟩
    · have own := Config.maxConcurrency_le valid adapter.id
      exact ⟨Config.maxConcurrency_pos valid adapter.id, own.trans outbound.2⟩

/-- A start reports fixed texts. -/
theorem start_fixed : Reports FixedText (start platform vars) := by
  have listed : ∀ text ∈ startupTexts, FixedText text := fun _ there => Or.inl there
  unfold start
  refine .bind (Reports.mapError ((redacted_collect vars ∅).bind (redacted_fromMap _))
    fun error fixed => Or.inr ⟨error, fixed, rfl⟩) fun config => ?_
  refine .bind (.ensure (listed _ (by decide))) fun _ => ?_
  refine .bind (.ensure (listed _ (by decide))) fun _ => ?_
  refine .bind (.mapError (fun _ _ => trivial) fun _ _ => listed _ (by decide)) fun storage => ?_
  refine .bind (.mapError (fun _ _ => trivial) fun _ _ => listed _ (by decide)) fun adapters => ?_
  exact .bind (.ensure (listed _ (by decide))) fun _ => .ok _

end Start

/-- **A start.** A service comes up exactly where its configuration is accepted, its cache
bounds fit a signed counter, its path is one of a file, and its surroundings allow it:
neither a credential nor a lifetime nor a quota that was accepted is refused later. What
comes up is sound, and what is reported of a start that fails is a fixed text. -/
theorem start_contract (platform : Platform) (vars : List (OsString × OsString)) :
    (∀ running, start platform vars = .ok running ↔
      fromEnv platform.toHost vars = .ok running.config ∧ platform.Allows running.config ∧
        running.storage = .plain running.config.toConfig ∧
        running.adapters = running.config.adapters) ∧
    (∀ running, start platform vars = .ok running → running.Sound) ∧
    ∀ text, start platform vars = .error text → FixedText text :=
  ⟨fun _ => start_eq_ok, fun _ => start_sound, start_fixed⟩

end RustEnrich
