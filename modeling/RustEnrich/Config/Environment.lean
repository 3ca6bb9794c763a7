import RustEnrich.Computation.Fallible
import RustEnrich.Config
import RustEnrich.Net.SocketAddr
import Mathlib.Logic.Function.Basic

/-!
# Settings from the environment

What `from_env` and `from_map` make of the variables of a process. A variable of the
service under a name it does not know is refused, each setting that is absent has its
default, and what is read is validated as a whole.
-/

namespace RustEnrich

open Fallible

/-- A configuration with the address the service binds. -/
structure BoundConfig extends Config where
  bindAddr : SocketAddr

/-- What a start reads besides its variables. -/
structure Host extends Surroundings where
  /-- `std::fs::read_to_string`. -/
  readToString : String → Option String

/-- `HashMap::get`. -/
abbrev Lookup := String → Option String

/-- The settings that are known. -/
def settings : List String := [
  "ENRICH_BIND_ADDR",
  "ENRICH_SERVICE_TOKEN",
  "ENRICH_SERVICE_TOKEN_FILE",
  "ENRICH_DATABASE_PATH",
  "ENRICH_MAX_BATCH_SIZE",
  "ENRICH_MAX_REQUEST_BYTES",
  "ENRICH_MAX_CONCURRENT_REQUESTS",
  "ENRICH_MAX_SHARED_LOOKUPS",
  "ENRICH_MAX_OUTBOUND_REQUESTS",
  "ENRICH_REQUEST_TIMEOUT_MS",
  "ENRICH_LOOKUP_TIMEOUT_MS",
  "ENRICH_PROVIDER_TIMEOUT_MS",
  "ENRICH_CONNECT_TIMEOUT_MS",
  "ENRICH_RESPONSE_WRITE_TIMEOUT_MS",
  "ENRICH_STORAGE_TIMEOUT_MS",
  "ENRICH_SHUTDOWN_GRACE_MS",
  "ENRICH_MAX_PROVIDER_BYTES",
  "ENRICH_MAX_RAW_RESPONSE_BYTES",
  "ENRICH_CACHE_MAX_ENTRIES",
  "ENRICH_CACHE_MAX_BYTES",
  "ENRICH_CACHE_IP_TTL_SECONDS",
  "ENRICH_CACHE_URL_TTL_SECONDS",
  "ENRICH_CACHE_HASH_TTL_SECONDS",
  "ENRICH_CACHE_NOT_FOUND_TTL_SECONDS",
  "ENRICH_LOG_LEVEL",
  "ENRICH_ABUSEIPDB_ENABLED",
  "ENRICH_ABUSEIPDB_API_KEY",
  "ENRICH_ABUSEIPDB_API_KEY_FILE",
  "ENRICH_ABUSEIPDB_MAX_CONCURRENCY",
  "ENRICH_ABUSEIPDB_REQUESTS_PER_MINUTE",
  "ENRICH_ABUSEIPDB_REQUESTS_PER_DAY",
  "ENRICH_ABUSEIPDB_MAX_AGE_DAYS",
  "ENRICH_VIRUSTOTAL_ENABLED",
  "ENRICH_VIRUSTOTAL_API_KEY",
  "ENRICH_VIRUSTOTAL_API_KEY_FILE",
  "ENRICH_VIRUSTOTAL_MAX_CONCURRENCY",
  "ENRICH_VIRUSTOTAL_REQUESTS_PER_MINUTE",
  "ENRICH_VIRUSTOTAL_REQUESTS_PER_DAY"]

/-! ### Readers -/

/-- A setting or its default. -/
def valueOr (get : Lookup) (setting default : String) : String := (get setting).getD default

/-- The conversion of a `u64` or `usize`. -/
def asUInt64 (number : Nat) : Option UInt64 :=
  if number < 18446744073709551616 then some (.ofNat number) else none

/-- A number of 16 bits. -/
def asUInt16 (number : Nat) : Option UInt16 :=
  if number < 65536 then some (.ofNat number) else none

/-- `number`, at the type of a conversion. -/
def number {α : Type} (convert : Nat → Option α) (get : Lookup) (setting : String)
    (default : α) : Except ConfigError α :=
  match get setting with
  | none => .ok default
  | some value =>
      if value = "" ∨ !value.toList.all Char.isDigit then
        .error ⟨setting, "expected an unsigned decimal integer"⟩
      else
        match convert (Nat.ofDigitChars 10 value.toList 0) with
        | some parsed => .ok parsed
        | none => .error ⟨setting, "integer is out of range"⟩

/-- A flag, off by default. -/
def boolean (get : Lookup) (setting : String) : Except ConfigError Bool :=
  match get setting with
  | none => .ok false
  | some value =>
      if value = "false" then .ok false
      else if value = "true" then .ok true
      else .error ⟨setting, "expected true or false"⟩

/-- A timeout. -/
def milliseconds (get : Lookup) (setting : String) (default : UInt64) :
    Except ConfigError Duration :=
  (number asUInt64 get setting default).map .fromMillis

/-- A lifetime. -/
def seconds (get : Lookup) (setting : String) (default : UInt64) :
    Except ConfigError Duration :=
  (number asUInt64 get setting default).map .fromSecs

/-- `strip_suffix`. -/
def stripSuffix (suffix : List Char) (text : String) : Option String :=
  if suffix <:+ text.toList then
    some (.ofList (text.toList.take (text.toList.length - suffix.length)))
  else none

/-- One line ending is taken off a secret file, and nothing else. -/
def stripLineEnding (text : String) : String :=
  (stripSuffix ['\r', '\n'] text).getD
    ((stripSuffix ['\n'] text).getD ((stripSuffix ['\r'] text).getD text))

/-- A check fails with its error. -/
def Check.run (check : Check) : Except ConfigError Unit :=
  if check.passes then .ok () else .error check.error

/-- The text of a secret, and what is reported where there is none to read. -/
def loadSecret (host : Host) (get : Lookup) (valueSetting fileSetting : String) :
    Except ConfigError (Option String) :=
  match get valueSetting, get fileSetting with
  | some _, some _ =>
      .error ⟨valueSetting, "choose the value or its _FILE setting, never both"⟩
  | some value, none => .ok (some value)
  | none, some path =>
      match host.readToString path with
      | some text => .ok (some (stripLineEnding text))
      | none => .error ⟨fileSetting, "secret file must be readable UTF-8"⟩
  | none, none => .ok none

/-- A secret, from its setting or its file, that passes its check. -/
def readSecret (host : Host) (get : Lookup) (valueSetting fileSetting : String) :
    Except ConfigError (Option String) := do
  match ← loadSecret host get valueSetting fileSetting with
  | none => .ok none
  | some loaded =>
      (validateSecret host.toSurroundings loaded valueSetting).run
      .ok (some loaded)

/-- The address to listen at. -/
def bindAddress (get : Lookup) : Except ConfigError SocketAddr :=
  match SocketAddr.parse (valueOr get "ENRICH_BIND_ADDR" "127.0.0.1:8080") with
  | some address => .ok address
  | none => .error ⟨"ENRICH_BIND_ADDR", "expected an IP socket address"⟩

/-- The token that callers show. -/
def serviceToken (host : Host) (get : Lookup) : Except ConfigError String := do
  match ← readSecret host get "ENRICH_SERVICE_TOKEN" "ENRICH_SERVICE_TOKEN_FILE" with
  | some token => .ok token
  | none => .error ⟨"ENRICH_SERVICE_TOKEN", "secret is required"⟩

/-- What is supplied for every setting but the secrets, which have no default. -/
def BoundConfig.read (host : Host) (get : Lookup) : Except ConfigError BoundConfig := do
  let token ← serviceToken host get
  let bindAddr ← bindAddress get
  return {
    bindAddr
    serviceToken := token
    databasePath := valueOr get "ENRICH_DATABASE_PATH" "./data/rustenrich.sqlite"
    maxBatchSize := ← number asUInt64 get "ENRICH_MAX_BATCH_SIZE" 20
    maxRequestBytes := ← number asUInt64 get "ENRICH_MAX_REQUEST_BYTES" 131072
    maxConcurrentRequests := ← number asUInt64 get "ENRICH_MAX_CONCURRENT_REQUESTS" 32
    maxSharedLookups := ← number asUInt64 get "ENRICH_MAX_SHARED_LOOKUPS" 64
    maxOutboundRequests := ← number asUInt64 get "ENRICH_MAX_OUTBOUND_REQUESTS" 16
    requestTimeout := ← milliseconds get "ENRICH_REQUEST_TIMEOUT_MS" 15000
    lookupTimeout := ← milliseconds get "ENRICH_LOOKUP_TIMEOUT_MS" 12000
    providerTimeout := ← milliseconds get "ENRICH_PROVIDER_TIMEOUT_MS" 5000
    connectTimeout := ← milliseconds get "ENRICH_CONNECT_TIMEOUT_MS" 2000
    responseWriteTimeout := ← milliseconds get "ENRICH_RESPONSE_WRITE_TIMEOUT_MS" 5000
    storageTimeout := ← milliseconds get "ENRICH_STORAGE_TIMEOUT_MS" 1000
    shutdownGrace := ← milliseconds get "ENRICH_SHUTDOWN_GRACE_MS" 20000
    maxProviderBytes := ← number asUInt64 get "ENRICH_MAX_PROVIDER_BYTES" 1048576
    maxRawResponseBytes := ← number asUInt64 get "ENRICH_MAX_RAW_RESPONSE_BYTES" 8388608
    cacheMaxEntries := ← number asUInt64 get "ENRICH_CACHE_MAX_ENTRIES" 10000
    cacheMaxBytes := ← number asUInt64 get "ENRICH_CACHE_MAX_BYTES" 134217728
    cacheIpTtl := ← seconds get "ENRICH_CACHE_IP_TTL_SECONDS" 3600
    cacheUrlTtl := ← seconds get "ENRICH_CACHE_URL_TTL_SECONDS" 3600
    cacheHashTtl := ← seconds get "ENRICH_CACHE_HASH_TTL_SECONDS" 86400
    cacheNotFoundTtl := ← seconds get "ENRICH_CACHE_NOT_FOUND_TTL_SECONDS" 300
    logLevel := valueOr get "ENRICH_LOG_LEVEL" "info"
    abuseipdb := {
      enabled := ← boolean get "ENRICH_ABUSEIPDB_ENABLED"
      apiKey := ← readSecret host get "ENRICH_ABUSEIPDB_API_KEY" "ENRICH_ABUSEIPDB_API_KEY_FILE"
      maxConcurrency := ← number asUInt64 get "ENRICH_ABUSEIPDB_MAX_CONCURRENCY" 4
      requestsPerMinute := ← number asUInt64 get "ENRICH_ABUSEIPDB_REQUESTS_PER_MINUTE" 0
      requestsPerDay := ← number asUInt64 get "ENRICH_ABUSEIPDB_REQUESTS_PER_DAY" 1000 }
    virustotal := {
      enabled := ← boolean get "ENRICH_VIRUSTOTAL_ENABLED"
      apiKey :=
        ← readSecret host get "ENRICH_VIRUSTOTAL_API_KEY" "ENRICH_VIRUSTOTAL_API_KEY_FILE"
      maxConcurrency := ← number asUInt64 get "ENRICH_VIRUSTOTAL_MAX_CONCURRENCY" 4
      requestsPerMinute := ← number asUInt64 get "ENRICH_VIRUSTOTAL_REQUESTS_PER_MINUTE" 4
      requestsPerDay := ← number asUInt64 get "ENRICH_VIRUSTOTAL_REQUESTS_PER_DAY" 500 }
    abuseipdbMaxAgeDays := ← number asUInt16 get "ENRICH_ABUSEIPDB_MAX_AGE_DAYS" 30 }

/-- `name.starts_with("ENRICH_")`. -/
def isOurs (name : String) : Bool := "ENRICH_".toList <+: name.toList

/-- The source's `Config::from_map`. -/
def fromMap (host : Host) (values : Std.HashMap String String) :
    Except ConfigError BoundConfig := do
  if values.keys.any fun name => isOurs name ∧ name ∉ settings then
    throw ⟨"ENRICH_ configuration",
      "unknown setting; check the documented configuration names"⟩
  let result ← BoundConfig.read host fun name => values[name]?
  result.validate host.toSurroundings
  return result

/-- A name or a value as the system has it: a text, or what is shown of it. -/
inductive OsString
  | unicode (text : String)
  | other (lossy : String)

/-- The standard `OsString::to_string_lossy`. -/
def OsString.toStringLossy : OsString → String
  | .unicode text => text
  | .other lossy => lossy

/-- The standard `OsString::into_string`, with the error reported where it fails. -/
def OsString.intoString (message : String) : OsString → Except ConfigError String
  | .unicode text => .ok text
  | .other _ => .error ⟨"ENRICH_ configuration", message⟩

/-- The loop of `from_env`. -/
def collect (values : Std.HashMap String String) :
    List (OsString × OsString) → Except ConfigError (Std.HashMap String String)
  | [] => .ok values
  | (name, value) :: rest =>
      if !isOurs name.toStringLossy then collect values rest
      else do
        let name ← name.intoString "setting name must be UTF-8"
        let value ← value.intoString "setting value must be UTF-8"
        collect (values.insert name value) rest

/-- The source's `Config::from_env`. -/
def fromEnv (host : Host) (vars : List (OsString × OsString)) :
    Except ConfigError BoundConfig := do
  fromMap host (← collect ∅ vars)

/-! ### What is reported -/

/-- What a report can be about. -/
def subjects : List String :=
  settings ++ ["ENRICH_ configuration", "ENRICH_ timeouts", "ENRICH_ providers",
    "ENRICH_ABUSEIPDB", "ENRICH_VIRUSTOTAL"]

/-- What is reported of a setting. -/
def messages : List String := [
  "setting name must be UTF-8",
  "setting value must be UTF-8",
  "unknown setting; check the documented configuration names",
  "secret is required",
  "expected an IP socket address",
  "expected an unsigned decimal integer",
  "integer is out of range",
  "expected true or false",
  "choose the value or its _FILE setting, never both",
  "secret file must be readable UTF-8",
  "secret must be nonempty and valid in an HTTP header without line breaks",
  "requires at least 32 UTF-8 bytes",
  "must not be empty",
  "must be between 1 and 20",
  "must be positive",
  "capacity exceeds the semaphore limit",
  "total response size cannot be represented",
  "must be a positive representable deadline",
  "require connect <= provider <= lookup <= request",
  "must not exceed the lookup timeout",
  "duration cannot be represented",
  "expected error, warn, info, debug, or trace",
  "at least one provider must be enabled",
  "enabled provider requires an API key",
  "concurrency must be positive and not exceed global outbound capacity",
  "daily request budget must be positive",
  "quota must fit a signed 64-bit storage counter",
  "must be between 1 and 365"]

/-- A report of fixed texts. -/
structure ConfigError.Fixed (error : ConfigError) : Prop where
  setting : error.setting ∈ subjects
  message : error.message ∈ messages

/-- A known subject with a known message is fixed. -/
theorem ConfigError.Fixed.of {setting message : String} (listed : setting ∈ subjects)
    (known : message ∈ messages) : Fixed ⟨setting, message⟩ :=
  ⟨listed, known⟩

/-- Whatever fails is reported in fixed texts. -/
abbrev Redacted {α : Type} (result : Except ConfigError α) : Prop :=
  Reports ConfigError.Fixed result

section Redacted

variable {α : Type} {host : Host} {get : Lookup} {setting : String}

/-- A number reports fixed texts. -/
theorem redacted_number (convert : Nat → Option α) (default : α) (listed : setting ∈ subjects) :
    Redacted (number convert get setting default) := by
  unfold number
  split
  · exact .ok _
  · split
    · exact .error (.of listed (by decide))
    · split
      · exact .ok _
      · exact .error (.of listed (by decide))

/-- A flag reports fixed texts. -/
theorem redacted_boolean (listed : setting ∈ subjects) : Redacted (boolean get setting) := by
  unfold boolean
  split
  · exact .ok _
  · split_ifs
    · exact .ok _
    · exact .ok _
    · exact .error (.of listed (by decide))

/-- A check reports its error. -/
theorem redacted_check (check : Check) (fixed : check.error.Fixed) : Redacted check.run := by
  unfold Check.run
  split_ifs
  · exact .ok _
  · exact .error fixed

/-- A secret reports fixed texts. -/
theorem redacted_readSecret {file : String} (listed : setting ∈ subjects)
    (also : file ∈ subjects) : Redacted (readSecret host get setting file) := by
  unfold readSecret
  refine .bind ?_ fun loaded => ?_
  · unfold loadSecret
    split
    · exact .error (.of listed (by decide))
    · exact .ok _
    · split
      · exact .ok _
      · exact .error (.of also (by decide))
    · exact .ok _
  · split
    · exact .ok _
    · exact .bind (redacted_check _ (.of listed (by decide))) fun _ => .ok _

/-- Reading a configuration reports fixed texts. -/
theorem redacted_read (host : Host) (get : Lookup) : Redacted (BoundConfig.read host get) := by
  unfold BoundConfig.read milliseconds seconds
  refine .bind ?_ fun _ => ?_
  · unfold serviceToken
    refine .bind (redacted_readSecret (by decide) (by decide)) fun _ => ?_
    split
    · exact .ok _
    · exact .error (.of (by decide) (by decide))
  refine .bind ?_ fun _ => ?_
  · unfold bindAddress
    split
    · exact .ok _
    · exact .error (.of (by decide) (by decide))
  repeat'
    first
    | exact redacted_number _ _ (by decide)
    | exact (redacted_number _ _ (by decide)).map _
    | exact redacted_boolean (by decide)
    | exact redacted_readSecret (by decide) (by decide)
    | exact .ok _
    | refine .bind ?_ fun _ => ?_

/-- Validating a configuration reports fixed texts. -/
theorem redacted_validate (config : Config) (surroundings : Surroundings) :
    Redacted (config.validate surroundings) := by
  have secret : ∀ value setting, setting ∈ subjects →
      (validateSecret surroundings value setting).error.Fixed :=
    fun _ _ listed => .of listed (by decide)
  have providers : ∀ (provider : ProviderConfig) setting, setting ∈ subjects →
      ∀ check ∈ provider.checks surroundings config.maxOutboundRequests setting,
        check.error.Fixed := by
    intro provider setting listed check inside
    simp only [ProviderConfig.checks, List.mem_append, List.mem_cons, List.mem_map,
      List.not_mem_nil, or_false] at inside
    rcases inside with (rfl | ⟨value, _, rfl⟩) | rfl | rfl | rfl
    · exact .of listed (by decide)
    · exact secret value setting listed
    · exact .of listed (by decide)
    · exact .of listed (by decide)
    · exact .of listed (by decide)
  have fixed : ∀ check ∈ config.checks surroundings, check.error.Fixed := by
    simp only [Config.checks, Config.capacities, Config.semaphores, Config.timeouts, Config.ttls,
      List.map_cons, List.map_nil, List.forall_mem_append, List.forall_mem_cons]
    repeat' apply And.intro
    all_goals first
      | exact secret _ _ (by decide)
      | exact providers _ _ (by decide)
      | exact .of (by decide) (by decide)
      | exact List.forall_mem_nil _
  intro error failed
  unfold Config.validate at failed
  split at failed
  · rename_i check found
    cases failed
    exact fixed check (List.mem_of_find?_eq_some found)
  · cases failed

/-- Collecting the environment reports fixed texts. -/
theorem redacted_collect (vars : List (OsString × OsString)) :
    ∀ values, Redacted (collect values vars) := by
  induction vars with
  | nil => exact fun _ => .ok _
  | cons var rest ih =>
      intro values
      unfold collect
      split_ifs
      · exact ih values
      · refine .bind ?_ fun name => .bind ?_ fun value => ih _
        · cases var.1 with
          | unicode => exact .ok _
          | other => exact .error (.of (by decide) (by decide))
        · cases var.2 with
          | unicode => exact .ok _
          | other => exact .error (.of (by decide) (by decide))

/-- Reading a map reports fixed texts. -/
theorem redacted_fromMap (host : Host) (values : Std.HashMap String String) :
    Redacted (fromMap host values) := by
  unfold fromMap
  split_ifs
  · exact .bind (.error (.of (by decide) (by decide))) fun _ => .bind (redacted_read _ _) fun _ =>
      .bind (redacted_validate _ _) fun _ => .ok _
  · exact .bind (redacted_read _ _) fun _ => .bind (redacted_validate _ _) fun _ => .ok _

end Redacted

/-- **Nothing supplied is reported.** Whatever the environment of a process and the
files it names, a start that fails for its configuration says so in fixed texts. -/
theorem fromEnv_redacted (host : Host) (vars : List (OsString × OsString)) :
    Redacted (fromEnv host vars) :=
  .bind (redacted_collect vars ∅) (redacted_fromMap host)

/-! ### What is answered -/

/-- What is answered was read, and has passed its checks. -/
theorem fromMap_eq_ok {host : Host} {values : Std.HashMap String String} {config : BoundConfig}
    (accepted : fromMap host values = .ok config) :
    BoundConfig.read host (fun name => values[name]?) = .ok config ∧
      config.validate host.toSurroundings = .ok () := by
  unfold fromMap at accepted
  split_ifs at accepted
  · cases accepted
  · obtain ⟨result, read, accepted⟩ := bind_eq_ok.mp accepted
    obtain ⟨_, valid, accepted⟩ := bind_eq_ok.mp accepted
    cases accepted
    exact ⟨read, valid⟩

/-- What the environment is read as is valid. -/
theorem valid_of_fromEnv {host : Host} {vars : List (OsString × OsString)} {config : BoundConfig}
    (accepted : fromEnv host vars = .ok config) :
    config.validate host.toSurroundings = .ok () := by
  obtain ⟨values, _, accepted⟩ := bind_eq_ok.mp accepted
  exact (fromMap_eq_ok accepted).2

/-! ### The secrets of a valid configuration -/

/-- A valid configuration passes the checks of each provider. -/
theorem Config.passes_provider {config : Config} {surroundings : Surroundings}
    (valid : config.validate surroundings = .ok ()) (id : ProviderId) :
    ∃ setting, ∀ check ∈
        (config.provider id).checks surroundings config.maxOutboundRequests setting,
      check.passes = true := by
  cases id with
  | abuseipdb =>
      refine ⟨"ENRICH_ABUSEIPDB", fun check listed => passes_of_validate valid ?_⟩
      simp only [checks, List.mem_append]
      exact Or.inl (Or.inl (Or.inr listed))
  | virustotal =>
      refine ⟨"ENRICH_VIRUSTOTAL", fun check listed => passes_of_validate valid ?_⟩
      simp only [checks, List.mem_append]
      exact Or.inl (Or.inr listed)

/-- Every key passes, whatever it is reported as. -/
theorem Config.passes_apiKey {config : Config} {surroundings : Surroundings}
    (valid : config.validate surroundings = .ok ()) (id : ProviderId) (setting : String) :
    ∀ key ∈ (config.provider id).apiKey,
      (validateSecret surroundings key setting).passes = true := by
  intro key there
  obtain ⟨own, passes⟩ := passes_provider valid id
  have checked := passes (validateSecret surroundings key own)
    (by simp [ProviderConfig.checks, Option.mem_def.mp there])
  exact checked

end RustEnrich
