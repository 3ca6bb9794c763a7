import RustEnrich.Config.Environment

/-!
# What settings can say

Supplying the default of an absent setting changes nothing. The configurations that
settings can say are exactly the valid ones with timeouts of whole milliseconds and
lifetimes of whole seconds.
-/

namespace RustEnrich

open Fallible

/-! ### Defaults -/

/-- The settings that have a default, with a text of it. -/
def defaults : List (String × String) := [
  ("ENRICH_BIND_ADDR", "127.0.0.1:8080"),
  ("ENRICH_DATABASE_PATH", "./data/rustenrich.sqlite"),
  ("ENRICH_MAX_BATCH_SIZE", "20"),
  ("ENRICH_MAX_REQUEST_BYTES", "131072"),
  ("ENRICH_MAX_CONCURRENT_REQUESTS", "32"),
  ("ENRICH_MAX_SHARED_LOOKUPS", "64"),
  ("ENRICH_MAX_OUTBOUND_REQUESTS", "16"),
  ("ENRICH_REQUEST_TIMEOUT_MS", "15000"),
  ("ENRICH_LOOKUP_TIMEOUT_MS", "12000"),
  ("ENRICH_PROVIDER_TIMEOUT_MS", "5000"),
  ("ENRICH_CONNECT_TIMEOUT_MS", "2000"),
  ("ENRICH_RESPONSE_WRITE_TIMEOUT_MS", "5000"),
  ("ENRICH_STORAGE_TIMEOUT_MS", "1000"),
  ("ENRICH_SHUTDOWN_GRACE_MS", "20000"),
  ("ENRICH_MAX_PROVIDER_BYTES", "1048576"),
  ("ENRICH_MAX_RAW_RESPONSE_BYTES", "8388608"),
  ("ENRICH_CACHE_MAX_ENTRIES", "10000"),
  ("ENRICH_CACHE_MAX_BYTES", "134217728"),
  ("ENRICH_CACHE_IP_TTL_SECONDS", "3600"),
  ("ENRICH_CACHE_URL_TTL_SECONDS", "3600"),
  ("ENRICH_CACHE_HASH_TTL_SECONDS", "86400"),
  ("ENRICH_CACHE_NOT_FOUND_TTL_SECONDS", "300"),
  ("ENRICH_LOG_LEVEL", "info"),
  ("ENRICH_ABUSEIPDB_ENABLED", "false"),
  ("ENRICH_ABUSEIPDB_MAX_CONCURRENCY", "4"),
  ("ENRICH_ABUSEIPDB_REQUESTS_PER_MINUTE", "0"),
  ("ENRICH_ABUSEIPDB_REQUESTS_PER_DAY", "1000"),
  ("ENRICH_ABUSEIPDB_MAX_AGE_DAYS", "30"),
  ("ENRICH_VIRUSTOTAL_ENABLED", "false"),
  ("ENRICH_VIRUSTOTAL_MAX_CONCURRENCY", "4"),
  ("ENRICH_VIRUSTOTAL_REQUESTS_PER_MINUTE", "4"),
  ("ENRICH_VIRUSTOTAL_REQUESTS_PER_DAY", "500")]

/-- The text of a default. -/
def defaultText (setting : String) : Option String := defaults.lookup setting

/-- Every absent setting supplied. -/
def Lookup.filled (get : Lookup) : Lookup := fun setting => (get setting).or (defaultText setting)

section Filled

variable {get : Lookup} {setting text : String}

/-- A default that is written out reads as one that is left out. -/
theorem valueOr_filled (default : defaultText setting = some text) :
    valueOr get.filled setting text = valueOr get setting text := by
  unfold valueOr Lookup.filled
  rw [default]
  cases get setting <;> rfl

/-- A default number that is written out reads as one that is left out. -/
theorem number_filled {α : Type} [DecidableEq α] {convert : Nat → Option α} {parsed : α}
    (default : (defaultText setting).any (fun text => text ≠ "" ∧
      text.toList.all Char.isDigit ∧
        convert (Nat.ofDigitChars 10 text.toList 0) = some parsed) = true) :
    number convert get.filled setting parsed = number convert get setting parsed := by
  obtain ⟨text, listed, plain⟩ := (Option.any_eq_true _ _).mp default
  obtain ⟨nonempty, digits, reads⟩ := of_decide_eq_true plain
  unfold number Lookup.filled
  rw [listed]
  cases get setting with
  | some value => rfl
  | none => simp [nonempty, digits, reads]

/-- A default flag that is written out reads as one that is left out. -/
theorem boolean_filled (default : defaultText setting = some "false") :
    boolean get.filled setting = boolean get setting := by
  unfold boolean Lookup.filled
  rw [default]
  cases get setting <;> rfl

/-- Secrets have no default. -/
theorem readSecret_filled {host : Host} {file : String} (required : defaultText setting = none)
    (alike : defaultText file = none) :
    readSecret host get.filled setting file = readSecret host get setting file := by
  unfold readSecret loadSecret Lookup.filled
  rw [required, alike, Option.or_none, Option.or_none]

/-- Writing the defaults out changes no reading. -/
theorem read_filled (host : Host) (get : Lookup) :
    BoundConfig.read host get.filled = BoundConfig.read host get := by
  unfold BoundConfig.read serviceToken bindAddress milliseconds seconds
  simp (disch := decide +kernel) only [readSecret_filled, valueOr_filled, number_filled,
    boolean_filled]

end Filled

/-- What has a default is a setting. -/
theorem mem_settings_of_default {setting text : String} (listed : defaultText setting = some text) :
    setting ∈ settings := by
  have known : ∀ pair ∈ defaults, pair.1 ∈ settings := by decide +kernel
  obtain ⟨front, back, split_, _⟩ := List.lookup_eq_some_iff.mp listed
  exact known (setting, text) (split_ ▸ List.mem_append_right _ List.mem_cons_self)

/-- **Defaults.** To supply the default of an absent setting is to leave it out, whatever
else is supplied and whether or not the whole is accepted. -/
theorem fromMap_insert_default (host : Host) (values : Std.HashMap String String)
    (setting text : String) (absent : values[setting]? = none)
    (listed : defaultText setting = some text) :
    fromMap host (values.insert setting text) = fromMap host values := by
  have known := mem_settings_of_default listed
  have unknown : ((values.insert setting text).keys.any
      fun name => isOurs name ∧ name ∉ settings) =
        values.keys.any fun name => isOurs name ∧ name ∉ settings := by
    rw [Bool.eq_iff_iff, List.any_eq_true, List.any_eq_true]
    simp only [Std.HashMap.mem_keys, Std.HashMap.mem_insert, beq_iff_eq, decide_eq_true_eq]
    constructor
    · rintro ⟨name, rfl | there, ours, other⟩
      · exact absurd known other
      · exact ⟨name, there, ours, other⟩
    · rintro ⟨name, there, rest⟩
      exact ⟨name, Or.inr there, rest⟩
  have filled : Lookup.filled (fun name => (values.insert setting text)[name]?) =
      Lookup.filled (fun name => values[name]?) := by
    funext name
    unfold Lookup.filled
    dsimp only
    rw [Std.HashMap.getElem?_insert]
    by_cases same : setting = name
    · subst same
      rw [absent, listed]
      simp
    · simp [same]
  unfold fromMap
  rw [unknown, ← read_filled host fun name => (values.insert setting text)[name]?, filled,
    read_filled]

/-- The batch size of the default, next to a secret that is in a file. -/
theorem fromMap_insert_default_batch :
    let host : Host := ⟨.plain, fun _ => some "a-token-of-at-least-32-bytes-in-a-file\n"⟩
    let values : Std.HashMap String String := .ofList [("ENRICH_SERVICE_TOKEN_FILE", "token")]
    values["ENRICH_MAX_BATCH_SIZE"]? = none ∧
      fromMap host (values.insert "ENRICH_MAX_BATCH_SIZE" "20") = fromMap host values := by
  intro host values
  have absent : values["ENRICH_MAX_BATCH_SIZE"]? = none := by simp [values]
  exact ⟨absent, fromMap_insert_default host values _ _ absent (by decide +kernel)⟩

/-! ### What is read -/

/-- What settings cannot say otherwise. -/
structure BoundConfig.Whole (config : BoundConfig) : Prop where
  timeouts : ∀ timeout ∈ config.timeouts.map Prod.snd, ∃ millis, timeout = .fromMillis millis
  ttls : ∀ ttl ∈ config.ttls.map Prod.snd, ∃ seconds, ttl = .fromSecs seconds
  address : ∃ text, SocketAddr.parse text = some config.bindAddr

section Yields

variable {get : Lookup} {setting : String}

/-- A timeout that is read is in whole milliseconds. -/
theorem milliseconds_ok {default : UInt64} {duration : Duration}
    (answered : milliseconds get setting default = .ok duration) :
    ∃ millis, duration = .fromMillis millis := by
  unfold milliseconds at answered
  cases read : number asUInt64 get setting default with
  | error => rw [read] at answered; cases answered
  | ok millis => rw [read] at answered; cases answered; exact ⟨millis, rfl⟩

/-- A lifetime that is read is in whole seconds. -/
theorem seconds_ok {default : UInt64} {duration : Duration}
    (answered : seconds get setting default = .ok duration) :
    ∃ seconds, duration = .fromSecs seconds := by
  unfold seconds at answered
  cases read : number asUInt64 get setting default with
  | error => rw [read] at answered; cases answered
  | ok seconds => rw [read] at answered; cases answered; exact ⟨seconds, rfl⟩

/-- An address that is read has a text. -/
theorem bindAddress_ok {address : SocketAddr} (answered : bindAddress get = .ok address) :
    ∃ text, SocketAddr.parse text = some address := by
  unfold bindAddress at answered
  split at answered
  · rename_i parsed
    cases answered
    exact ⟨_, parsed⟩
  · cases answered

/-- What is read is in whole units and has a text for its address. -/
theorem whole_read (host : Host) (get : Lookup) :
    Yields BoundConfig.Whole (BoundConfig.read host get) := by
  unfold BoundConfig.read
  refine .bind fun _ _ => .bind fun _ bound => ?_
  refine .bind fun _ _ => .bind fun _ _ => .bind fun _ _ => .bind fun _ _ => .bind fun _ _ => ?_
  refine .bind fun _ request => .bind fun _ lookup => .bind fun _ provider => ?_
  refine .bind fun _ connect => .bind fun _ write => .bind fun _ storage => ?_
  refine .bind fun _ grace => ?_
  refine .bind fun _ _ => .bind fun _ _ => .bind fun _ _ => .bind fun _ _ => ?_
  refine .bind fun _ ip => .bind fun _ url => .bind fun _ hash => .bind fun _ notFound => ?_
  refine .bind fun _ _ => .bind fun _ _ => .bind fun _ _ => .bind fun _ _ => .bind fun _ _ => ?_
  refine .bind fun _ _ => .bind fun _ _ => .bind fun _ _ => .bind fun _ _ => .bind fun _ _ => ?_
  refine .bind fun _ _ => .ok ⟨?_, ?_, bindAddress_ok bound⟩
  · simp only [Config.timeouts, List.map_cons, List.map_nil, List.forall_mem_cons]
    exact ⟨milliseconds_ok request, milliseconds_ok lookup, milliseconds_ok provider,
      milliseconds_ok connect, milliseconds_ok write, milliseconds_ok storage,
      milliseconds_ok grace, List.forall_mem_nil _⟩
  · simp only [Config.ttls, List.map_cons, List.map_nil, List.forall_mem_cons]
    exact ⟨seconds_ok ip, seconds_ok url, seconds_ok hash, seconds_ok notFound,
      List.forall_mem_nil _⟩

end Yields

/-! ### What can be read -/

/-- A setting for every part of a configuration, where the address is bound under a text
of it. -/
def BoundConfig.written (config : BoundConfig) (address : String) : List (String × String) :=
  let millis (timeout : Duration) := (timeout.nanos / 1000000).repr
  let seconds (ttl : Duration) := (ttl.nanos / secondNanos).repr
  [("ENRICH_BIND_ADDR", address),
    ("ENRICH_SERVICE_TOKEN", config.serviceToken),
    ("ENRICH_DATABASE_PATH", config.databasePath),
    ("ENRICH_MAX_BATCH_SIZE", config.maxBatchSize.toNat.repr),
    ("ENRICH_MAX_REQUEST_BYTES", config.maxRequestBytes.toNat.repr),
    ("ENRICH_MAX_CONCURRENT_REQUESTS", config.maxConcurrentRequests.toNat.repr),
    ("ENRICH_MAX_SHARED_LOOKUPS", config.maxSharedLookups.toNat.repr),
    ("ENRICH_MAX_OUTBOUND_REQUESTS", config.maxOutboundRequests.toNat.repr),
    ("ENRICH_REQUEST_TIMEOUT_MS", millis config.requestTimeout),
    ("ENRICH_LOOKUP_TIMEOUT_MS", millis config.lookupTimeout),
    ("ENRICH_PROVIDER_TIMEOUT_MS", millis config.providerTimeout),
    ("ENRICH_CONNECT_TIMEOUT_MS", millis config.connectTimeout),
    ("ENRICH_RESPONSE_WRITE_TIMEOUT_MS", millis config.responseWriteTimeout),
    ("ENRICH_STORAGE_TIMEOUT_MS", millis config.storageTimeout),
    ("ENRICH_SHUTDOWN_GRACE_MS", millis config.shutdownGrace),
    ("ENRICH_MAX_PROVIDER_BYTES", config.maxProviderBytes.toNat.repr),
    ("ENRICH_MAX_RAW_RESPONSE_BYTES", config.maxRawResponseBytes.toNat.repr),
    ("ENRICH_CACHE_MAX_ENTRIES", config.cacheMaxEntries.toNat.repr),
    ("ENRICH_CACHE_MAX_BYTES", config.cacheMaxBytes.toNat.repr),
    ("ENRICH_CACHE_IP_TTL_SECONDS", seconds config.cacheIpTtl),
    ("ENRICH_CACHE_URL_TTL_SECONDS", seconds config.cacheUrlTtl),
    ("ENRICH_CACHE_HASH_TTL_SECONDS", seconds config.cacheHashTtl),
    ("ENRICH_CACHE_NOT_FOUND_TTL_SECONDS", seconds config.cacheNotFoundTtl),
    ("ENRICH_LOG_LEVEL", config.logLevel),
    ("ENRICH_ABUSEIPDB_ENABLED", toString config.abuseipdb.enabled),
    ("ENRICH_ABUSEIPDB_MAX_CONCURRENCY", config.abuseipdb.maxConcurrency.toNat.repr),
    ("ENRICH_ABUSEIPDB_REQUESTS_PER_MINUTE", config.abuseipdb.requestsPerMinute.toNat.repr),
    ("ENRICH_ABUSEIPDB_REQUESTS_PER_DAY", config.abuseipdb.requestsPerDay.toNat.repr),
    ("ENRICH_ABUSEIPDB_MAX_AGE_DAYS", config.abuseipdbMaxAgeDays.toNat.repr),
    ("ENRICH_VIRUSTOTAL_ENABLED", toString config.virustotal.enabled),
    ("ENRICH_VIRUSTOTAL_MAX_CONCURRENCY", config.virustotal.maxConcurrency.toNat.repr),
    ("ENRICH_VIRUSTOTAL_REQUESTS_PER_MINUTE", config.virustotal.requestsPerMinute.toNat.repr),
    ("ENRICH_VIRUSTOTAL_REQUESTS_PER_DAY", config.virustotal.requestsPerDay.toNat.repr)] ++
  config.abuseipdb.apiKey.toList.map (("ENRICH_ABUSEIPDB_API_KEY", ·)) ++
  config.virustotal.apiKey.toList.map (("ENRICH_VIRUSTOTAL_API_KEY", ·))

/-- What is supplied. -/
def BoundConfig.supplied (config : BoundConfig) (address : String) : Std.HashMap String String :=
  .ofList (config.written address)

section Written

variable {config : BoundConfig} {address setting text : String} {get : Lookup}

/-- The settings that are always supplied, in the order in which they are written. -/
def unconditional : List String := [
  "ENRICH_BIND_ADDR",
  "ENRICH_SERVICE_TOKEN",
  "ENRICH_DATABASE_PATH",
  "ENRICH_MAX_BATCH_SIZE",
  "ENRICH_MAX_REQUEST_BYTES",
  "ENRICH_MAX_CONCURRENT_REQUESTS",
  "ENRICH_MAX_SHARED_LOOKUPS",
  "ENRICH_MAX_OUTBOUND_REQUESTS",
  "ENRICH_REQUEST_TIMEOUT_MS",
  "ENRICH_LOOKUP_TIMEOUT_MS",
  "ENRICH_PROVIDER_TIMEOUT_MS",
  "ENRICH_CONNECT_TIMEOUT_MS",
  "ENRICH_RESPONSE_WRITE_TIMEOUT_MS",
  "ENRICH_STORAGE_TIMEOUT_MS",
  "ENRICH_SHUTDOWN_GRACE_MS",
  "ENRICH_MAX_PROVIDER_BYTES",
  "ENRICH_MAX_RAW_RESPONSE_BYTES",
  "ENRICH_CACHE_MAX_ENTRIES",
  "ENRICH_CACHE_MAX_BYTES",
  "ENRICH_CACHE_IP_TTL_SECONDS",
  "ENRICH_CACHE_URL_TTL_SECONDS",
  "ENRICH_CACHE_HASH_TTL_SECONDS",
  "ENRICH_CACHE_NOT_FOUND_TTL_SECONDS",
  "ENRICH_LOG_LEVEL",
  "ENRICH_ABUSEIPDB_ENABLED",
  "ENRICH_ABUSEIPDB_MAX_CONCURRENCY",
  "ENRICH_ABUSEIPDB_REQUESTS_PER_MINUTE",
  "ENRICH_ABUSEIPDB_REQUESTS_PER_DAY",
  "ENRICH_ABUSEIPDB_MAX_AGE_DAYS",
  "ENRICH_VIRUSTOTAL_ENABLED",
  "ENRICH_VIRUSTOTAL_MAX_CONCURRENCY",
  "ENRICH_VIRUSTOTAL_REQUESTS_PER_MINUTE",
  "ENRICH_VIRUSTOTAL_REQUESTS_PER_DAY"]

/-- The settings that are written are distinct and no files. -/
theorem unconditional_settings :
    (unconditional ++ ["ENRICH_ABUSEIPDB_API_KEY", "ENRICH_VIRUSTOTAL_API_KEY"]).Nodup ∧
      ∀ setting ∈ unconditional ++ ["ENRICH_ABUSEIPDB_API_KEY", "ENRICH_VIRUSTOTAL_API_KEY"],
        setting ∈ settings ∧ setting ≠ "ENRICH_SERVICE_TOKEN_FILE" ∧
          setting ≠ "ENRICH_ABUSEIPDB_API_KEY_FILE" ∧
            setting ≠ "ENRICH_VIRUSTOTAL_API_KEY_FILE" := by
  decide +kernel

/-- The names under which a configuration is written. -/
theorem written_names (config : BoundConfig) (address : String) :
    (config.written address).map Prod.fst = unconditional ++
      (config.abuseipdb.apiKey.toList.map (fun _ => "ENRICH_ABUSEIPDB_API_KEY") ++
        config.virustotal.apiKey.toList.map fun _ => "ENRICH_VIRUSTOTAL_API_KEY") := by
  unfold BoundConfig.written
  cases config.abuseipdb.apiKey <;> cases config.virustotal.apiKey <;> rfl

/-- A configuration is written in the order of the settings. -/
theorem written_sublist (config : BoundConfig) (address : String) :
    ((config.written address).map Prod.fst).Sublist
      (unconditional ++ ["ENRICH_ABUSEIPDB_API_KEY", "ENRICH_VIRUSTOTAL_API_KEY"]) := by
  have once : ∀ (key : Option String) (name : String),
      (key.toList.map fun _ => name).Sublist [name] := by
    intro key name
    cases key with
    | none => exact List.nil_sublist _
    | some key => exact .refl _
  rw [written_names]
  exact (List.Sublist.refl unconditional).append ((once _ _).append (once _ _))

/-- It writes no setting twice. -/
theorem written_nodup (config : BoundConfig) (address : String) :
    ((config.written address).map Prod.fst).Nodup :=
  unconditional_settings.1.sublist (written_sublist config address)

/-- It writes settings alone, and no files. -/
theorem written_settings (member : setting ∈ (config.written address).map Prod.fst) :
    setting ∈ settings ∧ setting ≠ "ENRICH_SERVICE_TOKEN_FILE" ∧
      setting ≠ "ENRICH_ABUSEIPDB_API_KEY_FILE" ∧ setting ≠ "ENRICH_VIRUSTOTAL_API_KEY_FILE" :=
  unconditional_settings.2 setting ((written_sublist config address).subset member)

/-- A key that there is not is not written. -/
theorem written_keys (config : BoundConfig) (address : String) :
    (config.abuseipdb.apiKey = none →
        "ENRICH_ABUSEIPDB_API_KEY" ∉ (config.written address).map Prod.fst) ∧
      (config.virustotal.apiKey = none →
        "ENRICH_VIRUSTOTAL_API_KEY" ∉ (config.written address).map Prod.fst) := by
  have apart := List.nodup_append.mp unconditional_settings.1
  rw [written_names]
  constructor
  · intro none_ member
    rw [none_] at member
    rcases List.mem_append.mp member with fixed | key
    · exact apart.2.2 _ fixed _ List.mem_cons_self rfl
    · cases config.virustotal.apiKey <;> simp at key
  · intro none_ member
    rw [none_] at member
    rcases List.mem_append.mp member with fixed | key
    · exact apart.2.2 _ fixed _ (List.mem_cons_of_mem _ List.mem_cons_self) rfl
    · cases config.abuseipdb.apiKey <;> simp at key

/-- What is written is found. -/
theorem get_written (member : (setting, text) ∈ config.written address) :
    (config.supplied address)[setting]? = some text := by
  have distinct : (config.written address).Pairwise fun left right => (left.1 == right.1) = false :=
    by
    refine (List.pairwise_map.mp (written_nodup config address)).imp fun differs => ?_
    simpa using differs
  exact Std.HashMap.getElem?_ofList_of_mem (beq_self_eq_true setting) distinct member

/-- What is not written is not found. -/
theorem get_unwritten (absent : setting ∉ (config.written address).map Prod.fst) :
    (config.supplied address)[setting]? = none := by
  apply Std.HashMap.getElem?_ofList_of_contains_eq_false
  simpa using absent

/-- A number is read back from its digits. -/
theorem number_repr {α : Type} {convert : Nat → Option α} {default value : α} {parsed : Nat}
    (supplied : get setting = some parsed.repr) (converts : convert parsed = some value) :
    number convert get setting default = .ok value := by
  have digits : parsed.repr.toList.all Char.isDigit = true := by
    rw [Nat.toList_repr, List.all_eq_true]
    exact fun digit member => Nat.isDigit_of_mem_toDigits (by decide) (by decide) member
  have nonempty : parsed.repr ≠ "" := by
    intro empty
    have none_ := congrArg String.toList empty
    rw [Nat.toList_repr] at none_
    exact Nat.toDigits_ne_nil none_
  unfold number
  rw [supplied]
  simp only [nonempty, digits, Bool.not_true, Bool.false_eq_true, or_self, if_false]
  rw [Nat.toList_repr, Nat.ofDigitChars_ten_toDigits, converts]

/-- A number of 64 bits fits 64 bits. -/
theorem asUInt64_toNat (value : UInt64) : asUInt64 value.toNat = some value := by
  unfold asUInt64
  rw [if_pos value.toNat_lt, UInt64.ofNat_toNat]

/-- A number of 16 bits fits 16 bits. -/
theorem asUInt16_toNat (value : UInt16) : asUInt16 value.toNat = some value := by
  unfold asUInt16
  rw [if_pos value.toNat_lt, UInt16.ofNat_toNat]

/-- A timeout is read back from its milliseconds. -/
theorem milliseconds_repr {default : UInt64} {timeout : Duration}
    (supplied : get setting = some (timeout.nanos / 1000000).repr)
    (whole : ∃ millis, timeout = .fromMillis millis) :
    milliseconds get setting default = .ok timeout := by
  obtain ⟨millis, rfl⟩ := whole
  have parsed : (Duration.fromMillis millis).nanos / 1000000 = millis.toNat :=
    Nat.mul_div_cancel _ (by decide)
  rw [parsed] at supplied
  unfold milliseconds
  rw [number_repr supplied (asUInt64_toNat millis)]
  rfl

/-- A lifetime is read back from its seconds. -/
theorem seconds_repr {default : UInt64} {ttl : Duration}
    (supplied : get setting = some (ttl.nanos / secondNanos).repr)
    (whole : ∃ seconds, ttl = .fromSecs seconds) :
    seconds get setting default = .ok ttl := by
  obtain ⟨amount, rfl⟩ := whole
  have parsed : (Duration.fromSecs amount).nanos / secondNanos = amount.toNat :=
    Nat.mul_div_cancel _ (by decide)
  rw [parsed] at supplied
  unfold seconds
  rw [number_repr supplied (asUInt64_toNat amount)]
  rfl

/-- A flag is read back from its name. -/
theorem boolean_toString {value : Bool} (supplied : get setting = some (toString value)) :
    boolean get setting = .ok value := by
  unfold boolean
  rw [supplied]
  cases value <;> rfl

/-- What is supplied is read. -/
theorem valueOr_supplied {default : String} (supplied : get setting = some text) :
    valueOr get setting default = text := by
  unfold valueOr
  rw [supplied]
  rfl

/-- A secret that passes its check is read. -/
theorem readSecret_supplied {host : Host} {file : String} (supplied : get setting = some text)
    (alone : get file = none)
    (passes : (validateSecret host.toSurroundings text setting).passes = true) :
    readSecret host get setting file = .ok (some text) := by
  unfold readSecret loadSecret Check.run
  rw [supplied, alone]
  simp only [bind, Except.bind, passes, if_true]

/-- A secret that is not supplied is not read. -/
theorem readSecret_absent {host : Host} {file : String} (absent : get setting = none)
    (alone : get file = none) : readSecret host get setting file = .ok none := by
  unfold readSecret loadSecret
  rw [absent, alone]
  rfl

/-- The key of a provider is read back. -/
theorem readSecret_written {host : Host} {file : String} {key : Option String}
    (present : ∀ text ∈ key, get setting = some text) (absent : key = none → get setting = none)
    (alone : get file = none)
    (passes : ∀ text ∈ key, (validateSecret host.toSurroundings text setting).passes = true) :
    readSecret host get setting file = .ok key := by
  cases key with
  | none => exact readSecret_absent (absent rfl) alone
  | some text => exact readSecret_supplied (present text rfl) alone (passes text rfl)

end Written

section Reading

variable {host : Host} {config : BoundConfig} {address : String}

/-- What is written is read back. -/
theorem read_written (whole : config.Whole)
    (parses : SocketAddr.parse address = some config.bindAddr)
    (valid : config.validate host.toSurroundings = .ok ()) :
    BoundConfig.read host (fun name => (config.supplied address)[name]?) = .ok config := by
  obtain ⟨noAbuse, noVirus⟩ := written_keys config address
  have noTokenFile : "ENRICH_SERVICE_TOKEN_FILE" ∉ (config.written address).map Prod.fst :=
    fun member => (written_settings member).2.1 rfl
  have noAbuseFile : "ENRICH_ABUSEIPDB_API_KEY_FILE" ∉ (config.written address).map Prod.fst :=
    fun member => (written_settings member).2.2.1 rfl
  have noVirusFile : "ENRICH_VIRUSTOTAL_API_KEY_FILE" ∉ (config.written address).map Prod.fst :=
    fun member => (written_settings member).2.2.2 rfl
  have token : (validateSecret host.toSurroundings config.serviceToken
      "ENRICH_SERVICE_TOKEN").passes = true :=
    Config.passes_of_validate valid (by simp [Config.checks])
  have abuse := Config.passes_apiKey valid .abuseipdb "ENRICH_ABUSEIPDB_API_KEY"
  have virus := Config.passes_apiKey valid .virustotal "ENRICH_VIRUSTOTAL_API_KEY"
  obtain ⟨timeouts, ttls, _⟩ := whole
  let get : Lookup := fun name => (config.supplied address)[name]?
  have text : ∀ {setting text}, (setting, text) ∈ config.written address →
      get setting = some text := get_written
  have natural : ∀ setting (value default : UInt64),
      (setting, value.toNat.repr) ∈ config.written address →
        number asUInt64 get setting default = .ok value :=
    fun _ value _ member => number_repr (text member) (asUInt64_toNat value)
  have small : ∀ setting (value default : UInt16),
      (setting, value.toNat.repr) ∈ config.written address →
        number asUInt16 get setting default = .ok value :=
    fun _ value _ member => number_repr (text member) (asUInt16_toNat value)
  have timed : ∀ setting timeout default,
      (setting, (timeout.nanos / 1000000).repr) ∈ config.written address →
        timeout ∈ config.timeouts.map Prod.snd →
          milliseconds get setting default = .ok timeout :=
    fun _ timeout _ member listed => milliseconds_repr (text member) (timeouts timeout listed)
  have lived : ∀ setting ttl default,
      (setting, (ttl.nanos / secondNanos).repr) ∈ config.written address →
        ttl ∈ config.ttls.map Prod.snd → seconds get setting default = .ok ttl :=
    fun _ ttl _ member listed => seconds_repr (text member) (ttls ttl listed)
  have enabled : ∀ setting value, (setting, toString value) ∈ config.written address →
      boolean get setting = .ok value :=
    fun _ _ member => boolean_toString (text member)
  have plain : ∀ setting default value, (setting, value) ∈ config.written address →
      valueOr get setting default = value :=
    fun _ _ _ member => valueOr_supplied (text member)
  change BoundConfig.read host get = .ok config
  unfold BoundConfig.read serviceToken bindAddress
  rw [
    readSecret_supplied (text (by simp [BoundConfig.written])) (get_unwritten noTokenFile) token,
    plain "ENRICH_BIND_ADDR" _ address (by simp [BoundConfig.written]), parses,
    plain "ENRICH_DATABASE_PATH" _ config.databasePath (by simp [BoundConfig.written]),
    natural "ENRICH_MAX_BATCH_SIZE" config.maxBatchSize _ (by simp [BoundConfig.written]),
    natural "ENRICH_MAX_REQUEST_BYTES" config.maxRequestBytes _ (by simp [BoundConfig.written]),
    natural "ENRICH_MAX_CONCURRENT_REQUESTS" config.maxConcurrentRequests _
      (by simp [BoundConfig.written]),
    natural "ENRICH_MAX_SHARED_LOOKUPS" config.maxSharedLookups _ (by simp [BoundConfig.written]),
    natural "ENRICH_MAX_OUTBOUND_REQUESTS" config.maxOutboundRequests _
      (by simp [BoundConfig.written]),
    timed "ENRICH_REQUEST_TIMEOUT_MS" config.requestTimeout _
      (by simp [BoundConfig.written]) (by simp [Config.timeouts]),
    timed "ENRICH_LOOKUP_TIMEOUT_MS" config.lookupTimeout _
      (by simp [BoundConfig.written]) (by simp [Config.timeouts]),
    timed "ENRICH_PROVIDER_TIMEOUT_MS" config.providerTimeout _
      (by simp [BoundConfig.written]) (by simp [Config.timeouts]),
    timed "ENRICH_CONNECT_TIMEOUT_MS" config.connectTimeout _
      (by simp [BoundConfig.written]) (by simp [Config.timeouts]),
    timed "ENRICH_RESPONSE_WRITE_TIMEOUT_MS" config.responseWriteTimeout _
      (by simp [BoundConfig.written]) (by simp [Config.timeouts]),
    timed "ENRICH_STORAGE_TIMEOUT_MS" config.storageTimeout _
      (by simp [BoundConfig.written]) (by simp [Config.timeouts]),
    timed "ENRICH_SHUTDOWN_GRACE_MS" config.shutdownGrace _
      (by simp [BoundConfig.written]) (by simp [Config.timeouts]),
    natural "ENRICH_MAX_PROVIDER_BYTES" config.maxProviderBytes _ (by simp [BoundConfig.written]),
    natural "ENRICH_MAX_RAW_RESPONSE_BYTES" config.maxRawResponseBytes _
      (by simp [BoundConfig.written]),
    natural "ENRICH_CACHE_MAX_ENTRIES" config.cacheMaxEntries _ (by simp [BoundConfig.written]),
    natural "ENRICH_CACHE_MAX_BYTES" config.cacheMaxBytes _ (by simp [BoundConfig.written]),
    lived "ENRICH_CACHE_IP_TTL_SECONDS" config.cacheIpTtl _
      (by simp [BoundConfig.written]) (by simp [Config.ttls]),
    lived "ENRICH_CACHE_URL_TTL_SECONDS" config.cacheUrlTtl _
      (by simp [BoundConfig.written]) (by simp [Config.ttls]),
    lived "ENRICH_CACHE_HASH_TTL_SECONDS" config.cacheHashTtl _
      (by simp [BoundConfig.written]) (by simp [Config.ttls]),
    lived "ENRICH_CACHE_NOT_FOUND_TTL_SECONDS" config.cacheNotFoundTtl _
      (by simp [BoundConfig.written]) (by simp [Config.ttls]),
    plain "ENRICH_LOG_LEVEL" _ config.logLevel (by simp [BoundConfig.written]),
    enabled "ENRICH_ABUSEIPDB_ENABLED" config.abuseipdb.enabled (by simp [BoundConfig.written]),
    readSecret_written
      (fun key there => text (by simp [BoundConfig.written, Option.mem_def.mp there]))
      (fun none_ => get_unwritten (noAbuse none_)) (get_unwritten noAbuseFile) abuse,
    natural "ENRICH_ABUSEIPDB_MAX_CONCURRENCY" config.abuseipdb.maxConcurrency _
      (by simp [BoundConfig.written]),
    natural "ENRICH_ABUSEIPDB_REQUESTS_PER_MINUTE" config.abuseipdb.requestsPerMinute _
      (by simp [BoundConfig.written]),
    natural "ENRICH_ABUSEIPDB_REQUESTS_PER_DAY" config.abuseipdb.requestsPerDay _
      (by simp [BoundConfig.written]),
    enabled "ENRICH_VIRUSTOTAL_ENABLED" config.virustotal.enabled (by simp [BoundConfig.written]),
    readSecret_written
      (fun key there => text (by simp [BoundConfig.written, Option.mem_def.mp there]))
      (fun none_ => get_unwritten (noVirus none_)) (get_unwritten noVirusFile) virus,
    natural "ENRICH_VIRUSTOTAL_MAX_CONCURRENCY" config.virustotal.maxConcurrency _
      (by simp [BoundConfig.written]),
    natural "ENRICH_VIRUSTOTAL_REQUESTS_PER_MINUTE" config.virustotal.requestsPerMinute _
      (by simp [BoundConfig.written]),
    natural "ENRICH_VIRUSTOTAL_REQUESTS_PER_DAY" config.virustotal.requestsPerDay _
      (by simp [BoundConfig.written]),
    small "ENRICH_ABUSEIPDB_MAX_AGE_DAYS" config.abuseipdbMaxAgeDays _
      (by simp [BoundConfig.written])]
  rfl

end Reading

/-- **What settings can say.** A configuration can be read from some settings exactly if
it is valid, its timeouts are whole milliseconds, its lifetimes whole seconds, and its
address has a text. The path of the database is one that is a text. -/
theorem fromMap_ok_iff (host : Host) (config : BoundConfig) :
    (∃ values, fromMap host values = .ok config) ↔
      config.validate host.toSurroundings = .ok () ∧ config.Whole := by
  constructor
  · rintro ⟨values, accepted⟩
    obtain ⟨read, valid⟩ := fromMap_eq_ok accepted
    exact ⟨valid, whole_read host _ config read⟩
  · rintro ⟨valid, whole⟩
    obtain ⟨address, parses⟩ := whole.address
    have known : ¬ ((config.supplied address).keys.any
        fun name => isOurs name ∧ name ∉ settings) = true := by
      rw [List.any_eq_true]
      rintro ⟨name, there, unknown⟩
      rw [Std.HashMap.mem_keys, BoundConfig.supplied, Std.HashMap.mem_ofList] at there
      exact (of_decide_eq_true unknown).2
        (written_settings (by simpa using there)).1
    refine ⟨config.supplied address, ?_⟩
    unfold fromMap
    rw [if_neg known, read_written whole parses valid]
    simp only [bind, Except.bind, pure, Except.pure, valid]

end RustEnrich
