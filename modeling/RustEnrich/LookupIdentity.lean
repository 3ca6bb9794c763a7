import RustEnrich.Validation.Canonical
import RustEnrich.Http.Deduplication
import RustEnrich.Storage.Cache

/-!
# The identity of a lookup

The key a lookup is cached and shared under is the digest of a JSON tuple. Two
lookups have one tuple text exactly if they ask equal adapters about the same
indicator, and then exactly if their request treats them as one.
-/

namespace RustEnrich.Enrichment

open Serialization Http

/-- The fields of an `Adapter` its cache identity is made of. Only tests override
the payload version. -/
structure AdapterOptions where
  id : ProviderId
  maxAgeDays : UInt16
  payloadVersionOverride : Option UInt32

namespace AdapterOptions

/-- The source's `Adapter::payload_version`. -/
def payloadVersion (adapter : AdapterOptions) : UInt32 := adapter.payloadVersionOverride.getD 1

/-- The options of an adapter that its answers depend on. -/
def cacheOptions (adapter : AdapterOptions) : Value :=
  match adapter.id with
  | .abuseipdb => .object [
      ("max_age_days", serializeU64 adapter.maxAgeDays.toUInt64), ("verbose", .bool false)]
  | .virustotal => .object []

end AdapterOptions

/-- The tuple of `cache_key`. -/
def cacheTuple (adapter : AdapterOptions) (indicator : ValidatedIndicator) : Value :=
  .array [
    adapter.id.serialize,
    serializeU64 adapter.payloadVersion.toUInt64,
    indicator.input.kind.serialize,
    nullable HashAlgorithm.serialize indicator.hashAlgorithm,
    .string indicator.lookupValue,
    adapter.cacheOptions]

/-- The bytes `cache_key` hashes. -/
def cacheBytes (serializer : Serializer) (adapter : AdapterOptions)
    (indicator : ValidatedIndicator) : List UInt8 :=
  serializer.toVec (cacheTuple adapter indicator)

/-- `{:x}` of a digest. -/
def lowerHex (digest : List UInt8) : String :=
  .ofList (digest.flatMap fun byte => [(byte.toNat / 16).digitChar, (byte.toNat % 16).digitChar])

/-- The source's `Adapter::cache_key`. -/
def cacheKey (serializer : Serializer) (sha256 : List UInt8 → List UInt8)
    (adapter : AdapterOptions) (indicator : ValidatedIndicator) : String :=
  lowerHex (sha256 (cacheBytes serializer adapter indicator))

/-- The adapters of a service, by their provider. -/
structure AdapterSet where
  adapter : ProviderId → Option AdapterOptions
  keyed : ∀ provider options, adapter provider = some options → options.id = provider

/-- What `lookup` is asked for a slot. -/
def AdapterSet.lookupRequest (adapters : AdapterSet) (serializer : Serializer)
    (sha256 : List UInt8 → List UInt8) (pair : Pair) : LookupRequest where
  provider := pair.1
  kind := pair.2.input.kind
  cacheKey := (adapters.adapter pair.1).map fun adapter =>
    cacheKey serializer sha256 adapter pair.2

/-! ### Tuples -/

/-- The options have integers alone. -/
theorem integral_cacheOptions (adapter : AdapterOptions) : Integral adapter.cacheOptions := by
  unfold AdapterOptions.cacheOptions
  cases adapter.id with
  | abuseipdb =>
      apply Integral.object
      intro member inside
      simp only [List.mem_cons, List.not_mem_nil, or_false] at inside
      rcases inside with rfl | rfl
      · exact .number _
      · exact .bool _
  | virustotal =>
      apply Integral.object
      intro member inside
      cases inside

/-- The tuple has integers alone. -/
theorem integral_cacheTuple (adapter : AdapterOptions) (indicator : ValidatedIndicator) :
    Integral (cacheTuple adapter indicator) := by
  apply Integral.array
  intro value inside
  simp only [List.mem_cons, List.not_mem_nil, or_false] at inside
  rcases inside with rfl | rfl | rfl | rfl | rfl | rfl
  · exact .string _
  · exact .number _
  · exact .string _
  · cases indicator.hashAlgorithm with
    | none => exact .null
    | some algorithm => exact .string _
  · exact .string _
  · exact integral_cacheOptions adapter

/-- The name tells the kind. -/
theorem kind_asStr_injective : Function.Injective IndicatorKind.asStr := by
  intro left right same
  cases left <;> cases right <;> first | rfl | exact absurd same (by decide)

/-- The name tells the algorithm. -/
theorem algorithm_asStr_injective : Function.Injective HashAlgorithm.asStr := by
  intro left right same
  cases left <;> cases right <;> first | rfl | exact absurd same (by decide)

/-- What is written of an algorithm tells it. -/
theorem algorithm_serialize_inj {left right : Option HashAlgorithm}
    (same : nullable HashAlgorithm.serialize left = nullable HashAlgorithm.serialize right) :
    left = right := by
  cases left with
  | none =>
      cases right with
      | none => rfl
      | some algorithm => cases same
  | some algorithm =>
      cases right with
      | none => cases same
      | some other => rw [algorithm_asStr_injective (Value.string.inj same)]

variable {serializer : Serializer} {left right : AdapterOptions} {first second : ValidatedIndicator}

/-- Each place of a tuple can be told. -/
theorem cacheTuple_inj : cacheTuple left first = cacheTuple right second ↔
    left.id = right.id ∧ left.payloadVersion = right.payloadVersion ∧
      left.cacheOptions = right.cacheOptions ∧ first.input.kind = second.input.kind ∧
      first.hashAlgorithm = second.hashAlgorithm ∧ first.lookupValue = second.lookupValue := by
  constructor
  · intro same
    simp only [cacheTuple, Value.array.injEq, List.cons.injEq, and_true] at same
    obtain ⟨id, version, kind, algorithm, lookupValue, options⟩ := same
    have number := Number.posInt.inj (Value.number.inj version)
    refine ⟨?_, ?_, options, ?_, algorithm_serialize_inj algorithm, Value.string.inj lookupValue⟩
    · exact Storage.CacheEntry.asStr_injective (Value.string.inj id)
    · exact UInt32.toUInt64_inj.mp number
    · exact kind_asStr_injective (Value.string.inj kind)
  · intro ⟨id, version, options, kind, algorithm, lookupValue⟩
    rw [cacheTuple, id, version, options, kind, algorithm, lookupValue, cacheTuple]

/-- The bytes tell the tuple. -/
theorem cacheBytes_inj : cacheBytes serializer left first = cacheBytes serializer right second ↔
    cacheTuple left first = cacheTuple right second :=
  text_inj (integral_cacheTuple left first) (integral_cacheTuple right second)

/-! ### Keys -/

/-- The character tells the digit. -/
theorem digitChar_inj : ∀ left < 16, ∀ right < 16, left.digitChar = right.digitChar →
    left = right := by
  decide

/-- The hexadecimal text tells the bytes. -/
theorem lowerHex_injective : Function.Injective lowerHex := by
  intro left right same
  have chars := String.ofList_inj.mp same
  clear same
  induction left generalizing right with
  | nil =>
      cases right with
      | nil => rfl
      | cons byte right => cases chars
  | cons byte left ih =>
      cases right with
      | nil => cases chars
      | cons other right =>
          simp only [List.flatMap_cons, List.cons_append, List.nil_append,
            List.cons.injEq] at chars
          obtain ⟨high, low, rest⟩ := chars
          have bound := byte.toNat_lt
          have limit := other.toNat_lt
          have front := digitChar_inj _ (by omega) _ (by omega) high
          have back := digitChar_inj _ (by omega) _ (by omega) low
          have bytes : byte = other := UInt8.toNat_inj.mp (by omega)
          rw [bytes, ih rest]

variable {adapters : AdapterSet} {sha256 : List UInt8 → List UInt8} {config : LookupConfig}

/-- A flight of a slot is under the key of its adapter. -/
theorem flightKey_ok {pair : Pair} {key : FlightKey}
    (accepted : flightKey config (adapters.lookupRequest serializer sha256 pair) = .ok key) :
    ∃ adapter, adapters.adapter pair.1 = some adapter ∧
      key = { provider := pair.1, cacheKey := cacheKey serializer sha256 adapter pair.2 } := by
  unfold flightKey at accepted
  split at accepted
  · cases accepted
  split at accepted
  · cases accepted
  split at accepted
  · cases accepted
  · rename_i text keyed
    cases accepted
    obtain ⟨adapter, here, rfl⟩ := Option.map_eq_some_iff.mp keyed
    exact ⟨adapter, here, rfl⟩

/-- Slots of one request share a lookup exactly if they share a flight. -/
theorem identity_iff {one other : Pair} {key join : FlightKey}
    (accepted : flightKey config (adapters.lookupRequest serializer sha256 one) = .ok key)
    (joins : flightKey config (adapters.lookupRequest serializer sha256 other) = .ok join)
    (collisionFree : ∀ left right, adapters.adapter one.1 = some left →
      adapters.adapter other.1 = some right →
      sha256 (cacheBytes serializer left one.2) = sha256 (cacheBytes serializer right other.2) →
      cacheBytes serializer left one.2 = cacheBytes serializer right other.2) :
    identity one = identity other ↔ key = join := by
  obtain ⟨left, mine, rfl⟩ := flightKey_ok accepted
  obtain ⟨right, theirs, rfl⟩ := flightKey_ok joins
  constructor
  · intro same
    obtain ⟨provider, kind, algorithm, lookupValue⟩ := Identity.mk.inj same
    rw [provider, theirs] at mine
    cases mine
    have tuples : cacheTuple left one.2 = cacheTuple left other.2 :=
      cacheTuple_inj.mpr ⟨rfl, rfl, rfl, kind, algorithm, lookupValue⟩
    rw [provider, cacheKey, cacheBytes, tuples, cacheKey, cacheBytes]
  · intro same
    obtain ⟨provider, keys⟩ := FlightKey.mk.inj same
    have bytes := collisionFree left right mine theirs (lowerHex_injective keys)
    obtain ⟨_, _, _, kind, algorithm, lookupValue⟩ :=
      cacheTuple_inj.mp (cacheBytes_inj.mp bytes)
    rw [identity, provider, kind, algorithm, lookupValue, identity]

/-- **Lookup identity.** The bytes hashed for two accepted values are equal if
and only if the adapters agree and the values denote one indicator of one kind;
a lookup value is accepted and looked up by itself; and under any set of
adapters, unless digests collide, a request shares the lookup of two slots
exactly where their flights are one. -/
theorem lookup_identity {parser : UrlParser} {kind other : IndicatorKind} {value text : String}
    (valid : validateIndicator parser kind value = .ok first)
    (accepted : validateIndicator parser other text = .ok second) :
    (∀ left right, cacheBytes serializer left first = cacheBytes serializer right second ↔
      (left.id = right.id ∧ left.payloadVersion = right.payloadVersion ∧
        left.cacheOptions = right.cacheOptions) ∧ kind = other ∧ SameIndicator kind value text) ∧
    validateIndicator parser kind first.lookupValue = .ok {
      input := { kind, value := first.lookupValue }
      lookupValue := first.lookupValue
      hashAlgorithm := first.hashAlgorithm } ∧
    ∀ (adapters : AdapterSet) (sha256 : List UInt8 → List UInt8) (config : LookupConfig)
      (provider again : ProviderId) (key join : FlightKey),
      flightKey config (adapters.lookupRequest serializer sha256 (provider, first)) = .ok key →
      flightKey config (adapters.lookupRequest serializer sha256 (again, second)) = .ok join →
      (∀ left right, adapters.adapter provider = some left → adapters.adapter again = some right →
        sha256 (cacheBytes serializer left first) = sha256 (cacheBytes serializer right second) →
        cacheBytes serializer left first = cacheBytes serializer right second) →
      (identity (provider, first) = identity (again, second) ↔ key = join) := by
  obtain ⟨_, input, looksUp⟩ := validateIndicator_eq_ok.mp valid
  obtain ⟨_, inputs, looksUps⟩ := validateIndicator_eq_ok.mp accepted
  refine ⟨?_, validateIndicator_lookupValue valid, ?_⟩
  · intro left right
    rw [cacheBytes_inj, cacheTuple_inj, input, inputs]
    constructor
    · intro ⟨id, version, options, sameKind, algorithm, lookupValue⟩
      dsimp only at sameKind
      subst sameKind
      exact ⟨⟨id, version, options⟩, rfl, (looksUp.same_iff looksUps).mp ⟨lookupValue, algorithm⟩⟩
    · intro ⟨⟨id, version, options⟩, sameKind, same⟩
      subst sameKind
      obtain ⟨lookupValue, algorithm⟩ := (looksUp.same_iff looksUps).mpr same
      exact ⟨id, version, options, rfl, algorithm, lookupValue⟩
  · intro adapters sha256 config provider again key join starts joins collisionFree
    exact identity_iff starts joins collisionFree

/-! ### Two spellings of an address -/

/-- An address written out. -/
def longSpelling : ValidatedIndicator where
  input := { kind := .ip, value := "2001:0DB8:0:0:0:0:0:1" }
  lookupValue := "2001:db8::1"
  hashAlgorithm := none

/-- The same address in its short form. -/
def shortSpelling : ValidatedIndicator where
  input := { kind := .ip, value := "2001:db8::1" }
  lookupValue := "2001:db8::1"
  hashAlgorithm := none

/-- The address both are. -/
def spelledAddress : IpAddr := .v6 #v[0x2001, 0xdb8, 0, 0, 0, 0, 0, 1]

/-- It is valid. -/
theorem longSpelling_valid :
    validateIndicator (fun _ => none) .ip "2001:0DB8:0:0:0:0:0:1" = .ok longSpelling := by
  have read : IpAddr.parse "2001:0DB8:0:0:0:0:0:1" = some spelledAddress := by decide +kernel
  have text : spelledAddress.toString = "2001:db8::1" := by decide +kernel
  refine validateIndicator_eq_ok.mpr ⟨⟨by decide, by decide, ?_⟩, rfl, ?_⟩
  · exact printable_of_all (by decide +kernel)
  · change LooksUp _ .ip _ "2001:db8::1" none
    rw [← text]
    exact .ip read

/-- So is the short form. -/
theorem shortSpelling_valid :
    validateIndicator (fun _ => none) .ip "2001:db8::1" = .ok shortSpelling :=
  validateIndicator_lookupValue longSpelling_valid

/-- An adapter of AbuseIPDB. -/
def thirtyDays : AdapterOptions where
  id := .abuseipdb
  maxAgeDays := 30
  payloadVersionOverride := none

/-- A service of one adapter. -/
def abuseipdbOnly : AdapterSet where
  adapter provider := if provider = .abuseipdb then some thirtyDays else none
  keyed := by
    intro provider options here
    split at here
    · rename_i same
      cases here
      exact same.symm
    · cases here

/-- A service with this provider alone. -/
def abuseipdbConfig : LookupConfig where
  maxSharedLookups := 1
  enabled provider := provider = .abuseipdb

/-- An address is looked up by its cache key. -/
theorem abuseipdbOnly_flight {indicator : ValidatedIndicator}
    (address : indicator.input.kind = .ip) :
    flightKey abuseipdbConfig
        (abuseipdbOnly.lookupRequest serializer sha256 (.abuseipdb, indicator)) =
      .ok {
        provider := .abuseipdb
        cacheKey := cacheKey serializer sha256 thirtyDays indicator } := by
  unfold flightKey AdapterSet.lookupRequest
  dsimp only
  rw [address]
  rfl

/-- A serializer for documents without floats and times. -/
def plainSerializer : Serializer := .whole (fun _ => "") fun _ => ""

/-- Both spellings are one lookup. -/
theorem lookup_identity_spellings :
    (∀ adapter, cacheBytes plainSerializer adapter longSpelling =
      cacheBytes plainSerializer adapter shortSpelling) ∧
    (identity (.abuseipdb, longSpelling) = identity (.abuseipdb, shortSpelling) ↔
      cacheKey plainSerializer id thirtyDays longSpelling =
        cacheKey plainSerializer id thirtyDays shortSpelling) := by
  have read : IpAddr.parse "2001:0DB8:0:0:0:0:0:1" = some spelledAddress := by decide +kernel
  have reads : IpAddr.parse "2001:db8::1" = some spelledAddress := by decide +kernel
  obtain ⟨bytes, _, flights⟩ :=
    @lookup_identity plainSerializer _ _ _ _ _ _ _ longSpelling_valid shortSpelling_valid
  have shared := flights abuseipdbOnly id abuseipdbConfig .abuseipdb .abuseipdb _ _
    (abuseipdbOnly_flight rfl) (abuseipdbOnly_flight rfl) fun _ _ _ _ same => same
  constructor
  · intro adapter
    exact (bytes adapter adapter).mpr ⟨⟨rfl, rfl, rfl⟩, rfl, .ip read reads⟩
  · rw [shared, FlightKey.mk.injEq, eq_self, true_and]

end RustEnrich.Enrichment
