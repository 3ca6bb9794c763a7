import RustEnrich.Serialization.Contract
import RustEnrich.Enrichment.Lookup

/-!
# The response envelope

`project` assembles the envelope without raw values and chooses those that fit
the budget on the way, measures what it has, and only then writes the envelope
with the chosen values in their places.
-/

namespace RustEnrich.Http

open Serialization Enrichment

/-- The most bytes beside the raw data. -/
def envelopeLimit : Nat := 1024 * 1024

/-- What an entry tells of the cache. -/
structure Cache where
  hit : Bool
  expiresAt : Option DateTime

/-- What came of one pair. -/
structure ProviderEntry where
  provider : ProviderId
  status : Status
  summary : Option Summary
  fetchedAt : Option DateTime
  providerUpdatedAt : Option DateTime
  cache : Cache
  error : Option PublicError
  raw : Option Value
  rawOmittedReason : Option String

/-- What came of one indicator. -/
structure ResultItem where
  index : Nat
  input : InputIndicator
  lookupValue : String
  providers : List ProviderEntry

/-- The answer of a lookup request. -/
structure Envelope where
  requestId : String
  results : List ResultItem

/-! ### Serialization -/

/-- A field with `skip_serializing_if = "Option::is_none"`. -/
def skippable {α : Type} (name : String) (serialize : α → Value) :
    Option α → List (String × Value)
  | none => []
  | some value => [(name, serialize value)]

section Serialize

variable (serializer : Serializer)

/-- Whether it was a hit, and until when. -/
def Cache.serialize (cache : Cache) : Value :=
  .object [
    ("hit", .bool cache.hit),
    ("expires_at", nullable serializer.dateTime cache.expiresAt)]

/-- The fields that are always there. -/
def ProviderEntry.required (entry : ProviderEntry) : List (String × Value) := [
  ("provider", entry.provider.serialize),
  ("status", entry.status.serialize),
  ("summary", nullable serializer.summary entry.summary),
  ("fetched_at", nullable serializer.dateTime entry.fetchedAt),
  ("provider_updated_at", nullable serializer.dateTime entry.providerUpdatedAt),
  ("cache", entry.cache.serialize serializer),
  ("error", nullable PublicError.serialize entry.error)]

/-- The fields of an entry, without those it skips. -/
def ProviderEntry.serialize (entry : ProviderEntry) : Value :=
  .object (entry.required serializer ++ skippable "raw" id entry.raw ++
    skippable "raw_omitted_reason" .string entry.rawOmittedReason)

/-- The fields of an item. -/
def ResultItem.serialize (item : ResultItem) : Value :=
  .object [
    ("index", serializeU64 (.ofNat item.index)),
    ("input", item.input.serialize),
    ("lookup_value", .string item.lookupValue),
    ("providers", .array (item.providers.map (ProviderEntry.serialize serializer)))]

/-- The fields of the answer. -/
def Envelope.serialize (envelope : Envelope) : Value :=
  .object [
    ("request_id", .string envelope.requestId),
    ("results", .array (envelope.results.map (ResultItem.serialize serializer)))]

end Serialize

/-! ### The first pass -/

/-- The running variables of `project`: what is left of the budget and of the
outcomes, the raw value chosen for each slot, and how many there are. -/
structure Pass where
  remaining : Nat
  entries : List LookupResult
  rawValues : List (Option Value)
  selected : Nat

/-- What `project` decides on the raw value of a slot. -/
structure RawChoice where
  raw : Option Value
  reason : Option String
  remaining : Nat

/-- `none` where the length of the value cannot be counted. -/
def chooseRaw (serializer : Serializer) (includeRaw : Bool) (remaining : Nat)
    (outcome : Outcome) : Option RawChoice :=
  if !includeRaw then
    some { raw := none, reason := none, remaining }
  else
    match outcome.raw with
    | some value =>
        match serializer.toWriter CountingWriter.write ⟨0⟩ value with
        | none => none
        | some counter =>
            if counter.count ≤ remaining then
              some { raw := some value, reason := none, remaining := remaining - counter.count }
            else
              some { raw := none, reason := some "response_size_limit", remaining }
    | none => some { raw := none, reason := some "not_available", remaining }

/-- The entry of a slot, before the raw values are put in. -/
def providerEntry (provider : ProviderId) (result : LookupResult) (reason : Option String) :
    ProviderEntry where
  provider
  status := result.outcome.status
  summary := result.outcome.summary
  fetchedAt := result.outcome.fetchedAt
  providerUpdatedAt := result.outcome.providerUpdatedAt
  cache := { hit := result.cacheHit, expiresAt := result.expiresAt }
  error := result.outcome.error
  raw := none
  rawOmittedReason := reason

/-- The loop over the providers of one indicator. -/
def projectProviders (serializer : Serializer) (includeRaw : Bool) :
    List ProviderId → Pass → Except ErrorCode (List ProviderEntry × Pass)
  | [], pass => .ok ([], pass)
  | provider :: rest, pass =>
      match pass.entries with
      | [] => .error .internalError
      | result :: entries =>
          match chooseRaw serializer includeRaw pass.remaining result.outcome with
          | none => .error .responseTooLarge
          | some choice =>
              let next : Pass := {
                remaining := choice.remaining
                entries
                rawValues := pass.rawValues ++ [choice.raw]
                selected := pass.selected + if choice.raw.isSome then 1 else 0 }
              match projectProviders serializer includeRaw rest next with
              | .error code => .error code
              | .ok (providers, last) =>
                  .ok (providerEntry provider result choice.reason :: providers, last)

/-- The loop over the indicators. -/
def projectResults (serializer : Serializer) (request : ValidatedRequest) :
    Nat → List ValidatedIndicator → Pass → Except ErrorCode (List ResultItem × Pass)
  | _, [], pass => .ok ([], pass)
  | index, indicator :: rest, pass =>
      match projectProviders serializer request.includeRaw request.providers pass with
      | .error code => .error code
      | .ok (providers, next) =>
          match projectResults serializer request (index + 1) rest next with
          | .error code => .error code
          | .ok (results, last) =>
              .ok ({
                index
                input := indicator.input
                lookupValue := indicator.lookupValue
                providers } :: results, last)

/-- The envelope that is measured, and the state the loops leave. -/
def measured (serializer : Serializer) (id : String) (request : ValidatedRequest)
    (outcomes : List LookupResult) (rawBudget : Nat) : Except ErrorCode (Envelope × Pass) :=
  let start : Pass :=
    { remaining := rawBudget, entries := outcomes, rawValues := [], selected := 0 }
  match projectResults serializer request 0 request.indicators start with
  | .error code => .error code
  | .ok (results, pass) => .ok ({ requestId := id, results }, pass)

/-! ### The second pass -/

/-- The zip of the entries of one result with the raw values, and the values
left for the results after it. -/
def fillProviders : List ProviderEntry → List (Option Value) →
    List ProviderEntry × List (Option Value)
  | [], raws => ([], raws)
  | entry :: entries, [] => (entry :: entries, [])
  | entry :: entries, raw :: raws =>
      let (rest, left) := fillProviders entries raws
      ({ entry with raw } :: rest, left)

/-- The raw data is put into the items. -/
def fillResults : List ResultItem → List (Option Value) → List ResultItem
  | [], _ => []
  | item :: items, raws =>
      let (providers, left) := fillProviders item.providers raws
      { item with providers } :: fillResults items left

/-- The raw data is put into the answer. -/
def Envelope.fill (envelope : Envelope) (raws : List (Option Value)) : Envelope :=
  { envelope with results := fillResults envelope.results raws }

/-! ### The whole -/

/-- A budget of raw bytes. `Config::validate` rejects one whose sum with the
envelope limit cannot be represented. -/
structure RawBudget where
  bytes : Nat
  representable : bytes + envelopeLimit ≤ usizeMax

/-- `usize::saturating_add` and `usize::saturating_mul`. -/
def saturatingAddUsize (left right : Nat) : Nat := min usizeMax (left + right)
/-- The standard `usize::saturating_mul`. -/
def saturatingMulUsize (left right : Nat) : Nat := min usizeMax (left * right)

/-- The answer in bytes, or why there is none. -/
def project (serializer : Serializer) (id : String) (request : ValidatedRequest)
    (outcomes : List LookupResult) (rawBudget : RawBudget) : Except ErrorCode (List UInt8) :=
  match measured serializer id request outcomes rawBudget.bytes with
  | .error code => .error code
  | .ok (envelope, pass) =>
      match serializer.toWriter CountingWriter.write ⟨0⟩ (envelope.serialize serializer) with
      | none => .error .responseTooLarge
      | some counter =>
          if saturatingAddUsize counter.count (saturatingMulUsize pass.selected 7) >
              envelopeLimit then
            .error .responseTooLarge
          else
            let filled := envelope.fill pass.rawValues
            let limit := saturatingAddUsize envelopeLimit rawBudget.bytes
            match serializer.toWriter LimitedWriter.write (.new limit)
                (filled.serialize serializer) with
            | none => .error .responseTooLarge
            | some writer => .ok writer.bytes

end RustEnrich.Http
