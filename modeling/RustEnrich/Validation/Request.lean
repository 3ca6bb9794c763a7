import RustEnrich.Validation.Indicator
import RustEnrich.Serialization.Document
import Mathlib.Data.List.Sort
import Mathlib.Data.List.Destutter
import Mathlib.Order.Lattice

/-!
# Request validation

`validate_request` reads the body into a tree that rejects repeated keys, then
visits its fields in the submitted order, collecting details on the way. An
indicator that is not accepted is left out; what keeps it from getting lost is
that a detail is always reported then.
-/

namespace RustEnrich

open Serialization

/-- One thing that is wrong with a request, and where. -/
structure ValidationDetail where
  path : String
  code : String
  message : String
  deriving DecidableEq, Repr

/-- Why a request is rejected. -/
inductive RequestValidationError
  | invalidJson
  | semantic (details : List ValidationDetail)
  deriving DecidableEq, Repr

/-- What is kept of a document. -/
inductive RequestJson
  | null
  | bool (value : Bool)
  | number
  | string (value : String)
  | array (values : List RequestJson)
  | object (fields : List (String × RequestJson))

namespace RequestJson

mutual

/-- The visitor of `Deserialize`, over the events of a document. -/
def deserialize : Value → Option RequestJson
  | .null => some .null
  | .bool value => some (.bool value)
  | .number _ => some .number
  | .string value => some (.string value)
  | .array values => (visitSeq values).map .array
  | .object members => (visitMap [] members).map .object

/-- The values of an array, if each can be read. -/
def visitSeq : List Value → Option (List RequestJson)
  | [] => some []
  | value :: rest =>
      match deserialize value with
      | none => none
      | some json => (visitSeq rest).map (json :: ·)

/-- The loop of `visit_map`, with the keys read before. -/
def visitMap (keys : List String) :
    List (String × Value) → Option (List (String × RequestJson))
  | [] => some []
  | (key, value) :: rest =>
      if key ∈ keys then none
      else
        match deserialize value with
        | none => none
        | some json => (visitMap (key :: keys) rest).map ((key, json) :: ·)

end

/-- The text of a value, if it is one. -/
def asStr : RequestJson → Option String
  | .string value => some value
  | _ => none

end RequestJson

/-! ### Details -/

/-- `str::replace` of a character. -/
def replaceChar (target : Char) (replacement : String) (text : String) : String :=
  .ofList (text.toList.flatMap fun char =>
    if char = target then replacement.toList else [char])

/-- The path of a field. -/
def pointer (parent field : String) : String :=
  parent ++ "/" ++ replaceChar '/' "~1" (replaceChar '~' "~0" field)

/-- A detail is kept while there are fewer than 100. -/
def detail (details : List ValidationDetail) (path code message : String) :
    List ValidationDetail :=
  if details.length < 100 then details ++ [⟨path, code, message⟩] else details

/-- The detail of a wrong type. -/
def invalidType (details : List ValidationDetail) (path : String) : List ValidationDetail :=
  detail details path "invalid_type" "The field has an invalid JSON type."

/-- The detail of an unknown field. -/
def unknownField (details : List ValidationDetail) (path : String) : List ValidationDetail :=
  detail details path "unknown_field" "This request field is not supported."

/-- The detail of a missing field. -/
def required (details : List ValidationDetail) (path : String) : List ValidationDetail :=
  detail details path "required" "This field is required."

/-- A reported detail is never the last one to be forgotten: some is there. -/
@[simp] theorem detail_ne_nil (details : List ValidationDetail) (path code message : String) :
    detail details path code message ≠ [] := by
  unfold detail
  split
  · simp
  · rintro rfl
    contradiction

/-! ### Items -/

/-- The kind of a name. -/
def IndicatorKind.parse : String → Option IndicatorKind
  | "ip" => some .ip
  | "url" => some .url
  | "hash" => some .hash
  | _ => none

/-- The running variables of `validate_item`. -/
structure ItemScan where
  details : List ValidationDetail
  hasKind : Bool
  hasValue : Bool
  validated : Option ValidatedIndicator

/-- A field of an item is taken into its scan. -/
def visitItemField (parser : UrlParser) (path : String) (kind : Option IndicatorKind)
    (scan : ItemScan) (field : String × RequestJson) : ItemScan :=
  let fieldPath := pointer path field.1
  if field.1 = "type" then
    let details :=
      if field.2.asStr.isNone then invalidType scan.details fieldPath
      else if kind.isNone then
        detail scan.details fieldPath "invalid_indicator_type" "Expected ip, url, or hash."
      else scan.details
    { scan with details, hasKind := true }
  else if field.1 = "value" then
    let scan := { scan with hasValue := true }
    match field.2.asStr with
    | none => { scan with details := invalidType scan.details fieldPath }
    | some value =>
        if value = "" ∨ 4096 < value.utf8ByteSize then
          let details := detail scan.details fieldPath "invalid_value_length"
            "The value must contain between 1 and 4,096 UTF-8 bytes."
          { scan with details }
        else
          match kind with
          | none => scan
          | some kind =>
              match validateIndicator parser kind value with
              | .ok indicator => { scan with validated := some indicator }
              | .error (code, message) =>
                  { scan with details := detail scan.details fieldPath code message }
  else
    { scan with details := unknownField scan.details fieldPath }

/-- An item with its details. -/
def validateItem (parser : UrlParser) (item : RequestJson) (path : String)
    (details : List ValidationDetail) : Option ValidatedIndicator × List ValidationDetail :=
  match item with
  | .object fields =>
      -- The type is resolved first, but details follow the order of the fields.
      let kind := ((fields.find? fun field => field.1 = "type").bind fun field =>
        field.2.asStr).bind IndicatorKind.parse
      let scan := fields.foldl (visitItemField parser path kind)
        { details, hasKind := false, hasValue := false, validated := none }
      let details := if scan.hasKind then scan.details
        else required scan.details (pointer path "type")
      let details := if scan.hasValue then details else required details (pointer path "value")
      (scan.validated, details)
  | _ => (none, invalidType details path)

/-! ### Requests -/

/-- The provider of a name. -/
def ProviderId.parse : String → Option ProviderId
  | "abuseipdb" => some .abuseipdb
  | "virustotal" => some .virustotal
  | _ => none

/-- The place of a provider in the order of the declaration. -/
def ProviderId.rank : ProviderId → Nat
  | .abuseipdb => 0
  | .virustotal => 1

/-- The rank tells the provider. -/
theorem ProviderId.rank_injective : Function.Injective ProviderId.rank := by
  intro left right same
  cases left <;> cases right <;> first | rfl | cases same

instance : LinearOrder ProviderId := LinearOrder.lift' ProviderId.rank ProviderId.rank_injective

/-- `sort_unstable` and `dedup` on the enabled list. -/
def defaultProviders (enabled : List ProviderId) : List ProviderId :=
  (enabled.insertionSort (· ≤ ·)).destutter (· ≠ ·)

/-- The running variables of `validate_request`. -/
structure Draft where
  details : List ValidationDetail
  indicators : List ValidatedIndicator
  providers : List ProviderId
  includeRaw : Bool
  hasIndicators : Bool

/-- The loop over the items from an index on. -/
def visitItems (parser : UrlParser) (path : String) : Nat → List RequestJson →
    List ValidatedIndicator → List ValidationDetail →
    List ValidatedIndicator × List ValidationDetail
  | _, [], indicators, details => (indicators, details)
  | index, item :: rest, indicators, details =>
      let (validated, details) := validateItem parser item (pointer path index.repr) details
      visitItems parser path (index + 1) rest (indicators ++ validated.toList) details

/-- The loop over the providers from an index on, with those seen before. -/
def visitProviders (path : String) : Nat → List RequestJson → List ProviderId →
    List ValidationDetail → List ProviderId × List ValidationDetail
  | _, [], providers, details => (providers, details)
  | index, item :: rest, providers, details =>
      let itemPath := pointer path index.repr
      match item.asStr with
      | none => visitProviders path (index + 1) rest providers (invalidType details itemPath)
      | some value =>
          match ProviderId.parse value with
          | none =>
              visitProviders path (index + 1) rest providers
                (detail details itemPath "unknown_provider" "The provider ID is not recognized.")
          | some id =>
              if id ∈ providers then
                visitProviders path (index + 1) rest providers
                  (detail details itemPath "duplicate_provider"
                    "Provider IDs must not be repeated.")
              else
                visitProviders path (index + 1) rest (providers ++ [id]) details

/-- A field of the request is taken into its draft. -/
def visitField (parser : UrlParser) (maxBatch : Nat) (draft : Draft)
    (field : String × RequestJson) : Draft :=
  let path := pointer "" field.1
  if field.1 = "indicators" then
    let draft := { draft with hasIndicators := true }
    match field.2 with
    | .array items =>
        let details :=
          if items.length = 0 ∨ maxBatch < items.length then
            detail draft.details path "invalid_batch_size"
              "The indicator count is outside the permitted range."
          else draft.details
        let (indicators, details) := visitItems parser path 0 items draft.indicators details
        { draft with indicators, details }
    | _ => { draft with details := invalidType draft.details path }
  else if field.1 = "providers" then
    match field.2 with
    | .array items =>
        let details :=
          if items.length = 0 then
            detail draft.details path "empty_providers" "Select at least one provider."
          else draft.details
        -- What has been pushed is what has been seen.
        let (providers, details) := visitProviders path 0 items [] details
        { draft with providers, details }
    | _ => { draft with providers := [], details := invalidType draft.details path }
  else if field.1 = "include_raw" then
    match field.2 with
    | .bool value => { draft with includeRaw := value }
    | _ => { draft with details := invalidType draft.details path }
  else
    { draft with details := unknownField draft.details path }

/-- The part of `validate_request` behind the parser. -/
def validateJson (parser : UrlParser) (maxBatch : Nat) (enabled : List ProviderId) :
    RequestJson → Except RequestValidationError ValidatedRequest
  | .object fields =>
      let draft := fields.foldl (visitField parser maxBatch) {
        details := []
        indicators := []
        providers := defaultProviders enabled
        includeRaw := false
        hasIndicators := false }
      let details := if draft.hasIndicators then draft.details
        else required draft.details "/indicators"
      if details = [] then
        .ok {
          indicators := draft.indicators
          providers := draft.providers
          includeRaw := draft.includeRaw }
      else
        .error (.semantic details)
  | _ => .error (.semantic (invalidType [] ""))

/-- `validate_request`, over the events `serde_json` reads from a body. -/
def validateRequest (read : List UInt8 → Option Value) (parser : UrlParser) (body : List UInt8)
    (maxBatch : Nat) (enabled : List ProviderId) :
    Except RequestValidationError ValidatedRequest :=
  match (read body).bind RequestJson.deserialize with
  | none => .error .invalidJson
  | some json => validateJson parser maxBatch enabled json

end RustEnrich
