import RustEnrich.Config
import RustEnrich.Http.EnvelopeBound
import RustEnrich.Validation.Locations

/-!
# Error responses

A request that is turned away gets an envelope with its request ID and an error,
and with the details of what is wrong with it where that is what it is turned
away for. Every envelope is written under one limit, and one that does not fit is
given up for a last resort of fixed length. The details repeat member names of the
request, so whether they fit is a matter of the request.
-/

namespace RustEnrich

open Serialization

/-- A detail with its three texts. -/
def ValidationDetail.serialize (detail : ValidationDetail) : Value :=
  .object [
    ("path", .string detail.path),
    ("code", .string detail.code),
    ("message", .string detail.message)]

/-- `Enrichment::enabled`. -/
def Config.enabled (config : Config) : List ProviderId :=
  [.abuseipdb, .virustotal].filter fun id => (config.provider id).enabled

namespace Http

/-- A character of a hyphenated UUID. -/
def isUuidChar (char : Char) : Bool :=
  char.isDigit || (97 ≤ char.toNat && char.toNat ≤ 102) || char = '-'

/-- The text of a generated UUID. -/
structure RequestId where
  text : String
  length : text.toList.length = 36
  hyphenated : ∀ char ∈ text.toList, isUuidChar char = true

/-- A response before it is sent. -/
structure Response where
  status : UInt16
  headers : List (String × String)
  body : List UInt8

/-- `headers_mut().insert`. -/
def Response.insert (response : Response) (name value : String) : Response :=
  { response with
    headers := response.headers.filter (fun header => header.1 ≠ name) ++ [(name, value)] }

/-- A UUID is a header value. -/
def responseBytes (id : RequestId) (status : UInt16) (bytes : List UInt8) : Response where
  status
  headers := [
    ("content-type", "application/json"),
    ("cache-control", "no-store"),
    ("x-request-id", id.text)]
  body := bytes

/-- The last resort of `json_response`. -/
def lastResort (id : RequestId) : List UInt8 :=
  utf8 "\x7b\"request_id\":\"" ++ utf8 id.text ++ utf8 ("\",\"error\":\x7b" ++
    "\"code\":\"internal_error\",\"message\":\"The request could not be completed.\"," ++
    "\"retryable\":true,\"retry_after_seconds\":null\x7d\x7d")

/-- A value as a response, or the last resort where it is too long. -/
def jsonResponse (serializer : Serializer) (id : RequestId) (status : UInt16) (value : Value) :
    Response :=
  match serializer.toWriter LimitedWriter.write (.new envelopeLimit) value with
  | some writer => responseBytes id status writer.bytes
  | none => responseBytes id 500 (lastResort id)

/-- The error of an envelope. -/
structure ErrorDetails where
  error : PublicError
  details : Option (List ValidationDetail)

/-- An error with the identifier of its request. -/
structure ErrorEnvelope where
  requestId : RequestId
  error : ErrorDetails

/-- The members of a field with `serde(flatten)`. -/
def flattened : Value → List (String × Value)
  | .object members => members
  | _ => []

/-- The fields of the error itself, and its details if there are any. -/
def ErrorDetails.serialize (error : ErrorDetails) : Value :=
  .object (flattened error.error.serialize ++
    skippable "details" (fun details => .array (details.map ValidationDetail.serialize))
      error.details)

/-- The identifier, and the error. -/
def ErrorEnvelope.serialize (envelope : ErrorEnvelope) : Value :=
  .object [
    ("request_id", .string envelope.requestId.text),
    ("error", envelope.error.serialize)]

/-- The envelope of an error. -/
def errorEnvelope (id : RequestId) (code : ErrorCode) (details : Option (List ValidationDetail)) :
    Value :=
  ErrorEnvelope.serialize { requestId := id, error := { error := .new code, details } }

/-- An error as a response, with the headers of its status. -/
def errorResponse (serializer : Serializer) (id : RequestId) (status : UInt16) (code : ErrorCode)
    (details : Option (List ValidationDetail)) : Response :=
  let response := jsonResponse serializer id status (errorEnvelope id code details)
  let response :=
    if status = 401 then response.insert "www-authenticate" "Bearer" else response
  if status = 503 then response.insert "retry-after" "1" else response

/-! ### Admitted requests -/

/-- What the stream of a body yields until it ends. -/
inductive Received
  | chunk (bytes : List UInt8)
  | failed
  /-- The deadline of the request passes first. -/
  | late

/-- The loop that reads a body. -/
def receive (maxRequestBytes : Nat) (bytes : List UInt8) :
    List Received → Except (UInt16 × ErrorCode) (List UInt8)
  | [] => .ok bytes
  | .late :: _ => .error (408, .requestBodyTimeout)
  | .failed :: _ => .error (400, .invalidJson)
  | .chunk chunk :: rest =>
      if maxRequestBytes - bytes.length < chunk.length then .error (413, .requestTooLarge)
      else receive maxRequestBytes (bytes ++ chunk) rest

/-- `enrich_admitted` up to the lookups, with what it goes on with. -/
def enrichAdmitted (serializer : Serializer) (config : Config)
    (read : List UInt8 → Option Value) (parser : UrlParser) (id : RequestId)
    (supportedMediaType : Bool) (received : List Received)
    (serve : ValidatedRequest → Response) : Response :=
  if supportedMediaType then
    match receive config.maxRequestBytes.toNat [] received with
    | .error (status, code) => errorResponse serializer id status code none
    | .ok bytes =>
        match validateRequest read parser bytes config.maxBatchSize.toNat config.enabled with
        | .ok request => serve request
        | .error .invalidJson => errorResponse serializer id 400 .invalidJson none
        | .error (.semantic details) =>
            errorResponse serializer id 422 .validationError (some details)
  else
    errorResponse serializer id 415 .unsupportedMediaType none

/-! ### The length of a report -/

section Lengths

/-- The characters of an identifier need no escape. -/
theorem bounds_of_isUuidChar {char : Char} (hyphenated : isUuidChar char = true) :
    45 ≤ char.toNat ∧ char.toNat ≤ 102 ∧ char.toNat ≠ 92 := by
  unfold isUuidChar at hyphenated
  rw [Bool.or_eq_true, Bool.or_eq_true] at hyphenated
  rcases hyphenated with (digit | letter) | hyphen
  · simp only [Char.isDigit, Bool.and_eq_true, decide_eq_true_eq, UInt32.le_iff_toNat_le] at digit
    have low : 48 ≤ char.toNat := digit.1
    have high : char.toNat ≤ 57 := digit.2
    omega
  · rw [Bool.and_eq_true, decide_eq_true_eq, decide_eq_true_eq] at letter
    omega
  · rw [of_decide_eq_true hyphen]
    decide

/-- A character of a UUID is printed as it is. -/
theorem length_escape_uuid {char : Char} (hyphenated : isUuidChar char = true) :
    (escape char).length = 1 := by
  obtain ⟨low, high, plain⟩ := bounds_of_isUuidChar hyphenated
  have apart : ∀ special : Char, special.toNat < 45 ∨ special.toNat = 92 → char ≠ special := by
    rintro special either rfl
    omega
  have ascii : char.utf8Size = 1 := by
    rw [Char.utf8Size_eq_one_iff, UInt32.le_iff_toNat_le]
    exact high.trans (by decide)
  unfold escape
  rw [if_neg (apart _ (by decide)), if_neg (apart _ (by decide)), if_neg (apart _ (by decide)),
    if_neg (apart _ (by decide)), if_neg (apart _ (by decide)), if_neg (apart _ (by decide)),
    if_neg (apart _ (by decide)), if_neg (by omega), String.length_utf8EncodeChar, ascii]

/-- A quoted identifier has 38 bytes. -/
theorem RequestId.length_quoted (id : RequestId) : (quoted id.text).length = 38 := by
  have ones : (id.text.toList.map fun char => (escape char).length) =
      List.replicate 36 1 := by
    rw [← id.length]
    exact List.map_eq_replicate_iff.mpr fun char member =>
      length_escape_uuid (id.hyphenated char member)
  rw [Http.length_quoted, ones, List.sum_replicate_nat]

/-- The bytes of a detail. -/
def ValidationDetail.printedLength (detail : ValidationDetail) : Nat :=
  28 + (quoted detail.path).length + (quoted detail.code).length + (quoted detail.message).length

/-- The bytes of an envelope with details, by what they print. -/
def reportLength (details : List ValidationDetail) : Nat :=
  199 + (details.map ValidationDetail.printedLength).sum + (details.length - 1)

variable {float : UInt64 → String}

/-- A string is written quoted. -/
theorem text_string (value : String) : text float (.string value) = quoted value := by
  rw [text]

/-- A detail is written in its printed length. -/
theorem length_detail (detail : ValidationDetail) :
    (text float detail.serialize).length = ValidationDetail.printedLength detail := by
  have names : (quoted "path").length = 6 ∧ (quoted "code").length = 6 ∧
      (quoted "message").length = 9 := by
    and_intros <;> exact (length_quoted_ofList _).trans (by decide)
  simp only [ValidationDetail.serialize, ValidationDetail.printedLength, length_object,
    List.map_cons, List.map_nil, List.sum_cons, List.sum_nil, List.length_cons, List.length_nil,
    memberLength, names, text_string]
  omega

/-- A report is written in its length. -/
theorem length_errorEnvelope (id : RequestId) (details : List ValidationDetail) :
    (text float (errorEnvelope id .validationError (some details))).length =
      reportLength details := by
  have names : (quoted "request_id").length = 12 ∧ (quoted "error").length = 7 ∧
      (quoted "code").length = 6 ∧ (quoted "message").length = 9 ∧
      (quoted "retryable").length = 11 ∧ (quoted "retry_after_seconds").length = 21 ∧
      (quoted "details").length = 9 := by
    and_intros <;> exact (length_quoted_ofList _).trans (by decide)
  have texts : (quoted ErrorCode.validationError.asStr).length = 18 ∧
      (quoted (PublicError.new .validationError).message).length = 41 := by
    and_intros <;> exact (length_quoted_ofList _).trans (by decide)
  have retryable : (text float (.bool (PublicError.new .validationError).retryable)).length = 5 :=
    by rw [text, length_utf8]; decide
  have delay : (text float (nullable (fun seconds => serializeU64 (.ofNat seconds))
      (PublicError.new .validationError).retryAfterSeconds)).length = 4 := by
    change (text float .null).length = 4
    rw [text, length_utf8]
    decide
  have code : (PublicError.new .validationError).code = .validationError := rfl
  have printed : (details.map ValidationDetail.serialize).map
      (fun value => (text float value).length) = details.map ValidationDetail.printedLength := by
    rw [List.map_map]
    exact List.map_congr_left fun detail _ => length_detail detail
  simp only [errorEnvelope, ErrorEnvelope.serialize, ErrorDetails.serialize, flattened, skippable,
    PublicError.serialize, length_object, List.map_append, List.map_cons, List.map_nil,
    List.sum_append, List.sum_cons, List.sum_nil, List.length_append, List.length_cons,
    List.length_nil, memberLength, names, length_array, printed, reportLength, List.length_map,
    text_string, ErrorCode.serialize, code, texts, retryable, delay, id.length_quoted]
  omega

end Lengths

/-! ### Long member names -/

/-- Escaping shortens nothing. -/
theorem length_quoted_ge (text : String) : 2 + text.toList.length ≤ (quoted text).length := by
  have each : (text.toList.map fun _ => 1).sum ≤
      (text.toList.map fun char => (escape char).length).sum := by
    refine List.sum_le_sum fun char _ => ?_
    have size := Char.utf8Size_pos char
    have cases_ := length_escape char
    omega
  rw [List.map_const', List.sum_replicate_nat, Nat.mul_one] at each
  rw [length_quoted]
  omega

/-- A path is at least as long as the name at its end. -/
theorem length_pointer_ge (parent field : String) :
    field.toList.length ≤ (pointer parent field).toList.length := by
  have each : (field.toList.map fun _ => 1).sum ≤ (field.toList.map fun char =>
      (if char = '~' then ['~', '0']
        else if char = '/' then ['~', '1'] else [char]).length).sum := by
    refine List.sum_le_sum fun char _ => ?_
    split_ifs <;> simp
  rw [List.map_const', List.sum_replicate_nat, Nat.mul_one] at each
  rw [toList_pointer, List.length_append, List.length_cons, JsonPointer.escape,
    List.length_flatMap]
  omega

/-- A document whose only member is named by so many letters. -/
def longName (length : Nat) : String := .ofList (List.replicate length 'a')

/-- A document of one member with a long name. -/
def longDocument (length : Nat) : Value := .object [(longName length, .null)]

/-- It as a body. -/
def longBody (length : Nat) : List UInt8 := text (fun _ => "") (longDocument length)

/-- A reader of this body alone. -/
def readLong (length : Nat) (body : List UInt8) : Option Value :=
  if body = longBody length then some (longDocument length) else none

/-- The long name is no shorter one. -/
theorem longName_ne {length : Nat} {name : String} (longer : name.toList.length < length) :
    longName length ≠ name := by
  intro same
  have lengths := congrArg (fun text => text.toList.length) same
  simp only [longName, String.toList_ofList, List.length_replicate] at lengths
  omega

/-- The body is nine bytes longer than the name. -/
theorem length_longBody (length : Nat) : (longBody length).length = length + 9 := by
  have null : (text (fun _ => "") .null).length = 4 := by
    rw [text, length_utf8]
    decide
  have letter : (escape 'a').length = 1 := length_escape_uuid (by decide)
  rw [longBody, longDocument, length_object, List.map_singleton, List.sum_singleton,
    List.length_singleton, memberLength, null, longName, length_quoted_ofList, List.map_replicate,
    letter, List.sum_replicate_nat]
  omega

/-- The document repeats no name. -/
theorem longDocument_distinct (length : Nat) : ¬ (longDocument length).RepeatsKey := by
  intro repeats
  have rejected := RequestJson.deserialize_repeated repeats
  simp [longDocument, RequestJson.deserialize, RequestJson.visitMap] at rejected

/-- The name of an unknown member is reported as a whole. -/
theorem longDocument_rejected {length : Nat} (long : 11 < length) (parser : UrlParser)
    (maxBatch : Nat) (enabled : List ProviderId) :
    ∃ details, validateRequest (readLong length) parser (longBody length) maxBatch enabled =
        .error (.semantic details) ∧ length < reportLength details := by
  have parsed : readLong length (longBody length) = some (longDocument length) := if_pos rfl
  have unknown : memberViolations parser maxBatch (longName length, .null) =
      [(unknownMember .null).under (longName length)] := by
    unfold memberViolations
    rw [if_neg (longName_ne (lt_of_le_of_lt (by decide) long)),
      if_neg (longName_ne (lt_of_le_of_lt (by decide) long)),
      if_neg (longName_ne (lt_of_le_of_lt (by decide) long))]
    rfl
  have all : ∃ rest, violations parser maxBatch (longDocument length) =
      (unknownMember .null).under (longName length) :: rest := by
    rw [longDocument, violations, List.flatMap_singleton, unknown]
    exact ⟨_, rfl⟩
  obtain ⟨rest, all⟩ := all
  rcases @validateJson_kept parser maxBatch enabled (longDocument length) with
    ⟨clean, _⟩ | ⟨_, rejected⟩
  · rw [all] at clean
    cases clean
  · rw [← validateRequest_kept parsed (longDocument_distinct length)] at rejected
    refine ⟨_, rejected, ?_⟩
    have path := length_pointer_ge "" (longName length)
    have printed := length_quoted_ge (pointer "" (longName length))
    rw [longName, String.toList_ofList, List.length_replicate] at path
    rw [all, List.map_cons, kept, List.take_succ_cons, reportLength, List.map_cons, List.sum_cons,
      ValidationDetail.printedLength]
    change _ < 199 + (28 + (quoted (pointer "" (longName length))).length + _ + _ + _) + _
    unfold longName at printed ⊢
    omega

/-! ### What becomes of a rejection -/

section Rejections

variable {serializer : Serializer} {id : RequestId} {details : List ValidationDetail}
  {config : Config} {read : List UInt8 → Option Value} {parser : UrlParser}
  {chunks : List (List UInt8)} {serve : ValidatedRequest → Response}

/-- A value that fits is the body, and any other becomes the last resort. -/
theorem jsonResponse_eq (serializer : Serializer) (id : RequestId) (status : UInt16)
    (value : Value) :
    jsonResponse serializer id status value =
      if (serializer.toVec value).length ≤ envelopeLimit then
        responseBytes id status (serializer.toVec value)
      else responseBytes id 500 (lastResort id) := by
  unfold jsonResponse
  rw [Serializer.toWriter_limited]
  split_ifs <;> rfl

/-- What a request with semantic errors is to get: the status 422, with the
envelope of `validation_error` and all its details. -/
def Reported (serializer : Serializer) (id : RequestId) (details : List ValidationDetail)
    (response : Response) : Prop :=
  response.status = 422 ∧
    response.body = serializer.toVec (errorEnvelope id .validationError (some details))

/-- A rejection is reported exactly where its report fits. -/
theorem reported_errorResponse_iff :
    Reported serializer id details
        (errorResponse serializer id 422 .validationError (some details)) ↔
      reportLength details ≤ envelopeLimit := by
  have unchanged : errorResponse serializer id 422 .validationError (some details) =
      jsonResponse serializer id 422 (errorEnvelope id .validationError (some details)) := rfl
  have length : (serializer.toVec (errorEnvelope id .validationError (some details))).length =
      reportLength details := length_errorEnvelope id details
  rw [unchanged, jsonResponse_eq, length]
  by_cases fits : reportLength details ≤ envelopeLimit
  · rw [if_pos fits]
    exact iff_of_true ⟨rfl, rfl⟩ fits
  · rw [if_neg fits]
    refine iff_of_false ?_ fits
    rintro ⟨status, _⟩
    have apart : (500 : UInt16) ≠ 422 := by decide
    exact apart status

/-- A body within the bound is read as a whole, however it is cut. -/
theorem receive_chunks {maxRequestBytes : Nat} {bytes : List UInt8}
    (within : bytes.length + chunks.flatten.length ≤ maxRequestBytes) :
    receive maxRequestBytes bytes (chunks.map .chunk) = .ok (bytes ++ chunks.flatten) := by
  induction chunks generalizing bytes with
  | nil => simp [receive]
  | cons chunk rest ih =>
      rw [List.flatten_cons, List.length_append] at within
      rw [List.map_cons, receive, if_neg (by omega), ih (by rw [List.length_append]; omega),
        List.append_assoc, List.flatten_cons]

/-- A rejected body within its limit is answered with the details. -/
theorem enrichAdmitted_semantic (within : chunks.flatten.length ≤ config.maxRequestBytes.toNat)
    (rejected : validateRequest read parser chunks.flatten config.maxBatchSize.toNat
      config.enabled = .error (.semantic details)) :
    enrichAdmitted serializer config read parser id true (chunks.map .chunk) serve =
      errorResponse serializer id 422 .validationError (some details) := by
  have received : receive config.maxRequestBytes.toNat [] (chunks.map .chunk) =
      .ok chunks.flatten := receive_chunks (by rwa [List.length_nil, Nat.zero_add])
  unfold enrichAdmitted
  simp only [if_true, received, rejected]

/-- The details of a rejected request are the first violations of its document. -/
theorem details_of_rejected {body : List UInt8} {maxBatch : Nat} {enabled : List ProviderId}
    {document : Value} (parsed : read body = some document)
    (rejected : validateRequest read parser body maxBatch enabled = .error (.semantic details)) :
    details = ((violations parser maxBatch document).take 100).map (Violation.detail "") := by
  have distinct : ¬ document.RepeatsKey := by
    intro repeats
    rw [validateRequest, parsed, Option.bind_some,
      RequestJson.deserialize_repeated repeats] at rejected
    cases rejected
  exact (details_located parsed distinct rejected).2.2.1

/-- **Invalid requests get 422 where the report fits.** For every configuration,
every body within its bound and however it is cut, a request with semantic errors
is answered with the status 422 and its details if and only if the envelope with
the first hundred violations of the document fits the limit. -/
theorem rejection_reported_iff {document : Value}
    (within : chunks.flatten.length ≤ config.maxRequestBytes.toNat)
    (parsed : read chunks.flatten = some document)
    (rejected : validateRequest read parser chunks.flatten config.maxBatchSize.toNat
      config.enabled = .error (.semantic details)) :
    Reported serializer id details
        (enrichAdmitted serializer config read parser id true (chunks.map .chunk) serve) ↔
      reportLength (((violations parser config.maxBatchSize.toNat document).take 100).map
        (Violation.detail "")) ≤ envelopeLimit := by
  rw [enrichAdmitted_semantic within rejected, reported_errorResponse_iff,
    details_of_rejected parsed rejected]

end Rejections

/-- An identifier. -/
def sampleId : RequestId where
  text := "00000000-0000-4000-8000-000000000000"
  length := by decide
  hyphenated := List.all_eq_true.mp (by decide)

/-- A response with nothing in it. -/
def emptyResponse : Response := { status := 200, headers := [], body := [] }

/-- A body with one short unknown member is answered as it is to be. -/
theorem rejection_reported_iff_short :
    ∃ details, validateRequest (readLong 12) (fun _ => none) [longBody 12].flatten
        Config.forTests.maxBatchSize.toNat Config.forTests.enabled = .error (.semantic details) ∧
      (Reported epochSerializer sampleId details
        (enrichAdmitted epochSerializer .forTests (readLong 12) (fun _ => none) sampleId true
          ([longBody 12].map .chunk) fun _ => emptyResponse) ↔
        reportLength (((violations (fun _ => none) Config.forTests.maxBatchSize.toNat
          (longDocument 12)).take 100).map (Violation.detail "")) ≤ envelopeLimit) := by
  have whole : [longBody 12].flatten = longBody 12 := List.flatten_singleton
  obtain ⟨details, rejected, _⟩ := @longDocument_rejected 12 (by decide) (fun _ => none)
    Config.forTests.maxBatchSize.toNat Config.forTests.enabled
  rw [← whole] at rejected
  have within : [longBody 12].flatten.length ≤ Config.forTests.maxRequestBytes.toNat := by
    rw [whole, length_longBody]
    decide +kernel
  exact ⟨details, rejected, rejection_reported_iff within (if_pos whole) rejected⟩

/-- The settings of the tests, with room for bodies of two mebibytes. -/
def roomyConfig : Config := { Config.forTests with maxRequestBytes := 2097152 }

/-- A body of a mebibyte is read as a whole and rejected for its only member, and
the answer is that the service failed. -/
theorem rejection_unreported :
    roomyConfig.validate .plain = .ok () ∧
    (longBody 1048576).length ≤ roomyConfig.maxRequestBytes.toNat ∧
    ∃ details, validateRequest (readLong 1048576) (fun _ => none) (longBody 1048576)
        roomyConfig.maxBatchSize.toNat roomyConfig.enabled = .error (.semantic details) ∧
      ¬ Reported epochSerializer sampleId details
        (enrichAdmitted epochSerializer roomyConfig (readLong 1048576) (fun _ => none) sampleId
          true [.chunk (longBody 1048576)] fun _ => emptyResponse) := by
  have limit : envelopeLimit = 1048576 := by norm_num [envelopeLimit]
  have within : (longBody 1048576).length ≤ roomyConfig.maxRequestBytes.toNat := by
    rw [length_longBody]
    decide +kernel
  obtain ⟨details, rejected, long⟩ := @longDocument_rejected 1048576 (by omega) (fun _ => none)
    roomyConfig.maxBatchSize.toNat roomyConfig.enabled
  refine ⟨by decide +kernel, within, details, rejected, ?_⟩
  have whole : [longBody 1048576].flatten = longBody 1048576 := List.flatten_singleton
  have answer := @enrichAdmitted_semantic epochSerializer sampleId details roomyConfig
    (readLong 1048576) (fun _ => none) [longBody 1048576] (fun _ => emptyResponse)
    (by rw [whole]; exact within) (by rw [whole]; exact rejected)
  rw [List.map_singleton] at answer
  rw [answer, reported_errorResponse_iff, limit]
  omega

end Http

end RustEnrich
