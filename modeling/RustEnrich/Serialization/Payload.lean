import RustEnrich.Serialization.Contract
import RustEnrich.Serialization.Deserialize

/-!
# Reading the contract back

The derived deserializations of the evidence contract, and that an outcome is
read back from its document. Both kinds of summaries have nothing but optional
fields and carry no tag; still each is read as what it is, because neither
admits the fields of the other.
-/

namespace RustEnrich

open Serialization

namespace Serialization

/-- What is read by other crates: the events of a document, and timestamps as
`FromStr` of `DateTime<Utc>` and as `parse_from_rfc3339` read them. -/
structure Deserializer where
  document : List UInt8 → Option Value
  timestamp : String → Option DateTime
  parseFromRfc3339 : String → Option DateTime

end Serialization

/-- The status of a name. -/
def Status.parse (name : String) : Option Status :=
  [Status.ok, .notFound, .unsupported, .disabled, .rateLimited, .timeout, .error].find?
    fun status => status.asStr = name

/-- The error of a name. -/
def ErrorCode.parse (name : String) : Option ErrorCode :=
  [ErrorCode.invalidJson, .unauthorized, .routeNotFound, .methodNotAllowed, .requestBodyTimeout,
    .requestTooLarge, .unsupportedMediaType, .validationError, .serviceOverloaded,
    .serviceUnavailable, .internalError, .responseTooLarge, .quotaExhausted,
    .providerAuthenticationFailed, .providerAccessDenied, .providerTimeout,
    .requestDeadlineExceeded, .networkError, .providerUnavailable, .providerRequestRejected,
    .providerTlsError, .invalidResponse, .providerBusy, .storageUnavailable].find? fun code =>
    code.asStr = name

/-- The derived reader of `PublicError`. -/
def PublicError.deserialize (document : Value) : Option PublicError := do
  let field ← structFields false ["code", "message", "retryable", "retry_after_seconds"] document
  return {
    code := ← requiredField (unitVariant ErrorCode.parse) (field "code")
    message := ← requiredField asString (field "message")
    retryable := ← requiredField asBool (field "retryable")
    retryAfterSeconds := ← optionalField (fun value => (asU64 value).map UInt64.toNat)
      (field "retry_after_seconds") }

namespace Serialization.Deserializer

variable (deserializer : Deserializer)

/-- The reader of a time. -/
def dateTime (document : Value) : Option DateTime :=
  (asString document).bind deserializer.timestamp

/-- The fields of `AbuseIpDbSummary`. -/
def abuseipdbFields : List String :=
  ["abuse_confidence_score", "total_reports", "distinct_reporters", "last_reported_at",
    "country_code", "isp", "domain", "usage_type", "is_public", "is_tor", "is_whitelisted"]

/-- The derived reader of the summary of AbuseIPDB. -/
def abuseipdbSummary (document : Value) : Option AbuseipdbSummary := do
  let field ← structFields true abuseipdbFields document
  return {
    abuseConfidenceScore := ← optionalField asU64 (field "abuse_confidence_score")
    totalReports := ← optionalField asU64 (field "total_reports")
    distinctReporters := ← optionalField asU64 (field "distinct_reporters")
    lastReportedAt := ← optionalField deserializer.dateTime (field "last_reported_at")
    countryCode := ← optionalField asString (field "country_code")
    isp := ← optionalField asString (field "isp")
    domain := ← optionalField asString (field "domain")
    usageType := ← optionalField asString (field "usage_type")
    isPublic := ← optionalField asBool (field "is_public")
    isTor := ← optionalField asBool (field "is_tor")
    isWhitelisted := ← optionalField asBool (field "is_whitelisted") }

/-- The derived reader of the counts of VirusTotal. -/
def analysisStats (document : Value) : Option AnalysisStats := do
  let field ← structFields true
    ["malicious", "suspicious", "harmless", "undetected", "timeout", "confirmed_timeout",
      "failure", "type_unsupported"] document
  return {
    malicious := ← optionalField asU64 (field "malicious")
    suspicious := ← optionalField asU64 (field "suspicious")
    harmless := ← optionalField asU64 (field "harmless")
    undetected := ← optionalField asU64 (field "undetected")
    timeout := ← optionalField asU64 (field "timeout")
    confirmedTimeout := ← optionalField asU64 (field "confirmed_timeout")
    failure := ← optionalField asU64 (field "failure")
    typeUnsupported := ← optionalField asU64 (field "type_unsupported") }

/-- The derived reader of the summary of VirusTotal. -/
def virustotalSummary (document : Value) : Option VirustotalSummary := do
  let field ← structFields true
    ["analysis_stats", "reputation", "last_analysis_at", "country", "asn", "as_owner", "md5",
      "sha1", "sha256", "file_type"] document
  return {
    analysisStats := ← optionalField analysisStats (field "analysis_stats")
    reputation := ← optionalField asI64 (field "reputation")
    lastAnalysisAt := ← optionalField deserializer.dateTime (field "last_analysis_at")
    country := ← optionalField asString (field "country")
    asn := ← optionalField asU64 (field "asn")
    asOwner := ← optionalField asString (field "as_owner")
    md5 := ← optionalField asString (field "md5")
    sha1 := ← optionalField asString (field "sha1")
    sha256 := ← optionalField asString (field "sha256")
    fileType := ← optionalField asString (field "file_type") }

/-- The variants of an untagged enum are tried in turn. -/
def summary (document : Value) : Option Summary :=
  match deserializer.abuseipdbSummary document with
  | some summary => some (.abuseipdb summary)
  | none => (deserializer.virustotalSummary document).map .virustotal

/-- The derived reader of an outcome. -/
def outcome (document : Value) : Option Outcome := do
  let field ← structFields false
    ["status", "summary", "fetched_at", "provider_updated_at", "error", "raw"] document
  return {
    status := ← requiredField (unitVariant Status.parse) (field "status")
    summary := ← optionalField deserializer.summary (field "summary")
    fetchedAt := ← optionalField deserializer.dateTime (field "fetched_at")
    providerUpdatedAt := ← optionalField deserializer.dateTime (field "provider_updated_at")
    error := ← optionalField PublicError.deserialize (field "error")
    raw := ← optionalField (fun value => some value.deserialize) (field "raw") }

end Serialization.Deserializer

/-! ### Round trips -/

section RoundTrips

/-- What may be null is read back where what it is otherwise is. -/
theorem optionalField_nullable {α : Type} {serialize : α → Value} {read : Value → Option α}
    (null : read .null = none) (value : Option α)
    (reads : ∀ inner, value = some inner → read (serialize inner) = some inner) :
    optionalField read (some (nullable serialize value)) = some value := by
  cases value with
  | none => rfl
  | some inner =>
      have read_ := reads inner rfl
      rw [nullable]
      cases shape : serialize inner with
      | null =>
          rw [shape, null] at read_
          cases read_
      | _ =>
          rw [shape] at read_
          rw [optionalField, read_]
          · rfl
          · exact fun same => by cases same

/-- A signed number is read back. -/
theorem asI64_serializeI64 (value : Int64) : asI64 (serializeI64 value) = some value := by
  unfold serializeI64
  split
  · rfl
  · rename_i notNegative
    have nonneg : 0 ≤ value := Int64.not_lt.mp notNegative
    have small : value.toUInt64 ≤ 9223372036854775807 :=
      Int64.toUInt64_le nonneg (Int64.le_maxValue value)
    rw [asI64, if_pos small, Int64.toInt64_toUInt64]

/-- A number that may be null is read back. -/
@[simp] theorem optionalField_u64 (value : Option UInt64) :
    optionalField asU64 (some (nullable serializeU64 value)) = some value :=
  optionalField_nullable rfl value fun _ _ => rfl

/-- A signed number that may be null is read back. -/
@[simp] theorem optionalField_i64 (value : Option Int64) :
    optionalField asI64 (some (nullable serializeI64 value)) = some value :=
  optionalField_nullable rfl value fun inner _ => asI64_serializeI64 inner

/-- A text that may be null is read back. -/
@[simp] theorem optionalField_string (value : Option String) :
    optionalField asString (some (nullable .string value)) = some value :=
  optionalField_nullable rfl value fun _ _ => rfl

/-- A flag that may be null is read back. -/
@[simp] theorem optionalField_bool (value : Option Bool) :
    optionalField asBool (some (nullable .bool value)) = some value :=
  optionalField_nullable rfl value fun _ _ => rfl

variable {serializer : Serializer} {deserializer : Deserializer}

/-- What is printed of an instant is read back as it. -/
def TimestampsRoundTrip (serializer : Serializer) (deserializer : Deserializer) : Prop :=
  ∀ instant, deserializer.timestamp (serializer.timestamp instant) = some instant

/-- A time that may be null is read back where times are. -/
theorem optionalField_dateTime (timestamps : TimestampsRoundTrip serializer deserializer)
    (value : Option DateTime) :
    optionalField deserializer.dateTime (some (nullable serializer.dateTime value)) = some value :=
  optionalField_nullable rfl value fun inner _ => timestamps inner

/-- The counts are read back. -/
theorem analysisStats_roundTrips (stats : AnalysisStats) :
    Deserializer.analysisStats (Serializer.analysisStats stats) = some stats := by
  unfold Deserializer.analysisStats Serializer.analysisStats
  rw [structFields_exact (by rfl) (by decide)]
  simp [List.lookup_cons]

/-- A summary of AbuseIPDB is read back. -/
theorem abuseipdbSummary_roundTrips (timestamps : TimestampsRoundTrip serializer deserializer)
    (summary : AbuseipdbSummary) :
    deserializer.abuseipdbSummary (serializer.abuseipdbSummary summary) = some summary := by
  unfold Deserializer.abuseipdbSummary Serializer.abuseipdbSummary
  rw [structFields_exact (by rfl) (by decide)]
  simp [List.lookup_cons, optionalField_dateTime timestamps]

/-- A summary of VirusTotal is read back. -/
theorem virustotalSummary_roundTrips (timestamps : TimestampsRoundTrip serializer deserializer)
    (summary : VirustotalSummary) :
    deserializer.virustotalSummary (serializer.virustotalSummary summary) = some summary := by
  have stats : optionalField Deserializer.analysisStats
      (some (nullable Serializer.analysisStats summary.analysisStats)) =
        some summary.analysisStats :=
    optionalField_nullable rfl _ fun inner _ => analysisStats_roundTrips inner
  unfold Deserializer.virustotalSummary Serializer.virustotalSummary
  rw [structFields_exact (by rfl) (by decide)]
  simp [List.lookup_cons, optionalField_dateTime timestamps, stats]

/-- A VirusTotal summary is none of AbuseIPDB, whatever is absent from it. -/
theorem abuseipdbSummary_virustotalSummary (summary : VirustotalSummary) :
    deserializer.abuseipdbSummary (serializer.virustotalSummary summary) = none := by
  have unknown : "analysis_stats" ∉ Deserializer.abuseipdbFields := by decide
  unfold Deserializer.abuseipdbSummary Serializer.virustotalSummary
  rw [structFields_denied List.mem_cons_self unknown]
  rfl

/-- The variant of a summary is recovered. -/
theorem summary_roundTrips (timestamps : TimestampsRoundTrip serializer deserializer)
    (summary : Summary) : deserializer.summary (serializer.summary summary) = some summary := by
  cases summary with
  | abuseipdb summary =>
      rw [Serializer.summary, Deserializer.summary, abuseipdbSummary_roundTrips timestamps]
  | virustotal summary =>
      rw [Serializer.summary, Deserializer.summary, abuseipdbSummary_virustotalSummary,
        virustotalSummary_roundTrips timestamps]
      rfl

/-- A status is read back from its name. -/
theorem Status.parse_asStr (status : Status) : Status.parse status.asStr = some status := by
  cases status <;> decide

/-- What is read of the raw field. -/
def readRaw (document : Value) : Option (Option Value) :=
  optionalField (fun value => some value.deserialize) (some document)

/-- Every value is read as raw data. -/
theorem readRaw_isSome (document : Value) : ∃ raw, readRaw document = some raw := by
  cases document <;> exact ⟨_, rfl⟩

/-- Without an error, an outcome is read back up to its raw value. -/
theorem outcome_reads (timestamps : TimestampsRoundTrip serializer deserializer) {outcome : Outcome}
    {raw : Option Value} (error : outcome.error = none)
    (kept : readRaw (outcome.raw.getD .null) = some raw) :
    deserializer.outcome (serializer.outcome outcome) = some { outcome with raw } := by
  have status : requiredField (unitVariant Status.parse) (some outcome.status.serialize) =
      some outcome.status := Status.parse_asStr outcome.status
  have summary : optionalField deserializer.summary
      (some (nullable serializer.summary outcome.summary)) = some outcome.summary :=
    optionalField_nullable rfl _ fun inner _ => summary_roundTrips timestamps inner
  have failed : optionalField PublicError.deserialize
      (some (nullable PublicError.serialize outcome.error)) = some outcome.error := by
    rw [error]
    rfl
  unfold readRaw at kept
  unfold Deserializer.outcome Serializer.outcome
  rw [structFields_exact (by rfl) (by decide)]
  simp [List.lookup_cons, optionalField_dateTime timestamps, status, summary, failed, kept]

end RoundTrips

end RustEnrich
