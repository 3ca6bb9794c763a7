import RustEnrich.Serialization.Writer

/-!
# The contract as JSON

The derived serializations of the evidence contract. A struct is an object of
its fields in the order of their declaration, an absent value is written as
null, a unit variant as its name, and an untagged enum as what it carries.
-/

namespace RustEnrich

open Serialization

/-- What may be null. -/
def nullable {α : Type} (serialize : α → Value) : Option α → Value
  | none => .null
  | some value => serialize value

/-- An unsigned number. -/
def serializeU64 (value : UInt64) : Value := .number (.posInt value)

/-- `serde_json` keeps the integers from zero on as unsigned. -/
def serializeI64 (value : Int64) : Value :=
  .number (if value < 0 then .negInt value else .posInt value.toUInt64)

/-- A provider by its name. -/
def ProviderId.serialize (provider : ProviderId) : Value := .string provider.asStr

/-- A kind by its name. -/
def IndicatorKind.serialize (kind : IndicatorKind) : Value := .string kind.asStr

/-- An algorithm by its name. -/
def HashAlgorithm.serialize (algorithm : HashAlgorithm) : Value := .string algorithm.asStr

/-- A status by its name. -/
def Status.serialize (status : Status) : Value := .string status.asStr

/-- An error by its name. -/
def ErrorCode.serialize (code : ErrorCode) : Value := .string code.asStr

/-- An indicator as it was asked for. -/
def InputIndicator.serialize (input : InputIndicator) : Value :=
  .object [("type", input.kind.serialize), ("value", .string input.value)]

/-- An error as it is told. -/
def PublicError.serialize (error : PublicError) : Value :=
  .object [
    ("code", error.code.serialize),
    ("message", .string error.message),
    ("retryable", .bool error.retryable),
    ("retry_after_seconds",
      nullable (fun seconds => serializeU64 (.ofNat seconds)) error.retryAfterSeconds)]

namespace Serialization.Serializer

variable (serializer : Serializer)

/-- A time by its text. -/
def dateTime (instant : DateTime) : Value := .string (serializer.timestamp instant)

/-- The evidence of AbuseIPDB. -/
def abuseipdbSummary (summary : AbuseipdbSummary) : Value :=
  .object [
    ("abuse_confidence_score", nullable serializeU64 summary.abuseConfidenceScore),
    ("total_reports", nullable serializeU64 summary.totalReports),
    ("distinct_reporters", nullable serializeU64 summary.distinctReporters),
    ("last_reported_at", nullable serializer.dateTime summary.lastReportedAt),
    ("country_code", nullable .string summary.countryCode),
    ("isp", nullable .string summary.isp),
    ("domain", nullable .string summary.domain),
    ("usage_type", nullable .string summary.usageType),
    ("is_public", nullable .bool summary.isPublic),
    ("is_tor", nullable .bool summary.isTor),
    ("is_whitelisted", nullable .bool summary.isWhitelisted)]

/-- The counts of VirusTotal. -/
def analysisStats (stats : AnalysisStats) : Value :=
  .object [
    ("malicious", nullable serializeU64 stats.malicious),
    ("suspicious", nullable serializeU64 stats.suspicious),
    ("harmless", nullable serializeU64 stats.harmless),
    ("undetected", nullable serializeU64 stats.undetected),
    ("timeout", nullable serializeU64 stats.timeout),
    ("confirmed_timeout", nullable serializeU64 stats.confirmedTimeout),
    ("failure", nullable serializeU64 stats.failure),
    ("type_unsupported", nullable serializeU64 stats.typeUnsupported)]

/-- The evidence of VirusTotal. -/
def virustotalSummary (summary : VirustotalSummary) : Value :=
  .object [
    ("analysis_stats", nullable analysisStats summary.analysisStats),
    ("reputation", nullable serializeI64 summary.reputation),
    ("last_analysis_at", nullable serializer.dateTime summary.lastAnalysisAt),
    ("country", nullable .string summary.country),
    ("asn", nullable serializeU64 summary.asn),
    ("as_owner", nullable .string summary.asOwner),
    ("md5", nullable .string summary.md5),
    ("sha1", nullable .string summary.sha1),
    ("sha256", nullable .string summary.sha256),
    ("file_type", nullable .string summary.fileType)]

/-- The evidence of either, untagged. -/
def summary : Summary → Value
  | .abuseipdb summary => serializer.abuseipdbSummary summary
  | .virustotal summary => serializer.virustotalSummary summary

/-- An outcome as it is stored. -/
def outcome (outcome : Outcome) : Value :=
  .object [
    ("status", outcome.status.serialize),
    ("summary", nullable serializer.summary outcome.summary),
    ("fetched_at", nullable serializer.dateTime outcome.fetchedAt),
    ("provider_updated_at", nullable serializer.dateTime outcome.providerUpdatedAt),
    ("error", nullable PublicError.serialize outcome.error),
    ("raw", outcome.raw.getD .null)]

end Serialization.Serializer

end RustEnrich
