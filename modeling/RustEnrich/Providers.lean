import RustEnrich.Serialization.Payload
import RustEnrich.Validation.Indicator

/-!
# Report adapters

What `Adapter::decode` makes of the answer of a provider. A report has to
identify the indicator it was asked for, and only then is its evidence taken
over, with absent evidence left absent; nothing else of the report is judged.
-/

namespace RustEnrich

open Serialization

/-- The most bytes of a summary. -/
def summaryByteLimit : Nat := 16 * 1024

/-- `(0..=9999).contains(&date.year())`, by the first and last day of the years
0 and 9999. -/
def yearInRange (instant : DateTime) : Bool :=
  -719528 ≤ instant.dateNaive ∧ instant.dateNaive ≤ 2932896

/-- `Option::map` and `Option::transpose` of a reading that may fail. -/
def transpose {α β : Type} (read : α → Option β) : Option α → Option (Option β)
  | none => some none
  | some value => (read value).map some

/-- `str::eq_ignore_ascii_case`. -/
def eqIgnoreAsciiCase (left right : String) : Bool :=
  toAsciiLowercase left.toList = toAsciiLowercase right.toList

/-- Both are addresses, and the same. -/
def sameAddress (left right : String) : Bool :=
  match IpAddr.parse left, IpAddr.parse right with
  | some one, some other => one = other
  | _, _ => false

/-- A hexadecimal text of a length. -/
def validHash (value : String) (length : Nat) : Bool :=
  value.utf8ByteSize = length ∧ (utf8 value).all isAsciiHexdigit

/-! ### AbuseIPDB -/

/-- The data of an answer of AbuseIPDB. -/
structure AbuseData where
  ipAddress : String
  abuseConfidenceScore : Option UInt64
  totalReports : Option UInt64
  numDistinctUsers : Option UInt64
  lastReportedAt : Option String
  countryCode : Option String
  isp : Option String
  domain : Option String
  usageType : Option String
  isPublic : Option Bool
  isTor : Option Bool
  isWhitelisted : Option Bool

/-- The derived reader of the data. -/
def AbuseData.deserialize (document : Value) : Option AbuseData := do
  let field ← structFields false
    ["ipAddress", "abuseConfidenceScore", "totalReports", "numDistinctUsers", "lastReportedAt",
      "countryCode", "isp", "domain", "usageType", "isPublic", "isTor", "isWhitelisted"] document
  return {
    ipAddress := ← requiredField asString (field "ipAddress")
    abuseConfidenceScore := ← optionalField asU64 (field "abuseConfidenceScore")
    totalReports := ← optionalField asU64 (field "totalReports")
    numDistinctUsers := ← optionalField asU64 (field "numDistinctUsers")
    lastReportedAt := ← optionalField asString (field "lastReportedAt")
    countryCode := ← optionalField asString (field "countryCode")
    isp := ← optionalField asString (field "isp")
    domain := ← optionalField asString (field "domain")
    usageType := ← optionalField asString (field "usageType")
    isPublic := ← optionalField asBool (field "isPublic")
    isTor := ← optionalField asBool (field "isTor")
    isWhitelisted := ← optionalField asBool (field "isWhitelisted") }

/-- The derived reader of the envelope. -/
def AbuseEnvelope.deserialize (document : Value) : Option AbuseData := do
  let field ← structFields false ["data"] document
  requiredField AbuseData.deserialize (field "data")

/-- The summary of a report and the time the provider states; every failure is
`InvalidResponse`. -/
def decodeAbuseipdb (deserializer : Deserializer) (raw : Value) (indicator : ValidatedIndicator) :
    Option (Summary × Option DateTime) := do
  guard (indicator.input.kind = .ip)
  let data ← AbuseEnvelope.deserialize raw
  guard (sameAddress data.ipAddress indicator.lookupValue ∧
    data.abuseConfidenceScore.all (· ≤ 100))
  let lastReportedAt ← transpose
    (fun timestamp => (deserializer.parseFromRfc3339 timestamp).filter yearInRange)
    data.lastReportedAt
  return (.abuseipdb {
    abuseConfidenceScore := data.abuseConfidenceScore
    totalReports := data.totalReports
    distinctReporters := data.numDistinctUsers
    lastReportedAt
    countryCode := data.countryCode
    isp := data.isp
    domain := data.domain
    usageType := data.usageType
    isPublic := data.isPublic
    isTor := data.isTor
    isWhitelisted := data.isWhitelisted }, lastReportedAt)

/-! ### VirusTotal -/

/-- The attributes of an answer of VirusTotal. -/
structure VtAttributes where
  lastAnalysisStats : Option AnalysisStats
  reputation : Option Int64
  lastAnalysisDate : Option Int64
  country : Option String
  asn : Option UInt64
  asOwner : Option String
  md5 : Option String
  sha1 : Option String
  sha256 : Option String
  typeDescription : Option String

/-- The data of an answer of VirusTotal. -/
structure VtData where
  id : String
  objectType : String
  attributes : VtAttributes

/-- The counts under the names VirusTotal gives them. -/
def VtAnalysisStats.deserialize (document : Value) : Option AnalysisStats := do
  let field ← structFields false
    ["malicious", "suspicious", "harmless", "undetected", "timeout", "confirmed-timeout",
      "failure", "type-unsupported"] document
  return {
    malicious := ← optionalField asU64 (field "malicious")
    suspicious := ← optionalField asU64 (field "suspicious")
    harmless := ← optionalField asU64 (field "harmless")
    undetected := ← optionalField asU64 (field "undetected")
    timeout := ← optionalField asU64 (field "timeout")
    confirmedTimeout := ← optionalField asU64 (field "confirmed-timeout")
    failure := ← optionalField asU64 (field "failure")
    typeUnsupported := ← optionalField asU64 (field "type-unsupported") }

/-- The derived reader of the attributes. -/
def VtAttributes.deserialize (document : Value) : Option VtAttributes := do
  let field ← structFields false
    ["last_analysis_stats", "reputation", "last_analysis_date", "country", "asn", "as_owner",
      "md5", "sha1", "sha256", "type_description"] document
  return {
    lastAnalysisStats := ← optionalField VtAnalysisStats.deserialize (field "last_analysis_stats")
    reputation := ← optionalField asI64 (field "reputation")
    lastAnalysisDate := ← optionalField asI64 (field "last_analysis_date")
    country := ← optionalField asString (field "country")
    asn := ← optionalField asU64 (field "asn")
    asOwner := ← optionalField asString (field "as_owner")
    md5 := ← optionalField asString (field "md5")
    sha1 := ← optionalField asString (field "sha1")
    sha256 := ← optionalField asString (field "sha256")
    typeDescription := ← optionalField asString (field "type_description") }

/-- The derived reader of the data. -/
def VtData.deserialize (document : Value) : Option VtData := do
  let field ← structFields false ["id", "type", "attributes"] document
  return {
    id := ← requiredField asString (field "id")
    objectType := ← requiredField asString (field "type")
    attributes := ← requiredField VtAttributes.deserialize (field "attributes") }

/-- The derived reader of the envelope. -/
def VtEnvelope.deserialize (document : Value) : Option VtData := do
  let field ← structFields false ["data"] document
  requiredField VtData.deserialize (field "data")

/-- The hash a report has to be of. -/
def requestedHash (data : VtData) : Option HashAlgorithm → Option String
  | some .md5 => data.attributes.md5
  | some .sha1 => data.attributes.sha1
  | some .sha256 => some data.id
  | none => none

/-- What a report says of its object agrees with the indicator. -/
def identifies (data : VtData) (indicator : ValidatedIndicator) : Bool :=
  match indicator.input.kind with
  | .ip => data.objectType = "ip_address" ∧ sameAddress data.id indicator.lookupValue
  | .url => data.objectType = "url" ∧ validHash data.id 64
  | .hash =>
      let attributes := data.attributes
      data.objectType = "file" ∧ validHash data.id 64 ∧
        (requestedHash data indicator.hashAlgorithm).any
          (eqIgnoreAsciiCase · indicator.lookupValue) ∧
        attributes.md5.all (validHash · 32) ∧ attributes.sha1.all (validHash · 40) ∧
        attributes.sha256.all (validHash · 64) ∧
        attributes.sha256.all (eqIgnoreAsciiCase · data.id)

/-- The evidence of a report of VirusTotal. -/
def decodeVirustotal (raw : Value) (indicator : ValidatedIndicator) :
    Option (Summary × Option DateTime) := do
  let data ← VtEnvelope.deserialize raw
  guard (identifies data indicator)
  let attributes := data.attributes
  let lastAnalysisAt ← transpose
    (fun seconds => (DateTime.fromTimestamp seconds.toInt).filter yearInRange)
    attributes.lastAnalysisDate
  let ip := indicator.input.kind = .ip
  let file := indicator.input.kind = .hash
  return (.virustotal {
    analysisStats := attributes.lastAnalysisStats
    reputation := attributes.reputation
    lastAnalysisAt
    country := if ip then attributes.country else none
    asn := if ip then attributes.asn else none
    asOwner := if ip then attributes.asOwner else none
    md5 := if file then attributes.md5 else none
    sha1 := if file then attributes.sha1 else none
    sha256 := if file then attributes.sha256 else none
    fileType := if file then attributes.typeDescription else none }, lastAnalysisAt)

/-! ### Answers -/

/-- The code of `ErrorEnvelope`. -/
def ErrorEnvelope.deserialize (document : Value) : Option String := do
  let field ← structFields false ["error"] document
  requiredField (fun error => do
    let inner ← structFields false ["code"] error
    requiredField asString (inner "code")) (field "error")

/-- An answer that is not a success. -/
def decodeFailure (deserializer : Deserializer) (id : ProviderId) (status : UInt16)
    (body : List UInt8) (now : DateTime) : Except ErrorCode Outcome :=
  if status = 401 then .error .providerAuthenticationFailed
  else if status = 403 then .error .providerAccessDenied
  else if status = 429 then .error .quotaExhausted
  else if status = 404 ∧ id = .virustotal then
    -- Only the documented error code establishes a missing report.
    match (deserializer.document body).bind ErrorEnvelope.deserialize with
    | none => .error .providerRequestRejected
    | some code =>
        if code = "NotFoundError" then .ok (.notFound now) else .error .providerRequestRejected
  else if 500 ≤ status ∧ status ≤ 599 then .error .providerUnavailable
  else .error .providerRequestRejected

/-- The evidence of a report. -/
def decodeReport (deserializer : Deserializer) (id : ProviderId) (raw : Value)
    (indicator : ValidatedIndicator) : Option (Summary × Option DateTime) :=
  match id with
  | .abuseipdb => decodeAbuseipdb deserializer raw indicator
  | .virustotal => decodeVirustotal raw indicator

/-- `Adapter::decode`. -/
def decode (serializer : Serializer) (deserializer : Deserializer) (id : ProviderId)
    (status : UInt16) (body : List UInt8) (indicator : ValidatedIndicator) (now : DateTime) :
    Except ErrorCode Outcome :=
  if status < 200 ∨ 300 ≤ status then decodeFailure deserializer id status body now
  else
    match (deserializer.document body).map Value.deserialize with
    | none => .error .invalidResponse
    | some raw =>
        match decodeReport deserializer id raw indicator with
        | none => .error .invalidResponse
        | some (summary, providerUpdatedAt) =>
            match serializer.toWriter LimitedWriter.write (.new summaryByteLimit)
                (serializer.summary summary) with
            | none => .error .responseTooLarge
            | some _ =>
                .ok {
                  status := .ok
                  summary := some summary
                  fetchedAt := some now
                  providerUpdatedAt
                  error := none
                  raw := some raw }

/-! ### What is decoded -/

/-- The provider a summary is of. -/
def Summary.provider : Summary → ProviderId
  | .abuseipdb _ => .abuseipdb
  | .virustotal _ => .virustotal

section Decoded

variable {serializer : Serializer} {deserializer : Deserializer} {id : ProviderId}
  {status : UInt16} {body : List UInt8} {indicator : ValidatedIndicator} {now : DateTime}
  {outcome : Outcome} {raw : Value} {report : Summary × Option DateTime}

/-- A report is of its provider, and no null. -/
theorem decodeReport_spec (decoded : decodeReport deserializer id raw indicator = some report) :
    report.1.provider = id ∧ raw ≠ .null := by
  have notNull : raw ≠ .null := by
    rintro rfl
    cases id with
    | abuseipdb =>
        simp [decodeReport, decodeAbuseipdb, AbuseEnvelope.deserialize, structFields] at decoded
    | virustotal =>
        simp [decodeReport, decodeVirustotal, VtEnvelope.deserialize, structFields] at decoded
  refine ⟨?_, notNull⟩
  cases id with
  | abuseipdb =>
      simp only [decodeReport, decodeAbuseipdb, Option.bind_eq_bind, Option.bind_eq_some_iff,
        Option.pure_def, Option.some.injEq] at decoded
      obtain ⟨_, _, _, _, _, _, _, _, rfl⟩ := decoded
      rfl
  | virustotal =>
      simp only [decodeReport, decodeVirustotal, Option.bind_eq_bind, Option.bind_eq_some_iff,
        Option.pure_def, Option.some.injEq] at decoded
      obtain ⟨_, _, _, _, _, _, rfl⟩ := decoded
      rfl

/-- A decoded answer is an absence, or a report with a short summary of its
provider and the tree of its document. -/
theorem decode_ok
    (decoded : decode serializer deserializer id status body indicator now = .ok outcome) :
    outcome = .notFound now ∨
      ∃ (summary : Summary) (providerUpdatedAt : Option DateTime) (document : Value), outcome = {
          status := .ok
          summary := some summary
          fetchedAt := some now
          providerUpdatedAt
          error := none
          raw := some document.deserialize } ∧
        summary.provider = id ∧ document.deserialize ≠ .null ∧
        (serializer.toVec (serializer.summary summary)).length ≤ summaryByteLimit := by
  unfold decode at decoded
  split at decoded
  · left
    unfold decodeFailure at decoded
    repeat' split at decoded
    all_goals cases decoded
    rfl
  right
  split at decoded
  · cases decoded
  rename_i raw parsed
  split at decoded
  · cases decoded
  rename_i summary providerUpdatedAt reported
  rw [serializer.toWriter_limited] at decoded
  split at decoded
  · cases decoded
  rename_i writer written
  split at written
  · rename_i short
    cases decoded
    obtain ⟨document, _, rfl⟩ := Option.map_eq_some_iff.mp parsed
    obtain ⟨provider, notNull⟩ := decodeReport_spec reported
    exact ⟨summary, providerUpdatedAt, document, rfl, provider, notNull, short⟩
  · cases written

end Decoded

end RustEnrich
