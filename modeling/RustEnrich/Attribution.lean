import RustEnrich.Providers
import RustEnrich.Serialization.Fields
import RustEnrich.Validation.LookupValue
import Mathlib.Tactic.Tauto

/-!
# Reports and what they are about

Which documents are reports about an indicator, as a relation: the document
identifies the indicator, and the summary holds field by field what the document
says, with nothing where it says nothing. `Adapter::decode` accepts exactly
these.
-/

namespace RustEnrich

open Serialization

/-! ### AbuseIPDB -/

/-- The fields of `AbuseData`. -/
def abuseFields : List String :=
  ["ipAddress", "abuseConfidenceScore", "totalReports", "numDistinctUsers", "lastReportedAt",
    "countryCode", "isp", "domain", "usageType", "isPublic", "isTor", "isWhitelisted"]

/-- An RFC 3339 time in the years 0 to 9999. -/
def IsTimestamp (deserializer : Deserializer) (value : Value) (instant : DateTime) : Prop :=
  ∃ text, IsString value text ∧
    (deserializer.parseFromRfc3339 text).filter yearInRange = some instant

/-- What AbuseIPDB tells of an address. -/
structure AbuseipdbEvidence (deserializer : Deserializer) (data : Value)
    (summary : AbuseipdbSummary) : Prop where
  abuseConfidenceScore :
    Optional IsU64 abuseFields "abuseConfidenceScore" data summary.abuseConfidenceScore
  totalReports : Optional IsU64 abuseFields "totalReports" data summary.totalReports
  distinctReporters : Optional IsU64 abuseFields "numDistinctUsers" data summary.distinctReporters
  lastReportedAt :
    Optional (IsTimestamp deserializer) abuseFields "lastReportedAt" data summary.lastReportedAt
  countryCode : Optional IsString abuseFields "countryCode" data summary.countryCode
  isp : Optional IsString abuseFields "isp" data summary.isp
  domain : Optional IsString abuseFields "domain" data summary.domain
  usageType : Optional IsString abuseFields "usageType" data summary.usageType
  isPublic : Optional IsBool abuseFields "isPublic" data summary.isPublic
  isTor : Optional IsBool abuseFields "isTor" data summary.isTor
  isWhitelisted : Optional IsBool abuseFields "isWhitelisted" data summary.isWhitelisted

/-- Texts of one address. -/
def SameAddress (left right : String) : Prop :=
  ∃ address, IpAddr.parse left = some address ∧ IpAddr.parse right = some address

/-- A report of AbuseIPDB about an address. -/
structure AbuseipdbReport (deserializer : Deserializer) (requested : String) (raw data : Value)
    (summary : AbuseipdbSummary) : Prop where
  envelope : Struct ["data"] raw
  enclosed : Field ["data"] "data" raw data
  shape : Struct abuseFields data
  identity : ∃ returned, Required IsString abuseFields "ipAddress" data returned ∧
    SameAddress returned requested
  score : ∀ score, summary.abuseConfidenceScore = some score → score ≤ 100
  evidence : AbuseipdbEvidence deserializer data summary

section Reading

variable {α β : Type} {names : List String} {name : String} {document : Value}
  {type : Value → α → Prop}

/-- A field that is read on where it is present. -/
theorem Serialization.Optional.transposed {read : α → Option β} {content : Option β} :
    (∃ told, Optional type names name document told ∧ transpose read told = some content) ↔
      Optional (fun value content => ∃ told, type value told ∧ read told = some content) names name
        document content := by
  constructor
  · intro both
    obtain ⟨told, field, reading⟩ := both
    cases field with
    | absent untold =>
        cases reading
        exact .absent untold
    | present found notNull typed =>
        obtain ⟨inner, reads, rfl⟩ := Option.map_eq_some_iff.mp reading
        exact .present found notNull ⟨_, typed, reads⟩
  · intro field
    cases field with
    | absent untold => exact ⟨none, .absent untold, rfl⟩
    | present found notNull typed =>
        obtain ⟨told, typed, reads⟩ := typed
        exact ⟨some told, .present found notNull typed, by rw [transpose, reads]; rfl⟩

/-- A struct of one field. -/
theorem envelope_eq_some {read : Value → Option α} {content : α} :
    ((structFields false [name] document).bind fun field => requiredField read (field name)) =
        some content ↔
      Struct [name] document ∧ ∃ value, Field [name] name document value ∧
        read value = some content := by
  simp only [Option.bind_eq_some_iff, structFields_eq_some]
  constructor
  · intro found
    obtain ⟨_, ⟨shape, rfl⟩, reads⟩ := found
    exact ⟨shape, (shape.required (fun _ _ => Iff.rfl) (List.pairwise_singleton _ name)
      (List.mem_singleton.mpr rfl)).mp reads⟩
  · intro found
    obtain ⟨shape, reads⟩ := found
    exact ⟨_, ⟨shape, rfl⟩, (shape.required (fun _ _ => Iff.rfl)
      (List.pairwise_singleton _ name) (List.mem_singleton.mpr rfl)).mpr reads⟩

end Reading

/-- The comparison of addresses decides whether they are the same. -/
theorem sameAddress_iff {left right : String} :
    sameAddress left right = true ↔ SameAddress left right := by
  unfold sameAddress SameAddress
  split
  · rename_i one other parsed again
    simp [parsed, again, eq_comm]
  · rename_i different
    refine iff_of_false Bool.false_ne_true fun same => ?_
    obtain ⟨address, one, other⟩ := same
    exact different address address one other

/-- The typed fields of `AbuseData`. -/
theorem AbuseData.deserialize_eq_some {document : Value} {data : AbuseData} :
    AbuseData.deserialize document = some data ↔
      Struct abuseFields document ∧
        Required IsString abuseFields "ipAddress" document data.ipAddress ∧
        Optional IsU64 abuseFields "abuseConfidenceScore" document data.abuseConfidenceScore ∧
        Optional IsU64 abuseFields "totalReports" document data.totalReports ∧
        Optional IsU64 abuseFields "numDistinctUsers" document data.numDistinctUsers ∧
        Optional IsString abuseFields "lastReportedAt" document data.lastReportedAt ∧
        Optional IsString abuseFields "countryCode" document data.countryCode ∧
        Optional IsString abuseFields "isp" document data.isp ∧
        Optional IsString abuseFields "domain" document data.domain ∧
        Optional IsString abuseFields "usageType" document data.usageType ∧
        Optional IsBool abuseFields "isPublic" document data.isPublic ∧
        Optional IsBool abuseFields "isTor" document data.isTor ∧
        Optional IsBool abuseFields "isWhitelisted" document data.isWhitelisted := by
  unfold AbuseData.deserialize
  constructor
  · intro read
    obtain ⟨_, found, read⟩ := Option.bind_eq_some_iff.mp read
    obtain ⟨shape, rfl⟩ := structFields_eq_some.mp found
    obtain ⟨_, ipAddress, read⟩ := Option.bind_eq_some_iff.mp read
    obtain ⟨_, score, read⟩ := Option.bind_eq_some_iff.mp read
    obtain ⟨_, total, read⟩ := Option.bind_eq_some_iff.mp read
    obtain ⟨_, users, read⟩ := Option.bind_eq_some_iff.mp read
    obtain ⟨_, reported, read⟩ := Option.bind_eq_some_iff.mp read
    obtain ⟨_, country, read⟩ := Option.bind_eq_some_iff.mp read
    obtain ⟨_, isp, read⟩ := Option.bind_eq_some_iff.mp read
    obtain ⟨_, domain, read⟩ := Option.bind_eq_some_iff.mp read
    obtain ⟨_, usage, read⟩ := Option.bind_eq_some_iff.mp read
    obtain ⟨_, isPublic, read⟩ := Option.bind_eq_some_iff.mp read
    obtain ⟨_, isTor, read⟩ := Option.bind_eq_some_iff.mp read
    obtain ⟨_, isWhitelisted, read⟩ := Option.bind_eq_some_iff.mp read
    cases read
    exact ⟨shape, shape.requiredString.mp ipAddress,
      shape.u64.mp score, shape.u64.mp total,
      shape.u64.mp users, shape.string.mp reported,
      shape.string.mp country, shape.string.mp isp,
      shape.string.mp domain, shape.string.mp usage,
      shape.bool.mp isPublic, shape.bool.mp isTor,
      shape.bool.mp isWhitelisted⟩
  · intro typed
    obtain ⟨shape, ipAddress, score, total, users, reported, country, isp, domain, usage, isPublic,
      isTor, isWhitelisted⟩ := typed
    refine Option.bind_eq_some_iff.mpr ⟨_, structFields_eq_some.mpr ⟨shape, rfl⟩, ?_⟩
    refine Option.bind_eq_some_iff.mpr
      ⟨_, shape.requiredString.mpr ipAddress, ?_⟩
    refine Option.bind_eq_some_iff.mpr ⟨_, shape.u64.mpr score, ?_⟩
    refine Option.bind_eq_some_iff.mpr ⟨_, shape.u64.mpr total, ?_⟩
    refine Option.bind_eq_some_iff.mpr ⟨_, shape.u64.mpr users, ?_⟩
    refine Option.bind_eq_some_iff.mpr ⟨_, shape.string.mpr reported, ?_⟩
    refine Option.bind_eq_some_iff.mpr ⟨_, shape.string.mpr country, ?_⟩
    refine Option.bind_eq_some_iff.mpr ⟨_, shape.string.mpr isp, ?_⟩
    refine Option.bind_eq_some_iff.mpr ⟨_, shape.string.mpr domain, ?_⟩
    refine Option.bind_eq_some_iff.mpr ⟨_, shape.string.mpr usage, ?_⟩
    refine Option.bind_eq_some_iff.mpr ⟨_, shape.bool.mpr isPublic, ?_⟩
    refine Option.bind_eq_some_iff.mpr ⟨_, shape.bool.mpr isTor, ?_⟩
    exact Option.bind_eq_some_iff.mpr
      ⟨_, shape.bool.mpr isWhitelisted, rfl⟩

/-- A bound on what may be absent. -/
theorem all_le_iff {score : Option UInt64} {limit : UInt64} :
    (score.all (· ≤ limit) = true) ↔ ∀ value, score = some value → value ≤ limit := by
  cases score with
  | none => simp
  | some value => simp

/-- The decoder takes exactly the reports of AbuseIPDB. -/
theorem decodeAbuseipdb_eq_some {deserializer : Deserializer} {raw : Value}
    {indicator : ValidatedIndicator} {summary : Summary} {updated : Option DateTime} :
    decodeAbuseipdb deserializer raw indicator = some (summary, updated) ↔
      indicator.input.kind = .ip ∧ ∃ data evidence,
        AbuseipdbReport deserializer indicator.lookupValue raw data evidence ∧
          summary = .abuseipdb evidence ∧ updated = evidence.lastReportedAt := by
  unfold decodeAbuseipdb
  constructor
  · intro decoded
    obtain ⟨_, kind, decoded⟩ := Option.bind_eq_some_iff.mp decoded
    obtain ⟨data, enveloped, decoded⟩ := Option.bind_eq_some_iff.mp decoded
    obtain ⟨_, checked, decoded⟩ := Option.bind_eq_some_iff.mp decoded
    obtain ⟨last, reported, decoded⟩ := Option.bind_eq_some_iff.mp decoded
    cases decoded
    obtain ⟨envelope, document, enclosed, read⟩ := envelope_eq_some.mp enveloped
    obtain ⟨shape, ipAddress, score, total, users, at_, country, isp, domain, usage, isPublic,
      isTor, isWhitelisted⟩ := AbuseData.deserialize_eq_some.mp read
    rw [Option.guard_eq_some'] at kind checked
    refine ⟨kind, document, _, ⟨envelope, enclosed, shape, ⟨_, ipAddress,
      sameAddress_iff.mp checked.1⟩, all_le_iff.mp checked.2, ?_⟩, rfl, rfl⟩
    exact ⟨score, total, users, Optional.transposed.mp ⟨_, at_, reported⟩, country, isp, domain,
      usage, isPublic, isTor, isWhitelisted⟩
  · intro report
    obtain ⟨kind, document, evidence, ⟨envelope, enclosed, shape, ⟨returned, ipAddress, same⟩,
      within, told⟩, rfl, rfl⟩ := report
    obtain ⟨last, at_, reported⟩ := Optional.transposed.mpr told.lastReportedAt
    have read : AbuseData.deserialize document = some {
        ipAddress := returned
        abuseConfidenceScore := evidence.abuseConfidenceScore
        totalReports := evidence.totalReports
        numDistinctUsers := evidence.distinctReporters
        lastReportedAt := last
        countryCode := evidence.countryCode
        isp := evidence.isp
        domain := evidence.domain
        usageType := evidence.usageType
        isPublic := evidence.isPublic
        isTor := evidence.isTor
        isWhitelisted := evidence.isWhitelisted } :=
      AbuseData.deserialize_eq_some.mpr ⟨shape, ipAddress, told.abuseConfidenceScore,
        told.totalReports, told.distinctReporters, at_, told.countryCode, told.isp, told.domain,
        told.usageType, told.isPublic, told.isTor, told.isWhitelisted⟩
    refine Option.bind_eq_some_iff.mpr ⟨(), (Option.guard_eq_some' _).mpr kind, ?_⟩
    refine Option.bind_eq_some_iff.mpr
      ⟨_, envelope_eq_some.mpr ⟨envelope, document, enclosed, read⟩, ?_⟩
    refine Option.bind_eq_some_iff.mpr ⟨(), (Option.guard_eq_some' _).mpr
      ⟨sameAddress_iff.mpr same, all_le_iff.mpr within⟩, ?_⟩
    exact Option.bind_eq_some_iff.mpr ⟨_, reported, rfl⟩

/-! ### VirusTotal -/

/-- The fields of `VtData`. -/
def vtFields : List String := ["id", "type", "attributes"]

/-- The fields of `VtAttributes`. -/
def attributeFields : List String :=
  ["last_analysis_stats", "reputation", "last_analysis_date", "country", "asn", "as_owner", "md5",
    "sha1", "sha256", "type_description"]

/-- The fields of `VtAnalysisStats`. -/
def statsFields : List String :=
  ["malicious", "suspicious", "harmless", "undetected", "timeout", "confirmed-timeout", "failure",
    "type-unsupported"]

/-- A document tells these counts. -/
structure IsAnalysisStats (document : Value) (stats : AnalysisStats) : Prop where
  shape : Struct statsFields document
  malicious : Optional IsU64 statsFields "malicious" document stats.malicious
  suspicious : Optional IsU64 statsFields "suspicious" document stats.suspicious
  harmless : Optional IsU64 statsFields "harmless" document stats.harmless
  undetected : Optional IsU64 statsFields "undetected" document stats.undetected
  timeout : Optional IsU64 statsFields "timeout" document stats.timeout
  confirmedTimeout : Optional IsU64 statsFields "confirmed-timeout" document stats.confirmedTimeout
  failure : Optional IsU64 statsFields "failure" document stats.failure
  typeUnsupported : Optional IsU64 statsFields "type-unsupported" document stats.typeUnsupported

/-- Seconds since the epoch, in the years 0 to 9999. -/
def IsInstant (value : Value) (instant : DateTime) : Prop :=
  ∃ seconds, IsI64 value seconds ∧
    (DateTime.fromTimestamp seconds.toInt).filter yearInRange = some instant

/-- A field that is taken over for some kinds, and for the others only has to be
of its type. -/
def Mapped {α : Type} (mapped : Prop) (type : Value → α → Prop) (name : String) (document : Value)
    (content : Option α) : Prop :=
  ∃ told, Optional type attributeFields name document told ∧ (mapped → content = told) ∧
    (¬ mapped → content = none)

/-- What VirusTotal tells of an object of a kind. -/
structure VirustotalEvidence (kind : IndicatorKind) (attributes : Value)
    (summary : VirustotalSummary) : Prop where
  analysisStats : Optional IsAnalysisStats attributeFields "last_analysis_stats" attributes
    summary.analysisStats
  reputation : Optional IsI64 attributeFields "reputation" attributes summary.reputation
  lastAnalysisAt :
    Optional IsInstant attributeFields "last_analysis_date" attributes summary.lastAnalysisAt
  country : Mapped (kind = .ip) IsString "country" attributes summary.country
  asn : Mapped (kind = .ip) IsU64 "asn" attributes summary.asn
  asOwner : Mapped (kind = .ip) IsString "as_owner" attributes summary.asOwner
  md5 : Mapped (kind = .hash) IsString "md5" attributes summary.md5
  sha1 : Mapped (kind = .hash) IsString "sha1" attributes summary.sha1
  sha256 : Mapped (kind = .hash) IsString "sha256" attributes summary.sha256
  fileType : Mapped (kind = .hash) IsString "type_description" attributes summary.fileType

/-- The hash of an object by an algorithm. -/
inductive HashOf (id : String) (attributes : Value) : HashAlgorithm → String → Prop
  | md5 {hash : String} (told : Required IsString attributeFields "md5" attributes hash) :
      HashOf id attributes .md5 hash
  | sha1 {hash : String} (told : Required IsString attributeFields "sha1" attributes hash) :
      HashOf id attributes .sha1 hash
  | sha256 : HashOf id attributes .sha256 id

/-- The object of a report is the indicator. -/
inductive Identifies (indicator : ValidatedIndicator) (id objectType : String)
    (attributes : Value) : Prop
  | ip (kind : indicator.input.kind = .ip) (type : objectType = "ip_address")
      (address : SameAddress id indicator.input.value)
  | url (kind : indicator.input.kind = .url) (type : objectType = "url")
      (digest : validHash id 64 = true)
  | hash {algorithm : HashAlgorithm} {hash : String} (kind : indicator.input.kind = .hash)
      (type : objectType = "file") (digest : validHash id 64 = true)
      (requested : indicator.hashAlgorithm = some algorithm)
      (told : HashOf id attributes algorithm hash)
      (same : eqIgnoreAsciiCase hash indicator.input.value = true)
      (wellFormed : ∀ name length, (name, length) ∈ [("md5", 32), ("sha1", 40), ("sha256", 64)] →
        ∀ text, Required IsString attributeFields name attributes text →
          validHash text length = true)
      (canonical : ∀ text, Required IsString attributeFields "sha256" attributes text →
        eqIgnoreAsciiCase text id = true)

/-- A report of VirusTotal about an indicator. -/
structure VirustotalReport (indicator : ValidatedIndicator) (raw data attributes : Value)
    (summary : VirustotalSummary) : Prop where
  envelope : Struct ["data"] raw
  enclosed : Field ["data"] "data" raw data
  shape : Struct vtFields data
  described : Field vtFields "attributes" data attributes
  form : Struct attributeFields attributes
  identity : ∃ id objectType, Required IsString vtFields "id" data id ∧
    Required IsString vtFields "type" data objectType ∧
      Identifies indicator id objectType attributes
  evidence : VirustotalEvidence indicator.input.kind attributes summary

/-- The reader takes exactly the documents that tell the counts. -/
theorem VtAnalysisStats.deserialize_eq_some {document : Value} {stats : AnalysisStats} :
    VtAnalysisStats.deserialize document = some stats ↔ IsAnalysisStats document stats := by
  unfold VtAnalysisStats.deserialize
  constructor
  · intro read
    obtain ⟨_, found, read⟩ := Option.bind_eq_some_iff.mp read
    obtain ⟨shape, rfl⟩ := structFields_eq_some.mp found
    obtain ⟨_, malicious, read⟩ := Option.bind_eq_some_iff.mp read
    obtain ⟨_, suspicious, read⟩ := Option.bind_eq_some_iff.mp read
    obtain ⟨_, harmless, read⟩ := Option.bind_eq_some_iff.mp read
    obtain ⟨_, undetected, read⟩ := Option.bind_eq_some_iff.mp read
    obtain ⟨_, timeout, read⟩ := Option.bind_eq_some_iff.mp read
    obtain ⟨_, confirmed, read⟩ := Option.bind_eq_some_iff.mp read
    obtain ⟨_, failure, read⟩ := Option.bind_eq_some_iff.mp read
    obtain ⟨_, unsupported, read⟩ := Option.bind_eq_some_iff.mp read
    cases read
    exact ⟨shape, shape.u64.mp malicious,
      shape.u64.mp suspicious, shape.u64.mp harmless,
      shape.u64.mp undetected, shape.u64.mp timeout,
      shape.u64.mp confirmed, shape.u64.mp failure,
      shape.u64.mp unsupported⟩
  · intro typed
    obtain ⟨shape, malicious, suspicious, harmless, undetected, timeout, confirmed, failure,
      unsupported⟩ := typed
    refine Option.bind_eq_some_iff.mpr ⟨_, structFields_eq_some.mpr ⟨shape, rfl⟩, ?_⟩
    refine Option.bind_eq_some_iff.mpr ⟨_, shape.u64.mpr malicious, ?_⟩
    refine Option.bind_eq_some_iff.mpr ⟨_, shape.u64.mpr suspicious, ?_⟩
    refine Option.bind_eq_some_iff.mpr ⟨_, shape.u64.mpr harmless, ?_⟩
    refine Option.bind_eq_some_iff.mpr ⟨_, shape.u64.mpr undetected, ?_⟩
    refine Option.bind_eq_some_iff.mpr ⟨_, shape.u64.mpr timeout, ?_⟩
    refine Option.bind_eq_some_iff.mpr ⟨_, shape.u64.mpr confirmed, ?_⟩
    refine Option.bind_eq_some_iff.mpr ⟨_, shape.u64.mpr failure, ?_⟩
    exact Option.bind_eq_some_iff.mpr
      ⟨_, shape.u64.mpr unsupported, rfl⟩

/-- The typed fields of `VtAttributes`. -/
theorem VtAttributes.deserialize_eq_some {document : Value} {attributes : VtAttributes} :
    VtAttributes.deserialize document = some attributes ↔
      Struct attributeFields document ∧
        Optional IsAnalysisStats attributeFields "last_analysis_stats" document
          attributes.lastAnalysisStats ∧
        Optional IsI64 attributeFields "reputation" document attributes.reputation ∧
        Optional IsI64 attributeFields "last_analysis_date" document attributes.lastAnalysisDate ∧
        Optional IsString attributeFields "country" document attributes.country ∧
        Optional IsU64 attributeFields "asn" document attributes.asn ∧
        Optional IsString attributeFields "as_owner" document attributes.asOwner ∧
        Optional IsString attributeFields "md5" document attributes.md5 ∧
        Optional IsString attributeFields "sha1" document attributes.sha1 ∧
        Optional IsString attributeFields "sha256" document attributes.sha256 ∧
        Optional IsString attributeFields "type_description" document
          attributes.typeDescription := by
  have reads := @VtAnalysisStats.deserialize_eq_some
  unfold VtAttributes.deserialize
  constructor
  · intro read
    obtain ⟨_, found, read⟩ := Option.bind_eq_some_iff.mp read
    obtain ⟨shape, rfl⟩ := structFields_eq_some.mp found
    obtain ⟨_, stats, read⟩ := Option.bind_eq_some_iff.mp read
    obtain ⟨_, reputation, read⟩ := Option.bind_eq_some_iff.mp read
    obtain ⟨_, analyzed, read⟩ := Option.bind_eq_some_iff.mp read
    obtain ⟨_, country, read⟩ := Option.bind_eq_some_iff.mp read
    obtain ⟨_, asn, read⟩ := Option.bind_eq_some_iff.mp read
    obtain ⟨_, asOwner, read⟩ := Option.bind_eq_some_iff.mp read
    obtain ⟨_, md5, read⟩ := Option.bind_eq_some_iff.mp read
    obtain ⟨_, sha1, read⟩ := Option.bind_eq_some_iff.mp read
    obtain ⟨_, sha256, read⟩ := Option.bind_eq_some_iff.mp read
    obtain ⟨_, description, read⟩ := Option.bind_eq_some_iff.mp read
    cases read
    exact ⟨shape, (shape.optional fun _ _ => reads).mp stats,
      shape.i64.mp reputation, shape.i64.mp analyzed,
      shape.string.mp country, shape.u64.mp asn,
      shape.string.mp asOwner, shape.string.mp md5,
      shape.string.mp sha1, shape.string.mp sha256,
      shape.string.mp description⟩
  · intro typed
    obtain ⟨shape, stats, reputation, analyzed, country, asn, asOwner, md5, sha1, sha256,
      description⟩ := typed
    refine Option.bind_eq_some_iff.mpr ⟨_, structFields_eq_some.mpr ⟨shape, rfl⟩, ?_⟩
    refine Option.bind_eq_some_iff.mpr
      ⟨_, (shape.optional fun _ _ => reads).mpr stats, ?_⟩
    refine Option.bind_eq_some_iff.mpr ⟨_, shape.i64.mpr reputation, ?_⟩
    refine Option.bind_eq_some_iff.mpr ⟨_, shape.i64.mpr analyzed, ?_⟩
    refine Option.bind_eq_some_iff.mpr ⟨_, shape.string.mpr country, ?_⟩
    refine Option.bind_eq_some_iff.mpr ⟨_, shape.u64.mpr asn, ?_⟩
    refine Option.bind_eq_some_iff.mpr ⟨_, shape.string.mpr asOwner, ?_⟩
    refine Option.bind_eq_some_iff.mpr ⟨_, shape.string.mpr md5, ?_⟩
    refine Option.bind_eq_some_iff.mpr ⟨_, shape.string.mpr sha1, ?_⟩
    refine Option.bind_eq_some_iff.mpr ⟨_, shape.string.mpr sha256, ?_⟩
    exact Option.bind_eq_some_iff.mpr
      ⟨_, shape.string.mpr description, rfl⟩

/-- The reader takes exactly the documents with these fields. -/
theorem VtData.deserialize_eq_some {document : Value} {data : VtData} :
    VtData.deserialize document = some data ↔
      Struct vtFields document ∧ Required IsString vtFields "id" document data.id ∧
        Required IsString vtFields "type" document data.objectType ∧
        ∃ attributes, Field vtFields "attributes" document attributes ∧
          VtAttributes.deserialize attributes = some data.attributes := by
  unfold VtData.deserialize
  constructor
  · intro read
    obtain ⟨_, found, read⟩ := Option.bind_eq_some_iff.mp read
    obtain ⟨shape, rfl⟩ := structFields_eq_some.mp found
    obtain ⟨_, id, read⟩ := Option.bind_eq_some_iff.mp read
    obtain ⟨_, type, read⟩ := Option.bind_eq_some_iff.mp read
    obtain ⟨_, attributes, read⟩ := Option.bind_eq_some_iff.mp read
    cases read
    exact ⟨shape, shape.requiredString.mp id,
      shape.requiredString.mp type,
      (shape.required fun _ _ => Iff.rfl).mp attributes⟩
  · intro typed
    obtain ⟨shape, id, type, attributes⟩ := typed
    refine Option.bind_eq_some_iff.mpr ⟨_, structFields_eq_some.mpr ⟨shape, rfl⟩, ?_⟩
    refine Option.bind_eq_some_iff.mpr ⟨_, shape.requiredString.mpr id, ?_⟩
    refine Option.bind_eq_some_iff.mpr ⟨_, shape.requiredString.mpr type, ?_⟩
    exact Option.bind_eq_some_iff.mpr
      ⟨_, (shape.required fun _ _ => Iff.rfl).mpr attributes, rfl⟩

/-- A mapped field has what the document tells, where it is mapped. -/
theorem mapped_iff {α : Type} {mapped : Prop} [Decidable mapped] {type : Value → α → Prop}
    {name : String} {document : Value} {content : Option α} :
    Mapped mapped type name document content ↔
      ∃ told, Optional type attributeFields name document told ∧
        content = if mapped then told else none := by
  refine exists_congr fun told => and_congr_right fun _ => ?_
  by_cases held : mapped
  · simp [held]
  · simp [held]

section Identity

variable {parser : UrlParser} {indicator : ValidatedIndicator} {data : VtData} {attributes : Value}

/-- A hash in small letters is compared as the one it comes from. -/
theorem eqIgnoreAsciiCase_lookup {hash value : String} :
    eqIgnoreAsciiCase hash (.ofList (toAsciiLowercase value.toList)) =
      eqIgnoreAsciiCase hash value := by
  unfold eqIgnoreAsciiCase
  rw [String.toList_ofList, toAsciiLowercase_idem]

/-- An address in its own form is compared as the text it comes from. -/
theorem sameAddress_lookup {value returned : String} {address : IpAddr}
    (read : IpAddr.parse value = some address) :
    SameAddress returned address.toString ↔ SameAddress returned value := by
  unfold SameAddress
  rw [IpAddr.parse_toString, read]

/-- What holds of an optional string holds of what it tells. -/
theorem all_told {name : String} {content : Option String} {check : String → Bool}
    (form : Struct attributeFields attributes)
    (field : Optional IsString attributeFields name attributes content)
    (known : name ∈ attributeFields := by decide) :
    content.all check = true ↔
      ∀ text, Required IsString attributeFields name attributes text → check text = true := by
  have told := fun text => @Struct.told _ _ _ form _ field (by decide) known text
  simp only [← told]
  cases content with
  | none => simp
  | some text => simp

variable (form : Struct attributeFields attributes)
  (md5 : Optional IsString attributeFields "md5" attributes data.attributes.md5)
  (sha1 : Optional IsString attributeFields "sha1" attributes data.attributes.sha1)
  (sha256 : Optional IsString attributeFields "sha256" attributes data.attributes.sha256)

include form md5 sha1 in
/-- The hash compared is the one of the algorithm. -/
theorem requestedHash_eq_some {algorithm : HashAlgorithm} {hash : String} :
    requestedHash data (some algorithm) = some hash ↔ HashOf data.id attributes algorithm hash := by
  cases algorithm with
  | md5 =>
      refine (form.told md5).trans ?_
      exact ⟨.md5, fun told => by cases told; assumption⟩
  | sha1 =>
      refine (form.told sha1).trans ?_
      exact ⟨.sha1, fun told => by cases told; assumption⟩
  | sha256 =>
      constructor
      · intro same
        cases same
        exact .sha256
      · intro told
        cases told
        rfl

include form md5 sha1 sha256 in
/-- The check of the hashes is the same as a check of each. -/
theorem wellFormed_iff :
    (data.attributes.md5.all (validHash · 32) = true ∧
      data.attributes.sha1.all (validHash · 40) = true ∧
      data.attributes.sha256.all (validHash · 64) = true) ↔
    ∀ name length, (name, length) ∈ [("md5", 32), ("sha1", 40), ("sha256", 64)] →
      ∀ text, Required IsString attributeFields name attributes text →
        validHash text length = true := by
  rw [all_told form md5, all_told form sha1, all_told form sha256]
  constructor
  · intro each name length member
    simp only [List.mem_cons, Prod.mk.injEq, List.not_mem_nil, or_false] at member
    rcases member with ⟨rfl, rfl⟩ | ⟨rfl, rfl⟩ | ⟨rfl, rfl⟩
    · exact each.1
    · exact each.2.1
    · exact each.2.2
  · intro every
    exact ⟨every "md5" 32 (by simp), every "sha1" 40 (by simp), every "sha256" 64 (by simp)⟩

include form md5 sha1 sha256 in
/-- The check of the identity decides whether the report is of the indicator. -/
theorem identifies_iff
    (looksUp : LooksUp parser indicator.input.kind indicator.input.value indicator.lookupValue
      indicator.hashAlgorithm) :
    identifies data indicator = true ↔ Identifies indicator data.id data.objectType attributes := by
  obtain ⟨⟨kind, value⟩, lookupValue, hashAlgorithm⟩ := indicator
  dsimp only at looksUp
  cases looksUp with
  | ip read =>
      simp only [identifies, decide_eq_true_eq, sameAddress_iff, sameAddress_lookup read]
      constructor
      · intro same
        exact .ip rfl same.1 same.2
      · intro identity
        cases identity with
        | ip _ type address => exact ⟨type, address⟩
        | url kind => cases kind
        | hash kind => cases kind
  | url valid =>
      simp only [identifies, decide_eq_true_eq]
      constructor
      · intro same
        exact .url rfl same.1 same.2
      · intro identity
        cases identity with
        | ip kind => cases kind
        | url _ type digest => exact ⟨type, digest⟩
        | hash kind => cases kind
  | @hash _ algorithm hexadecimal sized =>
      simp only [identifies, decide_eq_true_eq, Option.any_eq_true, eqIgnoreAsciiCase_lookup]
      have canonical_ := @all_told _ _ _ (eqIgnoreAsciiCase · data.id) form sha256 (by decide)
      rw [canonical_]
      constructor
      · intro same
        obtain ⟨type, digest, ⟨hash, requested, equal⟩, first, second, third, canonical⟩ := same
        exact .hash rfl type digest rfl ((requestedHash_eq_some form md5 sha1).mp requested) equal
          ((wellFormed_iff form md5 sha1 sha256).mp ⟨first, second, third⟩) canonical
      · intro identity
        cases identity with
        | ip kind => cases kind
        | url kind => cases kind
        | hash _ type digest requested told same wellFormed canonical =>
            cases requested
            obtain ⟨first, second, third⟩ := (wellFormed_iff form md5 sha1 sha256).mpr wellFormed
            exact ⟨type, digest, ⟨_, (requestedHash_eq_some form md5 sha1).mpr told, same⟩, first,
              second, third, canonical⟩

end Identity

/-- The decoder takes exactly the reports of VirusTotal. -/
theorem decodeVirustotal_eq_some {parser : UrlParser} {raw : Value} {indicator : ValidatedIndicator}
    {summary : Summary} {updated : Option DateTime}
    (looksUp : LooksUp parser indicator.input.kind indicator.input.value indicator.lookupValue
      indicator.hashAlgorithm) :
    decodeVirustotal raw indicator = some (summary, updated) ↔
      ∃ data attributes evidence, VirustotalReport indicator raw data attributes evidence ∧
        summary = .virustotal evidence ∧ updated = evidence.lastAnalysisAt := by
  unfold decodeVirustotal
  constructor
  · intro decoded
    obtain ⟨data, enveloped, decoded⟩ := Option.bind_eq_some_iff.mp decoded
    obtain ⟨_, identified, decoded⟩ := Option.bind_eq_some_iff.mp decoded
    obtain ⟨last, analyzed, decoded⟩ := Option.bind_eq_some_iff.mp decoded
    cases decoded
    obtain ⟨envelope, document, enclosed, read⟩ := envelope_eq_some.mp enveloped
    obtain ⟨shape, id, type, attributes, described, typed⟩ := VtData.deserialize_eq_some.mp read
    obtain ⟨form, stats, reputation, at_, country, asn, asOwner, md5, sha1, sha256, description⟩ :=
      VtAttributes.deserialize_eq_some.mp typed
    have identity := (identifies_iff form md5 sha1 sha256 looksUp).mp
      ((Option.guard_eq_some' _).mp identified)
    refine ⟨document, attributes, _, ⟨envelope, enclosed, shape, described, form,
      ⟨_, _, id, type, identity⟩, ?_⟩, rfl, rfl⟩
    exact ⟨stats, reputation, Optional.transposed.mp ⟨_, at_, analyzed⟩,
      mapped_iff.mpr ⟨_, country, rfl⟩, mapped_iff.mpr ⟨_, asn, rfl⟩,
      mapped_iff.mpr ⟨_, asOwner, rfl⟩, mapped_iff.mpr ⟨_, md5, rfl⟩,
      mapped_iff.mpr ⟨_, sha1, rfl⟩, mapped_iff.mpr ⟨_, sha256, rfl⟩,
      mapped_iff.mpr ⟨_, description, rfl⟩⟩
  · intro report
    obtain ⟨document, attributes, evidence, ⟨envelope, enclosed, shape, described, form,
      ⟨id, type, held, typed, identity⟩, told⟩, rfl, rfl⟩ := report
    obtain ⟨last, at_, analyzed⟩ := Optional.transposed.mpr told.lastAnalysisAt
    obtain ⟨country, country_, mappedCountry⟩ := mapped_iff.mp told.country
    obtain ⟨asn, asn_, mappedAsn⟩ := mapped_iff.mp told.asn
    obtain ⟨asOwner, asOwner_, mappedAsOwner⟩ := mapped_iff.mp told.asOwner
    obtain ⟨md5, md5_, mappedMd5⟩ := mapped_iff.mp told.md5
    obtain ⟨sha1, sha1_, mappedSha1⟩ := mapped_iff.mp told.sha1
    obtain ⟨sha256, sha256_, mappedSha256⟩ := mapped_iff.mp told.sha256
    obtain ⟨description, description_, mappedType⟩ := mapped_iff.mp told.fileType
    let contents : VtAttributes := {
      lastAnalysisStats := evidence.analysisStats
      reputation := evidence.reputation
      lastAnalysisDate := last
      country, asn, asOwner, md5, sha1, sha256
      typeDescription := description }
    have read : VtAttributes.deserialize attributes = some contents :=
      VtAttributes.deserialize_eq_some.mpr ⟨form, told.analysisStats, told.reputation, at_,
        country_, asn_, asOwner_, md5_, sha1_, sha256_, description_⟩
    let data : VtData := { id, objectType := type, attributes := contents }
    have whole : VtData.deserialize document = some data :=
      VtData.deserialize_eq_some.mpr ⟨shape, held, typed, attributes, described, read⟩
    refine Option.bind_eq_some_iff.mpr
      ⟨data, envelope_eq_some.mpr ⟨envelope, document, enclosed, whole⟩, ?_⟩
    refine Option.bind_eq_some_iff.mpr ⟨(), (Option.guard_eq_some' _).mpr
      ((identifies_iff form md5_ sha1_ sha256_ looksUp).mpr identity), ?_⟩
    refine Option.bind_eq_some_iff.mpr ⟨_, analyzed, ?_⟩
    obtain ⟨⟩ := evidence
    dsimp only at mappedCountry mappedAsn mappedAsOwner mappedMd5 mappedSha1 mappedSha256 mappedType
    subst mappedCountry mappedAsn mappedAsOwner mappedMd5 mappedSha1 mappedSha256 mappedType
    rfl

/-! ### Answers -/

/-- The reports of an adapter about an indicator, with their summary and the time
the provider states. -/
inductive Report (deserializer : Deserializer) (indicator : ValidatedIndicator) (raw : Value) :
    ProviderId → Summary → Option DateTime → Prop
  | abuseipdb {data : Value} {evidence : AbuseipdbSummary} (kind : indicator.input.kind = .ip)
      (report : AbuseipdbReport deserializer indicator.input.value raw data evidence) :
      Report deserializer indicator raw .abuseipdb (.abuseipdb evidence) evidence.lastReportedAt
  | virustotal {data attributes : Value} {evidence : VirustotalSummary}
      (report : VirustotalReport indicator raw data attributes evidence) :
      Report deserializer indicator raw .virustotal (.virustotal evidence) evidence.lastAnalysisAt

/-- An error answer with its code. -/
def TellsError (document : Value) (code : String) : Prop :=
  Struct ["error"] document ∧ ∃ error, Field ["error"] "error" document error ∧
    Struct ["code"] error ∧ Required IsString ["code"] "code" error code

/-- The reader takes exactly the documents that tell the code. -/
theorem ErrorEnvelope.deserialize_eq_some {document : Value} {code : String} :
    ErrorEnvelope.deserialize document = some code ↔ TellsError document code := by
  refine envelope_eq_some.trans (and_congr_right fun _ => exists_congr fun error => ?_)
  refine and_congr_right fun _ => envelope_eq_some.trans (and_congr_right fun _ => ?_)
  exact exists_congr fun value => and_congr_right fun _ => asString_eq_some

section Answers

variable {parser : UrlParser} {serializer : Serializer} {deserializer : Deserializer}
  {id : ProviderId} {status : UInt16} {body : List UInt8} {kind : IndicatorKind} {value : String}
  {indicator : ValidatedIndicator} {now : DateTime}

/-- A decoder accepts exactly the reports about the indicator. -/
theorem decodeReport_eq_some {raw : Value} {summary : Summary} {updated : Option DateTime}
    (looksUp : LooksUp parser indicator.input.kind indicator.input.value indicator.lookupValue
      indicator.hashAlgorithm) :
    decodeReport deserializer id raw indicator = some (summary, updated) ↔
      Report deserializer indicator raw id summary updated := by
  cases id with
  | abuseipdb =>
      refine decodeAbuseipdb_eq_some.trans ?_
      have requested : ∀ data evidence, indicator.input.kind = .ip →
          (AbuseipdbReport deserializer indicator.lookupValue raw data evidence ↔
            AbuseipdbReport deserializer indicator.input.value raw data evidence) := by
        intro data evidence ip
        obtain ⟨⟨kind, value⟩, lookupValue, hashAlgorithm⟩ := indicator
        cases ip
        cases looksUp with
        | ip read =>
            have same := fun returned => @sameAddress_lookup _ returned _ read
            constructor
            · intro report
              obtain ⟨returned, held, address⟩ := report.identity
              exact { report with identity := ⟨returned, held, (same returned).mp address⟩ }
            · intro report
              obtain ⟨returned, held, address⟩ := report.identity
              exact { report with identity := ⟨returned, held, (same returned).mpr address⟩ }
      constructor
      · intro decoded
        obtain ⟨ip, data, evidence, report, rfl, rfl⟩ := decoded
        exact .abuseipdb ip ((requested data evidence ip).mp report)
      · intro report
        cases report with
        | abuseipdb ip report => exact ⟨ip, _, _, (requested _ _ ip).mpr report, rfl, rfl⟩
  | virustotal =>
      refine (decodeVirustotal_eq_some looksUp).trans ?_
      constructor
      · intro decoded
        obtain ⟨data, attributes, evidence, report, rfl, rfl⟩ := decoded
        exact .virustotal report
      · intro report
        cases report with
        | virustotal report => exact ⟨_, _, _, report, rfl, rfl⟩

/-- The outcome of a report. -/
def reported (raw : Value) (summary : Summary) (updated : Option DateTime) (now : DateTime) :
    Outcome where
  status := .ok
  summary := some summary
  fetchedAt := some now
  providerUpdatedAt := updated
  error := none
  raw := some raw

/-- Only a 404 of VirusTotal that tells the code is a missing report. -/
theorem decodeFailure_eq_ok {outcome : Outcome} :
    decodeFailure deserializer id status body now = .ok outcome ↔
      id = .virustotal ∧ status = 404 ∧ outcome = .notFound now ∧
        ∃ document, deserializer.document body = some document ∧
          TellsError document "NotFoundError" := by
  have told : (∃ document, deserializer.document body = some document ∧
      TellsError document "NotFoundError") ↔
        (deserializer.document body).bind ErrorEnvelope.deserialize = some "NotFoundError" := by
    simp only [Option.bind_eq_some_iff, ErrorEnvelope.deserialize_eq_some]
  rw [told]
  unfold decodeFailure
  by_cases missing : status = 404 ∧ id = .virustotal
  · obtain ⟨rfl, rfl⟩ := missing
    rw [if_neg (by decide), if_neg (by decide), if_neg (by decide), if_pos ⟨rfl, rfl⟩]
    cases (deserializer.document body).bind ErrorEnvelope.deserialize with
    | none => exact iff_of_false nofun nofun
    | some code =>
        by_cases documented : code = "NotFoundError"
        · simp [documented, eq_comm]
        · simp [documented]
  · refine iff_of_false ?_ fun absence => missing ⟨absence.2.1, absence.1⟩
    simp only [missing, ↓reduceIte]
    intro decoded
    repeat' split at decoded
    all_goals cases decoded

/-- A success is decoded exactly where its body has a report with a short summary. -/
theorem decode_success {outcome : Outcome} (success : ¬ (status < 200 ∨ 300 ≤ status))
    (looksUp : LooksUp parser indicator.input.kind indicator.input.value indicator.lookupValue
      indicator.hashAlgorithm) :
    decode serializer deserializer id status body indicator now = .ok outcome ↔
      ∃ document summary updated, deserializer.document body = some document ∧
        Report deserializer indicator document.deserialize id summary updated ∧
        (serializer.toVec (serializer.summary summary)).length ≤ 16384 ∧
        outcome = reported document.deserialize summary updated now := by
  simp only [← decodeReport_eq_some looksUp]
  unfold decode
  rw [if_neg success]
  cases deserializer.document body with
  | none =>
      refine iff_of_false (fun decoded => by cases decoded) fun found => ?_
      obtain ⟨_, _, _, parsed, _⟩ := found
      cases parsed
  | some document =>
      dsimp only [Option.map_some]
      cases accepted : decodeReport deserializer id document.deserialize indicator with
      | none =>
          refine iff_of_false (fun decoded => by cases decoded) fun found => ?_
          obtain ⟨_, summary, updated, same, decoded, _⟩ := found
          cases same
          cases accepted.symm.trans decoded
      | some report =>
          obtain ⟨summary, updated⟩ := report
          dsimp only
          rw [serializer.toWriter_limited]
          constructor
          · intro decoded
            split at decoded
            · cases decoded
            · rename_i written
              split at written
              · rename_i short
                cases decoded
                exact ⟨document, summary, updated, rfl, accepted, short, rfl⟩
              · cases written
          · intro found
            obtain ⟨_, _, _, same, decoded, short, rfl⟩ := found
            cases same
            cases accepted.symm.trans decoded
            have fits : (serializer.toVec (serializer.summary summary)).length ≤ summaryByteLimit :=
              short
            rw [if_pos fits]
            rfl

/-- **Reports are attributed to their indicator.** An answer is taken for a
report exactly where it is a success whose document is a report about the
indicator, with a summary of at most 16 KiB; what the summary holds is then what
the document says, field by field. It is taken for an absence exactly where
VirusTotal answers 404 with its documented code. -/
theorem decode_exact (valid : validateIndicator parser kind value = .ok indicator)
    (outcome : Outcome) :
    (decode serializer deserializer id status body indicator now = .ok outcome ∧
        outcome.status = .ok ↔
      200 ≤ status ∧ status < 300 ∧ ∃ document summary updated,
        deserializer.document body = some document ∧
        Report deserializer indicator document.deserialize id summary updated ∧
        (serializer.toVec (serializer.summary summary)).length ≤ 16384 ∧
        outcome = reported document.deserialize summary updated now) ∧
    (decode serializer deserializer id status body indicator now = .ok outcome ∧
        outcome.status ≠ .ok ↔
      id = .virustotal ∧ status = 404 ∧ outcome = .notFound now ∧
        ∃ document, deserializer.document body = some document ∧
          TellsError document "NotFoundError") := by
  have looksUp := looksUp_of_valid valid
  by_cases failed : status < 200 ∨ 300 ≤ status
  · have absence : decode serializer deserializer id status body indicator now = .ok outcome ↔
        id = .virustotal ∧ status = 404 ∧ outcome = .notFound now ∧
          ∃ document, deserializer.document body = some document ∧
            TellsError document "NotFoundError" := by
      unfold decode
      rw [if_pos failed]
      exact decodeFailure_eq_ok
    rw [absence]
    constructor
    · refine iff_of_false ?_ ?_
      · intro both
        obtain ⟨⟨_, _, rfl, _⟩, ok⟩ := both
        cases ok
      · intro success
        obtain ⟨low, high, _⟩ := success
        exact failed.elim (UInt16.not_lt.mpr low) (UInt16.not_le.mpr high)
    · refine and_iff_left_of_imp ?_
      intro both
      obtain ⟨_, _, rfl, _⟩ := both
      exact nofun
  · have range : 200 ≤ status ∧ status < 300 := by
      rw [not_or, UInt16.not_lt, UInt16.not_le] at failed
      exact failed
    rw [decode_success failed looksUp]
    constructor
    · constructor
      · intro both
        exact ⟨range.1, range.2, both.1⟩
      · intro success
        obtain ⟨_, _, found⟩ := success
        refine ⟨found, ?_⟩
        obtain ⟨_, _, _, _, _, _, rfl⟩ := found
        rfl
    · refine iff_of_false ?_ ?_
      · intro both
        obtain ⟨⟨_, _, _, _, _, _, rfl⟩, other⟩ := both
        exact other rfl
      · intro missing
        obtain ⟨_, rfl, _⟩ := missing
        exact absurd range.2 (by decide)

end Answers

/-- A report of three complaints about an address. -/
def complaints : Value :=
  .object [("data", .object [("ipAddress", .string "8.8.8.8"),
    ("totalReports", .number (.posInt 3))])]

/-- A summary with nothing but complaints. -/
def complaintsSummary : AbuseipdbSummary where
  abuseConfidenceScore := none
  totalReports := some 3
  distinctReporters := none
  lastReportedAt := none
  countryCode := none
  isp := none
  domain := none
  usageType := none
  isPublic := none
  isTor := none
  isWhitelisted := none

/-- A reader that finds the complaints in every body. -/
def complaintsDeserializer : Deserializer where
  document := fun _ => some complaints
  timestamp := fun _ => none
  parseFromRfc3339 := fun _ => none

/-- The address they are about. -/
def complainedOf : ValidatedIndicator where
  input := { kind := .ip, value := "8.8.8.8" }
  lookupValue := "8.8.8.8"
  hashAlgorithm := none

/-- It is looked up as it is. -/
theorem complainedOf_looksUp : LooksUp (fun _ => none) .ip "8.8.8.8" "8.8.8.8" none :=
  @LooksUp.ip (fun _ => none) "8.8.8.8" (.v4 8 8 8 8) (by decide)

/-- It is a valid indicator. -/
theorem complainedOf_valid :
    validateIndicator (fun _ => none) .ip "8.8.8.8" = .ok complainedOf := by
  have chars : "8.8.8.8".toList = ['8', '.', '8', '.', '8', '.', '8'] := rfl
  refine validateIndicator_eq_ok.mpr ⟨⟨by decide, by decide, ?_⟩, rfl, complainedOf_looksUp⟩
  rw [chars]
  intro char member
  obtain rfl | rfl : char = '8' ∨ char = '.' := by
    simp only [List.mem_cons, List.not_mem_nil] at member
    tauto
  · exact ⟨rfl, rfl⟩
  · exact ⟨rfl, rfl⟩

/-- The complaints are a report of it. -/
theorem complaints_report :
    Report complaintsDeserializer complainedOf complaints.deserialize .abuseipdb
      (.abuseipdb complaintsSummary) none :=
  (decodeReport_eq_some complainedOf_looksUp).mp rfl

/-- A writer that needs no floats and no times. -/
def plainSerializer : Serializer := .whole (fun _ => "0.0") fun _ => ""

/-- Their summary is short. -/
theorem complaints_short :
    (plainSerializer.toVec (plainSerializer.summary (.abuseipdb complaintsSummary))).length ≤
      16384 := by
  decide +kernel

/-- The complaints are decoded. -/
theorem decode_exact_complaints :
    decode plainSerializer complaintsDeserializer .abuseipdb 200 [] complainedOf .epoch =
      .ok (reported complaints.deserialize (.abuseipdb complaintsSummary) none .epoch) :=
  ((decode_exact complainedOf_valid _).1.mpr ⟨by decide, by decide, complaints, _, none, rfl,
    complaints_report, complaints_short, rfl⟩).1

end RustEnrich
