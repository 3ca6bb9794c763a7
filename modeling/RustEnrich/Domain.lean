import RustEnrich.Clock

/-!
# The evidence contract

Providers, indicator kinds, error codes and lookup outcomes, with the data the
store and the lookup pipeline carry around.
-/

namespace RustEnrich

/-- The providers there are. -/
inductive ProviderId
  | abuseipdb
  | virustotal
  deriving DecidableEq, Repr

/-- The name of a provider. -/
def ProviderId.asStr : ProviderId → String
  | .abuseipdb => "abuseipdb"
  | .virustotal => "virustotal"

/-- The kinds of indicators. -/
inductive IndicatorKind
  | ip
  | url
  | hash
  deriving DecidableEq, Repr

/-- The name of a kind. -/
def IndicatorKind.asStr : IndicatorKind → String
  | .ip => "ip"
  | .url => "url"
  | .hash => "hash"

/-- The algorithms of hashes. -/
inductive HashAlgorithm
  | md5
  | sha1
  | sha256
  deriving DecidableEq, Repr

/-- The name of an algorithm. -/
def HashAlgorithm.asStr : HashAlgorithm → String
  | .md5 => "md5"
  | .sha1 => "sha1"
  | .sha256 => "sha256"

/-- An indicator as it is asked for. -/
structure InputIndicator where
  kind : IndicatorKind
  value : String
  deriving DecidableEq, Repr

/-- An indicator with the value it is looked up by. -/
structure ValidatedIndicator where
  input : InputIndicator
  lookupValue : String
  hashAlgorithm : Option HashAlgorithm
  deriving DecidableEq, Repr

/-- A request that has passed its validation. -/
structure ValidatedRequest where
  indicators : List ValidatedIndicator
  providers : List ProviderId
  includeRaw : Bool
  deriving DecidableEq, Repr

/-- What came of a provider. -/
inductive Status
  | ok
  | notFound
  | unsupported
  | disabled
  | rateLimited
  | timeout
  | error
  deriving DecidableEq, Repr

/-- The name of a status. -/
def Status.asStr : Status → String
  | .ok => "ok"
  | .notFound => "not_found"
  | .unsupported => "unsupported"
  | .disabled => "disabled"
  | .rateLimited => "rate_limited"
  | .timeout => "timeout"
  | .error => "error"

/-- The errors there are. -/
inductive ErrorCode
  | invalidJson
  | unauthorized
  | routeNotFound
  | methodNotAllowed
  | requestBodyTimeout
  | requestTooLarge
  | unsupportedMediaType
  | validationError
  | serviceOverloaded
  | serviceUnavailable
  | internalError
  | responseTooLarge
  | quotaExhausted
  | providerAuthenticationFailed
  | providerAccessDenied
  | providerTimeout
  | requestDeadlineExceeded
  | networkError
  | providerUnavailable
  | providerRequestRejected
  | providerTlsError
  | invalidResponse
  | providerBusy
  | storageUnavailable
  deriving DecidableEq, Repr

/-- The name of an error. -/
def ErrorCode.asStr : ErrorCode → String
  | .invalidJson => "invalid_json"
  | .unauthorized => "unauthorized"
  | .routeNotFound => "route_not_found"
  | .methodNotAllowed => "method_not_allowed"
  | .requestBodyTimeout => "request_body_timeout"
  | .requestTooLarge => "request_too_large"
  | .unsupportedMediaType => "unsupported_media_type"
  | .validationError => "validation_error"
  | .serviceOverloaded => "service_overloaded"
  | .serviceUnavailable => "service_unavailable"
  | .internalError => "internal_error"
  | .responseTooLarge => "response_too_large"
  | .quotaExhausted => "quota_exhausted"
  | .providerAuthenticationFailed => "provider_authentication_failed"
  | .providerAccessDenied => "provider_access_denied"
  | .providerTimeout => "provider_timeout"
  | .requestDeadlineExceeded => "request_deadline_exceeded"
  | .networkError => "network_error"
  | .providerUnavailable => "provider_unavailable"
  | .providerRequestRejected => "provider_request_rejected"
  | .providerTlsError => "provider_tls_error"
  | .invalidResponse => "invalid_response"
  | .providerBusy => "provider_busy"
  | .storageUnavailable => "storage_unavailable"

/-- The status of an outcome that failed. -/
def ErrorCode.status : ErrorCode → Status
  | .quotaExhausted => .rateLimited
  | .providerTimeout | .requestDeadlineExceeded => .timeout
  | _ => .error

/-- An error as it is told. -/
structure PublicError where
  code : ErrorCode
  message : String
  retryable : Bool
  retryAfterSeconds : Option Nat
  deriving DecidableEq, Repr

/-- The fixed message, retry flag and delay of each code. -/
def PublicError.new (code : ErrorCode) : PublicError :=
  let (message, retryable, retryAfterSeconds) : String × Bool × Option Nat :=
    match code with
    | .invalidJson => ("The request body is not valid JSON.", false, none)
    | .unauthorized => ("A valid service bearer token is required.", false, none)
    | .routeNotFound => ("The requested route does not exist.", false, none)
    | .methodNotAllowed => ("This HTTP method is not allowed for the route.", false, none)
    | .requestBodyTimeout => ("The request body deadline expired.", true, none)
    | .requestTooLarge => ("The request body exceeds its size limit.", false, none)
    | .unsupportedMediaType =>
        ("An uncompressed application/json request body is required.", false, none)
    | .validationError => ("One or more request fields are invalid.", false, none)
    | .serviceOverloaded => ("The service has reached its request capacity.", true, some 1)
    | .serviceUnavailable => ("The service is temporarily unavailable.", true, some 1)
    | .internalError => ("An internal error prevented completion.", true, none)
    | .responseTooLarge => ("The response exceeds its size limit.", false, none)
    | .quotaExhausted => ("Provider request quota is exhausted.", true, none)
    | .providerAuthenticationFailed =>
        ("The provider rejected its configured credentials.", false, none)
    | .providerAccessDenied => ("The provider denied access to this report.", false, none)
    | .providerTimeout => ("The provider lookup deadline expired.", true, none)
    | .requestDeadlineExceeded =>
        ("The request deadline expired before this lookup completed.", true, none)
    | .networkError => ("A network failure prevented the provider lookup.", true, none)
    | .providerUnavailable => ("The provider is temporarily unavailable.", true, none)
    | .providerRequestRejected => ("The provider rejected the lookup request.", false, none)
    | .providerTlsError => ("The provider TLS connection could not be validated.", false, none)
    | .invalidResponse => ("The provider returned an invalid report.", false, none)
    | .providerBusy => ("The service has reached its shared lookup capacity.", true, some 1)
    | .storageUnavailable =>
        ("Storage required for quota accounting is unavailable.", true, some 1)
  { code, message, retryable, retryAfterSeconds }

/-- A number as `serde_json` keeps it; a float by its bit pattern. -/
inductive Number
  | posInt (value : UInt64)
  | negInt (value : Int64)
  | float (bits : UInt64)
  deriving DecidableEq, Repr

/-- `serde_json::Value`. -/
inductive Value
  | null
  | bool (value : Bool)
  | number (value : Number)
  | string (value : String)
  | array (values : List Value)
  | object (members : List (String × Value))
  deriving Repr

/-- The evidence of AbuseIPDB. -/
structure AbuseipdbSummary where
  abuseConfidenceScore : Option UInt64
  totalReports : Option UInt64
  distinctReporters : Option UInt64
  lastReportedAt : Option DateTime
  countryCode : Option String
  isp : Option String
  domain : Option String
  usageType : Option String
  isPublic : Option Bool
  isTor : Option Bool
  isWhitelisted : Option Bool

/-- How many engines said what. -/
structure AnalysisStats where
  malicious : Option UInt64
  suspicious : Option UInt64
  harmless : Option UInt64
  undetected : Option UInt64
  timeout : Option UInt64
  confirmedTimeout : Option UInt64
  failure : Option UInt64
  typeUnsupported : Option UInt64

/-- The evidence of VirusTotal. -/
structure VirustotalSummary where
  analysisStats : Option AnalysisStats
  reputation : Option Int64
  lastAnalysisAt : Option DateTime
  country : Option String
  asn : Option UInt64
  asOwner : Option String
  md5 : Option String
  sha1 : Option String
  sha256 : Option String
  fileType : Option String

/-- The evidence of a provider. -/
inductive Summary
  | abuseipdb (summary : AbuseipdbSummary)
  | virustotal (summary : VirustotalSummary)

/-- What came of one pair. -/
structure Outcome where
  status : Status
  summary : Option Summary
  fetchedAt : Option DateTime
  providerUpdatedAt : Option DateTime
  error : Option PublicError
  raw : Option Value

namespace Outcome

/-- An outcome with a status alone. -/
def empty (status : Status) : Outcome where
  status
  summary := none
  fetchedAt := none
  providerUpdatedAt := none
  error := none
  raw := none

/-- An outcome that failed. -/
def failure (code : ErrorCode) : Outcome :=
  { empty code.status with error := some (.new code) }

/-- An outcome without a report. -/
def notFound (now : DateTime) : Outcome :=
  { empty .notFound with fetchedAt := some now }

/-- `is_cacheable`: only reports and explicit absences are stored. -/
def isCacheable (outcome : Outcome) : Bool :=
  match outcome.status with
  | .ok | .notFound => true
  | _ => false

/-- No failure code is reported as a cacheable status. -/
theorem failure_isCacheable (code : ErrorCode) : (failure code).isCacheable = false := by
  cases code <;> rfl

end Outcome

end RustEnrich
