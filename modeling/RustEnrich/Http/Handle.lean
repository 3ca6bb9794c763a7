import RustEnrich.Http.Deduplication
import RustEnrich.Http.MediaType

/-!
# From request to response

A request is dispatched by its path and method, a lookup request is let in only
with the token of the service, while it is up and has room, and is then read,
checked, looked up and projected. Whatever becomes of it, the response is JSON
that names the request, is not to be stored, and carries the headers that belong
to its status.
-/

namespace RustEnrich.Http

open Serialization Enrichment

/-- What does not change from request to request. `Config::validate` rejects a raw
budget that has no room beside an envelope. -/
structure Service where
  config : Config
  representable : config.maxRawResponseBytes.toNat + envelopeLimit ≤ usizeMax
  serializer : Serializer
  /-- `serde_json::from_slice`. -/
  read : List UInt8 → Option Value
  parser : UrlParser
  /-- `Sha256::digest`. -/
  digest : List UInt8 → List UInt8

/-- The budget of raw data that is configured. -/
def Service.rawBudget (service : Service) : RawBudget where
  bytes := service.config.maxRawResponseBytes.toNat
  representable := service.representable

/-- What is read of a request. -/
structure HttpRequest where
  method : String
  path : String
  headers : Headers
  body : List Received

/-- What a request finds when it comes. -/
structure Standing where
  stopping : Bool
  /-- `Storage::is_healthy`. -/
  healthy : Bool
  /-- A permit of `admission` is left. -/
  admission : Bool
  /-- A permit of `health_admission` is left. -/
  healthAdmission : Bool

/-- What it finds where it looks later. -/
structure Moment extends Standing where
  /-- `Storage::health` succeeds. -/
  storageHealth : Bool
  lookup : ProviderId → ValidatedIndicator → LookupResult
  /-- The envelope is written before its deadline. -/
  inTime : Bool

/-- The routes there are. -/
inductive Route
  | enrich
  | live
  | ready
  | unmatched
  deriving DecidableEq

/-- The route of a path. -/
def route (path : String) : Route :=
  if path = "/v1/enrich" then .enrich
  else if path = "/health/live" then .live
  else if path = "/health/ready" then .ready
  else .unmatched

/-- One authorization with the token of the service. -/
def authorized (service : Service) (headers : Headers) : Bool :=
  match headers.getAll "authorization" with
  | [] => false
  | [value] =>
      match (utf8 "Bearer ").isPrefixOf? value with
      | some token =>
          decide (service.digest token = service.digest (utf8 service.config.serviceToken))
      | none => false
  | _ => false

/-- The method is not the one of the route. -/
def methodError (serializer : Serializer) (id : RequestId) (allow : String) : Response :=
  (errorResponse serializer id 405 .methodNotAllowed none).insert "allow" allow

/-- The body of a probe. -/
structure Health where
  status : String
  requestId : RequestId

/-- The status, and the identifier of the request. -/
def Health.serialize (health : Health) : Value :=
  .object [("status", .string health.status), ("request_id", .string health.requestId.text)]

/-- The answer of a probe. -/
def health (service : Service) (moment : Moment) (id : RequestId) (readiness : Bool) : Response :=
  if moment.healthAdmission then
    let ready := !readiness || (!moment.stopping && moment.storageHealth)
    let body : Health := {
      status := if !readiness then "alive" else if ready then "ready" else "not_ready"
      requestId := id }
    jsonResponse service.serializer id (if ready then 200 else 503) body.serialize
  else errorResponse service.serializer id 503 .serviceOverloaded none

/-- The end of `enrich_admitted`, from a valid request on. -/
def serve (service : Service) (moment : Moment) (id : RequestId) (request : ValidatedRequest) :
    Response :=
  match project service.serializer id.text request (resolvedResults moment.lookup request)
    service.rawBudget with
  | .ok bytes =>
      if moment.inTime then responseBytes id 200 bytes
      else errorResponse service.serializer id 500 .responseTooLarge none
  | .error _ => errorResponse service.serializer id 500 .responseTooLarge none

/-- The answer of a lookup request. -/
def enrich (service : Service) (moment : Moment) (id : RequestId) (request : HttpRequest) :
    Response :=
  if moment.stopping || !moment.healthy then
    errorResponse service.serializer id 503 .serviceUnavailable none
  else if !moment.admission then errorResponse service.serializer id 503 .serviceOverloaded none
  else
    enrichAdmitted service.serializer service.config service.read service.parser id
      (supportedMediaType request.headers) request.body (serve service moment id)

/-- The answer of a request. -/
def handle (service : Service) (moment : Moment) (id : RequestId) (request : HttpRequest) :
    Response :=
  match route request.path with
  | .unmatched => errorResponse service.serializer id 404 .routeNotFound none
  | .live =>
      if request.method ≠ "GET" then methodError service.serializer id "GET"
      else health service moment id false
  | .ready =>
      if request.method ≠ "GET" then methodError service.serializer id "GET"
      else health service moment id true
  | .enrich =>
      if request.method ≠ "POST" then methodError service.serializer id "POST"
      else if !authorized service request.headers then
        errorResponse service.serializer id 401 .unauthorized none
      else enrich service moment id request

/-! ### What is written without a serializer -/

/-- An envelope of an error with another message than its own. -/
def wordedEnvelope (id : RequestId) (code : ErrorCode) (message : String) : Value :=
  ErrorEnvelope.serialize {
    requestId := id
    error := { error := { PublicError.new code with message }, details := none } }

/-- The reply to a connection beyond the capacity of the server, from its body. -/
def overloadBody (id : RequestId) : List UInt8 :=
  utf8 "\x7b\"request_id\":\"" ++ utf8 id.text ++ utf8 ("\",\"error\":\x7b" ++
    "\"code\":\"service_overloaded\",\"message\":\"Service capacity is exhausted.\"," ++
    "\"retryable\":true,\"retry_after_seconds\":1\x7d\x7d")

/-- The whole reply, as it is written to the socket. -/
def overloadReply (id : RequestId) : List UInt8 :=
  utf8 ("HTTP/1.1 503 Service Unavailable\r\nContent-Type: application/json\r\n" ++
    "Cache-Control: no-store\r\nX-Request-ID: " ++ id.text ++ "\r\nRetry-After: 1\r\n" ++
    "Connection: close\r\nContent-Length: " ++ toString (overloadBody id).length ++
    "\r\n\r\n") ++ overloadBody id

/-- The text of a response in HTTP/1.1. -/
def wire (status : String) (headers : List (String × String)) (body : List UInt8) :
    List UInt8 :=
  utf8 ("HTTP/1.1 " ++ status ++ "\r\n") ++
    headers.flatMap (fun header => utf8 (header.1 ++ ": " ++ header.2 ++ "\r\n")) ++
    utf8 "\r\n" ++ body

section Text

variable {float : UInt64 → String}

/-- Texts are written one after the other. -/
theorem utf8_append (front back : String) : utf8 (front ++ back) = utf8 front ++ utf8 back := by
  unfold utf8
  rw [String.toList_append, List.flatMap_append]

/-- What needs no escape is printed between quotes. -/
theorem quoted_plain {text : String}
    (plain : ∀ char ∈ text.toList, escape char = String.utf8EncodeChar char) :
    quoted text = utf8 "\"" ++ utf8 text ++ utf8 "\"" := by
  unfold quoted utf8
  rw [List.flatMap_congr plain]

/-- The characters of an identifier are written as they are. -/
theorem escape_uuid {char : Char} (hyphenated : isUuidChar char = true) :
    escape char = String.utf8EncodeChar char := by
  obtain ⟨low, high, plain⟩ := bounds_of_isUuidChar hyphenated
  have apart : ∀ special : Char, special.toNat < 45 ∨ special.toNat = 92 → char ≠ special := by
    rintro special either rfl
    omega
  unfold escape
  rw [if_neg (apart _ (by decide)), if_neg (apart _ (by decide)), if_neg (apart _ (by decide)),
    if_neg (apart _ (by decide)), if_neg (apart _ (by decide)), if_neg (apart _ (by decide)),
    if_neg (apart _ (by decide)), if_neg (by omega)]

/-- An identifier is quoted as it is. -/
theorem RequestId.quoted_text (id : RequestId) :
    quoted id.text = utf8 "\"" ++ utf8 id.text ++ utf8 "\"" :=
  quoted_plain fun char member => escape_uuid (id.hyphenated char member)

/-- The text of an envelope, around that of its error. -/
theorem text_wordedEnvelope (id : RequestId) (code : ErrorCode) (message : String) :
    text float (wordedEnvelope id code message) =
      utf8 "\x7b\"request_id\":\"" ++ utf8 id.text ++ (utf8 "\",\"error\":" ++
        text float (PublicError.serialize { PublicError.new code with message }) ++
          utf8 "\x7d") := by
  have opening : utf8 "\x7b" ++ quoted "request_id" ++ utf8 ":" ++ utf8 "\"" =
      utf8 "\x7b\"request_id\":\"" := by decide
  have middle : utf8 "\"" ++ utf8 "," ++ quoted "error" ++ utf8 ":" = utf8 "\",\"error\":" := by
    decide
  have plain : ErrorDetails.serialize
      { error := { PublicError.new code with message }, details := none } =
        PublicError.serialize { PublicError.new code with message } := rfl
  rw [← opening, ← middle]
  simp only [wordedEnvelope, ErrorEnvelope.serialize, plain, text, membersText, separator,
    id.quoted_text, if_true, Bool.false_eq_true, if_false, List.nil_append, List.append_nil,
    List.append_assoc]

set_option maxRecDepth 2000 in
/-- **The last resort is an envelope.** It is what a serializer writes for an
internal error in other words. -/
theorem lastResort_eq (id : RequestId) :
    lastResort id = text float
      (wordedEnvelope id .internalError "The request could not be completed.") := by
  have printed : utf8 ("\",\"error\":\x7b" ++
      "\"code\":\"internal_error\",\"message\":\"The request could not be completed.\"," ++
      "\"retryable\":true,\"retry_after_seconds\":null\x7d\x7d") =
    utf8 "\",\"error\":" ++ text float (PublicError.serialize { PublicError.new .internalError with
      message := "The request could not be completed." }) ++ utf8 "\x7d" := rfl
  rw [text_wordedEnvelope, ← printed]
  rfl

set_option maxRecDepth 2000 in
/-- The reply beyond the capacity is one too. -/
theorem overloadBody_eq (id : RequestId) :
    overloadBody id = text float
      (wordedEnvelope id .serviceOverloaded "Service capacity is exhausted.") := by
  have printed : utf8 ("\",\"error\":\x7b" ++
      "\"code\":\"service_overloaded\",\"message\":\"Service capacity is exhausted.\"," ++
      "\"retryable\":true,\"retry_after_seconds\":1\x7d\x7d") =
    utf8 "\",\"error\":" ++ text float (PublicError.serialize
      { PublicError.new .serviceOverloaded with message := "Service capacity is exhausted." }) ++
        utf8 "\x7d" := rfl
  rw [text_wordedEnvelope, ← printed]
  rfl

end Text

/-! ### What every response has -/

/-- The status each code of a response goes with. -/
def httpStatus : ErrorCode → UInt16
  | .invalidJson => 400
  | .unauthorized => 401
  | .routeNotFound => 404
  | .methodNotAllowed => 405
  | .requestBodyTimeout => 408
  | .requestTooLarge => 413
  | .unsupportedMediaType => 415
  | .validationError => 422
  | .serviceOverloaded | .serviceUnavailable => 503
  | _ => 500

/-- The response with the headers that belong to an error. -/
def errorHeaders (id : RequestId) (status : UInt16) : List (String × String) :=
  [("content-type", "application/json"), ("cache-control", "no-store"),
    ("x-request-id", id.text)] ++
  (if status = 401 then [("www-authenticate", "Bearer")] else []) ++
  (if status = 503 then [("retry-after", "1")] else [])

section Contract

variable {service : Service} {moment : Moment} {id : RequestId} {request : HttpRequest}
  {serializer : Serializer}

/-- An error without details is short. -/
theorem length_errorEnvelope_none (code : ErrorCode) :
    (serializer.toVec (errorEnvelope id code none)).length ≤ 300 := by
  have names : (quoted "request_id").length = 12 ∧ (quoted "error").length = 7 := by
    and_intros <;> exact (length_quoted_ofList _).trans (by decide)
  have error := @length_error_le serializer code (PublicError.new code).retryAfterSeconds
  have plain : ErrorDetails.serialize { error := .new code, details := none } =
      PublicError.serialize (.new code) := rfl
  have same : (text serializer.float (PublicError.serialize (.new code))).length ≤ 190 := error
  simp only [Serializer.toVec, errorEnvelope, ErrorEnvelope.serialize, plain, length_object,
    List.map_cons, List.map_nil, List.sum_cons, List.sum_nil, List.length_cons, List.length_nil,
    memberLength, names, text_string, id.length_quoted]
  omega

/-- An error without details always fits. -/
theorem errorResponse_eq (status : UInt16) (code : ErrorCode) :
    errorResponse serializer id status code none =
      { status, headers := errorHeaders id status
        body := serializer.toVec (errorEnvelope id code none) } := by
  have fits : (serializer.toVec (errorEnvelope id code none)).length ≤ envelopeLimit :=
    (length_errorEnvelope_none code).trans (by decide)
  have apart : (401 : UInt16) ≠ 503 := by decide
  unfold errorResponse
  rw [jsonResponse_eq, if_pos fits]
  dsimp only
  by_cases unauthorized : status = 401
  · subst unauthorized
    rw [if_pos rfl, if_neg apart]
    simp [Response.insert, responseBytes, errorHeaders]
  · rw [if_neg unauthorized]
    by_cases unavailable : status = 503
    · subst unavailable
      rw [if_pos rfl]
      simp [Response.insert, responseBytes, errorHeaders]
    · rw [if_neg unavailable]
      simp [responseBytes, errorHeaders, unauthorized, unavailable]

/-- What a response can be. -/
inductive Shape (serializer : Serializer) (id : RequestId) (allow : String) : Response → Prop
  | error (code : ErrorCode) (details : Option (List ValidationDetail)) :
      Shape serializer id allow {
        status := httpStatus code
        headers := errorHeaders id (httpStatus code) ++
          (if httpStatus code = 405 then [("allow", allow)] else [])
        body := serializer.toVec (errorEnvelope id code details) }
  | lastResort : Shape serializer id allow (responseBytes id 500 (lastResort id))
  | healthy (status : String) :
      Shape serializer id allow (responseBytes id 200
        (serializer.toVec (Health.serialize { status, requestId := id })))
  | unready :
      Shape serializer id allow (responseBytes id 503
        (serializer.toVec (Health.serialize { status := "not_ready", requestId := id })))
  | report (envelope : Envelope) (own : envelope.requestId = id.text) :
      Shape serializer id allow
        (responseBytes id 200 (serializer.toVec (envelope.serialize serializer)))

/-- An error under its status, on any route it does not depend on. -/
theorem shape_errorResponse {allow : String} {status : UInt16} {code : ErrorCode}
    (own : status = httpStatus code) (allowed : status ≠ 405) :
    Shape serializer id allow (errorResponse serializer id status code none) := by
  have shape := @Shape.error serializer id allow code none
  rw [← own, if_neg allowed, List.append_nil] at shape
  rw [errorResponse_eq]
  exact shape

/-- A wrong method is answered in shape. -/
theorem shape_methodError (allow : String) :
    Shape serializer id allow (methodError serializer id allow) := by
  have shape := @Shape.error serializer id allow .methodNotAllowed none
  unfold methodError
  rw [errorResponse_eq]
  exact shape

/-- An envelope that may be too long, where only its length is in doubt. -/
theorem shape_jsonResponse {allow : String} {status : UInt16} {value : Value}
    (shape : Shape serializer id allow (responseBytes id status (serializer.toVec value))) :
    Shape serializer id allow (jsonResponse serializer id status value) := by
  rw [jsonResponse_eq]
  split
  · exact shape
  · exact .lastResort

/-- A probe is answered in shape. -/
theorem shape_health {allow : String} (service : Service) (moment : Moment) (id : RequestId)
    (readiness : Bool) :
    Shape service.serializer id allow (health service moment id readiness) := by
  unfold health
  split
  · apply shape_jsonResponse
    cases readiness with
    | false => exact .healthy "alive"
    | true =>
        cases ready : !moment.stopping && moment.storageHealth with
        | true => exact .healthy "ready"
        | false => exact .unready
  · exact shape_errorResponse rfl (by decide)

/-- What is projected is an envelope of the request. -/
theorem project_ok {id : String} {request : ValidatedRequest} {outcomes : List LookupResult}
    {rawBudget : RawBudget} {bytes : List UInt8}
    (projected : project serializer id request outcomes rawBudget = .ok bytes) :
    ∃ envelope : Envelope, envelope.requestId = id ∧
      bytes = serializer.toVec (envelope.serialize serializer) := by
  unfold project measured at projected
  split at projected
  · cases projected
  · rename_i envelope pass measures
    dsimp only at measures
    split at measures
    · cases measures
    · cases measures
      split at projected
      · cases projected
      · split at projected
        · cases projected
        · dsimp only at projected
          rw [serializer.toWriter_limited] at projected
          split at projected
          · cases projected
          · rename_i writer written
            cases projected
            split at written
            · cases written
              exact ⟨_, rfl, rfl⟩
            · cases written

/-- A valid request is answered in shape. -/
theorem shape_serve {allow : String} (service : Service) (moment : Moment) (id : RequestId)
    (request : ValidatedRequest) :
    Shape service.serializer id allow (serve service moment id request) := by
  unfold serve
  split
  · rename_i bytes projected
    obtain ⟨envelope, own, rfl⟩ := project_ok projected
    split
    · exact .report envelope own
    · exact shape_errorResponse rfl (by decide)
  · exact shape_errorResponse rfl (by decide)

/-- A body that is not read is turned away under the status of its error. -/
theorem receive_error {maxRequestBytes : Nat} {bytes : List UInt8} {received : List Received}
    {status : UInt16} {code : ErrorCode}
    (failed : receive maxRequestBytes bytes received = .error (status, code)) :
    status = httpStatus code ∧ status ≠ 405 := by
  induction received generalizing bytes with
  | nil => cases failed
  | cons first rest ih =>
      cases first with
      | chunk chunk =>
          unfold receive at failed
          split at failed
          · cases failed
            exact ⟨rfl, by decide⟩
          · exact ih failed
      | failed =>
          cases failed
          exact ⟨rfl, by decide⟩
      | late =>
          cases failed
          exact ⟨rfl, by decide⟩

/-- An admitted request is answered in shape. -/
theorem shape_enrichAdmitted {allow : String} {config : Config}
    {read : List UInt8 → Option Value} {parser : UrlParser} {supported : Bool}
    {received : List Received} {serve : ValidatedRequest → Response}
    (served : ∀ request, Shape serializer id allow (serve request)) :
    Shape serializer id allow
      (enrichAdmitted serializer config read parser id supported received serve) := by
  unfold enrichAdmitted
  split
  · split
    · rename_i status code failed
      obtain ⟨own, allowed⟩ := receive_error failed
      exact shape_errorResponse own allowed
    · split
      · exact served _
      · exact shape_errorResponse rfl (by decide)
      · rename_i details rejected
        have shape := @Shape.error serializer id allow .validationError (some details)
        have plain : errorResponse serializer id 422 .validationError (some details) =
          jsonResponse serializer id 422 (errorEnvelope id .validationError (some details)) := rfl
        rw [plain]
        exact shape_jsonResponse shape
  · exact shape_errorResponse rfl (by decide)

/-- The method of a route. -/
def allowed (path : String) : String :=
  match route path with
  | .enrich => "POST"
  | _ => "GET"

/-- Every request is answered in shape. -/
theorem shape_handle (service : Service) (moment : Moment) (id : RequestId)
    (request : HttpRequest) :
    Shape service.serializer id (allowed request.path) (handle service moment id request) := by
  unfold handle allowed
  cases route request.path with
  | unmatched => exact shape_errorResponse rfl (by decide)
  | live =>
      dsimp only
      split
      · exact shape_methodError _
      · exact shape_health _ _ _ _
  | ready =>
      dsimp only
      split
      · exact shape_methodError _
      · exact shape_health _ _ _ _
  | enrich =>
      dsimp only
      split
      · exact shape_methodError _
      · split
        · exact shape_errorResponse rfl (by decide)
        · unfold enrich
          split
          · exact shape_errorResponse rfl (by decide)
          · split
            · exact shape_errorResponse rfl (by decide)
            · exact shape_enrichAdmitted fun _ => shape_serve _ _ _ _

/-- The headers that are due to a response, with or without a delay to try again. -/
def dueHeaders (id : RequestId) (path : String) (status : UInt16) (delayed : Bool) :
    List (String × String) :=
  [("content-type", "application/json"), ("cache-control", "no-store"),
    ("x-request-id", id.text)] ++
  (if status = 401 then [("www-authenticate", "Bearer")] else []) ++
  (if status = 405 then [("allow", allowed path)] else []) ++
  (if delayed then [("retry-after", "1")] else [])

/-- What the router may rely on, whatever becomes of a request. -/
structure Contract (serializer : Serializer) (id : RequestId) (path : String)
    (response : Response) : Prop where
  /-- The headers are those due and no others. Only a probe that is not ready is refused
  without a delay. -/
  headers : response.headers.Perm (dueHeaders id path response.status true) ∧
      response.status = 503 ∨
    response.headers.Perm (dueHeaders id path response.status false) ∧
      (response.status = 503 → response.body =
        serializer.toVec (Health.serialize { status := "not_ready", requestId := id }))
  /-- The body is an object that names the request. -/
  named : ∃ members, response.body = serializer.toVec (.object members) ∧
    ("request_id", .string id.text) ∈ members
  /-- A status that is no success is the one of the error in the body. -/
  failure : response.status = 200 ∨
    (∃ code details, response.status = httpStatus code ∧
      response.body = serializer.toVec (errorEnvelope id code details)) ∨
    (response.status = 500 ∧ response.body = serializer.toVec (wordedEnvelope id .internalError
      "The request could not be completed.")) ∨
    (response.status = 503 ∧ response.body =
      serializer.toVec (Health.serialize { status := "not_ready", requestId := id }))

/-- What a connection beyond the capacity is told, outside of the router: the response to a
refused request, in the words of the server and with the headers of a connection that ends. -/
structure Overloaded (serializer : Serializer) (id : RequestId) (path : String)
    (reply : List UInt8) : Prop where
  written : ∃ headers body, reply = wire "503 Service Unavailable" headers body ∧
    headers.map (fun header => (toAsciiLowercase header.1.toList, header.2)) =
      (dueHeaders id path (httpStatus .serviceOverloaded) true ++
        [("connection", "close"), ("content-length", toString body.length)]).map
          (fun header => (header.1.toList, header.2)) ∧
    body = serializer.toVec
      (wordedEnvelope id .serviceOverloaded "Service capacity is exhausted.")

/-- Responses without an error of their own have the headers all have. -/
theorem contract_plain {status : UInt16} {body : List UInt8} {path : String}
    (fine : status ≠ 401 ∧ status ≠ 405)
    (named : ∃ members, body = serializer.toVec (.object members) ∧
      ("request_id", .string id.text) ∈ members)
    (unready : status = 503 → body =
      serializer.toVec (Health.serialize { status := "not_ready", requestId := id }))
    (failure : status = 200 ∨ (status = 500 ∧ body = serializer.toVec
      (wordedEnvelope id .internalError "The request could not be completed.")) ∨ status = 503) :
    Contract serializer id path (responseBytes id status body) where
  headers := by
    refine Or.inr ⟨?_, unready⟩
    unfold dueHeaders responseBytes
    dsimp only
    rw [if_neg fine.1, if_neg fine.2, if_neg Bool.false_ne_true]
    exact .rfl
  named := named
  failure := by
    rcases failure with success | resort | refused
    · exact Or.inl success
    · exact Or.inr (Or.inr (Or.inl resort))
    · exact Or.inr (Or.inr (Or.inr ⟨refused, unready refused⟩))

/-- The headers of an error are those due to its status. -/
theorem errorHeaders_due (id : RequestId) (status : UInt16) (path : String) :
    errorHeaders id status ++ (if status = 405 then [("allow", allowed path)] else []) =
      dueHeaders id path status (decide (status = 503)) := by
  have apart : (503 : UInt16) ≠ 405 := by decide
  unfold errorHeaders dueHeaders
  by_cases refused : status = 503
  · subst refused
    rw [if_neg apart, List.append_nil, List.append_nil]
    rfl
  · rw [if_neg refused, List.append_nil, decide_eq_false refused, if_neg Bool.false_ne_true,
      List.append_nil]

/-- An error keeps the contract under its status. -/
theorem contract_error (code : ErrorCode) (details : Option (List ValidationDetail))
    (path : String) :
    Contract serializer id path {
      status := httpStatus code
      headers := errorHeaders id (httpStatus code) ++
        (if httpStatus code = 405 then [("allow", allowed path)] else [])
      body := serializer.toVec (errorEnvelope id code details) } where
  headers := by
    dsimp only
    rw [errorHeaders_due]
    by_cases refused : httpStatus code = 503
    · rw [decide_eq_true refused]
      exact Or.inl ⟨.rfl, refused⟩
    · rw [decide_eq_false refused]
      exact Or.inr ⟨.rfl, fun other => absurd other refused⟩
  named := ⟨_, rfl, List.mem_cons_self⟩
  failure := Or.inr (Or.inl ⟨code, details, rfl, rfl⟩)

/-- The reply of the server is one its router could have given. -/
theorem overloadReply_overloaded (id : RequestId) (path : String) :
    Overloaded serializer id path (overloadReply id) where
  written := by
    refine ⟨[("Content-Type", "application/json"), ("Cache-Control", "no-store"),
      ("X-Request-ID", id.text), ("Retry-After", "1"), ("Connection", "close"),
      ("Content-Length", toString (overloadBody id).length)], overloadBody id, ?_, ?_,
      overloadBody_eq id⟩
    · have opening : utf8 "HTTP/1.1 503 Service Unavailable\r\nContent-Type: application/json\r\n" =
          utf8 "HTTP/1.1 " ++ utf8 "503 Service Unavailable" ++ utf8 "\r\n" ++
            (utf8 "Content-Type" ++ utf8 ": " ++ utf8 "application/json" ++ utf8 "\r\n") := rfl
      have second : utf8 "Cache-Control: no-store\r\nX-Request-ID: " =
          utf8 "Cache-Control" ++ utf8 ": " ++ utf8 "no-store" ++ utf8 "\r\n" ++
            (utf8 "X-Request-ID" ++ utf8 ": ") := rfl
      have third : utf8 "\r\nRetry-After: 1\r\n" =
          utf8 "\r\n" ++ (utf8 "Retry-After" ++ utf8 ": " ++ utf8 "1" ++ utf8 "\r\n") := rfl
      have fourth : utf8 "Connection: close\r\nContent-Length: " =
          utf8 "Connection" ++ utf8 ": " ++ utf8 "close" ++ utf8 "\r\n" ++
            (utf8 "Content-Length" ++ utf8 ": ") := rfl
      have closing : utf8 "\r\n\r\n" = utf8 "\r\n" ++ utf8 "\r\n" := rfl
      simp only [overloadReply, wire, utf8_append, opening, second, third, fourth, closing,
        List.flatMap_cons, List.flatMap_nil, List.append_nil, List.append_assoc]
    · unfold dueHeaders httpStatus
      rw [if_neg (by decide), if_neg (by decide), if_pos rfl]
      have lowered : ["Content-Type", "Cache-Control", "X-Request-ID", "Retry-After", "Connection",
          "Content-Length"].map (fun name => toAsciiLowercase name.toList) =
        ["content-type", "cache-control", "x-request-id", "retry-after", "connection",
          "content-length"].map String.toList := by decide
      simp only [List.map_cons, List.map_nil, List.cons.injEq] at lowered
      obtain ⟨type, control, request, delay, connection, length, _⟩ := lowered
      simp only [List.map_cons, List.map_nil, List.cons_append, List.nil_append, List.append_nil,
        type, control, request, delay, connection, length]

/-- **Every response keeps the contract.** Whatever the request and the moment, what
`handle` gives to the router is JSON that names the request, with the headers of its status
and no others, and a failure carries the error of its status. A connection beyond the
capacity, which never comes to the router, is told the same. -/
theorem handle_contract (service : Service) (moment : Moment) (id : RequestId)
    (request : HttpRequest) :
    Contract service.serializer id request.path (handle service moment id request) ∧
      Overloaded service.serializer id request.path (overloadReply id) := by
  refine ⟨?_, overloadReply_overloaded id request.path⟩
  have shape := shape_handle service moment id request
  generalize handle service moment id request = response at shape ⊢
  cases shape with
  | error code details => exact contract_error code details request.path
  | lastResort =>
      have same := @lastResort_eq service.serializer.float id
      refine contract_plain (by decide) ⟨_, same, List.mem_cons_self⟩ ?_
        (Or.inr (Or.inl ⟨rfl, same⟩))
      exact fun other => absurd other (by decide)
  | healthy status =>
      refine contract_plain (by decide) ⟨_, rfl, by simp⟩ ?_ (Or.inl rfl)
      exact fun other => absurd other (by decide)
  | unready =>
      exact contract_plain (by decide) ⟨_, rfl, by simp⟩ (fun _ => rfl) (Or.inr (Or.inr rfl))
  | report envelope own =>
      refine contract_plain (by decide) ⟨_, rfl, ?_⟩ ?_ (Or.inl rfl)
      · rw [own]
        exact List.mem_cons_self
      · exact fun other => absurd other (by decide)

end Contract

/-! ### Who gets a report -/

/-- One authorization, of the bearer of the token. -/
theorem authorized_iff {service : Service} {headers : Headers} :
    authorized service headers = true ↔ ∃ token,
      headers.getAll "authorization" = [utf8 "Bearer " ++ token] ∧
      service.digest token = service.digest (utf8 service.config.serviceToken) := by
  unfold authorized
  constructor
  · intro accepted
    split at accepted
    · cases accepted
    · rename_i value single
      split at accepted
      · rename_i token stripped
        have whole := List.isPrefixOf?_eq_some_iff_append_eq.mp stripped
        exact ⟨token, by rw [single, ← whole], of_decide_eq_true accepted⟩
      · cases accepted
    · cases accepted
  · rintro ⟨token, single, same⟩
    rw [single]
    have stripped : (utf8 "Bearer ").isPrefixOf? (utf8 "Bearer " ++ token) = some token :=
      List.isPrefixOf?_eq_some_iff_append_eq.mpr rfl
    dsimp only
    rw [stripped]
    exact decide_eq_true same

/-- JSON that is not encoded is supported, and nothing else is. -/
theorem supportedMediaType_iff {headers : Headers} :
    supportedMediaType headers = true ↔
      (∃ value text, headers.getAll "content-type" = [value] ∧ toStr value = some text ∧
        JsonMediaType text) ∧
      ∀ value ∈ headers.getAll "content-encoding", ∃ text, toStr value = some text ∧
        toAsciiLowercase text = "identity".toList := by
  have identity : Word "identity".toList := word_of_all (by decide) (by decide)
  unfold supportedMediaType
  constructor
  · intro accepted
    split at accepted
    · rename_i value single
      rw [Bool.and_eq_true, List.all_eq_true] at accepted
      obtain ⟨text, printed, json⟩ := (Option.any_eq_true _ _).mp accepted.1
      refine ⟨⟨value, text, single, printed, isJson_iff.mp json⟩, ?_⟩
      intro other member
      obtain ⟨encoding, visible, same⟩ := (Option.any_eq_true _ _).mp (accepted.2 other member)
      rw [sameWord, decide_eq_true_eq, identity.lower] at same
      exact ⟨encoding, visible, same⟩
    · cases accepted
  · rintro ⟨⟨value, text, single, printed, json⟩, encodings⟩
    rw [single]
    dsimp only
    rw [Bool.and_eq_true, List.all_eq_true]
    refine ⟨(Option.any_eq_true _ _).mpr ⟨text, printed, isJson_iff.mpr json⟩, ?_⟩
    intro other member
    obtain ⟨encoding, visible, same⟩ := encodings other member
    refine (Option.any_eq_true _ _).mpr ⟨encoding, visible, ?_⟩
    rw [sameWord, decide_eq_true_eq, identity.lower]
    exact same

/-- A body is read if it comes in time, whole and within its bound, however it is
cut. -/
theorem receive_ok_iff {maxRequestBytes : Nat} {received : List Received} {bytes : List UInt8} :
    receive maxRequestBytes [] received = .ok bytes ↔ ∃ chunks : List (List UInt8),
      received = chunks.map .chunk ∧ bytes = chunks.flatten ∧
        bytes.length ≤ maxRequestBytes := by
  have general : ∀ front : List UInt8, front.length ≤ maxRequestBytes →
      receive maxRequestBytes front received = .ok bytes →
      ∃ chunks : List (List UInt8), received = chunks.map .chunk ∧
        bytes = front ++ chunks.flatten ∧ bytes.length ≤ maxRequestBytes := by
    induction received with
    | nil =>
        intro front within done
        cases done
        exact ⟨[], rfl, (List.append_nil bytes).symm, within⟩
    | cons first rest ih =>
        intro front within done
        cases first with
        | chunk chunk =>
            unfold receive at done
            split at done
            · cases done
            · rename_i fits
              obtain ⟨chunks, rfl, rfl, short⟩ := ih (front ++ chunk)
                (by rw [List.length_append]; omega) done
              refine ⟨chunk :: chunks, rfl, ?_, short⟩
              rw [List.flatten_cons, List.append_assoc]
        | failed => cases done
        | late => cases done
  constructor
  · exact general [] (Nat.zero_le _)
  · rintro ⟨chunks, rfl, rfl, within⟩
    exact receive_chunks (by rwa [List.length_nil, Nat.zero_add])

/-- What a request for a report has to be. -/
structure Served (service : Service) (moment : Moment) (id : RequestId) (request : HttpRequest)
    (bytes : List UInt8) : Prop where
  addressed : request.path = "/v1/enrich" ∧ request.method = "POST"
  authorized : ∃ token, request.headers.getAll "authorization" = [utf8 "Bearer " ++ token] ∧
    service.digest token = service.digest (utf8 service.config.serviceToken)
  admitted : moment.stopping = false ∧ moment.healthy = true ∧ moment.admission = true
  json : ∃ value text, request.headers.getAll "content-type" = [value] ∧
    toStr value = some text ∧ JsonMediaType text
  uncompressed : ∀ value ∈ request.headers.getAll "content-encoding",
    ∃ text, toStr value = some text ∧ toAsciiLowercase text = "identity".toList
  projected : ∃ (chunks : List (List UInt8)) (valid : ValidatedRequest),
    request.body = chunks.map .chunk ∧
    chunks.flatten.length ≤ service.config.maxRequestBytes.toNat ∧
    validateRequest service.read service.parser chunks.flatten
      service.config.maxBatchSize.toNat service.config.enabled = .ok valid ∧
    project service.serializer id.text valid (resolvedResults moment.lookup valid)
      service.rawBudget = .ok bytes
  inTime : moment.inTime = true

section Served

variable {service : Service} {moment : Moment} {id : RequestId} {request : HttpRequest}
  {bytes : List UInt8}

/-- A short error has its own status. -/
theorem status_errorResponse (serializer : Serializer) (id : RequestId) (status : UInt16)
    (code : ErrorCode) : (errorResponse serializer id status code none).status = status := by
  rw [errorResponse_eq]

/-- A valid request is answered with its projection, or not under the status 200. -/
theorem serve_ok_iff {valid : ValidatedRequest} :
    ((serve service moment id valid).status = 200 ∧
        (serve service moment id valid).body = bytes) ↔
      project service.serializer id.text valid (resolvedResults moment.lookup valid)
        service.rawBudget = .ok bytes ∧ moment.inTime = true := by
  have apart : (500 : UInt16) ≠ 200 := by decide
  unfold serve
  split
  · rename_i written projected
    rw [projected]
    by_cases inTime : moment.inTime = true
    · rw [if_pos inTime]
      exact ⟨fun same => ⟨congrArg Except.ok same.2, inTime⟩,
        fun same => ⟨rfl, Except.ok.inj same.1⟩⟩
    · rw [if_neg inTime, status_errorResponse]
      exact ⟨fun same => absurd same.1 apart, fun same => absurd same.2 inTime⟩
  · rename_i code failed
    rw [failed, status_errorResponse]
    exact ⟨fun same => absurd same.1 apart, fun same => by cases same.1⟩

/-- An admitted request gets what its valid form is answered, where it has one. -/
theorem enrichAdmitted_ok_iff {serializer : Serializer} {config : Config}
    {read : List UInt8 → Option Value} {parser : UrlParser} {supported : Bool}
    {received : List Received} {answer : ValidatedRequest → Response} :
    ((enrichAdmitted serializer config read parser id supported received answer).status = 200 ∧
        (enrichAdmitted serializer config read parser id supported received answer).body =
          bytes) ↔
      supported = true ∧ ∃ whole valid,
        receive config.maxRequestBytes.toNat [] received = .ok whole ∧
        validateRequest read parser whole config.maxBatchSize.toNat config.enabled = .ok valid ∧
        (answer valid).status = 200 ∧ (answer valid).body = bytes := by
  unfold enrichAdmitted
  cases supported with
  | false =>
      rw [if_neg Bool.false_ne_true, status_errorResponse]
      exact ⟨fun same => absurd same.1 (by decide), fun same => nomatch same.1⟩
  | true =>
      rw [if_pos rfl]
      cases reads : receive config.maxRequestBytes.toNat [] received with
      | error failure =>
          obtain ⟨status, code⟩ := failure
          have other : status ≠ 200 := by
            rw [(receive_error reads).1]
            cases code <;> decide
          dsimp only
          rw [status_errorResponse]
          exact ⟨fun same => absurd same.1 other, fun ⟨_, _, _, same, _⟩ => by cases same⟩
      | ok whole =>
          dsimp only
          cases valid : validateRequest read parser whole config.maxBatchSize.toNat
            config.enabled with
          | ok request =>
              dsimp only
              constructor
              · exact fun same => ⟨rfl, whole, request, rfl, valid, same⟩
              · rintro ⟨_, other, checked, same, passes, answered⟩
                cases same
                cases valid.symm.trans passes
                exact answered
          | error error =>
              have never : ∀ whole' valid',
                  Except.ok whole = Except.ok (ε := UInt16 × ErrorCode) whole' →
                  validateRequest read parser whole' config.maxBatchSize.toNat config.enabled =
                    .ok valid' → False := by
                rintro _ _ same passes
                cases same
                cases valid.symm.trans passes
              cases error with
              | invalidJson =>
                  dsimp only
                  rw [status_errorResponse]
                  exact ⟨fun same => absurd same.1 (by decide),
                    fun ⟨_, _, _, same, passes, _⟩ => (never _ _ same passes).elim⟩
              | semantic details =>
                  have other : (errorResponse serializer id 422 .validationError
                      (some details)).status ≠ 200 := by
                    have plain : errorResponse serializer id 422 .validationError (some details) =
                      jsonResponse serializer id 422
                        (errorEnvelope id .validationError (some details)) := rfl
                    have apart : (422 : UInt16) ≠ 200 ∧ (500 : UInt16) ≠ 200 := by decide
                    rw [plain, jsonResponse_eq]
                    split
                    · exact apart.1
                    · exact apart.2
                  exact ⟨fun same => absurd same.1 other,
                    fun ⟨_, _, _, same, passes, _⟩ => (never _ _ same passes).elim⟩

/-- Lookups have one path. -/
theorem route_enrich_iff {path : String} : route path = .enrich ↔ path = "/v1/enrich" := by
  unfold route
  split_ifs with enrich live ready
  · exact iff_of_true rfl enrich
  · exact iff_of_false nofun enrich
  · exact iff_of_false nofun enrich
  · exact iff_of_false nofun enrich

/-- **Who gets a report.** A request to the lookup route is answered under the
status 200 exactly if it is a POST with one authorization, of a token that the
digest does not tell from the one of the service, finds the service up and with
room, names JSON as its content and no compression, comes in time and within its
bound, however it is cut, is valid, and its envelope is projected within its
limits and in time; and then the body is that envelope. -/
theorem report_iff :
    (request.path = "/v1/enrich" ∧ (handle service moment id request).status = 200 ∧
        (handle service moment id request).body = bytes) ↔
      Served service moment id request bytes := by
  constructor
  · rintro ⟨addressed, answered⟩
    unfold handle at answered
    rw [route_enrich_iff.mpr addressed] at answered
    dsimp only at answered
    by_cases post : request.method ≠ "POST"
    · rw [if_pos post] at answered
      unfold methodError at answered
      rw [errorResponse_eq] at answered
      exact absurd answered.1 (show (405 : UInt16) ≠ 200 by decide)
    rw [if_neg post] at answered
    by_cases denied : (!authorized service request.headers) = true
    · rw [if_pos denied, status_errorResponse] at answered
      exact absurd answered.1 (by decide)
    rw [if_neg denied] at answered
    unfold enrich at answered
    by_cases down : (moment.stopping || !moment.healthy) = true
    · rw [if_pos down, status_errorResponse] at answered
      exact absurd answered.1 (by decide)
    rw [if_neg down] at answered
    by_cases full : (!moment.admission) = true
    · rw [if_pos full, status_errorResponse] at answered
      exact absurd answered.1 (by decide)
    rw [if_neg full, enrichAdmitted_ok_iff] at answered
    obtain ⟨supported, whole, valid, reads, passes, served⟩ := answered
    obtain ⟨json, uncompressed⟩ := supportedMediaType_iff.mp supported
    obtain ⟨chunks, split, rfl, within⟩ := receive_ok_iff.mp reads
    obtain ⟨projected, inTime⟩ := serve_ok_iff.mp served
    simp only [Bool.not_eq_true, Bool.or_eq_false_iff, Bool.not_eq_false'] at denied down full
    exact {
      addressed := ⟨addressed, not_not.mp post⟩
      authorized := authorized_iff.mp denied
      admitted := ⟨down.1, down.2, full⟩
      json
      uncompressed
      projected := ⟨chunks, valid, split, within, passes, projected⟩
      inTime }
  · intro served
    obtain ⟨chunks, valid, split, within, passes, projected⟩ := served.projected
    have post : ¬ request.method ≠ "POST" := not_not.mpr served.addressed.2
    have token := authorized_iff.mpr served.authorized
    have supported := supportedMediaType_iff.mpr ⟨served.json, served.uncompressed⟩
    refine ⟨served.addressed.1, ?_⟩
    unfold handle
    rw [route_enrich_iff.mpr served.addressed.1]
    dsimp only
    rw [if_neg post, token, Bool.not_true, if_neg Bool.false_ne_true]
    unfold enrich
    rw [served.admitted.1, served.admitted.2.1, served.admitted.2.2, Bool.not_true, Bool.or_false,
      if_neg Bool.false_ne_true, if_neg Bool.false_ne_true, enrichAdmitted_ok_iff]
    exact ⟨supported, chunks.flatten, valid, receive_ok_iff.mpr ⟨chunks, split, rfl, within⟩,
      passes, serve_ok_iff.mpr ⟨projected, served.inTime⟩⟩

end Served

end RustEnrich.Http
