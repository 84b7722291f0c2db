import ApexQuant.Auth.Tokens
import ApexQuant.Foundation.PercentEncoding
import ApexQuant.Gateway.Config

namespace ApexQuant
namespace Gateway

open Foundation
open Auth (AuthContext TokenPackages ApexAuth.AuthError)

/-!
# The proxy

`http.rs` of the two gateway crates.  They route and forward alike; the one of the
control plane has a layer before that verifies the token of a request, and writes what
it verified into headers of the forwarded request.  A run of a gateway on a request is
what it sends to upstreams.  In the source the proxy reads the request again after it
has taken its body; it is read here as if the body had been taken from a copy.
-/

/-! ## Requests -/

/-- A path and a query as they came over the wire: without blanks or controls. -/
structure Uri where
  path : Text
  query : Option Text
  visible : (path ++ query.getD []).all (fun c => decide (32 < c.toNat)) = true

/-- The names of headers are in lower case. -/
structure Request where
  method : Text
  uri : Uri
  headers : List (Text × List UInt8)
  body : List UInt8

abbrev HeaderMap := AList fun _ : Text => List UInt8

structure UpstreamRequest where
  method : Text
  url : Url
  headers : HeaderMap
  body : List UInt8

/-- `HeaderMap::get`: the first value. -/
def Request.header (request : Request) (name : Text) : Option (List UInt8) :=
  (request.headers.find? fun header => decide (header.1 = name)).map Prod.snd

/-- `HeaderValue::to_str`. -/
def toStr (value : List UInt8) : Option Text :=
  if value.all (fun octet => (32 ≤ octet && octet < 127) || octet == 9) then
    some (value.map fun octet => Char.ofNat octet.toNat)
  else none

/-- `HeaderValue::from_str`. -/
def headerValue (text : Text) : Except GatewayError (List UInt8) :=
  if (Text.utf8 text).all (fun octet => (32 ≤ octet && octet != 127) || octet == 9) then .ok (Text.utf8 text)
  else .error .internal

/-! ## Forwarded URLs -/

/-- `path_segments_mut().push(segment)`. -/
def push (segmentSet : Char -> Bool) (path segment : Text) : Text :=
  if segment = ".".toList ∨ segment = "..".toList then path
  else (if path = "/".toList then path else path ++ "/".toList) ++ PercentEncoding.encode segmentSet segment

def nonemptySegments (text : Text) : List Text :=
  (List.splitOn '/' text).filter fun segment => decide (segment ≠ [])

/-- `raw_path.strip_prefix(&prefix).unwrap_or("")`. -/
def remainingPath (rawPath service : Text) : Text :=
  let opening := "/api/".toList ++ service
  if opening <+: rawPath then rawPath.drop opening.length else []

/-- The URL of the forwarded request. -/
def forwardUrl (urls : UrlPackage) (upstream : Upstream) (service : Text) (uri : Uri) : Url :=
  let segments := nonemptySegments ((remainingPath uri.path service).dropWhile fun c => decide (c = '/'))
  { upstream.baseUrl with
    path := segments.foldl (push urls.segmentSet) upstream.baseUrl.path
    query := uri.query.map (PercentEncoding.encode urls.querySet) }

/-! ## Headers -/

def contentType : Text := "content-type".toList

def accept : Text := "accept".toList

def xRequestId : Text := "x-request-id".toList

def subjectHeader : Text := "x-apex-auth-subject".toList

def principalTypeHeader : Text := "x-apex-auth-principal-type".toList

def shouldForward (name : Text) : Bool :=
  decide (name = contentType) || decide (name = accept) || "x-apex-".toList.isPrefixOf name

/-- The headers that are written from what the token said. -/
def identityHeaders : Option AuthContext -> Except GatewayError (List (Text × List UInt8))
  | none => .ok []
  | some context => do
      let subject ← headerValue context.subject
      let principalType ← headerValue context.principalType
      .ok [(subjectHeader, subject), (principalTypeHeader, principalType)]

/-- The headers of the forwarded request; `insert` replaces what stands under the name. -/
def forwardHeaders (requestId : Text) (context : Option AuthContext) (request : Request) :
    Except GatewayError HeaderMap := do
  let requestId ← headerValue requestId
  let identity ← identityHeaders context
  .ok (LastWrites.fill (request.headers.filter (fun header => shouldForward header.1) ++ [(xRequestId, requestId)] ++
    identity))

/-! ## Routes -/

inductive Route where
  | verify
  | proxy (service : Text)
  | other
  deriving DecidableEq

def apiPrefix : Text := "/api/".toList

def verifyPath : Text := "/v1/gateway/verify".toList

/-- `/api/:service` and `/api/:service/*path`: no parameter is empty, and every one is
UTF-8 when its escapes have been read. -/
def proxyRoute (target : Text) : Route :=
  let service := target.takeWhile fun c => decide (c ≠ '/')
  let path := target.dropWhile fun c => decide (c ≠ '/')
  if service = [] ∨ path = ['/'] then .other
  else
    match PercentEncoding.ofUtf8 (PercentEncoding.decode service),
      PercentEncoding.ofUtf8 (PercentEncoding.decode path.tail) with
    | some service, some _ => .proxy service
    | _, _ => .other

def routeOf (path : Text) : Route :=
  if path = verifyPath then .verify
  else if apiPrefix <+: path then proxyRoute (path.drop apiPrefix.length)
  else .other

/-! ## `http.rs` -/

/-- What a gateway runs with. -/
structure AppState where
  urls : UrlPackage
  tokens : TokenPackages
  config : Config

inductive Refusal where
  | unauthorized (message : Text)
  | failed (error : GatewayError)
  | unmatched

/-- What was sent to upstreams, and why no answer of theirs is relayed, if so. -/
structure Handled where
  contacts : List UpstreamRequest
  refusal : Option Refusal

/-- `request_context`: the request's own id, or a fresh one. -/
def requestId (fresh : Text) (request : Request) : Text :=
  ((request.header xRequestId).bind toStr).getD fresh

def proxyMethods : List Text :=
  ["GET".toList, "POST".toList, "HEAD".toList]

def bearer : Text := "Bearer ".toList

/-- `trim_start_matches(prefix)`, for as many times as there are characters. -/
def trimStartMatches (fuel : Nat) (opening text : Text) : Text :=
  match fuel with
  | 0 => text
  | fuel + 1 => if opening <+: text then trimStartMatches fuel opening (text.drop opening.length) else text

/-- What the layer does about a request whose header has been read. -/
inductive Credentials where
  | missing
  | malformed
  | token (text : Text)
  deriving DecidableEq

def credentials (request : Request) : Credentials :=
  match (request.header "authorization".toList).bind toStr with
  | none => .missing
  | some value => if bearer <+: value then .token (trimStartMatches value.length bearer value) else .malformed

def authErrorText : ApexAuth.AuthError -> Text
  | .invalidTokenFormat => "invalid token format".toList
  | .invalidTokenVersion => "invalid token version".toList
  | .invalidBase64 => "invalid base64 payload".toList
  | .invalidPayload => "invalid token payload".toList
  | .invalidSignature => "invalid token signature".toList
  | .tokenExpired => "token expired".toList

namespace AppState

variable (state : AppState)

def registry : RouteRegistry :=
  RouteRegistry.new state.config.upstreams

/-- `proxy_service`, up to the request it sends. -/
def proxyService (requestId : Text) (context : Option AuthContext) (service : Text) (request : Request) :
    Except GatewayError UpstreamRequest :=
  match state.registry.get service with
  | none => .error .upstreamNotFound
  | some upstream =>
      if request.method ∉ proxyMethods then .error .methodNotAllowed
      else if state.config.maxBodyBytes < request.body.length then .error .bodyTooLarge
      else do
        let headers ← forwardHeaders requestId context request
        .ok
          { method := request.method
            url := forwardUrl state.urls upstream service request.uri
            headers := headers
            body := request.body }

/-- The health probes of `verify`, until a URL cannot be made. -/
def probes : List Upstream -> Handled
  | [] => { contacts := [], refusal := none }
  | upstream :: rest =>
      match state.urls.join upstream.baseUrl "healthz".toList with
      | none => { contacts := [], refusal := some (.failed .internal) }
      | some healthUrl =>
          { contacts := { method := "GET".toList, url := healthUrl, headers := ∅, body := [] } :: (probes rest).contacts
            refusal := (probes rest).refusal }

/-- The router of both crates, behind the layers. -/
def dispatch (requestId : Text) (context : Option AuthContext) (request : Request) : Handled :=
  match routeOf request.uri.path with
  | .verify =>
      if request.method = "GET".toList ∨ request.method = "HEAD".toList then
        state.probes state.registry.services
      else { contacts := [], refusal := some .unmatched }
  | .proxy service =>
      match state.proxyService requestId context service request with
      | .ok sent => { contacts := [sent], refusal := none }
      | .error error => { contacts := [], refusal := some (.failed error) }
  | .other => { contacts := [], refusal := some .unmatched }

/-- `authenticate_request`: the context of the request that goes on, or the message of
the answer. -/
def authenticateRequest (now : Int) (request : Request) : Except Text (Option AuthContext) :=
  if ¬apiPrefix <+: request.uri.path ∨ state.config.authMode = .disabled then .ok none
  else
    match credentials request with
    | .malformed => .error "invalid authorization header format".toList
    | .missing =>
        if state.config.authMode = .enforced then .error "authentication token is required".toList else .ok none
    | .token token =>
        match state.config.authSecret with
        | none => .error "gateway authentication secret is not configured".toList
        | some secret =>
            match Auth.ApexAuth.verifyToken state.tokens secret token now with
            | .ok context => .ok (some context)
            | .error error => .error ("authentication failed: ".toList ++ authErrorText error)

/-- The gateway of the control plane on a request. -/
def handle (now : Int) (fresh : Text) (request : Request) : Handled :=
  match state.authenticateRequest now request with
  | .error message => { contacts := [], refusal := some (.unauthorized message) }
  | .ok context => state.dispatch (requestId fresh request) context request

/-- The gateway of the other crate, which has no such layer. -/
def handlePlain (fresh : Text) (request : Request) : Handled :=
  state.dispatch (requestId fresh request) none request

/-! ## What is sent -/

variable {state : AppState}

/-- Everything that is known of a request that was forwarded. -/
theorem proxyService_ok {requestId service : Text} {context : Option AuthContext} {request : Request}
    {sent : UpstreamRequest} (forwarded : state.proxyService requestId context service request = .ok sent) :
    Exists fun upstream => Exists fun headers => state.registry.get service = some upstream ∧
      forwardHeaders requestId context request = .ok headers ∧
      sent = { method := request.method, url := forwardUrl state.urls upstream service request.uri,
               headers := headers, body := request.body } := by
  rw [proxyService] at forwarded
  cases found : state.registry.get service with
  | none =>
      rw [found] at forwarded
      cases forwarded
  | some upstream =>
      rw [found] at forwarded
      by_cases method : request.method ∉ proxyMethods
      · simp only [if_pos method] at forwarded
        cases forwarded
      · by_cases large : state.config.maxBodyBytes < request.body.length
        · simp only [if_neg method, if_pos large] at forwarded
          cases forwarded
        · simp only [if_neg method, if_neg large] at forwarded
          cases written : forwardHeaders requestId context request with
          | error error =>
              rw [written] at forwarded
              cases forwarded
          | ok headers =>
              rw [written] at forwarded
              exact ⟨upstream, headers, rfl, rfl, (Except.ok.inj forwarded).symm⟩

theorem contact_of_proxy {requestId service : Text} {context : Option AuthContext} {request : Request}
    {sent : UpstreamRequest} (routed : routeOf request.uri.path = .proxy service)
    (contacted : sent ∈ (state.dispatch requestId context request).contacts) :
    state.proxyService requestId context service request = .ok sent := by
  rw [dispatch, routed] at contacted
  cases forwarded : state.proxyService requestId context service request with
  | error error =>
      simp only [forwarded] at contacted
      cases contacted
  | ok other =>
      simp only [forwarded, List.mem_singleton] at contacted
      rw [contacted]

theorem mem_probes {upstreams : List Upstream} {sent : UpstreamRequest}
    (contacted : sent ∈ (state.probes upstreams).contacts) : sent.headers = ∅ ∧ sent.body = [] := by
  induction upstreams with
  | nil => cases contacted
  | cons upstream rest inductionHypothesis =>
      rw [probes] at contacted
      cases joined : state.urls.join upstream.baseUrl "healthz".toList with
      | none =>
          rw [joined] at contacted
          cases contacted
      | some healthUrl =>
          rw [joined] at contacted
          rcases List.mem_cons.1 contacted with rfl | later
          · exact ⟨rfl, rfl⟩
          · exact inductionHypothesis later

/-- Upstreams are contacted by the proxy and by the probes. -/
theorem contact_cases {requestId : Text} {context : Option AuthContext} {request : Request} {sent : UpstreamRequest}
    (contacted : sent ∈ (state.dispatch requestId context request).contacts) :
    (Exists fun service => routeOf request.uri.path = .proxy service ∧
      state.proxyService requestId context service request = .ok sent) ∨
    (routeOf request.uri.path = .verify ∧ sent.headers = ∅ ∧ sent.body = []) := by
  cases routed : routeOf request.uri.path with
  | proxy service => exact Or.inl ⟨service, rfl, contact_of_proxy routed contacted⟩
  | verify =>
      rw [dispatch, routed] at contacted
      by_cases method : request.method = "GET".toList ∨ request.method = "HEAD".toList
      · simp only [if_pos method] at contacted
        exact Or.inr ⟨rfl, mem_probes contacted⟩
      · simp only [if_neg method] at contacted
        cases contacted
  | other =>
      rw [dispatch, routed] at contacted
      cases contacted

/-- The layer lets the request through, with a context or without, or nothing is sent. -/
theorem contact_of_handle {now : Int} {fresh : Text} {request : Request} {sent : UpstreamRequest}
    (contacted : sent ∈ (state.handle now fresh request).contacts) :
    Exists fun context => state.authenticateRequest now request = .ok context ∧
      sent ∈ (state.dispatch (requestId fresh request) context request).contacts := by
  rw [handle] at contacted
  cases admitted : state.authenticateRequest now request with
  | error message =>
      rw [admitted] at contacted
      cases contacted
  | ok context =>
      rw [admitted] at contacted
      exact ⟨context, rfl, contacted⟩

end AppState
end Gateway
end ApexQuant
