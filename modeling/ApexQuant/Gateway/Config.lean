import ApexQuant.Foundation.Base64
import ApexQuant.Foundation.LastWrites
import ApexQuant.Foundation.Numerals

namespace ApexQuant
namespace Gateway

open Foundation

/-!
# Configuration of the gateway

`errors.rs`, `config.rs` and `registry.rs`.  An upstream has been validated, and a
configuration that asks for tokens holds the secret they are verified with.
-/

/-! ## `errors.rs` -/

inductive GatewayError where
  | config (message : Text)
  | database (message : Text)
  | upstreamNotFound
  | methodNotAllowed
  | bodyTooLarge
  | badGateway
  | gatewayTimeout
  | internal
  deriving DecidableEq

def GatewayError.status : GatewayError -> Nat
  | .config _ => 500
  | .database _ => 503
  | .upstreamNotFound => 404
  | .methodNotAllowed => 405
  | .bodyTooLarge => 413
  | .badGateway => 502
  | .gatewayTimeout => 504
  | .internal => 500

def GatewayError.code : GatewayError -> Text
  | .config _ => "CONFIGURATION_ERROR".toList
  | .database _ => "DATABASE_ERROR".toList
  | .upstreamNotFound => "UPSTREAM_NOT_FOUND".toList
  | .methodNotAllowed => "METHOD_NOT_ALLOWED".toList
  | .bodyTooLarge => "BODY_TOO_LARGE".toList
  | .badGateway => "BAD_GATEWAY".toList
  | .gatewayTimeout => "GATEWAY_TIMEOUT".toList
  | .internal => "INTERNAL_ERROR".toList

def GatewayError.message : GatewayError -> Text
  | .config message => "configuration error: ".toList ++ message
  | .database message => "database error: ".toList ++ message
  | .upstreamNotFound => "upstream service not found".toList
  | .methodNotAllowed => "method not allowed".toList
  | .bodyTooLarge => "request body too large".toList
  | .badGateway => "bad gateway".toList
  | .gatewayTimeout => "gateway timeout".toList
  | .internal => "internal gateway error".toList

/-! ## URLs -/

/-- What the crate `url` keeps of a URL that is sent. -/
structure Url where
  scheme : Text
  authority : Text
  path : Text
  query : Option Text
  deriving DecidableEq

def Url.web (url : Url) : Prop :=
  url.scheme = "http".toList ∨ url.scheme = "https".toList

instance (url : Url) : Decidable url.web :=
  inferInstanceAs (Decidable (_ ∨ _))

/-- The crate `url`: its parser, and the characters that it escapes in a segment and in
a query. -/
structure UrlPackage where
  parse : Text -> Option Url
  join : Url -> Text -> Option Url
  segmentSet : Char -> Bool
  querySet : Char -> Bool
  rooted : forall text url, parse text = some url -> url.web -> url.path.head? = some '/'
  percent_reserved : segmentSet '%' = true
  slash_reserved : segmentSet '/' = true

/-! ## `config.rs` -/

inductive AuthMode where
  | disabled
  | permissive
  | enforced
  deriving DecidableEq

def parseAuthMode (raw : Text) : Except GatewayError AuthMode :=
  let mode := (Text.trim raw).map Char.toLower
  if mode = "disabled".toList then .ok .disabled
  else if mode = "permissive".toList then .ok .permissive
  else if mode = "enforced".toList then .ok .enforced
  else .error (.config ("invalid APEX_GATEWAY_AUTH_MODE: ".toList ++ mode))

/-- `Err(GatewayError::Config(message))` when the condition holds. -/
def refuseIf (condition : Prop) [Decidable condition] (message : Text) : Except GatewayError Unit :=
  if condition then .error (.config message) else .ok ()

def nameCharacter (c : Char) : Bool :=
  c.isLower || c.isDigit || c == '-'

def planeCharacter (c : Char) : Bool :=
  c.isUpper || c == '_'

/-- The checks of a name or a plane; lengths are those in UTF-8. -/
def validateWord (allowed : Char -> Bool) (limit : Nat) (field characters : String) (value : Text) :
    Except GatewayError Unit := do
  refuseIf (value = []) (field.toList ++ " must not be empty".toList)
  refuseIf (limit < (Text.utf8 value).length) (field.toList ++ " is too long".toList)
  refuseIf (value.all allowed = false)
    (field.toList ++ " may only contain ".toList ++ characters.toList ++ ": ".toList ++ value)

def validateServiceName : Text -> Except GatewayError Unit :=
  validateWord nameCharacter 128 "service name" "lowercase letters, digits, and hyphens"

def validatePlane : Text -> Except GatewayError Unit :=
  validateWord planeCharacter 64 "plane" "uppercase letters and underscores"

structure Upstream where
  serviceName : Text
  plane : Text
  baseUrl : Url
  named : validateServiceName serviceName = .ok ()
  planed : validatePlane plane = .ok ()
  rooted : baseUrl.path.head? = some '/'

section Parsing

variable (urls : UrlPackage)

def parseUpstream (entry : Text) : Except GatewayError Upstream :=
  match (List.splitOn '|' entry).map Text.trim with
  | [serviceName, plane, baseUrlRaw] =>
      match named : validateServiceName serviceName with
      | .error error => .error error
      | .ok () =>
          match planed : validatePlane plane with
          | .error error => .error error
          | .ok () =>
              match parsed : urls.parse baseUrlRaw with
              | none => .error (.config ("invalid upstream URL: ".toList ++ baseUrlRaw))
              | some baseUrl =>
                  if web : baseUrl.web then
                    .ok
                      { serviceName := serviceName
                        plane := plane
                        baseUrl := baseUrl
                        named := named
                        planed := planed
                        rooted := urls.rooted _ _ parsed web }
                  else .error (.config ("upstream URL must use http or https: ".toList ++ baseUrlRaw))
  | _ => .error (.config ("invalid upstream entry: ".toList ++ entry))

def parseUpstreams (raw : Text) : Except GatewayError (List Upstream) :=
  (((List.splitOn ';' raw).map Text.trim).filter fun entry => decide (entry ≠ [])).mapM (parseUpstream urls)

def defaultUpstreamsRaw : Text :=
  ("service-framework-core|CONTROL|http://service-framework-core:8080;" ++
    "database-infrastructure-core|CONTROL|http://database-infrastructure-core:8081").toList

/-- `apex_auth::decode_secret_b64` -/
def decodeSecretB64 (raw : Text) : Option (List UInt8) :=
  let body := (Text.trim raw).rdropWhile fun c => decide (c = '=')
  (Base64.decodeCanonical Base64.standard body).filter fun octets =>
    decide (Text.trim raw = body ++ Base64.padding body.length) && decide (octets.length = 32)

/-- The variables of the process. -/
abbrev Env := Text -> Option Text

def envStr (env : Env) (key default : String) : Text :=
  match ((env key.toList).map Text.trim).filter fun value => decide (value ≠ []) with
  | some value => value
  | none => default.toList

/-- `parse::<usize>()` and `parse::<u64>()`, on 64 bits. -/
def parseUnsigned (raw : Text) : Option Nat :=
  let digits := if raw.head? = some '+' then raw.tail else raw
  let value := Text.asciiDigits.number digits
  if digits ≠ [] ∧ digits.all Char.isDigit = true ∧ value < 2 ^ 64 then some value else none

def envUnsigned (env : Env) (key default : String) : Except GatewayError Nat :=
  match parseUnsigned (envStr env key default) with
  | some value => .ok value
  | none => .error (.config (key.toList ++ " must be an unsigned integer".toList))

def authSecret (env : Env) : Except GatewayError (Option (List UInt8)) :=
  match (env "APEX_AUTH_TOKEN_SECRET".toList).filter fun secretB64 => decide (Text.trim secretB64 ≠ []) with
  | none => .ok none
  | some secretB64 =>
      match decodeSecretB64 secretB64 with
      | some secret => .ok (some secret)
      | none => .error (.config "APEX_AUTH_TOKEN_SECRET must be valid base64-encoded 32 bytes".toList)

/-- What the gateway runs with. -/
structure Config where
  environment : Text
  maxBodyBytes : Nat
  requestTimeoutSecs : Nat
  upstreams : List Upstream
  authMode : AuthMode
  authSecret : Option (List UInt8)
  supplied : upstreams ≠ []
  guarded : authMode ≠ .disabled -> authSecret ≠ none

/-- The end of `Config::from_env`. -/
def checked (environment : Text) (maxBodyBytes requestTimeoutSecs : Nat) (upstreams : List Upstream)
    (supplied : upstreams ≠ []) (authMode : AuthMode) (authSecret : Option (List UInt8)) : Except GatewayError Config :=
  if guarded : authMode ≠ .disabled -> authSecret ≠ none then do
    refuseIf (environment = []) "environment must not be empty".toList
    refuseIf (environment.any Text.isWhitespace = true) "environment must not contain whitespace".toList
    .ok
      { environment := environment
        maxBodyBytes := maxBodyBytes
        requestTimeoutSecs := requestTimeoutSecs
        upstreams := upstreams
        authMode := authMode
        authSecret := authSecret
        supplied := supplied
        guarded := guarded }
  else
    .error (.config "APEX_AUTH_TOKEN_SECRET is required when gateway authentication is not disabled".toList)

/-- `Config::from_env`.  The standard library knows which texts are socket addresses. -/
def fromEnv (isSocketAddr : Text -> Bool) (env : Env) : Except GatewayError Config := do
  refuseIf (isSocketAddr (envStr env "APEX_HTTP_ADDR" "0.0.0.0:8085") = false)
    "APEX_HTTP_ADDR must be a valid socket address".toList
  let maxBodyBytes ← envUnsigned env "APEX_GATEWAY_MAX_BODY_BYTES" "10485760"
  let requestTimeoutSecs ← envUnsigned env "APEX_GATEWAY_REQUEST_TIMEOUT_SECS" "5"
  let upstreams ← parseUpstreams urls ((env "APEX_GATEWAY_UPSTREAMS".toList).getD defaultUpstreamsRaw)
  if supplied : upstreams ≠ [] then do
    let authMode ← parseAuthMode (envStr env "APEX_GATEWAY_AUTH_MODE" "permissive")
    let authSecret ← authSecret env
    checked (envStr env "APEX_ENVIRONMENT" "local") maxBodyBytes requestTimeoutSecs upstreams supplied authMode authSecret
  else .error (.config "at least one upstream service must be configured".toList)

end Parsing

/-! ## `registry.rs` -/

/-- Upstreams by name; a later one takes the place of an earlier one. -/
def RouteRegistry : Type :=
  AList fun _ : Text => Upstream

namespace RouteRegistry

def new (upstreams : List Upstream) : RouteRegistry :=
  LastWrites.fill (upstreams.map fun upstream => (upstream.serviceName, upstream))

def get (registry : RouteRegistry) (serviceName : Text) : Option Upstream :=
  AList.lookup serviceName registry

/-- In the order of their names. -/
def services (registry : RouteRegistry) : List Upstream :=
  (LastWrites.values registry).insertionSort fun left right => left.serviceName ≤ right.serviceName

theorem serviceName_of_get {upstreams : List Upstream} {serviceName : Text} {upstream : Upstream}
    (found : (new upstreams).get serviceName = some upstream) : upstream.serviceName = serviceName := by
  rcases LastWrites.lookup_fill_iff.1 found with ⟨before, after, split, _⟩
  have member : (serviceName, upstream) ∈ upstreams.map fun upstream => (upstream.serviceName, upstream) := by
    rw [split]
    exact List.mem_append_right before List.mem_cons_self
  rcases List.mem_map.1 member with ⟨other, _, same⟩
  rcases Prod.mk.inj same with ⟨named, rfl⟩
  exact named

end RouteRegistry

/-! ## Names in a path -/

theorem ok_of_refuseIf {condition : Prop} [Decidable condition] {message : Text}
    (kept : refuseIf condition message = .ok ()) : ¬condition := by
  intro holds
  rw [refuseIf, if_pos holds] at kept
  cases kept

theorem validateWord_ok {allowed : Char -> Bool} {limit : Nat} {field characters : String} {value : Text}
    (valid : validateWord allowed limit field characters value = .ok ()) : value ≠ [] ∧ value.all allowed = true := by
  by_cases empty : value = []
  · rw [validateWord, refuseIf, if_pos empty] at valid
    cases valid
  · rw [validateWord, refuseIf, if_neg empty] at valid
    by_cases long : limit < (Text.utf8 value).length
    · rw [refuseIf, if_pos long] at valid
      cases valid
    · rw [refuseIf, if_neg long] at valid
      have last : refuseIf (value.all allowed = false) _ = .ok () := valid
      exact ⟨empty, Bool.eq_true_of_not_eq_false (ok_of_refuseIf last)⟩

/-- Neither a slash nor an escape is in the name of an upstream. -/
theorem Upstream.not_mem_serviceName (upstream : Upstream) {c : Char} (foreign : nameCharacter c = false) :
    c ∉ upstream.serviceName := by
  intro member
  have all := List.all_eq_true.1 (validateWord_ok upstream.named).2 c member
  exact Bool.false_ne_true (foreign.symm.trans all)

end Gateway
end ApexQuant
