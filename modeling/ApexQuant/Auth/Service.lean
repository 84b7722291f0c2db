import ApexQuant.Auth.Store

namespace ApexQuant
namespace Auth

open Foundation
open Foundation.Database

/-!
# The auth service

`AuthService` over the Postgres repository, with the parts of `security.py` that
it calls.  The password hasher is a package of its own and stays a parameter.  A
token is represented by the claims it carries: what happens to them on their way
through the signed text is no concern of the service.

Whatever a call draws or reads off a clock is an argument: row identifiers, key
texts, salts and the times of the database and of the process, which are not the
same clock.
-/

/-! ## `security.py` -/

/-- What `PasswordHasher.verify` does: it returns, raises `VerifyMismatchError`, or
raises something else. -/
inductive Verification where
  | verified
  | mismatch
  | failed
  deriving DecidableEq, Repr

/-- The `PasswordHasher` of the package `argon2`. -/
structure PasswordHasher where
  hash : Text -> Text -> Text
  verify : Text -> Text -> Verification

namespace Security

/-- `parse_api_key`. -/
def parseApiKey (apiKey : Text) : Except AuthSecurityError (Text × Text) :=
  let apiKey := Text.strip apiKey
  if apiKey.isEmpty then .error .emptyApiKey
  else if '.' ∈ apiKey then
    let identifier := apiKey.takeWhile fun c => decide (c ≠ '.')
    let secret := (apiKey.dropWhile fun c => decide (c ≠ '.')).drop 1
    if identifier.isEmpty || secret.isEmpty then .error .invalidApiKeyFormat
    else .ok (identifier, secret)
  else .ok ("bootstrap".toList, apiKey)

/-- `verify_api_key_secret`. -/
def verifyApiKeySecret (hasher : PasswordHasher) (secretHash secret : Text) : Except AuthError Bool :=
  match hasher.verify secretHash secret with
  | .verified => .ok true
  | .mismatch => .ok false
  | .failed => .error .hashing

/-- The alphabet of `base64.urlsafe_b64encode`. -/
def urlSafe (c : Char) : Bool :=
  c ∈ "ABCDEFGHIJKLMNOPQRSTUVWXYZabcdefghijklmnopqrstuvwxyz0123456789-_".toList

/-- What `generate_api_key` returns: twelve and thirty-two random bytes, encoded
without padding. -/
structure ApiKey where
  identifier : Text
  secret : Text
  identifier_shape : identifier.length = 16 ∧ identifier.all urlSafe = true
  secret_shape : secret.length = 43 ∧ secret.all urlSafe = true

def ApiKey.fullKey (key : ApiKey) : Text :=
  key.identifier ++ '.' :: key.secret

end Security

/-- `TokenClaims`. -/
structure TokenClaims where
  sub : Text
  typ : Text
  iat : Int
  exp : Int
  jti : Text
  permissions : List Text
  deriving DecidableEq

/-- `AuthContext`. -/
structure AuthContext where
  subject : Text
  principalType : Text
  permissions : List Text
  expiresAt : Int
  jti : Text
  deriving DecidableEq

/-- The last steps of `security.verify_token`, on the claims it has decoded. -/
def Security.verifyToken (claims : TokenClaims) (nowUnix : Int) : Except AuthSecurityError AuthContext :=
  if claims.exp ≤ nowUnix then .error .tokenExpired
  else
    .ok
      { subject := claims.sub
        principalType := claims.typ
        permissions := claims.permissions
        expiresAt := claims.exp
        jti := claims.jti }

/-! ## `service.py` -/

/-- `CreateApiKeyRequest`. -/
structure CreateApiKeyRequest where
  subjectName : Text
  principalType : PrincipalType
  permissions : List Text
  expiresInDays : Option Nat
  expiresInDays_bounds : forall days, expiresInDays = some days -> 1 ≤ days ∧ days ≤ 3650

/-- `CreateApiKeyResponse`. -/
structure CreateApiKeyResponse where
  subjectName : Text
  principalType : PrincipalType
  identifier : Text
  apiKey : Text
  permissions : List Text

/-- `IssueTokenResponse`, with the claims in place of the text of the token. -/
structure IssueTokenResponse where
  accessToken : TokenClaims
  expiresIn : Int
  permissions : List Text

/-- What a call of `issue_token` reads off the clocks and draws: the database's time
at the two statements that use it, the process's time in seconds, and the `jti`. -/
structure IssueDraws where
  grantsReadAt : Int
  usedAt : Int
  now : Int
  jti : Text

/-- What a call of `create_api_key` draws, and the process's time in microseconds. -/
structure CreateDraws where
  principalId : Id
  credentialId : Id
  key : Security.ApiKey
  salt : Text
  now : Int

/-- What a call of `ensure_bootstrap` draws. -/
structure BootstrapDraws where
  principalId : Id
  credentialId : Id
  salt : Text

def microsecondsPerDay : Int := 86400000000

/-- What the service runs on. -/
structure Deployment where
  fold : Text.Lowercasing
  collation : Text -> Text -> Bool
  hasher : PasswordHasher

namespace AuthService

/-- A failed attempt: it is audited, and the caller learns the error. -/
def deny {A : Type} (subjectName : Text) (principalType : Option Text) (action reason : Text)
    (error : AuthSecurityError) : Program AuthError AuthStore A := do
  recordEvent subjectName principalType action "DENY".toList reason
  throw (.raised (.security error))

/-- `ensure_bootstrap` of the repository, called for an administrator. -/
def ensureBootstrap (deployment : Deployment) (draws : BootstrapDraws) (subjectName apiKey : Text)
    (permissions : List Text) : Program AuthError AuthStore Unit :=
  match Security.parseApiKey apiKey with
  | .error error => throw (.raised (.security error))
  | .ok (identifier, secret) => do
      let principalId ← createPrincipal draws.principalId subjectName .admin
      grantPermissions deployment.fold principalId permissions
      statement (upsertBootstrapCredential draws.credentialId principalId identifier
        (deployment.hasher.hash draws.salt secret))

/-- The part of `issue_token` that follows the checks. -/
def issueClaims (deployment : Deployment) (draws : IssueDraws) (credential : Credential) (principal : Principal)
    (ttlSeconds : Int) : Program AuthError AuthStore IssueTokenResponse := do
  let permissions ← getPermissions deployment.collation credential.principalId draws.grantsReadAt
  updateLastUsed credential.credentialId draws.usedAt
  recordEvent principal.subjectName (some principal.principalType.value) "ISSUE_TOKEN".toList "SUCCESS".toList
    "token issued".toList
  pure
    { accessToken :=
        { sub := principal.subjectName
          typ := principal.principalType.value
          iat := draws.now
          exp := draws.now + ttlSeconds
          jti := draws.jti
          permissions := permissions }
      expiresIn := ttlSeconds
      permissions := permissions }

/-- `issue_token`. -/
def issueToken (deployment : Deployment) (draws : IssueDraws) (apiKey : Text) (ttlSeconds : Int) :
    Program AuthError AuthStore IssueTokenResponse :=
  match Security.parseApiKey apiKey with
  | .error error => throw (.raised (.security error))
  | .ok (identifier, secret) => do
      let row ← getCredentialWithPrincipal identifier
      match row with
      | none => deny identifier none "ISSUE_TOKEN".toList "credential not found".toList .invalidApiKey
      | some (credential, principal) =>
          let refuse (reason : String) (error : AuthSecurityError) : Program AuthError AuthStore IssueTokenResponse :=
            deny principal.subjectName (some principal.principalType.value) "ISSUE_TOKEN".toList reason.toList error
          if credential.status ≠ .active then refuse "credential is not active" .credentialNotActive
          else if principal.active = false then refuse "principal is not active" .principalNotActive
          else
            match Security.verifyApiKeySecret deployment.hasher credential.secretHash secret with
            | .error error => throw (.raised error)
            | .ok false => refuse "invalid API key secret" .invalidApiKey
            | .ok true => issueClaims deployment draws credential principal ttlSeconds

/-- `verify_token`. -/
def verifyToken (claims : TokenClaims) (nowUnix : Int) : Program AuthError AuthStore AuthContext :=
  match Security.verifyToken claims nowUnix with
  | .error error => deny "<unknown>".toList none "VERIFY_TOKEN".toList error.message.toList error
  | .ok context => do
      recordEvent context.subject (some context.principalType) "VERIFY_TOKEN".toList "SUCCESS".toList
        "token verified".toList
      pure context

/-- The text of the request that `authorize` checks. -/
def requiredPermission (action resource : Text) : Text :=
  action ++ ':' :: resource

/-- `authorize`. -/
def authorize (context : AuthContext) (action resource : Text) : Program AuthError AuthStore Bool := do
  let allowed := Permissions.hasPermission context.permissions (requiredPermission action resource)
  recordEvent context.subject (some context.principalType) "AUTHORIZE".toList
    (if allowed then "ALLOW".toList else "DENY".toList) (requiredPermission action resource)
  pure allowed

/-- The check that opens `create_api_key` and `revoke_api_key`. -/
def managesApiKeys (caller : AuthContext) : Bool :=
  Permissions.hasPermission caller.permissions "auth:api_keys:write".toList

/-- `create_api_key`. -/
def createApiKey (deployment : Deployment) (draws : CreateDraws) (caller : AuthContext)
    (request : CreateApiKeyRequest) : Program AuthError AuthStore CreateApiKeyResponse :=
  if managesApiKeys caller = false then throw (.raised (.security .notAuthorizedToCreate))
  else do
    let principalId ← createPrincipal draws.principalId request.subjectName request.principalType
    grantPermissions deployment.fold principalId request.permissions
    createCredential draws.credentialId principalId draws.key.identifier
      (deployment.hasher.hash draws.salt draws.key.secret)
      (request.expiresInDays.map fun days => draws.now + days * microsecondsPerDay)
    recordEvent caller.subject (some caller.principalType) "CREATE_API_KEY".toList "SUCCESS".toList
      ("created API key for ".toList ++ request.subjectName)
    pure
      { subjectName := request.subjectName
        principalType := request.principalType
        identifier := draws.key.identifier
        apiKey := draws.key.fullKey
        permissions := request.permissions }

/-- `revoke_api_key`. -/
def revokeApiKey (caller : AuthContext) (identifier : Text) : Program AuthError AuthStore Bool :=
  if managesApiKeys caller = false then throw (.raised (.security .notAuthorizedToRevoke))
  else do
    let revoked ← revokeCredential identifier
    recordEvent caller.subject (some caller.principalType) "REVOKE_API_KEY".toList
      (if revoked then "SUCCESS".toList else "DENY".toList) ("identifier=".toList ++ identifier)
    pure revoked

end AuthService
end Auth
end ApexQuant
