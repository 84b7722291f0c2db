import ApexQuant.Auth.Issuance
import ApexQuant.Auth.Tokens

namespace ApexQuant
namespace Auth

open Foundation
open Foundation.Database

/-!
# What becomes of a token that is rejected

`AuthService.verify_token` on the text of a token.  It audits what it accepts and what
is rejected with an `AuthSecurityError`; the exceptions of the decoders pass through it.
-/

/-! ## The service on a text -/

/-- The text of an `AuthSecurityError`; the other exceptions are not of this class. -/
def TokenError.securityMessage : TokenError -> Option String
  | .invalidTokenFormat => some "invalid token format"
  | .unsupportedTokenVersion => some "unsupported token version"
  | .invalidTokenSignature => some "invalid token signature"
  | .refused error => some error.message
  | .notAscii => none
  | .binascii _ => none
  | .invalidPayload => none

/-- The ways in which `verify_token` of the service raises. -/
inductive VerificationError where
  | token (error : TokenError)
  | repository (error : AuthError)
  deriving DecidableEq

/-- The insert of `record_event` with the texts of its `details`, which the column takes
without NUL bytes. -/
def insertDetailedEvent (event : AuthEvent) (details : List Text) (store : AuthStore) :
    Except AuthError Unit × AuthStore :=
  if details.all Text.sendable = false then (.error .nulByte, store) else insertEvent event store

namespace AuthService

/-- `_audit`. -/
def audit (event : AuthEvent) (details : List Text) : Program VerificationError AuthStore Unit :=
  statement fun store =>
    ((insertDetailedEvent event details store).1.mapError .repository, (insertDetailedEvent event details store).2)

/-- The event of a token that is rejected. -/
def denial (reason : String) : AuthEvent where
  subjectName := "<unknown>".toList
  principalType := none
  action := "VERIFY_TOKEN".toList
  decision := "DENY".toList
  reason := reason.toList

/-- The event of a token that is accepted. -/
def acceptance (context : AuthContext) : AuthEvent where
  subjectName := context.subject
  principalType := some context.principalType
  action := "VERIFY_TOKEN".toList
  decision := "SUCCESS".toList
  reason := "token verified".toList

/-- `verify_token`, after the call of `security.verify_token`. -/
def concludeToken : Except TokenError AuthContext -> Program VerificationError AuthStore AuthContext
  | .error error =>
      match error.securityMessage with
      | some message => do
          audit (denial message) []
          throw (.raised (.token error))
      | none => throw (.raised (.token error))
  | .ok context => do
      audit (acceptance context) [context.jti]
      pure context

/-- `verify_token`. -/
def verifyTokenText (packages : TokenPackages) (tokenSecret : List UInt8) (token : Text) (now : Int) :
    Program VerificationError AuthStore AuthContext :=
  concludeToken (Security.verifyTokenText packages tokenSecret token now)

end AuthService

/-! ## Controlled rejection -/

/-- The store with one more event. -/
def AuthStore.logged (store : AuthStore) (event : AuthEvent) : AuthStore :=
  { store with events := store.events ++ [event] }

/-- Nothing but an `AuthSecurityError` is raised over the token, and it leaves one event. -/
structure RejectionControlled (packages : TokenPackages) (secret : List UInt8) (token : Text) (now : Int)
    (connection : Connection AuthStore) : Prop where
  raises : forall error, Security.verifyTokenText packages secret token now = .error error ->
    error.securityMessage.isSome = true
  denied : forall error, Security.verifyTokenText packages secret token now = .error error ->
    Exists fun event => event.action = "VERIFY_TOKEN".toList ∧ event.decision = "DENY".toList ∧
      finalStore (AuthService.verifyTokenText packages secret token now) connection = connection.store.logged event
  accepted : forall context, Security.verifyTokenText packages secret token now = .ok context ->
    Exists fun event => event.action = "VERIFY_TOKEN".toList ∧ event.decision = "SUCCESS".toList ∧
      finalStore (AuthService.verifyTokenText packages secret token now) connection = connection.store.logged event

/-- The claims fit in the columns of an event. -/
def TokenClaims.loggable (claims : TokenClaims) : Bool :=
  recordable claims.sub && Text.sendable claims.typ && Text.sendable claims.jti

/-- A token of three parts and the version has a payload in ASCII and a signature in
base64.  If that is the signature of the payload, the payload is base64 of claims in
JSON, which fit in an event while they have not expired. -/
structure Decodable (packages : TokenPackages) (secret : List UInt8) (token : Text) (now : Int) : Prop where
  spelled : forall payloadB64 signatureB64,
    List.splitOn '.' (Text.strip token) = [tokenVersion, payloadB64, signatureB64] ->
      Text.isAscii (signingText payloadB64) = true ∧
        Exists fun provided => Security.b64urlDecode signatureB64 = .ok provided
  opened : forall payloadB64 signatureB64,
    List.splitOn '.' (Text.strip token) = [tokenVersion, payloadB64, signatureB64] ->
      Security.b64urlDecode signatureB64 = .ok (packages.hmac secret (Text.ascii (signingText payloadB64))) ->
        Exists fun octets => Exists fun claims => Security.b64urlDecode payloadB64 = .ok octets ∧
          packages.pythonReads octets = some claims ∧ (now < claims.exp -> claims.loggable = true)

/-! ## What is audited -/

theorem insertDetailedEvent_snd (event : AuthEvent) (details : List Text) (store : AuthStore) :
    (insertDetailedEvent event details store).2 = store ∨
      (insertDetailedEvent event details store).2 = store.logged event := by
  rw [insertDetailedEvent]
  split
  · exact .inl rfl
  · rw [insertEvent]
    split
    · exact .inl rfl
    · split
      · exact .inl rfl
      · exact .inr rfl

theorem ne_logged (store : AuthStore) (event : AuthEvent) : store ≠ store.logged event := by
  intro same
  have longer := congrArg (fun store => store.events.length) same
  simp [AuthStore.logged] at longer

/-- What is left by an insert before the end. -/
theorem finalStore_audit {A : Type} (event : AuthEvent) (details : List Text) (connection : Connection AuthStore)
    {rest : Unit -> Program VerificationError AuthStore A}
    (quiet : forall answer connection, finalStore (rest answer) connection = connection.store) :
    finalStore (AuthService.audit event details >>= rest) connection =
      if connection.link.carries 0 then (insertDetailedEvent event details connection.store).2
      else connection.store := by
  rcases connection with ⟨store, link⟩
  rw [finalStore, AuthService.audit, statement_bind_run, Link.carries_zero]
  cases link.next with
  | none => rfl
  | some next =>
      dsimp only
      rw [if_pos rfl]
      cases (insertDetailedEvent event details store).1 with
      | error error => rfl
      | ok answer => exact quiet answer _

/-- The insert of an event leaves it behind just when it is carried out and taken. -/
theorem logs_iff {A : Type} {event : AuthEvent} {details : List Text} {connection : Connection AuthStore}
    {rest : Unit -> Program VerificationError AuthStore A}
    (quiet : forall answer connection, finalStore (rest answer) connection = connection.store) :
    finalStore (AuthService.audit event details >>= rest) connection = connection.store.logged event <->
      connection.link.carries 0 = true ∧
        (insertDetailedEvent event details connection.store).2 = connection.store.logged event := by
  rw [finalStore_audit event details connection quiet]
  by_cases carried : connection.link.carries 0 = true
  · rw [if_pos carried]
    exact ⟨fun logged => ⟨carried, logged⟩, fun both => both.2⟩
  · rw [if_neg carried]
    exact iff_of_false (ne_logged _ _) fun both => carried both.1

theorem insert_denial {error : TokenError} {message : String} (raised : error.securityMessage = some message)
    (store : AuthStore) :
    (insertDetailedEvent (AuthService.denial message) [] store).2 = store.logged (AuthService.denial message) := by
  have sendable : Text.sendable message.toList = true := by
    cases error with
    | refused error =>
        rw [← Option.some.inj raised]
        cases error <;> decide
    | notAscii => cases raised
    | binascii error => cases raised
    | invalidPayload => cases raised
    | invalidTokenFormat =>
        rw [← Option.some.inj raised]
        decide
    | unsupportedTokenVersion =>
        rw [← Option.some.inj raised]
        decide
    | invalidTokenSignature =>
        rw [← Option.some.inj raised]
        decide
  have texts : ([(AuthService.denial message).subjectName, (AuthService.denial message).action,
      (AuthService.denial message).decision, (AuthService.denial message).reason] ++
      (AuthService.denial message).principalType.toList).all Text.sendable = true := by
    change (["<unknown>".toList, "VERIFY_TOKEN".toList, "DENY".toList, message.toList] ++ []).all Text.sendable = true
    rw [List.append_nil, List.all_cons, List.all_cons, List.all_cons, List.all_cons, sendable]
    decide
  have filled : (Text.notBlank (AuthService.denial message).subjectName &&
      Text.notBlank (AuthService.denial message).action &&
      ["ALLOW".toList, "DENY".toList, "SUCCESS".toList, "FAILURE".toList].contains
        (AuthService.denial message).decision) = true := by
    change (Text.notBlank "<unknown>".toList && Text.notBlank "VERIFY_TOKEN".toList &&
      ["ALLOW".toList, "DENY".toList, "SUCCESS".toList, "FAILURE".toList].contains "DENY".toList) = true
    decide
  rw [insertDetailedEvent, List.all_nil, if_neg (by decide), insertEvent, texts, filled, if_neg (by decide),
    if_neg (by decide)]
  rfl

/-- The columns of an event take what is known of an accepted token. -/
def AuthContext.loggable (context : AuthContext) : Bool :=
  recordable context.subject && Text.sendable context.principalType && Text.sendable context.jti

theorem insert_acceptance_iff {context : AuthContext} {store : AuthStore} :
    (insertDetailedEvent (AuthService.acceptance context) [context.jti] store).2 =
        store.logged (AuthService.acceptance context) <->
      context.loggable = true := by
  have plain : Text.sendable "VERIFY_TOKEN".toList = true ∧ Text.sendable "SUCCESS".toList = true ∧
      Text.sendable "token verified".toList = true ∧ Text.notBlank "VERIFY_TOKEN".toList = true ∧
      ["ALLOW".toList, "DENY".toList, "SUCCESS".toList, "FAILURE".toList].contains "SUCCESS".toList = true := by
    decide
  have texts : ([(AuthService.acceptance context).subjectName, (AuthService.acceptance context).action,
      (AuthService.acceptance context).decision, (AuthService.acceptance context).reason] ++
      (AuthService.acceptance context).principalType.toList).all Text.sendable =
        (Text.sendable context.subject && Text.sendable context.principalType) := by
    change ([context.subject, "VERIFY_TOKEN".toList, "SUCCESS".toList, "token verified".toList] ++
      [context.principalType]).all Text.sendable = _
    simp only [List.cons_append, List.nil_append, List.all_cons, List.all_nil, plain.1, plain.2.1, plain.2.2.1,
      Bool.true_and, Bool.and_true]
  have filled : (Text.notBlank (AuthService.acceptance context).subjectName &&
      Text.notBlank (AuthService.acceptance context).action &&
      ["ALLOW".toList, "DENY".toList, "SUCCESS".toList, "FAILURE".toList].contains
        (AuthService.acceptance context).decision) = Text.notBlank context.subject := by
    change (Text.notBlank context.subject && Text.notBlank "VERIFY_TOKEN".toList &&
      ["ALLOW".toList, "DENY".toList, "SUCCESS".toList, "FAILURE".toList].contains "SUCCESS".toList) = _
    rw [plain.2.2.2.1, plain.2.2.2.2, Bool.and_true, Bool.and_true]
  have details : [context.jti].all Text.sendable = Text.sendable context.jti := by
    rw [List.all_cons, List.all_nil, Bool.and_true]
  rw [insertDetailedEvent, insertEvent, texts, filled, details, AuthContext.loggable, recordable]
  cases Text.sendable context.jti with
  | false =>
      rw [if_pos rfl, Bool.and_false]
      exact iff_of_false (ne_logged _ _) Bool.false_ne_true
  | true =>
      rw [if_neg (by decide), Bool.and_true]
      cases Text.sendable context.subject with
      | false => exact iff_of_false (ne_logged _ _) Bool.false_ne_true
      | true =>
          cases Text.sendable context.principalType with
          | false =>
              rw [Bool.and_false, Bool.and_false]
              exact iff_of_false (ne_logged _ _) Bool.false_ne_true
          | true =>
              cases Text.notBlank context.subject with
              | false => exact iff_of_false (ne_logged _ _) Bool.false_ne_true
              | true => exact iff_of_true rfl rfl

theorem concludeToken_error_iff {error : TokenError} {connection : Connection AuthStore} :
    (Exists fun event => event.action = "VERIFY_TOKEN".toList ∧ event.decision = "DENY".toList ∧
        finalStore (AuthService.concludeToken (.error error)) connection = connection.store.logged event) <->
      connection.link.carries 0 = true ∧ error.securityMessage.isSome = true := by
  cases raised : error.securityMessage with
  | none =>
      have quiet : finalStore (AuthService.concludeToken (.error error)) connection = connection.store := by
        rw [AuthService.concludeToken, raised]
        rfl
      refine iff_of_false ?_ fun both => Bool.false_ne_true both.2
      rw [quiet]
      rintro ⟨event, _, _, logged⟩
      exact ne_logged _ _ logged
  | some message =>
      have shape : AuthService.concludeToken (.error error) =
          AuthService.audit (AuthService.denial message) [] >>= fun _ => throw (.raised (.token error)) := by
        rw [AuthService.concludeToken, raised]
      have quiet : forall (answer : Unit) (connection : Connection AuthStore),
          finalStore ((fun _ => throw (.raised (.token error)) :
            Unit -> Program VerificationError AuthStore AuthContext) answer) connection = connection.store :=
        fun _ _ => rfl
      rw [shape]
      refine ⟨?_, fun both => ⟨AuthService.denial message, rfl, rfl,
        (logs_iff quiet).mpr ⟨both.1, insert_denial raised _⟩⟩⟩
      rintro ⟨event, _, _, logged⟩
      rw [finalStore_audit _ _ _ quiet] at logged
      by_cases carried : connection.link.carries 0 = true
      · exact ⟨carried, rfl⟩
      · rw [if_neg carried] at logged
        exact absurd logged (ne_logged _ _)

theorem concludeToken_ok_iff {context : AuthContext} {connection : Connection AuthStore} :
    (Exists fun event => event.action = "VERIFY_TOKEN".toList ∧ event.decision = "SUCCESS".toList ∧
        finalStore (AuthService.concludeToken (.ok context)) connection = connection.store.logged event) <->
      connection.link.carries 0 = true ∧ context.loggable = true := by
  have quiet : forall (answer : Unit) (connection : Connection AuthStore),
      finalStore ((fun _ => pure context : Unit -> Program VerificationError AuthStore AuthContext) answer)
        connection = connection.store :=
    fun _ _ => rfl
  rw [AuthService.concludeToken]
  refine ⟨?_, fun both => ⟨AuthService.acceptance context, rfl, rfl,
    (logs_iff quiet).mpr ⟨both.1, insert_acceptance_iff.mpr both.2⟩⟩⟩
  rintro ⟨event, _, _, logged⟩
  rw [finalStore_audit _ _ _ quiet] at logged
  by_cases carried : connection.link.carries 0 = true
  · rw [if_pos carried] at logged
    rcases insertDetailedEvent_snd (AuthService.acceptance context) [context.jti] connection.store with same | taken
    · rw [same] at logged
      exact absurd logged (ne_logged _ _)
    · exact ⟨carried, insert_acceptance_iff.mp taken⟩
  · rw [if_neg carried] at logged
    exact absurd logged (ne_logged _ _)

/-! ## Which texts can be decoded -/

/-- The service has an event for the outcome. -/
def Heeded : Except TokenError AuthContext -> Prop
  | .error error => error.securityMessage.isSome = true
  | .ok context => context.loggable = true

theorem rejectionControlled_iff_heeded {packages : TokenPackages} {secret : List UInt8} {token : Text} {now : Int}
    {connection : Connection AuthStore} :
    RejectionControlled packages secret token now connection <->
      Heeded (Security.verifyTokenText packages secret token now) ∧ connection.link.carries 0 = true := by
  cases outcome : Security.verifyTokenText packages secret token now with
  | error error =>
      constructor
      · intro controlled
        have denied := controlled.denied error outcome
        rw [AuthService.verifyTokenText, outcome, concludeToken_error_iff] at denied
        exact ⟨denied.2, denied.1⟩
      · rintro ⟨heeded, carried⟩
        refine ⟨fun other raised => ?_, fun other raised => ?_, fun context returned => ?_⟩
        · rw [outcome] at raised
          rw [← Except.error.inj raised]
          exact heeded
        · rw [AuthService.verifyTokenText, outcome, concludeToken_error_iff]
          exact ⟨carried, heeded⟩
        · rw [outcome] at returned
          cases returned
  | ok context =>
      constructor
      · intro controlled
        have accepted := controlled.accepted context outcome
        rw [AuthService.verifyTokenText, outcome, concludeToken_ok_iff] at accepted
        exact ⟨accepted.2, accepted.1⟩
      · rintro ⟨heeded, carried⟩
        refine ⟨fun error raised => ?_, fun error raised => ?_, fun other _ => ?_⟩
        · rw [outcome] at raised
          cases raised
        · rw [outcome] at raised
          cases raised
        · rw [AuthService.verifyTokenText, outcome, concludeToken_ok_iff]
          exact ⟨carried, heeded⟩

theorem heeded_verifyToken_iff {claims : TokenClaims} {now : Int} :
    Heeded ((Security.verifyToken claims now).mapError .refused) <-> (now < claims.exp -> claims.loggable = true) := by
  rw [Security.verifyToken]
  by_cases late : claims.exp ≤ now
  · rw [if_pos late]
    exact iff_of_true rfl fun early => absurd late (Int.not_le.mpr early)
  · rw [if_neg late]
    exact ⟨fun fits _ => fits, fun fits => fits (Int.not_le.mp late)⟩

/-- What `base64` raises is no `ApexSecurityError`. -/
theorem securityMessage_of_undecodable {text : Text} {error : TokenError}
    (failed : Security.b64urlDecode text = .error error) : error.securityMessage = none := by
  rw [Security.b64urlDecode] at failed
  split at failed
  · cases outcome : Base64.a2bBase64 false Base64.standard.value
      ((text ++ Base64.padding text.length).map Base64.fromUrlSafe) with
    | error reason =>
        rw [outcome] at failed
        rw [← Except.error.inj failed]
        rfl
    | ok octets =>
        rw [outcome] at failed
        cases failed
  · rw [← Except.error.inj failed]
    rfl

/-- What `verify_token` makes of the two parts behind the version. -/
theorem heeded_verifyParts_iff {packages : TokenPackages} {secret : List UInt8} {payloadB64 signatureB64 : Text}
    {now : Int} :
    Heeded (Security.verifyParts packages secret payloadB64 signatureB64 now) <->
      (Text.isAscii (signingText payloadB64) = true ∧
        Exists fun provided => Security.b64urlDecode signatureB64 = .ok provided) ∧
      (Security.b64urlDecode signatureB64 = .ok (packages.hmac secret (Text.ascii (signingText payloadB64))) ->
        Exists fun octets => Exists fun claims => Security.b64urlDecode payloadB64 = .ok octets ∧
          packages.pythonReads octets = some claims ∧ (now < claims.exp -> claims.loggable = true)) := by
  rw [Security.verifyParts, Security.encodeAscii]
  by_cases plain : Text.isAscii (signingText payloadB64) = true
  · rw [if_pos plain]
    simp only [bind, Except.bind]
    cases signature : Security.b64urlDecode signatureB64 with
    | error error =>
        refine iff_of_false (fun heeded => ?_) fun both => ?_
        · change error.securityMessage.isSome = true at heeded
          rw [securityMessage_of_undecodable signature] at heeded
          cases heeded
        · rcases both.1.2 with ⟨provided, decoded⟩
          cases decoded
    | ok provided =>
        dsimp only
        rw [Security.compareDigest]
        by_cases same : packages.hmac secret (Text.ascii (signingText payloadB64)) = provided
        · rw [if_pos same]
          dsimp only
          cases payload : Security.b64urlDecode payloadB64 with
          | error error =>
              refine iff_of_false (fun heeded => ?_) fun both => ?_
              · change error.securityMessage.isSome = true at heeded
                rw [securityMessage_of_undecodable payload] at heeded
                cases heeded
              · rcases both.2 (congrArg Except.ok same.symm) with ⟨octets, claims, decoded, _⟩
                cases decoded
          | ok octets =>
              dsimp only
              rw [Security.readPayload]
              cases read : packages.pythonReads octets with
              | none =>
                  refine iff_of_false (fun heeded => ?_) fun both => ?_
                  · cases heeded
                  · rcases both.2 (congrArg Except.ok same.symm) with ⟨others, claims, decoded, known, _⟩
                    rw [← Except.ok.inj decoded, read] at known
                    cases known
              | some claims =>
                  dsimp only
                  rw [heeded_verifyToken_iff]
                  refine ⟨fun fits => ⟨⟨plain, provided, rfl⟩, fun _ => ⟨octets, claims, rfl, read, fits⟩⟩, fun both => ?_⟩
                  rcases both.2 (congrArg Except.ok same.symm) with ⟨others, declared, decoded, known, fits⟩
                  rw [← Except.ok.inj decoded, read] at known
                  rw [Option.some.inj known]
                  exact fits
        · rw [if_neg same]
          refine iff_of_true rfl ⟨⟨plain, provided, rfl⟩, fun decoded => ?_⟩
          exact absurd (Except.ok.inj decoded).symm same
  · rw [if_neg plain]
    refine iff_of_false (fun heeded => ?_) fun both => plain both.1.1
    cases heeded

/-- A token is rejected without an event, or an accepted one is not recorded, just when
its parts cannot be decoded as far as they are read or the insert does not arrive. -/
theorem rejection_controlled_iff (packages : TokenPackages) (secret : List UInt8) (token : Text) (now : Int)
    (connection : Connection AuthStore) :
    RejectionControlled packages secret token now connection <->
      Decodable packages secret token now ∧ connection.link.carries 0 = true := by
  rw [rejectionControlled_iff_heeded]
  refine and_congr_left fun _ => ?_
  rw [Security.verifyTokenText]
  split
  · rename_i version payloadB64 signatureB64 shape
    by_cases same : version = tokenVersion
    · subst same
      rw [if_pos rfl, heeded_verifyParts_iff]
      constructor
      · rintro ⟨spelled, opened⟩
        refine ⟨fun other others split => ?_, fun other others split => ?_⟩
        · rw [shape] at split
          cases split
          exact spelled
        · rw [shape] at split
          cases split
          exact opened
      · intro decodable
        exact ⟨decodable.spelled _ _ shape, decodable.opened _ _ shape⟩
    · rw [if_neg same]
      refine iff_of_true rfl ⟨fun other others split => ?_, fun other others split => ?_⟩
      · rw [shape] at split
        exact absurd (List.cons.inj split).1 same
      · rw [shape] at split
        exact absurd (List.cons.inj split).1 same
  · rename_i otherwise
    exact iff_of_true rfl
      ⟨fun payloadB64 signatureB64 split => absurd split (otherwise _ _ _),
        fun payloadB64 signatureB64 split => absurd split (otherwise _ _ _)⟩

/-- One letter is no base64: the exception of the decoder is raised, and nothing is
recorded. -/
theorem undecodable_signature_is_not_audited :
    Security.verifyTokenText TokenScenario.packages TokenScenario.secret "v1.e30.A".toList 1 =
        .error (.binascii .invalidLength) ∧
      ¬RejectionControlled TokenScenario.packages TokenScenario.secret "v1.e30.A".toList 1
        { store := Scenario.blank, link := .steady } := by
  have raised : Security.verifyTokenText TokenScenario.packages TokenScenario.secret "v1.e30.A".toList 1 =
      .error (.binascii .invalidLength) := by
    decide +kernel
  refine ⟨raised, fun controlled => ?_⟩
  have security := controlled.raises _ raised
  cases security

end Auth
end ApexQuant
