import ApexQuant.Auth.Service
import ApexQuant.Foundation.Base64
import ApexQuant.Foundation.Runs

namespace ApexQuant
namespace Auth

open Foundation

/-!
# Signed tokens in two languages

`verify_token` of `security.py` and of the crate `apex_auth`, on the text of a
token.  Both split it at its dots and compare a signature over the first two parts
with the third, but they decode base64 with different decoders: `binascii` steps
over what it does not know, takes padding or leaves it and ignores the unused bits
of the last letter, and the Rust engine takes the one canonical spelling.  What Rust
accepts Python accepts; the converse fails for the signed tokens that are spelled in
another way.
-/

/-- The parts of the two programs that come from packages: HMAC-SHA256, and the
readers of a JSON payload.  `claimsOf` is what a payload says that is a JSON object
with every claim once, of its declared type. -/
structure TokenPackages where
  hmac : (secret message : List UInt8) -> List UInt8
  pythonReads : List UInt8 -> Option TokenClaims
  rustReads : List UInt8 -> Option TokenClaims
  claimsOf : List UInt8 -> Option TokenClaims

/-- Both readers understand a payload of the declared types. -/
structure TokenPackages.Lawful (packages : TokenPackages) : Prop where
  python_reads : forall octets claims, packages.claimsOf octets = some claims ->
    packages.pythonReads octets = some claims
  rust_reads : forall octets claims, packages.claimsOf octets = some claims -> packages.rustReads octets = some claims

/-- `TOKEN_VERSION`. -/
def tokenVersion : Text := "v1".toList

/-- What is signed: the version and the payload. -/
def signingText (payloadB64 : Text) : Text :=
  tokenVersion ++ '.' :: payloadB64

/-! ## `security.py` -/

/-- The exceptions of `verify_token`. -/
inductive TokenError where
  | invalidTokenFormat
  | unsupportedTokenVersion
  | invalidTokenSignature
  | refused (error : AuthSecurityError)
  | notAscii
  | binascii (error : Base64.Error)
  | invalidPayload
  deriving DecidableEq

namespace Security

/-- `text.encode("ascii")`. -/
def encodeAscii (text : Text) : Except TokenError (List UInt8) :=
  if Text.isAscii text then .ok (Text.ascii text) else .error .notAscii

/-- `b64url_encode`. -/
def b64urlEncode (octets : List UInt8) : Text :=
  Base64.encode Base64.urlSafe octets

/-- `b64url_decode`. -/
def b64urlDecode (data : Text) : Except TokenError (List UInt8) :=
  let padded := data ++ Base64.padding data.length
  if Text.isAscii padded then
    (Base64.a2bBase64 false Base64.standard.value (padded.map Base64.fromUrlSafe)).mapError .binascii
  else .error .notAscii

/-- `hmac.compare_digest`, with the exception that a difference raises. -/
def compareDigest (expected provided : List UInt8) : Except TokenError Unit :=
  if expected = provided then .ok () else .error .invalidTokenSignature

/-- `json.loads` and `TokenClaims.model_validate`. -/
def readPayload (packages : TokenPackages) (payload : List UInt8) : Except TokenError TokenClaims :=
  match packages.pythonReads payload with
  | some claims => .ok claims
  | none => .error .invalidPayload

/-- `verify_token`, after the version. -/
def verifyParts (packages : TokenPackages) (secret : List UInt8) (payloadB64 signatureB64 : Text) (nowUnix : Int) :
    Except TokenError AuthContext := do
  let signingInput ← encodeAscii (signingText payloadB64)
  let provided ← b64urlDecode signatureB64
  compareDigest (packages.hmac secret signingInput) provided
  let payload ← b64urlDecode payloadB64
  let claims ← readPayload packages payload
  (verifyToken claims nowUnix).mapError .refused

/-- `verify_token`. -/
def verifyTokenText (packages : TokenPackages) (secret : List UInt8) (token : Text) (nowUnix : Int) :
    Except TokenError AuthContext :=
  match List.splitOn '.' (Text.strip token) with
  | [version, payloadB64, signatureB64] =>
      if version = tokenVersion then verifyParts packages secret payloadB64 signatureB64 nowUnix
      else .error .unsupportedTokenVersion
  | _ => .error .invalidTokenFormat

/-- `sign_token`, from the text of the payload on. -/
def signPayload (packages : TokenPackages) (secret payload : List UInt8) : Text :=
  let signingInput := signingText (b64urlEncode payload)
  signingInput ++ '.' :: b64urlEncode (packages.hmac secret (Text.ascii signingInput))

end Security

/-! ## `apex_auth` -/

namespace ApexAuth

/-- `AuthError`, as far as `verify_token` returns it. -/
inductive AuthError where
  | invalidTokenFormat
  | invalidTokenVersion
  | invalidBase64
  | invalidPayload
  | invalidSignature
  | tokenExpired
  deriving DecidableEq

/-- `URL_SAFE_NO_PAD.decode`. -/
def decodeNoPad (text : Text) : Except AuthError (List UInt8) :=
  match Base64.decodeCanonical Base64.urlSafe text with
  | some octets => .ok octets
  | none => .error .invalidBase64

/-- `mac.verify_slice`. -/
def verifySlice (expected provided : List UInt8) : Except AuthError Unit :=
  if expected = provided then .ok () else .error .invalidSignature

/-- `serde_json::from_slice`. -/
def fromSlice (packages : TokenPackages) (payload : List UInt8) : Except AuthError TokenClaims :=
  match packages.rustReads payload with
  | some claims => .ok claims
  | none => .error .invalidPayload

/-- The end of `verify_token`. -/
def contextAt (now : Int) (claims : TokenClaims) : Except AuthError AuthContext :=
  if claims.exp ≤ now then .error .tokenExpired
  else
    .ok
      { subject := claims.sub
        principalType := claims.typ
        permissions := claims.permissions
        expiresAt := claims.exp
        jti := claims.jti }

/-- `verify_token`, after the version. -/
def verifyParts (packages : TokenPackages) (secret : List UInt8) (payloadB64 signatureB64 : Text) (now : Int) :
    Except AuthError AuthContext := do
  let payload ← decodeNoPad payloadB64
  let signature ← decodeNoPad signatureB64
  verifySlice (packages.hmac secret (Text.utf8 (signingText payloadB64))) signature
  let claims ← fromSlice packages payload
  contextAt now claims

/-- `verify_token`. -/
def verifyToken (packages : TokenPackages) (secret : List UInt8) (token : Text) (now : Int) :
    Except AuthError AuthContext :=
  match List.splitOn '.' (Text.trim token) with
  | [version, payloadB64, signatureB64] =>
      if version = tokenVersion then verifyParts packages secret payloadB64 signatureB64 now
      else .error .invalidTokenVersion
  | _ => .error .invalidTokenFormat

end ApexAuth

/-! ## What the two decoders share -/

theorem isAscii_of_letters {text : Text} (lettered : forall c, c ∈ text -> c ∈ Base64.urlSafe.letters) :
    Text.isAscii text = true := by
  have plain : Base64.urlSafe.letters.all (fun c => decide (c.toNat < 128)) = true := by decide
  rw [List.all_eq_true] at plain
  rw [Text.isAscii, List.all_eq_true]
  exact fun c member => plain c (lettered c member)

theorem solid_of_letters {text : Text} (lettered : forall c, c ∈ text -> c ∈ Base64.urlSafe.letters) :
    forall c, c ∈ text -> Text.isSpace c = false := by
  have solid : Base64.urlSafe.letters.all (fun c => !Text.isSpace c) = true := by decide
  rw [List.all_eq_true] at solid
  intro c member
  simpa only [Bool.not_eq_true'] using solid c (lettered c member)

theorem dot_not_mem_of_letters {text : Text} (lettered : forall c, c ∈ text -> c ∈ Base64.urlSafe.letters) :
    '.' ∉ text :=
  fun member => absurd (lettered _ member) (by decide)

/-- A text that the Rust engine decodes. -/
def Canonical (text : Text) : Prop :=
  (Base64.decodeCanonical Base64.urlSafe text).isSome = true

instance Canonical.decidable (text : Text) : Decidable (Canonical text) :=
  inferInstanceAs (Decidable (_ = true))

theorem canonical_iff {text : Text} :
    Canonical text <-> Exists fun octets => Base64.decodeCanonical Base64.urlSafe text = some octets :=
  Option.isSome_iff_exists

theorem letters_of_canonical {text : Text} (canonical : Canonical text) :
    forall c, c ∈ text -> c ∈ Base64.urlSafe.letters := by
  rcases canonical_iff.mp canonical with ⟨octets, decoded⟩
  intro c member
  rw [← Base64.encode_of_decodeCanonical decoded] at member
  exact Base64.mem_letters_of_encode member

theorem isAscii_padding (length : Nat) : Text.isAscii (Base64.padding length) = true := by
  rw [Text.isAscii, List.all_eq_true]
  intro c member
  rw [List.eq_of_mem_replicate member]
  decide

theorem map_fromUrlSafe_padding (length : Nat) :
    (Base64.padding length).map Base64.fromUrlSafe = Base64.padding length := by
  rw [Base64.padding, List.map_replicate]
  rfl

/-- Python decodes every encoding. -/
theorem b64urlDecode_encode (octets : List UInt8) :
    Security.b64urlDecode (Security.b64urlEncode octets) = .ok octets := by
  have plain : Text.isAscii (Security.b64urlEncode octets) = true :=
    isAscii_of_letters fun _ member => Base64.mem_letters_of_encode member
  have padded : Text.isAscii (Security.b64urlEncode octets ++ Base64.padding (Security.b64urlEncode octets).length) =
      true := by
    rw [Text.isAscii, List.all_append, Bool.and_eq_true_iff]
    exact ⟨plain, isAscii_padding _⟩
  have length : (Security.b64urlEncode octets).length = (Base64.encode Base64.standard octets).length := by
    rw [Security.b64urlEncode, Base64.encode, Base64.encode, List.length_map, List.length_map]
  rw [Security.b64urlDecode, if_pos padded, List.map_append, map_fromUrlSafe_padding, length, Security.b64urlEncode,
    Base64.map_fromUrlSafe_encode, Base64.a2bBase64_encode]
  rfl

/-- What the Rust engine decodes, Python decodes to the same octets. -/
theorem b64urlDecode_of_canonical {text : Text} {octets : List UInt8}
    (decoded : Base64.decodeCanonical Base64.urlSafe text = some octets) : Security.b64urlDecode text = .ok octets := by
  rw [← Base64.encode_of_decodeCanonical decoded]
  exact b64urlDecode_encode octets

/-! ## What is accepted -/

/-- The context of accepted claims. -/
def TokenClaims.context (claims : TokenClaims) : AuthContext where
  subject := claims.sub
  principalType := claims.typ
  permissions := claims.permissions
  expiresAt := claims.exp
  jti := claims.jti

/-- The text is a signed token of the version with claims that have not expired, as
Python decodes it. -/
structure Signed (packages : TokenPackages) (secret : List UInt8) (token : Text) (now : Int)
    (payloadB64 signatureB64 : Text) (claims : TokenClaims) : Prop where
  split : List.splitOn '.' (Text.strip token) = [tokenVersion, payloadB64, signatureB64]
  ascii : Text.isAscii (signingText payloadB64) = true
  signature : Security.b64urlDecode signatureB64 =
    .ok (packages.hmac secret (Text.ascii (signingText payloadB64)))
  payload : Exists fun octets => Security.b64urlDecode payloadB64 = .ok octets ∧ packages.claimsOf octets = some claims
  current : now < claims.exp

/-- The payload of the text, if it has one, is of the declared types. -/
def WellTyped (packages : TokenPackages) (token : Text) : Prop :=
  forall version payloadB64 signatureB64 octets,
    List.splitOn '.' (Text.strip token) = [version, payloadB64, signatureB64] ->
      Security.b64urlDecode payloadB64 = .ok octets -> (packages.claimsOf octets).isSome = true

section Accepted

variable {packages : TokenPackages} {secret : List UInt8} {token : Text} {now : Int} {context : AuthContext}

theorem Security.verifyToken_ok_iff {claims : TokenClaims} :
    (Security.verifyToken claims now).mapError TokenError.refused = .ok context <->
      now < claims.exp ∧ claims.context = context := by
  unfold Security.verifyToken
  split
  · rename_i late
    exact iff_of_false nofun fun both => absurd both.1 (Int.not_lt.mpr late)
  · rename_i early
    exact ⟨fun returned => ⟨Int.not_le.mp early, Except.ok.inj returned⟩, fun both => congrArg Except.ok both.2⟩

theorem ApexAuth.contextAt_ok_iff {claims : TokenClaims} :
    ApexAuth.contextAt now claims = .ok context <-> now < claims.exp ∧ claims.context = context := by
  unfold ApexAuth.contextAt
  split
  · rename_i late
    exact iff_of_false nofun fun both => absurd both.1 (Int.not_lt.mpr late)
  · rename_i early
    exact ⟨fun returned => ⟨Int.not_le.mp early, Except.ok.inj returned⟩, fun both => congrArg Except.ok both.2⟩

theorem ApexAuth.decodeNoPad_ok_iff {text : Text} {octets : List UInt8} :
    ApexAuth.decodeNoPad text = .ok octets <-> Base64.decodeCanonical Base64.urlSafe text = some octets := by
  unfold ApexAuth.decodeNoPad
  cases Base64.decodeCanonical Base64.urlSafe text with
  | none => exact iff_of_false nofun nofun
  | some decoded => exact ⟨fun same => congrArg some (Except.ok.inj same), fun same => congrArg Except.ok (Option.some.inj same)⟩

/-- What canonical parts of a signed token spell. -/
theorem Signed.spelled {payloadB64 signatureB64 : Text} {claims : TokenClaims}
    (signed : Signed packages secret token now payloadB64 signatureB64 claims) (canonicalPayload : Canonical payloadB64)
    (canonicalSignature : Canonical signatureB64) :
    Exists fun payload => packages.claimsOf payload = some claims ∧
      Base64.decodeCanonical Base64.urlSafe payloadB64 = some payload ∧
        Base64.decodeCanonical Base64.urlSafe signatureB64 =
          some (packages.hmac secret (Text.ascii (signingText payloadB64))) := by
  rcases signed.payload with ⟨octets, decoded, known⟩
  rcases canonical_iff.mp canonicalPayload with ⟨payload, payloadSpelled⟩
  rcases canonical_iff.mp canonicalSignature with ⟨signature, signatureSpelled⟩
  have samePayload := Except.ok.inj ((b64urlDecode_of_canonical payloadSpelled).symm.trans decoded)
  have sameSignature := Except.ok.inj ((b64urlDecode_of_canonical signatureSpelled).symm.trans signed.signature)
  subst samePayload
  subst sameSignature
  exact ⟨payload, known, payloadSpelled, signatureSpelled⟩

/-- Python accepts the signed tokens. -/
theorem python_accepts_iff (lawful : packages.Lawful) (typed : WellTyped packages token) :
    Security.verifyTokenText packages secret token now = .ok context <->
      Exists fun payloadB64 => Exists fun signatureB64 => Exists fun claims =>
        Signed packages secret token now payloadB64 signatureB64 claims ∧ claims.context = context := by
  constructor
  · intro accepted
    unfold Security.verifyTokenText at accepted
    split at accepted
    · rename_i version payloadB64 signatureB64 shape
      split at accepted
      · rename_i same
        subst same
        rcases Run.ok_of_bind accepted with ⟨signingInput, encoded, accepted⟩
        rcases Run.ok_of_bind accepted with ⟨provided, signature, accepted⟩
        rcases Run.ok_of_bind accepted with ⟨_, compared, accepted⟩
        rcases Run.ok_of_bind accepted with ⟨payload, decoded, accepted⟩
        rcases Run.ok_of_bind accepted with ⟨claims, read, accepted⟩
        rcases Security.verifyToken_ok_iff.mp accepted with ⟨current, same⟩
        rcases Option.isSome_iff_exists.mp (typed _ _ _ _ shape decoded) with ⟨declared, known⟩
        have sameClaims : declared = claims := by
          rw [Security.readPayload, lawful.python_reads _ _ known] at read
          exact Except.ok.inj read
        rw [Security.encodeAscii] at encoded
        split at encoded
        · rename_i plain
          cases encoded
          rw [Security.compareDigest] at compared
          split at compared
          · rename_i equal
            exact ⟨payloadB64, signatureB64, claims,
              ⟨shape, plain, equal ▸ signature, ⟨payload, decoded, sameClaims ▸ known⟩, current⟩, same⟩
          · exact absurd compared nofun
        · exact absurd encoded nofun
      · exact absurd accepted nofun
    · exact absurd accepted nofun
  · rintro ⟨payloadB64, signatureB64, claims, signed, same⟩
    rcases signed.payload with ⟨octets, decoded, known⟩
    rw [Security.verifyTokenText, signed.split]
    dsimp only
    rw [if_pos rfl, Security.verifyParts, Security.encodeAscii, if_pos signed.ascii, signed.signature, decoded]
    simp only [bind, Except.bind, Security.compareDigest, if_true, Security.readPayload,
      lawful.python_reads _ _ known]
    exact Security.verifyToken_ok_iff.mpr ⟨signed.current, same⟩

/-- The text of a token is its parts and two dots. -/
theorem eq_of_split {text payloadB64 signatureB64 : Text}
    (split : List.splitOn '.' text = [tokenVersion, payloadB64, signatureB64]) :
    text = signingText payloadB64 ++ '.' :: signatureB64 := by
  calc
    text = List.intercalate ['.'] (List.splitOn '.' text) := (List.intercalate_splitOn '.').symm
    _ = List.intercalate ['.'] [tokenVersion, payloadB64, signatureB64] := congrArg _ split
    _ = signingText payloadB64 ++ '.' :: signatureB64 := by simp [signingText, List.intercalate]

theorem signingText_isAscii {payloadB64 : Text} (canonical : Canonical payloadB64) :
    Text.isAscii (signingText payloadB64) = true := by
  have plain := isAscii_of_letters (letters_of_canonical canonical)
  rw [Text.isAscii] at plain
  rw [signingText, Text.isAscii, List.all_append, List.all_cons, plain]
  decide

/-- A token in its canonical spelling has no blanks in it. -/
theorem solid_of_canonical {payloadB64 signatureB64 : Text} (canonicalPayload : Canonical payloadB64)
    (canonicalSignature : Canonical signatureB64) :
    forall c, c ∈ signingText payloadB64 ++ '.' :: signatureB64 -> Text.isSpace c = false := by
  intro c member
  rw [signingText] at member
  simp only [List.mem_append, List.mem_cons] at member
  rcases member with (version | dot | payload) | dot | signature
  · have solid : tokenVersion.all (fun c => !Text.isSpace c) = true := by decide
    simpa only [Bool.not_eq_true'] using List.all_eq_true.mp solid c version
  · rw [dot]
    decide
  · exact solid_of_letters (letters_of_canonical canonicalPayload) c payload
  · rw [dot]
    decide
  · exact solid_of_letters (letters_of_canonical canonicalSignature) c signature

theorem strip_eq_trim_of_canonical {payloadB64 signatureB64 : Text}
    (split : List.splitOn '.' (Text.trim token) = [tokenVersion, payloadB64, signatureB64])
    (canonicalPayload : Canonical payloadB64) (canonicalSignature : Canonical signatureB64) :
    Text.strip token = Text.trim token := by
  have shape := eq_of_split split
  apply Text.strip_eq_trim
  · rw [shape]
    exact List.append_ne_nil_of_left_ne_nil (List.append_ne_nil_of_left_ne_nil (by decide) _) _
  · rw [shape]
    exact solid_of_canonical canonicalPayload canonicalSignature

/-- Rust accepts the signed tokens in their canonical spelling. -/
theorem rust_accepts_iff (lawful : packages.Lawful) (typed : WellTyped packages token) :
    ApexAuth.verifyToken packages secret token now = .ok context <->
      Exists fun payloadB64 => Exists fun signatureB64 => Exists fun claims =>
        Signed packages secret token now payloadB64 signatureB64 claims ∧
          (Text.trim token = Text.strip token ∧ Canonical payloadB64 ∧ Canonical signatureB64) ∧
            claims.context = context := by
  constructor
  · intro accepted
    unfold ApexAuth.verifyToken at accepted
    split at accepted
    · rename_i version payloadB64 signatureB64 shape
      split at accepted
      · rename_i same
        subst same
        rcases Run.ok_of_bind accepted with ⟨payload, decoded, accepted⟩
        rcases Run.ok_of_bind accepted with ⟨signature, provided, accepted⟩
        rcases Run.ok_of_bind accepted with ⟨_, compared, accepted⟩
        rcases Run.ok_of_bind accepted with ⟨claims, read, accepted⟩
        rcases ApexAuth.contextAt_ok_iff.mp accepted with ⟨current, same⟩
        have payloadSpelled := ApexAuth.decodeNoPad_ok_iff.mp decoded
        have signatureSpelled := ApexAuth.decodeNoPad_ok_iff.mp provided
        have canonicalPayload : Canonical payloadB64 := canonical_iff.mpr ⟨payload, payloadSpelled⟩
        have canonicalSignature : Canonical signatureB64 := canonical_iff.mpr ⟨signature, signatureSpelled⟩
        have sameText := strip_eq_trim_of_canonical shape canonicalPayload canonicalSignature
        have split : List.splitOn '.' (Text.strip token) = [tokenVersion, payloadB64, signatureB64] := sameText ▸ shape
        have plain := signingText_isAscii canonicalPayload
        have decodedLaxly := b64urlDecode_of_canonical payloadSpelled
        rcases Option.isSome_iff_exists.mp (typed _ _ _ _ split decodedLaxly) with ⟨declared, known⟩
        have sameClaims : declared = claims := by
          rw [ApexAuth.fromSlice, lawful.rust_reads _ _ known] at read
          exact Except.ok.inj read
        rw [ApexAuth.verifySlice, Text.utf8_of_isAscii plain] at compared
        split_ifs at compared with equal
        · exact ⟨payloadB64, signatureB64, claims,
            ⟨split, plain, equal ▸ b64urlDecode_of_canonical signatureSpelled,
              ⟨payload, decodedLaxly, sameClaims ▸ known⟩, current⟩,
            ⟨sameText.symm, canonicalPayload, canonicalSignature⟩, same⟩
      · exact absurd accepted nofun
    · exact absurd accepted nofun
  · rintro ⟨payloadB64, signatureB64, claims, signed, ⟨sameText, canonicalPayload, canonicalSignature⟩, same⟩
    rcases signed.spelled canonicalPayload canonicalSignature with ⟨payload, known, payloadSpelled, signatureSpelled⟩
    rw [ApexAuth.verifyToken, sameText, signed.split]
    dsimp only
    rw [if_pos rfl, ApexAuth.verifyParts, ApexAuth.decodeNoPad_ok_iff.mpr payloadSpelled,
      ApexAuth.decodeNoPad_ok_iff.mpr signatureSpelled, Text.utf8_of_isAscii signed.ascii]
    simp only [bind, Except.bind, ApexAuth.verifySlice, if_true, ApexAuth.fromSlice, lawful.rust_reads _ _ known]
    exact ApexAuth.contextAt_ok_iff.mpr ⟨signed.current, same⟩

/-- What a reader gives back of a signed text is determined by the text. -/
theorem Signed.unique {payloadB64 payloadB64' signatureB64 signatureB64' : Text} {claims claims' : TokenClaims}
    (signed : Signed packages secret token now payloadB64 signatureB64 claims)
    (signed' : Signed packages secret token now payloadB64' signatureB64' claims') :
    payloadB64 = payloadB64' ∧ signatureB64 = signatureB64' ∧ claims = claims' := by
  have split := signed.split.symm.trans signed'.split
  simp only [List.cons.injEq, true_and, and_true] at split
  rcases split with ⟨rfl, rfl⟩
  rcases signed.payload with ⟨octets, decoded, known⟩
  rcases signed'.payload with ⟨octets', decoded', known'⟩
  have same := Except.ok.inj (decoded.symm.trans decoded')
  subst same
  exact ⟨rfl, rfl, Option.some.inj (known.symm.trans known')⟩

end Accepted

/-! ## What is signed is accepted -/

section Signing

variable {packages : TokenPackages} {secret octets : List UInt8} {now : Int} {claims : TokenClaims}

theorem canonical_encode (octets : List UInt8) : Canonical (Security.b64urlEncode octets) :=
  canonical_iff.mpr ⟨octets, Base64.decodeCanonical_encode Base64.urlSafe octets⟩

theorem split_signPayload (packages : TokenPackages) (secret octets : List UInt8) :
    List.splitOn '.' (Security.signPayload packages secret octets) =
      [tokenVersion, Security.b64urlEncode octets,
        Security.b64urlEncode (packages.hmac secret (Text.ascii (signingText (Security.b64urlEncode octets))))] := by
  have shape : Security.signPayload packages secret octets =
      List.intercalate ['.'] [tokenVersion, Security.b64urlEncode octets,
        Security.b64urlEncode (packages.hmac secret (Text.ascii (signingText (Security.b64urlEncode octets))))] := by
    simp [Security.signPayload, signingText, List.intercalate]
  rw [shape]
  apply List.splitOn_intercalate
  · intro piece member
    simp only [List.mem_cons, List.not_mem_nil, or_false] at member
    rcases member with rfl | rfl | rfl
    · decide
    · exact dot_not_mem_of_letters (letters_of_canonical (canonical_encode _))
    · exact dot_not_mem_of_letters (letters_of_canonical (canonical_encode _))
  · exact List.cons_ne_nil _ _

/-- A signed text has no blanks around it. -/
theorem trim_signPayload (packages : TokenPackages) (secret octets : List UInt8) :
    Text.trim (Security.signPayload packages secret octets) = Security.signPayload packages secret octets ∧
      Text.strip (Security.signPayload packages secret octets) = Security.signPayload packages secret octets := by
  have solid : forall c, c ∈ Security.signPayload packages secret octets -> Text.isSpace c = false :=
    solid_of_canonical (canonical_encode octets) (canonical_encode _)
  exact ⟨Text.trim_eq_self _ solid, Text.strip_eq_self _ solid⟩

/-- Until it expires, what is signed over well typed claims is a signed text. -/
theorem signed_signPayload (known : packages.claimsOf octets = some claims) (current : now < claims.exp) :
    Signed packages secret (Security.signPayload packages secret octets) now (Security.b64urlEncode octets)
      (Security.b64urlEncode (packages.hmac secret (Text.ascii (signingText (Security.b64urlEncode octets))))) claims where
  split := by rw [(trim_signPayload packages secret octets).2, split_signPayload]
  ascii := signingText_isAscii (canonical_encode octets)
  signature := b64urlDecode_encode _
  payload := ⟨octets, b64urlDecode_encode octets, known⟩
  current := current

theorem wellTyped_signPayload (known : packages.claimsOf octets = some claims) :
    WellTyped packages (Security.signPayload packages secret octets) := by
  intro version payloadB64 signatureB64 decoded split decodes
  rw [(trim_signPayload packages secret octets).2, split_signPayload] at split
  simp only [List.cons.injEq, and_true] at split
  rcases split with ⟨-, rfl, -⟩
  rw [b64urlDecode_encode] at decodes
  rw [← Except.ok.inj decodes, known]
  rfl

end Signing

/-! ## Two verdicts -/

/-- Both languages accept the text with the same context, or both reject it. -/
def VerdictsAgree (packages : TokenPackages) (secret : List UInt8) (token : Text) (now : Int) : Prop :=
  (Security.verifyTokenText packages secret token now).toOption = (ApexAuth.verifyToken packages secret token now).toOption

/-- A text that either language accepts is, but for the blanks around it, the text that
was signed. -/
def SpelledAsSigned (packages : TokenPackages) (secret : List UInt8) (token : Text) (now : Int) : Prop :=
  forall context, Security.verifyTokenText packages secret token now = .ok context ∨
      ApexAuth.verifyToken packages secret token now = .ok context ->
    Exists fun octets => Text.strip token = Security.signPayload packages secret octets ∧
      (packages.claimsOf octets).map TokenClaims.context = some context

/-- A signed token that has not expired, with a part that is not spelled canonically or
with blanks around it that only Python strips. -/
def LaxlySigned (packages : TokenPackages) (secret : List UInt8) (token : Text) (now : Int) : Prop :=
  Exists fun payloadB64 => Exists fun signatureB64 => Exists fun claims =>
    Signed packages secret token now payloadB64 signatureB64 claims ∧
      ¬ (Text.trim token = Text.strip token ∧ Canonical payloadB64 ∧ Canonical signatureB64)

section Verdicts

variable {packages : TokenPackages} {secret : List UInt8} {token : Text} {now : Int}

/-- The one text for a payload that Rust accepts. -/
theorem strip_eq_signPayload {payloadB64 signatureB64 : Text} {claims : TokenClaims}
    (signed : Signed packages secret token now payloadB64 signatureB64 claims) (canonicalPayload : Canonical payloadB64)
    (canonicalSignature : Canonical signatureB64) :
    Exists fun octets => Text.strip token = Security.signPayload packages secret octets ∧
      packages.claimsOf octets = some claims := by
  rcases signed.spelled canonicalPayload canonicalSignature with ⟨payload, known, payloadSpelled, signatureSpelled⟩
  refine ⟨payload, ?_, known⟩
  rw [eq_of_split signed.split, Security.signPayload, Security.b64urlEncode, Security.b64urlEncode,
    Base64.encode_of_decodeCanonical payloadSpelled, Base64.encode_of_decodeCanonical signatureSpelled]

theorem python_of_rust (lawful : packages.Lawful) (typed : WellTyped packages token) {context : AuthContext}
    (accepted : ApexAuth.verifyToken packages secret token now = .ok context) :
    Security.verifyTokenText packages secret token now = .ok context := by
  rcases (rust_accepts_iff lawful typed).mp accepted with ⟨payloadB64, signatureB64, claims, signed, -, same⟩
  exact (python_accepts_iff lawful typed).mpr ⟨payloadB64, signatureB64, claims, signed, same⟩

theorem signPayload_accepted (lawful : packages.Lawful) {octets : List UInt8} {claims : TokenClaims}
    (known : packages.claimsOf octets = some claims) (current : now < claims.exp) :
    Security.verifyTokenText packages secret (Security.signPayload packages secret octets) now = .ok claims.context ∧
      ApexAuth.verifyToken packages secret (Security.signPayload packages secret octets) now = .ok claims.context := by
  have typed : WellTyped packages (Security.signPayload packages secret octets) := wellTyped_signPayload known
  have signed : Signed packages secret (Security.signPayload packages secret octets) now _ _ claims :=
    signed_signPayload known current
  rcases trim_signPayload packages secret octets with ⟨trimmed, stripped⟩
  constructor
  · exact (python_accepts_iff lawful typed).mpr ⟨_, _, claims, signed, rfl⟩
  · exact (rust_accepts_iff lawful typed).mpr
      ⟨_, _, claims, signed, ⟨trimmed.trans stripped.symm, canonical_encode _, canonical_encode _⟩, rfl⟩

theorem not_laxlySigned_signPayload {octets : List UInt8} {claims : TokenClaims}
    (known : packages.claimsOf octets = some claims) (current : now < claims.exp) :
    ¬ LaxlySigned packages secret (Security.signPayload packages secret octets) now := by
  rintro ⟨payloadB64, signatureB64, claims', signed, misspelled⟩
  rcases signed.unique (signed_signPayload known current) with ⟨rfl, rfl, rfl⟩
  rcases trim_signPayload packages secret octets with ⟨trimmed, stripped⟩
  exact misspelled ⟨trimmed.trans stripped.symm, canonical_encode _, canonical_encode _⟩

/-- Rust rejects a signed token in another spelling, and Python accepts it. -/
theorem not_agree_of_laxlySigned (lawful : packages.Lawful) (typed : WellTyped packages token)
    (lax : LaxlySigned packages secret token now) : ¬ VerdictsAgree packages secret token now := by
  intro agree
  rcases lax with ⟨payloadB64, signatureB64, claims, signed, misspelled⟩
  have python := (python_accepts_iff lawful typed).mpr ⟨payloadB64, signatureB64, claims, signed, rfl⟩
  rw [VerdictsAgree, python] at agree
  rcases (rust_accepts_iff lawful typed).mp (Run.ok_of_toOption agree.symm) with ⟨_, _, _, signed', spelled, -⟩
  rcases signed.unique signed' with ⟨rfl, rfl, rfl⟩
  exact misspelled spelled

section Strict

variable (lawful : packages.Lawful) (typed : WellTyped packages token) (strict : ¬ LaxlySigned packages secret token now)
include lawful typed strict

theorem accepts_iff_of_strict (context : AuthContext) :
    Security.verifyTokenText packages secret token now = .ok context <->
      ApexAuth.verifyToken packages secret token now = .ok context := by
  constructor
  · intro accepted
    rcases (python_accepts_iff lawful typed).mp accepted with ⟨payloadB64, signatureB64, claims, signed, known⟩
    refine (rust_accepts_iff lawful typed).mpr ⟨payloadB64, signatureB64, claims, signed, ?_, known⟩
    by_contra misspelled
    exact strict ⟨payloadB64, signatureB64, claims, signed, misspelled⟩
  · exact python_of_rust lawful typed

theorem agree_of_strict : VerdictsAgree packages secret token now := by
  have same := accepts_iff_of_strict lawful typed strict
  unfold VerdictsAgree
  cases python : Security.verifyTokenText packages secret token now with
  | ok context =>
      rw [(same context).mp python]
      rfl
  | error error =>
      cases rust : ApexAuth.verifyToken packages secret token now with
      | ok context =>
          rw [(same context).mpr rust] at python
          exact absurd python nofun
      | error other => rfl

theorem spelledAsSigned_of_strict : SpelledAsSigned packages secret token now := by
  intro context accepted
  have rust := accepted.elim (accepts_iff_of_strict lawful typed strict context).mp id
  rcases (rust_accepts_iff lawful typed).mp rust with ⟨payloadB64, signatureB64, claims, signed, spelled, known⟩
  rcases strip_eq_signPayload signed spelled.2.1 spelled.2.2 with ⟨octets, text, read⟩
  exact ⟨octets, text, by rw [read, Option.map_some, known]⟩

end Strict

end Verdicts

/-- What is signed is accepted in both languages while it has not expired.  On a text
whose payload is of the declared types the two languages agree, and accept nothing but
what was signed, if and only if the text is not a signed token in another spelling. -/
theorem tokens_agree_iff (packages : TokenPackages) (lawful : packages.Lawful) (secret : List UInt8) (now : Int) :
    (forall octets claims, packages.claimsOf octets = some claims -> now < claims.exp ->
      Security.verifyTokenText packages secret (Security.signPayload packages secret octets) now = .ok claims.context ∧
        ApexAuth.verifyToken packages secret (Security.signPayload packages secret octets) now = .ok claims.context) ∧
      forall token, WellTyped packages token ->
        ((VerdictsAgree packages secret token now ∧ SpelledAsSigned packages secret token now) <->
          ¬ LaxlySigned packages secret token now) := by
  refine ⟨fun octets claims known current => signPayload_accepted lawful known current, ?_⟩
  intro token typed
  constructor
  · rintro ⟨agree, -⟩ lax
    exact not_agree_of_laxlySigned lawful typed lax agree
  · intro strict
    exact ⟨agree_of_strict lawful typed strict, spelledAsSigned_of_strict lawful typed strict⟩

/-! ## One signature in two spellings -/

namespace TokenScenario

/-- The claims of an administrator's token. -/
def claims : TokenClaims where
  sub := "ops".toList
  typ := "ADMIN".toList
  iat := 1
  exp := 2
  jti := "j".toList
  permissions := ["*".toList]

def payload : List UInt8 :=
  Text.ascii
    "\x7b\"sub\":\"ops\",\"typ\":\"ADMIN\",\"iat\":1,\"exp\":2,\"jti\":\"j\",\"permissions\":[\"*\"]\x7d".toList

def secret : List UInt8 :=
  List.replicate 32 7

/-- HMAC-SHA256 of the signed text of this payload under the secret. -/
def digest : List UInt8 :=
  [100, 254, 194, 188, 129, 76, 34, 139, 46, 151, 42, 157, 135, 52, 147, 43,
    85, 172, 144, 0, 253, 1, 242, 154, 45, 242, 39, 84, 215, 119, 36, 101]

/-- Readers that know this payload, and a signer of this one text. -/
def packages : TokenPackages where
  hmac := fun _ _ => digest
  pythonReads := fun octets => if octets = payload then some claims else none
  rustReads := fun octets => if octets = payload then some claims else none
  claimsOf := fun octets => if octets = payload then some claims else none

theorem packages_lawful : packages.Lawful :=
  ⟨fun _ _ known => known, fun _ _ known => known⟩

def payloadB64 : Text :=
  "eyJzdWIiOiJvcHMiLCJ0eXAiOiJBRE1JTiIsImlhdCI6MSwiZXhwIjoyLCJqdGkiOiJqIiwicGVybWlzc2lvbnMiOlsiKiJdfQ".toList

/-- The signature, with its last letter altered. -/
def signatureB64 : Text :=
  "ZP7CvIFMIosulyqdhzSTK1WskAD9AfKaLfInVNd3JGV".toList

/-- The token with the altered signature. -/
def token : Text :=
  signingText payloadB64 ++ '.' :: signatureB64

theorem token_splits : List.splitOn '.' (Text.strip token) = [tokenVersion, payloadB64, signatureB64] := by
  decide +kernel

theorem payloadB64_decodes : Security.b64urlDecode payloadB64 = .ok payload := by
  decide +kernel

theorem token_wellTyped : WellTyped packages token := by
  intro version payloadB64 signatureB64 octets split decoded
  rw [token_splits] at split
  simp only [List.cons.injEq, and_true] at split
  rcases split with ⟨-, rfl, -⟩
  rw [payloadB64_decodes] at decoded
  rw [← Except.ok.inj decoded]
  simp only [packages, if_true, Option.isSome_some]

/-- Python ignores the two bits in which the last letter differs. -/
theorem token_signed : Signed packages secret token 1 payloadB64 signatureB64 claims where
  split := token_splits
  ascii := by decide
  signature := by decide +kernel
  payload := ⟨payload, payloadB64_decodes, by simp only [packages, if_true]⟩
  current := by decide

end TokenScenario

theorem signed_token_agrees :
    VerdictsAgree TokenScenario.packages TokenScenario.secret
      (Security.signPayload TokenScenario.packages TokenScenario.secret TokenScenario.payload) 1 := by
  have known : TokenScenario.packages.claimsOf TokenScenario.payload = some TokenScenario.claims := by
    simp only [TokenScenario.packages, if_true]
  exact ((tokens_agree_iff TokenScenario.packages TokenScenario.packages_lawful TokenScenario.secret 1).2 _
    (wellTyped_signPayload known)).mpr (not_laxlySigned_signPayload known (by decide)) |>.1

/-- A token whose signature ends in another letter is accepted by Python and rejected
by Rust. -/
theorem altered_letter_splits_verdicts :
    WellTyped TokenScenario.packages TokenScenario.token ∧
      Security.verifyTokenText TokenScenario.packages TokenScenario.secret TokenScenario.token 1 =
        .ok TokenScenario.claims.context ∧
      ApexAuth.verifyToken TokenScenario.packages TokenScenario.secret TokenScenario.token 1 =
        .error .invalidBase64 := by
  refine ⟨TokenScenario.token_wellTyped, ?_, ?_⟩
  · exact (python_accepts_iff TokenScenario.packages_lawful TokenScenario.token_wellTyped).mpr
      ⟨_, _, _, TokenScenario.token_signed, rfl⟩
  · decide +kernel

end Auth
end ApexQuant
