import ApexQuant.Auth.Tokens
import ApexQuant.Config.Canonical
import ApexQuant.Foundation.JsonReading
import ApexQuant.Foundation.PercentEncoding

namespace ApexQuant
namespace Auth

open Foundation

/-!
# Tokens from claims and back

`sign_token` of both languages from the claims on.  The payload is written by
`json.dumps` in ASCII and by `serde_json` in UTF-8, and read by the readers of either.
-/

/-! ## The payload -/

/-- The claims as a document, in the order in which both classes declare them. -/
def TokenClaims.modelDump (claims : TokenClaims) : Json :=
  .object
    [("sub".toList, .string claims.sub), ("typ".toList, .string claims.typ), ("iat".toList, .integer claims.iat),
      ("exp".toList, .integer claims.exp), ("jti".toList, .string claims.jti),
      ("permissions".toList, .array (claims.permissions.map .string))]

/-- The integers of the claims are those of Rust. -/
def TokenClaims.InI64 (claims : TokenClaims) : Prop :=
  (-9223372036854775808 ≤ claims.iat ∧ claims.iat < 9223372036854775808) ∧
    (-9223372036854775808 ≤ claims.exp ∧ claims.exp < 9223372036854775808)

instance TokenClaims.decidableInI64 (claims : TokenClaims) : Decidable claims.InI64 :=
  inferInstanceAs (Decidable (_ ∧ _))

/-- `sys.int_info.default_max_str_digits`. -/
def maxStrDigits : Nat := 4300

/-- Python turns the integers into text and back. -/
def TokenClaims.Writable (claims : TokenClaims) : Prop :=
  claims.iat.natAbs < 10 ^ maxStrDigits ∧ claims.exp.natAbs < 10 ^ maxStrDigits

instance TokenClaims.decidableWritable (claims : TokenClaims) : Decidable claims.Writable :=
  inferInstanceAs (Decidable (_ ∧ _))

namespace Security

/-- `json.dumps` with its separators.  No claim is a double. -/
def writer : Json.Writer where
  string := Config.quoted Config.Python.escape
  integer := Config.decimal
  float := fun _ => []

/-- What `sign_token` raises: `ValueError`, over an integer of too many digits. -/
inductive SignError where
  | exceedsDigitLimit
  deriving DecidableEq

/-- `sign_token`. -/
def signToken (packages : TokenPackages) (secret : List UInt8) (claims : TokenClaims) : Except SignError Text :=
  if claims.Writable then .ok (signPayload packages secret (Text.utf8 (Json.render writer claims.modelDump)))
  else .error .exceedsDigitLimit

end Security

namespace ApexAuth

/-- `serde_json`. -/
def writer : Json.Writer where
  string := Config.quoted Config.Rust.escape
  integer := Config.decimal
  float := fun _ => []

/-- `sign_token`.  Keys of every length are taken. -/
def signToken (packages : TokenPackages) (secret : List UInt8) (claims : TokenClaims) : Except AuthError Text :=
  let payloadB64 := Base64.encode Base64.urlSafe (Text.utf8 (Json.render writer claims.modelDump))
  let signingInput := signingText payloadB64
  let signature := packages.hmac secret (Text.utf8 signingInput)
  .ok (signingInput ++ '.' :: Base64.encode Base64.urlSafe signature)

end ApexAuth

/-! ## What the readers are given -/

def textOf : Json -> Option Text
  | .string text => some text
  | _ => none

def integerOf : Json -> Option Int
  | .integer value => some value
  | _ => none

def textsOf : Json -> Option (List Text)
  | .array items => items.mapM textOf
  | _ => none

/-- The claims of an object that has each of them once, of its declared type, and
nothing else. -/
def claimsIn : Json -> Option TokenClaims
  | .object fields =>
      if fields.length = 6 then do
        let sub ← (fields.lookup "sub".toList).bind textOf
        let typ ← (fields.lookup "typ".toList).bind textOf
        let iat ← (fields.lookup "iat".toList).bind integerOf
        let exp ← (fields.lookup "exp".toList).bind integerOf
        let jti ← (fields.lookup "jti".toList).bind textOf
        let permissions ← (fields.lookup "permissions".toList).bind textsOf
        pure { sub := sub, typ := typ, iat := iat, exp := exp, jti := jti, permissions := permissions }
      else none
  | _ => none

/-- The readers of both languages take the JSON text of such an object, in UTF-8, for the
claims in it, as far as their integers go. -/
structure TokenPackages.ReadJson (packages : TokenPackages) : Prop where
  python_reads : forall text document claims, Json.read text = some document -> claimsIn document = some claims ->
    claims.Writable -> packages.pythonReads (Text.utf8 text) = some claims
  rust_reads : forall text document claims, Json.read text = some document -> claimsIn document = some claims ->
    claims.InI64 -> packages.rustReads (Text.utf8 text) = some claims

theorem claimsIn_modelDump (claims : TokenClaims) : claimsIn claims.modelDump = some claims := by
  have permissions : textsOf (.array (claims.permissions.map .string)) = some claims.permissions :=
    Json.mapM_read_write fun _ _ => rfl
  have shape : claimsIn claims.modelDump = (textsOf (.array (claims.permissions.map .string))).bind fun permissions =>
      some { claims with permissions := permissions } := rfl
  rw [shape, permissions]
  rfl

theorem whole_modelDump (claims : TokenClaims) : Json.Whole claims.modelDump := by
  rw [TokenClaims.modelDump, Json.whole_object]
  intro field member
  simp only [List.mem_cons, List.not_mem_nil, or_false] at member
  rcases member with rfl | rfl | rfl | rfl | rfl | rfl
  · trivial
  · trivial
  · trivial
  · trivial
  · trivial
  · rw [Json.whole_array]
    intro item listed
    rcases List.mem_map.mp listed with ⟨text, _, rfl⟩
    trivial

/-! ## Strings -/

theorem hexDigit_digitChar {d : Nat} (small : d < 16) : Json.hexDigit (Nat.digitChar d) = some d := by
  have table : forall d, d < 16 -> Json.hexDigit (Nat.digitChar d) = some d := by decide
  exact table d small

theorem readUnit_digits {unit : Nat} (small : unit < 65536) (rest : Text) :
    Json.readUnit (Numeral.digits 16 4 unit ++ rest) = some (unit, rest) := by
  have shape : Numeral.digits 16 4 unit = [Nat.digitChar (unit / 16 / 16 / 16 % 16), Nat.digitChar (unit / 16 / 16 % 16),
      Nat.digitChar (unit / 16 % 16), Nat.digitChar (unit % 16)] := rfl
  have value : ((unit / 16 / 16 / 16 % 16 * 16 + unit / 16 / 16 % 16) * 16 + unit / 16 % 16) * 16 + unit % 16 = unit := by
    omega
  have read : forall n : Nat, Json.hexDigit (Nat.digitChar (n % 16)) = some (n % 16) := fun n =>
    hexDigit_digitChar (Nat.mod_lt n (by decide))
  rw [shape]
  simp only [List.cons_append, List.nil_append, Json.readUnit, read]
  exact congrArg (fun unit => some (unit, rest)) value

theorem readCharacter_short {c letter : Char} (known : Config.shortEscape c = some letter) (rest : Text) :
    Json.readCharacter ('\\' :: letter :: rest) = some (c, rest) := by
  have table : forall entry, entry ∈ Config.shortEscapes ->
      entry.2 ≠ 'u' ∧ Json.shortEscapes.lookup entry.2 = some entry.1 := by decide
  rcases table _ (Config.mem_shortEscapes known) with ⟨notUnit, found⟩
  rw [Json.readCharacter, if_pos rfl, Json.readEscape, if_neg notUnit, found]
  rfl

theorem readCharacter_unit {c : Char} (small : c.toNat < 65536) (rest : Text) :
    Json.readCharacter (Config.unitEscape c.toNat ++ rest) = some (c, rest) := by
  have valid := Config.scalar c
  rw [Config.unitEscape, List.cons_append, List.cons_append, Json.readCharacter, if_pos rfl, Json.readEscape, if_pos rfl,
    Json.readUnits, readUnit_digits small]
  simp only [Option.bind_eq_bind, Option.bind_some]
  rw [if_neg (by omega), if_neg (by omega), Char.ofNat_toNat]

theorem readUnits_pair {high low : Nat} (upper : 0xd800 ≤ high ∧ high ≤ 0xdbff) (lower : 0xdc00 ≤ low ∧ low ≤ 0xdfff)
    (rest : Text) :
    Json.readUnits (Numeral.digits 16 4 high ++ (Config.unitEscape low ++ rest)) =
      some (Char.ofNat (0x10000 + (high - 0xd800) * 1024 + (low - 0xdc00)), rest) := by
  rw [Json.readUnits, readUnit_digits (by omega), Config.unitEscape, List.cons_append, List.cons_append]
  simp only [Option.bind_eq_bind, Option.bind_some, if_pos upper]
  rw [readUnit_digits (by omega)]
  simp only [Option.bind_some, if_pos lower]

theorem readCharacter_pair {c : Char} (large : 65536 ≤ c.toNat) (rest : Text) :
    Json.readCharacter (Config.unitEscape (0xd800 + (c.toNat - 65536) / 1024) ++
      Config.unitEscape (0xdc00 + (c.toNat - 65536) % 1024) ++ rest) = some (c, rest) := by
  have valid := Config.scalar c
  have upper : 0xd800 ≤ 0xd800 + (c.toNat - 65536) / 1024 ∧ 0xd800 + (c.toNat - 65536) / 1024 ≤ 0xdbff := by omega
  have lower : 0xdc00 ≤ 0xdc00 + (c.toNat - 65536) % 1024 ∧ 0xdc00 + (c.toNat - 65536) % 1024 ≤ 0xdfff := by omega
  have value : 0x10000 + (0xd800 + (c.toNat - 65536) / 1024 - 0xd800) * 1024 +
      (0xdc00 + (c.toNat - 65536) % 1024 - 0xdc00) = c.toNat := by omega
  have read := readUnits_pair upper lower rest
  rw [value, Char.ofNat_toNat] at read
  have opened : Config.unitEscape (0xd800 + (c.toNat - 65536) / 1024) ++
      Config.unitEscape (0xdc00 + (c.toNat - 65536) % 1024) ++ rest =
        '\\' :: 'u' :: (Numeral.digits 16 4 (0xd800 + (c.toNat - 65536) / 1024) ++
          (Config.unitEscape (0xdc00 + (c.toNat - 65536) % 1024) ++ rest)) := by
    rw [List.append_assoc]
    rfl
  rw [opened, Json.readCharacter, if_pos rfl, Json.readEscape, if_pos rfl, read]

theorem readCharacter_plain {c : Char} (common : Config.shortEscape c = none) (printed : 32 ≤ c.toNat) (rest : Text) :
    Json.readCharacter (c :: rest) = some (c, rest) := by
  rw [Json.readCharacter, if_neg (Config.ne_mark_of_common common).1, if_neg (by omega)]

theorem readCharacter_rust (c : Char) (rest : Text) :
    Json.readCharacter (Config.Rust.escape c ++ rest) = some (c, rest) := by
  rw [Config.Rust.escape]
  cases known : Config.shortEscape c with
  | some letter => exact readCharacter_short known rest
  | none =>
      dsimp only
      split
      · exact readCharacter_unit (by omega) rest
      · exact readCharacter_plain known (by omega) rest

theorem readCharacter_python (c : Char) (rest : Text) :
    Json.readCharacter (Config.Python.escape c ++ rest) = some (c, rest) := by
  rw [Config.Python.escape]
  cases known : Config.shortEscape c with
  | some letter => exact readCharacter_short known rest
  | none =>
      dsimp only
      split
      · exact readCharacter_plain known (by omega) rest
      · split
        · rename_i small
          exact readCharacter_unit small rest
        · exact readCharacter_pair (by omega) rest

/-- A string is read back when each of its characters is. -/
theorem readString_quoted {escape : Char -> Text} (escaped : forall c, Config.Escaped c (escape c))
    (reads : forall c rest, Json.readCharacter (escape c ++ rest) = some (c, rest)) (text rest : Text) (fuel : Nat)
    (enough : (Config.quoted escape text).length ≤ fuel) :
    Json.readString fuel (Config.quoted escape text ++ rest).tail = some (text, rest) := by
  have opened : (Config.quoted escape text ++ rest).tail = text.flatMap escape ++ '"' :: rest := by
    rw [Config.quoted, List.cons_append, List.cons_append, List.tail_cons, List.append_assoc, List.singleton_append]
  have bound : (text.flatMap escape).length + 1 ≤ fuel := by
    rw [Config.quoted, List.length_append, List.length_cons, List.length_singleton] at enough
    omega
  rw [opened]
  clear opened enough
  induction text generalizing fuel with
  | nil =>
      rcases Nat.exists_eq_succ_of_ne_zero (Nat.ne_zero_of_lt (Nat.lt_of_succ_le bound)) with ⟨fuel, rfl⟩
      rw [List.flatMap_nil, List.nil_append, Json.readString, List.head?_cons, if_pos rfl, List.tail_cons]
  | cons c text inductionHypothesis =>
      rcases Nat.exists_eq_succ_of_ne_zero (Nat.ne_zero_of_lt (Nat.lt_of_succ_le bound)) with ⟨fuel, rfl⟩
      have head : (escape c ++ (text.flatMap escape ++ '"' :: rest)).head? ≠ some '"' := by
        rcases (escaped c).opening with ⟨others, shape⟩ | ⟨shape, _, notQuote⟩
        · rw [shape, List.cons_append, List.head?_cons]
          exact fun same => absurd (Option.some.inj same) (by decide)
        · rw [shape, List.singleton_append, List.head?_cons]
          exact fun same => notQuote (Option.some.inj same)
      have longer : 0 < (escape c).length := by
        rcases (escaped c).opening with ⟨others, shape⟩ | ⟨shape, _, _⟩
        · rw [shape, List.length_cons]
          omega
        · rw [shape]
          exact Nat.one_pos
      rw [List.flatMap_cons, List.length_append] at bound
      rw [List.flatMap_cons, List.append_assoc, Json.readString, if_neg head, reads]
      dsimp only
      rw [inductionHypothesis fuel (by omega)]
      rfl

/-! ## Integers -/

theorem toDigits_head {n : Nat} (zero : (Nat.toDigits 10 n).head? = some '0') : n = 0 := by
  induction n using Nat.strong_induction_on with
  | _ n inductionHypothesis =>
      rw [Nat.toDigits_eq_if (by omega)] at zero
      split at zero
      · rename_i small
        have table : forall n, n < 10 -> Nat.digitChar n = '0' -> n = 0 := by decide
        exact table n small (Option.some.inj zero)
      · rename_i large
        have opening : (Nat.toDigits 10 (n / 10)).head? = some '0' := by
          cases written : Nat.toDigits 10 (n / 10) with
          | nil => exact absurd written Nat.toDigits_ne_nil
          | cons first rest =>
              rw [written] at zero
              exact zero
        have none := inductionHypothesis (n / 10) (by omega) opening
        omega

theorem readNatural_toDigits (n : Nat) {rest : Text} (delimited : Json.Delimited rest) :
    Json.readNatural (Nat.toDigits 10 n ++ rest) = some (n, rest) := by
  have digits : forall c, c ∈ Nat.toDigits 10 n -> c.isDigit = true := fun c member =>
    Nat.isDigit_of_mem_toDigits (by decide) (by decide) member
  have none : rest.takeWhile Char.isDigit = [] ∧ rest.dropWhile Char.isDigit = rest ∧
      rest.head?.any (fun c => c == '.' || c == 'e' || c == 'E') = false := by
    cases rest with
    | nil => exact ⟨rfl, rfl, rfl⟩
    | cons c rest =>
        have delimiter := delimited c rfl
        simp only [Json.isDelimiter, Bool.or_eq_true, beq_iff_eq] at delimiter
        rcases delimiter with (rfl | rfl) | rfl <;> exact ⟨rfl, rfl, rfl⟩
  have taken : (Nat.toDigits 10 n ++ rest).takeWhile Char.isDigit = Nat.toDigits 10 n := by
    rw [List.takeWhile_append_of_pos digits, none.1, List.append_nil]
  have dropped : (Nat.toDigits 10 n ++ rest).dropWhile Char.isDigit = rest := by
    rw [List.dropWhile_append_of_pos digits, none.2.1]
  rw [Json.readNatural, taken, dropped]
  rw [if_neg, Text.DecimalDigits.number_toDigits]
  rintro (empty | ⟨zero, more⟩ | marked)
  · exact Nat.toDigits_ne_nil empty
  · rw [toDigits_head zero] at more
    exact more rfl
  · rw [none.2.2] at marked
    cases marked

theorem readInteger_decimal (value : Int) {rest : Text} (delimited : Json.Delimited rest) :
    Json.readInteger (Config.decimal value ++ rest) = some (value, rest) := by
  cases value with
  | negSucc n =>
      rw [Config.decimal, List.cons_append, Json.readInteger, List.head?_cons, if_pos rfl, List.tail_cons,
        readNatural_toDigits (n + 1) delimited]
  | ofNat n =>
      have unsigned : (Nat.toDigits 10 n ++ rest).head? ≠ some '-' := by
        cases written : Nat.toDigits 10 n with
        | nil => exact absurd written Nat.toDigits_ne_nil
        | cons c others =>
            have digit := Nat.isDigit_of_mem_toDigits (by decide) (by decide)
              (written ▸ List.mem_cons_self : c ∈ Nat.toDigits 10 n)
            intro same
            rw [Option.some.inj same] at digit
            exact absurd digit (by decide)
      rw [Config.decimal, Json.readInteger, if_neg unsigned, readNatural_toDigits n delimited]
      rfl

/-! ## The two writers -/

theorem shaped_quoted (escape : Char -> Text) (float : Rat -> Text) :
    Json.Writer.Shaped { string := Config.quoted escape, integer := Config.decimal, float := float } where
  quoted := fun _ => rfl
  numeral := Config.decimal_opens

theorem Security.writer_readable : Security.writer.Readable where
  shaped := shaped_quoted _ _
  strings := fun text rest fuel => readString_quoted Config.Python.escaped readCharacter_python text rest fuel
  integers := fun value _ => readInteger_decimal value

theorem ApexAuth.writer_readable : ApexAuth.writer.Readable where
  shaped := shaped_quoted _ _
  strings := fun text rest fuel => readString_quoted Config.Rust.escaped readCharacter_rust text rest fuel
  integers := fun value _ => readInteger_decimal value

/-- What either language writes for claims is a text of these claims. -/
theorem read_writer {writer : Json.Writer} (readable : writer.Readable) (claims : TokenClaims) :
    Json.read (Json.render writer claims.modelDump) = some claims.modelDump :=
  Json.read_render readable (whole_modelDump claims)

/-! ## The round trip -/

section RoundTrip

variable {packages : TokenPackages} {secret : List UInt8} {claims : TokenClaims} {now : Int}

theorem writable_of_inI64 (narrow : claims.InI64) : claims.Writable := by
  have wide : 10 ^ 19 ≤ 10 ^ maxStrDigits := Nat.pow_le_pow_right (by decide) (by decide)
  rcases narrow with ⟨iat, exp⟩
  exact ⟨Nat.lt_of_lt_of_le (by omega) wide, Nat.lt_of_lt_of_le (by omega) wide⟩

/-- One reader in both languages, and one payload. -/
def TokenPackages.reading (packages : TokenPackages) (reader : List UInt8 -> Option TokenClaims)
    (octets : List UInt8) (claims : TokenClaims) : TokenPackages where
  hmac := packages.hmac
  pythonReads := reader
  rustReads := reader
  claimsOf := fun given => if given = octets then some claims else none

theorem reading_lawful {reader : List UInt8 -> Option TokenClaims} {octets : List UInt8}
    (read : reader octets = some claims) : (packages.reading reader octets claims).Lawful := by
  have reads : forall given declared, (if given = octets then some claims else none) = some declared ->
      reader given = some declared := by
    intro given declared known
    split at known
    · rename_i same
      rw [same, read, known]
    · cases known
  exact ⟨reads, reads⟩

/-- Python accepts the signature of a payload that its reader takes: Rust's may be any. -/
theorem python_accepts_signPayload {octets : List UInt8} (read : packages.pythonReads octets = some claims)
    (current : now < claims.exp) :
    Security.verifyTokenText packages secret (Security.signPayload packages secret octets) now = .ok claims.context :=
  (@signPayload_accepted (packages.reading packages.pythonReads octets claims) secret now (reading_lawful read) _ _
    (if_pos rfl) current).1

/-- Rust accepts the signature of a payload that its reader takes. -/
theorem rust_accepts_signPayload {octets : List UInt8} (read : packages.rustReads octets = some claims)
    (current : now < claims.exp) :
    ApexAuth.verifyToken packages secret (Security.signPayload packages secret octets) now = .ok claims.context :=
  (@signPayload_accepted (packages.reading packages.rustReads octets claims) secret now (reading_lawful read) _ _
    (if_pos rfl) current).2

/-- Rust signs a payload as Python does. -/
theorem ApexAuth.signToken_eq :
    ApexAuth.signToken packages secret claims =
      .ok (Security.signPayload packages secret (Text.utf8 (Json.render ApexAuth.writer claims.modelDump))) := by
  have octets := Text.utf8_of_isAscii (signingText_isAscii
    (canonical_encode (Text.utf8 (Json.render ApexAuth.writer claims.modelDump))))
  rw [ApexAuth.signToken, Security.signPayload, ← octets]
  rfl

end RoundTrip

/-- A token carries its claims from either language to either, while it has not expired:
Python signs every claims whose integers it can write, and integers of 64 bits go
through both languages. -/
theorem token_round_trip (packages : TokenPackages) (reads : packages.ReadJson) (secret : List UInt8)
    (claims : TokenClaims) (now : Int) (current : now < claims.exp) :
    (forall token, Security.signToken packages secret claims = .ok token ->
      Security.verifyTokenText packages secret token now = .ok claims.context) ∧
    (claims.InI64 ->
      (Exists fun token => Security.signToken packages secret claims = .ok token ∧
        Security.verifyTokenText packages secret token now = .ok claims.context ∧
        ApexAuth.verifyToken packages secret token now = .ok claims.context) ∧
      (Exists fun token => ApexAuth.signToken packages secret claims = .ok token ∧
        Security.verifyTokenText packages secret token now = .ok claims.context ∧
        ApexAuth.verifyToken packages secret token now = .ok claims.context)) ∧
    forall octets, Security.b64urlDecode (Security.b64urlEncode octets) = .ok octets := by
  have python := read_writer Security.writer_readable claims
  have rust := read_writer ApexAuth.writer_readable claims
  have known := claimsIn_modelDump claims
  refine ⟨fun token signed => ?_, fun narrow => ⟨⟨_, if_pos (writable_of_inI64 narrow), ?_, ?_⟩,
    ⟨_, ApexAuth.signToken_eq, ?_, ?_⟩⟩, b64urlDecode_encode⟩
  · rw [Security.signToken] at signed
    split at signed
    · rename_i writable
      rw [← Except.ok.inj signed]
      exact python_accepts_signPayload (reads.python_reads _ _ _ python known writable) current
    · cases signed
  · exact python_accepts_signPayload (reads.python_reads _ _ _ python known (writable_of_inI64 narrow)) current
  · exact rust_accepts_signPayload (reads.rust_reads _ _ _ python known narrow) current
  · exact python_accepts_signPayload (reads.python_reads _ _ _ rust known (writable_of_inI64 narrow)) current
  · exact rust_accepts_signPayload (reads.rust_reads _ _ _ rust known narrow) current

/-! ## One token -/

namespace TokenScenario

/-- The claims in a payload in UTF-8. -/
def claimsInOctets (octets : List UInt8) : Option TokenClaims :=
  ((PercentEncoding.ofUtf8 octets).bind Json.read).bind claimsIn

theorem claimsInOctets_utf8 {text : Text} {document : Json} {claims : TokenClaims} (read : Json.read text = some document)
    (known : claimsIn document = some claims) : claimsInOctets (Text.utf8 text) = some claims := by
  rw [claimsInOctets, PercentEncoding.ofUtf8_utf8, Option.bind_some, read, Option.bind_some, known]

/-- Readers of JSON, and a signer of one text. -/
def jsonPackages : TokenPackages where
  hmac := fun _ _ => digest
  pythonReads := claimsInOctets
  rustReads := claimsInOctets
  claimsOf := claimsInOctets

theorem jsonPackages_readJson : jsonPackages.ReadJson where
  python_reads := fun _ _ _ read known _ => claimsInOctets_utf8 read known
  rust_reads := fun _ _ _ read known _ => claimsInOctets_utf8 read known

end TokenScenario

theorem administrator_token_round_trip :
    Exists fun token =>
      Security.signToken TokenScenario.jsonPackages TokenScenario.secret TokenScenario.claims = .ok token ∧
      ApexAuth.verifyToken TokenScenario.jsonPackages TokenScenario.secret token 1 =
        .ok TokenScenario.claims.context := by
  have trip := token_round_trip TokenScenario.jsonPackages TokenScenario.jsonPackages_readJson TokenScenario.secret
    TokenScenario.claims 1 (by decide)
  rcases (trip.2.1 (by decide)).1 with ⟨token, signed, _, accepted⟩
  exact ⟨token, signed, accepted⟩

end Auth
end ApexQuant
