import ApexQuant.Foundation.Json
import ApexQuant.Foundation.PercentEncoding
import ApexQuant.Secrets.Store

namespace ApexQuant
namespace Secrets

open Foundation

/-!
# Loading whatever is in the file

`load` of any bytes.  `load_store` handles its `SecretStoreError` and `CryptoError`.
The file is decoded, the key is derived and the plaintext is validated in calls whose
own exceptions nothing converts.
-/

/-! ## The packages and built-in functions -/

/-- What `json.loads` raises. -/
inductive JsonFailure where
  | decodeError
  /-- Over an integer of too many digits. -/
  | valueError
  | recursionError
  deriving DecidableEq

/-- What `Scrypt` and its `derive` raise over the costs. -/
inductive ScryptFailure where
  | valueError
  | overflowError
  | memoryError
  deriving DecidableEq

/-- What `load` calls besides the primitives.  `loads` gives each key of an object once,
with its last value, and a number that is not finite as the text that `str` makes of it,
which `int` and base64 refuse as well. -/
structure LoadPackages extends Packages where
  scryptRejects : (n r p : Int) -> Option ScryptFailure
  loads : Text -> Except JsonFailure Json
  /-- `int` of a text. -/
  intOfText : Text -> Option Int
  /-- `str` of what is no text. -/
  strOf : Json -> Text

/-! ## `decrypt_bytes` of any document -/

/-- The texts of `CryptoError` over a document. -/
inductive EnvelopeError where
  | invalidDocument
  | unsupportedVersion (version : Int)
  | unsupportedKdf (name : Text)
  | invalidPayload
  | decryptionFailed
  deriving DecidableEq

def EnvelopeError.message : EnvelopeError -> Text
  | .invalidDocument => "invalid secret store document".toList
  | .unsupportedVersion version => "unsupported secret store version ".toList ++ (toString version).toList
  | .unsupportedKdf name => "unsupported KDF ".toList ++ name
  | .invalidPayload => "invalid encrypted payload".toList
  | .decryptionFailed => "decryption failed: invalid master key or corrupted store".toList

/-- The ways in which `load` raises. -/
inductive LoadFailure where
  | missing (path : Text)
  | invalidJson
  | crypto (error : EnvelopeError)
  | unicodeDecodeError
  | json (failure : JsonFailure)
  | scrypt (failure : ScryptFailure)
  | validationError
  deriving DecidableEq

/-- Whether it is a `SecretStoreError` or a `CryptoError`, which `load_store` handles. -/
def LoadFailure.isHandled : LoadFailure -> Bool
  | .missing _ => true
  | .invalidJson => true
  | .crypto _ => true
  | .unicodeDecodeError => false
  | .json _ => false
  | .scrypt _ => false
  | .validationError => false

/-- What `load_store` exits with, unless it passes the exception on. -/
def LoadFailure.exitText : LoadFailure -> Option Text
  | .missing path => some ("secret store error: secret store does not exist: ".toList ++ path)
  | .invalidJson => some "secret store error: secret store is not valid JSON".toList
  | .crypto error => some ("secret store decryption error: ".toList ++ error.message)
  | .unicodeDecodeError => none
  | .json _ => none
  | .scrypt _ => none
  | .validationError => none

section Load

variable (packages : LoadPackages)

/-- `str(value)`. -/
def textOf : Json -> Text
  | .string text => text
  | value => packages.strOf value

/-- `base64.b64decode(str(value), validate=True)`. -/
def octetsOf (value : Json) : Option Bytes :=
  (b64decode (textOf packages value)).toOption

end Load

/-! ## What is handled -/

/-- A store is returned, or an error is raised that `load_store` handles. -/
def Handled {A : Type} : Except LoadFailure A -> Prop
  | .ok _ => True
  | .error failure => failure.isHandled = true

/-- A `CryptoError` is raised. -/
def Rejected {A : Type} (result : Except LoadFailure A) : Prop :=
  Exists fun error => result = .error (.crypto error)

theorem Rejected.handled {A : Type} {result : Except LoadFailure A} (rejected : Rejected result) : Handled result := by
  rcases rejected with ⟨error, rfl⟩
  rfl

theorem exitText_isSome (failure : LoadFailure) : failure.exitText.isSome = failure.isHandled := by
  cases failure <;> rfl

section Handling

variable {packages : LoadPackages} {masterSecret content : Bytes}

end Handling

/-! ## What has been saved -/

/-- The JSON of a document. -/
def storeJson (document : StoreDocument) : Json :=
  .object [("version".toList, .integer document.version),
    ("kdf".toList, .object [("name".toList, .string document.kdf.name), ("n".toList, .integer document.kdf.n),
      ("r".toList, .integer document.kdf.r), ("p".toList, .integer document.kdf.p),
      ("salt".toList, .string document.kdf.salt)]),
    ("key_id".toList, .string document.keyId),
    ("cipher".toList, .object [("name".toList, .string document.cipherName)]),
    ("payload".toList, .string document.payload)]

/-- The item of the key in `kdf`. -/
def kdfItem (document : Json) (key : Text) : Option Json :=
  (document.get "kdf".toList).bind (Json.get key)

section Saved

variable (packages : LoadPackages) (draws : SealDraws) (masterSecret : Bytes) (stored : SecretStorePayload)

/-- The key of the store. -/
def savedKey : Bytes :=
  packages.scrypt masterSecret draws.salt 16384 8 1

/-- What the cipher makes of the store. -/
def savedCiphertext : Bytes :=
  packages.encrypt (savedKey packages draws masterSecret) draws.nonce (packages.modelDumpJson stored) associatedData

/-- The document still has the salt and the payload of the store. -/
def Unchanged (changed : Json) : Prop :=
  (kdfItem changed "salt".toList).bind (octetsOf packages) = some draws.salt ∧
    (changed.get "payload".toList).bind (octetsOf packages) =
      some (draws.nonce ++ savedCiphertext packages draws masterSecret stored)

end Saved

section Tampering

variable {packages : LoadPackages} {draws : SealDraws} {masterSecret : Bytes} {stored : SecretStorePayload}

end Tampering

namespace LoadingScenario

def masterSecret : Bytes :=
  List.replicate 32 7

def otherSecret : Bytes :=
  List.replicate 32 8

/-- A source of zeros. -/
def zeros (count : Nat) : Bytes :=
  List.replicate count 0

def draws : SealDraws where
  salt := zeros 32
  nonce := zeros 12
  salt_length := rfl
  nonce_length := rfl

/-- What scrypt makes of the master secret and the salt. -/
def key : Bytes :=
  [142, 141, 104, 27, 96, 143, 130, 146, 7, 127, 232, 53, 7, 113, 186, 26, 33, 116, 134, 142, 17, 111, 212, 9,
   180, 225, 28, 196, 210, 92, 252, 194]

def otherKey : Bytes :=
  [82, 226, 43, 41, 2, 12, 167, 61, 142, 67, 182, 121, 242, 79, 206, 8, 129, 29, 10, 32, 190, 197, 167, 118,
   157, 215, 117, 61, 208, 161, 159, 23]

/-- The SHA-256 of the key. -/
def digest : Bytes :=
  [242, 42, 61, 156, 166, 49, 73, 46, 63, 170, 49, 199, 109, 112, 157, 122, 73, 217, 114, 42, 48, 243, 150,
   174, 136, 187, 73, 138, 193, 78, 136, 59]

/-- The JSON of a payload without secrets. -/
def plaintext : Bytes :=
  Text.utf8 "\x7b\"secrets\":\x7b\x7d\x7d".toList

def ciphertext : Bytes :=
  [74, 226, 196, 187, 234, 212, 23, 90, 15, 9, 39, 115, 248, 41, 56, 144, 223, 219, 215, 188, 36, 119, 251,
   255, 41, 255, 54, 91, 188, 230]

def stored : SecretStorePayload :=
  Table.empty

/-- The packages, on what this store gives them. -/
def base : Packages where
  scrypt := fun secret salt _ _ _ =>
    if secret = masterSecret ∧ salt = draws.salt then key
    else if secret = otherSecret ∧ salt = draws.salt then otherKey
    else []
  sha256 := fun octets => if octets = key then digest else []
  encrypt := fun sealing nonce text _ =>
    if sealing = key ∧ nonce = draws.nonce ∧ text = plaintext then ciphertext else []
  decrypt := fun opening nonce text _ =>
    if opening = key ∧ nonce = draws.nonce ∧ text = ciphertext then some plaintext else none
  modelDumpJson := fun payload => if payload.rows.isEmpty then plaintext else []
  modelValidateJson := fun octets => if octets = plaintext then some stored else none

/-- The file that `save` writes. -/
def file : Text :=
  "\x7b\n  \"version\": 1,\n  \"kdf\": \x7b\n    \"name\": \"scrypt\",\n    \"n\": 16384,\n    \"r\": 8,\n".toList ++
    "    \"p\": 1,\n    \"salt\": \"AAAAAAAAAAAAAAAAAAAAAAAAAAAAAAAAAAAAAAAAAAA=\"\n  \x7d,\n".toList ++
    "  \"key_id\": \"8io9nKYxSS4/qjHHbXCdeknZciow85auiLtJisFOiDs=\",\n".toList ++
    "  \"cipher\": \x7b\n    \"name\": \"AES-256-GCM\"\n  \x7d,\n".toList ++
    "  \"payload\": \"AAAAAAAAAAAAAAAASuLEu+rUF1oPCSdz+Ck4kN/b17wkd/v/Kf82W7zm\"\n\x7d".toList

/-- `json.loads`, on this file. -/
def loads (text : Text) : Except JsonFailure Json :=
  if text = file then .ok (storeJson (Store.save base draws masterSecret stored)) else .error .decodeError

def packages : LoadPackages :=
  { base with
    scryptRejects := fun n r p =>
      if 1 < n ∧ n.toNat &&& (n.toNat - 1) = 0 ∧ 0 < r ∧ 0 < p then none else some .valueError
    loads := loads
    intOfText := fun _ => none
    strOf := fun _ => [] }

end LoadingScenario

end Secrets
end ApexQuant
