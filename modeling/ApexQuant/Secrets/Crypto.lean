import ApexQuant.Foundation.Base64
import ApexQuant.Foundation.Text
import Mathlib.Data.List.TakeDrop

namespace ApexQuant
namespace Secrets

open Foundation

/-!
# The encrypted document

`crypto.py`: a plaintext is sealed under a key derived from the master secret and a
fresh salt, and the document carries everything but the secret.  The key derivation
and the cipher come from a package and are parameters; the document around them is
built and taken apart here.  The file holds the document as JSON text, which stands
for the document.
-/

abbrev Bytes := List UInt8

/-- The primitives of `cryptography` and `hashlib`. -/
structure Primitives where
  scrypt : (secret salt : Bytes) -> (n r p : Nat) -> Bytes
  sha256 : Bytes -> Bytes
  encrypt : (key nonce plaintext associated : Bytes) -> Bytes
  decrypt : (key nonce ciphertext associated : Bytes) -> Option Bytes

/-- AES-GCM with its tag of sixteen octets. -/
structure Primitives.Lawful (primitives : Primitives) : Prop where
  decrypt_encrypt : forall key nonce plaintext associated,
    primitives.decrypt key nonce (primitives.encrypt key nonce plaintext associated) associated = some plaintext
  encrypt_length : forall key nonce plaintext associated,
    (primitives.encrypt key nonce plaintext associated).length = plaintext.length + 16

inductive CryptoError where
  | invalidDocument
  | unsupportedVersion (version : Nat)
  | unsupportedKdf (name : Text)
  | invalidPayload
  | decryptionFailed
  deriving DecidableEq

def CryptoError.message : CryptoError -> Text
  | .invalidDocument => "invalid secret store document".toList
  | .unsupportedVersion version => "unsupported secret store version ".toList ++ (toString version).toList
  | .unsupportedKdf name => "unsupported KDF ".toList ++ name
  | .invalidPayload => "invalid encrypted payload".toList
  | .decryptionFailed => "decryption failed: invalid master key or corrupted store".toList

structure Kdf where
  name : Text
  n : Nat
  r : Nat
  p : Nat
  salt : Text
  deriving DecidableEq

structure StoreDocument where
  version : Nat
  kdf : Kdf
  keyId : Text
  cipherName : Text
  payload : Text
  deriving DecidableEq

/-- What `encrypt_bytes` draws. -/
structure SealDraws where
  salt : Bytes
  nonce : Bytes
  salt_length : salt.length = 32
  nonce_length : nonce.length = 12

def storeVersion : Nat := 1

/-- `b"apexquant.ultra.secrets.v1"`. -/
def associatedData : Bytes :=
  "apexquant.ultra.secrets.v1".toList.map fun c => UInt8.ofNat c.toNat

/-- `base64.b64encode`. -/
def b64encode (octets : Bytes) : Text :=
  Base64.encode Base64.standard octets ++ Base64.padding (Base64.encode Base64.standard octets).length

/-- `base64.b64decode` with `validate=True`. -/
def b64decode (text : Text) : Except Base64.Error Bytes :=
  Base64.a2bBase64 true Base64.standard.value text

theorem b64decode_b64encode (octets : Bytes) : b64decode (b64encode octets) = .ok octets :=
  Base64.a2bBase64_encode octets

/-- `encrypt_bytes` with its default costs. -/
def encryptBytes (primitives : Primitives) (draws : SealDraws) (plaintext masterSecret : Bytes) : StoreDocument :=
  let key := primitives.scrypt masterSecret draws.salt 16384 8 1
  let ciphertext := primitives.encrypt key draws.nonce plaintext associatedData
  { version := storeVersion
    kdf := { name := "scrypt".toList, n := 16384, r := 8, p := 1, salt := b64encode draws.salt }
    keyId := b64encode (primitives.sha256 key)
    cipherName := "AES-256-GCM".toList
    payload := b64encode (draws.nonce ++ ciphertext) }

/-- `decrypt_bytes`. -/
def decryptBytes (primitives : Primitives) (document : StoreDocument) (masterSecret : Bytes) :
    Except CryptoError Bytes :=
  match b64decode document.kdf.salt, b64decode document.payload with
  | .ok salt, .ok payload =>
      if document.version ≠ storeVersion then .error (.unsupportedVersion document.version)
      else if document.kdf.name ≠ "scrypt".toList then .error (.unsupportedKdf document.kdf.name)
      else if payload.length ≤ 12 then .error .invalidPayload
      else
        let key := primitives.scrypt masterSecret salt document.kdf.n document.kdf.r document.kdf.p
        match primitives.decrypt key (payload.take 12) (payload.drop 12) associatedData with
        | some plaintext => .ok plaintext
        | none => .error .decryptionFailed
  | _, _ => .error .invalidDocument

/-- What is sealed under a master secret is opened with it. -/
theorem decryptBytes_encryptBytes {primitives : Primitives} (lawful : primitives.Lawful) (draws : SealDraws)
    (plaintext masterSecret : Bytes) :
    decryptBytes primitives (encryptBytes primitives draws plaintext masterSecret) masterSecret = .ok plaintext := by
  have nonce := draws.nonce_length
  simp only [decryptBytes, encryptBytes, b64decode_b64encode, ne_eq, not_true_eq_false, if_false]
  rw [if_neg]
  · rw [List.take_left' nonce, List.drop_left' nonce, lawful.decrypt_encrypt]
  · rw [List.length_append, nonce, lawful.encrypt_length]
    omega

end Secrets
end ApexQuant
