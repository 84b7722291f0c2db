import ApexQuant.Foundation.Dictionary
import ApexQuant.Foundation.Text

namespace ApexQuant
namespace Secrets

open Foundation

/-!
# The records of the secret store

The enumerations and the records of `models.py`.  The bounds that a field is
declared with are fields of the record.
-/

inductive SecretClassification where
  | infrastructure
  | database
  | broker
  | execution
  | api
  | model
  | knowledge
  | observability
  deriving DecidableEq, Repr

def SecretClassification.value : SecretClassification -> Text
  | .infrastructure => "INFRASTRUCTURE".toList
  | .database => "DATABASE".toList
  | .broker => "BROKER".toList
  | .execution => "EXECUTION".toList
  | .api => "API".toList
  | .model => "MODEL".toList
  | .knowledge => "KNOWLEDGE".toList
  | .observability => "OBSERVABILITY".toList

inductive SecretPlane where
  | control
  | marketData
  | trading
  | risk
  | ai
  | dataResearch
  | observability
  deriving DecidableEq, Repr

def SecretPlane.value : SecretPlane -> Text
  | .control => "CONTROL".toList
  | .marketData => "MARKET_DATA".toList
  | .trading => "TRADING".toList
  | .risk => "RISK".toList
  | .ai => "AI".toList
  | .dataResearch => "DATA_RESEARCH".toList
  | .observability => "OBSERVABILITY".toList

inductive SecretAction where
  | read
  | write
  | rotate
  | admin
  deriving DecidableEq, Repr

def SecretAction.value : SecretAction -> Text
  | .read => "READ".toList
  | .write => "WRITE".toList
  | .rotate => "ROTATE".toList
  | .admin => "ADMIN".toList

inductive PolicyEffect where
  | allow
  | deny
  deriving DecidableEq, Repr

inductive SecretVersionStatus where
  | active
  | revoked
  deriving DecidableEq, Repr

/-- `PolicyRule`: a field that is `None` admits every value. -/
structure PolicyRule where
  subjectPlane : Option SecretPlane
  classification : Option SecretClassification
  action : Option SecretAction
  effect : PolicyEffect
  deriving DecidableEq, Repr

structure PolicyEvaluation where
  allowed : Bool
  reason : Text
  matchedRules : List PolicyRule
  deriving DecidableEq

/-- A `datetime` in UTC: microseconds since the epoch, from year 1 to year 9999. -/
structure Datetime where
  microseconds : Int
  inRange : -62135596800000000 ≤ microseconds ∧ microseconds < 253402300800000000
  deriving DecidableEq

structure SecretVersion where
  version : Nat
  value : Text
  status : SecretVersionStatus
  createdAt : Datetime
  positive : 1 ≤ version
  deriving DecidableEq

structure SecretEntry where
  classification : SecretClassification
  description : Text
  currentVersion : Nat
  versions : List SecretVersion
  deriving DecidableEq

structure SecretMetadata where
  name : Text
  classification : SecretClassification
  description : Text
  currentVersion : Nat
  deriving DecidableEq

/-- `SecretStorePayload`. -/
abbrev SecretStorePayload := Dictionary Text SecretEntry

end Secrets
end ApexQuant
