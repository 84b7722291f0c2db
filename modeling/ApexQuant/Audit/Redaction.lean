import ApexQuant.Foundation.KeyRedaction

namespace ApexQuant
namespace Audit

open Foundation

/-!
# What the audit service hides

`redaction.py` of the audit package.  The data of an event is redacted before the event
is stored.  A key is folded with `str.lower`, which is more than the ASCII letters.
-/

def secretKeyMarkers : List Text :=
  ["password".toList, "secret".toList, "token".toList, "api_key".toList, "apikey".toList, "private_key".toList,
    "credential".toList, "access_key".toList, "authorization".toList]

def redacted : Text := "[REDACTED]".toList

/-- `is_secret_key`. -/
def isSecretKey (lowercasing : Text.Lowercasing) : Text -> Bool :=
  KeyRedaction.marked secretKeyMarkers lowercasing

/-- `redact_data` of a JSON value: its dictionaries are keyed by strings. -/
def redactData (lowercasing : Text.Lowercasing) : Json -> Json :=
  KeyRedaction.redact (isSecretKey lowercasing) fun _ => .string redacted

theorem redactData_redacts (lowercasing : Text.Lowercasing) :
    KeyRedaction.Redacts (isSecretKey lowercasing) (redactData lowercasing) :=
  KeyRedaction.redacts _ _

end Audit
end ApexQuant
