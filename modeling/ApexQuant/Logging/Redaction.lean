import ApexQuant.Audit.Redaction

namespace ApexQuant
namespace Logging

open Foundation

/-!
# What the log formatter hides

`is_secret_key` and `redact_json` of `apex-logging`.  The formatter redacts the fields of
an event before it writes the line.  Only the ASCII letters of a key are folded.
-/

def secretKeyMarkers : List Text :=
  ["password".toList, "secret".toList, "token".toList, "api_key".toList, "apikey".toList, "private_key".toList,
    "credential".toList, "access_key".toList, "authorization".toList]

/-- `is_secret_key`. -/
def isSecretKey : Text -> Bool :=
  KeyRedaction.marked secretKeyMarkers Text.asciiLowercasing

example : isSecretKey "postgres_Password".toList = true ∧ isSecretKey "service_name".toList = false := by decide +kernel

/-- `redact_json`. -/
def redactJson : Json -> Json :=
  KeyRedaction.redact isSecretKey fun _ => .string "[REDACTED]".toList

/-- Both redactors hide all values under secret keys, at every depth, and no other leaf. -/
theorem redaction_sound (lowercasing : Text.Lowercasing) :
    KeyRedaction.Redacts (Audit.isSecretKey lowercasing) (Audit.redactData lowercasing) ∧
      KeyRedaction.Redacts isSecretKey redactJson :=
  ⟨Audit.redactData_redacts lowercasing, KeyRedaction.redacts _ _⟩

end Logging
end ApexQuant
