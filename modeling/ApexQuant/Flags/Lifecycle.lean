import ApexQuant.Flags.Registry

namespace ApexQuant
namespace Flags

open Foundation

/-!
# The flag lifecycle

    DRAFT -> ACTIVE -> DISABLED -> RETIRED (terminal)
-/

/-- `_TRANSITIONS`. -/
def TRANSITIONS : FlagStatus -> List FlagStatus
  | .draft => [.active]
  | .active => [.disabled, .retired]
  | .disabled => [.active, .retired]
  | .retired => []

/-- `InvalidTransitionError`. -/
structure InvalidTransitionError where
  current : FlagStatus
  target : FlagStatus
  deriving DecidableEq, Repr

/-- `assert_transition`. -/
def assertTransition (current target : FlagStatus) : Except InvalidTransitionError Unit :=
  if target ∈ TRANSITIONS current then .ok () else .error { current := current, target := target }

/-- No transition stays where it is. -/
theorem not_mem_transitions_self (status : FlagStatus) : status ∉ TRANSITIONS status := by
  cases status <;> decide

end Flags
end ApexQuant
