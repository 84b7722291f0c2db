import ApexQuant.Foundation.Text

namespace ApexQuant
namespace Versioning

open Foundation

/-!
# Semantic versions

`SemVer.parse`.  The pattern has one way to match: build metadata follows the
first plus sign, a prerelease follows the first hyphen before it, and what is left
is the numeric core.
-/

/-- `SemVer`. -/
structure SemVer where
  major : Nat
  minor : Nat
  patch : Nat
  prerelease : Option Text
  build : Option Text
  deriving DecidableEq

inductive SemVerError where
  | invalid (value : Text)
  /-- `int` refuses a numeral of more digits than the interpreter's limit. -/
  | tooManyDigits
  deriving DecidableEq

/-- The default of `sys.get_int_max_str_digits`. -/
def INT_MAX_STR_DIGITS : Nat := 4300

/-- `0|[1-9]\d*`. -/
def isNumericPart (digits : Text.DecimalDigits) : Text -> Bool
  | [] => false
  | first :: rest =>
      (first == '0' && rest.isEmpty) ||
        (decide (49 ≤ first.toNat ∧ first.toNat ≤ 57) && rest.all digits.isDigit)

/-- `[0-9A-Za-z-]`. -/
def isIdentifierChar (c : Char) : Bool :=
  c.isAlphanum || c == '-'

/-- `[0-9A-Za-z-]+(?:\.[0-9A-Za-z-]+)*`. -/
def isIdentifiers (text : Text) : Bool :=
  (List.splitOn '.' text).all fun identifier => !identifier.isEmpty && identifier.all isIdentifierChar

/-- The text before the first separator, and the text after it if there is one. -/
def cutAt (separator : Char) (text : Text) : Text × Option Text :=
  let before := text.takeWhile fun c => decide (c ≠ separator)
  match text.dropWhile fun c => decide (c ≠ separator) with
  | [] => (before, none)
  | _ :: rest => (before, some rest)

/-- `int(match.group(...))`. -/
def readNumeric (digits : Text.DecimalDigits) (text : Text) : Except SemVerError Nat :=
  if INT_MAX_STR_DIGITS < text.length then .error .tooManyDigits else .ok (digits.number text)

/-- `SemVer.parse`. -/
def SemVer.parse (digits : Text.DecimalDigits) (value : Text) : Except SemVerError SemVer :=
  let (versioned, build) := cutAt '+' (Text.strip value)
  let (core, prerelease) := cutAt '-' versioned
  match List.splitOn '.' core with
  | [major, minor, patch] =>
      if isNumericPart digits major && isNumericPart digits minor && isNumericPart digits patch &&
          prerelease.all isIdentifiers && build.all isIdentifiers then do
        let major ← readNumeric digits major
        let minor ← readNumeric digits minor
        let patch ← readNumeric digits patch
        return { major := major, minor := minor, patch := patch, prerelease := prerelease, build := build }
      else .error (.invalid value)
  | _ => .error (.invalid value)

/-- `is_stable`. -/
def SemVer.isStable (version : SemVer) : Bool :=
  version.prerelease.isNone

example : (SemVer.parse Text.asciiDigits " 1.20.3-rc.1+b-7 ".toList).toOption =
    some { major := 1, minor := 20, patch := 3, prerelease := some "rc.1".toList, build := some "b-7".toList } := by
  decide

end Versioning
end ApexQuant
