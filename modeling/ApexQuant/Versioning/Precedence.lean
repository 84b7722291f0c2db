import ApexQuant.Foundation.Comparisons
import ApexQuant.Versioning.Grammar
import Mathlib.Data.Sum.Order
import Mathlib.Order.WithBot

namespace ApexQuant
namespace Versioning

open Foundation

/-!
# Precedence

`SemVer.compare` over a key that orders all versions, and the rules of Semantic
Versioning 2.0 for which version precedes which.  A numeric identifier is read as an
integer, which the interpreter refuses for a numeral that is too long.
-/

/-- What `_prerelease_identifiers` returns a list of: `str | int`. -/
inductive Identifier where
  | numeric (n : Nat)
  | alphanumeric (text : Text)
  deriving DecidableEq

variable (digits : Text.DecimalDigits)

/-- `int(identifier) if identifier.isdigit() else identifier`, for the characters of an
identifier. -/
def readIdentifier (identifier : Text) : Except SemVerError Identifier :=
  if identifier.all digits.isDigit then do
    let n ← readNumeric digits identifier
    return .numeric n
  else .ok (.alphanumeric identifier)

/-- `numeric_tuple`, which compares like a list. -/
def SemVer.numericTuple (version : SemVer) : List Nat :=
  [version.major, version.minor, version.patch]

/-- `_prerelease_identifiers`. -/
def SemVer.prereleaseIdentifiers (version : SemVer) : Except SemVerError (List Identifier) :=
  match version.prerelease with
  | none => .ok []
  | some prerelease => (List.splitOn '.' prerelease).mapM (readIdentifier digits)

/-- The loop of `compare` over the pairs of identifiers, which returns at the first two that differ. -/
def firstDifference : List (Identifier × Identifier) -> Option Int
  | [] => none
  | (.numeric left, .numeric right) :: rest =>
      if left ≠ right then some (if left < right then -1 else 1) else firstDifference rest
  | (.numeric _, .alphanumeric _) :: _ => some (-1)
  | (.alphanumeric _, .numeric _) :: _ => some 1
  | (.alphanumeric left, .alphanumeric right) :: rest =>
      if left ≠ right then some (if left < right then -1 else 1) else firstDifference rest

/-- The rest of `compare`, for two prereleases. -/
def compareIdentifiers (left right : List Identifier) : Int :=
  match firstDifference (left.zip right) with
  | some difference => difference
  | none => if left.length = right.length then 0 else if left.length < right.length then -1 else 1

/-- `SemVer.compare`. -/
def SemVer.compare (version other : SemVer) : Except SemVerError Int :=
  if version.numericTuple ≠ other.numericTuple then
    .ok (if version.numericTuple < other.numericTuple then -1 else 1)
  else if version.prerelease.isNone && other.prerelease.isNone then .ok 0
  else if version.prerelease.isNone && other.prerelease.isSome then .ok 1
  else if version.prerelease.isSome && other.prerelease.isNone then .ok (-1)
  else do
    let left ← version.prereleaseIdentifiers digits
    let right ← other.prereleaseIdentifiers digits
    return compareIdentifiers left right

example : (SemVer.parse Text.asciiDigits "1.0.0-rc.2".toList >>= fun version =>
    SemVer.parse Text.asciiDigits "1.0.0-rc.11+b".toList >>= fun other =>
      SemVer.compare Text.asciiDigits version other).toOption = some (-1) := by
  decide

/-! ## The rules of Semantic Versioning -/

/-- An identifier of digits alone is numeric. -/
def Identifier.ofText (identifier : Text) : Identifier :=
  if identifier.all Text.asciiDigits.isDigit then .numeric (Text.asciiDigits.number identifier)
  else .alphanumeric identifier

/-- The identifiers of a prerelease, of which a normal version has none. -/
def SemVer.identifiers (version : SemVer) : List Identifier :=
  version.prerelease.elim [] fun prerelease => (List.splitOn '.' prerelease).map Identifier.ofText

/-- Numeric identifiers compare numerically and come before the others, which compare in
ASCII order. -/
inductive Identifier.Precedes : Identifier -> Identifier -> Prop where
  | numerically {m n : Nat} (lower : m < n) : Precedes (.numeric m) (.numeric n)
  | lexically {text text' : Text} (lower : List.Lex (· < ·) text text') :
      Precedes (.alphanumeric text) (.alphanumeric text')
  | mixed (n : Nat) (text : Text) : Precedes (.numeric n) (.alphanumeric text)

/-- The first difference decides, of the numbers first; a prerelease comes before its
normal version, and of two prereleases of one version the first identifiers that differ
decide, or that one has further ones. -/
inductive SemVer.Precedes (version other : SemVer) : Prop where
  | major (lower : version.major < other.major)
  | minor (sameMajor : version.major = other.major) (lower : version.minor < other.minor)
  | patch (sameMajor : version.major = other.major) (sameMinor : version.minor = other.minor)
      (lower : version.patch < other.patch)
  | normal (same : version.numericTuple = other.numericTuple) (prerelease : version.prerelease.isSome = true)
      (normal : other.prerelease = none)
  | identifiers (same : version.numericTuple = other.numericTuple) (prerelease : version.prerelease.isSome = true)
      (prerelease' : other.prerelease.isSome = true)
      (lower : List.Lex Identifier.Precedes version.identifiers other.identifiers)

/-! ## The order of identifiers -/

namespace Identifier

/-- Numbers come before texts. -/
def key : Identifier -> Nat ⊕ₗ Text
  | .numeric n => Sum.inlₗ n
  | .alphanumeric text => Sum.inrₗ text

theorem key_injective : Function.Injective key := by
  intro identifier other same
  cases identifier with
  | numeric n =>
      cases other with
      | numeric m => exact congrArg numeric (Sum.inl.inj same)
      | alphanumeric text => exact absurd same Sum.inl_ne_inr
  | alphanumeric text =>
      cases other with
      | numeric m => exact absurd same Sum.inr_ne_inl
      | alphanumeric text' => exact congrArg alphanumeric (Sum.inr.inj same)

noncomputable instance linearOrder : LinearOrder Identifier :=
  LinearOrder.lift' key key_injective

theorem precedes_iff_lt {identifier other : Identifier} : identifier.Precedes other <-> identifier < other := by
  change _ <-> key identifier < key other
  constructor
  · intro precedes
    cases precedes with
    | numerically lower => exact Sum.Lex.inl_lt_inl_iff.mpr lower
    | lexically lower => exact Sum.Lex.inr_lt_inr_iff.mpr lower
    | mixed n text => exact Sum.Lex.inl_lt_inr n text
  · intro below
    cases identifier with
    | numeric n =>
        cases other with
        | numeric m => exact .numerically (Sum.Lex.inl_lt_inl_iff.mp below)
        | alphanumeric text => exact .mixed n text
    | alphanumeric text =>
        cases other with
        | numeric m => exact absurd below Sum.Lex.not_inr_lt_inl
        | alphanumeric text' => exact .lexically (Sum.Lex.inr_lt_inr_iff.mp below)

end Identifier

theorem firstDifference_cons (left right : Identifier) (rest : List (Identifier × Identifier)) :
    firstDifference ((left, right) :: rest) = if left = right then firstDifference rest else some (threeWay left right) := by
  cases left with
  | numeric n =>
      cases right with
      | numeric m =>
          rcases lt_trichotomy n m with lower | same | higher
          · have below := Identifier.precedes_iff_lt.mp (.numerically lower)
            rw [if_neg below.ne, threeWay_of_lt below, firstDifference, if_pos lower.ne, if_pos lower]
          · rw [same, if_pos rfl, firstDifference, if_neg (by simp)]
          · have above := Identifier.precedes_iff_lt.mp (.numerically higher)
            rw [if_neg above.ne', threeWay_of_gt above, firstDifference, if_pos higher.ne', if_neg higher.not_gt]
      | alphanumeric text =>
          have below := Identifier.precedes_iff_lt.mp (.mixed n text)
          rw [if_neg below.ne, threeWay_of_lt below, firstDifference]
  | alphanumeric text =>
      cases right with
      | numeric m =>
          have above := Identifier.precedes_iff_lt.mp (.mixed m text)
          rw [if_neg above.ne', threeWay_of_gt above, firstDifference]
      | alphanumeric text' =>
          rcases lt_trichotomy text text' with lower | same | higher
          · have below := Identifier.precedes_iff_lt.mp (.lexically lower)
            rw [if_neg below.ne, threeWay_of_lt below, firstDifference, if_pos lower.ne, if_pos lower]
          · rw [same, if_pos rfl, firstDifference, if_neg (by simp)]
          · have above := Identifier.precedes_iff_lt.mp (.lexically higher)
            rw [if_neg above.ne', threeWay_of_gt above, firstDifference, if_pos higher.ne', if_neg higher.not_gt]

/-- Identifiers compare as lists do. -/
theorem compareIdentifiers_eq (left right : List Identifier) : compareIdentifiers left right = threeWay left right := by
  induction left generalizing right with
  | nil =>
      cases right with
      | nil => exact (threeWay_self _).symm
      | cons other later =>
          rw [threeWay_nil_cons, compareIdentifiers, List.zip_nil_left, firstDifference]
          rfl
  | cons identifier rest inductionHypothesis =>
      cases right with
      | nil =>
          rw [threeWay_cons_nil, compareIdentifiers, List.zip_nil_right, firstDifference]
          rfl
      | cons other later =>
          rw [threeWay_cons_cons, compareIdentifiers, List.zip_cons_cons, firstDifference_cons]
          by_cases same : identifier = other
          · rw [if_pos same, if_pos same, ← inductionHypothesis, compareIdentifiers, List.length_cons, List.length_cons]
            simp only [Nat.succ.injEq, Nat.succ_lt_succ_iff]
          · rw [if_neg same, if_neg same]

/-! ## The order of versions -/

/-- The numbers first; a normal version comes after its prereleases. -/
noncomputable def SemVer.precedence (version : SemVer) : List Nat ×ₗ WithTop (List Identifier) :=
  toLex (version.numericTuple, if version.prerelease.isSome then (version.identifiers : WithTop (List Identifier)) else ⊤)

/-- No numeric identifier is too long for `int`. -/
def SemVer.Readable (version : SemVer) : Prop :=
  forall prerelease, version.prerelease = some prerelease -> forall identifier, identifier ∈ List.splitOn '.' prerelease ->
    identifier.all Text.asciiDigits.isDigit = true -> identifier.length ≤ INT_MAX_STR_DIGITS

section

variable {digits}

theorem value_of_isIdentifierChar {c : Char} (accepted : isIdentifierChar c = true) :
    digits.value c = Text.asciiDigits.value c := by
  rw [digits.value_of_ascii c (toNat_of_isIdentifierChar accepted)]
  rfl

/-- An identifier is in ASCII, so it is read in one way. -/
theorem readIdentifier_eq {identifier : Text} (spelled : identifier.all isIdentifierChar = true) :
    readIdentifier digits identifier =
      if identifier.all Text.asciiDigits.isDigit = true ∧ INT_MAX_STR_DIGITS < identifier.length then
        .error .tooManyDigits
      else .ok (Identifier.ofText identifier) := by
  have same : forall c, c ∈ identifier -> digits.value c = Text.asciiDigits.value c :=
    fun c member => value_of_isIdentifierChar (List.all_eq_true.mp spelled c member)
  have numeric : identifier.all digits.isDigit = identifier.all Text.asciiDigits.isDigit := by
    rw [Bool.eq_iff_iff, List.all_eq_true, List.all_eq_true]
    refine forall₂_congr fun c member => ?_
    rw [Text.DecimalDigits.isDigit, Text.DecimalDigits.isDigit, same c member]
  have number : digits.number identifier = Text.asciiDigits.number identifier := by
    refine List.foldl_ext _ _ _ fun total c member => ?_
    rw [same c member]
  unfold readIdentifier Identifier.ofText readNumeric
  rw [numeric, number]
  by_cases allDigits : identifier.all Text.asciiDigits.isDigit = true
  · rw [if_pos allDigits, if_pos allDigits]
    by_cases long : INT_MAX_STR_DIGITS < identifier.length
    · rw [if_pos long, if_pos ⟨allDigits, long⟩]
      rfl
    · rw [if_neg long, if_neg fun both => long both.2]
      rfl
  · rw [if_neg allDigits, if_neg allDigits, if_neg fun both => allDigits both.1]

theorem mapM_readIdentifier {identifiers : List Text}
    (spelled : forall identifier, identifier ∈ identifiers -> identifier.all isIdentifierChar = true)
    (short : forall identifier, identifier ∈ identifiers -> identifier.all Text.asciiDigits.isDigit = true ->
      identifier.length ≤ INT_MAX_STR_DIGITS) :
    identifiers.mapM (readIdentifier digits) = .ok (identifiers.map Identifier.ofText) := by
  induction identifiers with
  | nil => rfl
  | cons identifier rest inductionHypothesis =>
      have first : readIdentifier digits identifier = .ok (Identifier.ofText identifier) := by
        rw [readIdentifier_eq (spelled identifier List.mem_cons_self), if_neg]
        rintro ⟨numeric, long⟩
        exact absurd (short identifier List.mem_cons_self numeric) (by omega)
      rw [List.mapM_cons, first, inductionHypothesis (fun other member => spelled other (List.mem_cons_of_mem _ member))
        fun other member => short other (List.mem_cons_of_mem _ member)]
      rfl

theorem short_of_mapM_readIdentifier {identifiers : List Text} {answer : List Identifier}
    (spelled : forall identifier, identifier ∈ identifiers -> identifier.all isIdentifierChar = true)
    (read : identifiers.mapM (readIdentifier digits) = .ok answer) {identifier : Text} (member : identifier ∈ identifiers)
    (numeric : identifier.all Text.asciiDigits.isDigit = true) : identifier.length ≤ INT_MAX_STR_DIGITS := by
  induction identifiers generalizing answer with
  | nil => exact absurd member List.not_mem_nil
  | cons first rest inductionHypothesis =>
      rw [List.mapM_cons] at read
      rcases Run.ok_of_bind read with ⟨value, readFirst, read⟩
      rcases Run.ok_of_bind read with ⟨values, readRest, _⟩
      rcases List.mem_cons.mp member with same | later
      · subst same
        rw [readIdentifier_eq (spelled identifier List.mem_cons_self)] at readFirst
        by_contra long
        rw [if_pos ⟨numeric, by omega⟩] at readFirst
        cases readFirst
      · exact inductionHypothesis (fun other inside => spelled other (List.mem_cons_of_mem _ inside)) readRest later

/-- A version as `SemVer.parse` returns it. -/
def SemVer.Parsed (digits : Text.DecimalDigits) (version : SemVer) : Prop :=
  Exists fun value => SemVer.parse digits value = .ok version

theorem SemVer.Parsed.spelled {version : SemVer} (parsed : version.Parsed digits) {prerelease : Text}
    (known : version.prerelease = some prerelease) :
    forall identifier, identifier ∈ List.splitOn '.' prerelease -> identifier.all isIdentifierChar = true := by
  intro identifier member
  rcases parsed with ⟨value, parsed⟩
  rcases SemVer.exists_reads parsed with ⟨major, minor, patch, reads⟩
  have accepted := reads.identifiers.1
  rw [known] at accepted
  exact (Bool.and_eq_true_iff.mp (List.all_eq_true.mp accepted identifier member)).2

theorem SemVer.prereleaseIdentifiers_of_readable {version : SemVer} (parsed : version.Parsed digits)
    (readable : version.Readable) : version.prereleaseIdentifiers digits = .ok version.identifiers := by
  unfold SemVer.prereleaseIdentifiers SemVer.identifiers
  cases known : version.prerelease with
  | none => rfl
  | some prerelease => exact mapM_readIdentifier (parsed.spelled known) (readable prerelease known)

theorem SemVer.compare_of_ne {version other : SemVer} (apart : version.numericTuple ≠ other.numericTuple) :
    version.compare digits other = .ok (threeWay version.precedence other.precedence) := by
  unfold SemVer.compare SemVer.precedence
  rw [threeWay_pair, if_pos apart, if_neg apart]
  rcases lt_or_gt_of_ne apart with below | above
  · rw [if_pos below, threeWay_of_lt below]
  · rw [if_neg above.not_gt, threeWay_of_gt above]

/-- A normal version is compared without reading any identifier. -/
theorem SemVer.compare_of_stable {version : SemVer} (stable : version.prerelease = none) (other : SemVer) :
    version.compare digits other = .ok (threeWay version.precedence other.precedence) := by
  by_cases same : version.numericTuple = other.numericTuple
  · unfold SemVer.compare SemVer.precedence
    rw [threeWay_pair, if_neg (not_not.mpr same), if_pos same, stable]
    cases other.prerelease with
    | none => exact congrArg Except.ok (threeWay_self _).symm
    | some prerelease => exact congrArg Except.ok (threeWay_top_coe _).symm
  · exact SemVer.compare_of_ne same

/-- What `compare` answers: the sign of the keys. -/
theorem SemVer.compare_of_readable {version other : SemVer} (parsed : version.Parsed digits)
    (parsed' : other.Parsed digits) (readable : version.Readable) (readable' : other.Readable) :
    version.compare digits other = .ok (threeWay version.precedence other.precedence) := by
  cases prereleased : version.prerelease with
  | none => exact SemVer.compare_of_stable prereleased other
  | some prerelease =>
      by_cases same : version.numericTuple = other.numericTuple
      · unfold SemVer.compare SemVer.precedence
        rw [threeWay_pair, if_neg (not_not.mpr same), if_pos same, prereleased]
        cases other.prerelease with
        | none => exact congrArg Except.ok (threeWay_coe_top _).symm
        | some prerelease' =>
            rw [SemVer.prereleaseIdentifiers_of_readable parsed readable,
              SemVer.prereleaseIdentifiers_of_readable parsed' readable', Option.isSome_some, Option.isSome_some,
              if_pos rfl, if_pos rfl, threeWay_coe_coe, ← compareIdentifiers_eq]
            rfl
      · exact SemVer.compare_of_ne same

/-- A version can be compared with itself only where its identifiers can be read. -/
theorem SemVer.readable_of_compare {version : SemVer} (parsed : version.Parsed digits) {answer : Int}
    (compared : version.compare digits version = .ok answer) : version.Readable := by
  intro prerelease known identifier member numeric
  unfold SemVer.compare at compared
  rw [if_neg (not_not.mpr rfl), known] at compared
  rcases Run.ok_of_bind compared with ⟨identifiers, read, _⟩
  rw [SemVer.prereleaseIdentifiers, known] at read
  exact short_of_mapM_readIdentifier (parsed.spelled known) read member numeric

end

/-! ## The laws of the comparison -/

theorem lt_three_iff {a b c a' b' c' : Nat} :
    [a, b, c] < [a', b', c'] <-> a < a' ∨ (a = a' ∧ b < b') ∨ (a = a' ∧ b = b' ∧ c < c') := by
  simp only [List.cons_lt_cons_iff, List.not_lt_nil, and_false, or_false]
  tauto

theorem lex_precedes_iff {left right : List Identifier} : List.Lex Identifier.Precedes left right <-> left < right := by
  have same : Identifier.Precedes = fun identifier other => identifier < other :=
    funext₂ fun identifier other => propext Identifier.precedes_iff_lt
  rw [same]
  exact Iff.rfl

/-- The rules order the versions as their keys are ordered. -/
theorem SemVer.precedes_iff_lt {version other : SemVer} :
    version.Precedes other <-> version.precedence < other.precedence := by
  rw [SemVer.precedence, SemVer.precedence, Prod.Lex.toLex_lt_toLex]
  dsimp only
  constructor
  · intro precedes
    cases precedes with
    | major lower => exact Or.inl (lt_three_iff.mpr (Or.inl lower))
    | minor same lower => exact Or.inl (lt_three_iff.mpr (Or.inr (Or.inl ⟨same, lower⟩)))
    | patch same same' lower => exact Or.inl (lt_three_iff.mpr (Or.inr (Or.inr ⟨same, same', lower⟩)))
    | normal same prerelease normal =>
        rw [if_pos prerelease, normal, Option.isSome_none, if_neg Bool.false_ne_true]
        exact Or.inr ⟨same, WithTop.coe_lt_top _⟩
    | identifiers same prerelease prerelease' lower =>
        rw [if_pos prerelease, if_pos prerelease']
        exact Or.inr ⟨same, WithTop.coe_lt_coe.mpr (lex_precedes_iff.mp lower)⟩
  · rintro (lower | ⟨same, lower⟩)
    · rcases lt_three_iff.mp lower with lower | ⟨same, lower⟩ | ⟨same, same', lower⟩
      · exact .major lower
      · exact .minor same lower
      · exact .patch same same' lower
    · by_cases prerelease : version.prerelease.isSome = true
      · by_cases prerelease' : other.prerelease.isSome = true
        · rw [if_pos prerelease, if_pos prerelease'] at lower
          exact .identifiers same prerelease prerelease' (lex_precedes_iff.mpr (WithTop.coe_lt_coe.mp lower))
        · exact .normal same prerelease (Option.not_isSome_iff_eq_none.mp prerelease')
      · rw [if_neg prerelease] at lower
        exact absurd lower not_top_lt

/-- Only a normal version has no identifiers. -/
theorem SemVer.identifiers_eq_nil_iff {version : SemVer} : version.identifiers = [] <-> version.prerelease = none := by
  unfold SemVer.identifiers
  cases version.prerelease with
  | none => exact iff_of_true rfl rfl
  | some prerelease =>
      refine iff_of_false ?_ nofun
      exact fun empty => List.splitOn_ne_nil '.' prerelease (List.map_eq_nil_iff.mp empty)

theorem SemVer.precedence_eq_iff {version other : SemVer} :
    version.precedence = other.precedence <->
      version.numericTuple = other.numericTuple ∧ version.identifiers = other.identifiers := by
  rw [SemVer.precedence, SemVer.precedence, toLex_inj, Prod.mk.injEq]
  refine and_congr_right fun _ => ?_
  cases prerelease : version.prerelease with
  | none =>
      have empty := SemVer.identifiers_eq_nil_iff.mpr prerelease
      cases prerelease' : other.prerelease with
      | none => exact iff_of_true rfl (empty.trans (SemVer.identifiers_eq_nil_iff.mpr prerelease').symm)
      | some text =>
          refine iff_of_false WithTop.top_ne_coe fun same => ?_
          rw [SemVer.identifiers_eq_nil_iff.mp (same.symm.trans empty)] at prerelease'
          cases prerelease'
  | some text =>
      cases prerelease' : other.prerelease with
      | none =>
          refine iff_of_false WithTop.coe_ne_top fun same => ?_
          rw [SemVer.identifiers_eq_nil_iff.mp (same.trans (SemVer.identifiers_eq_nil_iff.mpr prerelease'))] at prerelease
          cases prerelease
      | some text' => exact WithTop.coe_inj

/-- What `compare` has to be on some versions: a total preorder that the identifiers and
the numbers decide, build metadata does not, and the rules describe. -/
structure SemVer.ComparesByPrecedence (digits : Text.DecimalDigits) (versions : Set SemVer) : Prop where
  reflexive : forall version, version ∈ versions -> version.compare digits version = .ok 0
  antisymmetric : forall version other, version ∈ versions -> other ∈ versions -> Exists fun answer : Int =>
    version.compare digits other = .ok answer ∧ other.compare digits version = .ok (-answer)
  transitive : forall version other third, version ∈ versions -> other ∈ versions -> third ∈ versions ->
    forall first second : Int, version.compare digits other = .ok first -> first ≤ 0 ->
      other.compare digits third = .ok second -> second ≤ 0 ->
        Exists fun answer : Int => version.compare digits third = .ok answer ∧ answer ≤ 0
  equal : forall version other, version ∈ versions -> other ∈ versions -> (version.compare digits other = .ok 0 <->
    version.numericTuple = other.numericTuple ∧ version.identifiers = other.identifiers)
  build : forall version other, version ∈ versions -> other ∈ versions -> forall metadata metadata',
    SemVer.compare digits { version with build := metadata } { other with build := metadata' } =
      version.compare digits other
  rules : forall version other, version ∈ versions -> other ∈ versions ->
    (version.compare digits other = .ok (-1) <-> version.Precedes other) ∧
      (version.compare digits other = .ok 1 <-> other.Precedes version)

/-- The laws hold of any versions whose numeric identifiers can be read, and of no others. -/
theorem SemVer.compares_by_precedence_iff (digits : Text.DecimalDigits) (versions : Set SemVer)
    (parsed : forall version, version ∈ versions -> version.Parsed digits) :
    SemVer.ComparesByPrecedence digits versions <-> forall version, version ∈ versions -> version.Readable := by
  constructor
  · intro laws version member
    exact SemVer.readable_of_compare (parsed version member) (laws.reflexive version member)
  · intro readable
    have compared : forall version other, version ∈ versions -> other ∈ versions ->
        version.compare digits other = .ok (threeWay version.precedence other.precedence) :=
      fun version other member member' => SemVer.compare_of_readable (parsed version member) (parsed other member')
        (readable version member) (readable other member')
    refine ⟨?_, ?_, ?_, ?_, fun _ _ _ _ _ _ => rfl, ?_⟩
    · intro version member
      rw [compared version version member member, threeWay_self]
    · intro version other member member'
      refine ⟨_, compared version other member member', ?_⟩
      rw [compared other version member' member, threeWay_swap]
    · intro version other third member member' member'' first second known below known' below'
      refine ⟨_, compared version third member member'', threeWay_nonpos_iff.mpr ?_⟩
      rw [compared version other member member'] at known
      rw [compared other third member' member''] at known'
      rw [← Except.ok.inj known] at below
      rw [← Except.ok.inj known'] at below'
      exact (threeWay_nonpos_iff.mp below).trans (threeWay_nonpos_iff.mp below')
    · intro version other member member'
      rw [compared version other member member', Except.ok.injEq, threeWay_eq_zero_iff, SemVer.precedence_eq_iff]
    · intro version other member member'
      rw [compared version other member member', Except.ok.injEq, Except.ok.injEq, SemVer.precedes_iff_lt,
        SemVer.precedes_iff_lt, threeWay_eq_neg_one_iff, threeWay_eq_one_iff]
      exact ⟨Iff.rfl, Iff.rfl⟩

theorem two_prereleases_compare :
    SemVer.ComparesByPrecedence Text.asciiDigits
      { version | version.prerelease ∈ [some "alpha".toList, some "alpha.1".toList] ∧
        version.numericTuple = [1, 0, 0] ∧ version.build = none } := by
  refine (SemVer.compares_by_precedence_iff Text.asciiDigits _ ?_).mpr ?_
  · rintro ⟨major, minor, patch, prerelease, build⟩ ⟨listed, numbers, built⟩
    simp only [SemVer.numericTuple, List.cons.injEq, and_true] at numbers
    rcases numbers with ⟨rfl, rfl, rfl⟩
    dsimp only at built listed
    subst built
    simp only [List.mem_cons, List.not_mem_nil, or_false] at listed
    rcases listed with rfl | rfl
    · exact ⟨"1.0.0-alpha".toList, rfl⟩
    · exact ⟨"1.0.0-alpha.1".toList, rfl⟩
  · rintro version ⟨listed, _⟩ prerelease known identifier member _
    have short : prerelease ∈ ["alpha".toList, "alpha.1".toList] := by
      rw [known] at listed
      simpa using listed
    have bounded : forall text, text ∈ ["alpha".toList, "alpha.1".toList] -> forall piece, piece ∈ List.splitOn '.' text ->
        piece.length ≤ INT_MAX_STR_DIGITS := by
      decide
    exact bounded prerelease short identifier member

/-- A numeric identifier of 4301 digits. -/
def longIdentifier : Text :=
  List.replicate (INT_MAX_STR_DIGITS + 1) '1'

theorem splitOn_longIdentifier : List.splitOn '.' longIdentifier = [longIdentifier] := by
  refine List.splitOn_eq_singleton fun member => ?_
  exact absurd (List.eq_of_mem_replicate member) (by decide)

/-- A version that is accepted and cannot be compared with itself. -/
theorem long_identifier_is_not_compared :
    SemVer.Parsed Text.asciiDigits
        { major := 1, minor := 0, patch := 0, prerelease := some longIdentifier, build := none } ∧
      ¬SemVer.ComparesByPrecedence Text.asciiDigits
        {{ major := 1, minor := 0, patch := 0, prerelease := some longIdentifier, build := none }} := by
  have solid : forall c, c ∈ spell ['1'] ['0'] ['0'] (some longIdentifier) none -> Text.isSpace c = false := by
    intro c member
    rcases mem_joinAt member with versioned | same | ⟨rest, known, _⟩
    · rcases mem_joinAt versioned with core | same | ⟨rest, known, inside⟩
      · have all : (List.intercalate ['.'] [['1'], ['0'], ['0']]).all (fun c => !Text.isSpace c) = true := by decide
        simpa using List.all_eq_true.mp all c core
      · rw [same]
        decide
      · rw [← Option.some.inj known] at inside
        rw [List.eq_of_mem_replicate inside]
        decide
    · rw [same]
      decide
    · cases known
  have accepted : (some longIdentifier).all isIdentifiers = true := by
    rw [Option.all_some, isIdentifiers, splitOn_longIdentifier, List.all_cons, List.all_nil, Bool.and_true]
    refine Bool.and_eq_true_iff.mpr ⟨?_, List.all_eq_true.mpr fun c member => ?_⟩
    · rw [longIdentifier, List.replicate_succ]
      rfl
    · rw [List.eq_of_mem_replicate member]
      decide
  have found : Matches Text.asciiDigits (Text.strip (spell ['1'] ['0'] ['0'] (some longIdentifier) none)) ['1'] ['0'] ['0']
      (some longIdentifier) none :=
    { shape := Text.strip_eq_self _ solid
      core := by decide
      prereleased := accepted
      built := rfl }
  have parsed : SemVer.Parsed Text.asciiDigits
      { major := 1, minor := 0, patch := 0, prerelease := some longIdentifier, build := none } :=
    ⟨spell ['1'] ['0'] ['0'] (some longIdentifier) none, SemVer.parse_of_readable found (by simp [ReadableNumbers, INT_MAX_STR_DIGITS])⟩
  refine ⟨parsed, fun laws => ?_⟩
  have readable := SemVer.readable_of_compare parsed (laws.reflexive _ rfl) longIdentifier rfl longIdentifier
    (by rw [splitOn_longIdentifier]; exact List.mem_cons_self)
    (List.all_eq_true.mpr fun c member => by rw [List.eq_of_mem_replicate member]; decide)
  rw [longIdentifier, List.length_replicate] at readable
  exact absurd readable (Nat.not_succ_le_self _)

end Versioning
end ApexQuant
