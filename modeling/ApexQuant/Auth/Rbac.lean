import ApexQuant.Foundation.Text
import ApexQuant.Foundation.SegmentPatterns

namespace ApexQuant
namespace Auth

open Foundation
open Foundation.Text

/-!
# The two RBAC evaluators

`rbac.py` and the crate `apex-rbac` read one matrix, `forbidden_matrix.yaml`,
and implement the same checks over it.  Both are embedded here under the names
of their sources.  The shared loop over segments is `SegmentPattern.covers` at
the wildcard segment; everything that differs between the two programs (where
the global wildcard is read from, how a character is classified) keeps a
definition of its own.
-/

/-- `GLOBAL_WILDCARD` and `SEGMENT_WILDCARD` are the same text. -/
def wildcard : Text := ['*']

/-- `EvaluationStatus` of both programs. -/
inductive EvaluationStatus where
  | granted
  | unprovisioned
  | invariantViolation
  deriving DecidableEq, Repr

/-- `InvalidPermissionError` and `RbacInvariantError`, with their texts. -/
inductive RbacError where
  | invalidPermission (permission : Text)
  | invariant (message : Text)
  deriving DecidableEq, Repr

/-- The `grammar` section of the matrix.  `segments` is the pair of least and
greatest segment counts of a non-global permission. -/
structure Grammar where
  minSegments : Nat
  maxSegments : Nat
  globalWildcard : Text

/-- The sections of `forbidden_matrix.yaml` that the evaluators read. -/
structure Matrix where
  grammar : Grammar
  forbidden : List (Text × List Text)
  restrictedPlanes : List Text

/-- The shipped matrix. -/
def forbiddenMatrix : Matrix where
  grammar := { minSegments := 2, maxSegments := 3, globalWildcard := "*".toList }
  forbidden :=
    [("AI".toList, ["broker:*".toList, "execution:*".toList, "kill_switch:*".toList]),
      ("DATA_RESEARCH".toList, ["broker:*".toList, "execution:*".toList, "kill_switch:*".toList])]
  restrictedPlanes := ["AI".toList, "DATA_RESEARCH".toList]

/-! ## `rbac.py` -/

namespace Rbac

def forbiddenPatterns (rbac : Matrix) (plane : Text) : List Text :=
  (rbac.forbidden.lookup plane).getD []

def isRestricted (rbac : Matrix) (plane : Text) : Bool :=
  plane ∈ rbac.restrictedPlanes

/-- The characters of `set("abcdefghijklmnopqrstuvwxyz0123456789_-")`. -/
def allowed (c : Char) : Bool :=
  c ∈ "abcdefghijklmnopqrstuvwxyz0123456789_-".toList

/-- A non-empty segment of allowed characters. -/
def word (segment : Text) : Bool :=
  !segment.isEmpty && segment.all allowed

/-- `validate_permission`. -/
def validatePermission (fold : Lowercasing) (rbac : Matrix) (perm : Text) : Except RbacError Unit :=
  if perm = wildcard then .ok ()
  else if perm = [] then .error (.invalidPermission perm)
  else if perm ≠ fold.lower perm then .error (.invalidPermission perm)
  else
    let segs := List.splitOn ':' perm
    if ¬ (rbac.grammar.minSegments ≤ segs.length ∧ segs.length ≤ rbac.grammar.maxSegments) then
      .error (.invalidPermission perm)
    else if segs.all (fun seg => decide (seg = wildcard) || word seg) then .ok ()
    else .error (.invalidPermission perm)

/-- `covers`. -/
def covers (pattern target : Text) : Bool :=
  if pattern = wildcard then true
  else SegmentPattern.covers wildcard (List.splitOn ':' pattern) (List.splitOn ':' target)

/-- `overlaps`. -/
def overlaps (a b : Text) : Bool :=
  covers a b || covers b a

/-- `evaluate`. -/
def evaluate (rbac : Matrix) (plane : Text) (permissions : List Text) (hasRoles : Bool) : EvaluationStatus :=
  if !hasRoles then .unprovisioned
  else if isRestricted rbac plane &&
      permissions.any (fun g => decide (g = wildcard) || (forbiddenPatterns rbac plane).any (overlaps g)) then
    .invariantViolation
  else .granted

/-- `authorize`: deny overrides allow on a restricted plane. -/
def authorize (rbac : Matrix) (plane : Text) (granted : List Text) (request : Text) : Bool :=
  if isRestricted rbac plane && (forbiddenPatterns rbac plane).any (fun d => covers d request) then false
  else granted.any (fun g => covers g request)

/-- `validate_grant`, the grant-time layer. -/
def validateGrant (fold : Lowercasing) (rbac : Matrix) (plane permission : Text) : Except RbacError Unit := do
  validatePermission fold rbac permission
  if isRestricted rbac plane then
    if permission = wildcard then
      .error (.invariant ("global wildcard cannot be granted to plane ".toList ++ plane))
    else if (forbiddenPatterns rbac plane).any (overlaps permission) then
      .error (.invariant
        ("permission '".toList ++ permission ++ "' is forbidden for plane ".toList ++ plane))
    else .ok ()
  else .ok ()

end Rbac

/-! ## The crate `apex-rbac` -/

namespace ApexRbac

def isRestricted (matrix : Matrix) (plane : Text) : Bool :=
  matrix.restrictedPlanes.any (fun p => decide (p = plane))

def forbiddenPatterns (matrix : Matrix) (plane : Text) : List Text :=
  (matrix.forbidden.lookup plane).getD []

/-- `c.is_ascii_lowercase() || c.is_ascii_digit() || c == '_' || c == '-'`. -/
def allowed (c : Char) : Bool :=
  (decide ('a' ≤ c) && decide (c ≤ 'z')) || (decide ('0' ≤ c) && decide (c ≤ '9')) || c == '_' || c == '-'

/-- `validate_permission`. -/
def validatePermission (fold : Lowercasing) (matrix : Matrix) (perm : Text) : Except RbacError Unit :=
  if perm = matrix.grammar.globalWildcard then .ok ()
  else if perm.isEmpty then .error (.invalidPermission perm)
  else if perm ≠ fold.lower perm then .error (.invalidPermission perm)
  else
    let segs := List.splitOn ':' perm
    if segs.length < matrix.grammar.minSegments ∨ segs.length > matrix.grammar.maxSegments then
      .error (.invalidPermission perm)
    else if segs.all (fun seg => decide (seg = "*".toList) || (!seg.isEmpty && seg.all allowed)) then .ok ()
    else .error (.invalidPermission perm)

/-- `covers`. -/
def covers (pattern target : Text) : Bool :=
  if pattern = "*".toList then true
  else SegmentPattern.covers "*".toList (List.splitOn ':' pattern) (List.splitOn ':' target)

/-- `overlaps`. -/
def overlaps (a b : Text) : Bool :=
  covers a b || covers b a

/-- `evaluate`. -/
def evaluate (matrix : Matrix) (plane : Text) (permissions : List Text) (hasRoles : Bool) : EvaluationStatus :=
  if !hasRoles then .unprovisioned
  else if isRestricted matrix plane &&
      permissions.any (fun g =>
        decide (g = matrix.grammar.globalWildcard) || (forbiddenPatterns matrix plane).any (overlaps g)) then
    .invariantViolation
  else .granted

end ApexRbac

/-! ## One interface for both -/

/-- What the two programs expose to a caller that grants permissions. -/
structure PermissionEngine where
  admits : Text -> Bool
  covers : Text -> Text -> Bool
  overlaps : Text -> Text -> Bool
  evaluate : Text -> List Text -> Bool -> EvaluationStatus
  isRestricted : Text -> Bool
  forbiddenPatterns : Text -> List Text

inductive Implementation where
  | python
  | rust
  deriving DecidableEq, Repr

/-- Either program on the shipped matrix.  `admits` says that
`validate_permission` returns normally. -/
def engine (fold : Lowercasing) : Implementation -> PermissionEngine
  | .python =>
      { admits := fun perm => (Rbac.validatePermission fold forbiddenMatrix perm).isOk
        covers := Rbac.covers
        overlaps := Rbac.overlaps
        evaluate := Rbac.evaluate forbiddenMatrix
        isRestricted := Rbac.isRestricted forbiddenMatrix
        forbiddenPatterns := Rbac.forbiddenPatterns forbiddenMatrix }
  | .rust =>
      { admits := fun perm => (ApexRbac.validatePermission fold forbiddenMatrix perm).isOk
        covers := ApexRbac.covers
        overlaps := ApexRbac.overlaps
        evaluate := ApexRbac.evaluate forbiddenMatrix
        isRestricted := ApexRbac.isRestricted forbiddenMatrix
        forbiddenPatterns := ApexRbac.forbiddenPatterns forbiddenMatrix }

/-! ## What the checks decide -/

/-- The grammar both validators implement: the global wildcard, or two to three
segments each of which is the wildcard or a word. -/
def wellFormed (perm : Text) : Bool :=
  decide (perm = wildcard) ||
    (decide (2 ≤ (List.splitOn ':' perm).length) && decide ((List.splitOn ':' perm).length ≤ 3) &&
      (List.splitOn ':' perm).all (fun seg => decide (seg = wildcard) || Rbac.word seg))

/-- A request as callers make it: two to three words, no wildcard. -/
def concreteRequest (request : Text) : Bool :=
  decide (2 ≤ (List.splitOn ':' request).length) && decide ((List.splitOn ':' request).length ≤ 3) &&
    (List.splitOn ':' request).all Rbac.word

theorem allowed_plain {c : Char} (accepted : Rbac.allowed c = true) : c.toNat < 128 ∧ c.isUpper = false := by
  have table : ("abcdefghijklmnopqrstuvwxyz0123456789_-".toList.all
      fun d => decide (d.toNat < 128 ∧ d.isUpper = false)) = true := by decide
  exact of_decide_eq_true (List.all_eq_true.mp table c (of_decide_eq_true accepted))

/-- The range tests of the crate and the character set of the module select the
same characters. -/
theorem allowed_eq (c : Char) : ApexRbac.allowed c = Rbac.allowed c := by
  have table : forall n, n < 128 -> ApexRbac.allowed (Char.ofNat n) = Rbac.allowed (Char.ofNat n) := by
    decide +kernel
  by_cases small : c.toNat < 128
  · simpa only [Char.ofNat_toNat] using table c.toNat small
  · have outside : Rbac.allowed c = false := by
      cases accepted : Rbac.allowed c with
      | false => rfl
      | true => exact absurd (allowed_plain accepted).1 small
    rw [outside]
    have large : forall d : Char, d.toNat < 128 -> ¬ c ≤ d := by
      intro d bound below
      exact small (Nat.lt_of_le_of_lt below bound)
    have different : forall d : Char, d.toNat < 128 -> (c == d) = false := by
      intro d bound
      refine beq_eq_false_iff_ne.mpr (fun equal => small (equal ▸ bound))
    simp only [ApexRbac.allowed, decide_eq_false (large 'z' (by decide)), decide_eq_false (large '9' (by decide)),
      different '_' (by decide), different '-' (by decide), Bool.and_false, Bool.or_false]

/-- A text built from wildcards and words is already case-folded, in whatever
way the language folds. -/
theorem lower_of_segments (fold : Lowercasing) (perm : Text)
    (segments : (List.splitOn ':' perm).all (fun seg => decide (seg = wildcard) || Rbac.word seg) = true) :
    perm = fold.lower perm := by
  symm
  apply fold.lower_of_plain
  intro c member
  rcases mem_of_splitOn ':' member with colon | ⟨piece, listed, inside⟩
  · subst c
    decide
  · have accepted := List.all_eq_true.mp segments piece listed
    rcases Bool.or_eq_true_iff.mp accepted with star | plain
    · rw [of_decide_eq_true star, wildcard, List.mem_singleton] at inside
      subst c
      decide
    · exact allowed_plain (List.all_eq_true.mp (Bool.and_eq_true_iff.mp plain).2 c inside)

theorem validatePermission_isOk (fold : Lowercasing) (perm : Text) :
    (Rbac.validatePermission fold forbiddenMatrix perm).isOk = wellFormed perm := by
  unfold Rbac.validatePermission wellFormed
  by_cases whole : perm = wildcard
  · rw [if_pos whole, decide_eq_true whole]
    rfl
  · rw [if_neg whole, decide_eq_false whole, Bool.false_or]
    by_cases empty : perm = []
    · subst perm
      rfl
    · rw [if_neg empty]
      cases segments : (List.splitOn ':' perm).all (fun seg => decide (seg = wildcard) || Rbac.word seg) with
      | true =>
          rw [if_neg (not_not_intro (lower_of_segments fold perm segments))]
          by_cases sized : 2 ≤ (List.splitOn ':' perm).length ∧ (List.splitOn ':' perm).length ≤ 3
          · simp [forbiddenMatrix, sized, segments, Except.isOk, Except.toBool]
          · simp only [forbiddenMatrix, sized, not_false_eq_true, if_true, Bool.and_true]
            rw [← Bool.decide_and, decide_eq_false sized]
            rfl
      | false =>
          -- Whichever test raises first, the verdict is the same.
          rw [Bool.and_false]
          split
          · rfl
          · dsimp only
            split
            · rfl
            · simp [segments, Except.isOk, Except.toBool]

theorem apexValidatePermission_eq (fold : Lowercasing) (perm : Text) :
    ApexRbac.validatePermission fold forbiddenMatrix perm = Rbac.validatePermission fold forbiddenMatrix perm := by
  have words : (fun seg : Text => decide (seg = "*".toList) || (!seg.isEmpty && seg.all ApexRbac.allowed)) =
      (fun seg => decide (seg = wildcard) || Rbac.word seg) := by
    funext seg
    have sameTest : ApexRbac.allowed = Rbac.allowed := funext allowed_eq
    rw [sameTest]
    rfl
  unfold ApexRbac.validatePermission Rbac.validatePermission
  rw [words]
  have whole : forbiddenMatrix.grammar.globalWildcard = wildcard := by decide
  simp only [whole, List.isEmpty_iff, not_and_or, Nat.not_le, gt_iff_lt]

theorem covers_eq (pattern target : Text) :
    Rbac.covers pattern target =
      SegmentPattern.covers wildcard (List.splitOn ':' pattern) (List.splitOn ':' target) := by
  by_cases whole : pattern = wildcard
  · subst pattern
    exact (SegmentPattern.covers_wildcard _).symm
  · rw [Rbac.covers, if_neg whole]

theorem apexCovers_eq : ApexRbac.covers = Rbac.covers := by
  have star : "*".toList = wildcard := by decide
  funext pattern target
  rw [ApexRbac.covers, Rbac.covers, star]

theorem apexOverlaps_eq : ApexRbac.overlaps = Rbac.overlaps := by
  funext a b
  rw [ApexRbac.overlaps, Rbac.overlaps, apexCovers_eq]

theorem apexIsRestricted_eq (matrix : Matrix) : ApexRbac.isRestricted matrix = Rbac.isRestricted matrix := by
  funext plane
  simp [ApexRbac.isRestricted, Rbac.isRestricted, List.any_eq]

theorem apexEvaluate_eq : ApexRbac.evaluate forbiddenMatrix = Rbac.evaluate forbiddenMatrix := by
  have whole : forbiddenMatrix.grammar.globalWildcard = wildcard := by decide
  funext plane permissions hasRoles
  rw [ApexRbac.evaluate, Rbac.evaluate, apexOverlaps_eq, apexIsRestricted_eq, whole]
  rfl

/-- The two programs expose one engine, so a result about either is a result
about both. -/
theorem engine_eq (fold : Lowercasing) (implementation : Implementation) :
    engine fold implementation = engine fold .python := by
  cases implementation with
  | python => rfl
  | rust =>
      unfold engine
      rw [funext (apexValidatePermission_eq fold), apexCovers_eq, apexOverlaps_eq, apexEvaluate_eq,
        apexIsRestricted_eq]
      rfl

/-! ## Coverage is containment -/

theorem length_le_of_wellFormed {perm : Text} (valid : wellFormed perm = true) :
    (List.splitOn ':' perm).length ≤ 3 := by
  rw [wellFormed, Bool.or_eq_true, Bool.and_eq_true, Bool.and_eq_true, decide_eq_true_eq, decide_eq_true_eq] at valid
  rcases valid with whole | ⟨⟨_, short⟩, _⟩
  · rw [whole]
    decide
  · exact of_decide_eq_true short

theorem two_le_length_of_concrete {request : Text} (valid : wellFormed request = true)
    (concrete : wildcard ∉ List.splitOn ':' request) : 2 ≤ (List.splitOn ':' request).length := by
  rw [wellFormed, Bool.or_eq_true, Bool.and_eq_true, Bool.and_eq_true, decide_eq_true_eq, decide_eq_true_eq] at valid
  rcases valid with whole | ⟨⟨long, _⟩, _⟩
  · rw [whole] at concrete
    exact absurd (by decide) concrete
  · exact long

/-- A valid pattern reaches every concrete request that a pattern it covers reaches, covers
itself, and is read alike by both programs. -/
theorem covers_contains (fold : Lowercasing) (implementation : Implementation) :
    (forall pattern middle request,
      (engine fold implementation).admits pattern = true -> (engine fold implementation).admits middle = true ->
      (engine fold implementation).admits request = true -> wildcard ∉ List.splitOn ':' request ->
      (engine fold implementation).covers pattern middle = true ->
      (engine fold implementation).covers middle request = true ->
        (engine fold implementation).covers pattern request = true) ∧
    (forall pattern, (engine fold implementation).admits pattern = true ->
      (engine fold implementation).covers pattern pattern = true) ∧
    forall pattern target, ApexRbac.covers pattern target = Rbac.covers pattern target := by
  rw [engine_eq]
  have admits (perm : Text) : (engine fold .python).admits perm = wellFormed perm := validatePermission_isOk fold perm
  have covers (pattern target : Text) : (engine fold .python).covers pattern target =
      SegmentPattern.covers wildcard (List.splitOn ':' pattern) (List.splitOn ':' target) := covers_eq pattern target
  refine ⟨?_, ?_, fun pattern target => congrFun (congrFun apexCovers_eq pattern) target⟩
  · intro pattern middle request valid _ valid' concrete first second
    rw [admits] at valid valid'
    rw [covers] at first second ⊢
    have short := length_le_of_wellFormed valid
    have long := two_le_length_of_concrete valid' concrete
    exact SegmentPattern.covers_trans first second (by omega)
  · intro pattern _
    rw [covers]
    exact SegmentPattern.covers_self _

/-- A deny pattern for all of the broker reaches an order that a narrower one names. -/
theorem covers_contains_broker_orders :
    (engine asciiLowercasing .rust).covers "broker:*".toList "broker:order:place".toList = true :=
  (covers_contains asciiLowercasing .rust).1 "broker:*".toList "broker:order:*".toList "broker:order:place".toList
    (by decide +kernel) (by decide +kernel) (by decide +kernel) (by decide +kernel) (by decide +kernel)
    (by decide +kernel)

end Auth
end ApexQuant
