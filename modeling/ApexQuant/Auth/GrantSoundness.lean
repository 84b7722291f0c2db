import ApexQuant.Auth.Rbac

namespace ApexQuant
namespace Auth

open Foundation
open Foundation.Text

/-!
# Grant-time soundness of the forbidden matrix

The grant-time layer refuses a permission that `overlaps` a forbidden pattern.
The law it is meant to enforce concerns requests: nothing that a restricted
plane is granted may reach a request that the matrix forbids.  `overlaps` asks
whether one pattern covers the other, which is weaker than asking whether the
two reach a common request.  The gap is exactly the crossing pairs of patterns,
and on the shipped matrix it is exactly a leading wildcard segment: `*:read`
passes the check on the AI plane and still reaches `execution:read`.
-/

/-- Each pattern leaves a place open that the other one fills in. -/
def crossing (a b : Text) : Bool :=
  SegmentPattern.compatible wildcard (List.splitOn ':' a) (List.splitOn ':' b) &&
    SegmentPattern.exceeds wildcard (List.splitOn ':' a) (List.splitOn ':' b) &&
    SegmentPattern.exceeds wildcard (List.splitOn ':' b) (List.splitOn ':' a)

/-! ## Requests as lists of words -/

theorem word_ne_wildcard {segment : Text} (plain : Rbac.word segment = true) : segment ≠ wildcard := by
  intro equal
  subst segment
  exact absurd plain (by decide)

theorem word_colonFree {segment : Text} (plain : Rbac.word segment = true) : ':' ∉ segment := by
  intro member
  have accepted := List.all_eq_true.mp (Bool.and_eq_true_iff.mp plain).2 ':' member
  exact absurd accepted (by decide)

theorem wildcard_not_mem_of_concrete {request : Text} (concrete : concreteRequest request = true) :
    wildcard ∉ List.splitOn ':' request := by
  intro member
  have words := (Bool.and_eq_true_iff.mp concrete).2
  exact word_ne_wildcard (List.all_eq_true.mp words wildcard member) rfl

/-- The segments of an admitted permission. -/
theorem segments_of_wellFormed {perm : Text} (admitted : wellFormed perm = true) :
    (List.splitOn ':' perm).length ≤ 3 ∧
      forall segment, segment ∈ List.splitOn ':' perm -> segment ≠ wildcard -> Rbac.word segment = true := by
  rcases Bool.or_eq_true_iff.mp admitted with whole | parts
  · rw [of_decide_eq_true whole]
    have split : List.splitOn ':' wildcard = [wildcard] := by decide
    rw [split]
    exact ⟨by decide, fun segment member proper => absurd (List.mem_singleton.mp member) proper⟩
  · rcases Bool.and_eq_true_iff.mp parts with ⟨sized, accepted⟩
    refine ⟨of_decide_eq_true (Bool.and_eq_true_iff.mp sized).2, fun segment member proper => ?_⟩
    rcases Bool.or_eq_true_iff.mp (List.all_eq_true.mp accepted segment member) with star | plain
    · exact absurd (of_decide_eq_true star) proper
    · exact plain

/-- A list of two to three words is the segment list of a concrete request. -/
theorem concreteRequest_of_words (segments : List Text) (low : 2 ≤ segments.length) (high : segments.length ≤ 3)
    (words : forall segment, segment ∈ segments -> Rbac.word segment = true) :
    Exists fun request => concreteRequest request = true ∧ List.splitOn ':' request = segments := by
  have nonempty : segments ≠ [] := fun empty => by simp [empty] at low
  have split : List.splitOn ':' (List.intercalate [':'] segments) = segments :=
    List.splitOn_intercalate ':' (fun segment member => word_colonFree (words segment member)) nonempty
  refine ⟨List.intercalate [':'] segments, ?_, split⟩
  rw [concreteRequest, split, decide_eq_true low, decide_eq_true high, List.all_eq_true.mpr words]
  rfl

/-- Two admitted permissions reach a common concrete request exactly when they
agree wherever both are literal. -/
theorem exists_common_request_iff {a b : Text} (admittedA : wellFormed a = true) (admittedB : wellFormed b = true) :
    (Exists fun request => concreteRequest request = true ∧ Rbac.covers a request = true ∧
        Rbac.covers b request = true) <->
      SegmentPattern.compatible wildcard (List.splitOn ':' a) (List.splitOn ':' b) = true := by
  constructor
  · rintro ⟨request, concrete, coveredA, coveredB⟩
    rw [covers_eq] at coveredA coveredB
    have free := wildcard_not_mem_of_concrete concrete
    exact SegmentPattern.compatible_of_request ⟨free, coveredA⟩ ⟨free, coveredB⟩
  · intro agree
    have filler : Rbac.word ['a'] = true := by decide
    rcases SegmentPattern.exists_request_of_compatible (word_ne_wildcard filler) 2 _ _ agree with
      ⟨segments, fromA, fromB, length, sources⟩
    have shapeA := segments_of_wellFormed admittedA
    have shapeB := segments_of_wellFormed admittedB
    have words : forall segment, segment ∈ segments -> Rbac.word segment = true := by
      intro segment member
      rcases sources segment member with fill | ⟨proper, inA | inB⟩
      · rw [fill]
        exact filler
      · exact shapeA.2 segment inA proper
      · exact shapeB.2 segment inB proper
    rcases concreteRequest_of_words segments (by omega) (by omega) words with ⟨request, concrete, split⟩
    refine ⟨request, concrete, ?_, ?_⟩
    · rw [covers_eq, split]
      exact fromA.2
    · rw [covers_eq, split]
      exact fromB.2

/-- `overlaps` answers the question about requests exactly off the crossing
pairs. -/
theorem overlaps_iff_common_request_iff {a b : Text} (admittedA : wellFormed a = true)
    (admittedB : wellFormed b = true) :
    ((Rbac.overlaps a b = true <-> Exists fun request => concreteRequest request = true ∧
        Rbac.covers a request = true ∧ Rbac.covers b request = true) <-> crossing a b = false) := by
  rw [exists_common_request_iff admittedA admittedB, ← Bool.eq_iff_iff, Rbac.overlaps, covers_eq, covers_eq,
    SegmentPattern.covers_or_eq_compatible_iff, crossing, ← Bool.not_eq_true, Bool.and_eq_true, Bool.and_eq_true,
    and_assoc]

/-! ## The shipped matrix -/

/-- The forbidden patterns of either restricted plane. -/
def executionPatterns : List Text :=
  ["broker:*".toList, "execution:*".toList, "kill_switch:*".toList]

theorem forbiddenPatterns_of_restricted {plane : Text} (restricted : Rbac.isRestricted forbiddenMatrix plane = true) :
    Rbac.forbiddenPatterns forbiddenMatrix plane = executionPatterns := by
  have table : forall p, p ∈ forbiddenMatrix.restrictedPlanes ->
      Rbac.forbiddenPatterns forbiddenMatrix p = executionPatterns := by decide
  exact table plane (of_decide_eq_true restricted)

/-- Every forbidden pattern is one literal domain followed by the wildcard. -/
theorem executionPatterns_shape {pattern : Text} (listed : pattern ∈ executionPatterns) :
    Exists fun domain => List.splitOn ':' pattern = [domain, wildcard] ∧ domain ≠ wildcard := by
  have table : forall p, p ∈ executionPatterns ->
      List.splitOn ':' p = [(List.splitOn ':' p).headD [], wildcard] ∧ (List.splitOn ':' p).headD [] ≠ wildcard := by
    decide
  exact ⟨_, table pattern listed⟩

/-- A forbidden pattern covers exactly what opens with its domain. -/
theorem covers_executionPattern {pattern domain : Text} (shape : List.splitOn ':' pattern = [domain, wildcard])
    (proper : domain ≠ wildcard) (target : Text) :
    Rbac.covers pattern target = true <-> (List.splitOn ':' target).head? = some domain := by
  rw [covers_eq, shape]
  exact SegmentPattern.covers_literal_wildcard proper _

theorem evaluate_granted_iff {plane : Text} {permissions : List Text}
    (restricted : Rbac.isRestricted forbiddenMatrix plane = true) :
    Rbac.evaluate forbiddenMatrix plane permissions true = .granted <->
      forall p, p ∈ permissions -> p ≠ wildcard ∧
        forall d, d ∈ Rbac.forbiddenPatterns forbiddenMatrix plane -> Rbac.overlaps p d = false := by
  rw [Rbac.evaluate, restricted]
  simp only [Bool.not_true, Bool.false_eq_true, if_false, Bool.true_and, ite_eq_right_iff, reduceCtorEq, imp_false,
    Bool.not_eq_true, Bool.or_eq_true, decide_eq_true_eq, List.any_eq_true, not_or, not_exists, not_and]

/-- A granted permission that opens with a literal reaches no forbidden request. -/
theorem no_forbidden_request_of_literal {permission request pattern : Text}
    (literal : (List.splitOn ':' permission).head? ≠ some wildcard) (listed : pattern ∈ executionPatterns)
    (apart : Rbac.overlaps permission pattern = false) (granted : Rbac.covers permission request = true) :
    Rbac.covers pattern request = false := by
  rcases executionPatterns_shape listed with ⟨domain, shape, proper⟩
  cases forbidden : Rbac.covers pattern request with
  | false => rfl
  | true =>
      have opens := (covers_executionPattern shape proper request).mp forbidden
      rcases List.exists_cons_of_ne_nil (List.splitOn_ne_nil ':' permission) with ⟨first, rest, segments⟩
      rw [covers_eq, segments] at granted
      rw [segments, List.head?_cons] at literal
      rcases (SegmentPattern.covers_cons_iff _ _ _).mp granted with ⟨star, -⟩ | ⟨head, tail, target, choice, -⟩
      · exact absurd (congrArg some star) literal
      · rcases choice with star | same
        · exact absurd (congrArg some star) literal
        · -- The permission opens with the forbidden domain, so the pattern covers it.
          have opensToo : (List.splitOn ':' permission).head? = some domain := by
            rw [target, List.head?_cons] at opens
            rw [segments, List.head?_cons, same]
            exact opens
          have back := (covers_executionPattern shape proper permission).mpr opensToo
          rw [Rbac.overlaps, back, Bool.or_true] at apart
          exact absurd apart (by decide)

/-- A permission that opens with the wildcard meets every forbidden pattern. -/
theorem compatible_of_leading_wildcard {permission pattern : Text}
    (leading : (List.splitOn ':' permission).head? = some wildcard) (listed : pattern ∈ executionPatterns) :
    SegmentPattern.compatible wildcard (List.splitOn ':' permission) (List.splitOn ':' pattern) = true := by
  rcases executionPatterns_shape listed with ⟨domain, shape, -⟩
  rcases List.exists_cons_of_ne_nil (List.splitOn_ne_nil ':' permission) with ⟨first, rest, segments⟩
  rw [segments, List.head?_cons, Option.some.injEq] at leading
  rw [segments, shape, leading]
  cases rest with
  | nil => simp [SegmentPattern.compatible]
  | cons second others => cases others <;> simp [SegmentPattern.compatible]

theorem no_forbidden_request_iff {plane : Text} {permissions : List Text}
    (restricted : Rbac.isRestricted forbiddenMatrix plane = true)
    (admitted : forall p, p ∈ permissions -> wellFormed p = true)
    (granted : Rbac.evaluate forbiddenMatrix plane permissions true = .granted) :
    (¬ Exists fun request => concreteRequest request = true ∧
        (Exists fun p => p ∈ permissions ∧ Rbac.covers p request = true) ∧
        Exists fun d => d ∈ Rbac.forbiddenPatterns forbiddenMatrix plane ∧ Rbac.covers d request = true) <->
      forall p, p ∈ permissions -> (List.splitOn ':' p).head? ≠ some wildcard := by
  have apart := (evaluate_granted_iff restricted).mp granted
  rw [forbiddenPatterns_of_restricted restricted] at apart ⊢
  constructor
  · intro safe p member leading
    have first : "broker:*".toList ∈ executionPatterns := List.mem_cons_self
    have shared := (exists_common_request_iff (admitted p member) (by decide)).mpr
      (compatible_of_leading_wildcard leading first)
    rcases shared with ⟨request, concrete, byPermission, byPattern⟩
    exact safe ⟨request, concrete, ⟨p, member, byPermission⟩, ⟨_, first, byPattern⟩⟩
  · rintro literal ⟨request, -, ⟨p, member, byPermission⟩, ⟨d, listed, byPattern⟩⟩
    have reached := no_forbidden_request_of_literal (literal p member) listed ((apart p member).2 d listed) byPermission
    rw [byPattern] at reached
    exact absurd reached (by decide)

/-- `validate_grant` passes on each permission exactly when the grammar admits
each and `evaluate` reports `GRANTED`. -/
theorem validateGrant_isOk_iff (fold : Lowercasing) {plane : Text} {permissions : List Text}
    (restricted : Rbac.isRestricted forbiddenMatrix plane = true) :
    (forall p, p ∈ permissions -> (Rbac.validateGrant fold forbiddenMatrix plane p).isOk = true) <->
      (forall p, p ∈ permissions -> wellFormed p = true) ∧
        Rbac.evaluate forbiddenMatrix plane permissions true = .granted := by
  have single : forall p, (Rbac.validateGrant fold forbiddenMatrix plane p).isOk = true <->
      wellFormed p = true ∧ p ≠ wildcard ∧
        forall d, d ∈ Rbac.forbiddenPatterns forbiddenMatrix plane -> Rbac.overlaps p d = false := by
    intro p
    rw [← validatePermission_isOk fold p, Rbac.validateGrant, if_pos restricted]
    cases validated : Rbac.validatePermission fold forbiddenMatrix p with
    | error e => simp [bind, Except.bind, Except.isOk, Except.toBool]
    | ok u =>
        by_cases whole : p = wildcard
        · simp [bind, Except.bind, Except.isOk, Except.toBool, whole]
        · cases clash : (Rbac.forbiddenPatterns forbiddenMatrix plane).any (Rbac.overlaps p) with
          | true =>
              simp only [bind, Except.bind, whole, if_false, if_true, Except.isOk, Except.toBool, Bool.false_eq_true,
                false_iff, true_and, not_forall, ne_eq, not_false_eq_true]
              rcases List.any_eq_true.mp clash with ⟨d, listed, hit⟩
              exact ⟨d, listed, by simp [hit]⟩
          | false =>
              simp only [bind, Except.bind, whole, if_false, Except.isOk, Except.toBool, Bool.false_eq_true, true_iff,
                ne_eq, not_false_eq_true, true_and]
              intro d listed
              exact Bool.not_eq_true _ ▸ List.any_eq_false.mp clash d listed
  rw [evaluate_granted_iff restricted]
  constructor
  · intro passes
    exact ⟨fun p member => ((single p).mp (passes p member)).1, fun p member => ((single p).mp (passes p member)).2⟩
  · intro checks p member
    exact (single p).mpr ⟨checks.1 p member, checks.2 p member⟩

/-! ## The exact boundary, for both programs -/

/-- Where grant-time checking is sound, and where `overlaps` answers the
question about requests.  On a restricted plane a granted list reaches no
forbidden request exactly when no permission in it opens with the wildcard
segment, and `overlaps` coincides with common reach exactly off the crossing
pairs.  The last part is the remark that `validate_grant` is the same check. -/
theorem grant_soundness_boundary (fold : Lowercasing) (implementation : Implementation) :
    (forall plane permissions, (engine fold implementation).isRestricted plane = true ->
      (forall p, p ∈ permissions -> (engine fold implementation).admits p = true) ->
      (engine fold implementation).evaluate plane permissions true = .granted ->
      ((¬ Exists fun request => concreteRequest request = true ∧
          (Exists fun p => p ∈ permissions ∧ (engine fold implementation).covers p request = true) ∧
          Exists fun d => d ∈ (engine fold implementation).forbiddenPatterns plane ∧
            (engine fold implementation).covers d request = true) <->
        forall p, p ∈ permissions -> (List.splitOn ':' p).head? ≠ some wildcard)) ∧
    (forall a b, (engine fold implementation).admits a = true -> (engine fold implementation).admits b = true ->
      (((engine fold implementation).overlaps a b = true <->
          Exists fun request => concreteRequest request = true ∧
            (engine fold implementation).covers a request = true ∧
            (engine fold implementation).covers b request = true) <->
        crossing a b = false)) ∧
    (forall plane permissions, (engine fold implementation).isRestricted plane = true ->
      ((forall p, p ∈ permissions -> (Rbac.validateGrant fold forbiddenMatrix plane p).isOk = true) <->
        (forall p, p ∈ permissions -> (engine fold implementation).admits p = true) ∧
          (engine fold implementation).evaluate plane permissions true = .granted)) := by
  rw [engine_eq]
  have admits : forall p, (engine fold .python).admits p = wellFormed p := validatePermission_isOk fold
  simp only [admits]
  refine ⟨?_, ?_, ?_⟩
  · intro plane permissions restricted admitted granted
    exact no_forbidden_request_iff restricted admitted granted
  · intro a b admittedA admittedB
    exact overlaps_iff_common_request_iff admittedA admittedB
  · intro plane permissions restricted
    exact validateGrant_isOk_iff fold restricted

/-- The healthy AI service of the shared test vectors reaches nothing forbidden. -/
theorem grant_soundness_boundary_healthy_ai :
    ¬ Exists fun request => concreteRequest request = true ∧
      (Exists fun p => p ∈ ["model:read".toList, "feature:read".toList] ∧
        (engine asciiLowercasing .rust).covers p request = true) ∧
      Exists fun d => d ∈ (engine asciiLowercasing .rust).forbiddenPatterns "AI".toList ∧
        (engine asciiLowercasing .rust).covers d request = true :=
  ((grant_soundness_boundary asciiLowercasing .rust).1 "AI".toList ["model:read".toList, "feature:read".toList]
    (by decide) (by decide) (by decide)).mpr (by decide)

/-- The read-everything permission of the seeded `VIEWER` role is admitted and
granted on the AI plane by either program, overlaps no forbidden pattern, and
reaches `execution:read`. -/
theorem leading_wildcard_reaches_execution :
    ¬ forall implementation plane permissions,
      (engine asciiLowercasing implementation).isRestricted plane = true ->
      (forall p, p ∈ permissions -> (engine asciiLowercasing implementation).admits p = true) ->
      (engine asciiLowercasing implementation).evaluate plane permissions true = .granted ->
      ¬ Exists fun request => concreteRequest request = true ∧
        (Exists fun p => p ∈ permissions ∧ (engine asciiLowercasing implementation).covers p request = true) ∧
        Exists fun d => d ∈ (engine asciiLowercasing implementation).forbiddenPatterns plane ∧
          (engine asciiLowercasing implementation).covers d request = true := by
  intro sound
  apply sound .python "AI".toList ["*:read".toList] (by decide) (by decide) (by decide)
  exact ⟨"execution:read".toList, by decide, ⟨"*:read".toList, by decide, by decide⟩,
    ⟨"execution:*".toList, by decide, by decide⟩⟩

end Auth
end ApexQuant
