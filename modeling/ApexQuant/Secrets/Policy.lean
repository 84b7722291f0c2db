import ApexQuant.Secrets.Models

namespace ApexQuant
namespace Secrets

open Foundation

/-!
# The access policy of the secret store

`evaluate_access` collects the rules that match a request and lets a denial
override every permission.  The forbidden classifications of the two restricted
planes are nowhere consulted: the ban is as complete as the denials of the default
table.  One is missing, for the research plane and `API`, and there a rule from
outside can grant what the set forbids.
-/

/-- `AI_FORBIDDEN_CLASSIFICATIONS`. -/
def aiForbiddenClassifications : List SecretClassification :=
  [.broker, .execution, .database, .infrastructure]

/-- `RESEARCH_FORBIDDEN_CLASSIFICATIONS`. -/
def researchForbiddenClassifications : List SecretClassification :=
  [.broker, .execution, .database, .infrastructure, .api]

/-- A default rule that denies a plane everything about a classification. -/
def denyAll (plane : SecretPlane) (classification : SecretClassification) : PolicyRule where
  subjectPlane := some plane
  classification := some classification
  action := none
  effect := .deny

/-- A default rule that lets a plane read a classification. -/
def allowRead (plane : SecretPlane) (classification : SecretClassification) : PolicyRule where
  subjectPlane := some plane
  classification := some classification
  action := some .read
  effect := .allow

/-- `default_policy_rules`. -/
def defaultPolicyRules : List PolicyRule :=
  [denyAll .ai .broker,
    denyAll .ai .execution,
    denyAll .ai .database,
    denyAll .ai .infrastructure,
    denyAll .dataResearch .broker,
    denyAll .dataResearch .execution,
    denyAll .dataResearch .database,
    denyAll .dataResearch .infrastructure,
    { subjectPlane := some .control, classification := none, action := none, effect := .allow },
    allowRead .risk .broker,
    allowRead .risk .execution,
    allowRead .risk .database,
    allowRead .risk .infrastructure,
    allowRead .risk .api,
    allowRead .risk .observability,
    allowRead .marketData .infrastructure,
    allowRead .marketData .database,
    allowRead .marketData .api,
    allowRead .marketData .observability,
    allowRead .trading .database,
    allowRead .trading .api,
    allowRead .trading .observability,
    allowRead .ai .model,
    allowRead .ai .knowledge,
    allowRead .ai .api,
    allowRead .ai .observability,
    allowRead .dataResearch .model,
    allowRead .dataResearch .knowledge,
    allowRead .dataResearch .observability,
    allowRead .observability .observability,
    allowRead .observability .infrastructure]

/-- The three tests of the loop in `evaluate_access`. -/
def PolicyRule.matchesRequest (plane : SecretPlane) (classification : SecretClassification) (action : SecretAction)
    (rule : PolicyRule) : Bool :=
  rule.subjectPlane.all (fun named => decide (named = plane)) &&
    rule.classification.all (fun named => decide (named = classification)) &&
    rule.action.all fun named => decide (named = action)

/-- `evaluate_access`. -/
def evaluateAccess (plane : SecretPlane) (classification : SecretClassification) (action : SecretAction)
    (extraRules : Option (List PolicyRule)) : PolicyEvaluation :=
  let rules := defaultPolicyRules ++ extraRules.getD []
  let matched := rules.filter (PolicyRule.matchesRequest plane classification action)
  if matched.any fun rule => decide (rule.effect = .deny) then
    { allowed := false
      reason := plane.value ++ " is denied access to ".toList ++ classification.value ++ " for action ".toList ++
        action.value
      matchedRules := matched }
  else if matched.any fun rule => decide (rule.effect = .allow) then
    { allowed := true
      reason := plane.value ++ " is allowed access to ".toList ++ classification.value ++ " for action ".toList ++
        action.value
      matchedRules := matched }
  else
    { allowed := false
      reason := "default deny: no matching allow rule for ".toList ++ plane.value ++ " accessing ".toList ++
        classification.value ++ " with action ".toList ++ action.value
      matchedRules := matched }

/-! ## The decision -/

/-- Some rule of the list gives the request this effect. -/
def gives (effect : PolicyEffect) (plane : SecretPlane) (classification : SecretClassification)
    (action : SecretAction) (rules : List PolicyRule) : Bool :=
  rules.any fun rule => rule.matchesRequest plane classification action && decide (rule.effect = effect)

section Decision

variable (plane : SecretPlane) (classification : SecretClassification) (action : SecretAction)

theorem any_matched (effect : PolicyEffect) (rules : List PolicyRule) :
    ((rules.filter (PolicyRule.matchesRequest plane classification action)).any fun rule =>
      decide (rule.effect = effect)) = gives effect plane classification action rules := by
  rw [List.any_filter]
  rfl

theorem gives_append (effect : PolicyEffect) (rules more : List PolicyRule) :
    gives effect plane classification action (rules ++ more) =
      (gives effect plane classification action rules || gives effect plane classification action more) :=
  List.any_append

theorem gives_perm (effect : PolicyEffect) {rules others : List PolicyRule} (same : rules.Perm others) :
    gives effect plane classification action rules = gives effect plane classification action others :=
  same.any_eq

/-- Access is what some rule allows and none denies. -/
theorem evaluateAccess_allowed (extraRules : Option (List PolicyRule)) :
    (evaluateAccess plane classification action extraRules).allowed =
      (!(gives .deny plane classification action (defaultPolicyRules ++ extraRules.getD [])) &&
        gives .allow plane classification action (defaultPolicyRules ++ extraRules.getD [])) := by
  unfold evaluateAccess
  dsimp only
  rw [any_matched, any_matched]
  cases gives .deny plane classification action (defaultPolicyRules ++ extraRules.getD []) with
  | true => rfl
  | false =>
      cases gives .allow plane classification action (defaultPolicyRules ++ extraRules.getD []) with
      | true => rfl
      | false => rfl

/-- The answer without the list of the rules behind it. -/
def decision (evaluation : PolicyEvaluation) : Bool × Text :=
  (evaluation.allowed, evaluation.reason)

/-- The order of the extra rules does not matter. -/
theorem decision_perm {extraRules others : List PolicyRule} (same : extraRules.Perm others) :
    decision (evaluateAccess plane classification action (some extraRules)) =
      decision (evaluateAccess plane classification action (some others)) := by
  have whole : (defaultPolicyRules ++ extraRules).Perm (defaultPolicyRules ++ others) := same.append_left _
  unfold evaluateAccess
  simp only [Option.getD_some, any_matched, gives_perm plane classification action _ whole]
  split
  · rfl
  · split <;> rfl

end Decision

/-! ## The hard bans -/

/-- The classification is forbidden to the plane. -/
def forbidden (plane : SecretPlane) (classification : SecretClassification) : Bool :=
  (decide (plane = .ai) && aiForbiddenClassifications.contains classification) ||
    (decide (plane = .dataResearch) && researchForbiddenClassifications.contains classification)

/-- The default table denies every forbidden pair but one, and says nothing of that. -/
theorem gives_default_of_forbidden (plane : SecretPlane) (classification : SecretClassification) (action : SecretAction)
    (banned : forbidden plane classification = true) :
    (gives .deny plane classification action defaultPolicyRules = true ∧ ¬ (plane = .dataResearch ∧ classification = .api)) ∨
      (gives .deny plane classification action defaultPolicyRules = false ∧
        gives .allow plane classification action defaultPolicyRules = false ∧
        plane = .dataResearch ∧ classification = .api) := by
  revert banned
  cases plane <;> cases classification <;> cases action <;> decide

/-- Forbidden access is denied under the extra rules, whatever their order. -/
def BansHold (plane : SecretPlane) (classification : SecretClassification) (action : SecretAction)
    (extraRules : List PolicyRule) : Prop :=
  (forbidden plane classification = true ->
      (evaluateAccess plane classification action (some extraRules)).allowed = false) ∧
    forall others, extraRules.Perm others ->
      decision (evaluateAccess plane classification action (some extraRules)) =
        decision (evaluateAccess plane classification action (some others))

/-- The extra rules cannot widen the policy past the bans, except for the research
plane and `API`, when one of them allows the request and none denies it. -/
theorem bans_hold_iff (plane : SecretPlane) (classification : SecretClassification) (action : SecretAction)
    (extraRules : List PolicyRule) :
    BansHold plane classification action extraRules <->
      ¬ (plane = .dataResearch ∧ classification = .api ∧
        gives .allow plane classification action extraRules = true ∧
        gives .deny plane classification action extraRules = false) := by
  have decided := evaluateAccess_allowed plane classification action (some extraRules)
  rw [Option.getD_some, gives_append, gives_append] at decided
  constructor
  · rintro holds ⟨research, api, allowed, undenied⟩
    have banned : forbidden plane classification = true := by
      rw [research, api]
      rfl
    have refused := holds.1 banned
    rcases gives_default_of_forbidden plane classification action banned with ⟨-, other⟩ | ⟨silent, -, -, -⟩
    · exact other ⟨research, api⟩
    · rw [refused, silent, undenied, allowed, Bool.or_true] at decided
      exact Bool.false_ne_true decided
  · intro narrow
    refine ⟨fun banned => ?_, fun others same => decision_perm plane classification action same⟩
    rcases gives_default_of_forbidden plane classification action banned with
      ⟨denied, -⟩ | ⟨silentDeny, silentAllow, research, api⟩
    · rw [decided, denied, Bool.true_or]
      rfl
    · rw [decided, silentDeny, silentAllow, Bool.false_or, Bool.false_or]
      cases allowed : gives .allow plane classification action extraRules with
      | false => exact Bool.and_false _
      | true =>
          cases undenied : gives .deny plane classification action extraRules with
          | true => rfl
          | false => exact absurd ⟨research, api, allowed, undenied⟩ narrow

/-- One extra rule lets the research plane read what it must not. -/
theorem extra_rule_opens_api :
    ¬ forall (plane : SecretPlane) (classification : SecretClassification) (action : SecretAction)
      (extraRules : List PolicyRule), BansHold plane classification action extraRules := by
  intro holds
  have refused := (holds .dataResearch .api .read [allowRead .dataResearch .api]).1 rfl
  exact absurd refused (by decide)

end Secrets
end ApexQuant
