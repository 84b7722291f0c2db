import ApexQuant.Auth.Grammar

namespace ApexQuant
namespace Auth

open Foundation
open Foundation.Text
open Permissions

/-!
# The emergency stop and the wildcards

The matrix takes the emergency stop out of RBAC, and the trigger keeps it out of the
stored permissions by their text.  What a stored permission reaches is another
matter: a wildcard in its first segment stands for every domain, the reserved one
included.  Without such a wildcard no stored permission reaches it.
-/

/-- The first segment of every emergency-stop request. -/
def emergencyDomain : Text := "emergency_stop".toList

/-- What the tables of permissions take: the grammar and the trigger accept it. -/
def storable (fold : Lowercasing) (permission : Text) : Bool :=
  isValidPermission fold permission && !isEmergencyStop permission

/-- The domain of a request or permission. -/
def domain (text : Text) : Option Text :=
  (List.splitOn ':' text).head?

/-- Neither matcher allows a request in the reserved domain. -/
def EmergencyStopDenied (plane : Text) (granted : List Text) : Prop :=
  forall request, domain request = some emergencyDomain ->
    Rbac.authorize forbiddenMatrix plane granted request = false ∧ hasPermission granted request = false

/-! ## The reserved domain and the stored texts -/

theorem eq_of_domain {text : Text} {rest : List Text} (split : List.splitOn ':' text = emergencyDomain :: rest) :
    text = emergencyDomain ∨ Exists fun after => text = emergencyDomain ++ ':' :: after := by
  cases rest with
  | nil =>
      left
      apply eq_of_splitOn_eq ':'
      rw [split]
      decide
  | cons next more =>
      right
      have joined := eq_of_splitOn_append (by simp) (by simp) (split.trans List.singleton_append.symm)
      rw [List.intercalate_singleton] at joined
      exact ⟨_, joined⟩

theorem isEmergencyStop_of_domain (after : Text) : isEmergencyStop (emergencyDomain ++ ':' :: after) = true := by
  have front : emergencyDomain ++ [':'] = ("emergency".toList ++ ['_']) ++ "stop:".toList := by decide
  have parts : emergencyDomain ++ ':' :: after = ("emergency".toList ++ ['_']) ++ ("stop:".toList ++ after) := by
    rw [List.append_cons, front, List.append_assoc]
  rw [isEmergencyStop, parts, List.drop_left' (by decide), List.append_assoc]
  apply Bool.or_eq_true_iff.mpr
  right
  apply Bool.and_eq_true_iff.mpr
  exact ⟨List.isPrefixOf_iff_prefix.mpr (List.prefix_append _ _),
    List.isPrefixOf_iff_prefix.mpr (List.prefix_append _ _)⟩

/-- No stored permission names the reserved domain. -/
theorem domain_ne_of_storable {fold : Lowercasing} {permission : Text} (stored : storable fold permission = true) :
    domain permission ≠ some emergencyDomain := by
  intro reserved
  rcases Bool.and_eq_true_iff.mp stored with ⟨valid, accepted⟩
  rcases List.head?_eq_some_iff.mp reserved with ⟨rest, split⟩
  rcases eq_of_domain split with alone | ⟨after, continued⟩
  · rw [isValidPermission_eq, alone] at valid
    exact absurd valid (by decide)
  · rw [continued, isEmergencyStop_of_domain] at accepted
    exact absurd accepted Bool.false_ne_true

/-- A stored permission whose domain is not the wildcard does not cover a request in
the reserved domain. -/
theorem covers_reserved_eq_false {fold : Lowercasing} {permission request : Text}
    (stored : storable fold permission = true) (literal : domain permission ≠ some wildcard)
    (reserved : domain request = some emergencyDomain) : Rbac.covers permission request = false := by
  rcases List.head?_eq_some_iff.mp reserved with ⟨later, asked⟩
  cases split : List.splitOn ':' permission with
  | nil => exact absurd split (List.splitOn_ne_nil _ _)
  | cons segment rest =>
      have named : domain permission = some segment := by rw [domain, split, List.head?_cons]
      apply Bool.eq_false_iff.mpr
      intro covered
      rw [covers_eq, split, asked] at covered
      rcases (SegmentPattern.covers_cons_iff _ _ _).mp covered with ⟨wild, -⟩ | ⟨head, tail, same, choice, -⟩
      · exact literal (wild ▸ named)
      · rcases choice with wild | equal
        · exact literal (wild ▸ named)
        · rw [equal, ← (List.cons.inj same).1] at named
          exact domain_ne_of_storable stored named

/-- Trimming leaves the domain of a request in the reserved domain alone. -/
theorem domain_strip {request : Text} (reserved : domain request = some emergencyDomain) :
    domain (strip request) = some emergencyDomain := by
  rcases List.head?_eq_some_iff.mp reserved with ⟨rest, split⟩
  rcases eq_of_domain split with alone | ⟨after, continued⟩
  · rw [alone]
    decide
  · have plain : emergencyDomain.all Rbac.allowed = true := by decide
    have solid : forall c, c ∈ emergencyDomain -> isSpace c = false := fun c member =>
      allowed_solid (List.all_eq_true.mp plain c member)
    have nonempty : emergencyDomain ≠ [] := by decide
    have kept : isSpace ':' = false := by decide
    have single : List.splitOn ':' emergencyDomain = [emergencyDomain] := by decide
    rw [continued, strip_word_append emergencyDomain ':' after nonempty solid kept, domain,
      List.splitOn_append_cons_self, single, List.singleton_append, List.head?_cons]

theorem not_forbidden_of_reserved {plane request : Text} (reserved : domain request = some emergencyDomain) :
    (Rbac.isRestricted forbiddenMatrix plane &&
      (Rbac.forbiddenPatterns forbiddenMatrix plane).any fun pattern => Rbac.covers pattern request) = false := by
  cases restricted : Rbac.isRestricted forbiddenMatrix plane with
  | false => rfl
  | true =>
      rw [Bool.true_and, forbiddenPatterns_of_restricted restricted]
      apply List.any_eq_false.mpr
      intro pattern listed covered
      rcases executionPatterns_shape listed with ⟨named, shape, proper⟩
      rw [covers_executionPattern shape proper] at covered
      have reachable : forall p, p ∈ executionPatterns -> domain p ≠ some emergencyDomain := by decide
      apply reachable pattern listed
      rw [domain, shape, List.head?_cons, ← covered]
      exact reserved

/-! ## Which grants keep out -/

/-- A wildcard in the first segment reaches a request in the reserved domain. -/
theorem exists_reserved_of_wildcard {permission : Text} (wild : domain permission = some wildcard) :
    Exists fun request => domain request = some emergencyDomain ∧ Rbac.covers permission request = true := by
  rcases List.head?_eq_some_iff.mp wild with ⟨rest, split⟩
  have free : forall piece, piece ∈ emergencyDomain :: rest -> ':' ∉ piece := by
    intro piece member
    rcases List.mem_cons.mp member with rfl | later
    · decide
    · exact not_mem_of_mem_splitOn (split ▸ List.mem_cons_of_mem _ later)
  have asked : List.splitOn ':' (List.intercalate [':'] (emergencyDomain :: rest)) = emergencyDomain :: rest :=
    List.splitOn_intercalate ':' free (List.cons_ne_nil _ _)
  refine ⟨List.intercalate [':'] (emergencyDomain :: rest), ?_, ?_⟩
  · rw [domain, asked, List.head?_cons]
  · rw [covers_eq, split, asked]
    apply (SegmentPattern.covers_cons_iff _ _ _).mpr
    exact Or.inr ⟨emergencyDomain, rest, rfl, Or.inl rfl, SegmentPattern.covers_self rest⟩

/-- Of the permissions that can be stored, exactly those with a wildcard in their
first segment open the reserved domain. -/
theorem emergency_stop_denied_iff (fold : Lowercasing) (plane : Text) (granted : List Text)
    (stored : forall permission, permission ∈ granted -> storable fold permission = true) :
    EmergencyStopDenied plane granted <-> forall permission, permission ∈ granted -> domain permission ≠ some wildcard := by
  constructor
  · intro denied permission member wild
    rcases exists_reserved_of_wildcard wild with ⟨request, reserved, covered⟩
    have refused := (denied request reserved).1
    rw [Rbac.authorize, not_forbidden_of_reserved reserved, if_neg Bool.false_ne_true] at refused
    exact List.any_eq_false.mp refused permission member covered
  · intro literal request reserved
    constructor
    · rw [Rbac.authorize, not_forbidden_of_reserved reserved, if_neg Bool.false_ne_true]
      apply List.any_eq_false.mpr
      intro permission member
      rw [covers_reserved_eq_false (stored permission member) (literal permission member) reserved]
      exact Bool.false_ne_true
    · rw [hasPermission]
      split
      · rfl
      · apply List.any_eq_false.mpr
        intro permission member matched
        have valid := (Bool.and_eq_true_iff.mp (stored permission member)).1
        rw [isValidPermission_eq] at valid
        have covered := covers_of_permissionMatches valid matched
        rw [covers_reserved_eq_false (stored permission member) (literal permission member)
          (domain_strip reserved)] at covered
        exact Bool.false_ne_true covered

/-- The routine kill switch stays on its side. -/
theorem risk_admin_is_denied :
    EmergencyStopDenied "RISK".toList ["risk:*".toList, "kill_switch:routine".toList] :=
  (emergency_stop_denied_iff asciiLowercasing "RISK".toList ["risk:*".toList, "kill_switch:routine".toList]
    (by decide)).mpr (by decide)

/-- The seeded permission of the super administrator is stored, and allows the stop. -/
theorem super_admin_reaches_emergency_stop :
    ¬ forall plane granted, (forall permission, permission ∈ granted -> storable asciiLowercasing permission = true) ->
      EmergencyStopDenied plane granted := by
  intro denied
  have refused := (denied "CONTROL".toList ["*".toList] (by decide) "emergency_stop:global".toList (by decide)).1
  exact absurd refused (by decide)

end Auth
end ApexQuant
