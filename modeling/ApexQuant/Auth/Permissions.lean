import ApexQuant.Auth.GrantSoundness

namespace ApexQuant
namespace Auth

open Foundation
open Foundation.Text

/-!
# The string matcher of the auth service

`AuthService` does not ask the RBAC evaluator.  It asks `has_permission`, which
compares texts: equality, the global wildcard, or a permission ending in `:*`
whose remaining text begins the request.  The evaluator reads the same grants
segment by segment, lets a shorter grant cover a longer request, and honours a
wildcard in any place.  The string matcher never allows more than the
evaluator; it allows less exactly on requests that are reached only by one of
the evaluator's other means.
-/

namespace Permissions

/-- The body of the loop in `has_permission`, on an already trimmed request. -/
def permissionMatches (required permission : Text) : Bool :=
  let permission := strip permission
  if permission.isEmpty then false
  else if permission = wildcard then true
  else if permission = required then true
  else if ":*".toList.isSuffixOf permission then permission.dropLast.isPrefixOf required
  else false

/-- `has_permission`. -/
def hasPermission (grantedPermissions : List Text) (requiredPermission : Text) : Bool :=
  if (strip requiredPermission).isEmpty then false
  else grantedPermissions.any (permissionMatches (strip requiredPermission))

end Permissions

open Permissions

/-! ## Admitted texts are already trimmed -/

theorem allowed_solid {c : Char} (accepted : Rbac.allowed c = true) : isSpace c = false := by
  have table : ("abcdefghijklmnopqrstuvwxyz0123456789_-".toList.all fun d => decide (isSpace d = false)) = true := by
    decide
  exact of_decide_eq_true (List.all_eq_true.mp table c (of_decide_eq_true accepted))

theorem strip_of_wellFormed {perm : Text} (admitted : wellFormed perm = true) : strip perm = perm := by
  apply strip_eq_self
  intro c member
  rcases mem_of_splitOn ':' member with colon | ⟨piece, listed, inside⟩
  · subst c
    decide
  · by_cases star : piece = wildcard
    · rw [star, wildcard, List.mem_singleton] at inside
      subst c
      decide
    · have plain := (segments_of_wellFormed admitted).2 piece listed star
      exact allowed_solid (List.all_eq_true.mp (Bool.and_eq_true_iff.mp plain).2 c inside)

theorem wellFormed_of_concrete {request : Text} (concrete : concreteRequest request = true) :
    wellFormed request = true := by
  rcases Bool.and_eq_true_iff.mp concrete with ⟨sized, words⟩
  have accepted : (List.splitOn ':' request).all (fun seg => decide (seg = wildcard) || Rbac.word seg) = true :=
    List.all_eq_true.mpr fun segment member =>
      Bool.or_eq_true_iff.mpr (Or.inr (List.all_eq_true.mp words segment member))
  rw [wellFormed, sized, accepted]
  exact Bool.or_true _

theorem ne_nil_of_wellFormed {perm : Text} (admitted : wellFormed perm = true) : perm ≠ [] := by
  intro empty
  subst perm
  exact absurd admitted (by decide)

/-! ## What the string matcher recognizes, in segments -/

/-- A text ending in `:*` is a stem followed by the wildcard segment. -/
theorem splitOn_stem_wildcard (body : Text) :
    List.splitOn ':' (body ++ ":*".toList) = List.splitOn ':' body ++ [wildcard] := by
  have tail : ":*".toList = ':' :: wildcard := by decide
  have single : List.splitOn ':' wildcard = [wildcard] := by decide
  rw [tail, List.splitOn_append_cons_self, single]

theorem dropLast_stem_wildcard (body : Text) : (body ++ ":*".toList).dropLast = body ++ [':'] := by
  have tail : ":*".toList = [':'] ++ ['*'] := by decide
  rw [tail, ← List.append_assoc, List.dropLast_concat]

/-- Conversely, a text whose segments fall in two parts is the two parts joined
by the separator. -/
theorem eq_of_splitOn_append {text : Text} {stem more : List Text} (nonempty : stem ≠ []) (continued : more ≠ [])
    (split : List.splitOn ':' text = stem ++ more) :
    text = List.intercalate [':'] stem ++ ':' :: List.intercalate [':'] more := by
  have free : forall piece, piece ∈ stem ++ more -> ':' ∉ piece := by
    intro piece member
    exact not_mem_of_mem_splitOn (split ▸ member)
  apply eq_of_splitOn_eq ':'
  rw [split, List.splitOn_append_cons_self,
    List.splitOn_intercalate ':' (fun piece member => free piece (List.mem_append_left _ member)) nonempty,
    List.splitOn_intercalate ':' (fun piece member => free piece (List.mem_append_right _ member)) continued]

/-- The string matcher recognizes the request itself, and a literal stem with a
final wildcard that the request continues by at least one segment.  The global
wildcard is the empty stem. -/
theorem permissionMatches_iff {permission request : Text} (admitted : wellFormed permission = true) :
    permissionMatches request permission = true <->
      permission = request ∨ Exists fun stem => Exists fun more =>
        List.splitOn ':' permission = stem ++ [wildcard] ∧ List.splitOn ':' request = stem ++ more ∧ more ≠ [] := by
  have nonempty : permission.isEmpty = false := List.isEmpty_eq_false_iff.mpr (ne_nil_of_wellFormed admitted)
  rw [permissionMatches]
  simp only [strip_of_wellFormed admitted, nonempty, Bool.false_eq_true, if_false]
  by_cases whole : permission = wildcard
  · rw [if_pos whole, whole]
    exact iff_of_true rfl (Or.inr ⟨[], List.splitOn ':' request, by decide, rfl, List.splitOn_ne_nil _ _⟩)
  · rw [if_neg whole]
    by_cases same : permission = request
    · rw [if_pos same]
      exact iff_of_true rfl (Or.inl same)
    · rw [if_neg same]
      constructor
      · intro matched
        by_cases ends : ":*".toList.isSuffixOf permission = true
        · rw [if_pos ends] at matched
          rcases List.isSuffixOf_iff_suffix.mp ends with ⟨body, equal⟩
          subst equal
          rw [dropLast_stem_wildcard, List.isPrefixOf_iff_prefix] at matched
          rcases matched with ⟨rest, continued⟩
          refine Or.inr ⟨List.splitOn ':' body, List.splitOn ':' rest, splitOn_stem_wildcard body, ?_,
            List.splitOn_ne_nil _ _⟩
          rw [← continued, List.append_assoc, List.singleton_append, List.splitOn_append_cons_self]
        · rw [if_neg ends] at matched
          exact absurd matched Bool.false_ne_true
      · rintro (equal | ⟨stem, more, split, continued, nonemptyMore⟩)
        · exact absurd equal same
        · have nonemptyStem : stem ≠ [] := by
            intro empty
            rw [empty, List.nil_append] at split
            exact whole (eq_of_splitOn_eq ':' (split.trans (by decide)))
          have shape := eq_of_splitOn_append nonemptyStem (by simp) split
          have target := eq_of_splitOn_append nonemptyStem nonemptyMore continued
          have tail : ':' :: List.intercalate [':'] [wildcard] = ":*".toList := by decide
          rw [tail] at shape
          have ends : ":*".toList.isSuffixOf permission = true := by
            rw [List.isSuffixOf_iff_suffix, shape]
            exact List.suffix_append _ _
          rw [if_pos ends, List.isPrefixOf_iff_prefix, shape, dropLast_stem_wildcard, target]
          exact ⟨List.intercalate [':'] more, by rw [List.append_assoc, List.singleton_append]⟩

/-- The string matcher never allows what the evaluator does not cover. -/
theorem covers_of_permissionMatches {permission request : Text} (admitted : wellFormed permission = true)
    (matched : permissionMatches request permission = true) : Rbac.covers permission request = true := by
  rw [covers_eq]
  rcases (permissionMatches_iff admitted).mp matched with equal | ⟨stem, more, split, continued, -⟩
  · rw [equal]
    exact SegmentPattern.covers_self _
  · rw [split, continued]
    exact SegmentPattern.covers_stem_wildcard stem more

/-! ## Agreement of the two matchers -/

theorem hasPermission_of_concrete (granted : List Text) {request : Text} (concrete : concreteRequest request = true) :
    hasPermission granted request = granted.any (permissionMatches request) := by
  have admitted := wellFormed_of_concrete concrete
  have nonempty : request.isEmpty = false := List.isEmpty_eq_false_iff.mpr (ne_nil_of_wellFormed admitted)
  rw [hasPermission, strip_of_wellFormed admitted, nonempty]
  rfl

theorem authorize_of_unrestricted {plane : Text} (unrestricted : Rbac.isRestricted forbiddenMatrix plane = false)
    (granted : List Text) (request : Text) :
    Rbac.authorize forbiddenMatrix plane granted request = granted.any (fun g => Rbac.covers g request) := by
  rw [Rbac.authorize, unrestricted]
  rfl

/-- On an unrestricted plane the two matchers give the same answer exactly when
a request that some grant covers is also reached in a plain way: by a grant
equal to it, or by a stem of segments with a final wildcard that the request
continues.  A grant with a wildcard in another place, a shorter literal grant,
and a final wildcard that would swallow nothing are what the string matcher
does not know. -/
theorem hasPermission_eq_authorize_iff (fold : Lowercasing) (plane : Text) (granted : List Text) (request : Text)
    (unrestricted : Rbac.isRestricted forbiddenMatrix plane = false)
    (admitted : forall g, g ∈ granted -> (Rbac.validatePermission fold forbiddenMatrix g).isOk = true)
    (concrete : concreteRequest request = true) :
    hasPermission granted request = Rbac.authorize forbiddenMatrix plane granted request <->
      ((Exists fun g => g ∈ granted ∧ Rbac.covers g request = true) ->
        Exists fun g => g ∈ granted ∧ (g = request ∨ Exists fun stem => Exists fun more =>
          List.splitOn ':' g = stem ++ [wildcard] ∧ List.splitOn ':' request = stem ++ more ∧ more ≠ [])) := by
  have wellFormedGrants : forall g, g ∈ granted -> wellFormed g = true := by
    intro g member
    rw [← validatePermission_isOk fold g]
    exact admitted g member
  rw [hasPermission_of_concrete granted concrete, authorize_of_unrestricted unrestricted, Bool.eq_iff_iff,
    List.any_eq_true, List.any_eq_true]
  constructor
  · intro agree covered
    rcases agree.mpr covered with ⟨g, member, matched⟩
    exact ⟨g, member, (permissionMatches_iff (wellFormedGrants g member)).mp matched⟩
  · intro plain
    constructor
    · rintro ⟨g, member, matched⟩
      exact ⟨g, member, covers_of_permissionMatches (wellFormedGrants g member) matched⟩
    · intro covered
      rcases plain covered with ⟨g, member, means⟩
      exact ⟨g, member, (permissionMatches_iff (wellFormedGrants g member)).mpr means⟩

/-- A trader with a domain-wide grant is one on whom the matchers agree. -/
theorem hasPermission_eq_authorize_trading :
    hasPermission ["execution:*".toList] "execution:modify:oms-1".toList =
      Rbac.authorize forbiddenMatrix "TRADING".toList ["execution:*".toList] "execution:modify:oms-1".toList :=
  (hasPermission_eq_authorize_iff asciiLowercasing "TRADING".toList ["execution:*".toList]
    "execution:modify:oms-1".toList (by decide) (by decide) (by decide)).mpr
    (fun _ => ⟨"execution:*".toList, by decide, Or.inr
      ⟨["execution".toList], ["modify".toList, "oms-1".toList], by decide, by decide, by decide⟩⟩)

/-- The seeded `VIEWER` permission: the evaluator allows the read, the service
refuses it. -/
theorem viewer_read_disagrees :
    ¬ forall plane granted request, Rbac.isRestricted forbiddenMatrix plane = false ->
      (forall g, g ∈ granted -> (Rbac.validatePermission asciiLowercasing forbiddenMatrix g).isOk = true) ->
      concreteRequest request = true ->
      hasPermission granted request = Rbac.authorize forbiddenMatrix plane granted request := by
  intro agree
  have same := agree "TRADING".toList ["*:read".toList] "position:read".toList (by decide) (by decide) (by decide)
  exact absurd same (by decide)

end Auth
end ApexQuant
