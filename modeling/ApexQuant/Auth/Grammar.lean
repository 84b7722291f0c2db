import ApexQuant.Auth.Store

namespace ApexQuant
namespace Auth

open Foundation
open Foundation.Text

/-!
# One permission grammar

The grammar of a permission is decided in three places: by a function of the
database, which tests each segment with a regular expression, and by the validators
of the module and of the crate, which look their characters up.  Each of them also
asks its language whether the text is lower-case.  A text of the grammar is, in
whatever way a language folds, so the three agree.
-/

/-- The characters of a word. -/
def WordChar (c : Char) : Prop :=
  ('a' ≤ c ∧ c ≤ 'z') ∨ ('0' ≤ c ∧ c ≤ '9') ∨ c = '_' ∨ c = '-'

/-- The global wildcard, or two or three segments each of which is the wildcard or a
word. -/
def Grammatical (perm : Text) : Prop :=
  perm = wildcard ∨
    (((List.splitOn ':' perm).length = 2 ∨ (List.splitOn ':' perm).length = 3) ∧
      forall segment, segment ∈ List.splitOn ':' perm ->
        segment = wildcard ∨ (segment ≠ [] ∧ forall c, c ∈ segment -> WordChar c))

theorem allowed_iff (c : Char) : Rbac.allowed c = true <-> WordChar c := by
  rw [← allowed_eq, ApexRbac.allowed, WordChar]
  simp only [Bool.or_eq_true, Bool.and_eq_true, decide_eq_true_eq, beq_iff_eq, or_assoc]

theorem word_iff (segment : Text) :
    Rbac.word segment = true <-> segment ≠ [] ∧ forall c, c ∈ segment -> WordChar c := by
  simp only [Rbac.word, Bool.and_eq_true, Bool.not_eq_true', List.isEmpty_eq_false_iff, List.all_eq_true, allowed_iff]

theorem wellFormed_iff (perm : Text) : wellFormed perm = true <-> Grammatical perm := by
  have sized : forall n : Nat, (2 ≤ n ∧ n ≤ 3) <-> (n = 2 ∨ n = 3) := fun n => by omega
  simp only [wellFormed, Grammatical, Bool.or_eq_true, Bool.and_eq_true, decide_eq_true_eq, List.all_eq_true,
    word_iff, sized]

theorem isValidPermission_eq (fold : Lowercasing) (perm : Text) :
    isValidPermission fold perm = wellFormed perm := by
  apply Bool.eq_iff_iff.mpr
  constructor
  · exact wellFormed_of_isValidPermission
  · intro admitted
    unfold isValidPermission
    split
    · rename_i empty
      subst empty
      exact absurd admitted (by decide)
    · split
      · rfl
      · rename_i proper
        rw [wellFormed, decide_eq_false proper, Bool.false_or] at admitted
        rcases Bool.and_eq_true_iff.mp admitted with ⟨sized, accepted⟩
        simp only [Bool.and_eq_true, decide_eq_true_eq] at sized
        rw [if_neg (not_not_intro (lower_of_segments fold perm accepted))]
        dsimp only
        rw [if_neg (by omega), accepted]

/-- The three layers accept the same texts, and those are the grammar. -/
theorem one_permission_grammar (sqlFold pythonFold rustFold : Lowercasing) (perm : Text) :
    (isValidPermission sqlFold perm = true <-> Grammatical perm) ∧
      ((Rbac.validatePermission pythonFold forbiddenMatrix perm).isOk = true <-> Grammatical perm) ∧
      ((ApexRbac.validatePermission rustFold forbiddenMatrix perm).isOk = true <-> Grammatical perm) := by
  refine ⟨?_, ?_, ?_⟩
  · rw [isValidPermission_eq]
    exact wellFormed_iff perm
  · rw [validatePermission_isOk]
    exact wellFormed_iff perm
  · rw [apexValidatePermission_eq, validatePermission_isOk]
    exact wellFormed_iff perm

end Auth
end ApexQuant
