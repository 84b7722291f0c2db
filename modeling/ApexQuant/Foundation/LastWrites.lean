import Mathlib.Data.List.AList
import Mathlib.Data.List.Induction

namespace ApexQuant
namespace Foundation

universe u v

/-!
# Maps filled from a list

A map that is filled by insertions holds, under each key, what was written there last.
An entry of the list is therefore found in the map exactly when no later entry has its
key.
-/

namespace LastWrites

variable {Key : Type u} {Value : Type v}

/-- The entry is the last one with its key. -/
def Last (entries : List (Key × Value)) (entry : Key × Value) : Prop :=
  Exists fun before => Exists fun after =>
    entries = before ++ entry :: after ∧ forall later, later ∈ after -> later.1 ≠ entry.1

theorem last_concat_iff {entries : List (Key × Value)} {new entry : Key × Value} :
    Last (entries ++ [new]) entry <-> entry = new ∨ (Last entries entry ∧ entry.1 ≠ new.1) := by
  constructor
  · rintro ⟨before, after, split, others⟩
    rcases List.eq_nil_or_concat after with rfl | ⟨initial, last, rfl⟩
    · exact Or.inl (List.singleton_inj.1 (List.append_inj' split rfl).2).symm
    · rw [List.concat_eq_append, ← List.cons_append, ← List.append_assoc] at split
      rcases List.append_inj' split rfl with ⟨whole, same⟩
      have new_eq : new = last := List.singleton_inj.1 same
      refine Or.inr ⟨⟨before, initial, whole, fun later member => others later ?_⟩, ?_⟩
      · simp [member]
      · rw [new_eq]
        exact (others last (by simp)).symm
  · rintro (rfl | ⟨⟨before, after, rfl, others⟩, different⟩)
    · exact ⟨entries, [], rfl, fun _ member => by cases member⟩
    · refine ⟨before, after ++ [new], by simp, fun later member => ?_⟩
      rcases List.mem_append.1 member with old | added
      · exact others later old
      · rw [List.mem_singleton.1 added]
        exact different.symm

variable [DecidableEq Key]

/-- The map after the insertions, in their order. -/
def fill (entries : List (Key × Value)) : AList fun _ : Key => Value :=
  entries.foldl (fun map entry => map.insert entry.1 entry.2) ∅

theorem lookup_fill_concat (entries : List (Key × Value)) (entry : Key × Value) (key : Key) :
    (fill (entries ++ [entry])).lookup key = if key = entry.1 then some entry.2 else (fill entries).lookup key := by
  rw [fill, List.foldl_concat]
  by_cases same : key = entry.1
  · rw [if_pos same, same]
    exact AList.lookup_insert _
  · rw [if_neg same]
    exact AList.lookup_insert_ne same

/-- The map holds what was written last. -/
theorem lookup_fill_iff {entries : List (Key × Value)} {key : Key} {value : Value} :
    (fill entries).lookup key = some value <-> Last entries (key, value) := by
  induction entries using List.reverseRecOn with
  | nil =>
      refine iff_of_false (fun found => ?_) ?_
      · rw [fill, List.foldl_nil, AList.lookup_empty] at found
        cases found
      · rintro ⟨before, after, split, _⟩
        exact absurd split.symm (by simp)
  | append_singleton entries new inductionHypothesis =>
      rw [lookup_fill_concat, last_concat_iff, ← inductionHypothesis]
      by_cases same : key = new.1
      · rw [if_pos same, Option.some_inj]
        constructor
        · exact fun written => Or.inl (Prod.ext same written.symm)
        · rintro (rfl | ⟨_, different⟩)
          · rfl
          · exact absurd same different
      · rw [if_neg same]
        constructor
        · exact fun found => Or.inr ⟨found, same⟩
        · rintro (rfl | ⟨found, _⟩)
          · exact absurd rfl same
          · exact found

/-- The values of a map. -/
def values (map : AList fun _ : Key => Value) : List Value :=
  map.entries.map Sigma.snd

theorem mem_values_fill {entries : List (Key × Value)} {value : Value} :
    value ∈ values (fill entries) <-> Exists fun key => Last entries (key, value) := by
  rw [values, List.mem_map]
  constructor
  · rintro ⟨⟨key, _⟩, member, rfl⟩
    exact ⟨key, lookup_fill_iff.1 (AList.mem_lookup_iff.2 member)⟩
  · rintro ⟨key, last⟩
    exact ⟨⟨key, value⟩, AList.mem_lookup_iff.1 (lookup_fill_iff.2 last), rfl⟩

end LastWrites
end Foundation
end ApexQuant
