import Mathlib.Data.List.Nodup
import Mathlib.Data.List.Sort

namespace ApexQuant
namespace Foundation

/-!
# Stable descending order

A list in descending order of a key, in which items of one key keep their order.  The
place of an item in it can be counted off the list as it was.
-/

namespace Ranking

variable {Item Key : Type} [LinearOrder Key] (key : Item -> Key)

/-- The list has been sorted by key, the highest first, and items of one key stand as
they did. -/
structure StablySorted (items sorted : List Item) : Prop where
  perm : sorted.Perm items
  descending : sorted.Pairwise fun left right => key right ≤ key left
  stable : forall value, (sorted.filter fun item => decide (key item = value)) =
    items.filter fun item => decide (key item = value)

/-- How many items stand before the item once the list is sorted: those with a higher
key, and those with its own key that stand before it already. -/
def stablePosition [DecidableEq Item] (items : List Item) (item : Item) : Nat :=
  (items.countP fun other => decide (key item < key other)) +
    ((items.takeWhile fun other => decide (other ≠ item)).countP fun other => decide (key other = key item))

variable {key} {items sorted : List Item}

theorem stablySorted_insertionSort (items : List Item) :
    StablySorted key items (items.insertionSort fun left right => key right ≤ key left) := by
  have total : Std.Total fun left right : Item => key right ≤ key left := ⟨fun left right => le_total _ _⟩
  have trans : IsTrans Item fun left right => key right ≤ key left := ⟨fun _ _ _ first second => second.trans first⟩
  have perm := List.perm_insertionSort (fun left right : Item => key right ≤ key left) items
  refine ⟨perm, List.pairwise_insertionSort _ items, fun value => ?_⟩
  have level : (items.filter fun item => decide (key item = value)).Pairwise fun left right => key right ≤ key left := by
    refine List.pairwise_of_forall_mem_list fun left leftMember right rightMember => ?_
    rw [of_decide_eq_true (List.mem_filter.mp leftMember).2, of_decide_eq_true (List.mem_filter.mp rightMember).2]
  have kept := (List.sublist_insertionSort level List.filter_sublist).filter fun item => decide (key item = value)
  rw [List.filter_filter] at kept
  simp only [Bool.and_self] at kept
  exact (kept.eq_of_length (perm.filter _).length_eq.symm).symm

theorem StablySorted.filter (stably : StablySorted key items sorted) (kept : Item -> Bool) :
    StablySorted key (items.filter kept) (sorted.filter kept) where
  perm := stably.perm.filter kept
  descending := stably.descending.sublist List.filter_sublist
  stable := by
    intro value
    rw [List.filter_comm, stably.stable, List.filter_comm]

/-- The place of an item in the sorted list. -/
theorem StablySorted.length_before [DecidableEq Item] (stably : StablySorted key items sorted) (distinct : items.Nodup)
    {before behind : List Item} {item : Item} (shape : sorted = before ++ item :: behind) :
    before.length = stablePosition key items item := by
  have descending := stably.descending
  have sortedDistinct := stably.perm.nodup_iff.mpr distinct
  rw [shape] at descending sortedDistinct
  rw [List.pairwise_append, List.pairwise_cons] at descending
  rcases descending with ⟨_, ⟨lower, _⟩, higher⟩
  have fresh : item ∉ before ∧ item ∉ behind := by
    rw [List.nodup_append] at sortedDistinct
    exact ⟨fun member => sortedDistinct.2.2 item member item List.mem_cons_self rfl,
      (List.nodup_cons.mp sortedDistinct.2.1).1⟩
  -- Before the item stand higher keys and its own.
  have split : before.length = (before.countP fun other => decide (key item < key other)) +
      before.countP fun other => decide (key other = key item) := by
    rw [List.length_eq_countP_add_countP fun other => decide (key item < key other)]
    congr 1
    refine List.countP_congr fun other member => ?_
    have atLeast := higher other member item List.mem_cons_self
    simp only [decide_eq_true_eq, not_lt]
    exact ⟨fun atMost => le_antisymm atMost atLeast, fun same => same.le⟩
  -- The higher keys all stand before it.
  have above : (items.countP fun other => decide (key item < key other)) =
      before.countP fun other => decide (key item < key other) := by
    have none : (behind.countP fun other => decide (key item < key other)) = 0 := by
      rw [List.countP_eq_zero]
      intro other member
      simpa using lower other member
    rw [← stably.perm.countP_eq, shape, List.countP_append, List.countP_cons, none]
    simp
  -- Those of its own key stand before it as they did.
  have level : (before.filter fun other => decide (key other = key item)) =
      (items.takeWhile fun other => decide (other ≠ item)).filter fun other => decide (key other = key item) := by
    have listed : item ∈ items := stably.perm.subset (shape ▸ List.mem_append_right _ List.mem_cons_self)
    have stable := stably.stable (key item)
    rcases List.append_of_mem listed with ⟨early, late, found⟩
    have apart : item ∉ early ∧ item ∉ late := by
      rw [found, List.nodup_append] at distinct
      exact ⟨fun member => distinct.2.2 item member item List.mem_cons_self rfl, (List.nodup_cons.mp distinct.2.1).1⟩
    have taken : (items.takeWhile fun other => decide (other ≠ item)) = early := by
      rw [found, List.takeWhile_append_of_pos, List.takeWhile_cons_of_neg, List.append_nil]
      · simp
      · intro other member
        exact decide_eq_true fun same => apart.1 (same ▸ member)
    rw [shape, found, List.filter_append, List.filter_append, List.filter_cons_of_pos (by simp),
      List.filter_cons_of_pos (by simp), List.append_cons_inj_of_notMem] at stable
    · rw [taken]
      exact stable.1
    · exact fun member => fresh.1 (List.mem_filter.mp member).1
    · exact fun member => fresh.2 (List.mem_filter.mp member).1
  rw [stablePosition, split, above, List.countP_eq_length_filter, List.countP_eq_length_filter, level,
    ← List.countP_eq_length_filter, ← List.countP_eq_length_filter]

theorem StablySorted.getElem?_iff [DecidableEq Item] (stably : StablySorted key items sorted) (distinct : items.Nodup)
    {index : Nat} {item : Item} :
    sorted[index]? = some item <-> item ∈ items ∧ stablePosition key items item = index := by
  constructor
  · intro found
    have inside := (List.getElem?_eq_some_iff.mp found).1
    have same := (List.getElem?_eq_some_iff.mp found).2
    have shape : sorted = sorted.take index ++ item :: sorted.drop (index + 1) := by
      rw [← same, List.getElem_cons_drop, List.take_append_drop]
    refine ⟨stably.perm.subset (List.mem_of_getElem? found), ?_⟩
    rw [← stably.length_before distinct shape, List.length_take, Nat.min_eq_left (Nat.le_of_lt inside)]
  · rintro ⟨member, rfl⟩
    rcases List.append_of_mem (stably.perm.symm.subset member) with ⟨before, behind, shape⟩
    rw [← stably.length_before distinct shape, shape, List.getElem?_append_right (Nat.le_refl _), Nat.sub_self,
      List.getElem?_cons_zero]

end Ranking
end Foundation
end ApexQuant
