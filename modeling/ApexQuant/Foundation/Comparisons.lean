import Mathlib.Data.List.Lex
import Mathlib.Data.List.Sort
import Mathlib.Data.Prod.Lex
import Mathlib.Order.WithBot

namespace ApexQuant
namespace Foundation

/-!
# Three-way comparisons

A comparison that answers -1, 0 or 1 is the sign of two values in a linear order.
The sign of two lists is the sign of the first items that differ, and where there are
none the shorter list is below the longer one.
-/

section

variable {Key : Type} [LinearOrder Key]

def threeWay (left right : Key) : Int :=
  if left = right then 0 else if left < right then -1 else 1

theorem threeWay_self (key : Key) : threeWay key key = 0 :=
  if_pos rfl

theorem threeWay_of_lt {left right : Key} (below : left < right) : threeWay left right = -1 := by
  rw [threeWay, if_neg below.ne, if_pos below]

theorem threeWay_of_gt {left right : Key} (above : right < left) : threeWay left right = 1 := by
  rw [threeWay, if_neg above.ne', if_neg above.not_gt]

theorem threeWay_cases (left right : Key) :
    (left < right ∧ threeWay left right = -1) ∨ (left = right ∧ threeWay left right = 0) ∨
      (right < left ∧ threeWay left right = 1) := by
  rcases lt_trichotomy left right with below | same | above
  · exact Or.inl ⟨below, threeWay_of_lt below⟩
  · exact Or.inr (Or.inl ⟨same, same ▸ threeWay_self left⟩)
  · exact Or.inr (Or.inr ⟨above, threeWay_of_gt above⟩)

theorem threeWay_swap (left right : Key) : threeWay right left = -threeWay left right := by
  rcases threeWay_cases left right with ⟨below, known⟩ | ⟨same, known⟩ | ⟨above, known⟩
  · rw [known, threeWay_of_gt below]
    rfl
  · rw [known, same, threeWay_self]
    rfl
  · rw [known, threeWay_of_lt above]

theorem threeWay_eq_zero_iff {left right : Key} : threeWay left right = 0 <-> left = right := by
  rcases threeWay_cases left right with ⟨below, known⟩ | ⟨same, known⟩ | ⟨above, known⟩
  · exact iff_of_false (by omega) below.ne
  · exact iff_of_true known same
  · exact iff_of_false (by omega) above.ne'

theorem threeWay_eq_neg_one_iff {left right : Key} : threeWay left right = -1 <-> left < right := by
  rcases threeWay_cases left right with ⟨below, known⟩ | ⟨same, known⟩ | ⟨above, known⟩
  · exact iff_of_true known below
  · exact iff_of_false (by omega) same.not_lt
  · exact iff_of_false (by omega) above.not_gt

theorem threeWay_eq_one_iff {left right : Key} : threeWay left right = 1 <-> right < left := by
  rcases threeWay_cases left right with ⟨below, known⟩ | ⟨same, known⟩ | ⟨above, known⟩
  · exact iff_of_false (by omega) below.not_gt
  · exact iff_of_false (by omega) same.not_gt
  · exact iff_of_true known above

theorem threeWay_nonpos_iff {left right : Key} : threeWay left right ≤ 0 <-> left ≤ right := by
  rcases threeWay_cases left right with ⟨below, known⟩ | ⟨same, known⟩ | ⟨above, known⟩
  · exact iff_of_true (by omega) below.le
  · exact iff_of_true (by omega) same.le
  · exact iff_of_false (by omega) above.not_ge

/-! ## Lists -/

theorem threeWay_nil_cons (right : Key) (later : List Key) : threeWay [] (right :: later) = -1 :=
  threeWay_of_lt (List.nil_lt_cons right later)

theorem threeWay_cons_nil (left : Key) (rest : List Key) : threeWay (left :: rest) [] = 1 :=
  threeWay_of_gt (List.nil_lt_cons left rest)

theorem threeWay_cons_cons (left right : Key) (rest later : List Key) :
    threeWay (left :: rest) (right :: later) = if left = right then threeWay rest later else threeWay left right := by
  split
  · rename_i same
    subst same
    rcases threeWay_cases rest later with ⟨below, known⟩ | ⟨same, known⟩ | ⟨above, known⟩
    · rw [known]
      exact threeWay_of_lt (List.cons_lt_cons_iff.mpr (Or.inr ⟨rfl, below⟩))
    · rw [known, same]
      exact threeWay_self _
    · rw [known]
      exact threeWay_of_gt (List.cons_lt_cons_iff.mpr (Or.inr ⟨rfl, above⟩))
  · rename_i apart
    rcases lt_or_gt_of_ne apart with below | above
    · rw [threeWay_of_lt below]
      exact threeWay_of_lt (List.cons_lt_cons_iff.mpr (Or.inl below))
    · rw [threeWay_of_gt above]
      exact threeWay_of_gt (List.cons_lt_cons_iff.mpr (Or.inl above))

end

/-! ## Pairs -/

section

variable {First Second : Type} [LinearOrder First] [LinearOrder Second]

theorem threeWay_pair (first first' : First) (second second' : Second) :
    threeWay (toLex (first, second)) (toLex (first', second')) =
      if first = first' then threeWay second second' else threeWay first first' := by
  split
  · rename_i same
    subst same
    rcases threeWay_cases second second' with ⟨below, known⟩ | ⟨same, known⟩ | ⟨above, known⟩
    · rw [known]
      exact threeWay_of_lt (Prod.Lex.right _ below)
    · rw [known, same]
      exact threeWay_self _
    · rw [known]
      exact threeWay_of_gt (Prod.Lex.right _ above)
  · rename_i apart
    rcases lt_or_gt_of_ne apart with below | above
    · rw [threeWay_of_lt below]
      exact threeWay_of_lt (Prod.Lex.left _ _ below)
    · rw [threeWay_of_gt above]
      exact threeWay_of_gt (Prod.Lex.left _ _ above)

end

/-! ## A value above all others -/

section

variable {Key : Type} [LinearOrder Key]

theorem threeWay_top_coe (key : Key) : threeWay (⊤ : WithTop Key) key = 1 :=
  threeWay_of_gt (WithTop.coe_lt_top key)

theorem threeWay_coe_top (key : Key) : threeWay (key : WithTop Key) ⊤ = -1 :=
  threeWay_of_lt (WithTop.coe_lt_top key)

theorem threeWay_coe_coe (left right : Key) : threeWay (left : WithTop Key) right = threeWay left right := by
  rcases threeWay_cases left right with ⟨below, known⟩ | ⟨same, known⟩ | ⟨above, known⟩
  · rw [known]
    exact threeWay_of_lt (WithTop.coe_lt_coe.mpr below)
  · rw [known, same]
    exact threeWay_self _
  · rw [known]
    exact threeWay_of_gt (WithTop.coe_lt_coe.mpr above)

end

/-! ## Sorting by comparisons that may fail -/

section

variable {Item Error Key : Type}

/-- The item before the first one that it is not below. -/
def insertDescending (below : Item -> Item -> Except Error Bool) (item : Item) : List Item -> Except Error (List Item)
  | [] => .ok [item]
  | first :: rest => do
      if ← below item first then
        let inserted ← insertDescending below item rest
        return first :: inserted
      else return item :: first :: rest

/-- The items from the highest to the lowest; those of one rank keep their order. -/
def sortDescending (below : Item -> Item -> Except Error Bool) : List Item -> Except Error (List Item)
  | [] => .ok []
  | item :: rest => do
      let sorted ← sortDescending below rest
      insertDescending below item sorted

variable [LinearOrder Key] (key : Item -> Key) {below : Item -> Item -> Except Error Bool}

/-- The order that a descending sort puts items in. -/
abbrev NotBelow (item other : Item) : Prop :=
  ¬key item < key other

theorem insertDescending_eq {item : Item} {items : List Item}
    (agrees : forall other, other ∈ items -> below item other = .ok (decide (key item < key other))) :
    insertDescending below item items = .ok (List.orderedInsert (NotBelow key) item items) := by
  induction items with
  | nil => rfl
  | cons first rest inductionHypothesis =>
      rw [insertDescending, agrees first List.mem_cons_self, List.orderedInsert_cons,
        inductionHypothesis fun other member => agrees other (List.mem_cons_of_mem _ member)]
      by_cases lower : key item < key first
      · rw [if_neg (not_not.mpr lower), decide_eq_true lower]
        rfl
      · rw [if_pos lower, decide_eq_false lower]
        rfl

/-- Where every comparison succeeds and agrees with a key, the sort is a sort by the key. -/
theorem sortDescending_eq {items : List Item}
    (agrees : forall item other, item ∈ items -> other ∈ items -> below item other = .ok (decide (key item < key other))) :
    sortDescending below items = .ok (items.insertionSort (NotBelow key)) := by
  induction items with
  | nil => rfl
  | cons item rest inductionHypothesis =>
      rw [sortDescending, inductionHypothesis fun left right member member' =>
        agrees left right (List.mem_cons_of_mem _ member) (List.mem_cons_of_mem _ member')]
      refine insertDescending_eq key fun other member => ?_
      exact agrees item other List.mem_cons_self
        (List.mem_cons_of_mem _ ((List.mem_insertionSort (NotBelow key)).mp member))

/-- What comes first in a descending sort is not below any item. -/
theorem le_of_head_insertionSort {items rest : List Item} {first : Item}
    (sorted : items.insertionSort (NotBelow key) = first :: rest) {item : Item} (member : item ∈ items) :
    key item ≤ key first := by
  have total : Std.Total (NotBelow key) :=
    ⟨fun left right => (le_total (key right) (key left)).imp not_lt.mpr not_lt.mpr⟩
  have transitive : IsTrans Item (NotBelow key) :=
    ⟨fun _ _ _ above above' => not_lt.mpr ((not_lt.mp above').trans (not_lt.mp above))⟩
  have ordered := List.pairwise_insertionSort (NotBelow key) items
  rw [sorted, List.pairwise_cons] at ordered
  rw [← List.mem_insertionSort (NotBelow key), sorted] at member
  rcases List.mem_cons.mp member with same | later
  · rw [same]
  · exact not_lt.mp (ordered.1 item later)

end

end Foundation
end ApexQuant
