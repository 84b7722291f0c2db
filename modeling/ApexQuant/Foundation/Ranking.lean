import Mathlib.Data.List.Nodup

namespace ApexQuant
namespace Foundation

/-!
# Picking by position

A ranked list is gone through once and an item is picked by what it is and by its
position.  When picked items are taken out and the list is gone through again, the
items behind them stand at smaller positions.  Whether all of them are picked again
is what `select_without_iff` says, for a condition that becomes no weaker towards
the end of the list.
-/

namespace Ranking

variable {Item Key : Type} (picks : Nat -> Item -> Bool)

/-- The items that are picked, the first of them standing at the position. -/
def select : Nat -> List Item -> List Item
  | _, [] => []
  | position, item :: items =>
      if picks position item then item :: select (position + 1) items else select (position + 1) items

/-- The list without the first `count` of the picked items. -/
def without : Nat -> Nat -> List Item -> List Item
  | 0, _, items => items
  | _ + 1, _, [] => []
  | count + 1, position, item :: items =>
      if picks position item then without count (position + 1) items
      else item :: without (count + 1) (position + 1) items

/-- What is picked at a position is picked at every later one. -/
def Growing : Prop :=
  forall position item, picks position item = true -> forall later, picks (position + later) item = true

/-- Every item that is picked behind the first `count` is picked when it stands `gap`
and `count` positions in front. -/
def Stays (count gap position : Nat) (items : List Item) : Prop :=
  forall index item, items[index]? = some item -> picks (position + gap + index) item = true ->
    count ≤ (select picks (position + gap) (items.take index)).length ->
      picks (position + index - count) item = true

theorem select_sublist (position : Nat) (items : List Item) : (select picks position items).Sublist items := by
  induction items generalizing position with
  | nil => exact List.Sublist.slnil
  | cons item items inductionHypothesis =>
      unfold select
      split
      · exact (inductionHypothesis _).cons_cons item
      · exact (inductionHypothesis _).cons item

variable {picks}

theorem select_of_picked {position : Nat} {item : Item} (picked : picks position item = true) (items : List Item) :
    select picks position (item :: items) = item :: select picks (position + 1) items :=
  if_pos picked

theorem select_of_passed {position : Nat} {item : Item} (passed : picks position item = false) (items : List Item) :
    select picks position (item :: items) = select picks (position + 1) items :=
  if_neg (passed ▸ Bool.false_ne_true)

/-- What is picked is what the condition picks at its place. -/
theorem mem_select_iff {position : Nat} {items : List Item} {item : Item} :
    item ∈ select picks position items <->
      Exists fun index => items[index]? = some item ∧ picks (position + index) item = true := by
  induction items generalizing position with
  | nil =>
      refine iff_of_false List.not_mem_nil ?_
      rintro ⟨index, found, _⟩
      cases found
  | cons head items inductionHypothesis =>
      have rest : item ∈ select picks (position + 1) items <->
          Exists fun index => (head :: items)[index + 1]? = some item ∧ picks (position + (index + 1)) item = true := by
        rw [inductionHypothesis]
        simp only [List.getElem?_cons_succ, Nat.add_right_comm position 1, Nat.add_assoc]
      cases picked : picks position head with
      | true =>
          rw [select_of_picked picked, List.mem_cons, rest]
          constructor
          · rintro (rfl | ⟨index, found⟩)
            · exact ⟨0, rfl, picked⟩
            · exact ⟨index + 1, found⟩
          · rintro ⟨index, found, taken⟩
            cases index with
            | zero => exact Or.inl (Option.some.inj found).symm
            | succ index => exact Or.inr ⟨index, found, taken⟩
      | false =>
          rw [select_of_passed picked, rest]
          constructor
          · rintro ⟨index, found⟩
            exact ⟨index + 1, found⟩
          · rintro ⟨index, found, taken⟩
            cases index with
            | zero =>
                cases found
                exact absurd (picked.symm.trans taken) Bool.false_ne_true
            | succ index => exact ⟨index, found, taken⟩

/-- What is passed over is passed over closer to the front. -/
theorem Growing.passed_before (growing : Growing picks) {position gap : Nat} {item : Item}
    (late : picks (position + gap) item = false) : picks position item = false := by
  cases early : picks position item with
  | true => exact absurd (late.symm.trans (growing position item early gap)) Bool.false_ne_true
  | false => rfl

/-- Closer to the front no more items are picked. -/
theorem Growing.select_sublist (growing : Growing picks) (gap position : Nat) (items : List Item) :
    (select picks position items).Sublist (select picks (position + gap) items) := by
  induction items generalizing position with
  | nil => exact List.Sublist.slnil
  | cons item items inductionHypothesis =>
      have rest := inductionHypothesis (position + 1)
      rw [Nat.add_right_comm] at rest
      cases late : picks (position + gap) item with
      | true =>
          rw [select_of_picked late]
          cases early : picks position item with
          | true => exact (select_of_picked early items).symm ▸ rest.cons_cons item
          | false => exact (select_of_passed early items).symm ▸ rest.cons item
      | false =>
          have early := growing.passed_before late
          rw [select_of_passed late, select_of_passed early]
          exact rest

theorem stays_cons_of_passed {count gap position : Nat} {item : Item} {items : List Item}
    (passed : picks (position + gap) item = false) :
    Stays picks count gap position (item :: items) <-> Stays picks count gap (position + 1) items := by
  have shift : forall index, position + gap + (index + 1) = position + 1 + gap + index := by omega
  have shift' : forall index, position + (index + 1) - count = position + 1 + index - count := by omega
  constructor
  · intro stays index other listed picked behind
    have first := stays (index + 1) other listed
    rw [shift, shift', List.take_succ_cons, select_of_passed passed,
      Nat.add_right_comm position gap 1] at first
    exact first picked behind
  · intro stays index other listed picked behind
    cases index with
    | zero =>
        cases listed
        exact absurd (passed.symm.trans picked) Bool.false_ne_true
    | succ index =>
        rw [shift] at picked
        rw [List.take_succ_cons, select_of_passed passed, Nat.add_right_comm position gap 1] at behind
        rw [shift']
        exact stays index other listed picked behind

theorem stays_cons_of_picked {count gap position : Nat} {item : Item} {items : List Item}
    (picked : picks (position + gap) item = true) :
    Stays picks (count + 1) gap position (item :: items) <-> Stays picks count (gap + 1) position items := by
  have shift : forall index, position + gap + (index + 1) = position + (gap + 1) + index := by omega
  have shift' : forall index, position + (index + 1) - (count + 1) = position + index - count := by omega
  constructor
  · intro stays index other listed taken behind
    have first := stays (index + 1) other listed
    rw [shift, shift', List.take_succ_cons, select_of_picked picked, List.length_cons, Nat.succ_le_succ_iff] at first
    exact first taken behind
  · intro stays index other listed taken behind
    cases index with
    | zero => exact absurd behind (Nat.not_succ_le_zero count)
    | succ index =>
        rw [shift] at taken
        rw [List.take_succ_cons, select_of_picked picked, List.length_cons, Nat.succ_le_succ_iff] at behind
        rw [shift']
        exact stays index other listed taken behind

/-- The first item of a ranked list stays picked, and so do the others. -/
theorem stays_zero_cons_of_picked {gap position : Nat} {item : Item} {items : List Item}
    (picked : picks (position + gap) item = true) :
    Stays picks 0 gap position (item :: items) <->
      picks position item = true ∧ Stays picks 0 gap (position + 1) items := by
  have shift : forall index, position + gap + (index + 1) = position + 1 + gap + index := by omega
  have shift' : forall index, position + (index + 1) - 0 = position + 1 + index - 0 := by omega
  constructor
  · intro stays
    refine ⟨stays 0 item rfl picked (Nat.zero_le _), fun index other listed taken _ => ?_⟩
    have later := stays (index + 1) other listed
    rw [shift, shift'] at later
    exact later taken (Nat.zero_le _)
  · rintro ⟨first, rest⟩ index other listed taken _
    cases index with
    | zero =>
        cases listed
        exact first
    | succ index =>
        rw [shift] at taken
        rw [shift']
        exact rest index other listed taken (Nat.zero_le _)

theorem Growing.select_eq_iff (growing : Growing picks) (gap position : Nat) (items : List Item) :
    select picks position items = select picks (position + gap) items <-> Stays picks 0 gap position items := by
  induction items generalizing position with
  | nil => exact iff_of_true rfl fun _ _ listed => absurd listed nofun
  | cons item items inductionHypothesis =>
      have rest := inductionHypothesis (position + 1)
      cases late : picks (position + gap) item with
      | true =>
          rw [select_of_picked late, stays_zero_cons_of_picked late, ← rest, Nat.add_right_comm position gap 1]
          cases early : picks position item with
          | true =>
              rw [select_of_picked early, List.cons_inj_right]
              exact (and_iff_right rfl).symm
          | false =>
              rw [select_of_passed early]
              refine iff_of_false (fun same => ?_) fun holds => absurd holds.1 Bool.false_ne_true
              have shorter := (growing.select_sublist gap (position + 1) items).length_le
              rw [same, List.length_cons] at shorter
              exact absurd shorter (Nat.not_succ_le_self _)
      | false =>
          have early := growing.passed_before late
          rw [select_of_passed late, select_of_passed early, stays_cons_of_passed late, ← rest,
            Nat.add_right_comm position gap 1]

/-- What is picked once the first `count` are out is picked behind them before. -/
theorem Growing.select_without_sublist (growing : Growing picks) (count gap position : Nat) (items : List Item) :
    (select picks position (without picks count (position + gap) items)).Sublist
      ((select picks (position + gap) items).drop count) := by
  induction items generalizing count gap position with
  | nil => cases count <;> exact List.Sublist.slnil
  | cons item items inductionHypothesis =>
      cases count with
      | zero => exact growing.select_sublist gap position (item :: items)
      | succ count =>
          cases late : picks (position + gap) item with
          | true =>
              rw [select_of_picked late, without, if_pos late, List.drop_succ_cons]
              exact inductionHypothesis count (gap + 1) position
          | false =>
              have early := growing.passed_before late
              rw [select_of_passed late, without, if_neg (late ▸ Bool.false_ne_true), select_of_passed early,
                Nat.add_right_comm position gap 1]
              exact inductionHypothesis (count + 1) gap (position + 1)

/-- Once the first `count` are out, the others are picked again exactly when each of
them stays picked where it stands then. -/
theorem Growing.select_without_iff (growing : Growing picks) (count gap position : Nat) (items : List Item) :
    select picks position (without picks count (position + gap) items) =
      (select picks (position + gap) items).drop count <-> Stays picks count gap position items := by
  induction items generalizing count gap position with
  | nil =>
      apply iff_of_true
      · cases count <;> rfl
      · exact fun _ _ listed => absurd listed nofun
  | cons item items inductionHypothesis =>
      cases count with
      | zero => exact growing.select_eq_iff gap position (item :: items)
      | succ count =>
          cases late : picks (position + gap) item with
          | true =>
              rw [select_of_picked late, without, if_pos late, List.drop_succ_cons, stays_cons_of_picked late]
              exact inductionHypothesis count (gap + 1) position
          | false =>
              have early := growing.passed_before late
              rw [select_of_passed late, without, if_neg (late ▸ Bool.false_ne_true), select_of_passed early,
                stays_cons_of_passed late, Nat.add_right_comm position gap 1]
              exact inductionHypothesis (count + 1) gap (position + 1)

/-- Taking items out by their keys. -/
theorem filter_eq_without [DecidableEq Key] (key : Item -> Key) (count position : Nat) {items : List Item}
    (distinct : (items.map key).Nodup) :
    (items.filter fun item => decide (key item ∉ ((select picks position items).take count).map key)) =
      without picks count position items := by
  induction items generalizing count position with
  | nil => cases count <;> rfl
  | cons item items inductionHypothesis =>
      rcases List.nodup_cons.mp distinct with ⟨fresh, rest⟩
      have apart : forall other, other ∈ items -> key item ≠ key other :=
        fun other member same => fresh (same ▸ List.mem_map_of_mem member)
      cases count with
      | zero =>
          rw [List.take_zero, without]
          exact List.filter_eq_self.mpr fun _ _ => rfl
      | succ count =>
          cases picked : picks position item with
          | true =>
              rw [select_of_picked picked, List.take_succ_cons, List.map_cons, without, if_pos picked, List.filter_cons,
                if_neg (fun kept => absurd List.mem_cons_self (of_decide_eq_true kept)),
                ← inductionHypothesis count (position + 1) rest]
              apply List.filter_congr
              intro other member
              rw [decide_eq_decide, List.mem_cons, not_or]
              exact and_iff_right (apart other member).symm
          | false =>
              rw [select_of_passed picked, without, if_neg (picked ▸ Bool.false_ne_true), List.filter_cons_of_pos,
                inductionHypothesis (count + 1) (position + 1) rest]
              apply decide_eq_true
              intro listed
              rcases List.mem_map.mp listed with ⟨other, member, same⟩
              have stored := (select_sublist picks (position + 1) items).subset (List.mem_of_mem_take member)
              exact apart other stored same.symm

end Ranking
end Foundation
end ApexQuant
