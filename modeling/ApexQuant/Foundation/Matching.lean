import Mathlib.Data.List.Perm.Subperm
import Mathlib.Data.List.Nodup
import Mathlib.Data.List.Forall2

namespace ApexQuant
namespace Foundation

/-!
# Rows that stand for items

A list of rows stands one to one for a set of items when the items can be listed,
each of them once, so that every row concerns the item in its place.
-/

/-- The rows stand one to one for the items. -/
def OneToOne {Row Item : Type} (Concerns : Row -> Item -> Prop) (rows : List Row) (Listed : Item -> Prop) : Prop :=
  Exists fun order : List Item => order.Nodup ∧ (forall item, item ∈ order <-> Listed item) ∧
    List.Forall₂ Concerns rows order

namespace OneToOne

variable {Row Item Other Key : Type} {Concerns : Row -> Item -> Prop} {rows : List Row} {Listed : Item -> Prop}

theorem nil (none : forall item, ¬ Listed item) : OneToOne Concerns [] Listed :=
  ⟨[], List.nodup_nil, fun item => iff_of_false List.not_mem_nil (none item), List.Forall₂.nil⟩

theorem singleton {row : Row} {item : Item} (concerns : Concerns row item)
    (only : forall other, Listed other <-> other = item) : OneToOne Concerns [row] Listed :=
  ⟨[item], List.nodup_singleton item, fun other => List.mem_singleton.trans (only other).symm,
    List.Forall₂.cons concerns List.Forall₂.nil⟩

/-- Rows that stand for the items of every group stand for the items of all of them. -/
theorem flatMap {groups : List Other} {rowsOf : Other -> List Row} {Belongs : Other -> Item -> Prop}
    (apart : groups.Pairwise fun left right => forall item, Belongs left item -> ¬ Belongs right item)
    (each : forall group, group ∈ groups -> OneToOne Concerns (rowsOf group) (Belongs group)) :
    OneToOne Concerns (groups.flatMap rowsOf) fun item => Exists fun group => group ∈ groups ∧ Belongs group item := by
  induction groups with
  | nil => exact nil fun item => by simp
  | cons group groups inductionHypothesis =>
      rw [List.pairwise_cons] at apart
      rcases each group List.mem_cons_self with ⟨order, distinct, listed, matched⟩
      rcases inductionHypothesis apart.2 fun other member => each other (List.mem_cons_of_mem _ member) with
        ⟨later, distinctLater, listedLater, matchedLater⟩
      refine ⟨order ++ later, ?_, ?_, ?_⟩
      · refine List.nodup_append.mpr ⟨distinct, distinctLater, ?_⟩
        rintro item here other there rfl
        rcases (listedLater item).mp there with ⟨second, member, belongs⟩
        exact apart.1 second member item ((listed item).mp here) belongs
      · intro item
        rw [List.mem_append, listed, listedLater]
        constructor
        · rintro (belongs | ⟨second, member, belongs⟩)
          · exact ⟨group, List.mem_cons_self, belongs⟩
          · exact ⟨second, List.mem_cons_of_mem _ member, belongs⟩
        · rintro ⟨second, member, belongs⟩
          rcases List.mem_cons.mp member with rfl | further
          · exact Or.inl belongs
          · exact Or.inr ⟨second, further, belongs⟩
      · rw [List.flatMap_cons]
        exact List.rel_append matched matchedLater

/-- The rows of a kind stand for the items of that kind. -/
theorem filter (matched : OneToOne Concerns rows Listed) (ofKind : Row -> Bool) (ofKind' : Item -> Bool)
    (agree : forall row item, Concerns row item -> ofKind row = ofKind' item) :
    OneToOne Concerns (rows.filter ofKind) fun item => Listed item ∧ ofKind' item = true := by
  rcases matched with ⟨order, distinct, listed, matched⟩
  refine ⟨order.filter ofKind', distinct.filter _, fun item => by rw [List.mem_filter, listed], ?_⟩
  clear distinct listed
  induction matched with
  | nil => exact List.Forall₂.nil
  | @cons row item rest later concerns _ inductionHypothesis =>
      rw [List.filter_cons, List.filter_cons, agree row item concerns]
      split
      · exact List.Forall₂.cons concerns inductionHypothesis
      · exact inductionHypothesis

/-- A set of items has as many rows as it has items. -/
theorem length_eq (matched : OneToOne Concerns rows Listed) {items : List Item} (distinct : items.Nodup)
    (listed : forall item, item ∈ items <-> Listed item) : rows.length = items.length := by
  rcases matched with ⟨order, distinctOrder, listedOrder, matched⟩
  have same : order.Perm items := by
    apply (List.perm_ext_iff_of_nodup distinctOrder distinct).mpr
    exact fun item => (listedOrder item).trans (listed item).symm
  exact matched.length_eq.trans same.length_eq

theorem length_eq_length {Row' : Type} {Concerns' : Row' -> Item -> Prop} {rows' : List Row'}
    (matched : OneToOne Concerns rows Listed) (matched' : OneToOne Concerns' rows' Listed) :
    rows.length = rows'.length := by
  rcases matched' with ⟨order, distinct, listed, same⟩
  rw [matched.length_eq distinct listed, same.length_eq]

/-- There are no more rows than keys, when the items have different keys. -/
theorem length_le (matched : OneToOne Concerns rows Listed) {key : Item -> Key} {keys : List Key}
    (apart : forall left right, Listed left -> Listed right -> key left = key right -> left = right)
    (keyed : forall item, Listed item -> key item ∈ keys) : rows.length ≤ keys.length := by
  rcases matched with ⟨order, distinct, listed, matched⟩
  have distinctKeys : (order.map key).Nodup := by
    apply List.Nodup.map_on _ distinct
    intro left member right member' same
    exact apart left right ((listed left).mp member) ((listed right).mp member') same
  have known : order.map key ⊆ keys := by
    intro found member
    rcases List.mem_map.mp member with ⟨item, inside, rfl⟩
    exact keyed item ((listed item).mp inside)
  have bounded := (List.subperm_of_subset distinctKeys known).length_le
  rw [List.length_map] at bounded
  rw [matched.length_eq]
  exact bounded

end OneToOne

/-- The part of a grouped list that belongs to one group. -/
theorem filter_flatMap_of_owner {Group Row Key : Type} [DecidableEq Key] {groups : List Group} {key : Group -> Key}
    (distinct : (groups.map key).Nodup) {rowsOf : Group -> List Row} {owner : Row -> Key}
    (owned : forall group, group ∈ groups -> forall row, row ∈ rowsOf group -> owner row = key group)
    {group : Group} (member : group ∈ groups) :
    (groups.flatMap rowsOf).filter (fun row => decide (owner row = key group)) = rowsOf group := by
  induction groups with
  | nil => exact absurd member List.not_mem_nil
  | cons first groups inductionHypothesis =>
      rw [List.map_cons, List.nodup_cons] at distinct
      rw [List.flatMap_cons, List.filter_append]
      have later : forall other, other ∈ groups -> forall row, row ∈ rowsOf other -> owner row = key other :=
        fun other inside => owned other (List.mem_cons_of_mem _ inside)
      rcases List.mem_cons.mp member with rfl | inside
      · have whole : (rowsOf group).filter (fun row => decide (owner row = key group)) = rowsOf group :=
          List.filter_eq_self.mpr fun row listed => decide_eq_true (owned group List.mem_cons_self row listed)
        have nothing : (groups.flatMap rowsOf).filter (fun row => decide (owner row = key group)) = [] := by
          apply List.filter_eq_nil_iff.mpr
          intro row listed own
          rcases List.mem_flatMap.mp listed with ⟨other, inside, found⟩
          apply distinct.1
          rw [← of_decide_eq_true own, later other inside row found]
          exact List.mem_map_of_mem inside
        rw [whole, nothing, List.append_nil]
      · have nothing : (rowsOf first).filter (fun row => decide (owner row = key group)) = [] := by
          apply List.filter_eq_nil_iff.mpr
          intro row listed own
          apply distinct.1
          rw [← owned first List.mem_cons_self row listed, of_decide_eq_true own]
          exact List.mem_map_of_mem inside
        rw [nothing, List.nil_append, inductionHypothesis distinct.2 later inside]

end Foundation
end ApexQuant
