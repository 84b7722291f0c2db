import Mathlib.Data.List.Chain
import Mathlib.Algebra.Order.Group.Int

namespace ApexQuant
namespace Foundation

/-!
# Hash-chained logs

A log whose rows each carry the hash of their predecessor and a hash of their
own, computed from the row's content and the predecessor's hash.  A `Scheme`
says where a row keeps these and how a hash is computed; nothing is assumed of
the row type.  Everything below is read along the list, so that a log may be
extended on the right, cut anywhere, or compared with another one from the end.

When the digest determines its arguments, the last hash commits to every row
before it.  That is the only place where anything is assumed of the digest.
-/

/-- Where a row of the log keeps its links, and how they are computed. -/
structure Scheme (Row Content Hash : Type*) where
  content : Row -> Content
  prev : Row -> Hash
  hash : Row -> Hash
  digest : Content -> Hash -> Hash

namespace Scheme

variable {Row Content Hash : Type*} (scheme : Scheme Row Content Hash)

/-- A row continues the chain that ends in the given hash. -/
def Continues (before : Hash) (row : Row) : Prop :=
  scheme.prev row = before ∧ scheme.hash row = scheme.digest (scheme.content row) before

/-- The rows form a chain that starts from the given hash. -/
def Sealed : Hash -> List Row -> Prop
  | _, [] => True
  | before, row :: rows => scheme.Continues before row ∧ Sealed (scheme.hash row) rows

/-- The hash in which a list of rows ends. -/
def tip (before : Hash) (rows : List Row) : Hash :=
  (rows.getLast?.map scheme.hash).getD before

theorem tip_cons (before : Hash) (row : Row) (rows : List Row) :
    scheme.tip before (row :: rows) = scheme.tip (scheme.hash row) rows := by
  rw [tip, tip, List.getLast?_cons]
  cases rows.getLast? <;> rfl

/-- A chain may be cut at any place. -/
theorem sealed_append (before : Hash) (left right : List Row) :
    scheme.Sealed before (left ++ right) <->
      scheme.Sealed before left ∧ scheme.Sealed (scheme.tip before left) right := by
  induction left generalizing before with
  | nil => exact (iff_of_eq (true_and _)).symm
  | cons row rows inductionHypothesis =>
      rw [List.cons_append, Sealed, Sealed, inductionHypothesis, tip_cons, and_assoc]

theorem sealed_concat (before : Hash) (rows : List Row) (last : Row) :
    scheme.Sealed before (rows ++ [last]) <->
      scheme.Sealed before rows ∧ scheme.Continues (scheme.tip before rows) last := by
  rw [sealed_append]
  exact and_congr_right fun _ => iff_of_eq (and_true _)

theorem Sealed.take {scheme : Scheme Row Content Hash} {before : Hash} {rows : List Row}
    (chained : scheme.Sealed before rows) (n : Nat) : scheme.Sealed before (rows.take n) := by
  rw [← List.take_append_drop n rows, sealed_append] at chained
  exact chained.1

/-! ## Reading a chain by position -/

/-- The hash that the row at a position has to continue. -/
def predecessor (before : Hash) (rows : List Row) : Nat -> Hash
  | 0 => before
  | i + 1 => (rows[i]?.map scheme.hash).getD before

theorem predecessor_cons (before : Hash) (row : Row) (rows : List Row) {i : Nat} (inside : i < rows.length) :
    scheme.predecessor before (row :: rows) (i + 1) = scheme.predecessor (scheme.hash row) rows i := by
  cases i with
  | zero => rfl
  | succ j =>
      have present : j < rows.length := by omega
      simp only [predecessor, List.getElem?_cons_succ, List.getElem?_eq_getElem present]
      rfl

/-- A chain is one in which every row continues the hash before it. -/
theorem sealed_iff_forall (before : Hash) (rows : List Row) :
    scheme.Sealed before rows <->
      forall i row, rows[i]? = some row -> scheme.Continues (scheme.predecessor before rows i) row := by
  induction rows generalizing before with
  | nil => exact iff_of_true trivial (by simp)
  | cons first rows inductionHypothesis =>
      rw [Sealed, inductionHypothesis]
      constructor
      · rintro ⟨opening, rest⟩ i row found
        cases i with
        | zero =>
            rw [List.getElem?_cons_zero, Option.some_inj] at found
            subst found
            exact opening
        | succ j =>
            rw [List.getElem?_cons_succ] at found
            rw [predecessor_cons _ _ _ _ (List.getElem?_eq_some_iff.mp found).1]
            exact rest j row found
      · intro each
        refine ⟨each 0 first rfl, ?_⟩
        intro j row found
        rw [← predecessor_cons scheme before first rows (List.getElem?_eq_some_iff.mp found).1]
        exact each (j + 1) row found

/-! ## The last hash commits to the whole log -/

/-- The rows carry the same links and contents that agree. -/
structure SameLink (Agree : Content -> Content -> Prop) (left right : Row) : Prop where
  content : Agree (scheme.content left) (scheme.content right)
  prev : scheme.prev left = scheme.prev right
  hash : scheme.hash left = scheme.hash right

/-- Suppose that a digest determines its arguments, the content up to some
relation.  Then two chains of one length that end in the same hash started from
the same hash and agree row by row. -/
theorem Sealed.eq_of_tip_eq {scheme : Scheme Row Content Hash} {Agree : Content -> Content -> Prop}
    (determines : forall content content' before before',
      scheme.digest content before = scheme.digest content' before' -> Agree content content' ∧ before = before')
    {left right : List Row} {before before' : Hash} (sameLength : left.length = right.length)
    (chained : scheme.Sealed before left) (chained' : scheme.Sealed before' right)
    (sameTip : scheme.tip before left = scheme.tip before' right) :
    before = before' ∧ List.Forall₂ (scheme.SameLink Agree) left right := by
  induction left generalizing right before before' with
  | nil =>
      rw [List.eq_nil_of_length_eq_zero sameLength.symm] at sameTip ⊢
      exact ⟨sameTip, List.Forall₂.nil⟩
  | cons row rows inductionHypothesis =>
      cases right with
      | nil => exact absurd sameLength (Nat.succ_ne_zero _)
      | cons row' rows' =>
          rw [tip_cons, tip_cons] at sameTip
          rcases inductionHypothesis (Nat.succ.inj sameLength) chained.2 chained'.2 sameTip with ⟨sameHash, rest⟩
          have sameDigest := sameHash
          rw [chained.1.2, chained'.1.2] at sameDigest
          rcases determines _ _ _ _ sameDigest with ⟨agree, sameBefore⟩
          refine ⟨sameBefore, List.Forall₂.cons ?_ rest⟩
          exact { content := agree, prev := by rw [chained.1.1, chained'.1.1, sameBefore], hash := sameHash }

end Scheme

/-! ## Consecutive numbers -/

/-- Each number is one more than the number before it. -/
def Consecutive (numbers : List Int) : Prop :=
  numbers.IsChain fun a b => b = a + 1

namespace Consecutive

theorem append_iff (left right : List Int) :
    Consecutive (left ++ right) <->
      Consecutive left ∧ Consecutive right ∧
        forall a, a ∈ left.getLast? -> forall b, b ∈ right.head? -> b = a + 1 :=
  List.isChain_append

theorem concat_iff (numbers : List Int) (next : Int) :
    Consecutive (numbers ++ [next]) <->
      Consecutive numbers ∧ (numbers = [] ∨ Exists fun last => numbers.getLast? = some last ∧ next = last + 1) := by
  rw [append_iff]
  refine and_congr_right fun _ => ?_
  cases found : numbers.getLast? with
  | none =>
      rw [List.getLast?_eq_none_iff] at found
      exact iff_of_true ⟨List.isChain_singleton _, by simp⟩ (Or.inl found)
  | some last =>
      have nonempty : numbers ≠ [] := by
        intro empty
        rw [empty] at found
        exact absurd found (by simp)
      simp [nonempty, Consecutive]

theorem take {numbers : List Int} (consecutive : Consecutive numbers) (n : Nat) : Consecutive (numbers.take n) :=
  List.IsChain.take consecutive n

/-- Consecutive numbers count up from the first one. -/
theorem iff_forall (numbers : List Int) :
    Consecutive numbers <->
      forall first, numbers[0]? = some first -> forall (i : Nat) n, numbers[i]? = some n -> n = first + i := by
  induction numbers with
  | nil => exact iff_of_true List.isChain_nil (by simp)
  | cons head rest inductionHypothesis =>
      rw [Consecutive, List.isChain_cons]
      change _ ∧ Consecutive rest <-> _
      rw [inductionHypothesis, List.head?_eq_getElem?]
      constructor
      · rintro ⟨joined, counted⟩ first opening i n found
        rw [List.getElem?_cons_zero, Option.some_inj] at opening
        subst opening
        cases i with
        | zero => simpa using found.symm
        | succ j =>
            rw [List.getElem?_cons_succ] at found
            obtain ⟨second, start⟩ : Exists fun second => rest[0]? = some second := by
              rw [← List.head?_eq_getElem?, ← Option.isSome_iff_exists, List.isSome_head?]
              exact List.ne_nil_of_mem (List.mem_of_getElem? found)
            have step := joined second start
            have later := counted second start j n found
            push_cast
            omega
      · intro counted
        have step : forall second, rest[0]? = some second -> second = head + 1 := by
          intro second start
          simpa using counted head rfl 1 second start
        refine ⟨step, ?_⟩
        intro second start j n found
        have later := counted head rfl (j + 1) n found
        have first := step second start
        push_cast at later
        omega

end Consecutive
end Foundation
end ApexQuant
