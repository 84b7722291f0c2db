import Mathlib.Algebra.Order.Group.Defs
import Mathlib.Data.List.Induction
import Mathlib.Tactic.Linarith

namespace ApexQuant
namespace Foundation

/-!
# Sliding windows

How many of the moments in a list are later than a moment, and when a window that ends at
the last of them holds more than a limit.  In a list in order these are the last ones.
-/

namespace SlidingWindow

section Order

variable {Moment : Type} [LinearOrder Moment]

theorem lt_countP_of_descending {limit : Nat} {cutoff : Moment} {moments : List Moment}
    (descending : moments.Pairwise fun later earlier => earlier ≤ later) :
    limit < moments.countP (fun moment => decide (cutoff < moment)) <->
      Exists fun first => moments[limit]? = some first ∧ cutoff < first := by
  induction moments generalizing limit with
  | nil => simp
  | cons latest moments ih =>
      rw [List.pairwise_cons] at descending
      by_cases recent : cutoff < latest
      · rw [List.countP_cons, if_pos (decide_eq_true recent)]
        cases limit with
        | zero => simp [recent]
        | succ limit => rw [Nat.succ_lt_succ_iff, ih descending.2, List.getElem?_cons_succ]
      · -- Nothing before a moment that is too early is recent.
        have early (moment : Moment) (member : moment ∈ latest :: moments) : ¬cutoff < moment := by
          rcases List.mem_cons.mp member with rfl | member
          · exact recent
          · exact fun later => recent (later.trans_le (descending.1 moment member))
        have none : (latest :: moments).countP (fun moment => decide (cutoff < moment)) = 0 := by
          rw [List.countP_eq_zero]
          intro moment member later
          exact early moment member (of_decide_eq_true later)
        rw [none]
        constructor
        · intro positive
          cases positive
        · rintro ⟨first, found, later⟩
          exact absurd later (early first (List.mem_of_getElem? found))

/-- In a list in order more than the limit are recent when the one that has the limit of
others after it is. -/
theorem lt_countP_iff {limit : Nat} {cutoff : Moment} {moments : List Moment}
    (ordered : moments.Pairwise fun earlier later => earlier ≤ later) :
    limit < moments.countP (fun moment => decide (cutoff < moment)) <->
      Exists fun first => moments.reverse[limit]? = some first ∧ cutoff < first := by
  rw [← List.countP_reverse]
  exact lt_countP_of_descending (List.pairwise_reverse.mpr ordered)

end Order

variable {Moment : Type} [AddCommGroup Moment] [LinearOrder Moment]

/-- Some moment with the limit of others after it lies within the window of the last of them. -/
def Burst (limit : Nat) (window : Moment) (moments : List Moment) : Prop :=
  Exists fun index => Exists fun first => Exists fun last =>
    moments[index]? = some first ∧ moments[index + limit]? = some last ∧ last - window < first

theorem not_burst_nil (limit : Nat) (window : Moment) : ¬Burst limit window [] := by
  rintro ⟨index, first, last, found, -⟩
  cases found

/-- One more moment makes a burst when the window that ends at it holds more than the limit. -/
theorem burst_concat {limit : Nat} {window : Moment} {moments : List Moment} {now : Moment}
    (ordered : (moments ++ [now]).Pairwise fun earlier later => earlier ≤ later) :
    Burst limit window (moments ++ [now]) <->
      Burst limit window moments ∨
        limit < (moments ++ [now]).countP fun moment => decide (now - window < moment) := by
  rw [lt_countP_iff ordered]
  constructor
  · rintro ⟨index, first, last, found, found', within⟩
    have bound : index + limit < moments.length + 1 := by
      have bound := (List.getElem?_eq_some_iff.mp found').1
      simpa using bound
    rcases Nat.lt_succ_iff_lt_or_eq.mp bound with inside | final
    · left
      rw [List.getElem?_append_left inside] at found'
      rw [List.getElem?_append_left (by omega)] at found
      exact ⟨index, first, last, found, found', within⟩
    · right
      rw [final, List.getElem?_concat_length] at found'
      cases found'
      refine ⟨first, ?_, within⟩
      rw [List.getElem?_reverse (by simp; omega), ← found]
      congr 1
      simp
      omega
  · rintro (⟨index, first, last, found, found', within⟩ | ⟨first, found, within⟩)
    · refine ⟨index, first, last, ?_, ?_, within⟩
      · exact List.getElem?_append_left (List.getElem?_eq_some_iff.mp found).1 |>.trans found
      · exact List.getElem?_append_left (List.getElem?_eq_some_iff.mp found').1 |>.trans found'
    · have bound : limit < moments.length + 1 := by
        have bound := (List.getElem?_eq_some_iff.mp found).1
        simpa using bound
      rw [List.getElem?_reverse (by simp; omega)] at found
      refine ⟨moments.length - limit, first, now, ?_, ?_, within⟩
      · rw [← found]
        congr 1
        simp
      · have final : moments.length - limit + limit = moments.length := by omega
        rw [final, List.getElem?_concat_length]

end SlidingWindow
end Foundation
end ApexQuant
