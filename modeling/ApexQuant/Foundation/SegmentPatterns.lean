import Mathlib.Data.List.Basic
import Mathlib.Data.Set.Basic

namespace ApexQuant
namespace Foundation

universe u

/-!
# Segment patterns with whole-segment wildcards

A pattern is a list of segments in which one distinguished segment, the
wildcard, stands for any segment.  A pattern reaches every request that
continues it, and a wildcard in last position reaches requests that stop short
of it as well.

Two relations on patterns are easily confused.  One pattern may *cover* the
other, read as if the other were a request.  Or the two may be *compatible*:
some request is reached by both.  Coverage in either direction implies
compatibility, and the converse fails exactly for crossing patterns, where each
side asks for something the other leaves open.  The results below make the
difference explicit; they are stated for segments of an arbitrary type.
-/

namespace SegmentPattern

variable {Segment : Type u} [DecidableEq Segment]

/-- Segment-by-segment coverage of a target, which may itself be a pattern. -/
def covers (star : Segment) : List Segment -> List Segment -> Bool
  | [], _ => true
  | segment :: rest, target =>
      if segment = star ∧ rest = [] then true
      else
        match target with
        | [] => false
        | head :: tail =>
            if segment = star then covers star rest tail
            else if segment = head then covers star rest tail else false

/-- The requests reached by a pattern: wildcard-free and covered. -/
def requests (star : Segment) (pattern : List Segment) : Set (List Segment) :=
  {request | star ∉ request ∧ covers star pattern request = true}

/-- Two patterns agree wherever both are literal. -/
def compatible (star : Segment) : List Segment -> List Segment -> Bool
  | left :: leftRest, right :: rightRest =>
      (decide (left = star) || decide (right = star) || decide (left = right)) &&
        compatible star leftRest rightRest
  | [], _ => true
  | _ :: _, [] => true

/-- The left pattern asks for something the right one leaves open: a literal
under a wildcard, or a further segment past the end. -/
def exceeds (star : Segment) : List Segment -> List Segment -> Bool
  | [], _ => false
  | segment :: rest, target =>
      if segment = star ∧ rest = [] then false
      else
        match target with
        | [] => true
        | head :: tail => (decide (segment ≠ star) && decide (head = star)) || exceeds star rest tail

variable {star : Segment}

@[simp] theorem covers_wildcard (target : List Segment) : covers star [star] target = true := by
  simp [covers]

/-- A literal head followed by a final wildcard covers exactly the targets that
open with that literal. -/
theorem covers_literal_wildcard {literal : Segment} (proper : literal ≠ star) (target : List Segment) :
    covers star [literal, star] target = true <-> target.head? = some literal := by
  cases target with
  | nil => simp [covers, proper]
  | cons head tail =>
      by_cases same : literal = head
      · simp [covers, same]
      · simp [covers, proper, same, Ne.symm same]

/-- One step of coverage.  Every later argument about coverage goes through
this equivalence rather than the defining recursion. -/
theorem covers_cons_iff (segment : Segment) (rest target : List Segment) :
    covers star (segment :: rest) target = true <->
      (segment = star ∧ rest = []) ∨
        Exists fun head => Exists fun tail => target = head :: tail ∧
          (segment = star ∨ segment = head) ∧ covers star rest tail = true := by
  by_cases last : segment = star ∧ rest = []
  · simp [covers, last]
  · cases target with
    | nil => simp [covers, last]
    | cons head tail =>
        by_cases wild : segment = star
        · have more : rest ≠ [] := fun empty => last ⟨wild, empty⟩
          simp [covers, wild, more]
        · by_cases same : segment = head
          · simp [covers, same]
          · simp [covers, wild, same]

theorem covers_append (pattern request suffix : List Segment)
    (covered : covers star pattern request = true) : covers star pattern (request ++ suffix) = true := by
  induction pattern generalizing request with
  | nil => rfl
  | cons segment rest inductionHypothesis =>
      rcases (covers_cons_iff _ _ _).mp covered with last | ⟨head, tail, rfl, choice, later⟩
      · exact (covers_cons_iff _ _ _).mpr (Or.inl last)
      · exact (covers_cons_iff _ _ _).mpr
          (Or.inr ⟨head, tail ++ suffix, rfl, choice, inductionHypothesis tail later⟩)

/-! ## Compatibility is common reach -/

/-- Replace the wildcard by a chosen literal. -/
def ground (star fill segment : Segment) : Segment :=
  if segment = star then fill else segment

/-- The most general request of two compatible patterns, open places filled. -/
def meet (star fill : Segment) : List Segment -> List Segment -> List Segment
  | left :: leftRest, right :: rightRest =>
      (if left = star then ground star fill right else left) :: meet star fill leftRest rightRest
  | [], right => right.map (ground star fill)
  | left :: leftRest, [] => (left :: leftRest).map (ground star fill)

theorem covers_map_ground (fill : Segment) (pattern : List Segment) :
    covers star pattern (pattern.map (ground star fill)) = true := by
  induction pattern with
  | nil => rfl
  | cons segment rest inductionHypothesis =>
      by_cases wild : segment = star
      · by_cases last : rest = []
        · simp [covers, wild, last]
        · simpa [covers, wild, last] using inductionHypothesis
      · simpa [covers, wild, ground] using inductionHypothesis

theorem covers_meet_left (fill : Segment) (left right : List Segment)
    (agree : compatible star left right = true) : covers star left (meet star fill left right) = true := by
  induction left generalizing right with
  | nil => rfl
  | cons segment rest inductionHypothesis =>
      cases right with
      | nil => exact covers_map_ground fill (segment :: rest)
      | cons other others =>
          simp only [compatible, Bool.and_eq_true] at agree
          have tail := inductionHypothesis others agree.2
          by_cases wild : segment = star
          · by_cases last : rest = []
            · simp [covers, wild, last]
            · simpa [covers, meet, wild, last] using tail
          · simpa [covers, meet, wild] using tail

theorem covers_meet_right (fill : Segment) (left right : List Segment)
    (agree : compatible star left right = true) : covers star right (meet star fill left right) = true := by
  induction right generalizing left with
  | nil => rfl
  | cons segment rest inductionHypothesis =>
      cases left with
      | nil => exact covers_map_ground fill (segment :: rest)
      | cons other others =>
          simp only [compatible, Bool.and_eq_true, Bool.or_eq_true, decide_eq_true_eq] at agree
          have tail := inductionHypothesis others agree.2
          by_cases wild : segment = star
          · by_cases last : rest = []
            · simp [covers, wild, last]
            · simpa [covers, meet, wild, last] using tail
          · -- A literal on the right meets a wildcard or the same literal on the left.
            have head : segment = (if other = star then ground star fill segment else other) := by
              by_cases open_ : other = star
              · rw [if_pos open_, ground, if_neg wild]
              · rw [if_neg open_]
                rcases agree.1 with (hole | hole) | same
                · exact absurd hole open_
                · exact absurd hole wild
                · exact same.symm
            simp only [covers, meet, wild, false_and, if_false, ← head, if_true]
            exact tail

theorem mem_meet {fill segment : Segment} {left right : List Segment}
    (member : segment ∈ meet star fill left right) :
    segment = fill ∨ (segment ≠ star ∧ (segment ∈ left ∨ segment ∈ right)) := by
  have grounded : forall {pattern : List Segment}, segment ∈ pattern.map (ground star fill) ->
      segment = fill ∨ (segment ≠ star ∧ segment ∈ pattern) := by
    intro pattern found
    rcases List.mem_map.mp found with ⟨source, listed, equal⟩
    by_cases wild : source = star
    · rw [ground, if_pos wild] at equal
      exact Or.inl equal.symm
    · rw [ground, if_neg wild] at equal
      exact Or.inr (equal ▸ ⟨wild, listed⟩)
  induction left generalizing right with
  | nil => exact (grounded member).imp id (fun found => ⟨found.1, Or.inr found.2⟩)
  | cons head tail inductionHypothesis =>
      cases right with
      | nil => exact (grounded member).imp id (fun found => ⟨found.1, Or.inl found.2⟩)
      | cons other others =>
          rw [meet] at member
          rcases List.mem_cons.mp member with equal | later
          · by_cases wild : head = star
            · rw [if_pos wild] at equal
              have found : segment ∈ [other].map (ground star fill) := by simp [equal]
              refine (grounded found).imp id (fun found => ⟨found.1, Or.inr ?_⟩)
              exact List.mem_cons.mpr (Or.inl (List.mem_singleton.mp found.2))
            · rw [if_neg wild] at equal
              exact Or.inr ⟨equal ▸ wild, Or.inl (List.mem_cons.mpr (Or.inl equal))⟩
          · exact (inductionHypothesis later).imp id (fun found =>
              ⟨found.1, found.2.imp (List.mem_cons_of_mem _) (List.mem_cons_of_mem _)⟩)

theorem length_meet (fill : Segment) (left right : List Segment) :
    (meet star fill left right).length = max left.length right.length := by
  induction left generalizing right with
  | nil => simp [meet]
  | cons head tail inductionHypothesis =>
      cases right with
      | nil => simp [meet]
      | cons other others => simp [meet, inductionHypothesis others]

/-- Compatible patterns reach a common request whose segments come from the two
patterns and a filler, and whose length is any least length asked for or the
longer pattern's own. -/
theorem exists_request_of_compatible {fill : Segment} (proper : fill ≠ star) (least : Nat)
    (left right : List Segment) (agree : compatible star left right = true) :
    Exists fun request : List Segment =>
      request ∈ requests star left ∧ request ∈ requests star right ∧
        request.length = max least (max left.length right.length) ∧
        forall segment, segment ∈ request ->
          segment = fill ∨ (segment ≠ star ∧ (segment ∈ left ∨ segment ∈ right)) := by
  let padding := List.replicate (least - (meet star fill left right).length) fill
  have sources : forall segment, segment ∈ meet star fill left right ++ padding ->
      segment = fill ∨ (segment ≠ star ∧ (segment ∈ left ∨ segment ∈ right)) := by
    intro segment member
    rcases List.mem_append.mp member with inside | padded
    · exact mem_meet inside
    · exact Or.inl (List.eq_of_mem_replicate padded)
  have wildcardFree : star ∉ meet star fill left right ++ padding := by
    intro member
    rcases sources star member with equal | found
    · exact proper equal.symm
    · exact found.1 rfl
  refine ⟨meet star fill left right ++ padding, ⟨wildcardFree, ?_⟩, ⟨wildcardFree, ?_⟩, ?_, sources⟩
  · exact covers_append left _ padding (covers_meet_left fill left right agree)
  · exact covers_append right _ padding (covers_meet_right fill left right agree)
  · simp only [padding, List.length_append, List.length_replicate, length_meet]
    omega

/-- Conversely, a common request forces agreement at every shared place. -/
theorem compatible_of_request {left right request : List Segment}
    (fromLeft : request ∈ requests star left) (fromRight : request ∈ requests star right) :
    compatible star left right = true := by
  induction left generalizing right request with
  | nil => rfl
  | cons segment rest inductionHypothesis =>
      cases right with
      | nil => rfl
      | cons other others =>
          simp only [compatible, Bool.and_eq_true, Bool.or_eq_true, decide_eq_true_eq]
          rcases (covers_cons_iff _ _ _).mp fromLeft.2 with ⟨wild, rfl⟩ | ⟨head, tail, rfl, leftChoice, leftRest⟩
          · exact ⟨Or.inl (Or.inl wild), rfl⟩
          · rcases (covers_cons_iff _ _ _).mp fromRight.2 with ⟨wild, rfl⟩ | ⟨head', tail', same, rightChoice, rightRest⟩
            · refine ⟨Or.inl (Or.inr wild), ?_⟩
              cases rest <;> rfl
            · rw [List.cons.injEq] at same
              rcases same with ⟨rfl, rfl⟩
              have tailFree : star ∉ tail := fun member => fromLeft.1 (List.mem_cons_of_mem _ member)
              refine ⟨?_, inductionHypothesis ⟨tailFree, leftRest⟩ ⟨tailFree, rightRest⟩⟩
              rcases leftChoice with leftWild | leftSame
              · exact Or.inl (Or.inl leftWild)
              · rcases rightChoice with rightWild | rightSame
                · exact Or.inl (Or.inr rightWild)
                · exact Or.inr (leftSame.trans rightSame.symm)

/-! ## Coverage in either direction, and where it falls short -/

/-- Coverage is agreement without anything left over. -/
theorem covers_eq_of_compatible (left right : List Segment) (agree : compatible star left right = true) :
    covers star left right = !exceeds star left right := by
  induction left generalizing right with
  | nil => rfl
  | cons segment rest inductionHypothesis =>
      by_cases last : segment = star ∧ rest = []
      · simp [covers, exceeds, last]
      · cases right with
        | nil => simp [covers, exceeds, last]
        | cons other others =>
            simp only [compatible, Bool.and_eq_true, Bool.or_eq_true, decide_eq_true_eq] at agree
            have tail := inductionHypothesis others agree.2
            simp only [covers, exceeds, if_neg last]
            by_cases wild : segment = star
            · simpa [wild] using tail
            · rcases agree.1 with (hole | hole) | same
              · exact absurd hole wild
              · simp [wild, hole]
              · simpa [wild, same, same ▸ wild] using tail

theorem compatible_of_covers {left right : List Segment} (covered : covers star left right = true) :
    compatible star left right = true := by
  induction left generalizing right with
  | nil => rfl
  | cons segment rest inductionHypothesis =>
      cases right with
      | nil => rfl
      | cons other others =>
          simp only [compatible, Bool.and_eq_true, Bool.or_eq_true, decide_eq_true_eq]
          rcases (covers_cons_iff _ _ _).mp covered with ⟨wild, rfl⟩ | ⟨head, tail, same, choice, later⟩
          · exact ⟨Or.inl (Or.inl wild), rfl⟩
          · rw [List.cons.injEq] at same
            rcases same with ⟨rfl, rfl⟩
            exact ⟨choice.imp Or.inl id, inductionHypothesis later⟩

theorem compatible_comm (left right : List Segment) :
    compatible star left right = compatible star right left := by
  induction left generalizing right with
  | nil => cases right <;> rfl
  | cons segment rest inductionHypothesis =>
      cases right with
      | nil => rfl
      | cons other others =>
          simp only [compatible, inductionHypothesis others]
          congr 1
          rw [Bool.or_comm (decide (segment = star)), decide_eq_decide.mpr (eq_comm (a := segment) (b := other))]

/-- Mutual coverage decides common reach exactly off the crossing pairs. -/
theorem covers_or_eq_compatible_iff (left right : List Segment) :
    (covers star left right || covers star right left) = compatible star left right <->
      ¬ (compatible star left right = true ∧ exceeds star left right = true ∧ exceeds star right left = true) := by
  cases agree : compatible star left right with
  | true =>
      rw [covers_eq_of_compatible left right agree,
        covers_eq_of_compatible right left ((compatible_comm right left).trans agree)]
      cases exceeds star left right <;> cases exceeds star right left <;> decide
  | false =>
      have leftOpen : covers star left right = false := by
        cases covered : covers star left right with
        | false => rfl
        | true => exact absurd (compatible_of_covers covered) (by simp [agree])
      have rightOpen : covers star right left = false := by
        cases covered : covers star right left with
        | false => rfl
        | true => exact absurd ((compatible_comm left right).trans (compatible_of_covers covered)) (by simp [agree])
      simp [leftOpen, rightOpen]

/-! ## The two plain ways of covering -/

theorem covers_self (pattern : List Segment) : covers star pattern pattern = true := by
  induction pattern with
  | nil => rfl
  | cons segment rest inductionHypothesis =>
      exact (covers_cons_iff _ _ _).mpr (Or.inr ⟨segment, rest, rfl, Or.inr rfl, inductionHypothesis⟩)

/-- A stem with a final wildcard covers every continuation of the stem. -/
theorem covers_stem_wildcard (stem more : List Segment) :
    covers star (stem ++ [star]) (stem ++ more) = true := by
  induction stem with
  | nil => exact covers_wildcard more
  | cons segment rest inductionHypothesis =>
      exact (covers_cons_iff _ _ _).mpr
        (Or.inr ⟨segment, rest ++ more, rfl, Or.inr rfl, inductionHypothesis⟩)

/-- Coverage composes.  The middle pattern may end in a wildcard that swallows nothing,
so the request must reach at least one short of the covering pattern. -/
theorem covers_trans {pattern middle request : List Segment} (first : covers star pattern middle = true)
    (second : covers star middle request = true) (reaches : pattern.length ≤ request.length + 1) :
    covers star pattern request = true := by
  induction pattern generalizing middle request with
  | nil => rfl
  | cons segment rest inductionHypothesis =>
      apply (covers_cons_iff _ _ _).mpr
      rcases (covers_cons_iff _ _ _).mp first with last | ⟨head, tail, rfl, choice, later⟩
      · exact Or.inl last
      · rcases (covers_cons_iff _ _ _).mp second with ⟨wild, rfl⟩ | ⟨head', tail', rfl, choice', later'⟩
        · -- The middle is a lone wildcard: what is left of the pattern is nothing or another one.
          have segment_wild : segment = star := choice.elim id fun same => same.trans wild
          cases rest with
          | nil => exact Or.inl ⟨segment_wild, rfl⟩
          | cons next others =>
              have final : next = star ∧ others = [] := by
                rcases (covers_cons_iff _ _ _).mp later with final | ⟨_, _, impossible, _⟩
                · exact final
                · cases impossible
              rcases final with ⟨rfl, rfl⟩
              cases request with
              | nil =>
                  simp only [List.length_cons, List.length_nil] at reaches
                  omega
              | cons asked more => exact Or.inr ⟨asked, more, rfl, Or.inl segment_wild, covers_wildcard more⟩
        · refine Or.inr ⟨head', tail', rfl, ?_, inductionHypothesis later later' (Nat.le_of_succ_le_succ reaches)⟩
          rcases choice with wild | same
          · exact Or.inl wild
          · rcases choice' with wild' | same'
            · exact Or.inl (same.trans wild')
            · exact Or.inr (same.trans same')

end SegmentPattern
end Foundation
end ApexQuant
