import Mathlib.Data.List.Nodup
import Mathlib.Logic.Function.Iterate

namespace ApexQuant
namespace Foundation

/-!
# Retrying the head of a queue

A worker looks at the first `window` entries of a queue, over and over.  What it
settles leaves the queue, and what it fails to settle stays in its place.  Nothing
is lost and nothing is settled twice.

An entry is reached in the end exactly when fewer than `window` of the entries before
it are such that the worker never settles them: they fill the window otherwise, and
nothing behind them is looked at again.

A worker is one party among others.  What it does on its own it also does when the
steps of the others stand between its own, if these keep what it relies on.
-/

namespace Retrying

variable {Entry : Type*} {window : Nat}

/-- What one look settles, in the order of the queue. -/
def settled (window : Nat) (settles : Entry -> Bool) (queue : List Entry) : List Entry :=
  (queue.take window).filter settles

/-- The queue after one look. -/
def look (window : Nat) (settles : Entry -> Bool) (queue : List Entry) : List Entry :=
  (queue.take window).filter (fun entry => !settles entry) ++ queue.drop window

/-- What a row of looks settles; each look has a verdict of its own. -/
def settledBy (window : Nat) : List (Entry -> Bool) -> List Entry -> List Entry
  | [], _ => []
  | settles :: later, queue => settled window settles queue ++ settledBy window later (look window settles queue)

variable {settles : Entry -> Bool}

theorem look_sublist (queue : List Entry) : (look window settles queue).Sublist queue := by
  have cut : (queue.take window ++ queue.drop window).Sublist queue := by
    rw [List.take_append_drop]
  exact ((List.filter_sublist).append (List.Sublist.refl _)).trans cut

/-- A look divides the queue. -/
theorem settled_look_perm (queue : List Entry) :
    (settled window settles queue ++ look window settles queue).Perm queue := by
  have divided := List.filter_append_perm settles (queue.take window)
  rw [settled, look, ← List.append_assoc]
  exact (divided.append_right (queue.drop window)).trans (List.Perm.of_eq (List.take_append_drop window queue))

/-- Whatever the verdicts, no entry is lost and none is settled twice. -/
theorem settledBy_perm (verdicts : List (Entry -> Bool)) (queue : List Entry) :
    (settledBy window verdicts queue ++
      verdicts.foldl (fun queue settles => look window settles queue) queue).Perm queue := by
  induction verdicts generalizing queue with
  | nil => exact List.Perm.refl queue
  | cons settles later inductionHypothesis =>
      rw [settledBy, List.foldl_cons, List.append_assoc]
      exact ((inductionHypothesis (look window settles queue)).append_left _).trans (settled_look_perm queue)

/-- A worker that settles everything takes the queue from its head. -/
theorem settledBy_of_all {verdicts : List (Entry -> Bool)}
    (all : forall settles, settles ∈ verdicts -> forall entry, settles entry = true) (queue : List Entry) :
    settledBy window verdicts queue = queue.take (window * verdicts.length) := by
  induction verdicts generalizing queue with
  | nil => simp [settledBy]
  | cons settles later inductionHypothesis =>
      have every : forall entry, settles entry = true := all settles List.mem_cons_self
      have whole : settled window settles queue = queue.take window :=
        List.filter_eq_self.mpr fun entry _ => every entry
      have rest : look window settles queue = queue.drop window := by
        simp [look, every]
      rw [settledBy, whole, rest, inductionHypothesis fun other member => all other (List.mem_cons_of_mem _ member),
        ← List.take_add, List.length_cons]
      congr 1
      rw [Nat.mul_succ, Nat.add_comm]

/-- A look takes out exactly what it has settled. -/
theorem look_eq_filter {queue : List Entry} (distinct : queue.Nodup) {gone : Entry -> Bool}
    (goes : forall entry, entry ∈ queue -> (gone entry = true <-> entry ∈ queue.take window ∧ settles entry = true)) :
    look window settles queue = queue.filter fun entry => !gone entry := by
  have divided : queue.filter (fun entry => !gone entry) =
      (queue.take window).filter (fun entry => !gone entry) ++ (queue.drop window).filter fun entry => !gone entry := by
    rw [← List.filter_append, List.take_append_drop]
  rw [divided, look]
  congr 1
  · apply List.filter_congr
    intro entry member
    rw [Bool.eq_iff_iff.mpr ((goes entry (List.mem_of_mem_take member)).trans (and_iff_right member))]
  · symm
    apply List.filter_eq_self.mpr
    intro entry member
    rw [Bool.not_eq_true', Bool.eq_false_iff]
    intro taken
    have early := ((goes entry (List.mem_of_mem_drop member)).mp taken).1
    exact List.disjoint_take_drop distinct (Nat.le_refl window) early member

/-! ## What is reached -/

/-- An entry behind the window stays behind what is left of those before it. -/
theorem look_append_cons {earlier : List Entry} (full : window ≤ earlier.length) (entry : Entry) (later : List Entry) :
    look window settles (earlier ++ entry :: later) = look window settles earlier ++ entry :: later := by
  rw [look, look, List.take_append_of_le_length full, List.drop_append_of_le_length full, List.append_assoc]

/-- A look leaves every entry that it does not settle. -/
theorem countP_look (queue : List Entry) :
    (look window settles queue).countP (fun entry => !settles entry) = queue.countP fun entry => !settles entry := by
  rw [look, List.countP_append, List.countP_filter]
  simp only [Bool.and_self]
  rw [← List.countP_append, List.take_append_drop]

/-- With fewer than `window` entries it cannot settle, a full look settles something. -/
theorem length_look_lt {queue : List Entry} (full : window ≤ queue.length)
    (few : queue.countP (fun entry => !settles entry) < window) :
    (look window settles queue).length < queue.length := by
  have part : (queue.take window).countP (fun entry => !settles entry) ≤ queue.countP fun entry => !settles entry :=
    (List.take_sublist window queue).countP_le
  rw [look, List.length_append, List.length_drop, ← List.countP_eq_length_filter]
  omega

theorem not_mem_of_look {entry : Entry} {earlier later : List Entry} (settling : settles entry = true)
    (inside : earlier.length < window) (distinct : (earlier ++ entry :: later).Nodup) :
    entry ∉ look window settles (earlier ++ entry :: later) := by
  have early : entry ∈ (earlier ++ entry :: later).take window := by
    rw [List.mem_take_iff_getElem]
    refine ⟨earlier.length, ?_, by simp⟩
    rw [List.length_append, List.length_cons]
    omega
  intro member
  rcases List.mem_append.mp member with kept | behind
  · have refused := (List.mem_filter.mp kept).2
    rw [settling] at refused
    cases refused
  · exact List.disjoint_take_drop distinct (Nat.le_refl window) early behind

/-- Entries that are never settled and fill the window keep the worker from all others. -/
theorem stays_behind {earlier : List Entry} (entry : Entry) (later : List Entry)
    (many : window ≤ earlier.countP fun entry => !settles entry) (looks : Nat) :
    entry ∈ (look window settles)^[looks] (earlier ++ entry :: later) := by
  induction looks generalizing earlier with
  | zero => exact List.mem_append_right _ List.mem_cons_self
  | succ looks inductionHypothesis =>
      have full : window ≤ earlier.length := Nat.le_trans many List.countP_le_length
      rw [Function.iterate_succ_apply, look_append_cons full]
      apply inductionHypothesis
      rw [countP_look]
      exact many

/-- Otherwise each look brings the entry nearer, and it is settled. -/
theorem reached {entry : Entry} (settling : settles entry = true) (later : List Entry) {earlier : List Entry}
    (few : (earlier.countP fun entry => !settles entry) < window) (distinct : (earlier ++ entry :: later).Nodup) :
    Exists fun looks => looks ≤ earlier.length + 1 ∧
      entry ∉ (look window settles)^[looks] (earlier ++ entry :: later) := by
  induction size : earlier.length using Nat.strongRecOn generalizing earlier with
  | ind length inductionHypothesis =>
      by_cases full : window ≤ earlier.length
      · have nearer := length_look_lt full few
        have shorter : (look window settles earlier ++ entry :: later).Nodup := by
          rw [← look_append_cons full]
          exact distinct.sublist (look_sublist _)
        rw [← countP_look] at few
        rcases inductionHypothesis _ (size ▸ nearer) few shorter rfl with ⟨looks, bounded, gone⟩
        refine ⟨looks + 1, by omega, ?_⟩
        rw [Function.iterate_succ_apply, look_append_cons full]
        exact gone
      · exact ⟨1, by omega, not_mem_of_look settling (by omega) distinct⟩

/-- An entry that can be settled is reached exactly when the window is not filled
before it. -/
theorem reached_iff {entry : Entry} (settling : settles entry = true) {earlier later : List Entry}
    (distinct : (earlier ++ entry :: later).Nodup) :
    (Exists fun looks => entry ∉ (look window settles)^[looks] (earlier ++ entry :: later)) <->
      (earlier.countP fun entry => !settles entry) < window := by
  constructor
  · rintro ⟨looks, gone⟩
    by_contra many
    exact gone (stays_behind entry later (Nat.not_lt.mp many) looks)
  · intro few
    rcases reached settling later few distinct with ⟨looks, -, gone⟩
    exact ⟨looks, gone⟩

end Retrying

/-! ## A worker among others -/

/-- What holds of a state while a worker still has certain steps to take, holds to the
end of a run in which the steps of others stand between them. -/
theorem Run.among_others {State Action : Type*} {step : State -> Action -> State} {own : Action -> Bool}
    {Inv : List Action -> State -> Prop}
    (others : forall left state action, own action = false -> Inv left state -> Inv left (step state action))
    (mine : forall action left state, own action = true -> Inv (action :: left) state -> Inv left (step state action))
    {actions : List Action} {state : State} (initially : Inv (actions.filter own) state) :
    Inv [] (actions.foldl step state) := by
  induction actions generalizing state with
  | nil => exact initially
  | cons action actions inductionHypothesis =>
      apply inductionHypothesis
      cases whose : own action with
      | true =>
          rw [List.filter_cons_of_pos whose] at initially
          exact mine action _ state whose initially
      | false =>
          rw [List.filter_cons_of_neg (by simp [whose])] at initially
          exact others _ state action whose initially

end Foundation
end ApexQuant
