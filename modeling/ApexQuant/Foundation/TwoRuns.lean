import ApexQuant.Foundation.Database

namespace ApexQuant
namespace Foundation

/-!
# Two runs of a program

A program that must not depend on something is run twice, from two states that agree
on everything else.  `Alike` says that the two runs end alike: both return related
answers, or both raise the same exception, and the states they leave agree again.
Two different programs may be compared, so that what the environment draws can differ
between the runs.
-/

namespace TwoRuns

variable {State Error A B : Type}

/-- From states that agree, the programs end alike. -/
def Alike (agree : State -> State -> Prop) (first second : EStateM Error State A) (answers : A -> A -> Prop) : Prop :=
  forall left right, agree left right ->
    match first left, second right with
    | .ok a left, .ok b right => answers a b ∧ agree left right
    | .error e left, .error f right => e = f ∧ agree left right
    | .ok _ _, .error _ _ => False
    | .error _ _, .ok _ _ => False

namespace Alike

variable {agree : State -> State -> Prop} {answers : A -> A -> Prop}

theorem pure {a b : A} (related : answers a b) :
    Alike agree (Pure.pure a : EStateM Error State A) (Pure.pure b) answers :=
  fun _ _ agrees => ⟨related, agrees⟩

theorem throw (error : Error) :
    Alike agree (MonadExcept.throw error : EStateM Error State A) (MonadExcept.throw error) answers :=
  fun _ _ agrees => ⟨rfl, agrees⟩

theorem bind {first second : EStateM Error State A} {rest other : A -> EStateM Error State B}
    {answers' : B -> B -> Prop} (begins : Alike agree first second answers)
    (continues : forall a b, answers a b -> Alike agree (rest a) (other b) answers') :
    Alike agree (first >>= rest) (second >>= other) answers' := by
  intro left right agrees
  have opening := begins left right agrees
  change match EStateM.bind first rest left, EStateM.bind second other right with
    | .ok a left, .ok b right => answers' a b ∧ agree left right
    | .error e left, .error f right => e = f ∧ agree left right
    | .ok _ _, .error _ _ => False
    | .error _ _, .ok _ _ => False
  unfold EStateM.bind
  cases ranFirst : first left with
  | ok a left' =>
      cases ranSecond : second right with
      | ok b right' =>
          rw [ranFirst, ranSecond] at opening
          exact continues a b opening.1 left' right' opening.2
      | error f right' =>
          rw [ranFirst, ranSecond] at opening
          exact opening.elim
  | error e left' =>
      cases ranSecond : second right with
      | ok b right' =>
          rw [ranFirst, ranSecond] at opening
          exact opening.elim
      | error f right' =>
          rw [ranFirst, ranSecond] at opening
          exact opening

end Alike

/-! ## Statements and transactions -/

section Statements

open Database

variable {Store : Type}

/-- Two connections that will fare alike, to stores that agree. -/
def sameLink (agree : Store -> Store -> Prop) (left right : Connection Store) : Prop :=
  agree left.store right.store ∧ left.link = right.link

/-- The server answers the two statements alike. -/
def EffectsAlike (agree : Store -> Store -> Prop) (first second : Store -> Except Error A × Store)
    (answers : A -> A -> Prop) : Prop :=
  forall left right, agree left right ->
    agree (first left).2 (second right).2 ∧
      match (first left).1, (second right).1 with
      | .ok a, .ok b => answers a b
      | .error e, .error f => e = f
      | .ok _, .error _ => False
      | .error _, .ok _ => False

theorem Alike.statement {agree : Store -> Store -> Prop} {first second : Store -> Except Error A × Store}
    {answers : A -> A -> Prop} (effects : EffectsAlike agree first second answers) :
    Alike (sameLink agree) (Database.statement first) (Database.statement second) answers := by
  rintro ⟨left, link⟩ ⟨right, link'⟩ ⟨agrees, same⟩
  have sameLink : link = link' := same
  subst sameLink
  rcases effects left right agrees with ⟨after, answered⟩
  unfold Database.statement
  dsimp only
  cases link.next with
  | none =>
      refine ⟨rfl, ?_, rfl⟩
      dsimp only
      split
      · exact after
      · exact agrees
  | some next =>
      cases ranFirst : first left with
      | mk answer left' =>
          cases ranSecond : second right with
          | mk other right' =>
              rw [ranFirst, ranSecond] at after answered
              cases answer with
              | ok a =>
                  cases other with
                  | ok b => exact ⟨answered, after, rfl⟩
                  | error f => exact answered.elim
              | error e =>
                  cases other with
                  | ok b => exact answered.elim
                  | error f => exact ⟨congrArg Failure.raised answered, after, rfl⟩

/-- A transaction whose rollback restores everything. -/
theorem Alike.transaction {agree : Store -> Store -> Prop} {first second : Program Error Store A}
    {answers : A -> A -> Prop} (body : Alike (sameLink agree) first second answers) :
    Alike (sameLink agree) (Database.transaction (fun before _ => before) first)
      (Database.transaction (fun before _ => before) second) answers := by
  intro left right agrees
  have ended := body left right agrees
  unfold Database.transaction
  cases ranFirst : first left with
  | ok a left' =>
      cases ranSecond : second right with
      | ok b right' =>
          rw [ranFirst, ranSecond] at ended
          rcases ended with ⟨answered, after, sameLink⟩
          dsimp only
          rw [sameLink]
          cases right'.link.next with
          | none =>
              refine ⟨rfl, ?_, rfl⟩
              dsimp only
              split
              · exact after
              · exact agrees.1
          | some next => exact ⟨answered, after, rfl⟩
      | error f right' =>
          rw [ranFirst, ranSecond] at ended
          exact ended.elim
  | error e left' =>
      cases ranSecond : second right with
      | ok b right' =>
          rw [ranFirst, ranSecond] at ended
          exact ended.elim
      | error f right' =>
          rw [ranFirst, ranSecond] at ended
          exact ⟨ended.1, agrees.1, ended.2.2⟩

end Statements
end TwoRuns
end Foundation
end ApexQuant
