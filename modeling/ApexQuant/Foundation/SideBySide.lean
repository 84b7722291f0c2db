import Mathlib.Init
import Mathlib.Data.List.Forall2
import Mathlib.Data.Option.Basic

namespace ApexQuant
namespace Foundation

/-!
# Two implementations side by side

One interface has two implementations, each with a state and with errors of its own.
The right one stands on something that can fail, and may then give up where the left
one goes on.  Two programs correspond when, from states that are related, they both
return or both raise, with results and states that are related again, or the right
one gives up.

Correspondence is kept by `pure`, `throw` and `bind`, so that two programs that are
written alike correspond as soon as the operations of the interface do.  While
nothing is given up, a list of corresponding programs is answered alike.
-/

namespace SideBySide

variable {E F S T A B C D : Type}

/-- How the two implementations belong together. -/
structure Pairing (E F S T : Type) where
  /-- The states are related. -/
  keeps : S -> T -> Prop
  /-- The errors say the same. -/
  errors : E -> F -> Prop
  /-- The right implementation has given up. -/
  gaveUp : F -> Prop

/-- What the two programs of a pair may end with. -/
inductive Outcome (pairing : Pairing E F S T) (answers : A -> B -> Prop) :
    EStateM.Result E S A -> EStateM.Result F T B -> Prop where
  | returned {a : A} {b : B} {s : S} {t : T} (alike : answers a b) (kept : pairing.keeps s t) :
      Outcome pairing answers (.ok a s) (.ok b t)
  | raised {e : E} {f : F} {s : S} {t : T} (alike : pairing.errors e f) (kept : pairing.keeps s t) :
      Outcome pairing answers (.error e s) (.error f t)
  | gaveUp {left : EStateM.Result E S A} {f : F} {t : T} (lost : pairing.gaveUp f) :
      Outcome pairing answers left (.error f t)

/-- The programs correspond. -/
def Corresponds (pairing : Pairing E F S T) (answers : A -> B -> Prop) (left : EStateM E S A) (right : EStateM F T B) :
    Prop :=
  forall s t, pairing.keeps s t -> Outcome pairing answers (left s) (right t)

namespace Corresponds

variable {pairing : Pairing E F S T} {answers : A -> B -> Prop}

theorem pure {a : A} {b : B} (alike : answers a b) :
    Corresponds pairing answers (Pure.pure a : EStateM E S A) (Pure.pure b : EStateM F T B) :=
  fun _ _ kept => Outcome.returned alike kept

theorem throw {e : E} {f : F} (alike : pairing.errors e f) :
    Corresponds pairing answers (MonadExcept.throw e : EStateM E S A) (MonadExcept.throw f : EStateM F T B) :=
  fun _ _ kept => Outcome.raised alike kept

theorem bind {left : EStateM E S A} {right : EStateM F T B} {left' : A -> EStateM E S C} {right' : B -> EStateM F T D}
    {answers' : C -> D -> Prop} (begins : Corresponds pairing answers left right)
    (continues : forall a b, answers a b -> Corresponds pairing answers' (left' a) (right' b)) :
    Corresponds pairing answers' (left >>= left') (right >>= right') := by
  intro s t kept
  change Outcome pairing answers' (EStateM.bind left left' s) (EStateM.bind right right' t)
  rw [EStateM.bind, EStateM.bind]
  have opening := begins s t kept
  cases ranLeft : left s with
  | ok a s' =>
      cases ranRight : right t with
      | ok b t' =>
          rw [ranLeft, ranRight] at opening
          cases opening with
          | returned alike kept' => exact continues a b alike s' t' kept'
      | error f t' =>
          rw [ranLeft, ranRight] at opening
          cases opening with
          | gaveUp lost => exact Outcome.gaveUp lost
  | error e s' =>
      cases ranRight : right t with
      | ok b t' =>
          rw [ranLeft, ranRight] at opening
          cases opening
      | error f t' =>
          rw [ranLeft, ranRight] at opening
          cases opening with
          | raised alike kept' => exact Outcome.raised alike kept'
          | gaveUp lost => exact Outcome.gaveUp lost

theorem mono {answers' : A -> B -> Prop} {left : EStateM E S A} {right : EStateM F T B}
    (corresponds : Corresponds pairing answers left right) (weaker : forall a b, answers a b -> answers' a b) :
    Corresponds pairing answers' left right := by
  intro s t kept
  have ended := corresponds s t kept
  generalize left s = ranLeft at ended ⊢
  generalize right t = ranRight at ended ⊢
  cases ended with
  | returned alike kept' => exact Outcome.returned (weaker _ _ alike) kept'
  | raised alike kept' => exact Outcome.raised alike kept'
  | gaveUp lost => exact Outcome.gaveUp lost

end Corresponds

/-! ## Replies -/

/-- What the programs answer, one after the other on one state. -/
def replies : List (EStateM E S A) -> S -> List (Except E A)
  | [], _ => []
  | program :: later, s =>
      match program s with
      | .ok a s' => .ok a :: replies later s'
      | .error e s' => .error e :: replies later s'

/-- The state that the programs leave. -/
def left : List (EStateM E S A) -> S -> S
  | [], s => s
  | program :: later, s =>
      match program s with
      | .ok _ s' => left later s'
      | .error _ s' => left later s'

/-- Two answers say the same. -/
inductive Alike (pairing : Pairing E F S T) (answers : A -> B -> Prop) : Except E A -> Except F B -> Prop where
  | ok {a : A} {b : B} (alike : answers a b) : Alike pairing answers (.ok a) (.ok b)
  | error {e : E} {f : F} (alike : pairing.errors e f) : Alike pairing answers (.error e) (.error f)

/-- While nothing is given up, corresponding programs are answered alike, and leave
states that are related. -/
theorem replies_alike {pairing : Pairing E F S T} {answers : A -> B -> Prop} {lefts : List (EStateM E S A)}
    {rights : List (EStateM F T B)} (pairs : List.Forall₂ (Corresponds pairing answers) lefts rights) {s : S} {t : T}
    (kept : pairing.keeps s t) (heard : forall f, Except.error f ∈ replies rights t -> ¬ pairing.gaveUp f) :
    List.Forall₂ (Alike pairing answers) (replies lefts s) (replies rights t) ∧
      pairing.keeps (left lefts s) (left rights t) := by
  induction pairs generalizing s t with
  | nil => exact ⟨List.Forall₂.nil, kept⟩
  | @cons first first' lefts rights pair _ ih =>
      have ended := pair s t kept
      rw [replies] at heard
      rw [replies, replies, left, left]
      cases ranRight : first' t with
      | ok b t' =>
          rw [ranRight] at heard ended
          have later := fun f member => heard f (List.mem_cons_of_mem _ member)
          cases ranLeft : first s with
          | ok a s' =>
              rw [ranLeft] at ended
              cases ended with
              | returned alike kept' =>
                  exact ⟨List.Forall₂.cons (Alike.ok alike) (ih kept' later).1, (ih kept' later).2⟩
          | error e s' =>
              rw [ranLeft] at ended
              cases ended
      | error f t' =>
          rw [ranRight] at heard ended
          have later := fun f member => heard f (List.mem_cons_of_mem _ member)
          have present : ¬ pairing.gaveUp f := heard f List.mem_cons_self
          cases ranLeft : first s with
          | ok a s' =>
              rw [ranLeft] at ended
              cases ended with
              | gaveUp lost => exact absurd lost present
          | error e s' =>
              rw [ranLeft] at ended
              cases ended with
              | raised alike kept' =>
                  exact ⟨List.Forall₂.cons (Alike.error alike) (ih kept' later).1, (ih kept' later).2⟩
              | gaveUp lost => exact absurd lost present

end SideBySide
end Foundation
end ApexQuant
