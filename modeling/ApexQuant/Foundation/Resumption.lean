import ApexQuant.Foundation.WriteOrder

namespace ApexQuant
namespace Foundation

/-!
# Work that is begun again

A body of statements is begun, stopped anywhere, and begun again from its first
statement, until an attempt comes through.  Without a memory of where it was stopped
the first statements are performed several times.

This does no harm to a body that settles: what has been performed has no effect as
long as the body is at work.  Its attempts then lead where a first part of it leads
from the beginning, and the one that comes through leads where the body leads.
-/

namespace Resumption

open WriteOrder

section Attempts

variable {Entry : Type}

/-- The log of attempts at a body: first parts of it, one after the other. -/
inductive Attempted (body : List Entry) : List Entry -> Prop
  | none : Attempted body []
  | again {earlier part : List Entry} (attempted : Attempted body earlier) (begun : part <+: body) :
      Attempted body (earlier ++ part)

/-- The log of bodies that came through in their order, each after attempts at it. -/
inductive Completed : List (List Entry) -> List Entry -> Prop
  | none : Completed [] []
  | next {bodies : List (List Entry)} {earlier body attempts : List Entry} (completed : Completed bodies earlier)
      (attempted : Attempted body attempts) : Completed (bodies ++ [body]) (earlier ++ (attempts ++ body))

/-- A first part ends in the first list, or has its rest behind it. -/
theorem prefix_append_cons {first rest part : List Entry} {entry : Entry} (begun : part <+: first ++ entry :: rest) :
    part <+: first ∨ Exists fun more => more <+: rest ∧ part = first ++ entry :: more := by
  induction first generalizing part with
  | nil =>
      rcases List.prefix_cons_iff.mp begun with rfl | ⟨more, rfl, behind⟩
      · exact Or.inl List.nil_prefix
      · exact Or.inr ⟨more, behind, rfl⟩
  | cons head first ih =>
      rcases List.prefix_cons_iff.mp begun with rfl | ⟨tail, rfl, behind⟩
      · exact Or.inl List.nil_prefix
      · rcases ih behind with inside | ⟨more, short, rfl⟩
        · exact Or.inl (List.cons_prefix_cons.mpr ⟨rfl, inside⟩)
        · exact Or.inr ⟨more, short, rfl⟩

end Attempts

variable {Error World Statement : Type} (execute : Statement -> World -> Except Error World)

/-- What has been performed of the body has no effect while the body is at work. -/
def Settles (body : List Statement) : Prop :=
  forall done world middle, done <+: body -> performed execute done world = some middle ->
    forall statement, statement ∈ done -> execute statement middle = .ok middle

variable {execute}

theorem performed_of_idle {statements : List Statement} {world : World}
    (idle : forall statement, statement ∈ statements -> execute statement world = .ok world) :
    performed execute statements world = some world := by
  induction statements with
  | nil => rfl
  | cons statement rest ih =>
      rw [performed, idle statement List.mem_cons_self]
      exact ih fun other member => idle other (List.mem_cons_of_mem _ member)

/-- Another attempt at a body that settles leads where a first part of it leads. -/
theorem Settles.resume {body done part : List Statement} (settles : Settles execute body) {world middle after : World}
    (before : done <+: body) (stopped : performed execute done world = some middle) (begun : part <+: body)
    (ran : performed execute part middle = some after) :
    Exists fun longer => longer <+: body ∧ performed execute longer world = some after ∧ (part = body -> longer = body) := by
  have idle := settles done world middle before stopped
  rcases List.prefix_or_prefix_of_prefix begun before with short | ⟨more, rfl⟩
  · have nothing := performed_of_idle fun statement member => idle statement (short.subset member)
    obtain rfl : middle = after := Option.some.inj (nothing.symm.trans ran)
    refine ⟨done, before, stopped, ?_⟩
    rintro rfl
    exact before.sublist.eq_of_length_le short.length_le
  · refine ⟨done ++ more, begun, ?_, fun whole => whole⟩
    rw [performed_append, performed_of_idle idle] at ran
    rw [performed_append, stopped]
    exact ran

/-- A body settles when each of its statements establishes something that leaves it
nothing to do and that no other statement takes back. -/
theorem settles_of_lasting {Done : Statement -> World -> Prop} {body : List Statement}
    (establishes : forall statement world after, execute statement world = .ok after -> Done statement after)
    (idle : forall statement world, Done statement world -> execute statement world = .ok world)
    (lasts : forall statement other world after, execute other world = .ok after -> Done statement world ->
      Done statement after) : Settles execute body := by
  have established : forall done world middle, performed execute done world = some middle ->
      forall statement, statement ∈ done -> Done statement middle := by
    intro done
    induction done with
    | nil =>
        intro world middle _ statement absent
        cases absent
    | cons first rest ih =>
        intro world middle ran statement member
        rcases performed_cons.mp ran with ⟨next, wrote, continues⟩
        rcases List.mem_cons.mp member with same | later
        · subst same
          exact performed_keeps (fun other _ before after wrote held => lasts statement other before after wrote held)
            continues (establishes statement world next wrote)
        · exact ih next middle continues statement later
  intro done world middle _ ran statement member
  exact idle statement middle (established done world middle ran statement member)

end Resumption

/-- A change of the world that is not a call performs its statement. -/
theorem WriteOrder.Follows.change {Error World Statement : Type} {execute : Statement -> World -> Except Error World}
    {effect : World -> World} {statement : Statement} (performs : forall world, execute statement world = .ok (effect world)) :
    WriteOrder.Follows execute [statement] (Faults.change effect) := by
  intro outside
  refine ⟨[statement], List.prefix_refl _, ?_, fun _ _ _ => rfl⟩
  rw [WriteOrder.performed, performs]
  rfl

end Foundation
end ApexQuant
