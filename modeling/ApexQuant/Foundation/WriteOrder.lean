import ApexQuant.Foundation.Faults

namespace ApexQuant
namespace Foundation

/-!
# Programs that write in a fixed order

Whatever becomes of its calls, a program that writes its statements one after the other and
stops at the first failure leaves the world after some first part of them, and after all of
them when it returns.
-/

namespace WriteOrder

open Faults

variable {Error World Statement A B : Type} (execute : Statement -> World -> Except Error World)

/-- A statement as a call.  One that is refused changes nothing. -/
def write (statement : Statement) : Program Error World Unit :=
  call fun world =>
    match execute statement world with
    | .ok after => (.ok (), after)
    | .error error => (.error error, world)

/-- The world after statements of which none is refused. -/
def performed : List Statement -> World -> Option World
  | [], world => some world
  | statement :: rest, world =>
      match execute statement world with
      | .ok after => performed rest after
      | .error _ => none

/-- From here the program performs a first part of the statements, all of them when it returns. -/
def FollowsFrom (outside : Outside Error World) (statements : List Statement) (program : Program Error World A) : Prop :=
  Exists fun done => done <+: statements ∧ performed execute done outside.world = some (finalWorld program outside) ∧
    forall answer after, program outside = .ok answer after -> done = statements

def Follows (statements : List Statement) (program : Program Error World A) : Prop :=
  forall outside, FollowsFrom execute outside statements program

variable {execute}

theorem performed_append {first rest : List Statement} {world : World} :
    performed execute (first ++ rest) world = (performed execute first world).bind (performed execute rest) := by
  induction first generalizing world with
  | nil => rfl
  | cons statement first ih =>
      rw [List.cons_append, performed, performed]
      cases execute statement world with
      | error error => rfl
      | ok after => exact ih

theorem performed_cons {statement : Statement} {rest : List Statement} {world after : World} :
    performed execute (statement :: rest) world = some after <->
      Exists fun next => execute statement world = .ok next ∧ performed execute rest next = some after := by
  rw [performed]
  cases execute statement world with
  | error error => simp
  | ok next => simp

/-- What every statement keeps is kept by those that are performed. -/
theorem performed_keeps {Inv : World -> Prop} {statements : List Statement}
    (keeps : forall statement, statement ∈ statements -> forall world after,
      execute statement world = .ok after -> Inv world -> Inv after)
    {world after : World} (ran : performed execute statements world = some after) (holds : Inv world) : Inv after := by
  induction statements generalizing world with
  | nil =>
      cases ran
      exact holds
  | cons statement rest ih =>
      rcases performed_cons.mp ran with ⟨next, wrote, ran⟩
      refine ih (fun other member => keeps other (List.mem_cons_of_mem _ member)) ran ?_
      exact keeps statement List.mem_cons_self world next wrote holds

/-! ## The rules -/

variable {outside : Outside Error World} {statements : List Statement}

/-- A program that ends with an error may have performed nothing. -/
theorem FollowsFrom.nothing {program : Program Error World A} {error : Error} {after : Outside Error World}
    (failed : program outside = .error error after) (same : after.world = outside.world) :
    FollowsFrom execute outside statements program := by
  refine ⟨[], List.nil_prefix, ?_, ?_⟩
  · rw [finalWorld_of_error failed, same]
    rfl
  · intro answer other returned
    rw [failed] at returned
    cases returned

theorem Follows.pure (answer : A) : Follows execute [] (Pure.pure answer : Program Error World A) :=
  fun _ => ⟨[], List.prefix_refl _, rfl, fun _ _ _ => rfl⟩

theorem Follows.throw (error : Error) : Follows execute statements (MonadExcept.throw error : Program Error World A) :=
  fun _ => FollowsFrom.nothing rfl rfl

/-- A statement fails without effect, or takes effect, and returns only then. -/
theorem write_run (statement : Statement) (outside : Outside Error World) :
    (Exists fun error => WriteOrder.write execute statement outside = .error error (outside.next outside.world)) ∨
      Exists fun world => execute statement outside.world = .ok world ∧
        (WriteOrder.write execute statement outside = .ok () (outside.next world) ∨
          Exists fun error => WriteOrder.write execute statement outside = .error error (outside.next world)) := by
  unfold WriteOrder.write call
  cases fate : outside.fate with
  | served =>
      dsimp only
      cases wrote : execute statement outside.world with
      | ok world => exact Or.inr ⟨world, rfl, Or.inl rfl⟩
      | error error => exact Or.inl ⟨error, rfl⟩
  | fails error applied =>
      dsimp only
      cases wrote : execute statement outside.world with
      | error refusal => exact Or.inl ⟨error, by cases applied <;> rfl⟩
      | ok world =>
          cases applied with
          | false => exact Or.inl ⟨error, rfl⟩
          | true => exact Or.inr ⟨world, rfl, Or.inr ⟨error, rfl⟩⟩

theorem Follows.write (statement : Statement) : Follows execute [statement] (WriteOrder.write execute statement) := by
  intro outside
  rcases write_run statement outside with ⟨error, failed⟩ | ⟨world, wrote, ended⟩
  · exact FollowsFrom.nothing failed rfl
  · have reached : performed execute [statement] outside.world = some world := by simp [performed, wrote]
    refine ⟨[statement], List.prefix_refl _, ?_, fun _ _ _ => rfl⟩
    unfold finalWorld
    rcases ended with returned | ⟨error, failed⟩
    · rw [returned]
      exact reached
    · rw [failed]
      exact reached

/-- The rest may count on what is true of every answer of the beginning. -/
theorem FollowsFrom.bind_told {first : Program Error World A} {rest : A -> Program Error World B}
    {others : List Statement} (told : A -> Prop) (begins : FollowsFrom execute outside statements first)
    (tells : forall answer after, first outside = .ok answer after -> told answer)
    (continues : forall answer, told answer -> Follows execute others (rest answer)) :
    FollowsFrom execute outside (statements ++ others) (first >>= rest) := by
  rcases begins with ⟨done, part, reached, complete⟩
  cases ran : first outside with
  | error error after =>
      have failed : (first >>= rest) outside = .error error after := by rw [bind_run, ran]
      refine ⟨done, part.trans (List.prefix_append _ _), ?_, ?_⟩
      · rw [reached, finalWorld_of_error ran, finalWorld_of_error failed]
      · intro answer other returned
        rw [failed] at returned
        cases returned
  | ok answer middle =>
      have whole : (first >>= rest) outside = rest answer middle := by rw [bind_run, ran]
      rcases continues answer (tells answer middle ran) middle with ⟨done', part', reached', complete'⟩
      have world : finalWorld first outside = middle.world := by
        unfold finalWorld
        rw [ran]
      have ends : finalWorld (first >>= rest) outside = finalWorld (rest answer) middle := by
        unfold finalWorld
        rw [whole]
      obtain rfl := complete answer middle ran
      refine ⟨done ++ done', (List.prefix_append_right_inj _).mpr part', ?_, ?_⟩
      · rw [performed_append, reached, world, ends]
        exact reached'
      · intro answer' after returned
        rw [whole] at returned
        rw [complete' answer' after returned]

theorem Follows.bind {first : Program Error World A} {rest : A -> Program Error World B} {others : List Statement}
    (begins : Follows execute statements first) (continues : forall answer, Follows execute others (rest answer)) :
    Follows execute (statements ++ others) (first >>= rest) :=
  fun outside => (begins outside).bind_told (fun _ => True) (fun _ _ _ => trivial) fun answer _ => continues answer

/-- A call that only reads is none of the statements. -/
theorem FollowsFrom.ask_bind {answer : World -> A} {rest : A -> Program Error World B}
    (continues : FollowsFrom execute (outside.next outside.world) statements (rest (answer outside.world))) :
    FollowsFrom execute outside statements (ask answer >>= rest) := by
  have ran := ask_bind_run answer rest outside
  cases fate : outside.fate with
  | fails error applied =>
      rw [fate] at ran
      exact FollowsFrom.nothing ran rfl
  | served =>
      rw [fate] at ran
      rcases continues with ⟨done, part, reached, complete⟩
      refine ⟨done, part, ?_, ?_⟩
      · unfold finalWorld
        rw [ran]
        exact reached
      · intro value after returned
        rw [ran] at returned
        exact complete value after returned

theorem Follows.ask_bind {answer : World -> A} {rest : A -> Program Error World B}
    (continues : forall value, Follows execute statements (rest value)) :
    Follows execute statements (ask answer >>= rest) :=
  fun _ => FollowsFrom.ask_bind (continues _ _)

theorem Follows.ask (answer : World -> A) : Follows execute [] (Faults.ask answer : Program Error World A) := by
  intro outside
  have follows : FollowsFrom execute outside [] (Faults.ask answer >>= Pure.pure) :=
    FollowsFrom.ask_bind (Follows.pure _ _)
  rwa [bind_pure] at follows

/-- A loop performs the statements of its passes. -/
theorem Follows.forM {items : List B} {body : B -> Program Error World PUnit} {of : B -> List Statement}
    (follows : forall item, item ∈ items -> Follows execute (of item) (body item)) :
    Follows execute (items.flatMap of) (ForM.forM items body) := by
  induction items with
  | nil => exact Follows.pure PUnit.unit
  | cons item items ih =>
      rw [List.forM_cons, List.flatMap_cons]
      refine Follows.bind (follows item List.mem_cons_self) fun _ => ?_
      exact ih fun other member => follows other (List.mem_cons_of_mem _ member)

end WriteOrder
end Foundation
end ApexQuant
