import Mathlib.Data.List.Forall2
import ApexQuant.Foundation.Faults

namespace ApexQuant
namespace Foundation
namespace Faults

/-!
# Programs within a frame

A frame says what may become of the world: a relation between the world before and the
world after that holds across every number of steps.  A program stays within its frame
whatever becomes of its calls, and when it returns its answer tells something about the
two worlds.  The rules follow the program.
-/

/-- What may become of the world. -/
structure Frame (World : Type) where
  within : World -> World -> Prop
  refl : forall world, within world world
  trans : forall {before middle after}, within before middle -> within middle after -> within before after

variable {Error World A B : Type} {frame : Frame World}

/-- The program stays within the frame, and its answer tells what it says. -/
def Within (frame : Frame World) (program : Program Error World A) (tells : World -> World -> A -> Prop) : Prop :=
  forall outside,
    match program outside with
    | .ok answer after => frame.within outside.world after.world ∧ tells outside.world after.world answer
    | .error _ after => frame.within outside.world after.world

namespace Within

variable {tells tells' : World -> World -> A -> Prop} {program : Program Error World A}

theorem pure {answer : A} (known : forall world, tells world world answer) :
    Within frame (Pure.pure answer : Program Error World A) tells :=
  fun outside => ⟨frame.refl outside.world, known outside.world⟩

theorem throw (error : Error) : Within frame (MonadExcept.throw error : Program Error World A) tells :=
  fun outside => frame.refl outside.world

theorem call {effect : World -> Except Error A × World} (keeps : forall world, frame.within world (effect world).2)
    (answers : forall world answer after, effect world = (.ok answer, after) -> tells world after answer) :
    Within frame (Faults.call effect) tells := by
  intro outside
  have kept := keeps outside.world
  unfold Faults.call
  cases outside.fate with
  | served =>
      cases ran : effect outside.world with
      | mk ended after =>
          rw [ran] at kept
          cases ended with
          | ok answer => exact ⟨kept, answers _ answer after ran⟩
          | error error => exact kept
  | fails error applied =>
      cases applied with
      | false => exact frame.refl outside.world
      | true => exact kept

theorem weaken (holds : Within frame program tells)
    (gives : forall before after answer, frame.within before after -> tells before after answer ->
      tells' before after answer) : Within frame program tells' := by
  intro outside
  have ended := holds outside
  cases ran : program outside with
  | ok answer after =>
      rw [ran] at ended
      exact ⟨ended.1, gives _ _ answer ended.1 ended.2⟩
  | error error after =>
      rw [ran] at ended
      exact ended

theorem bind {first : Program Error World A} {rest : A -> Program Error World B} {further : A -> World -> World -> B -> Prop}
    (begins : Within frame first tells) (continues : forall answer, Within frame (rest answer) (further answer)) :
    Within frame (first >>= rest) fun before after value =>
      Exists fun answer => Exists fun middle => frame.within before middle ∧ frame.within middle after ∧
        tells before middle answer ∧ further answer middle after value := by
  intro outside
  have opening := begins outside
  rw [bind_run]
  cases ran : first outside with
  | error error middle =>
      rw [ran] at opening
      exact opening
  | ok answer middle =>
      rw [ran] at opening
      have ended := continues answer middle
      dsimp only
      cases ran' : rest answer middle with
      | error error after =>
          rw [ran'] at ended
          exact frame.trans opening.1 ended
      | ok value after =>
          rw [ran'] at ended
          exact ⟨frame.trans opening.1 ended.1, answer, middle.world, opening.1, ended.1, opening.2, ended.2⟩

/-- The rest of a program is told what its beginning tells. -/
theorem andThen {first : Program Error World A} {rest : A -> Program Error World B} {told : World -> World -> B -> Prop}
    (begins : Within frame first tells)
    (continues : forall answer, Within frame (rest answer) fun middle after value =>
      forall before, frame.within before middle -> frame.within middle after -> tells before middle answer ->
        told before after value) : Within frame (first >>= rest) told := by
  apply weaken (bind begins continues)
  rintro before after value - ⟨answer, middle, first, rest, tells, further⟩
  exact further before first rest tells

/-- A loop that answers for each item, when what is told of an item stays true. -/
theorem mapM {Item : Type} {items : List Item} {body : Item -> Program Error World A}
    {told : Item -> World -> World -> A -> Prop} (each : forall item, item ∈ items -> Within frame (body item) (told item))
    (stays : forall item answer {before before' after after'}, frame.within before' before -> frame.within after after' ->
      told item before after answer -> told item before' after' answer) :
    Within frame (items.mapM body) fun before after answers =>
      List.Forall₂ (fun item answer => told item before after answer) items answers := by
  induction items with
  | nil =>
      rw [List.mapM_nil]
      exact pure fun _ => List.Forall₂.nil
  | cons item items inductionHypothesis =>
      rw [List.mapM_cons]
      have later := inductionHypothesis fun other member => each other (List.mem_cons_of_mem _ member)
      have ended : forall (answer : A) (answers : List A),
          Within frame (Pure.pure (answer :: answers) : Program Error World (List A)) fun before after value =>
            before = after ∧ value = answer :: answers := fun _ _ => pure fun _ => ⟨rfl, rfl⟩
      apply weaken (bind (each item List.mem_cons_self) fun answer => bind later fun answers => ended answer answers)
      rintro before after value - ⟨answer, middle, first, -, head, answers, last, rest, -, tail, rfl, rfl⟩
      refine List.Forall₂.cons (stays item answer (frame.refl _) rest head) ?_
      exact tail.imp fun other known knows => stays other known first (frame.refl _) knows

/-- A program whose failure is an answer. -/
theorem attempt (holds : Within frame program tells) :
    Within frame (handle (program >>= fun answer => Pure.pure (Except.ok answer)) fun error => Pure.pure (Except.error error))
      fun before after outcome => forall answer, outcome = Except.ok answer -> tells before after answer := by
  intro outside
  have ended := holds outside
  unfold handle
  rw [bind_run]
  cases ran : program outside with
  | ok answer after =>
      rw [ran] at ended
      exact ⟨ended.1, fun other same => Except.ok.inj same ▸ ended.2⟩
  | error error after =>
      rw [ran] at ended
      exact ⟨ended, fun other same => by cases same⟩

/-- What is told of an answer may be that the program has given it. -/
theorem ran (holds : Within frame program tells) :
    Within frame program fun before after answer =>
      Exists fun outside => Exists fun final => program outside = .ok answer final ∧ outside.world = before ∧
        final.world = after := by
  intro outside
  have ended := holds outside
  cases ran : program outside with
  | ok answer after =>
      rw [ran] at ended
      exact ⟨ended.1, outside, after, ran, rfl, rfl⟩
  | error error after =>
      rw [ran] at ended
      exact ended

/-- What a run that has returned tells. -/
theorem told (holds : Within frame program tells) {outside after : Outside Error World} {answer : A}
    (returned : program outside = .ok answer after) :
    frame.within outside.world after.world ∧ tells outside.world after.world answer := by
  have ended := holds outside
  rw [returned] at ended
  exact ended

theorem finalWorld (holds : Within frame program tells) (outside : Outside Error World) :
    frame.within outside.world (Faults.finalWorld program outside) := by
  have ended := holds outside
  unfold Faults.finalWorld
  cases ran : program outside with
  | ok answer after =>
      rw [ran] at ended
      exact ended.1
  | error error after =>
      rw [ran] at ended
      exact ended

end Within

end Faults
end Foundation
end ApexQuant
