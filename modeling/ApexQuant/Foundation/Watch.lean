import ApexQuant.Foundation.Faults

namespace ApexQuant
namespace Foundation
namespace Faults

/-!
# Watched programs

A log stands beside the world.  A watched program notes in it what it is about to do,
with the world as it is; what it does to the world it does as before.  Without its
notes a watched program is a plain one.
-/

/-- A world, and the log beside it. -/
structure Watched (World Entry : Type) where
  world : World
  log : List Entry

variable {Error World Entry A B : Type}

/-- The outside without the log. -/
def Outside.unwatched (outside : Outside Error (Watched World Entry)) : Outside Error World where
  world := outside.world.world
  fates := outside.fates

/-- The outside with a log. -/
def Outside.watched (outside : Outside Error World) (log : List Entry) : Outside Error (Watched World Entry) where
  world := { world := outside.world, log := log }
  fates := outside.fates

/-- A program that notes nothing. -/
def unlogged (program : Program Error World A) : Program Error (Watched World Entry) A := fun outside =>
  match program outside.unwatched with
  | .ok answer after => .ok answer (after.watched outside.world.log)
  | .error error after => .error error (after.watched outside.world.log)

/-- An entry, made of the world as it is. -/
def note (entry : World -> Entry) : Program Error (Watched World Entry) Unit :=
  change fun watched => { watched with log := watched.log ++ [entry watched.world] }

/-! ## Without the notes -/

/-- Without its notes the watched program is the plain one. -/
def Erases (watched : Program Error (Watched World Entry) A) (plain : Program Error World A) : Prop :=
  forall outside, plain outside.unwatched =
    match watched outside with
    | .ok answer after => .ok answer after.unwatched
    | .error error after => .error error after.unwatched

namespace Erases

theorem unlogged (program : Program Error World A) :
    Erases (Faults.unlogged program : Program Error (Watched World Entry) A) program := by
  intro outside
  unfold Faults.unlogged
  cases program outside.unwatched <;> rfl

theorem throw (error : Error) :
    Erases (MonadExcept.throw error : Program Error (Watched World Entry) A) (MonadExcept.throw error) :=
  fun _ => rfl

theorem pure (answer : A) : Erases (Pure.pure answer : Program Error (Watched World Entry) A) (Pure.pure answer) :=
  fun _ => rfl

theorem bind {first : Program Error (Watched World Entry) A} {first' : Program Error World A}
    {rest : A -> Program Error (Watched World Entry) B} {rest' : A -> Program Error World B} (begins : Erases first first')
    (continues : forall answer, Erases (rest answer) (rest' answer)) : Erases (first >>= rest) (first' >>= rest') := by
  intro outside
  have opening := begins outside
  rw [bind_run, bind_run, opening]
  cases first outside with
  | ok answer after => exact continues answer after
  | error error after => rfl

theorem note_bind {entry : World -> Entry} {rest : Unit -> Program Error (Watched World Entry) A}
    {plain : Program Error World A} (continues : Erases (rest ()) plain) : Erases (note entry >>= rest) plain := by
  intro outside
  rw [bind_run]
  exact continues { outside with
    world := { outside.world with log := outside.world.log ++ [entry outside.world.world] } }

theorem handle {program : Program Error (Watched World Entry) A} {program' : Program Error World A}
    {handler : Error -> Program Error (Watched World Entry) A} {handler' : Error -> Program Error World A}
    (body : Erases program program') (handles : forall error, Erases (handler error) (handler' error)) :
    Erases (Faults.handle program handler) (Faults.handle program' handler') := by
  intro outside
  have ended := body outside
  unfold Faults.handle
  rw [ended]
  cases program outside with
  | ok answer after => rfl
  | error error after => exact handles error after

theorem ite {condition : Prop} [Decidable condition] {first second : Program Error (Watched World Entry) A}
    {first' second' : Program Error World A} (whenTrue : Erases first first') (whenFalse : Erases second second') :
    Erases (if condition then first else second) (if condition then first' else second') := by
  split
  · exact whenTrue
  · exact whenFalse

theorem finalWorld {watched : Program Error (Watched World Entry) A} {plain : Program Error World A}
    (erases : Erases watched plain) (outside : Outside Error (Watched World Entry)) :
    (Faults.finalWorld watched outside).world = Faults.finalWorld plain outside.unwatched := by
  have ended := erases outside
  unfold Faults.finalWorld
  rw [ended]
  cases watched outside <;> rfl

end Erases

/-- A program that notes nothing answers what the plain one answers. -/
theorem ok_of_unlogged {program : Program Error World A} {outside after : Outside Error (Watched World Entry)}
    {answer : A} (returned : unlogged program outside = .ok answer after) :
    Exists fun final => program outside.unwatched = .ok answer final := by
  unfold unlogged at returned
  cases ran : program outside.unwatched with
  | ok value final =>
      rw [ran] at returned
      cases returned
      exact ⟨final, rfl⟩
  | error error final =>
      rw [ran] at returned
      cases returned

/-! ## What is noted -/

/-- The log is an earlier one with further entries, of which something holds. -/
def Logs (earlier : List Entry) (holds : Entry -> Prop) (watched : Watched World Entry) : Prop :=
  Exists fun new => watched.log = earlier ++ new ∧ forall entry, entry ∈ new -> holds entry

theorem logs_refl (holds : Entry -> Prop) (watched : Watched World Entry) : Logs watched.log holds watched :=
  ⟨[], (List.append_nil _).symm, nofun⟩

namespace Maintains

/-- A program that notes nothing leaves the log alone. -/
theorem unlogged (condition : List Entry -> Prop) (program : Program Error World A) :
    Maintains (fun watched : Watched World Entry => condition watched.log) (Faults.unlogged program) := by
  intro outside holds
  unfold Faults.unlogged
  cases program outside.unwatched with
  | ok answer after => exact holds
  | error error after => exact holds

theorem note {earlier : List Entry} {holds : Entry -> Prop} {entry : World -> Entry}
    (held : forall world, holds (entry world)) :
    Maintains (Logs earlier holds) (Faults.note entry : Program Error (Watched World Entry) Unit) := by
  apply Maintains.change
  rintro watched ⟨new, grown, each⟩
  refine ⟨new ++ [entry watched.world], ?_, fun other member => ?_⟩
  · exact (congrArg (· ++ _) grown).trans (List.append_assoc _ _ _)
  · rcases List.mem_append.mp member with old | added
    · exact each other old
    · exact List.mem_singleton.mp added ▸ held watched.world

end Maintains

/-- What holds beside a log holds after a program that notes nothing. -/
theorem Triple.unlogged {program : Program Error World A} {outside : Outside Error World} {log : List Entry}
    (condition : Watched World Entry -> Prop) (holds : forall world, condition { world := world, log := log }) :
    Triple (fun before => before = outside.watched log) (Faults.unlogged program) (fun _ after => condition after.world)
      (fun _ after => condition after.world) := by
  rintro before rfl
  unfold Faults.unlogged
  cases program (outside.watched log).unwatched with
  | ok answer after => exact holds after.world
  | error error after => exact holds after.world

/-- What a program that notes nothing answers is known to the rest. -/
theorem Triple.unlogged_bind {program : Program Error World A} {rest : A -> Program Error (Watched World Entry) B}
    {post : B -> Outside Error (Watched World Entry) -> Prop} {failed : Error -> Outside Error (Watched World Entry) -> Prop}
    {outside : Outside Error World} {log : List Entry}
    (breaks : forall error after, program outside = .error error after -> failed error (after.watched log))
    (continues : forall answer after, program outside = .ok answer after ->
      Triple (fun before => before = after.watched log) (rest answer) post failed) :
    Triple (fun before => before = outside.watched log) (Faults.unlogged program >>= rest) post failed := by
  rintro before rfl
  have same : (outside.watched log).unwatched = outside := rfl
  rw [bind_run]
  unfold Faults.unlogged
  rw [same]
  cases ran : program outside with
  | ok answer after => exact continues answer after ran _ rfl
  | error error after => exact breaks error after ran

/-- A note from a known outside. -/
theorem Triple.note_bind {entry : World -> Entry} {rest : Unit -> Program Error (Watched World Entry) B}
    {post : B -> Outside Error (Watched World Entry) -> Prop} {failed : Error -> Outside Error (Watched World Entry) -> Prop}
    {outside : Outside Error World} {log : List Entry}
    (continues : Triple (fun before => before = outside.watched (log ++ [entry outside.world])) (rest ()) post failed) :
    Triple (fun before => before = outside.watched log) (note entry >>= rest) post failed :=
  Triple.change_bind continues

end Faults
end Foundation
end ApexQuant
