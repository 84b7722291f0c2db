import Mathlib.Logic.Function.Basic
import ApexQuant.Foundation.Runs

namespace ApexQuant
namespace Foundation

/-!
# Check-then-act on a shared cell

Clients read a shared cell, check what they have read and then write the cell
without looking at it again.  Their steps interleave freely.  A `Race` is the
cell, where each client stands and the writes that have taken effect.

A write is `Fresh` when what the check depends on is as the client has read it.
In a run whose writes are all fresh, each write has passed its check on the very
cell that it replaces.
-/

/-- What an operation checks of the cell it has read, and what it writes at some
moment to the cell it then finds, if the cell's owner accepts it. -/
structure CheckedWrite (Op Cell Moment : Type) where
  check : Op -> Cell -> Bool
  write : Op -> Moment -> Cell -> Option Cell

namespace CheckedWrite

variable {Client Op Cell Moment View : Type}

/-- An operation and the cell that it has read. -/
structure Attempt (Op Cell : Type) where
  op : Op
  seen : Cell

/-- Where a client stands. -/
inductive Phase (Op Cell : Type) where
  | idle
  | read (attempt : Attempt Op Cell)
  | checked (attempt : Attempt Op Cell)

/-- A write that has taken effect. -/
structure Write (Op Cell : Type) extends Attempt Op Cell where
  before : Cell
  after : Cell

structure Race (Client Op Cell : Type) where
  cell : Cell
  phase : Client -> Phase Op Cell
  writes : List (Write Op Cell)

inductive Action (Client Op Moment : Type) where
  | read (client : Client) (op : Op)
  | check (client : Client)
  | write (client : Client) (moment : Moment)

variable [DecidableEq Client] (protocol : CheckedWrite Op Cell Moment)

/-- One step of one client.  A client takes no step that is not its next. -/
def step (race : Race Client Op Cell) : Action Client Op Moment -> Race Client Op Cell
  | .read client op =>
      match race.phase client with
      | .idle => { race with phase := Function.update race.phase client (.read { op := op, seen := race.cell }) }
      | _ => race
  | .check client =>
      match race.phase client with
      | .read attempt =>
          let next := if protocol.check attempt.op attempt.seen then .checked attempt else .idle
          { race with phase := Function.update race.phase client next }
      | _ => race
  | .write client moment =>
      match race.phase client with
      | .checked attempt =>
          let phase := Function.update race.phase client .idle
          match protocol.write attempt.op moment race.cell with
          | some after =>
              { cell := after
                phase := phase
                writes := race.writes ++ [{ attempt with before := race.cell, after := after }] }
          | none => { race with phase := phase }
      | _ => race

/-- A race before its first step. -/
def start (cell : Cell) : Race Client Op Cell where
  cell := cell
  phase := fun _ => .idle
  writes := []

/-- What the check depends on is as a client that is about to write has read it. -/
def Phase.Fresh (view : Op -> Cell -> View) (cell : Cell) : Phase Op Cell -> Prop
  | .checked attempt => view attempt.op cell = view attempt.op attempt.seen
  | _ => True

instance Phase.Fresh.decidable [DecidableEq View] (view : Op -> Cell -> View) (cell : Cell) :
    forall phase : Phase Op Cell, Decidable (phase.Fresh view cell)
  | .checked _ => inferInstanceAs (Decidable (_ = _))
  | .read _ => isTrue trivial
  | .idle => isTrue trivial

/-- A write step of a client whose check still stands. -/
def Fresh (view : Op -> Cell -> View) (race : Race Client Op Cell) : Action Client Op Moment -> Prop
  | .write client _ => (race.phase client).Fresh view race.cell
  | _ => True

instance Fresh.decidable [DecidableEq View] (view : Op -> Cell -> View) (race : Race Client Op Cell) :
    forall action : Action Client Op Moment, Decidable (Fresh view race action)
  | .write client _ => inferInstanceAs (Decidable ((race.phase client).Fresh view race.cell))
  | .check _ => isTrue trivial
  | .read _ _ => isTrue trivial

/-- The writes lead from one cell to another. -/
def Linked : Cell -> List (Write Op Cell) -> Cell -> Prop
  | first, [], last => first = last
  | first, write :: writes, last => write.before = first ∧ Linked write.after writes last

theorem linked_concat {first last : Cell} {writes : List (Write Op Cell)} (linked : Linked first writes last)
    (write : Write Op Cell) (follows : write.before = last) : Linked first (writes ++ [write]) write.after := by
  induction writes generalizing first with
  | nil => exact ⟨follows.trans linked.symm, rfl⟩
  | cons head tail inductionHypothesis => exact ⟨linked.1, inductionHypothesis linked.2⟩

/-- A write that passed its check on what its client has read, and took effect on
what it found. -/
def Performed (view : Op -> Cell -> View) (write : Write Op Cell) : Prop :=
  protocol.check write.op write.seen = true ∧ view write.op write.before = view write.op write.seen ∧
    Exists fun moment => protocol.write write.op moment write.before = some write.after

/-- What holds between the start of a race and a later point of it. -/
structure Sound (view : Op -> Cell -> View) (first : Cell) (race : Race Client Op Cell) : Prop where
  checked : forall client attempt, race.phase client = .checked attempt ->
    protocol.check attempt.op attempt.seen = true
  performed : forall write, write ∈ race.writes -> protocol.Performed view write
  linked : Linked first race.writes race.cell

variable {protocol} {view : Op -> Cell -> View} {first : Cell}

/-- Moving one client to a phase that is not `checked` keeps the others. -/
theorem Sound.move {race : Race Client Op Cell} (sound : protocol.Sound view first race) (client : Client)
    {phase : Phase Op Cell}
    (passed : forall attempt, phase = .checked attempt -> protocol.check attempt.op attempt.seen = true) :
    protocol.Sound view first { race with phase := Function.update race.phase client phase } where
  checked := by
    intro other attempt held
    by_cases same : other = client
    · subst other
      exact passed attempt ((Function.update_self client phase race.phase).symm.trans held)
    · exact sound.checked other attempt ((Function.update_of_ne same phase race.phase).symm.trans held)
  performed := sound.performed
  linked := sound.linked

theorem Sound.step {race : Race Client Op Cell} {action : Action Client Op Moment}
    (sound : protocol.Sound view first race) (fresh : Fresh view race action) :
    protocol.Sound view first (protocol.step race action) := by
  cases action with
  | read client op =>
      unfold CheckedWrite.step
      dsimp only
      split
      · exact sound.move client fun _ => nofun
      · exact sound
  | check client =>
      unfold CheckedWrite.step
      dsimp only
      split
      · rename_i attempt _
        apply sound.move client
        intro other held
        split at held
        · rename_i passed
          exact Phase.checked.inj held ▸ passed
        · exact absurd held nofun
      · exact sound
  | write client moment =>
      unfold CheckedWrite.step
      unfold Fresh at fresh
      dsimp only at fresh ⊢
      split
      · rename_i attempt held
        rw [held] at fresh
        split
        · rename_i after written
          have idle : protocol.Sound view first
              { race with phase := Function.update race.phase client .idle } := sound.move client fun _ => nofun
          refine ⟨idle.checked, ?_, linked_concat sound.linked _ rfl⟩
          intro write member
          rcases List.mem_append.mp member with earlier | added
          · exact sound.performed write earlier
          · rcases List.mem_singleton.mp added with rfl
            exact ⟨sound.checked client attempt held, fresh, moment, written⟩
        · exact sound.move client fun _ => nofun
      · exact sound

omit [DecidableEq Client] in
theorem Sound.start (protocol : CheckedWrite Op Cell Moment) (view : Op -> Cell -> View) (first : Cell) :
    protocol.Sound view first (CheckedWrite.start first : Race Client Op Cell) :=
  ⟨fun _ _ => nofun, fun _ member => absurd member List.not_mem_nil, rfl⟩

/-- In a run of fresh writes every write passed its check on what it replaced. -/
theorem sound_of_fresh {actions : List (Action Client Op Moment)}
    (guarded : Run.Guarded protocol.step (Fresh view) (CheckedWrite.start first) actions) :
    protocol.Sound view first (actions.foldl protocol.step (CheckedWrite.start first)) :=
  guarded.invariant (fun _ _ sound fresh => sound.step fresh) (Sound.start protocol view first)

/-- What a fresh step does to the cell. -/
theorem step_cell {race : Race Client Op Cell} {action : Action Client Op Moment}
    (sound : protocol.Sound view first race) (fresh : Fresh view race action) :
    (protocol.step race action).cell = race.cell ∨
      Exists fun write => protocol.Performed view write ∧ write.before = race.cell ∧
        write.after = (protocol.step race action).cell := by
  cases action with
  | read client op =>
      left
      unfold CheckedWrite.step
      dsimp only
      split <;> rfl
  | check client =>
      left
      unfold CheckedWrite.step
      dsimp only
      split <;> rfl
  | write client moment =>
      unfold CheckedWrite.step
      unfold Fresh at fresh
      dsimp only at fresh ⊢
      split
      · rename_i attempt held
        rw [held] at fresh
        split
        · rename_i after written
          right
          exact ⟨{ attempt with before := race.cell, after := after },
            ⟨sound.checked client attempt held, fresh, moment, written⟩, rfl, rfl⟩
        · exact Or.inl rfl
      · exact Or.inl rfl

/-- What every performed write keeps between two cells holds between any two points
of a run of fresh writes. -/
theorem related_of_fresh {Related : Cell -> Cell -> Prop} (refl : forall cell, Related cell cell)
    (trans : forall left middle right, Related left middle -> Related middle right -> Related left right)
    (performed : forall write, protocol.Performed view write -> Related write.before write.after)
    {done later : List (Action Client Op Moment)}
    (guarded : Run.Guarded protocol.step (Fresh view) (CheckedWrite.start first) (done ++ later)) :
    Related (done.foldl protocol.step (CheckedWrite.start first)).cell
      ((done ++ later).foldl protocol.step (CheckedWrite.start first)).cell := by
  rcases (Run.guarded_append protocol.step (Fresh view) _ done later).mp guarded with ⟨early, late⟩
  rw [List.foldl_append]
  refine (late.invariant (?_ : forall race action, (protocol.Sound view first race ∧
    Related (done.foldl protocol.step (CheckedWrite.start first)).cell race.cell) -> Fresh view race action -> _)
    ⟨sound_of_fresh early, refl _⟩).2
  rintro race action ⟨sound, related⟩ fresh
  refine ⟨sound.step fresh, ?_⟩
  rcases step_cell sound fresh with same | ⟨write, done, before, after⟩
  · exact same ▸ related
  · exact trans _ _ _ related (before ▸ after ▸ performed write done)

end CheckedWrite
end Foundation
end ApexQuant
