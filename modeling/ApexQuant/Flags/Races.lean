import ApexQuant.Flags.Control
import ApexQuant.Foundation.CheckThenAct

namespace ApexQuant
namespace Flags

open Foundation

/-!
# Concurrent mutations of one flag

Calls of `transition` and `update_rollout` on one flag, by any number of clients.
A call reads the row, checks what it has read and then lets the repository write
the row without a condition.  Only the triggers and constraints of the table stand
between the write and the row it finds.
-/

/-- The assignments of `set_status` and `set_rollout`. -/
structure RowUpdates where
  setStatus : (target : FlagStatus) -> FlagRow -> FlagRow
  setRollout : (rolloutBps : Int) -> FlagRow -> FlagRow
  setStatus_status : forall target row, (setStatus target row).status = target
  setStatus_rollout : forall target row, (setStatus target row).rolloutBps = row.rolloutBps
  setRollout_status : forall rolloutBps row, (setRollout rolloutBps row).status = row.status

/-- A call on the flag. -/
inductive FlagOp where
  | transition (request : MutationRequest) (target : FlagStatus)
  | updateRollout (request : MutationRequest) (rolloutBps : Int)

namespace FlagOp

/-- The checks of the service on the row that it has read. -/
def check (op : FlagOp) (before : FlagRow) : Bool :=
  match op with
  | .transition request target =>
      (authorizeMutation (some before) request).isOk && (checkTransition before.status target).isOk
  | .updateRollout request rolloutBps =>
      (authorizeMutation (some before) request).isOk && (rolloutStep before rolloutBps).isOk

/-- The row that the repository writes over the stored one, if the table accepts it. -/
def write (updates : RowUpdates) (op : FlagOp) (now : Int) (stored : FlagRow) : Option FlagRow :=
  match op with
  | .transition _ target => (reviseRow now stored (updates.setStatus target stored)).toOption
  | .updateRollout _ rolloutBps => (reviseRow now stored (updates.setRollout rolloutBps stored)).toOption

/-- What the lifecycle depends on. -/
def view (_op : FlagOp) (row : FlagRow) : FlagStatus :=
  row.status

end FlagOp

def flagProtocol (updates : RowUpdates) : CheckedWrite FlagOp FlagRow Int where
  check := FlagOp.check
  write := FlagOp.write updates

/-- A write of the flag. -/
abbrev FlagChange := CheckedWrite.Write FlagOp FlagRow

/-- The statuses that `set_status` has written. -/
def statusesWritten (writes : List FlagChange) : List FlagStatus :=
  writes.filterMap fun write =>
    match write.op with
    | .transition _ _ => some write.after.status
    | .updateRollout _ _ => none

/-- A write that the lifecycle allows. -/
def FlagChange.Lawful (write : FlagChange) : Prop :=
  match write.op with
  | .transition _ _ =>
      write.after.status ∈ TRANSITIONS write.before.status ∧ write.after.rolloutBps = write.before.rolloutBps
  | .updateRollout _ _ => write.before.status = .active ∧ write.after.status = write.before.status

theorem isOk_checkTransition_iff (current target : FlagStatus) :
    (checkTransition current target).isOk = true <-> target ∈ TRANSITIONS current := by
  unfold checkTransition assertTransition
  split
  · rename_i edge
    exact ⟨fun _ => edge, fun _ => rfl⟩
  · rename_i missing
    exact ⟨fun passed => absurd passed Bool.false_ne_true, fun edge => absurd edge missing⟩

theorem active_of_rolloutStep {before : FlagRow} {rolloutBps : Int}
    (passed : (rolloutStep before rolloutBps).isOk = true) : before.status = .active := by
  by_contra inactive
  unfold rolloutStep at passed
  rw [if_pos inactive] at passed
  exact Bool.false_ne_true passed

theorem revised_of_toOption {now : Int} {old new revised : FlagRow}
    (accepted : (reviseRow now old new).toOption = some revised) : revised = setUpdatedAt now new := by
  cases ran : reviseRow now old new with
  | error refusal => rw [ran] at accepted; exact absurd accepted nofun
  | ok row =>
      rw [ran] at accepted
      exact Option.some.inj accepted ▸ (reviseRow_spec ran).2.1

/-- A write whose check still stands is lawful. -/
theorem lawful_of_performed {updates : RowUpdates} {write : FlagChange}
    (performed : (flagProtocol updates).Performed FlagOp.view write) : FlagChange.Lawful write := by
  rcases write with ⟨⟨op, seen⟩, before, after⟩
  rcases performed with ⟨passed, sameStatus, now, written⟩
  cases op with
  | transition request target =>
      have edge := (isOk_checkTransition_iff seen.status target).mp (Bool.and_eq_true_iff.mp passed).2
      have revised : after = setUpdatedAt now (updates.setStatus target before) := revised_of_toOption written
      subst revised
      refine ⟨?_, updates.setStatus_rollout target before⟩
      change (updates.setStatus target before).status ∈ TRANSITIONS before.status
      rw [updates.setStatus_status, show before.status = seen.status from sameStatus]
      exact edge
  | updateRollout request rolloutBps =>
      have active := active_of_rolloutStep (Bool.and_eq_true_iff.mp passed).2
      have revised : after = setUpdatedAt now (updates.setRollout rolloutBps before) := revised_of_toOption written
      subst revised
      exact ⟨Eq.trans sameStatus active, updates.setRollout_status rolloutBps before⟩

/-- Lawful writes that follow each other write a path of the lifecycle. -/
theorem statusesWritten_chain {first last : FlagRow} {writes : List FlagChange}
    (linked : CheckedWrite.Linked first writes last)
    (lawful : forall write, write ∈ writes -> FlagChange.Lawful write) :
    List.IsChain (fun current target => target ∈ TRANSITIONS current) (first.status :: statusesWritten writes) := by
  induction writes generalizing first with
  | nil => exact List.isChain_singleton _
  | cons write writes inductionHypothesis =>
      rcases linked with ⟨rfl, rest⟩
      have own := lawful write List.mem_cons_self
      have later := inductionHypothesis rest fun other member => lawful other (List.mem_cons_of_mem _ member)
      rcases write with ⟨⟨op, seen⟩, before, after⟩
      cases op with
      | transition request target => exact List.isChain_cons_cons.mpr ⟨own.1, later⟩
      | updateRollout request rolloutBps => exact own.2 ▸ later

variable {Client : Type} [DecidableEq Client]

/-- When every call writes while the status is the one it has read, the statuses
written are a path of the lifecycle and the rollout of a flag that is not active
does not change. -/
theorem flag_lifecycle_of_fresh_writes (updates : RowUpdates) (row : FlagRow)
    (actions : List (CheckedWrite.Action Client FlagOp Int))
    (guarded : Run.Guarded (flagProtocol updates).step (CheckedWrite.Fresh FlagOp.view) (CheckedWrite.start row)
      actions) :
    let writes := (actions.foldl (flagProtocol updates).step (CheckedWrite.start row)).writes
    List.IsChain (fun current target => target ∈ TRANSITIONS current) (row.status :: statusesWritten writes) ∧
      forall write, write ∈ writes -> write.before.status ≠ .active ->
        write.after.rolloutBps = write.before.rolloutBps := by
  intro writes
  have sound := CheckedWrite.sound_of_fresh guarded
  have lawful : forall write, write ∈ writes -> FlagChange.Lawful write :=
    fun write member => lawful_of_performed (sound.performed write member)
  refine ⟨statusesWritten_chain sound.linked lawful, ?_⟩
  intro write member inactive
  have own := lawful write member
  rcases write with ⟨⟨op, seen⟩, before, after⟩
  cases op with
  | transition request target => exact own.2
  | updateRollout request rolloutBps => exact absurd own.1 inactive

/-- The updates of a repository that counts generations. -/
def countingUpdates : RowUpdates where
  setStatus := fun target row => { row with status := target, generation := row.generation + 1 }
  setRollout := fun rolloutBps row => { row with rolloutBps := rolloutBps, generation := row.generation + 1 }
  setStatus_status := fun _ _ => rfl
  setStatus_rollout := fun _ _ => rfl
  setRollout_status := fun _ _ => rfl

/-- One client's call without another step in between. -/
def alone (client : Bool) (op : FlagOp) : List (CheckedWrite.Action Bool FlagOp Int) :=
  [.read client op, .check client, .write client 1]

/-- Two clients that both read before either writes. -/
def crossed (first second : FlagOp) : List (CheckedWrite.Action Bool FlagOp Int) :=
  [.read true first, .read false second, .check true, .check false, .write true 1, .write false 2]

/-- The writes of a run of two clients. -/
def writesOf (row : FlagRow) (actions : List (CheckedWrite.Action Bool FlagOp Int)) : List FlagChange :=
  (actions.foldl (flagProtocol countingUpdates).step (CheckedWrite.start row)).writes

theorem lifecycle_of_activation_then_rollout :
    List.IsChain (fun current target => target ∈ TRANSITIONS current)
      (haltFlag.status :: statusesWritten (writesOf haltFlag
        (alone true (.transition operatorRequest .active) ++ alone false (.updateRollout operatorRequest 500)))) :=
  (flag_lifecycle_of_fresh_writes countingUpdates haltFlag
    (alone true (.transition operatorRequest .active) ++ alone false (.updateRollout operatorRequest 500))
    (by decide)).1

/-- Two activations of one draft both take effect, and a rollout is written to a
flag that another client has disabled since it was read. -/
theorem crossed_calls_break_lifecycle :
    statusesWritten (writesOf haltFlag
      (crossed (.transition operatorRequest .active) (.transition operatorRequest .active))) = [.active, .active] ∧
    (writesOf liveFlag (crossed (.transition operatorRequest .disabled) (.updateRollout operatorRequest 500))).map
      (fun write => (write.before.status, write.before.rolloutBps, write.after.rolloutBps)) =
        [(.active, 0, 0), (.disabled, 0, 500)] := by
  decide

end Flags
end ApexQuant
