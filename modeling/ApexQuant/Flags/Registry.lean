import ApexQuant.Flags.Engine
import ApexQuant.Foundation.Text
import ApexQuant.Foundation.Table
import ApexQuant.Foundation.Runs

namespace ApexQuant
namespace Flags

open Foundation

/-!
# The flag registry

The table `feature_flags.flags` with its column types, its CHECK constraints and
its two row triggers, as `0001_feature_flags.sql` creates them.  Statements are
as general as SQL allows: an INSERT has any number of rows and any conflict
clause, an UPDATE has any condition and assigns any column, the key included.

A flag is a row.  No statement here removes one, so a row keeps its position in
the table, and its history is what the table holds at that position.
-/

/-- A row of `feature_flags.flags`.  Timestamps are microseconds. -/
structure FlagRow where
  flagKey : Text
  description : Text
  owner : Text
  flagType : FlagType
  flagClass : FlagClass := .standard
  status : FlagStatus := .draft
  /-- The value that the flag carries when it is active. -/
  boolValue : Option Bool := none
  rolloutBps : Int := 0
  allowlist : List Text := []
  denylist : List Text := []
  /-- Empty means all environments. -/
  environments : List Text := []
  failValue : Bool := false
  generation : Int := 1
  reviewAt : Int
  expiresAt : Option Int := none
  lastEvaluatedAt : Option Int := none
  requiredAuthority : Text := "flags:write".toList
  createdAt : Int
  updatedAt : Int
  deriving DecidableEq

/-- Why the server refuses a statement. -/
inductive Refusal where
  | raised (message : Text)
  | outOfRange (column : Text)
  | checkViolation (constraint : Text)
  | uniqueViolation
  /-- ON CONFLICT DO UPDATE would affect a row a second time. -/
  | cardinalityViolation
  deriving DecidableEq

/-! ## Constraints -/

/-- `[a-z0-9]` of the key format. -/
def keyEdge (c : Char) : Bool :=
  c.isLower || c.isDigit

/-- `[a-z0-9_.-]` of the key format. -/
def keyInner (c : Char) : Bool :=
  keyEdge c || c == '_' || c == '.' || c == '-'

/-- The pattern of `flags_key_format`. -/
def keyFormat : Text -> Bool
  | [] => false
  | first :: rest =>
      keyEdge first &&
        match rest.getLast? with
        | none => true
        | some last => decide (rest.dropLast.length ≤ 126) && rest.dropLast.all keyInner && keyEdge last

/-- The range of INTEGER. -/
def isInteger (value : Int) : Bool :=
  decide (-2 ^ 31 ≤ value) && decide (value < 2 ^ 31)

/-- The range of BIGINT. -/
def isBigint (value : Int) : Bool :=
  decide (-2 ^ 63 ≤ value) && decide (value < 2 ^ 63)

/-- The ranges of the columns and the CHECK constraints of the table, each with
the answer of the server when it fails. -/
def FlagRow.constraints (row : FlagRow) : List (Bool × Refusal) :=
  [(isInteger row.rolloutBps, .outOfRange "rollout_bps".toList),
   (isBigint row.generation, .outOfRange "generation".toList),
   (keyFormat row.flagKey, .checkViolation "flags_key_format".toList),
   (Text.notBlank row.description, .checkViolation "flags_description_not_empty".toList),
   (Text.notBlank row.owner, .checkViolation "flags_owner_not_empty".toList),
   (decide (0 ≤ row.rolloutBps ∧ row.rolloutBps ≤ 10000), .checkViolation "flags_rollout_bps_valid".toList),
   (decide (1 ≤ row.generation), .checkViolation "flags_generation_positive".toList),
   (!"disable_".toList.isPrefixOf row.flagKey && !"no_".toList.isPrefixOf row.flagKey,
    .checkViolation "flags_positive_polarity".toList)]

def checkConstraints (row : FlagRow) : Except Refusal Unit :=
  match row.constraints.find? fun constraint => !constraint.1 with
  | some constraint => .error constraint.2
  | none => .ok ()

/-! ## Triggers -/

/-- `set_updated_at`. -/
def setUpdatedAt (now : Int) (new : FlagRow) : FlagRow :=
  { new with updatedAt := now }

/-- `enforce_safety_invariants`.  `old` is absent for an INSERT. -/
def enforceSafetyInvariants (old : Option FlagRow) (new : FlagRow) : Except Refusal FlagRow :=
  if new.flagClass = .safetyCritical ∧ new.failValue ≠ false then
    .error
      (.raised ("SAFETY_CRITICAL flag ".toList ++ new.flagKey ++ " must have fail_value locked to false".toList))
  else
    match old with
    | none => .ok new
    | some old =>
        if new.generation < old.generation then
          .error (.raised "flag generation must be monotonically increasing".toList)
        else if old.status = .retired ∧ new.status ≠ .retired then
          .error
            (.raised ("RETIRED flag ".toList ++ new.flagKey ++ " is terminal and cannot be reactivated".toList))
        else if old.flagClass = .safetyCritical ∧ new.failValue ≠ old.failValue then
          .error (.raised ("SAFETY_CRITICAL flag ".toList ++ new.flagKey ++ " fail_value is immutable".toList))
        else .ok new

/-- The lock on a row by itself. -/
def FlagRow.Locked (row : FlagRow) : Prop :=
  row.flagClass = .safetyCritical -> row.failValue = false

/-- What the trigger accepts of an update. -/
structure AcceptedUpdate (old new : FlagRow) : Prop where
  locked : new.Locked
  generation_le : old.generation ≤ new.generation
  retired : old.status = .retired -> new.status = .retired
  failValue : old.flagClass = .safetyCritical -> new.failValue = old.failValue

theorem enforced_insert {row accepted : FlagRow} (passes : enforceSafetyInvariants none row = .ok accepted) :
    accepted = row ∧ row.Locked := by
  unfold enforceSafetyInvariants at passes
  split at passes
  · exact absurd passes nofun
  · rename_i locked
    exact ⟨(Except.ok.inj passes).symm, fun critical => by_contra fun broken => locked ⟨critical, broken⟩⟩

theorem enforced_update {old row accepted : FlagRow} (passes : enforceSafetyInvariants (some old) row = .ok accepted) :
    accepted = row ∧ AcceptedUpdate old row := by
  unfold enforceSafetyInvariants at passes
  split at passes
  · exact absurd passes nofun
  · rename_i locked
    dsimp only at passes
    split at passes
    · exact absurd passes nofun
    · rename_i rises
      split at passes
      · exact absurd passes nofun
      · rename_i terminal
        split at passes
        · exact absurd passes nofun
        · rename_i immutable
          refine ⟨(Except.ok.inj passes).symm, ?_, not_lt.mp rises, ?_, ?_⟩
          · exact fun critical => by_contra fun broken => locked ⟨critical, broken⟩
          · exact fun gone => by_contra fun back => terminal ⟨gone, back⟩
          · exact fun critical => by_contra fun moved => immutable ⟨critical, moved⟩

/-! ## Statements -/

/-- What an INSERT does with a row whose key is taken. -/
inductive Conflict where
  | refuse
  | doNothing
  | doUpdate (assign : (stored proposed : FlagRow) -> FlagRow) (applies : (stored proposed : FlagRow) -> Bool)

inductive Statement where
  | insert (proposed : List FlagRow) (conflict : Conflict)
  | update (assign : FlagRow -> FlagRow) (applies : FlagRow -> Bool)

/-- The table `feature_flags.flags`. -/
abbrev FlagTable := Table FlagRow.flagKey

/-- A new version of a row: the triggers in the order of their names, then the
constraints. -/
def reviseRow (now : Int) (old new : FlagRow) : Except Refusal FlagRow := do
  let guarded ← enforceSafetyInvariants (some old) new
  let stamped := setUpdatedAt now guarded
  checkConstraints stamped
  return stamped

/-- A new version of the row at a position, whose key must stay free of others. -/
def updateRow (now : Int) (flags : FlagTable) (index : Nat) (old new : FlagRow) : Except Refusal FlagTable := do
  let revised ← reviseRow now old new
  match flags.replace index revised with
  | none => .error .uniqueViolation
  | some flags => .ok flags

/-- One row of an UPDATE.  The condition and the assignments read the table as
the statement found it. -/
def updateOne (now : Int) (assign : FlagRow -> FlagRow) (applies : FlagRow -> Bool) (flags : FlagTable)
    (target : FlagRow × Nat) : Except Refusal FlagTable :=
  if applies target.1 then updateRow now flags target.2 target.1 (assign target.1) else .ok flags

/-- An INSERT under way: the table, and the positions it has written so far. -/
structure Inserting where
  flags : FlagTable
  written : List Nat

/-- One row of an INSERT. -/
def insertOne (now : Int) (conflict : Conflict) (state : Inserting) (proposed : FlagRow) :
    Except Refusal Inserting := do
  let row ← enforceSafetyInvariants none proposed
  checkConstraints row
  match state.flags.rows.findIdx? fun stored => decide (stored.flagKey = row.flagKey) with
  | none =>
      match state.flags.insert row with
      | none => .error .uniqueViolation
      | some flags => .ok { flags := flags, written := state.flags.rows.length :: state.written }
  | some index =>
      match conflict with
      | .refuse => .error .uniqueViolation
      | .doNothing => .ok state
      | .doUpdate assign applies =>
          if state.written.contains index then .error .cardinalityViolation
          else
            match state.flags.rows[index]? with
            | none => .ok state
            | some stored =>
                if applies stored row then do
                  let flags ← updateRow now state.flags index stored (assign stored row)
                  return { flags := flags, written := index :: state.written }
                else .ok state

/-- A statement, which takes effect as a whole or is refused. -/
def execute (now : Int) (flags : FlagTable) : Statement -> Except Refusal FlagTable
  | .insert proposed conflict => do
      let done ← proposed.foldlM (insertOne now conflict) { flags := flags, written := [] }
      return done.flags
  | .update assign applies => flags.rows.zipIdx.foldlM (updateOne now assign applies) flags

/-- A statement with the time of its transaction. -/
structure Submission where
  now : Int
  statement : Statement

/-- The table after a statement; one that is refused leaves it as it was. -/
def submit (flags : FlagTable) (submission : Submission) : FlagTable :=
  match execute submission.now flags submission.statement with
  | .ok after => after
  | .error _ => flags

/-! ## What a statement does to the rows -/

/-- A row that the triggers and the constraints have let through. -/
structure FlagRow.Admitted (row : FlagRow) : Prop where
  locked : row.Locked
  checked : checkConstraints row = .ok ()

/-- The versions that a statement may put in the place of a stored row. -/
def Statement.proposals (stored : FlagRow) : Statement -> List FlagRow
  | .update assign applies => if applies stored then [assign stored] else []
  | .insert proposed (.doUpdate assign applies) =>
      (proposed.filter fun row => decide (stored.flagKey = row.flagKey) && applies stored row).map (assign stored)
  | .insert _ _ => []

/-- A stored row and what it is after a statement. -/
def Succeeds (now : Int) (statement : Statement) (old new : FlagRow) : Prop :=
  new = old ∨ Exists fun proposed =>
    proposed ∈ statement.proposals old ∧ AcceptedUpdate old proposed ∧ new = setUpdatedAt now proposed

/-- A table and what it is after the rows of a statement so far. -/
structure Advanced (now : Int) (statement : Statement) (before after : FlagTable) : Prop where
  succeeds : forall (index : Nat) (old : FlagRow), before.rows[index]? = some old ->
    Exists fun new => after.rows[index]? = some new ∧ Succeeds now statement old new
  admitted : forall row, row ∈ after.rows -> row ∈ before.rows ∨ row.Admitted

namespace Advanced

variable {now : Int} {statement : Statement} {before current after : FlagTable}

theorem refl : Advanced now statement before before where
  succeeds := fun _ old stored => ⟨old, stored, Or.inl rfl⟩
  admitted := fun _ member => Or.inl member

/-- Writing a position that a statement may change. -/
theorem write (so_far : Advanced now statement before current) {index : Nat} {old new : FlagRow}
    (stored : before.rows[index]? = some old) (succeeds : Succeeds now statement old new) (admitted : new.Admitted)
    (written : after.rows = current.rows.set index new) : Advanced now statement before after where
  succeeds := by
    intro position row found
    rcases so_far.succeeds position row found with ⟨later, kept, follows⟩
    rw [written, List.getElem?_set]
    by_cases same : index = position
    · subst position
      rcases List.getElem?_eq_some_iff.mp kept with ⟨inside, -⟩
      rw [if_pos rfl, if_pos inside]
      rw [stored] at found
      exact ⟨new, rfl, Option.some.inj found ▸ succeeds⟩
    · rw [if_neg same]
      exact ⟨later, kept, follows⟩
  admitted := by
    intro row member
    rw [written] at member
    rcases List.mem_or_eq_of_mem_set member with known | rfl
    · exact so_far.admitted row known
    · exact Or.inr admitted

/-- Adding a row at the end. -/
theorem append (so_far : Advanced now statement before current) {row : FlagRow} (admitted : row.Admitted)
    (written : after.rows = current.rows ++ [row]) : Advanced now statement before after where
  succeeds := by
    intro position old found
    rcases so_far.succeeds position old found with ⟨later, kept, follows⟩
    rcases List.getElem?_eq_some_iff.mp kept with ⟨inside, -⟩
    refine ⟨later, ?_, follows⟩
    rw [written, List.getElem?_append_left inside, kept]
  admitted := by
    intro other member
    rw [written] at member
    rcases List.mem_append.mp member with known | added
    · exact so_far.admitted other known
    · exact Or.inr (List.mem_singleton.mp added ▸ admitted)

end Advanced

theorem reviseRow_spec {now : Int} {old new revised : FlagRow} (accepted : reviseRow now old new = .ok revised) :
    AcceptedUpdate old new ∧ revised = setUpdatedAt now new ∧ revised.Admitted := by
  rcases Run.ok_of_bind accepted with ⟨guarded, passes, rest⟩
  rcases enforced_update passes with ⟨rfl, update⟩
  rcases Run.ok_of_bind rest with ⟨⟨⟩, checked, returned⟩
  rcases Except.ok.inj returned with rfl
  exact ⟨update, rfl, update.locked, checked⟩

theorem updateRow_spec {now : Int} {flags after : FlagTable} {index : Nat} {old new : FlagRow}
    (accepted : updateRow now flags index old new = .ok after) :
    AcceptedUpdate old new ∧ (setUpdatedAt now new).Admitted ∧
      after.rows = flags.rows.set index (setUpdatedAt now new) := by
  rcases Run.ok_of_bind accepted with ⟨revised, passes, stored⟩
  rcases reviseRow_spec passes with ⟨update, rfl, admitted⟩
  refine ⟨update, admitted, ?_⟩
  split at stored
  · exact absurd stored nofun
  · rename_i replaced
    exact Except.ok.inj stored ▸ Table.rows_of_replace replaced

/-- The loop of an UPDATE. -/
theorem update_advances {now : Int} {assign : FlagRow -> FlagRow} {applies : FlagRow -> Bool} {flags after : FlagTable}
    (accepted : flags.rows.zipIdx.foldlM (updateOne now assign applies) flags = .ok after) :
    Advanced now (.update assign applies) flags after := by
  refine Run.foldlM_invariant ?_ Advanced.refl accepted
  rintro current ⟨old, index⟩ next member so_far passed
  have stored : flags.rows[index]? = some old := List.mk_mem_zipIdx_iff_getElem?.mp member
  unfold updateOne at passed
  split at passed
  · rename_i selected
    rcases updateRow_spec passed with ⟨update, admitted, written⟩
    refine so_far.write stored (Or.inr ⟨assign old, ?_, update, rfl⟩) admitted written
    rw [Statement.proposals, if_pos selected]
    exact List.mem_singleton_self _
  · exact Except.ok.inj passed ▸ so_far

/-- Where an INSERT stands: positions that it has not written are as it found them. -/
structure Inserting.Sound (now : Int) (statement : Statement) (flags : FlagTable) (state : Inserting) : Prop where
  advanced : Advanced now statement flags state.flags
  untouched : forall index : Nat, index ∉ state.written -> state.flags.rows[index]? = flags.rows[index]?

theorem insertOne_sound {now : Int} {conflict : Conflict} {proposed : List FlagRow} {flags : FlagTable}
    {state next : Inserting} {row : FlagRow} (member : row ∈ proposed)
    (sound : state.Sound now (.insert proposed conflict) flags)
    (accepted : insertOne now conflict state row = .ok next) : next.Sound now (.insert proposed conflict) flags := by
  rcases Run.ok_of_bind accepted with ⟨guarded, passes, rest⟩
  rcases enforced_insert passes with ⟨rfl, locked⟩
  rcases Run.ok_of_bind rest with ⟨⟨⟩, checked, stored⟩
  split at stored
  · split at stored
    · exact absurd stored nofun
    · rename_i after inserted
      have rows := Table.rows_of_insert inserted
      rw [← Except.ok.inj stored]
      refine ⟨sound.advanced.append ⟨locked, checked⟩ rows, ?_⟩
      intro index fresh
      rcases not_or.mp (fun known => fresh (List.mem_cons.mpr known)) with ⟨other, unwritten⟩
      rw [← sound.untouched index unwritten, rows]
      rcases Nat.lt_or_ge index state.flags.rows.length with inside | outside
      · exact List.getElem?_append_left inside
      · rw [List.getElem?_eq_none outside, List.getElem?_eq_none]
        rw [List.length_append, List.length_singleton]
        omega
  · rename_i index found
    cases conflict with
    | refuse => exact absurd stored nofun
    | doNothing => exact Except.ok.inj stored ▸ sound
    | doUpdate assign applies =>
        dsimp only at stored
        split at stored
        · exact absurd stored nofun
        · rename_i unwritten
          split at stored
          · exact Except.ok.inj stored ▸ sound
          · rename_i old present
            split at stored
            · rename_i selected
              rcases Run.ok_of_bind stored with ⟨after, updated, returned⟩
              rcases updateRow_spec updated with ⟨update, admitted, written⟩
              have fresh : index ∉ state.written := fun known => unwritten (List.contains_iff_mem.mpr known)
              have original : flags.rows[index]? = some old := (sound.untouched index fresh).symm.trans present
              have taken : old.flagKey = guarded.flagKey := by
                rcases List.findIdx?_eq_some_iff_getElem.mp found with ⟨inside, same, -⟩
                rw [List.getElem?_eq_some_iff] at present
                exact of_decide_eq_true (present.2 ▸ same)
              have offered : assign old guarded ∈
                  (Statement.insert proposed (.doUpdate assign applies)).proposals old :=
                List.mem_map_of_mem (List.mem_filter.mpr ⟨member, by rw [taken, selected]; simp⟩)
              rw [← Except.ok.inj returned]
              refine ⟨sound.advanced.write original (Or.inr ⟨_, offered, update, rfl⟩) admitted written, ?_⟩
              intro other unseen
              rcases not_or.mp (fun known => unseen (List.mem_cons.mpr known)) with ⟨different, before⟩
              rw [← sound.untouched other before, written, List.getElem?_set_ne (Ne.symm different)]
            · exact Except.ok.inj stored ▸ sound

theorem execute_advances {now : Int} {flags after : FlagTable} {statement : Statement}
    (accepted : execute now flags statement = .ok after) : Advanced now statement flags after := by
  cases statement with
  | update assign applies => exact update_advances accepted
  | insert proposed conflict =>
      rcases Run.ok_of_bind accepted with ⟨done, loop, returned⟩
      have initially : Inserting.Sound now (.insert proposed conflict) flags { flags := flags, written := [] } :=
        ⟨Advanced.refl, fun _ _ => rfl⟩
      have sound : done.Sound now (.insert proposed conflict) flags :=
        Run.foldlM_invariant (fun _ _ _ member => insertOne_sound member) initially loop
      exact Except.ok.inj returned ▸ sound.advanced

theorem submit_advances (flags : FlagTable) (submission : Submission) :
    Advanced submission.now submission.statement flags (submit flags submission) := by
  unfold submit
  split
  · rename_i accepted
    exact execute_advances accepted
  · exact Advanced.refl

/-! ## Histories -/

/-- The table after the statements submitted since it was created. -/
def flagsAfter (submissions : List Submission) : FlagTable :=
  submissions.foldl submit Table.empty

/-- Every row that is ever stored has passed the constraints and the lock. -/
theorem flagsAfter_admitted (submissions : List Submission) {row : FlagRow}
    (stored : row ∈ (flagsAfter submissions).rows) : row.Admitted := by
  refine Run.invariant submit (?_ : forall (flags : FlagTable) (submission : Submission),
    (forall row, row ∈ flags.rows -> row.Admitted) ->
      forall row, row ∈ (submit flags submission).rows -> row.Admitted)
    (fun _ member => absurd member List.not_mem_nil) submissions row stored
  intro flags submission all row member
  rcases (submit_advances flags submission).admitted row member with known | admitted
  · exact all row known
  · exact admitted

/-- What every statement keeps of a row holds at the row's position in every later
table. -/
theorem row_invariant {condition : FlagTable -> Submission -> Prop} {Inv : FlagRow -> Prop}
    (keeps : forall flags submission old new, condition flags submission -> old ∈ flags.rows ->
      Succeeds submission.now submission.statement old new -> Inv old -> Inv new)
    {flags : FlagTable} {later : List Submission} (guarded : Run.Guarded submit condition flags later) {index : Nat}
    {row : FlagRow} (stored : flags.rows[index]? = some row) (holds : Inv row) :
    Exists fun last => (later.foldl submit flags).rows[index]? = some last ∧ Inv last := by
  induction later generalizing flags row with
  | nil => exact ⟨row, stored, holds⟩
  | cons submission later inductionHypothesis =>
      rcases (submit_advances flags submission).succeeds index row stored with ⟨new, kept, succeeds⟩
      have next := keeps flags submission row new guarded.1 (List.mem_of_getElem? stored) succeeds holds
      exact inductionHypothesis guarded.2 kept next

/-- A statement that gives a row another version gives it another generation too,
and leaves no flag of the safety-critical class outside it. -/
def Submission.Disciplined (flags : FlagTable) (submission : Submission) : Prop :=
  forall old, old ∈ flags.rows -> forall new, new ∈ submission.statement.proposals old ->
    (setUpdatedAt submission.now new = old ∨ new.generation ≠ old.generation) ∧
      (old.flagClass = .safetyCritical -> new.flagClass = .safetyCritical)

instance (flags : FlagTable) (submission : Submission) : Decidable (submission.Disciplined flags) :=
  inferInstanceAs (Decidable (forall old, old ∈ flags.rows ->
    forall new, new ∈ submission.statement.proposals old -> _))

theorem retired_kept {now : Int} {statement : Statement} {old new : FlagRow} (succeeds : Succeeds now statement old new)
    (retired : old.status = .retired) : new.status = .retired := by
  rcases succeeds with rfl | ⟨proposed, -, update, rfl⟩
  · exact retired
  · exact update.retired retired

theorem critical_kept {flags : FlagTable} {submission : Submission} {old new : FlagRow}
    (disciplined : submission.Disciplined flags) (stored : old ∈ flags.rows)
    (succeeds : Succeeds submission.now submission.statement old new) (critical : old.flagClass = .safetyCritical) :
    new.flagClass = .safetyCritical := by
  rcases succeeds with rfl | ⟨proposed, offered, -, rfl⟩
  · exact critical
  · exact (disciplined old stored proposed offered).2 critical

theorem generation_rises {flags : FlagTable} {submission : Submission} {old new : FlagRow}
    (disciplined : submission.Disciplined flags) (stored : old ∈ flags.rows)
    (succeeds : Succeeds submission.now submission.statement old new) (changed : new ≠ old) :
    old.generation < new.generation := by
  rcases succeeds with rfl | ⟨proposed, offered, update, rfl⟩
  · exact absurd rfl changed
  · rcases (disciplined old stored proposed offered).1 with same | bumped
    · exact absurd same changed
    · exact lt_of_le_of_ne update.generation_le (Ne.symm bumped)

/-- A flag's history.  Once retired it stays retired, whatever is submitted.  Over
disciplined statements, a flag that was ever safety-critical fails to false ever
after, and a statement that changes a flag raises its generation. -/
theorem flag_history (done later : List Submission) (index : Nat) (row : FlagRow)
    (stored : (flagsAfter done).rows[index]? = some row) :
    Exists fun last => (flagsAfter (done ++ later)).rows[index]? = some last ∧
      (row.status = .retired -> last.status = .retired) ∧
      (Run.Guarded submit (fun flags submission => submission.Disciplined flags) Table.empty (done ++ later) ->
        (row.flagClass = .safetyCritical -> last.failValue = false) ∧
        (forall next, later = [next] -> last ≠ row -> row.generation < last.generation)) := by
  have continued : flagsAfter (done ++ later) = later.foldl submit (flagsAfter done) := List.foldl_append
  have free : Run.Guarded submit (fun _ _ => True) (flagsAfter done) later :=
    Run.guarded_of_mem submit (fun _ _ _ => trivial) _
  rcases row_invariant (fun _ _ _ _ _ _ _ _ => trivial) free stored trivial with ⟨last, kept, -⟩
  refine ⟨last, continued ▸ kept, ?_, ?_⟩
  · intro retired
    obtain ⟨same, found, holds⟩ :=
      row_invariant (fun _ _ _ _ _ _ succeeds => retired_kept succeeds) free stored retired
    exact Option.some.inj (kept.symm.trans found) ▸ holds
  · intro guarded
    have rest := ((Run.guarded_append submit _ _ done later).mp guarded).2
    refine ⟨?_, ?_⟩
    · intro critical
      obtain ⟨same, found, holds⟩ := row_invariant
        (fun _ _ _ _ disciplined member succeeds => critical_kept disciplined member succeeds) rest stored critical
      have admitted := flagsAfter_admitted (done ++ later) (List.mem_of_getElem? (continued ▸ found))
      exact Option.some.inj (kept.symm.trans found) ▸ admitted.locked holds
    · rintro next rfl changed
      rcases (submit_advances (flagsAfter done) next).succeeds index row stored with ⟨new, found, succeeds⟩
      have same : last = new := Option.some.inj (kept.symm.trans found)
      exact same ▸ generation_rises rest.1 (List.mem_of_getElem? stored) succeeds (same ▸ changed)

/-- A safety-critical flag in production. -/
def haltFlag : FlagRow where
  flagKey := "trading.halt".toList
  description := "Halts order flow".toList
  owner := "risk".toList
  flagType := .boolean
  flagClass := .safetyCritical
  reviewAt := 100
  createdAt := 0
  updatedAt := 0

def createHaltFlag : Submission where
  now := 0
  statement := .insert [haltFlag] .refuse

/-- An UPDATE of every flag. -/
def updateAll (now : Int) (assign : FlagRow -> FlagRow) : Submission where
  now := now
  statement := .update assign fun _ => true

theorem flag_history_of_retirement :
    Exists fun last =>
      (flagsAfter ([createHaltFlag] ++
        [updateAll 1 fun row => { row with status := .retired, generation := row.generation + 1 }])).rows[0]? =
          some last ∧
      last.failValue = false ∧ haltFlag.generation < last.generation := by
  obtain ⟨last, stored, -, disciplined⟩ := flag_history [createHaltFlag]
    [updateAll 1 fun row => { row with status := .retired, generation := row.generation + 1 }] 0 haltFlag (by decide)
  have guarded := disciplined (by decide)
  refine ⟨last, stored, guarded.1 rfl, guarded.2 _ rfl ?_⟩
  rintro rfl
  exact absurd stored (by decide)

/-- The generation may stay where it is while other columns change, and a flag may
leave the safety-critical class first and lose its lock afterwards. -/
theorem unversioned_change_and_lost_lock :
    ((flagsAfter [createHaltFlag]).rows[0]?.map fun row => (row.owner, row.generation)) = some ("risk".toList, 1) ∧
    ((flagsAfter [createHaltFlag, updateAll 1 fun row => { row with owner := "ops".toList }]).rows[0]?.map
      fun row => (row.owner, row.generation)) = some ("ops".toList, 1) ∧
    ((flagsAfter [createHaltFlag]).rows[0]?.map FlagRow.flagClass) = some .safetyCritical ∧
    ((flagsAfter [createHaltFlag,
        updateAll 1 fun row => { row with flagClass := .standard, generation := row.generation + 1 },
        updateAll 2 fun row => { row with failValue := true, generation := row.generation + 1 }]).rows[0]?.map
      FlagRow.failValue) = some true := by
  decide

end Flags
end ApexQuant
