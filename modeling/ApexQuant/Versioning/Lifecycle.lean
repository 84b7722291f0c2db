import Mathlib.Logic.Relation
import ApexQuant.Versioning.SemVer
import ApexQuant.Foundation.Table
import ApexQuant.Foundation.CheckThenAct

namespace ApexQuant
namespace Versioning

open Foundation

/-!
# The lifecycle of a service version

`release_version`, `deprecate_version` and `retire_version` over the Postgres
repository.  Each reads the version, checks its status and then updates the row by
service and version, with no condition on the status the row has by then.
-/

inductive LifecycleStatus where
  | draft
  | released
  | deprecated
  | retired
  deriving DecidableEq, Repr

/-- A row of `service_versioning.service_versions`.  Timestamps are microseconds. -/
structure VersionRow where
  serviceName : Text
  version : Text
  status : LifecycleStatus := .draft
  gitSha : Option Text := none
  imageTag : Option Text := none
  checksumSha256 : Option Text := none
  releasedAt : Option Int := none
  deprecatedAt : Option Int := none
  retiredAt : Option Int := none
  updatedAt : Int
  deriving DecidableEq

/-- `UNIQUE (service_name, version)`. -/
def VersionRow.key (row : VersionRow) : Text × Text :=
  (row.serviceName, row.version)

abbrev VersionTable := Table VersionRow.key

/-- What a release stores. -/
def VersionRow.artifact (row : VersionRow) : Option Text × Option Text × Option Text :=
  (row.gitSha, row.imageTag, row.checksumSha256)

/-- `[0-9a-f]`. -/
def isHexDigit (c : Char) : Bool :=
  c.isDigit || (decide ('a' ≤ c) && decide (c ≤ 'f'))

/-- The CHECK constraints on what a release writes. -/
def artifactAccepted (gitSha checksumSha256 : Text) : Bool :=
  decide (7 ≤ gitSha.length ∧ gitSha.length ≤ 40) && gitSha.all isHexDigit &&
    decide (checksumSha256.length = 64) && checksumSha256.all isHexDigit

/-- UPDATE of the row with a key. -/
def updateVersion (table : VersionTable) (key : Text × Text) (change : VersionRow -> VersionRow)
    (keeps : forall row, (change row).key = row.key) : VersionTable :=
  table.update (fun row => if row.key = key then change row else row) fun row => by
    split
    · exact keeps row
    · rfl

/-- `update_version_release`. -/
def updateVersionRelease (table : VersionTable) (now : Int) (key : Text × Text)
    (gitSha imageTag checksumSha256 : Text) : Option VersionTable :=
  match table.find key with
  | none => none
  | some _ =>
      if artifactAccepted gitSha checksumSha256 then
        some (updateVersion table key
          (fun row =>
            { row with
              status := .released
              gitSha := some gitSha
              imageTag := some imageTag
              checksumSha256 := some checksumSha256
              releasedAt := some now
              updatedAt := now })
          fun _ => rfl)
      else none

/-- `update_version_status`. -/
def updateVersionStatus (table : VersionTable) (now : Int) (key : Text × Text) (status : LifecycleStatus) :
    Option VersionTable :=
  match table.find key with
  | none => none
  | some _ =>
      some (updateVersion table key
        (fun row =>
          { row with
            status := status
            deprecatedAt := if status = .deprecated then some now else row.deprecatedAt
            retiredAt := if status = .retired then some now else row.retiredAt
            updatedAt := now })
        fun _ => rfl)

/-! ## The service -/

/-- A call of the service on a version. -/
inductive VersionOp where
  | releaseVersion (serviceName version gitSha imageTag checksumSha256 : Text)
  | deprecateVersion (serviceName version : Text)
  | retireVersion (serviceName version : Text)

namespace VersionOp

def key : VersionOp -> Text × Text
  | .releaseVersion serviceName version _ _ _ => (serviceName, version)
  | .deprecateVersion serviceName version => (serviceName, version)
  | .retireVersion serviceName version => (serviceName, version)

/-- The status that the call asks for. -/
def expected : VersionOp -> LifecycleStatus
  | .releaseVersion _ _ _ _ _ => .draft
  | .deprecateVersion _ _ => .released
  | .retireVersion _ _ => .deprecated

/-- `parse_version(version).is_stable`, which a release asks for too. -/
def stable (digits : Text.DecimalDigits) : VersionOp -> Bool
  | .releaseVersion _ version _ _ _ => (SemVer.parse digits version).toOption.any SemVer.isStable
  | _ => true

/-- The checks on the version that the call has read. -/
def check (digits : Text.DecimalDigits) (op : VersionOp) (table : VersionTable) : Bool :=
  match table.find op.key with
  | none => false
  | some current => decide (current.status = op.expected) && op.stable digits

/-- The update of the call. -/
def write (op : VersionOp) (now : Int) (table : VersionTable) : Option VersionTable :=
  match op with
  | .releaseVersion serviceName version gitSha imageTag checksumSha256 =>
      updateVersionRelease table now (serviceName, version) gitSha imageTag checksumSha256
  | .deprecateVersion serviceName version => updateVersionStatus table now (serviceName, version) .deprecated
  | .retireVersion serviceName version => updateVersionStatus table now (serviceName, version) .retired

/-- The status of the version that a call is about. -/
def view (op : VersionOp) (table : VersionTable) : Option LifecycleStatus :=
  (table.find op.key).map VersionRow.status

end VersionOp

def versionProtocol (digits : Text.DecimalDigits) : CheckedWrite VersionOp VersionTable Int where
  check := VersionOp.check digits
  write := VersionOp.write

/-! ## Forward moves -/

/-- The transitions that the service checks. -/
inductive Forward : LifecycleStatus -> LifecycleStatus -> Prop where
  | release : Forward .draft .released
  | deprecation : Forward .released .deprecated
  | retirement : Forward .deprecated .retired

/-- A version has moved forward, and what its release stored is untouched. -/
structure VersionRow.Advanced (old new : VersionRow) : Prop where
  moves : Relation.ReflTransGen Forward old.status new.status
  artifact : old.status ≠ .draft -> new.artifact = old.artifact

theorem not_draft_of_forward {old new : LifecycleStatus} (moved : Relation.ReflTransGen Forward old new)
    (released : old ≠ .draft) : new ≠ .draft := by
  induction moved with
  | refl => exact released
  | tail _ last _ => cases last <;> exact nofun

theorem retired_of_forward {new : LifecycleStatus} (moved : Relation.ReflTransGen Forward .retired new) :
    new = .retired := by
  induction moved with
  | refl => rfl
  | tail _ last same => subst same; cases last

namespace VersionRow.Advanced

theorem refl (row : VersionRow) : row.Advanced row :=
  ⟨Relation.ReflTransGen.refl, fun _ => rfl⟩

theorem trans {old middle new : VersionRow} (first : old.Advanced middle) (second : middle.Advanced new) :
    old.Advanced new where
  moves := first.moves.trans second.moves
  artifact := fun released =>
    (second.artifact (not_draft_of_forward first.moves released)).trans (first.artifact released)

end VersionRow.Advanced

/-- Every version of a table has advanced in another. -/
def VersionTable.Advanced (before after : VersionTable) : Prop :=
  forall key row, before.find key = some row ->
    Exists fun last => after.find key = some last ∧ row.Advanced last

theorem updateVersion_find {table : VersionTable} {key : Text × Text} {change : VersionRow -> VersionRow}
    {keeps : forall row, (change row).key = row.key} {wanted : Text × Text} {row : VersionRow}
    (found : table.find wanted = some row) :
    (updateVersion table key change keeps).find wanted = some (if wanted = key then change row else row) := by
  rcases Table.mem_of_find found with ⟨-, own⟩
  rw [updateVersion, Table.find_update, found, Option.map_some, own]

/-- An update that moves one version forward advances the table. -/
theorem updateVersion_advanced {table : VersionTable} {key : Text × Text} {change : VersionRow -> VersionRow}
    (keeps : forall row, (change row).key = row.key)
    (moves : forall row, table.find key = some row -> row.Advanced (change row)) :
    VersionTable.Advanced table (updateVersion table key change keeps) := by
  intro wanted row found
  refine ⟨_, updateVersion_find found, ?_⟩
  split
  · rename_i same
    exact moves row (same ▸ found)
  · exact VersionRow.Advanced.refl row

/-- A call whose check still stands moves its version forward. -/
theorem advanced_of_performed {digits : Text.DecimalDigits} {write : CheckedWrite.Write VersionOp VersionTable}
    (performed : (versionProtocol digits).Performed VersionOp.view write) :
    VersionTable.Advanced write.before write.after := by
  rcases write with ⟨⟨op, seen⟩, before, after⟩
  rcases performed with ⟨passed, sameStatus, now, written⟩
  -- the status the call has checked is the one that its update finds
  have current : forall row, before.find op.key = some row -> row.status = op.expected := by
    intro row found
    change (before.find op.key).map VersionRow.status = (seen.find op.key).map VersionRow.status at sameStatus
    change VersionOp.check digits op seen = true at passed
    unfold VersionOp.check at passed
    rw [found] at sameStatus
    cases read : seen.find op.key with
    | none => rw [read] at sameStatus; exact absurd sameStatus nofun
    | some known =>
        rw [read] at passed sameStatus
        exact (Option.some.inj sameStatus).trans (of_decide_eq_true (Bool.and_eq_true_iff.mp passed).1)
  cases op with
  | releaseVersion serviceName version gitSha imageTag checksumSha256 =>
      change updateVersionRelease before now _ gitSha imageTag checksumSha256 = some after at written
      unfold updateVersionRelease at written
      split at written
      · exact absurd written nofun
      · split at written
        · rw [← Option.some.inj written]
          refine updateVersion_advanced (by exact fun _ => rfl) ?_
          intro row found
          have draft : row.status = .draft := current row found
          refine ⟨Relation.ReflTransGen.single ?_, fun released => absurd draft released⟩
          rw [draft]
          exact Forward.release
        · exact absurd written nofun
  | deprecateVersion serviceName version =>
      change updateVersionStatus before now _ .deprecated = some after at written
      unfold updateVersionStatus at written
      split at written
      · exact absurd written nofun
      · rw [← Option.some.inj written]
        refine updateVersion_advanced (by exact fun _ => rfl) ?_
        intro row found
        have released : row.status = .released := current row found
        refine ⟨Relation.ReflTransGen.single ?_, fun _ => rfl⟩
        rw [released]
        exact Forward.deprecation
  | retireVersion serviceName version =>
      change updateVersionStatus before now _ .retired = some after at written
      unfold updateVersionStatus at written
      split at written
      · exact absurd written nofun
      · rw [← Option.some.inj written]
        refine updateVersion_advanced (by exact fun _ => rfl) ?_
        intro row found
        have deprecated : row.status = .deprecated := current row found
        refine ⟨Relation.ReflTransGen.single ?_, fun _ => rfl⟩
        rw [deprecated]
        exact Forward.retirement

variable {Client : Type} [DecidableEq Client]

/-- The versions after the steps of a run. -/
def versionsAfter (digits : Text.DecimalDigits) (table : VersionTable)
    (actions : List (CheckedWrite.Action Client VersionOp Int)) : VersionTable :=
  (actions.foldl (versionProtocol digits).step (CheckedWrite.start table)).cell

/-- When every call updates the version in the status that it has read, versions
move forward only, a retired version stays retired, and what a release stored
does not change. -/
theorem version_lifecycle_of_fresh_writes (digits : Text.DecimalDigits) (table : VersionTable)
    (done later : List (CheckedWrite.Action Client VersionOp Int))
    (guarded : Run.Guarded (versionProtocol digits).step (CheckedWrite.Fresh VersionOp.view)
      (CheckedWrite.start table) (done ++ later))
    (key : Text × Text) (row : VersionRow) (stored : (versionsAfter digits table done).find key = some row) :
    Exists fun last => (versionsAfter digits table (done ++ later)).find key = some last ∧
      Relation.ReflTransGen Forward row.status last.status ∧
      (row.status = .retired -> last.status = .retired) ∧
      (row.status ≠ .draft -> last.artifact = row.artifact) := by
  have advanced : VersionTable.Advanced (versionsAfter digits table done)
      (versionsAfter digits table (done ++ later)) := by
    refine CheckedWrite.related_of_fresh ?_ ?_ (fun _ performed => advanced_of_performed performed) guarded
    · exact fun cell key row found => ⟨row, found, VersionRow.Advanced.refl row⟩
    · intro left middle right first second key row found
      rcases first key row found with ⟨between, kept, early⟩
      rcases second key between kept with ⟨last, known, late⟩
      exact ⟨last, known, early.trans late⟩
  rcases advanced key row stored with ⟨last, kept, moved⟩
  refine ⟨last, kept, moved.moves, ?_, moved.artifact⟩
  intro retired
  exact retired_of_forward (retired ▸ moved.moves)

/-- A draft that is ready for release. -/
def draftVersion : VersionRow where
  serviceName := "api".toList
  version := "1.0.0".toList
  updatedAt := 0

def draftTable : VersionTable where
  rows := [draftVersion]
  unique := List.nodup_singleton _

/-- The deprecation of the version. -/
def deprecation : VersionOp :=
  .deprecateVersion "api".toList "1.0.0".toList

/-- Its release from a commit. -/
def releaseOf (gitSha : Text) : VersionOp :=
  .releaseVersion "api".toList "1.0.0".toList gitSha "api:1".toList (List.replicate 64 'a')

/-- One client's call without another step in between. -/
def uninterrupted (op : VersionOp) : List (CheckedWrite.Action Bool VersionOp Int) :=
  [.read true op, .check true, .write true 1]

/-- Two calls that both read before either writes. -/
def overlapping (first second : VersionOp) : List (CheckedWrite.Action Bool VersionOp Int) :=
  [.read true first, .read false second, .check true, .check false, .write true 1, .write false 2]

theorem version_lifecycle_of_release_then_deprecation :
    Exists fun last =>
      (versionsAfter Text.asciiDigits draftTable
        (uninterrupted (releaseOf "abcdef0".toList) ++ uninterrupted deprecation)).find
          draftVersion.key = some last ∧ last.gitSha = some "abcdef0".toList := by
  obtain ⟨last, kept, -, -, artifact⟩ := version_lifecycle_of_fresh_writes Text.asciiDigits draftTable
    (uninterrupted (releaseOf "abcdef0".toList)) (uninterrupted deprecation) (by decide)
    draftVersion.key
    { draftVersion with
      status := .released
      gitSha := some "abcdef0".toList
      imageTag := some "api:1".toList
      checksumSha256 := some (List.replicate 64 'a')
      releasedAt := some 1
      updatedAt := 1 } (by decide)
  exact ⟨last, kept, (Prod.mk.inj (artifact nofun)).1⟩

/-- Two releases of one draft both take effect and the second replaces the stored
artifact; a release that was read before a deprecation takes the version back. -/
theorem overlapping_calls_break_lifecycle :
    ((versionsAfter Text.asciiDigits draftTable
        (uninterrupted (releaseOf "abcdef0".toList))).find draftVersion.key).map VersionRow.gitSha =
      some (some "abcdef0".toList) ∧
    ((versionsAfter Text.asciiDigits draftTable
        (overlapping (releaseOf "abcdef0".toList) (releaseOf "fedcba9".toList))).find draftVersion.key).map
      VersionRow.gitSha = some (some "fedcba9".toList) ∧
    ((versionsAfter Text.asciiDigits draftTable
        ([.read true (releaseOf "abcdef0".toList), .check true, .read false (releaseOf "fedcba9".toList), .check false,
          .write true 1] ++ uninterrupted deprecation)).find draftVersion.key).map
      VersionRow.status = some .deprecated ∧
    ((versionsAfter Text.asciiDigits draftTable
        ([.read true (releaseOf "abcdef0".toList), .check true, .read false (releaseOf "fedcba9".toList), .check false,
          .write true 1] ++ uninterrupted deprecation ++ [.write false 2])).find
            draftVersion.key).map VersionRow.status = some .released := by
  decide

end Versioning
end ApexQuant
