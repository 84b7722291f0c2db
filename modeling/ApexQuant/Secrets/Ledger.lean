import ApexQuant.Secrets.Store

namespace ApexQuant
namespace Secrets

open Foundation

/-!
# The ledger behind the store

A ledger holds, for every name, the values written under it.  It only grows.  An
entry records a list of values when its versions are those values numbered from one,
all of them revoked but the last; a payload reflects a ledger when every entry
records what the ledger has under its name.  Each step of a process over the store
and its file is a step of the ledger, so what holds of the image of a ledger holds in
every state.
-/

/-! ## Ledgers -/

abbrev Ledger := Text -> List Text

def Ledger.empty : Ledger :=
  fun _ => []

def Ledger.write (ledger : Ledger) (name value : Text) : Ledger :=
  fun other => if other = name then ledger other ++ [value] else ledger other

/-- Everything that the one holds the other holds too, in its place. -/
def Ledger.Extends (later earlier : Ledger) : Prop :=
  forall name, earlier name <+: later name

theorem Ledger.Extends.refl (ledger : Ledger) : ledger.Extends ledger :=
  fun _ => List.prefix_refl _

theorem Ledger.Extends.trans {first second third : Ledger} (later : third.Extends second)
    (earlier : second.Extends first) : third.Extends first :=
  fun name => (earlier name).trans (later name)

theorem Ledger.write_extends (ledger : Ledger) (name value : Text) : (ledger.write name value).Extends ledger := by
  intro other
  unfold write
  split
  · exact List.prefix_append _ _
  · exact List.prefix_refl _

/-! ## Entries as images of their values -/

/-- The statuses of the versions of an entry that has been written so often. -/
def statuses : Nat -> List SecretVersionStatus
  | 0 => []
  | count + 1 => List.replicate count .revoked ++ [.active]

structure SecretEntry.Records (entry : SecretEntry) (written : List Text) : Prop where
  contents : (entry.versions.map fun version => (version.value, version.version)) = written.zipIdx 1
  current : entry.currentVersion = written.length
  statuses : entry.versions.map SecretVersion.status = statuses written.length

namespace SecretEntry.Records

variable {entry : SecretEntry} {written : List Text}

theorem length (records : entry.Records written) : entry.versions.length = written.length := by
  have same := congrArg List.length records.contents
  rwa [List.length_map, List.length_zipIdx] at same

theorem blank (classification : SecretClassification) (description : Text) :
    (SecretEntry.blank classification description).Records [] :=
  ⟨rfl, rfl, rfl⟩

theorem revoke_status (version : SecretVersion) : version.revoke.status = .revoked := by
  unfold SecretVersion.revoke
  split
  · rfl
  · rename_i inactive
    cases known : version.status with
    | active => exact absurd known inactive
    | revoked => rfl

theorem revoke_contents (version : SecretVersion) :
    (version.revoke.value, version.revoke.version) = (version.value, version.version) := by
  unfold SecretVersion.revoke
  split <;> rfl

/-- A write records one value more. -/
theorem write (records : entry.Records written) (moment : Datetime) (value : Text) :
    (entry.write moment value).Records (written ++ [value]) where
  contents := by
    simp only [SecretEntry.write, List.map_append, List.map_map, List.map_cons, List.map_nil, List.zipIdx_append,
      <- records.contents, records.current, List.zipIdx_cons, List.zipIdx_nil, Function.comp_def, revoke_contents,
      Nat.add_comm]
  current := by
    simp only [SecretEntry.write, records.current, List.length_append, List.length_singleton]
  statuses := by
    have revoked : entry.versions.map (SecretVersion.status ∘ SecretVersion.revoke) =
        List.replicate entry.versions.length .revoked :=
      List.eq_replicate_of_mem (by
        intro status member
        rcases List.mem_map.mp member with ⟨version, -, rfl⟩
        exact revoke_status version) |>.trans (by rw [List.length_map])
    simp only [SecretEntry.write, List.map_append, List.map_map, revoked, records.length, List.map_cons, List.map_nil,
      List.length_append, List.length_singleton, Secrets.statuses]

/-- The record is about the versions and the current number alone. -/
theorem of_eq {other : SecretEntry} (records : entry.Records written) (versions : other.versions = entry.versions)
    (current : other.currentVersion = entry.currentVersion) : other.Records written where
  contents := versions ▸ records.contents
  current := current.trans records.current
  statuses := versions ▸ records.statuses

end SecretEntry.Records

/-- What the store promises about an entry: its versions are numbered without gaps,
and just the last one is active and current. -/
structure SecretEntry.Intact (entry : SecretEntry) : Prop where
  numbered : entry.versions.map SecretVersion.version = List.range' 1 entry.versions.length
  oneActive : (entry.versions.countP fun version => decide (version.status = .active)) = 1
  lastActive : Exists fun last => entry.versions.getLast? = some last ∧ last.status = .active ∧
    last.version = entry.currentVersion

namespace SecretEntry.Records

variable {entry : SecretEntry} {written : List Text}

theorem numbered (records : entry.Records written) :
    entry.versions.map SecretVersion.version = List.range' 1 entry.versions.length := by
  have numbers := congrArg (List.map Prod.snd) records.contents
  rw [List.map_map, List.zipIdx_map_snd, <- records.length] at numbers
  exact numbers

/-- The last version of an entry with a value. -/
theorem exists_last {value : Text} (records : entry.Records (written ++ [value])) :
    Exists fun earlier => Exists fun last => entry.versions = earlier ++ [last] ∧ last.value = value ∧
      last.version = written.length + 1 ∧ last.status = .active ∧
        forall version, version ∈ earlier -> version.status = .revoked := by
  have contents := records.contents
  have statuses := records.statuses
  rw [List.zipIdx_append, List.map_eq_append_iff] at contents
  rcases contents with ⟨earlier, final, shape, earlierContents, finalContents⟩
  rcases List.map_eq_singleton_iff.mp finalContents with ⟨last, rfl, lastContents⟩
  rw [Prod.mk.injEq] at lastContents
  rw [shape, List.map_append, List.map_singleton, List.length_append, List.length_singleton, Secrets.statuses] at statuses
  have sameLength : (earlier.map SecretVersion.status).length =
      (List.replicate written.length SecretVersionStatus.revoked).length := by
    have lengths := congrArg List.length earlierContents
    rw [List.length_map, List.length_zipIdx] at lengths
    rw [List.length_map, List.length_replicate, lengths]
  rcases List.append_inj statuses sameLength with ⟨revoked, active⟩
  refine ⟨earlier, last, shape, lastContents.1, ?_, List.head_eq_of_cons_eq active, ?_⟩
  · rw [lastContents.2, Nat.add_comm]
  · intro version member
    have listed := List.mem_map_of_mem (f := SecretVersion.status) member
    rw [revoked] at listed
    exact List.eq_of_mem_replicate listed

theorem intact (records : entry.Records written) (nonempty : written ≠ []) : entry.Intact := by
  rcases List.eq_nil_or_concat' written with empty | ⟨initial, value, rfl⟩
  · exact absurd empty nonempty
  · rcases records.exists_last with ⟨earlier, last, shape, -, number, active, revoked⟩
    refine ⟨records.numbered, ?_, last, ?_, active, ?_⟩
    · have none : (earlier.countP fun version => decide (version.status = .active)) = 0 := by
        rw [List.countP_eq_zero]
        intro version member
        rw [revoked version member]
        decide
      rw [shape, List.countP_append, none, List.countP_singleton, active]
      rfl
    · rw [shape, List.getLast?_concat]
    · rw [number, records.current, List.length_append, List.length_singleton]

/-- The version that `get_secret` looks for is the last. -/
theorem find_current {value : Text} (records : entry.Records (written ++ [value])) :
    Exists fun version => (entry.versions.find? fun version =>
        decide (version.version = entry.currentVersion) && decide (version.status = .active)) = some version ∧
      version.value = value := by
  rcases records.exists_last with ⟨earlier, last, shape, same, number, active, revoked⟩
  refine ⟨last, ?_, same⟩
  have skipped : (earlier.find? fun version =>
      decide (version.version = entry.currentVersion) && decide (version.status = .active)) = none := by
    rw [List.find?_eq_none]
    intro version member
    rw [revoked version member]
    simp
  have current : last.version = entry.currentVersion := by
    rw [number, records.current, List.length_append, List.length_singleton]
  rw [shape, List.find?_append, skipped, Option.none_or, List.find?_singleton, decide_eq_true current,
    decide_eq_true active]
  rfl

end SecretEntry.Records
/-! ## Payloads as images of ledgers -/

/-- Every entry records what the ledger has under its name, and the names are names. -/
structure Reflects (ledger : Ledger) (payload : SecretStorePayload) : Prop where
  entries : forall name entry, payload.get name = some entry -> entry.Records (ledger name) ∧ ledger name ≠ []
  absent : forall name, payload.get name = none -> ledger name = []
  named : forall name, ledger name ≠ [] -> matchesSecretName name = true

namespace Reflects

variable {ledger : Ledger} {payload : SecretStorePayload}

theorem empty : Reflects Ledger.empty Table.empty where
  entries := fun _ _ held => absurd held nofun
  absent := fun _ _ => rfl
  named := fun _ written => absurd rfl written

/-- An entry that records one value more takes the place of the one before it. -/
theorem write (reflects : Reflects ledger payload) {name value : Text} (valid : matchesSecretName name = true)
    {entry : SecretEntry} (records : entry.Records (ledger name ++ [value])) :
    Reflects (ledger.write name value) (payload.set name entry) where
  entries := by
    intro other stored held
    rw [Dictionary.get_set] at held
    unfold Ledger.write
    split at held
    · rename_i same
      subst same
      rw [if_pos rfl, <- Option.some.inj held]
      exact ⟨records, List.concat_ne_nil _ _⟩
    · rename_i apart
      rw [if_neg fun same => apart same.symm]
      exact reflects.entries other stored held
  absent := by
    intro other missing
    rw [Dictionary.get_set] at missing
    unfold Ledger.write
    split at missing
    · cases missing
    · rename_i apart
      rw [if_neg fun same => apart same.symm]
      exact reflects.absent other missing
  named := by
    intro other written
    unfold Ledger.write at written
    split at written
    · rename_i same
      exact same ▸ valid
    · exact reflects.named other written

/-- What the entry under a name records, when there may be none. -/
theorem records_getD (reflects : Reflects ledger payload) (name : Text) (classification : SecretClassification)
    (description : Text) :
    ((payload.get name).getD (SecretEntry.blank classification description)).Records (ledger name) := by
  cases held : payload.get name with
  | none =>
      rw [reflects.absent name held]
      exact SecretEntry.Records.blank _ _
  | some entry => exact (reflects.entries name entry held).1

/-- A read answers the latest value. -/
theorem getSecret (reflects : Reflects ledger payload) {name value : Text}
    (latest : (ledger name).getLast? = some value) : Store.getSecret name payload = .ok value := by
  rcases List.getLast?_eq_some_iff.mp latest with ⟨initial, shape⟩
  have written : ledger name ≠ [] := shape ▸ List.concat_ne_nil _ _
  cases held : payload.get name with
  | none => exact absurd (reflects.absent name held) written
  | some entry =>
      have records := (reflects.entries name entry held).1
      rw [shape] at records
      rcases records.find_current with ⟨version, found, same⟩
      simp only [Store.getSecret, reflects.named name written, Bool.true_eq_false, if_false, held, found, same]

end Reflects

/-! ## A process -/

/-- A process with its store, and the file under it. -/
structure StoreProcess where
  file : Option StoreDocument
  store : Option SecretStorePayload

/-- Before anything has happened. -/
def StoreProcess.initial : StoreProcess where
  file := none
  store := none

inductive StoreStep where
  | create (draws : SealDraws)
  | setSecret (draws : SealDraws) (moment : Datetime) (name value : Text) (classification : SecretClassification)
      (description : Text)
  | rotateSecret (draws : SealDraws) (moment : Datetime) (name value : Text)
  | save (draws : SealDraws)
  | reload

/-- The process after a save. -/
def StoreProcess.saved (packages : Packages) (masterSecret : Bytes) (draws : SealDraws) (payload : SecretStorePayload) :
    StoreProcess where
  file := some (Store.save packages draws masterSecret payload)
  store := some payload

/-- The process after a load; one that raises leaves it as it was. -/
def StoreProcess.loaded (packages : Packages) (masterSecret : Bytes) (process : StoreProcess) : StoreProcess :=
  match Store.load packages masterSecret process.file with
  | .ok payload => { process with store := some payload }
  | .error _ => process

/-- One step.  A call that raises has changed nothing. -/
def StoreProcess.step (packages : Packages) (masterSecret : Bytes) (process : StoreProcess) : StoreStep -> StoreProcess
  | .create draws =>
      if process.file.isSome then process.loaded packages masterSecret
      else StoreProcess.saved packages masterSecret draws Table.empty
  | .setSecret draws moment name value classification description =>
      match process.store with
      | none => process
      | some payload =>
          match Store.setSecret moment name value classification description payload with
          | .error _ => process
          | .ok (_, payload) => StoreProcess.saved packages masterSecret draws payload
  | .rotateSecret draws moment name value =>
      match process.store with
      | none => process
      | some payload =>
          match Store.rotateSecret moment name value payload with
          | .error _ => process
          | .ok (_, payload) => StoreProcess.saved packages masterSecret draws payload
  | .save draws =>
      match process.store with
      | none => process
      | some payload => StoreProcess.saved packages masterSecret draws payload
  | .reload => process.loaded packages masterSecret

/-- What a step means for the ledger, which begins with the creation of the store. -/
def Ledger.step (ledger : Option Ledger) : StoreStep -> Option Ledger
  | .create _ => some (ledger.getD Ledger.empty)
  | .setSecret _ _ name value _ _ =>
      ledger.map fun ledger =>
        if matchesSecretName name = true ∧ value ≠ [] then ledger.write name value else ledger
  | .rotateSecret _ _ name value =>
      ledger.map fun ledger =>
        if matchesSecretName name = true ∧ ledger name ≠ [] ∧ value ≠ [] then ledger.write name value else ledger
  | .save _ => ledger
  | .reload => ledger

/-- The process is in step with the ledger, in memory and in the file. -/
def StoreProcess.InStep (packages : Packages) (masterSecret : Bytes) (process : StoreProcess) : Option Ledger -> Prop
  | none => process = StoreProcess.initial
  | some ledger => Exists fun payload => process.store = some payload ∧
      Store.load packages masterSecret process.file = .ok payload ∧ Reflects ledger payload

section Process

variable {packages : Packages} {masterSecret : Bytes} {process : StoreProcess}

theorem inStep_saved (lawful : packages.Lawful) (draws : SealDraws) {ledger : Ledger} {payload : SecretStorePayload}
    (reflects : Reflects ledger payload) :
    (StoreProcess.saved packages masterSecret draws payload).InStep packages masterSecret (some ledger) :=
  ⟨payload, rfl, Store.load_save lawful draws masterSecret payload, reflects⟩

theorem inStep_loaded {ledger : Option Ledger} (inStep : process.InStep packages masterSecret ledger) :
    (process.loaded packages masterSecret).InStep packages masterSecret ledger := by
  cases ledger with
  | none =>
      have initial : process = StoreProcess.initial := inStep
      rw [initial]
      rfl
  | some ledger =>
      rcases inStep with ⟨payload, held, loads, reflects⟩
      unfold StoreProcess.loaded
      rw [loads]
      exact ⟨payload, rfl, loads, reflects⟩

/-- A write of a named value is a write of the ledger; any other is refused by both. -/
theorem inStep_setSecret (lawful : packages.Lawful) {ledger : Ledger} {payload : SecretStorePayload}
    (held : process.store = some payload) (inStep : process.InStep packages masterSecret (some ledger))
    (reflects : Reflects ledger payload) (draws : SealDraws) (moment : Datetime) (name value : Text)
    (classification : SecretClassification) (description : Text) :
    (process.step packages masterSecret (.setSecret draws moment name value classification description)).InStep packages
      masterSecret (some (if matchesSecretName name = true ∧ value ≠ [] then ledger.write name value else ledger)) := by
  unfold StoreProcess.step
  simp only [held, Store.setSecret]
  by_cases valid : matchesSecretName name = true
  · by_cases empty : value = []
    · simpa only [valid, empty, Bool.true_eq_false, if_true, if_false, ne_eq, not_true, and_false] using inStep
    · have recorded := (reflects.records_getD name classification description).write moment value
      have written : (Store.setEntry moment value classification description (payload.get name)).Records
          (ledger name ++ [value]) := recorded.of_eq rfl rfl
      simp only [valid, empty, Bool.true_eq_false, if_false, ne_eq, not_false_iff, and_self, if_true]
      exact inStep_saved lawful draws (reflects.write valid written)
  · have invalid := Bool.eq_false_of_not_eq_true valid
    simpa only [invalid, Bool.false_eq_true, false_and, if_true, if_false] using inStep

theorem inStep_rotateSecret (lawful : packages.Lawful) {ledger : Ledger} {payload : SecretStorePayload}
    (held : process.store = some payload) (inStep : process.InStep packages masterSecret (some ledger))
    (reflects : Reflects ledger payload) (draws : SealDraws) (moment : Datetime) (name value : Text) :
    (process.step packages masterSecret (.rotateSecret draws moment name value)).InStep packages masterSecret
      (some (if matchesSecretName name = true ∧ ledger name ≠ [] ∧ value ≠ [] then ledger.write name value
        else ledger)) := by
  unfold StoreProcess.step
  simp only [held, Store.rotateSecret]
  by_cases valid : matchesSecretName name = true
  · cases found : payload.get name with
    | none =>
        simpa only [valid, reflects.absent name found, Bool.true_eq_false, if_false, ne_eq, not_true, false_and,
          and_false] using inStep
    | some entry =>
        rcases reflects.entries name entry found with ⟨records, written⟩
        by_cases empty : value = []
        · simpa only [valid, empty, Bool.true_eq_false, if_true, if_false, ne_eq, not_true, and_false] using inStep
        · simp only [valid, empty, written, Bool.true_eq_false, if_false, ne_eq, not_false_iff, and_self, if_true]
          exact inStep_saved lawful draws (reflects.write valid (records.write moment value))
  · have invalid := Bool.eq_false_of_not_eq_true valid
    simpa only [invalid, Bool.false_eq_true, false_and, if_true, if_false] using inStep

/-- Every step of the process is a step of the ledger. -/
theorem inStep_step (lawful : packages.Lawful) {ledger : Option Ledger}
    (inStep : process.InStep packages masterSecret ledger) (step : StoreStep) :
    (process.step packages masterSecret step).InStep packages masterSecret (Ledger.step ledger step) := by
  cases ledger with
  | none =>
      have initial : process = StoreProcess.initial := inStep
      subst initial
      cases step with
      | create draws => exact inStep_saved lawful draws Reflects.empty
      | setSecret draws moment name value classification description => rfl
      | rotateSecret draws moment name value => rfl
      | save draws => rfl
      | reload => rfl
  | some ledger =>
      rcases inStep with ⟨payload, held, loads, reflects⟩
      have inStep : process.InStep packages masterSecret (some ledger) := ⟨payload, held, loads, reflects⟩
      cases step with
      | create draws =>
          cases stored : process.file with
          | none =>
              rw [stored] at loads
              exact absurd loads nofun
          | some document =>
              unfold StoreProcess.step
              rw [stored]
              exact inStep_loaded inStep
      | setSecret draws moment name value classification description =>
          exact inStep_setSecret lawful held inStep reflects _ _ _ _ _ _
      | rotateSecret draws moment name value => exact inStep_rotateSecret lawful held inStep reflects _ _ _ _
      | save draws =>
          unfold StoreProcess.step
          rw [held]
          exact inStep_saved lawful draws reflects
      | reload => exact inStep_loaded inStep

end Process

/-- The ledger of a run. -/
def ledgerOf (steps : List StoreStep) : Option Ledger :=
  steps.foldl Ledger.step none

/-- The process after a run. -/
def processOf (packages : Packages) (masterSecret : Bytes) (steps : List StoreStep) : StoreProcess :=
  steps.foldl (StoreProcess.step packages masterSecret) StoreProcess.initial

/-- A process over the store refines the ledger. -/
theorem inStep_processOf {packages : Packages} (lawful : packages.Lawful) (masterSecret : Bytes)
    (steps : List StoreStep) :
    (processOf packages masterSecret steps).InStep packages masterSecret (ledgerOf steps) := by
  unfold processOf ledgerOf
  induction steps using List.reverseRecOn with
  | nil => rfl
  | append_singleton steps step inductionHypothesis =>
      rw [List.foldl_concat, List.foldl_concat]
      exact inStep_step lawful inductionHypothesis step

/-! ## Nothing is lost -/

/-- What the ledger holds after a step, when it has begun. -/
theorem step_extends (ledger : Ledger) (step : StoreStep) :
    Exists fun later : Ledger => Ledger.step (some ledger) step = some later ∧ later.Extends ledger := by
  cases step with
  | create draws => exact ⟨ledger, rfl, Ledger.Extends.refl ledger⟩
  | setSecret draws moment name value classification description =>
      refine ⟨_, rfl, ?_⟩
      split
      · exact Ledger.write_extends ledger name value
      · exact Ledger.Extends.refl ledger
  | rotateSecret draws moment name value =>
      refine ⟨_, rfl, ?_⟩
      dsimp only
      split
      · exact Ledger.write_extends ledger name value
      · exact Ledger.Extends.refl ledger
  | save draws => exact ⟨ledger, rfl, Ledger.Extends.refl ledger⟩
  | reload => exact ⟨ledger, rfl, Ledger.Extends.refl ledger⟩

theorem run_extends (ledger : Ledger) (steps : List StoreStep) :
    Exists fun later : Ledger => steps.foldl Ledger.step (some ledger) = some later ∧ later.Extends ledger := by
  induction steps generalizing ledger with
  | nil => exact ⟨ledger, rfl, Ledger.Extends.refl ledger⟩
  | cons step steps inductionHypothesis =>
      rcases step_extends ledger step with ⟨middle, stepped, extended⟩
      rcases inductionHypothesis middle with ⟨later, ran, further⟩
      exact ⟨later, by rw [List.foldl_cons, stepped, ran], further.trans extended⟩

/-- The values and numbers of an entry, oldest first. -/
def SecretEntry.contents (entry : SecretEntry) : List (Text × Nat) :=
  entry.versions.map fun version => (version.value, version.version)

/-- The value most recently written under a name in a run. -/
def lastWritten (steps : List StoreStep) (name : Text) : Option Text :=
  (ledgerOf steps).bind fun ledger => (ledger name).getLast?

/-- In every state every entry is intact, a read answers the value most recently
written, and whatever happens next the versions that are there stay as they are but
for their status. -/
theorem secret_store_invariant (packages : Packages) (lawful : packages.Lawful) (masterSecret : Bytes)
    (steps : List StoreStep) (payload : SecretStorePayload)
    (held : (processOf packages masterSecret steps).store = some payload) :
    (forall name entry, payload.get name = some entry -> entry.Intact) ∧
      (forall name value, lastWritten steps name = some value -> Store.getSecret name payload = .ok value) ∧
      (forall later, Exists fun payload' => (processOf packages masterSecret (steps ++ later)).store = some payload' ∧
        forall name entry, payload.get name = some entry -> Exists fun entry' =>
          payload'.get name = some entry' ∧ entry.contents <+: entry'.contents) := by
  have inStep := inStep_processOf lawful masterSecret steps
  cases ran : ledgerOf steps with
  | none =>
      rw [ran] at inStep
      have initial : processOf packages masterSecret steps = StoreProcess.initial := inStep
      rw [initial] at held
      exact absurd held nofun
  | some ledger =>
      rw [ran] at inStep
      rcases inStep with ⟨stored, same, -, reflects⟩
      rw [held] at same
      cases same
      refine ⟨?_, ?_, ?_⟩
      · intro name entry found
        rcases reflects.entries name entry found with ⟨records, written⟩
        exact records.intact written
      · intro name value latest
        rw [lastWritten, ran, Option.bind_some] at latest
        exact reflects.getSecret latest
      · intro later
        have after := inStep_processOf lawful masterSecret (steps ++ later)
        rcases run_extends ledger later with ⟨grown, ranLater, extended⟩
        have whole : ledgerOf (steps ++ later) = some grown := by
          rw [ledgerOf, List.foldl_append, <- ranLater, <- ran, ledgerOf]
        rw [whole] at after
        rcases after with ⟨payload', held', -, reflects'⟩
        refine ⟨payload', held', fun name entry found => ?_⟩
        rcases reflects.entries name entry found with ⟨records, written⟩
        cases found' : payload'.get name with
        | none =>
            have nothing := reflects'.absent name found'
            have prefixed := extended name
            rw [nothing, List.prefix_nil] at prefixed
            exact absurd prefixed written
        | some entry' =>
            refine ⟨entry', rfl, ?_⟩
            have records' := (reflects'.entries name entry' found').1
            rw [SecretEntry.contents, SecretEntry.contents, records.contents, records'.contents]
            rcases extended name with ⟨more, shape⟩
            rw [<- shape, List.zipIdx_append]
            exact List.prefix_append _ _

/-! ## A run of the store -/

namespace Scenario

instance countableChar : Countable Char :=
  Function.Injective.countable (f := Char.toNat) fun _ _ same => Char.toNat_inj.mp same

deriving instance Countable for SecretClassification, SecretVersionStatus, Datetime, SecretVersion, SecretEntry

instance countablePayload : Countable SecretStorePayload := by
  apply Function.Injective.countable (f := fun payload : SecretStorePayload => payload.rows)
  rintro ⟨rows, unique⟩ ⟨rows', unique'⟩ same
  cases same
  rfl

/-- A number for every payload. -/
noncomputable def index : SecretStorePayload -> Nat :=
  (exists_injective_nat SecretStorePayload).choose

theorem index_injective : Function.Injective index :=
  (exists_injective_nat SecretStorePayload).choose_spec

open Classical in
/-- A cipher that appends an empty tag, and a codec that numbers the payloads. -/
noncomputable def packages : Packages where
  scrypt := fun secret salt _ _ _ => secret ++ salt
  sha256 := fun octets => octets
  encrypt := fun _ _ plaintext _ => plaintext ++ List.replicate 16 0
  decrypt := fun _ _ ciphertext _ => some (ciphertext.take (ciphertext.length - 16))
  modelDumpJson := fun payload => List.replicate (index payload) 0
  modelValidateJson := fun octets =>
    if numbered : Exists fun payload => index payload = octets.length then some numbered.choose else none

theorem packages_lawful : packages.Lawful where
  decrypt_encrypt := by
    intro key nonce plaintext associated
    simp [packages]
  encrypt_length := by
    intro key nonce plaintext associated
    simp [packages]
  validate_dump := by
    intro payload
    have numbered : Exists fun other => index other = (List.replicate (index payload) (0 : UInt8)).length :=
      ⟨payload, List.length_replicate.symm⟩
    unfold packages
    dsimp only
    rw [dif_pos numbered, index_injective (numbered.choose_spec.trans List.length_replicate)]

def draws : SealDraws where
  salt := List.replicate 32 0
  nonce := List.replicate 12 0
  salt_length := rfl
  nonce_length := rfl

def moment : Datetime where
  microseconds := 0
  inRange := by decide

/-- A secret is written, rotated, and read again by another load of the file. -/
def steps : List StoreStep :=
  [.create draws,
    .setSecret draws moment "db/main".toList "first".toList .database "main database".toList,
    .rotateSecret draws moment "db/main".toList "second".toList,
    .reload]

end Scenario

/-- After the rotation and the reload the second value is read. -/
theorem rotated_secret_is_read :
    Exists fun payload => (processOf Scenario.packages [] Scenario.steps).store = some payload ∧
      Store.getSecret "db/main".toList payload = .ok "second".toList := by
  rcases inStep_processOf Scenario.packages_lawful [] Scenario.steps with ⟨payload, held, -, -⟩
  refine ⟨payload, held, ?_⟩
  exact (secret_store_invariant Scenario.packages Scenario.packages_lawful [] Scenario.steps payload held).2.1 _ _
    (by decide)

end Secrets
end ApexQuant
