import ApexQuant.Secrets.Store

namespace ApexQuant
namespace Secrets

open Foundation

/-!
# Writes that fail

`set_secret` and `rotate_secret` change the entry in memory and save the store after
that.  A call that its checks refuse has changed nothing yet; one whose save raises has
changed the entry, and the next save that succeeds writes the change to the file.
-/

/-! ## The store in memory and on disk -/

/-- Where `save` can raise: it serializes and encrypts the payload, makes the directory,
writes a temporary file, sets its mode and puts it in the place of the store. -/
inductive SaveStage where
  | modelDumpJson
  | encryptBytes
  | mkdir
  | writeText
  | chmod
  | replace
  deriving DecidableEq

/-- `_payload`, and the document in the file of the store. -/
structure LocalStore where
  payload : SecretStorePayload
  file : Option StoreDocument

inductive WriteError where
  | store (error : SecretStoreError)
  | save (stage : SaveStage)
  deriving DecidableEq

/-- What a save draws, and the stage at which it raises, if it does. -/
structure SaveRun where
  draws : SealDraws
  fault : Option SaveStage

namespace LocalStore

variable (packages : Packages) (masterSecret : Bytes)

/-- `save`.  Whatever raises leaves the file of the store as it was. -/
def save (run : SaveRun) (store : LocalStore) : Except WriteError Unit × LocalStore :=
  match run.fault with
  | some stage => (.error (.save stage), store)
  | none => (.ok (), { store with file := some (Store.save packages run.draws masterSecret store.payload) })

/-- A write: its checks, its change in memory, its save. -/
def commit {A : Type} (run : SaveRun) (checked : Except SecretStoreError (A × SecretStorePayload)) (store : LocalStore) :
    Except WriteError A × LocalStore :=
  match checked with
  | .error error => (.error (.store error), store)
  | .ok (answer, payload) =>
      match save packages masterSecret run { store with payload := payload } with
      | (.error error, after) => (.error error, after)
      | (.ok _, after) => (.ok answer, after)

/-- `set_secret`. -/
def setSecret (run : SaveRun) (moment : Datetime) (name value : Text) (classification : SecretClassification)
    (description : Text) (store : LocalStore) : Except WriteError (Bool × Nat) × LocalStore :=
  commit packages masterSecret run (Store.setSecret moment name value classification description store.payload) store

/-- `rotate_secret`. -/
def rotateSecret (run : SaveRun) (moment : Datetime) (name value : Text) (store : LocalStore) :
    Except WriteError Nat × LocalStore :=
  commit packages masterSecret run (Store.rotateSecret moment name value store.payload) store

end LocalStore

/-- A call of either. -/
inductive WriteCall where
  | setSecret (moment : Datetime) (name value : Text) (classification : SecretClassification) (description : Text)
  | rotateSecret (moment : Datetime) (name value : Text)

/-- A call and its save. -/
structure WriteStep where
  call : WriteCall
  run : SaveRun

/-- The error that is raised, if one is, and the store after it. -/
def outcome {A : Type} (result : Except WriteError A × LocalStore) : Option WriteError × LocalStore :=
  match result with
  | (.error error, after) => (some error, after)
  | (.ok _, after) => (none, after)

/-- The call on a store. -/
def LocalStore.write (packages : Packages) (masterSecret : Bytes) (store : LocalStore) (step : WriteStep) :
    Option WriteError × LocalStore :=
  match step.call with
  | .setSecret moment name value classification description =>
      outcome (store.setSecret packages masterSecret step.run moment name value classification description)
  | .rotateSecret moment name value => outcome (store.rotateSecret packages masterSecret step.run moment name value)

/-- The store after a call. -/
def LocalStore.step (packages : Packages) (masterSecret : Bytes) (store : LocalStore) (step : WriteStep) : LocalStore :=
  (store.write packages masterSecret step).2

/-- The checks of the call refuse its arguments. -/
def WriteCall.Refused (payload : SecretStorePayload) : WriteCall -> Prop
  | .setSecret _ name value _ _ => matchesSecretName name = false ∨ value = []
  | .rotateSecret _ name value => matchesSecretName name = false ∨ value = [] ∨ payload.get name = none

/-- A call that raises leaves the payload in memory as it was, and the next save that
succeeds writes the same as it would have before. -/
structure Atomic (packages : Packages) (masterSecret : Bytes) (store : LocalStore) (step : WriteStep) : Prop where
  memory : (store.write packages masterSecret step).1.isSome = true ->
    (store.step packages masterSecret step).payload = store.payload
  saved : (store.write packages masterSecret step).1.isSome = true -> forall draws : SealDraws,
    ((store.step packages masterSecret step).save packages masterSecret { draws := draws, fault := none }).2.file =
      (store.save packages masterSecret { draws := draws, fault := none }).2.file

/-! ## What a write leaves -/

section Writes

variable {packages : Packages} {masterSecret : Bytes}

/-- The change of the call in memory, if its checks let it through. -/
def WriteCall.change (payload : SecretStorePayload) : WriteCall -> Except SecretStoreError SecretStorePayload
  | .setSecret moment name value classification description =>
      (Store.setSecret moment name value classification description payload).map Prod.snd
  | .rotateSecret moment name value => (Store.rotateSecret moment name value payload).map Prod.snd

/-- What a call does with a change that has been checked. -/
def persist (packages : Packages) (masterSecret : Bytes) (run : SaveRun) (store : LocalStore) :
    Except SecretStoreError SecretStorePayload -> Option WriteError × LocalStore
  | .error error => (some (.store error), store)
  | .ok payload =>
      match run.fault with
      | some stage => (some (.save stage), { store with payload := payload })
      | none => (none, { payload := payload, file := some (Store.save packages run.draws masterSecret payload) })

theorem outcome_commit {A : Type} (run : SaveRun) (checked : Except SecretStoreError (A × SecretStorePayload))
    (store : LocalStore) :
    outcome (LocalStore.commit packages masterSecret run checked store) =
      persist packages masterSecret run store (checked.map Prod.snd) := by
  rcases run with ⟨draws, fault⟩
  cases checked with
  | error error => rfl
  | ok result => cases fault <;> rfl

theorem write_eq (store : LocalStore) (step : WriteStep) :
    store.write packages masterSecret step =
      persist packages masterSecret step.run store (step.call.change store.payload) := by
  rcases step with ⟨call, run⟩
  cases call with
  | setSecret => exact outcome_commit run _ store
  | rotateSecret => exact outcome_commit run _ store

/-- The checks refuse just what they are said to refuse. -/
theorem change_iff_refused {call : WriteCall} {payload : SecretStorePayload} :
    (Exists fun error => call.change payload = .error error) <-> call.Refused payload := by
  cases call with
  | setSecret moment name value classification description =>
      rw [WriteCall.change, WriteCall.Refused, Store.setSecret]
      by_cases invalid : matchesSecretName name = false
      · rw [if_pos invalid]
        exact iff_of_true ⟨_, rfl⟩ (Or.inl invalid)
      · rw [if_neg invalid]
        by_cases empty : value = []
        · rw [if_pos empty]
          exact iff_of_true ⟨_, rfl⟩ (Or.inr empty)
        · rw [if_neg empty]
          refine iff_of_false ?_ fun either => either.elim invalid empty
          rintro ⟨error, refused⟩
          cases refused
  | rotateSecret moment name value =>
      rw [WriteCall.change, WriteCall.Refused, Store.rotateSecret]
      by_cases invalid : matchesSecretName name = false
      · rw [if_pos invalid]
        exact iff_of_true ⟨_, rfl⟩ (Or.inl invalid)
      · rw [if_neg invalid]
        cases found : payload.get name with
        | none => exact iff_of_true ⟨_, rfl⟩ (Or.inr (Or.inr rfl))
        | some entry =>
            dsimp only
            by_cases empty : value = []
            · rw [if_pos empty]
              exact iff_of_true ⟨_, rfl⟩ (Or.inr (Or.inl empty))
            · rw [if_neg empty]
              refine iff_of_false ?_ fun either => ?_
              · rintro ⟨error, refused⟩
                cases refused
              · rcases either with refused | refused | refused
                · exact invalid refused
                · exact empty refused
                · cases refused

/-- A change in memory is one of the version under the name. -/
theorem ne_of_change {call : WriteCall} {payload after : SecretStorePayload} (changed : call.change payload = .ok after) :
    after ≠ payload := by
  -- The entry under the name has a higher version than before, or was not there.
  have written : Exists fun moment => Exists fun name => Exists fun value => Exists fun version =>
      Store.Wrote moment name value payload version after := by
    cases call with
    | setSecret moment name value classification description =>
        change (Store.setSecret moment name value classification description payload).map Prod.snd = _ at changed
        cases checked : Store.setSecret moment name value classification description payload with
        | error raised =>
            rw [checked] at changed
            cases changed
        | ok result =>
            rcases result with ⟨⟨created, version⟩, written⟩
            rw [checked] at changed
            cases changed
            exact ⟨moment, name, value, version, Store.wrote_of_setSecret checked⟩
    | rotateSecret moment name value =>
        change (Store.rotateSecret moment name value payload).map Prod.snd = _ at changed
        cases checked : Store.rotateSecret moment name value payload with
        | error raised =>
            rw [checked] at changed
            cases changed
        | ok result =>
            rcases result with ⟨version, written⟩
            rw [checked] at changed
            cases changed
            exact ⟨moment, name, value, version, Store.wrote_of_rotateSecret checked⟩
  rcases written with ⟨moment, name, value, version, valid, classification, description, entry, stored, _, current, _⟩
  intro same
  have newer : after.get name = some entry := by
    rw [stored, Dictionary.get_set_self]
  rw [same] at newer
  rw [newer, Option.getD_some, SecretEntry.write] at current
  exact absurd current (Nat.ne_of_lt (Nat.lt_succ_self _))

/-- A refused call leaves the store alone, and one whose save does not raise does not raise. -/
theorem write_of_harmless {store : LocalStore} {step : WriteStep}
    (harmless : step.call.Refused store.payload ∨ step.run.fault = none)
    (raises : (store.write packages masterSecret step).1.isSome = true) :
    store.step packages masterSecret step = store := by
  cases changed : step.call.change store.payload with
  | error error =>
      rw [LocalStore.step, write_eq, changed]
      rfl
  | ok payload =>
      rcases harmless with refused | served
      · rcases change_iff_refused.mpr refused with ⟨error, same⟩
        rw [changed] at same
        cases same
      · rw [write_eq, changed, persist, served] at raises
        cases raises

/-- The calls of a run that do not raise. -/
def successes (packages : Packages) (masterSecret : Bytes) : LocalStore -> List WriteStep -> List WriteStep
  | _, [] => []
  | store, step :: rest =>
      if (store.write packages masterSecret step).1.isSome then
        successes packages masterSecret (store.step packages masterSecret step) rest
      else step :: successes packages masterSecret (store.step packages masterSecret step) rest

end Writes

/-- A call leaves no trace of a failure if and only if its checks refuse it or its save
does not raise.  A run of such calls ends as the run of those that do not raise. -/
theorem writes_are_atomic_iff (packages : Packages) (masterSecret : Bytes) :
    (forall store step, Atomic packages masterSecret store step <->
      step.call.Refused store.payload ∨ step.run.fault = none) ∧
    forall store steps,
      Run.Guarded (LocalStore.step packages masterSecret)
        (fun store step => step.call.Refused store.payload ∨ step.run.fault = none) store steps ->
      steps.foldl (LocalStore.step packages masterSecret) store =
        (successes packages masterSecret store steps).foldl (LocalStore.step packages masterSecret) store := by
  constructor
  · intro store step
    constructor
    · intro atomic
      cases changed : step.call.change store.payload with
      | error error => exact Or.inl (change_iff_refused.mp ⟨error, changed⟩)
      | ok payload =>
          cases fault : step.run.fault with
          | none => exact Or.inr rfl
          | some stage =>
              have raised : store.write packages masterSecret step =
                  (some (.save stage), { store with payload := payload }) := by
                rw [write_eq, changed, persist, fault]
              have memory := atomic.memory (by rw [raised]; rfl)
              rw [LocalStore.step, raised] at memory
              exact absurd memory (ne_of_change changed)
    · intro harmless
      refine ⟨fun raises => ?_, fun raises draws => ?_⟩
      · rw [write_of_harmless harmless raises]
      · rw [write_of_harmless harmless raises]
  · intro store steps
    induction steps generalizing store with
    | nil => exact fun _ => rfl
    | cons step rest inductionHypothesis =>
        rintro ⟨harmless, guarded⟩
        rw [List.foldl_cons, successes, inductionHypothesis _ guarded]
        split
        · rename_i raises
          rw [write_of_harmless harmless raises]
        · rw [List.foldl_cons]

/-! ## A file that cannot be replaced -/

namespace AtomicityScenario

def moment : Datetime where
  microseconds := 1
  inRange := by decide

/-- One secret with one version. -/
def stored : SecretStorePayload :=
  Dictionary.set Table.empty "db/password".toList (Store.setEntry moment "old".toList .database [] none)

/-- The file cannot be replaced. -/
def unwritable : SaveRun where
  draws :=
    { salt := List.replicate 32 1, nonce := List.replicate 12 1, salt_length := by decide, nonce_length := by decide }
  fault := some .replace

/-- Packages of which the failing call uses no results. -/
def packages : Packages where
  scrypt := fun secret salt _ _ _ => secret ++ salt
  sha256 := fun octets => octets
  encrypt := fun _ _ plaintext _ => plaintext ++ List.replicate 16 0
  decrypt := fun _ _ ciphertext _ => some (ciphertext.take (ciphertext.length - 16))
  modelDumpJson := fun _ => []
  modelValidateJson := fun _ => none

/-- The store with it. -/
def store : LocalStore where
  payload := stored
  file := some (Store.save packages unwritable.draws [] stored)

/-- A new version of it. -/
def step : WriteStep where
  call := .setSecret moment "db/password".toList "new".toList .database []
  run := unwritable

/-- A version without a value. -/
def refused : WriteStep where
  call := .rotateSecret moment "db/password".toList []
  run := unwritable

end AtomicityScenario

/-- A run of refused calls ends where it began. -/
theorem refused_write_leaves_no_trace :
    [AtomicityScenario.refused].foldl (LocalStore.step AtomicityScenario.packages []) AtomicityScenario.store =
      AtomicityScenario.store :=
  (writes_are_atomic_iff AtomicityScenario.packages []).2 AtomicityScenario.store [AtomicityScenario.refused]
    ⟨Or.inl (Or.inr (Or.inl rfl)), trivial⟩

/-- The call raises, and the new version is the current one in memory. -/
theorem failed_write_stays_in_memory :
    ¬Atomic AtomicityScenario.packages [] AtomicityScenario.store AtomicityScenario.step := by
  intro atomic
  have memory := congrArg (fun payload : SecretStorePayload =>
    (payload.get "db/password".toList).map SecretEntry.currentVersion) (atomic.memory (by decide))
  revert memory
  decide

end Secrets
end ApexQuant
