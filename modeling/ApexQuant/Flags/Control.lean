import ApexQuant.Flags.Lifecycle
import ApexQuant.Flags.Reconciler
import ApexQuant.Foundation.Database

namespace ApexQuant
namespace Flags

open Foundation
open Foundation.Database

/-!
# The flag control service

`create_flag`, `transition` and `update_rollout` of `FlagControlService`.  Each
checks a request and then performs three effects on three stores: the row in
Postgres, the audit record and the event on the bus.  Any effect can fail, before
or after it has been applied, and the failure leaves the function as an exception.

The repository is a parameter with its contract.  So is `json.dumps`, whose text
only the search for credential markers reads.
-/

/-- `MutationRequest`. -/
structure MutationRequest where
  flagKey : Text
  actor : Text
  reason : Text
  /-- The authority that the caller has been granted. -/
  authority : Text
  payload : Json

/-- What the service hands to `audit.record`. -/
structure AuditRecord where
  flagKey : Text
  generation : Int
  eventType : Text
  actor : Text
  reason : Text
  authority : Text
  beforeState : Option FlagRow
  afterState : FlagRow
  deriving DecidableEq

/-- `_change_envelope`. -/
structure ChangeEnvelope where
  flagKey : Text
  eventType : Text
  generation : Int
  flagClass : FlagClass
  occurredAt : Int
  deriving DecidableEq

inductive ControlError where
  | authorization (message : Text)
  | validation (message : Text)
  | invalidTransition (error : InvalidTransitionError)
  | keyError (target : FlagStatus)
  | refused (refusal : Refusal)
  deriving DecidableEq

/-- The three stores. -/
structure ControlStore where
  flags : FlagTable
  audits : List AuditRecord
  published : List (Text × ChangeEnvelope)

/-- A write of the repository: the row it returns and the table it leaves. -/
abbrev FlagWrite := FlagTable -> Except Refusal (FlagRow × FlagTable)

/-- A write of one flag: it stores the row that it returns and leaves every other
flag alone. -/
structure FlagWrite.Stores (flags : FlagTable) (row : FlagRow) (after : FlagTable) : Prop where
  stored : after.find row.flagKey = some row
  others : forall flagKey, flagKey ≠ row.flagKey -> after.find flagKey = flags.find flagKey

/-- The writes of the repository and what the service relies on. -/
structure ControlRepository where
  createFlag : (payload : Json) -> FlagWrite
  setStatus : (flagKey : Text) -> (target : FlagStatus) -> FlagWrite
  setRollout : (flagKey : Text) -> (rolloutBps : Int) -> FlagWrite
  created : forall payload flags row after, createFlag payload flags = .ok (row, after) ->
    flags.find row.flagKey = none ∧ FlagWrite.Stores flags row after
  moved : forall flagKey target flags row after, setStatus flagKey target flags = .ok (row, after) ->
    row.flagKey = flagKey ∧ row.status = target ∧ FlagWrite.Stores flags row after
  rolled : forall flagKey rolloutBps flags row after, setRollout flagKey rolloutBps flags = .ok (row, after) ->
    row.flagKey = flagKey ∧ row.rolloutBps = rolloutBps ∧ FlagWrite.Stores flags row after

abbrev ControlProgram := Program ControlError ControlStore

/-! ## Checks -/

def FLAG_WRITE_PERMISSION : Text := "flags:write".toList

def FLAG_ADMIN_AUTHORITY : Text := "flags:admin".toList

def FORBIDDEN_VALUE_MARKERS : List Text :=
  ["password".toList, "secret".toList, "token".toList, "api_key".toList, "private_key".toList, "credential".toList]

/-- `_authorize`. -/
def authorizeMutation (flagRow : Option FlagRow) (request : MutationRequest) : Except ControlError Unit :=
  let required :=
    match flagRow with
    | some row => row.requiredAuthority
    | none => FLAG_WRITE_PERMISSION
  if request.authority ≠ required ∧ request.authority ≠ FLAG_ADMIN_AUTHORITY then
    .error (.authorization
      ("mutation requires authority '".toList ++ required ++ "', got '".toList ++ request.authority ++ "'".toList))
  else .ok ()

/-- `marker in blob`. -/
def occursIn (marker blob : Text) : Bool :=
  blob.tails.any fun rest => marker.isPrefixOf rest

/-- `_reject_secrets`. -/
def rejectSecrets (lowercasing : Text.Lowercasing) (dumps : Json -> Text) (payload : Json) :
    Except ControlError Unit :=
  if FORBIDDEN_VALUE_MARKERS.any fun marker => occursIn marker (lowercasing.lower (dumps payload)) then
    .error (.validation "flags must never carry secrets or credential material".toList)
  else .ok ()

/-- The event types of `transition`, which has none for a draft. -/
def transitionEvent : FlagStatus -> Except ControlError Text
  | .active => .ok "ACTIVATED".toList
  | .disabled => .ok "DISABLED".toList
  | .retired => .ok "RETIRED".toList
  | .draft => .error (.keyError .draft)

/-- The check of the lifecycle, with its exception among those of the service. -/
def checkTransition (current target : FlagStatus) : Except ControlError Unit :=
  (assertTransition current target).mapError .invalidTransition

/-- The checks of `update_rollout`, which answer the event type. -/
def rolloutStep (before : FlagRow) (rolloutBps : Int) : Except ControlError Text :=
  if before.status ≠ .active then
    .error (.validation "rollout changes require an ACTIVE flag".toList)
  else if rolloutBps < before.rolloutBps then
    .ok "ROLLOUT_DECREASE".toList
  else if rolloutBps = before.rolloutBps then
    .error (.validation "rollout value unchanged".toList)
  else .ok "ROLLOUT_STEP".toList

/-! ## Mutations -/

/-- A check that raises. -/
def require {A : Type} (check : Except ControlError A) : ControlProgram A :=
  match check with
  | .ok answer => pure answer
  | .error error => throw (.raised error)

/-- A write of the repository as a statement. -/
def writeFlag (write : FlagWrite) : ControlProgram FlagRow :=
  statement fun store =>
    match write store.flags with
    | .ok (row, flags) => (.ok row, { store with flags := flags })
    | .error refusal => (.error (.refused refusal), store)

/-- `audit.record`. -/
def recordAudit (record : AuditRecord) : ControlProgram Unit :=
  statement fun store => (.ok (), { store with audits := store.audits ++ [record] })

/-- `bus.publish` on `flags.changed.v1`. -/
def publishChange (envelope : ChangeEnvelope) : ControlProgram Unit :=
  statement fun store =>
    (.ok (), { store with published := store.published ++ [("flags.changed.v1".toList, envelope)] })

/-- The part that the mutations share: the write, its audit record and its event. -/
def mutate (now : Int) (request : MutationRequest) (before : Option FlagRow) (write : FlagWrite)
    (event : Except ControlError Text) : ControlProgram FlagRow := do
  let row ← writeFlag write
  let eventType ← require event
  recordAudit
    { flagKey := row.flagKey
      generation := row.generation
      eventType := eventType
      actor := request.actor
      reason := request.reason
      authority := request.authority
      beforeState := before
      afterState := row }
  publishChange
    { flagKey := row.flagKey
      eventType := eventType
      generation := row.generation
      flagClass := row.flagClass
      occurredAt := now }
  return row

variable (repository : ControlRepository) (lowercasing : Text.Lowercasing) (dumps : Json -> Text)

/-- `get_flag`, with the exception for a flag that is not there. -/
def getFlag (flagKey : Text) : ControlProgram FlagRow := do
  let before ← query fun store => store.flags.find flagKey
  match before with
  | some before => return before
  | none => throw (.raised (.validation ("flag not found: ".toList ++ flagKey)))

/-- `FlagControlService.create_flag`. -/
def createFlag (now : Int) (request : MutationRequest) : ControlProgram FlagRow := do
  require (authorizeMutation none request)
  require (rejectSecrets lowercasing dumps request.payload)
  mutate now request none (repository.createFlag request.payload) (.ok "CREATED".toList)

/-- `FlagControlService.transition`. -/
def transition (now : Int) (request : MutationRequest) (target : FlagStatus) : ControlProgram FlagRow := do
  let before ← getFlag request.flagKey
  require (authorizeMutation (some before) request)
  require (checkTransition before.status target)
  mutate now request (some before) (repository.setStatus request.flagKey target) (transitionEvent target)

/-- `FlagControlService.update_rollout`. -/
def updateRollout (now : Int) (request : MutationRequest) (rolloutBps : Int) : ControlProgram FlagRow := do
  let before ← getFlag request.flagKey
  require (authorizeMutation (some before) request)
  let step ← require (rolloutStep before rolloutBps)
  mutate now request (some before) (repository.setRollout request.flagKey rolloutBps) (.ok step)

/-! ## All or nothing -/

/-- An audit record of the change of one flag between two tables. -/
structure AuditRecord.Matches (record : AuditRecord) (before after : FlagTable) : Prop where
  beforeState : before.find record.flagKey = record.beforeState
  afterState : after.find record.flagKey = some record.afterState
  generation : record.generation = record.afterState.generation
  changed : record.beforeState ≠ some record.afterState
  others : forall flagKey, flagKey ≠ record.flagKey -> after.find flagKey = before.find flagKey

/-- The call returns with one flag changed and one audit record for the change, or
raises with the flags and the audit log as they were. -/
def AllOrNothing (before : ControlStore) :
    EStateM.Result (Failure ControlError) (Connection ControlStore) FlagRow -> Prop
  | .ok row after => Exists fun record => after.store.audits = before.audits ++ [record] ∧
      record.Matches before.flags after.store.flags ∧ record.flagKey = row.flagKey ∧ record.afterState = row
  | .error _ after => after.store.flags = before.flags ∧ after.store.audits = before.audits

/-- The audit record and the event that follow a write. -/
def announce (record : AuditRecord) (envelope : ChangeEnvelope) (row : FlagRow) : ControlProgram FlagRow := do
  recordAudit record
  publishChange envelope
  return row

/-- After the write, only a call that performs both effects returns. -/
theorem announce_run (record : AuditRecord) (envelope : ChangeEnvelope) (row : FlagRow) (store : ControlStore)
    (link : Link) :
    match announce record envelope row { store := store, link := link } with
    | .ok answer after =>
        link.survives 2 = true ∧ answer = row ∧ after.store.flags = store.flags ∧
          after.store.audits = store.audits ++ [record]
    | .error _ after => link.survives 2 = false ∧ after.store.flags = store.flags := by
  unfold announce recordAudit publishChange
  rw [effect_bind_run]
  cases first : link.next with
  | none => exact ⟨(Link.of_next_eq_none first 1).2.1, by dsimp only; split <;> rfl⟩
  | some next =>
      rw [(Link.of_next_eq_some first 1).2.1]
      dsimp only
      rw [effect_bind_run]
      cases second : next.next with
      | none => exact ⟨(Link.of_next_eq_none second 0).2.1, by dsimp only; split <;> rfl⟩
      | some last =>
          rw [(Link.of_next_eq_some second 0).2.1]
          exact ⟨last.survives_zero, rfl, rfl, rfl⟩

/-- The shared part is all or nothing exactly when its write does not take effect
or nothing fails. -/
theorem mutate_allOrNothing_iff {now : Int} {request : MutationRequest} {before : Option FlagRow} {write : FlagWrite}
    {event : Except ControlError Text} (eventType : Text) (known : event = .ok eventType) {store : ControlStore}
    (link : Link)
    (writes : forall row after, write store.flags = .ok (row, after) ->
      store.flags.find row.flagKey = before ∧ before ≠ some row ∧ FlagWrite.Stores store.flags row after) :
    AllOrNothing store (mutate now request before write event { store := store, link := link }) <->
      ((write store.flags).isOk = true -> link.carries 0 = true -> link.survives 3 = true) := by
  subst known
  change AllOrNothing store ((writeFlag write >>= fun row => announce _ _ row) _) <-> _
  unfold writeFlag
  rw [statement_bind_run]
  cases written : write store.flags with
  | error refusal =>
      refine ⟨fun _ accepted => absurd accepted Bool.false_ne_true, fun _ => ?_⟩
      cases link.next with
      | none => cases link.applies <;> exact ⟨rfl, rfl⟩
      | some next => exact ⟨rfl, rfl⟩
  | ok answer =>
      rcases answer with ⟨row, flags⟩
      rcases writes row flags written with ⟨prior, changed, stores⟩
      -- the changed flag tells the two tables apart
      have differ : flags ≠ store.flags := by
        rintro rfl
        exact changed (prior.symm.trans stores.stored)
      cases first : link.next with
      | none =>
          rcases Link.of_next_eq_none first 2 with ⟨-, lost, applies⟩
          rw [lost, applies]
          cases link.applies with
          | true =>
              refine ⟨fun holds => absurd holds.1 differ, fun holds => ?_⟩
              exact absurd (holds rfl rfl) Bool.false_ne_true
          | false => exact ⟨fun _ _ carried => carried, fun _ => ⟨rfl, rfl⟩⟩
      | some next =>
          rcases Link.of_next_eq_some first 2 with ⟨-, survives, carried⟩
          rw [survives, carried]
          have announced := announce_run
            { flagKey := row.flagKey
              generation := row.generation
              eventType := eventType
              actor := request.actor
              reason := request.reason
              authority := request.authority
              beforeState := before
              afterState := row }
            { flagKey := row.flagKey
              eventType := eventType
              generation := row.generation
              flagClass := row.flagClass
              occurredAt := now }
            row { store with flags := flags } next
          dsimp only
          split at announced
          · rename_i answer after returned
            rcases announced with ⟨kept, rfl, sameFlags, recorded⟩
            rw [returned, kept]
            refine ⟨fun _ _ _ => rfl, fun _ => ⟨_, recorded, ?_, rfl, rfl⟩⟩
            rw [sameFlags]
            exact ⟨prior, stores.stored, rfl, changed, stores.others⟩
          · rename_i failure after raised
            rcases announced with ⟨lost, sameFlags⟩
            rw [raised, lost]
            refine ⟨fun holds => absurd (sameFlags.symm.trans holds.1) differ, fun holds => ?_⟩
            exact absurd (holds rfl rfl) Bool.false_ne_true

/-- A read before the mutation takes one statement and, when it fails, nothing else. -/
theorem getFlag_allOrNothing_iff {flagKey : Text} {rest : FlagRow -> ControlProgram FlagRow} {store : ControlStore}
    (link : Link) (accepts : FlagRow -> Bool)
    (continues : forall before next, store.flags.find flagKey = some before ->
      (AllOrNothing store (rest before { store := store, link := next }) <->
        (accepts before = true -> next.carries 0 = true -> next.survives 3 = true))) :
    AllOrNothing store ((getFlag flagKey >>= rest) { store := store, link := link }) <->
      ((store.flags.find flagKey).any accepts = true -> link.carries 1 = true -> link.survives 4 = true) := by
  unfold getFlag query
  rw [bind_assoc, statement_bind_run]
  cases first : link.next with
  | none =>
      rw [(Link.of_next_eq_none first 0).1]
      refine ⟨fun _ _ carried => absurd carried Bool.false_ne_true, fun _ => ?_⟩
      dsimp only
      split <;> exact ⟨rfl, rfl⟩
  | some next =>
      rw [(Link.of_next_eq_some first 0).1, (Link.of_next_eq_some first 3).2.1]
      dsimp only
      cases found : store.flags.find flagKey with
      | none => exact ⟨fun _ accepted => absurd accepted Bool.false_ne_true, fun _ => ⟨rfl, rfl⟩⟩
      | some before => exact continues before next found

/-- A request to the service. -/
inductive ControlCall where
  | createFlag (request : MutationRequest)
  | transition (request : MutationRequest) (target : FlagStatus)
  | updateRollout (request : MutationRequest) (rolloutBps : Int)

namespace ControlCall

def run (now : Int) : ControlCall -> ControlProgram FlagRow
  | .createFlag request => Flags.createFlag repository lowercasing dumps now request
  | .transition request target => Flags.transition repository now request target
  | .updateRollout request rolloutBps => Flags.updateRollout repository now request rolloutBps

/-- The reads that a call makes before its write. -/
def reads : ControlCall -> Nat
  | .createFlag _ => 0
  | .transition _ _ => 1
  | .updateRollout _ _ => 1

/-- The call passes its checks and the repository accepts its write. -/
def writes (flags : FlagTable) : ControlCall -> Bool
  | .createFlag request =>
      (authorizeMutation none request).isOk && (rejectSecrets lowercasing dumps request.payload).isOk &&
        (repository.createFlag request.payload flags).isOk
  | .transition request target =>
      (flags.find request.flagKey).any fun before =>
        (authorizeMutation (some before) request).isOk && (checkTransition before.status target).isOk &&
          (repository.setStatus request.flagKey target flags).isOk
  | .updateRollout request rolloutBps =>
      (flags.find request.flagKey).any fun before =>
        (authorizeMutation (some before) request).isOk && (rolloutStep before rolloutBps).isOk &&
          (repository.setRollout request.flagKey rolloutBps flags).isOk

/-- The write of the call does not take effect, or nothing fails in the whole call. -/
def Unbroken (flags : FlagTable) (link : Link) (call : ControlCall) : Prop :=
  call.writes repository lowercasing dumps flags = true -> link.carries call.reads = true ->
    link.survives (call.reads + 3) = true

instance (flags : FlagTable) (link : Link) (call : ControlCall) :
    Decidable (call.Unbroken repository lowercasing dumps flags link) :=
  inferInstanceAs (Decidable (_ -> _))

end ControlCall

/-- The edge that a transition has checked leaves the status it read. -/
theorem ne_of_checkTransition {current target : FlagStatus} (checked : checkTransition current target = .ok ()) :
    target ≠ current := by
  rintro rfl
  unfold checkTransition assertTransition at checked
  rw [if_neg (not_mem_transitions_self _)] at checked
  exact absurd checked nofun

theorem exists_transitionEvent {current target : FlagStatus} (checked : checkTransition current target = .ok ()) :
    Exists fun eventType => transitionEvent target = .ok eventType := by
  cases target with
  | draft => cases current <;> exact absurd checked nofun
  | active => exact ⟨_, rfl⟩
  | disabled => exact ⟨_, rfl⟩
  | retired => exact ⟨_, rfl⟩

theorem ne_of_rolloutStep {before : FlagRow} {rolloutBps : Int} {step : Text}
    (checked : rolloutStep before rolloutBps = .ok step) : rolloutBps ≠ before.rolloutBps := by
  rintro rfl
  unfold rolloutStep at checked
  split at checked
  · exact absurd checked nofun
  · rw [if_neg (lt_irrefl _), if_pos rfl] at checked
    exact absurd checked nofun

/-- A call is all or nothing exactly when its write does not take effect or nothing
fails in it. -/
theorem call_allOrNothing_iff (now : Int) (store : ControlStore) (link : Link) (call : ControlCall) :
    AllOrNothing store (call.run repository lowercasing dumps now { store := store, link := link }) <->
      call.Unbroken repository lowercasing dumps store.flags link := by
  cases call with
  | createFlag request =>
      change AllOrNothing store ((require _ >>= fun _ => require _ >>= fun _ => mutate _ _ _ _ _) _) <->
        (((authorizeMutation none request).isOk && (rejectSecrets lowercasing dumps request.payload).isOk &&
          (repository.createFlag request.payload store.flags).isOk) = true ->
            link.carries 0 = true -> link.survives 3 = true)
      cases authorizeMutation none request with
      | error error => exact ⟨fun _ accepted => absurd accepted Bool.false_ne_true, fun _ => ⟨rfl, rfl⟩⟩
      | ok =>
          cases rejectSecrets lowercasing dumps request.payload with
          | error error => exact ⟨fun _ accepted => absurd accepted Bool.false_ne_true, fun _ => ⟨rfl, rfl⟩⟩
          | ok =>
              apply mutate_allOrNothing_iff _ rfl link
              intro row after written
              rcases repository.created _ _ _ _ written with ⟨fresh, stores⟩
              exact ⟨fresh, nofun, stores⟩
  | transition request target =>
      apply getFlag_allOrNothing_iff link
      intro before next found
      change AllOrNothing store ((require _ >>= fun _ => require _ >>= fun _ => mutate _ _ _ _ _) _) <-> _
      cases authorizeMutation (some before) request with
      | error error => exact ⟨fun _ accepted => absurd accepted Bool.false_ne_true, fun _ => ⟨rfl, rfl⟩⟩
      | ok =>
          cases checked : checkTransition before.status target with
          | error error => exact ⟨fun _ accepted => absurd accepted Bool.false_ne_true, fun _ => ⟨rfl, rfl⟩⟩
          | ok =>
              rcases exists_transitionEvent checked with ⟨eventType, known⟩
              apply mutate_allOrNothing_iff eventType known next
              intro row after written
              rcases repository.moved _ _ _ _ _ written with ⟨own, moved, stores⟩
              refine ⟨own ▸ found, ?_, stores⟩
              rintro ⟨⟩
              exact ne_of_checkTransition checked moved.symm
  | updateRollout request rolloutBps =>
      apply getFlag_allOrNothing_iff link
      intro before next found
      change AllOrNothing store ((require _ >>= fun _ => require _ >>= fun _ => mutate _ _ _ _ _) _) <-> _
      cases authorizeMutation (some before) request with
      | error error => exact ⟨fun _ accepted => absurd accepted Bool.false_ne_true, fun _ => ⟨rfl, rfl⟩⟩
      | ok =>
          cases checked : rolloutStep before rolloutBps with
          | error error => exact ⟨fun _ accepted => absurd accepted Bool.false_ne_true, fun _ => ⟨rfl, rfl⟩⟩
          | ok step =>
              apply mutate_allOrNothing_iff step rfl next
              intro row after written
              rcases repository.rolled _ _ _ _ _ written with ⟨own, rolled, stores⟩
              refine ⟨own ▸ found, ?_, stores⟩
              rintro ⟨⟩
              exact ne_of_rolloutStep checked rolled.symm

/-! ## Runs of the service -/

/-- A call with the time of its event and the fate of its effects. -/
structure ControlStep where
  now : Int
  link : Link
  call : ControlCall

/-- The stores after a call, however it ends. -/
def serve (store : ControlStore) (step : ControlStep) : ControlStore :=
  finalStore (step.call.run repository lowercasing dumps step.now) { store := store, link := step.link }

/-- What a flag was and is, if that has changed. -/
def changeOf (flagKey : Text) (before after : FlagTable) : List (Option FlagRow × Option FlagRow) :=
  if after.find flagKey = before.find flagKey then [] else [(before.find flagKey, after.find flagKey)]

/-- The changes of a flag in the course of a run. -/
def changesIn (flagKey : Text) : ControlStore -> List ControlStep -> List (Option FlagRow × Option FlagRow)
  | _, [] => []
  | store, step :: steps =>
      let after := serve repository lowercasing dumps store step
      changeOf flagKey store.flags after.flags ++ changesIn flagKey after steps

/-- An audit record of a change. -/
structure AuditRecord.Records (change : Option FlagRow × Option FlagRow) (record : AuditRecord) : Prop where
  beforeState : change.1 = record.beforeState
  afterState : change.2 = some record.afterState
  generation : record.generation = record.afterState.generation

/-- The audit records that a step has added are, flag by flag, those of the changes
it made. -/
def Audited (before after : ControlStore) (changes : Text -> List (Option FlagRow × Option FlagRow)) : Prop :=
  Exists fun added => after.audits = before.audits ++ added ∧
    forall flagKey, List.Forall₂ AuditRecord.Records (changes flagKey)
      (added.filter fun record => decide (record.flagKey = flagKey))

theorem Audited.trans {before middle after : ControlStore}
    {first second : Text -> List (Option FlagRow × Option FlagRow)}
    (left : Audited before middle first) (right : Audited middle after second) :
    Audited before after fun flagKey => first flagKey ++ second flagKey := by
  rcases left with ⟨early, earlyAudits, earlyMatch⟩
  rcases right with ⟨late, lateAudits, lateMatch⟩
  refine ⟨early ++ late, by rw [lateAudits, earlyAudits, List.append_assoc], ?_⟩
  intro flagKey
  rw [List.filter_append]
  exact List.rel_append (earlyMatch flagKey) (lateMatch flagKey)

theorem serve_audited {store : ControlStore} {step : ControlStep}
    (unbroken : step.call.Unbroken repository lowercasing dumps store.flags step.link) :
    Audited store (serve repository lowercasing dumps store step) fun flagKey =>
      changeOf flagKey store.flags (serve repository lowercasing dumps store step).flags := by
  have whole := (call_allOrNothing_iff repository lowercasing dumps step.now store step.link step.call).mpr unbroken
  unfold serve finalStore
  split
  · rename_i row after returned
    rw [returned] at whole
    rcases whole with ⟨record, recorded, change, -, -⟩
    refine ⟨[record], recorded, ?_⟩
    intro flagKey
    change List.Forall₂ _ (changeOf flagKey store.flags after.store.flags) _
    by_cases same : record.flagKey = flagKey
    · subst flagKey
      have differs : ¬ after.store.flags.find record.flagKey = store.flags.find record.flagKey := by
        rw [change.afterState, change.beforeState]
        exact change.changed.symm
      rw [changeOf, if_neg differs]
      simp only [List.filter_singleton, decide_true, cond_true]
      exact List.Forall₂.cons ⟨change.beforeState, change.afterState, change.generation⟩ List.Forall₂.nil
    · rw [changeOf, if_pos (change.others flagKey (Ne.symm same))]
      simp only [List.filter_singleton, same, decide_false, cond_false]
      exact List.Forall₂.nil
  · rename_i failure after raised
    rw [raised] at whole
    refine ⟨[], whole.2.trans (List.append_nil _).symm, ?_⟩
    intro flagKey
    change List.Forall₂ _ (changeOf flagKey store.flags after.store.flags) _
    rw [changeOf, if_pos (congrArg (fun flags : FlagTable => flags.find flagKey) whole.1)]
    exact List.Forall₂.nil

theorem serve_run_audited {store : ControlStore} {steps : List ControlStep}
    (guarded : Run.Guarded (serve repository lowercasing dumps)
      (fun store step => step.call.Unbroken repository lowercasing dumps store.flags step.link) store steps) :
    Audited store (steps.foldl (serve repository lowercasing dumps) store) fun flagKey =>
      changesIn repository lowercasing dumps flagKey store steps := by
  induction steps generalizing store with
  | nil => exact ⟨[], (List.append_nil _).symm, fun _ => List.Forall₂.nil⟩
  | cons step steps inductionHypothesis =>
      exact (serve_audited repository lowercasing dumps guarded.1).trans (inductionHypothesis guarded.2)

/-- A mutation is all or nothing exactly when its write does not take effect or none
of its effects fails, and over a run of such mutations every change of a flag has
exactly one audit record. -/
theorem mutations_all_or_nothing (store : ControlStore) :
    (forall (now : Int) (link : Link) (call : ControlCall),
      AllOrNothing store (call.run repository lowercasing dumps now { store := store, link := link }) <->
        call.Unbroken repository lowercasing dumps store.flags link) ∧
    (forall steps,
      Run.Guarded (serve repository lowercasing dumps)
          (fun store step => step.call.Unbroken repository lowercasing dumps store.flags step.link) store steps ->
        Audited store (steps.foldl (serve repository lowercasing dumps) store) fun flagKey =>
          changesIn repository lowercasing dumps flagKey store steps) :=
  ⟨fun now link call => call_allOrNothing_iff repository lowercasing dumps now store link call,
    fun _ guarded => serve_run_audited repository lowercasing dumps guarded⟩

/-! ## A repository over one table -/

/-- An UPDATE of the row with a key that answers the new row. -/
def updateFlag (flagKey : Text) (change : FlagRow -> FlagRow) (keeps : forall row, (change row).flagKey = row.flagKey) :
    FlagWrite := fun flags =>
  match flags.find flagKey with
  | none => .error (.raised "flag not found".toList)
  | some row =>
      let changeOwn := fun other : FlagRow => if other.flagKey = flagKey then change other else other
      .ok (change row, flags.update changeOwn fun other => by
        dsimp only [changeOwn]
        split
        · exact keeps other
        · rfl)

theorem updateFlag_stores {flagKey : Text} {change : FlagRow -> FlagRow}
    {keeps : forall row, (change row).flagKey = row.flagKey} {flags after : FlagTable} {row : FlagRow}
    (written : updateFlag flagKey change keeps flags = .ok (row, after)) :
    row.flagKey = flagKey ∧ (Exists fun before => row = change before) ∧ FlagWrite.Stores flags row after := by
  unfold updateFlag at written
  split at written
  · exact absurd written nofun
  · rename_i before found
    rcases Prod.mk.inj (Except.ok.inj written) with ⟨rfl, rfl⟩
    rcases Table.mem_of_find found with ⟨-, own⟩
    have key : (change before).flagKey = flagKey := (keeps before).trans own
    refine ⟨key, ⟨before, rfl⟩, ?_, ?_⟩
    · rw [Table.find_update, key, found, Option.map_some, if_pos own]
    · intro other different
      rw [key] at different
      rw [Table.find_update]
      cases held : flags.find other with
      | none => rfl
      | some stored =>
          rw [Option.map_some, if_neg fun same => different ((Table.mem_of_find held).2.symm.trans same)]

/-- An INSERT of a draft with the key of the payload. -/
def insertFlag (payload : Json) : FlagWrite := fun flags =>
  match payload with
  | .object fields =>
      match fields.lookup "flag_key".toList with
      | some (.text flagKey) =>
          let row := { haltFlag with flagKey := flagKey, flagClass := .standard }
          match flags.insert row with
          | some after => .ok (row, after)
          | none => .error .uniqueViolation
      | _ => .error (.checkViolation "flags_key_format".toList)
  | _ => .error (.checkViolation "flags_key_format".toList)

def tableRepository : ControlRepository where
  createFlag := insertFlag
  setStatus := fun flagKey target =>
    updateFlag flagKey (fun row => { row with status := target, generation := row.generation + 1 }) fun _ => rfl
  setRollout := fun flagKey rolloutBps =>
    updateFlag flagKey (fun row => { row with rolloutBps := rolloutBps, generation := row.generation + 1 }) fun _ => rfl
  created := by
    intro payload flags row after written
    unfold insertFlag at written
    split at written
    · split at written
      · dsimp only at written
        split at written
        · rename_i inserted
          rcases Prod.mk.inj (Except.ok.inj written) with ⟨rfl, rfl⟩
          have fresh := Table.find_eq_none_of_insert inserted
          refine ⟨fresh, ?_, ?_⟩
          · rw [Table.find_insert inserted, fresh, if_pos rfl]
            rfl
          · intro flagKey different
            rw [Table.find_insert inserted, if_neg (Ne.symm different), Option.or_none]
        · exact absurd written nofun
      · exact absurd written nofun
    · exact absurd written nofun
  moved := by
    intro flagKey target flags row after written
    rcases updateFlag_stores written with ⟨own, ⟨before, rfl⟩, stores⟩
    exact ⟨own, rfl, stores⟩
  rolled := by
    intro flagKey rolloutBps flags row after written
    rcases updateFlag_stores written with ⟨own, ⟨before, rfl⟩, stores⟩
    exact ⟨own, rfl, stores⟩

/-- A request of an operator with the authority of the flag. -/
def operatorRequest : MutationRequest where
  flagKey := haltFlag.flagKey
  actor := "ops".toList
  reason := "canary".toList
  authority := "flags:write".toList
  payload := .object []

def draftStore : ControlStore where
  flags := singleFlag haltFlag
  audits := []
  published := []

/-- The activation of the flag over a connection. -/
def activation (link : Link) : ControlStep where
  now := 1
  link := link
  call := .transition operatorRequest .active

/-- `json.dumps` of the empty payload. -/
def dumpsEmpty (_payload : Json) : Text :=
  "{}".toList

/-- The service over one table. -/
abbrev serveTable : ControlStore -> ControlStep -> ControlStore :=
  serve tableRepository Text.asciiLowercasing dumpsEmpty

theorem activation_is_audited :
    Audited draftStore ([activation .steady].foldl serveTable draftStore) fun flagKey =>
      changesIn tableRepository Text.asciiLowercasing dumpsEmpty flagKey draftStore [activation .steady] :=
  (mutations_all_or_nothing tableRepository Text.asciiLowercasing dumpsEmpty draftStore).2 [activation .steady]
    ⟨fun _ _ => rfl, trivial⟩

/-- When the audit record fails, the activation raises and the flag is active
without a record. -/
theorem activation_without_audit :
    ¬ AllOrNothing draftStore
        ((activation (.drops 2 false)).call.run tableRepository Text.asciiLowercasing dumpsEmpty 1
          { store := draftStore, link := .drops 2 false }) ∧
    ((serveTable draftStore (activation (.drops 2 false))).flags.find haltFlag.flagKey).map FlagRow.status =
      some .active ∧
    (serveTable draftStore (activation (.drops 2 false))).audits = [] := by
  refine ⟨?_, by decide, by decide⟩
  rintro ⟨sameFlags, -⟩
  have sameStatus := congrArg (fun flags : FlagTable => (flags.find haltFlag.flagKey).map FlagRow.status) sameFlags
  exact absurd sameStatus (by decide)

end Flags
end ApexQuant
