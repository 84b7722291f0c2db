import ApexQuant.Events.Envelope
import ApexQuant.Foundation.Faults
import ApexQuant.Foundation.Table

namespace ApexQuant
namespace Events

open Foundation
open Foundation.Faults

/-!
# The outbox

The outbox of `persistence.py` with its table.  Each call is one statement and its
commit; the statement locks the row that it changes, so the calls of several publishers
take effect one after the other.  A call may fail before or after that.  What the
constraints of the table read is kept of a row, and the status.
-/

/-! ## The table -/

inductive OutboxStatus where
  | pending
  | published
  | failed
  deriving DecidableEq

structure OutboxRow (Id : Type) where
  eventId : Id
  topic : Text
  eventType : Text
  eventVersion : Int
  idempotencyKey : Text
  status : OutboxStatus
  attempts : Int
  publishedAt : Option Int
  deriving DecidableEq

inductive DatabaseError where
  | zeroByte
  | integerOutOfRange
  | checkViolation
  | uniqueViolation
  | outside (message : Text)

/-- A value of `INTEGER`. -/
def isInteger (value : Int) : Bool :=
  decide (-2147483648 ≤ value ∧ value ≤ 2147483647)

namespace OutboxRow

variable {Id : Type}

/-- The texts of a row. -/
def texts (row : OutboxRow Id) : List Text :=
  [row.topic, row.eventType, row.idempotencyKey]

/-- The `CHECK` constraints. -/
def checked (row : OutboxRow Id) : Bool :=
  row.texts.all Text.notBlank && decide (0 < row.eventVersion) && decide (0 ≤ row.attempts)

/-- What the table says of a row by itself. -/
def accept (row : OutboxRow Id) : Except DatabaseError Unit :=
  if row.texts.all Text.sendable = false then .error .zeroByte
  else if (isInteger row.eventVersion && isInteger row.attempts) = false then .error .integerOutOfRange
  else if row.checked = false then .error .checkViolation
  else .ok ()

end OutboxRow

abbrev Outbox (Id : Type) := Table (@OutboxRow.eventId Id)

/-! ## `persistence.py` -/

variable {Id : Type} [DecidableEq Id]

/-- The row of `enqueue_outbox_event`. -/
def outboxRow (eventId : Id) (envelope : EventEnvelope Int) : OutboxRow Id where
  eventId := eventId
  topic := Models.topic envelope
  eventType := envelope.eventType
  eventVersion := envelope.eventVersion
  idempotencyKey := envelope.idempotencyKey
  status := .pending
  attempts := 0
  publishedAt := none

/-- The insertion does nothing for an event that is there, and is refused when another
one has its topic and idempotency key. -/
def enqueueOutboxEvent (eventId : Id) (envelope : EventEnvelope Int) (outbox : Outbox Id) :
    Except DatabaseError (Outbox Id) := do
  (outboxRow eventId envelope).accept
  match outbox.insert (outboxRow eventId envelope) with
  | none => .ok outbox
  | some after =>
      if outbox.rows.any fun row =>
          decide (row.topic = Models.topic envelope ∧ row.idempotencyKey = envelope.idempotencyKey) then
        .error .uniqueViolation
      else .ok after

def OutboxRow.markPublished (eventId : Id) (now : Int) (row : OutboxRow Id) : OutboxRow Id :=
  if row.eventId = eventId then { row with status := .published, publishedAt := some now } else row

theorem OutboxRow.eventId_markPublished (eventId : Id) (now : Int) (row : OutboxRow Id) :
    (row.markPublished eventId now).eventId = row.eventId := by
  by_cases own : row.eventId = eventId <;> simp [markPublished, own]

def markOutboxEventPublished (eventId : Id) (now : Int) (outbox : Outbox Id) : Except DatabaseError (Outbox Id) :=
  .ok (outbox.update (OutboxRow.markPublished eventId now) (OutboxRow.eventId_markPublished eventId now))

def OutboxRow.markFailed (eventId : Id) (row : OutboxRow Id) : OutboxRow Id :=
  if row.eventId = eventId then { row with status := .failed, attempts := row.attempts + 1 } else row

theorem OutboxRow.eventId_markFailed (eventId : Id) (row : OutboxRow Id) :
    (row.markFailed eventId).eventId = row.eventId := by
  by_cases own : row.eventId = eventId <;> simp [markFailed, own]

def markOutboxEventFailed (eventId : Id) (outbox : Outbox Id) : Except DatabaseError (Outbox Id) :=
  if outbox.rows.any fun row => decide (row.eventId = eventId) && !isInteger (row.attempts + 1) then
    .error .integerOutOfRange
  else .ok (outbox.update (OutboxRow.markFailed eventId) (OutboxRow.eventId_markFailed eventId))

/-! ## Runs -/

/-- A call of a publisher. -/
inductive Call (Id : Type) where
  | enqueue (eventId : Id) (envelope : EventEnvelope Int)
  | markPublished (eventId : Id) (now : Int)
  | markFailed (eventId : Id)

def Call.effect : Call Id -> Outbox Id -> Except DatabaseError (Outbox Id)
  | .enqueue eventId envelope => enqueueOutboxEvent eventId envelope
  | .markPublished eventId now => markOutboxEventPublished eventId now
  | .markFailed eventId => markOutboxEventFailed eventId

/-- The call reached the commit. -/
def applied : Fate DatabaseError -> Bool
  | .served => true
  | .fails _ applied => applied

/-- The outbox after a call; a statement that is refused leaves it alone. -/
def Outbox.step (outbox : Outbox Id) (action : Call Id × Fate DatabaseError) : Outbox Id :=
  if applied action.2 then (action.1.effect outbox).toOption.getD outbox else outbox

/-- `published_at` is set for a published event and no other. -/
def OutboxRow.Dated (row : OutboxRow Id) : Prop :=
  row.publishedAt.isSome = true <-> row.status = .published

def Consistent (outbox : Outbox Id) : Prop :=
  forall row, row ∈ outbox -> row.Dated

def Published (eventId : Id) (outbox : Outbox Id) : Prop :=
  Exists fun row => row ∈ outbox ∧ row.eventId = eventId ∧ row.status = .published

/-- No call that reaches its commit marks a published event as failed, unless its
attempts cannot be counted any further. -/
def Careful (outbox : Outbox Id) : Call Id × Fate DatabaseError -> Prop
  | (.markFailed eventId, fate) =>
      applied fate = true -> forall row, row ∈ outbox -> row.eventId = eventId -> row.status = .published ->
        isInteger (row.attempts + 1) = false
  | (.enqueue _ _, _) => True
  | (.markPublished _ _, _) => True

/-! ## What a call does -/

/-- An insertion adds a pending row, or it does nothing. -/
theorem enqueueOutboxEvent_cases {eventId : Id} {envelope : EventEnvelope Int} {outbox after : Outbox Id}
    (enqueued : enqueueOutboxEvent eventId envelope outbox = .ok after) :
    after = outbox ∨ outbox.insert (outboxRow eventId envelope) = some after := by
  rcases Run.ok_of_bind enqueued with ⟨_, _, inserted⟩
  cases fresh : outbox.insert (outboxRow eventId envelope) with
  | none =>
      simp only [fresh] at inserted
      exact Or.inl (Except.ok.inj inserted).symm
  | some added =>
      simp only [fresh] at inserted
      split at inserted
      · cases inserted
      · exact Or.inr (congrArg some (Except.ok.inj inserted))

theorem step_of_not_applied {outbox : Outbox Id} {action : Call Id × Fate DatabaseError}
    (unapplied : applied action.2 = false) : outbox.step action = outbox := by
  simp [Outbox.step, unapplied]

theorem Consistent.enqueue {outbox : Outbox Id} (consistent : Consistent outbox) (eventId : Id)
    (envelope : EventEnvelope Int) : Consistent ((enqueueOutboxEvent eventId envelope outbox).toOption.getD outbox) := by
  cases enqueued : enqueueOutboxEvent eventId envelope outbox with
  | error error => exact consistent
  | ok after =>
      rcases enqueueOutboxEvent_cases enqueued with same | inserted
      · exact same ▸ consistent
      · intro row member
        rcases (Table.mem_insert inserted).1 member with old | new
        · exact consistent row old
        · rw [new]
          exact iff_of_false (fun dated => by cases dated) fun status => by cases status

theorem Consistent.markPublished {outbox : Outbox Id} (consistent : Consistent outbox) (eventId : Id) (now : Int) :
    Consistent ((markOutboxEventPublished eventId now outbox).toOption.getD outbox) := by
  intro row member
  rcases (Table.mem_update (OutboxRow.eventId_markPublished eventId now)).1 member with ⟨old, stored, rfl⟩
  by_cases own : old.eventId = eventId
  · simp [OutboxRow.Dated, OutboxRow.markPublished, own]
  · simpa [OutboxRow.markPublished, own] using consistent old stored

/-- A call that counts an attempt changes the rows of its event. -/
theorem markOutboxEventFailed_cases (eventId : Id) (outbox : Outbox Id) :
    (Exists fun row => row ∈ outbox ∧ row.eventId = eventId ∧ isInteger (row.attempts + 1) = false ∧
        (markOutboxEventFailed eventId outbox).toOption.getD outbox = outbox) ∨
      (forall row, row ∈ outbox -> row.eventId = eventId -> isInteger (row.attempts + 1) = true) ∧
        (markOutboxEventFailed eventId outbox).toOption.getD outbox =
          outbox.update (OutboxRow.markFailed eventId) (OutboxRow.eventId_markFailed eventId) := by
  by_cases full : (outbox.rows.any fun row => decide (row.eventId = eventId) && !isInteger (row.attempts + 1)) = true
  · rcases List.any_eq_true.1 full with ⟨row, stored, last⟩
    simp only [Bool.and_eq_true, decide_eq_true_eq, Bool.not_eq_true'] at last
    refine Or.inl ⟨row, stored, last.1, last.2, ?_⟩
    rw [markOutboxEventFailed, if_pos full]
    rfl
  · refine Or.inr ⟨fun row stored own => ?_, ?_⟩
    · cases last : isInteger (row.attempts + 1) with
      | true => rfl
      | false => exact absurd (List.any_eq_true.2 ⟨row, stored, by simp [own, last]⟩) full
    · rw [markOutboxEventFailed, if_neg full]
      rfl

theorem Consistent.markFailed_iff {outbox : Outbox Id} (consistent : Consistent outbox) (eventId : Id) :
    Consistent ((markOutboxEventFailed eventId outbox).toOption.getD outbox) <->
      forall row, row ∈ outbox -> row.eventId = eventId -> row.status = .published ->
        isInteger (row.attempts + 1) = false := by
  rcases markOutboxEventFailed_cases eventId outbox with ⟨full, stored, own, last, same⟩ | ⟨counted, updated⟩
  · rw [same]
    refine iff_of_true consistent fun row stored' own' _ => ?_
    rw [Table.eq_of_key_eq stored' stored (own'.trans own.symm)]
    exact last
  · rw [updated]
    constructor
    · intro kept row stored own published
      have dated := kept (row.markFailed eventId) ((Table.mem_update _).2 ⟨row, stored, rfl⟩)
      have since := (consistent row stored).2 published
      have cleared : row.publishedAt.isSome = false := by simpa [OutboxRow.Dated, OutboxRow.markFailed, own] using dated
      rw [since] at cleared
      cases cleared
    · intro careful row member
      rcases (Table.mem_update _).1 member with ⟨old, stored, rfl⟩
      by_cases own : old.eventId = eventId
      · have unpublished : old.status ≠ .published := by
          intro published
          have last := careful old stored own published
          rw [counted old stored own] at last
          cases last
        have undated : old.publishedAt.isSome = false :=
          Bool.eq_false_iff.2 fun dated => unpublished ((consistent old stored).1 dated)
        simp [OutboxRow.Dated, OutboxRow.markFailed, own, undated]
      · simpa [OutboxRow.markFailed, own] using consistent old stored

/-- A step keeps the outbox consistent exactly when it is careful. -/
theorem Consistent.step_iff {outbox : Outbox Id} {action : Call Id × Fate DatabaseError}
    (consistent : Consistent outbox) : Consistent (outbox.step action) <-> Careful outbox action := by
  rcases action with ⟨call, fate⟩
  cases reached : applied fate with
  | false =>
      rw [step_of_not_applied reached]
      refine iff_of_true consistent ?_
      cases call with
      | enqueue eventId envelope => exact trivial
      | markPublished eventId now => exact trivial
      | markFailed eventId => exact fun effective => by rw [reached] at effective; cases effective
  | true =>
      simp only [Outbox.step, reached, if_true]
      cases call with
      | enqueue eventId envelope => exact iff_of_true (consistent.enqueue eventId envelope) trivial
      | markPublished eventId now => exact iff_of_true (consistent.markPublished eventId now) trivial
      | markFailed eventId =>
          simp only [Careful, reached, forall_const]
          exact consistent.markFailed_iff eventId

/-- A careful step leaves a published event published. -/
theorem Published.step {eventId : Id} {outbox : Outbox Id} {action : Call Id × Fate DatabaseError}
    (published : Published eventId outbox) (careful : Careful outbox action) :
    Published eventId (outbox.step action) := by
  rcases action with ⟨call, fate⟩
  rcases published with ⟨row, stored, own, status⟩
  cases reached : applied fate with
  | false =>
      rw [step_of_not_applied reached]
      exact ⟨row, stored, own, status⟩
  | true =>
      simp only [Outbox.step, reached, if_true]
      cases call with
      | enqueue other envelope =>
          simp only [Call.effect]
          cases enqueued : enqueueOutboxEvent other envelope outbox with
          | error error => exact ⟨row, stored, own, status⟩
          | ok after =>
              rcases enqueueOutboxEvent_cases enqueued with same | inserted
              · rw [same]
                exact ⟨row, stored, own, status⟩
              · exact ⟨row, (Table.mem_insert inserted).2 (Or.inl stored), own, status⟩
      | markPublished other now =>
          have changed := (Table.mem_update (OutboxRow.eventId_markPublished other now)).2 ⟨row, stored, rfl⟩
          refine ⟨row.markPublished other now, changed, ?_, ?_⟩
          · rw [OutboxRow.eventId_markPublished, own]
          · by_cases same : row.eventId = other <;> simp [OutboxRow.markPublished, same, status]
      | markFailed other =>
          simp only [Call.effect]
          rcases markOutboxEventFailed_cases other outbox with ⟨_, _, _, _, same⟩ | ⟨counted, updated⟩
          · rw [same]
            exact ⟨row, stored, own, status⟩
          · rw [updated]
            have different : row.eventId ≠ other := by
              intro same
              have last := careful reached row stored same status
              rw [counted row stored same] at last
              cases last
            refine ⟨row, (Table.mem_update _).2 ⟨row, stored, ?_⟩, own, status⟩
            simp [OutboxRow.markFailed, different]

/-! ## Runs -/

/-- The outbox after a history of calls. -/
def outboxAfter (history : List (Call Id × Fate DatabaseError)) : Outbox Id :=
  history.foldl Outbox.step Table.empty

/-- What the status promises along a history. -/
structure Monotone (history : List (Call Id × Fate DatabaseError)) : Prop where
  stays : forall earlier later, earlier <+: later -> later <+: history ->
    forall eventId, Published eventId (outboxAfter earlier) -> Published eventId (outboxAfter later)
  dated : forall earlier, earlier <+: history -> Consistent (outboxAfter earlier)

theorem Published.run {eventId : Id} {outbox : Outbox Id} {actions : List (Call Id × Fate DatabaseError)}
    (published : Published eventId outbox) (careful : Run.Guarded Outbox.step Careful outbox actions) :
    Published eventId (actions.foldl Outbox.step outbox) :=
  careful.invariant (fun _ _ published careful => published.step careful) published

/-- The status of an outbox is monotone along a history exactly when no call of it marks a
published event as failed. -/
theorem outbox_monotone_iff (history : List (Call Id × Fate DatabaseError)) :
    Monotone history <-> Run.Guarded Outbox.step Careful Table.empty history := by
  have initially : Consistent (Table.empty : Outbox Id) := fun row member => absurd member (List.not_mem_nil)
  have exactly : Run.Guarded Outbox.step Careful Table.empty history <->
      forall earlier, earlier <+: history -> Consistent (outboxAfter earlier) :=
    Run.guarded_iff_of_step (fun _ _ consistent => consistent.step_iff) initially history
  constructor
  · exact fun monotone => exactly.2 monotone.dated
  · refine fun careful => ⟨?_, exactly.1 careful⟩
    rintro earlier later ⟨between, rfl⟩ ⟨rest, rfl⟩ eventId published
    rw [Run.guarded_append, Run.guarded_append] at careful
    rw [outboxAfter, List.foldl_append]
    exact Published.run published careful.1.2

def heartbeatEnvelope : EventEnvelope Int where
  eventType := "platform.event-bus.heartbeat".toList
  eventVersion := 1
  producerService := "service-framework-core".toList
  producerPlane := "CONTROL".toList
  idempotencyKey := "heartbeat:test".toList

/-- One publisher reports success, and another one failure. -/
def contestedHistory : List (Call Nat × Fate DatabaseError) :=
  [(.enqueue 7 heartbeatEnvelope, .served), (.markPublished 7 100, .served), (.markFailed 7, .served)]

theorem contestedHistory_not_monotone : ¬(forall history : List (Call Nat × Fate DatabaseError), Monotone history) := by
  intro monotone
  have before : (outboxAfter (contestedHistory.take 2)).rows =
      [{ outboxRow 7 heartbeatEnvelope with status := .published, publishedAt := some 100 }] := by decide +kernel
  have after : (outboxAfter contestedHistory).rows =
      [{ outboxRow 7 heartbeatEnvelope with status := .failed, attempts := 1, publishedAt := some 100 }] := by
    decide +kernel
  have published : Published 7 (outboxAfter (contestedHistory.take 2)) :=
    ⟨_, before ▸ List.mem_singleton_self _, rfl, rfl⟩
  rcases (monotone contestedHistory).stays _ _ (List.take_prefix 2 _) List.prefix_rfl 7 published with
    ⟨row, stored, _, status⟩
  have listed : row ∈ (outboxAfter contestedHistory).rows := stored
  rw [after, List.mem_singleton] at listed
  rw [listed] at status
  cases status

end Events
end ApexQuant
