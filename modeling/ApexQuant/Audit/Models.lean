import ApexQuant.Foundation.Calendar

namespace ApexQuant
namespace Audit

open Foundation
open Foundation.Text

/-!
# Audit events and their timestamps

The request model of `models.py` and the record `AuditFields` of `hashing.py`.
A `datetime` is a reading of a wall clock, in microseconds since the first
instant of year 1, with the UTC offset of its `tzinfo` when it has one.  The
range of years that Python allows is a bound on the reading, so arithmetic that
leaves it is an error and never a value.

The `data` column is any type: nothing here looks inside it.
-/

/-! ## Identifiers and timestamps -/

/-- A `uuid.UUID`. -/
structure Uuid where
  value : BitVec 128
  deriving DecidableEq, Repr

namespace Uuid

/-- The 32 hexadecimal digits. -/
def hex (id : Uuid) : Text :=
  Numeral.digits 16 32 id.value.toNat

/-- `str(uuid)`: the digits in groups of 8, 4, 4, 4 and 12. -/
def str (id : Uuid) : Text :=
  id.hex.take 8 ++ ['-'] ++ (id.hex.drop 8).take 4 ++ ['-'] ++ (id.hex.drop 12).take 4 ++ ['-'] ++
    (id.hex.drop 16).take 4 ++ ['-'] ++ id.hex.drop 20

end Uuid

/-- A UTC offset, strictly between minus and plus one day as `utcoffset` requires. -/
structure Offset where
  micros : Int
  above : -86400000000 < micros
  below : micros < 86400000000
  deriving DecidableEq

def Offset.utc : Offset where
  micros := 0
  above := by decide
  below := by decide

/-- The readings of a wall clock from `datetime.min` to `datetime.max`. -/
abbrev WallClock := Fin 315537897600000000

/-- A `datetime`. -/
structure DateTime where
  wall : WallClock
  offset : Option Offset
  deriving DecidableEq

inductive DateTimeError where
  /-- `OverflowError: date value out of range`. -/
  | overflow
  deriving DecidableEq, Repr

/-- The `datetime` with the given reading, when there is one. -/
def DateTime.ofReading (reading : Int) (offset : Option Offset) : Except DateTimeError DateTime :=
  if inside : 0 ≤ reading ∧ reading < 315537897600000000 then
    .ok { wall := ⟨reading.toNat, by omega⟩, offset := offset }
  else .error .overflow

/-- `utc_now`, at a reading of the UTC clock. -/
def utcNow (clock : WallClock) : DateTime :=
  { wall := clock, offset := some Offset.utc }

/-- `normalize_timestamp`. -/
def normalizeTimestamp (clock : WallClock) (value : Option DateTime) : Except DateTimeError DateTime :=
  match value with
  | none => .ok (utcNow clock)
  | some moment =>
      match moment.offset with
      | none => .ok { moment with offset := some Offset.utc }
      | some offset => DateTime.ofReading (moment.wall - offset.micros) (some Offset.utc)

/-! ## Requests and stored fields -/

inductive ActorType where
  | service
  | user
  | system
  deriving DecidableEq, Repr

def ActorType.value : ActorType -> Text
  | .service => "SERVICE".toList
  | .user => "USER".toList
  | .system => "SYSTEM".toList

inductive Decision where
  | allow
  | deny
  | success
  | failure
  | info
  deriving DecidableEq, Repr

def Decision.value : Decision -> Text
  | .allow => "ALLOW".toList
  | .deny => "DENY".toList
  | .success => "SUCCESS".toList
  | .failure => "FAILURE".toList
  | .info => "INFO".toList

inductive Severity where
  | debug
  | info
  | warning
  | critical
  deriving DecidableEq, Repr

def Severity.value : Severity -> Text
  | .debug => "DEBUG".toList
  | .info => "INFO".toList
  | .warning => "WARNING".toList
  | .critical => "CRITICAL".toList

/-- `AuditFields` of `hashing.py`. -/
structure AuditFields (Data : Type) where
  eventId : Uuid
  occurredAt : DateTime
  actorType : Text
  actorId : Option Text
  principalName : Option Text
  serviceName : Text
  plane : Text
  action : Text
  resourceType : Text
  resourceId : Text
  decision : Text
  reason : Text
  severity : Text
  requestId : Option Text
  correlationId : Option Text
  traceId : Option Text
  idempotencyKey : Option Text
  data : Data
  deriving DecidableEq

/-- The messages of `enforce_audit_policy`. -/
inductive PolicyError where
  | serviceNameEmpty
  | planeEmpty
  | actionEmpty
  deriving DecidableEq, Repr

def PolicyError.message : PolicyError -> String
  | .serviceNameEmpty => "service_name must not be empty"
  | .planeEmpty => "plane must not be empty"
  | .actionEmpty => "action must not be empty"

/-- `enforce_audit_policy`. -/
def enforceAuditPolicy (serviceName plane action : Text) : Except PolicyError Unit :=
  if (strip serviceName).isEmpty then .error .serviceNameEmpty
  else if (strip plane).isEmpty then .error .planeEmpty
  else if (strip action).isEmpty then .error .actionEmpty
  else .ok ()

/-- `AuditEventRequest`, after its validator has passed. -/
structure AuditEventRequest (Data : Type) where
  eventId : Option Uuid
  occurredAt : Option DateTime
  actorType : ActorType
  actorId : Option Text
  principalName : Option Text
  serviceName : Text
  plane : Text
  action : Text
  resourceType : Text
  resourceId : Text
  decision : Decision
  reason : Text
  severity : Severity
  requestId : Option Text
  correlationId : Option Text
  traceId : Option Text
  idempotencyKey : Option Text
  data : Data
  policy : enforceAuditPolicy serviceName plane action = .ok ()

/-- `to_fields`, with the identifier that `uuid4` would draw and the reading of
the clock. -/
def AuditEventRequest.toFields {Data : Type} (request : AuditEventRequest Data) (uuid4 : Uuid) (clock : WallClock) :
    Except DateTimeError (AuditFields Data) :=
  (normalizeTimestamp clock request.occurredAt).map fun occurredAt =>
    { eventId := request.eventId.getD uuid4
      occurredAt := occurredAt
      actorType := request.actorType.value
      actorId := request.actorId
      principalName := request.principalName
      serviceName := strip request.serviceName
      plane := strip request.plane
      action := strip request.action
      resourceType := strip request.resourceType
      resourceId := strip request.resourceId
      decision := request.decision.value
      reason := request.reason
      severity := request.severity.value
      requestId := request.requestId
      correlationId := request.correlationId
      traceId := request.traceId
      idempotencyKey := request.idempotencyKey
      data := request.data }

/-- `AuditEventRecord`. -/
structure AuditEventRecord (Hash : Type) where
  eventSeq : Int
  eventId : Uuid
  occurredAt : DateTime
  eventHash : Hash
  deriving DecidableEq

/-! ## What the identifier's text determines -/

namespace Uuid

theorem hex_injective : Function.Injective hex := by
  intro left right same
  have numbers : left.value.toNat = right.value.toNat := by
    apply Numeral.digits_injOn (by decide) (by decide) _ _ same
    · exact left.value.isLt
    · exact right.value.isLt
  cases left
  cases right
  exact congrArg Uuid.mk (BitVec.eq_of_toNat_eq numbers)

theorem hyphen_not_mem_hex (id : Uuid) : '-' ∉ id.hex := by
  intro member
  rcases Numeral.mem_digits (by decide) member with ⟨digit, small, same⟩
  have table : forall d, d < 16 -> '-' ≠ Nat.digitChar d := by decide
  exact table digit small same

/-- The hyphens are the only characters that `str` adds to the digits. -/
theorem filter_str (id : Uuid) : id.str.filter (fun c => c != '-') = id.hex := by
  have plain : forall part : Text, (forall c, c ∈ part -> c ∈ id.hex) -> part.filter (fun c => c != '-') = part := by
    intro part inside
    rw [List.filter_eq_self]
    intro c member
    rw [bne_iff_ne]
    intro hyphen
    exact hyphen_not_mem_hex id (hyphen ▸ inside c member)
  have taken : forall n m, ((id.hex.drop n).take m).filter (fun c => c != '-') = (id.hex.drop n).take m :=
    fun n m => plain _ fun c member => List.mem_of_mem_drop (List.mem_of_mem_take member)
  have first := taken 0 8
  have last := plain (id.hex.drop 20) fun c member => List.mem_of_mem_drop member
  have hyphen : List.filter (fun c => c != '-') ['-'] = [] := by decide
  rw [List.drop_zero] at first
  simp only [str, List.filter_append, first, taken, last, hyphen, List.append_nil]
  have step : forall n m, (id.hex.drop n).take m ++ id.hex.drop (n + m) = id.hex.drop n := by
    intro n m
    rw [← List.drop_drop]
    exact List.take_append_drop m _
  rw [List.append_assoc, List.append_assoc, List.append_assoc, step 16 4, step 12 4, step 8 4]
  exact List.take_append_drop 8 _

theorem str_injective : Function.Injective str := by
  intro left right same
  apply hex_injective
  rw [← filter_str, ← filter_str, same]

end Uuid
end Audit
end ApexQuant
