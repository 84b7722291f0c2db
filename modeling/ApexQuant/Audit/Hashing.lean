import ApexQuant.Audit.Models
import ApexQuant.Foundation.HashChain

namespace ApexQuant
namespace Audit

open Foundation

/-!
# The audit hash chain

`hashing.py`: the canonical payload of an event, its hash, and the loop that
verifies a list of stored rows.  The serializer and the hash function belong to
the standard library and are parameters; a `Digest` names them together with the
genesis hash.  The type of hashes is a parameter as well, since a claim that a
hash determines what was hashed holds of no function into texts of 64 characters.

`format_timestamp` writes the wall clock and a literal `Z`.  The offset of the
`datetime` is not written, and `asSerialized` is what is left of the fields.
-/

/-! ## The canonical payload -/

/-- `format_timestamp`, that is `strftime` with `%Y-%m-%dT%H:%M:%S.%fZ`. -/
def formatTimestamp (value : DateTime) : Text :=
  let date := Calendar.toDate (value.wall.val / 86400000000 + 1)
  let micros := value.wall.val % 86400000000
  Numeral.digits 10 4 date.year ++ ['-'] ++ Numeral.digits 10 2 date.month ++ ['-'] ++
    Numeral.digits 10 2 date.day ++ ['T'] ++ Numeral.digits 10 2 (micros / 3600000000) ++ [':'] ++
    Numeral.digits 10 2 (micros / 60000000 % 60) ++ [':'] ++ Numeral.digits 10 2 (micros / 1000000 % 60) ++ ['.'] ++
    Numeral.digits 10 6 (micros % 1000000) ++ ['Z']

def AUDIT_SCHEMA_VERSION : Nat := 1

/-- The dictionary that `canonical_payload` builds. -/
structure CanonicalPayload (Data Hash : Type) where
  auditSchemaVersion : Nat
  eventId : Text
  occurredAt : Text
  actorType : Text
  actorId : Option Text
  principalName : Option Text
  serviceName : Text
  plane : Text
  action : Text
  resourceType : Text
  resourceId : Text
  decision : Text
  reason : Text
  severity : Text
  requestId : Option Text
  correlationId : Option Text
  traceId : Option Text
  idempotencyKey : Option Text
  data : Data
  prevHash : Hash
  deriving DecidableEq

/-- `canonical_payload`. -/
def canonicalPayload {Data Hash : Type} (fields : AuditFields Data) (prevHash : Hash) : CanonicalPayload Data Hash where
  auditSchemaVersion := AUDIT_SCHEMA_VERSION
  eventId := fields.eventId.str
  occurredAt := formatTimestamp fields.occurredAt
  actorType := fields.actorType
  actorId := fields.actorId
  principalName := fields.principalName
  serviceName := fields.serviceName
  plane := fields.plane
  action := fields.action
  resourceType := fields.resourceType
  resourceId := fields.resourceId
  decision := fields.decision
  reason := fields.reason
  severity := fields.severity
  requestId := fields.requestId
  correlationId := fields.correlationId
  traceId := fields.traceId
  idempotencyKey := fields.idempotencyKey
  data := fields.data
  prevHash := prevHash

/-- The serializer, the hash function and `GENESIS_HASH`. -/
structure Digest (Data Serialized Hash : Type) where
  dumps : CanonicalPayload Data Hash -> Serialized
  sha256 : Serialized -> Hash
  genesisHash : Hash

variable {Data Serialized Hash : Type}

/-- `compute_event_hash`. -/
def computeEventHash (digest : Digest Data Serialized Hash) (fields : AuditFields Data) (prevHash : Hash) : Hash :=
  digest.sha256 (digest.dumps (canonicalPayload fields prevHash))

/-! ## Verification -/

/-- A row of `audit.events`. -/
structure EventRow (Data Hash : Type) extends AuditFields Data where
  eventSeq : Int
  prevHash : Hash
  eventHash : Hash
  deriving DecidableEq

/-- `fields_from_row`. -/
def fieldsFromRow (row : EventRow Data Hash) : AuditFields Data :=
  row.toAuditFields

inductive ViolationType where
  | sequenceGap
  | prevHashMismatch
  | eventHashMismatch
  deriving DecidableEq, Repr

/-- An entry of the report's `violations`. -/
structure Violation where
  eventSeq : Int
  type : ViolationType
  detail : String
  deriving DecidableEq, Repr

/-- The dictionary that `verify_chain` returns. -/
structure VerificationReport where
  ok : Bool
  eventsChecked : Nat
  violations : List Violation
  deriving DecidableEq, Repr

/-- The local variables of the loop in `verify_chain`. -/
structure ChainScan (Hash : Type) where
  violations : List Violation
  prevHash : Hash
  expectedSeq : Option Int

section Verification

variable [DecidableEq Hash] (digest : Digest Data Serialized Hash)

/-- The body of the loop.  A zero is falsy, so the next expected number is then
taken from the row. -/
def verifyStep (scan : ChainScan Hash) (row : EventRow Data Hash) : ChainScan Hash :=
  let expected := scan.expectedSeq.getD row.eventSeq
  let found := row.eventSeq
  let gap : List Violation :=
    if found ≠ expected then
      [{ eventSeq := found, type := .sequenceGap, detail := s!"expected {expected}, found {found}" }]
    else []
  let broken : List Violation :=
    if row.prevHash ≠ scan.prevHash then
      [{ eventSeq := found, type := .prevHashMismatch,
         detail := "previous hash does not match expected chain value" }]
    else []
  let altered : List Violation :=
    if row.eventHash ≠ computeEventHash digest (fieldsFromRow row) scan.prevHash then
      [{ eventSeq := found, type := .eventHashMismatch,
         detail := "event hash does not match canonical recomputation" }]
    else []
  { violations := scan.violations ++ gap ++ broken ++ altered
    prevHash := row.eventHash
    expectedSeq := some ((if expected = 0 then row.eventSeq else expected) + 1) }

/-- `verify_chain`. -/
def verifyChain (rows : List (EventRow Data Hash)) (initialPrevHash : Hash) : VerificationReport :=
  let scan := rows.foldl (verifyStep digest) { violations := [], prevHash := initialPrevHash, expectedSeq := none }
  { ok := decide (scan.violations.length = 0)
    eventsChecked := rows.length
    violations := scan.violations }

end Verification

/-! ## What the payload determines -/

/-- Every field as the payload writes it: without the offset of the timestamp. -/
def AuditFields.asSerialized (fields : AuditFields Data) : AuditFields Data :=
  { fields with occurredAt := { fields.occurredAt with offset := none } }

/-- A field of fixed width and the mark after it can be read off a text. -/
theorem digits_mark_inj {width n m : Nat} {mark : Char} {rest rest' : Text} (fits : n < 10 ^ width)
    (fits' : m < 10 ^ width)
    (same : Numeral.digits 10 width n ++ mark :: rest = Numeral.digits 10 width m ++ mark :: rest') :
    n = m ∧ rest = rest' := by
  rcases List.append_inj same (by rw [Numeral.length_digits, Numeral.length_digits]) with ⟨field, tail⟩
  exact ⟨Numeral.digits_injOn (by decide) (by decide) fits fits' field, (List.cons.inj tail).2⟩

/-- The text of a timestamp determines the reading of the clock. -/
theorem wall_eq_of_formatTimestamp_eq {left right : DateTime} (same : formatTimestamp left = formatTimestamp right) :
    left.wall = right.wall := by
  have latest : left.wall.val / 86400000000 + 1 ≤ 3652059 := by omega
  have latest' : right.wall.val / 86400000000 + 1 ≤ 3652059 := by omega
  have bounds := Calendar.toDate_bounds latest
  have bounds' := Calendar.toDate_bounds latest'
  simp only [formatTimestamp, List.append_assoc, List.singleton_append] at same
  rcases digits_mark_inj bounds.1 bounds'.1 same with ⟨year, same⟩
  rcases digits_mark_inj bounds.2.1 bounds'.2.1 same with ⟨month, same⟩
  rcases digits_mark_inj bounds.2.2 bounds'.2.2 same with ⟨day, same⟩
  rcases digits_mark_inj (by omega) (by omega) same with ⟨hour, same⟩
  rcases digits_mark_inj (by omega) (by omega) same with ⟨minute, same⟩
  rcases digits_mark_inj (by omega) (by omega) same with ⟨second, same⟩
  rcases digits_mark_inj (by omega) (by omega) same with ⟨micro, -⟩
  have date : Calendar.toDate (left.wall.val / 86400000000 + 1) = Calendar.toDate (right.wall.val / 86400000000 + 1) :=
    Calendar.Date.ext year month day
  have ordinal := Calendar.toDate_injective (Nat.succ_pos _) (Nat.succ_pos _) date
  apply Fin.ext
  omega

/-- The canonical payload determines the serialized fields and the previous hash. -/
theorem canonicalPayload_eq_iff (left right : AuditFields Data) (before before' : Hash) :
    canonicalPayload left before = canonicalPayload right before' <->
      left.asSerialized = right.asSerialized ∧ before = before' := by
  constructor
  · intro same
    have hash : before = before' := congrArg CanonicalPayload.prevHash same
    simp only [canonicalPayload, CanonicalPayload.mk.injEq] at same
    have id := Uuid.str_injective same.2.1
    have wall := wall_eq_of_formatTimestamp_eq same.2.2.1
    refine ⟨?_, hash⟩
    simp only [AuditFields.asSerialized, id, wall, same]
  · rintro ⟨fields, hash⟩
    have forgets : forall f : AuditFields Data, canonicalPayload f before = canonicalPayload f.asSerialized before :=
      fun _ => rfl
    rw [forgets left, fields, ← forgets right, hash]

/-! ## Rows as a chain -/

section Chain

variable (digest : Digest Data Serialized Hash)

/-- The rows of the audit table as a hash-chained log. -/
def chainScheme : Scheme (EventRow Data Hash) (AuditFields Data) Hash where
  content := fieldsFromRow
  prev := EventRow.prevHash
  hash := EventRow.eventHash
  digest := computeEventHash digest

/-- Serializing and hashing lose nothing of a canonical payload. -/
def Digest.CollisionFree (digest : Digest Data Serialized Hash) : Prop :=
  Function.Injective fun payload => digest.sha256 (digest.dumps payload)

theorem Digest.CollisionFree.determines {digest : Digest Data Serialized Hash} (ideal : digest.CollisionFree)
    (left right : AuditFields Data) (before before' : Hash)
    (same : computeEventHash digest left before = computeEventHash digest right before') :
    left.asSerialized = right.asSerialized ∧ before = before' :=
  (canonicalPayload_eq_iff left right before before').mp (ideal same)

/-- The hash that the row at a position has to name: the initial one, then the
hash of the row before. -/
def predecessorHash (initialPrevHash : Hash) (rows : List (EventRow Data Hash)) : Nat -> Hash
  | 0 => initialPrevHash
  | i + 1 => (rows[i]?.map EventRow.eventHash).getD initialPrevHash

theorem predecessor_eq (initialPrevHash : Hash) (rows : List (EventRow Data Hash)) (i : Nat) :
    (chainScheme digest).predecessor initialPrevHash rows i = predecessorHash initialPrevHash rows i := by
  cases i <;> rfl

/-- The chain condition, row by row in the words of the table. -/
theorem sealed_iff_rows (initialPrevHash : Hash) (rows : List (EventRow Data Hash)) :
    (chainScheme digest).Sealed initialPrevHash rows <->
      (forall row, rows[0]? = some row -> row.prevHash = initialPrevHash) ∧
      (forall (i : Nat) row next, rows[i]? = some row -> rows[i + 1]? = some next -> next.prevHash = row.eventHash) ∧
      (forall (i : Nat) row, rows[i]? = some row ->
        row.eventHash = computeEventHash digest (fieldsFromRow row) (predecessorHash initialPrevHash rows i)) := by
  rw [Scheme.sealed_iff_forall]
  simp only [predecessor_eq]
  constructor
  · intro each
    refine ⟨fun row found => (each 0 row found).1, ?_, fun i row found => (each i row found).2⟩
    intro i row next found following
    have named := (each (i + 1) next following).1
    rw [predecessorHash, found] at named
    exact named
  · rintro ⟨first, joined, hashed⟩ i row found
    refine ⟨?_, hashed i row found⟩
    cases i with
    | zero => exact first row found
    | succ j =>
        have inside := (List.getElem?_eq_some_iff.mp found).1
        have before : rows[j]? = some rows[j] := List.getElem?_eq_getElem (by omega)
        rw [predecessorHash, before]
        exact joined j _ row before found

/-- Numbers that count up, row by row in the words of the table. -/
theorem consecutive_iff_rows (rows : List (EventRow Data Hash)) :
    Consecutive (rows.map EventRow.eventSeq) <->
      forall first, rows[0]? = some first -> forall (i : Nat) row, rows[i]? = some row ->
        row.eventSeq = first.eventSeq + i := by
  rw [Consecutive.iff_forall]
  simp only [List.getElem?_map, Option.map_eq_some_iff]
  constructor
  · intro counted first start i row found
    exact counted first.eventSeq ⟨first, start, rfl⟩ i row.eventSeq ⟨row, found, rfl⟩
  · rintro counted _ ⟨first, start, rfl⟩ i _ ⟨row, found, rfl⟩
    exact counted first start i row found

end Chain

/-! ## An ideal digest -/

/-- A payload together with everything hashed before it.  As a hash it is ideal:
it forgets nothing. -/
abbrev History := List (CanonicalPayload Text Unit)

/-- The digest that keeps the whole history. -/
def historyDigest : Digest Text (CanonicalPayload Text History) History where
  dumps := id
  sha256 := fun payload => { payload with prevHash := () } :: payload.prevHash
  genesisHash := []

theorem historyDigest_collisionFree : historyDigest.CollisionFree := by
  intro left right same
  cases left
  cases right
  simp only [historyDigest, id, List.cons.injEq, CanonicalPayload.mk.injEq] at same
  simp only [same]

/-- The fields of the unit tests, with the timestamp 2026-01-01 in UTC. -/
def sampleFields (id : Nat) (action : Text) : AuditFields Text where
  eventId := { value := BitVec.ofNat 128 id }
  occurredAt := { wall := 63902822400000000, offset := some Offset.utc }
  actorType := ActorType.service.value
  actorId := some "audit-core".toList
  principalName := none
  serviceName := "audit-core".toList
  plane := "OBSERVABILITY".toList
  action := action
  resourceType := "audit_event".toList
  resourceId := "test".toList
  decision := Decision.info.value
  reason := "test".toList
  severity := Severity.info.value
  requestId := none
  correlationId := none
  traceId := none
  idempotencyKey := none
  data := []

/-- The request behind these fields, with an identifier and a request identifier
of the client's choice. -/
def sampleRequest (id : Nat) (requestId : Option Text) : AuditEventRequest Text where
  eventId := some { value := BitVec.ofNat 128 id }
  occurredAt := some { wall := 63902822400000000, offset := some Offset.utc }
  actorType := .service
  actorId := some "audit-core".toList
  principalName := none
  serviceName := "audit-core".toList
  plane := "OBSERVABILITY".toList
  action := "test.action".toList
  resourceType := "audit_event".toList
  resourceId := "test".toList
  decision := .info
  reason := "test".toList
  severity := .info
  requestId := requestId
  correlationId := none
  traceId := none
  idempotencyKey := none
  data := []
  policy := by decide

/-- What the clock of the sample runs shows. -/
def sampleClock : WallClock := 0

example : formatTimestamp (sampleFields 1 []).occurredAt = "2026-01-01T00:00:00.000000Z".toList := by decide

/-! ## The loop -/

section Loop

variable [DecidableEq Hash] (digest : Digest Data Serialized Hash)

/-- One row adds no violation exactly when it has the expected number and
continues the chain; the scan then expects the number after it. -/
theorem verifyStep_clean_iff (scan : ChainScan Hash) (row : EventRow Data Hash) :
    (verifyStep digest scan row).violations = [] <->
      scan.violations = [] ∧ row.eventSeq = scan.expectedSeq.getD row.eventSeq ∧
        (chainScheme digest).Continues scan.prevHash row := by
  simp only [verifyStep, Scheme.Continues, chainScheme, List.append_eq_nil_iff, ite_eq_right_iff,
    List.cons_ne_nil, imp_false, not_not, and_assoc]

theorem verifyStep_expectedSeq (scan : ChainScan Hash) (row : EventRow Data Hash)
    (numbered : row.eventSeq = scan.expectedSeq.getD row.eventSeq) :
    (verifyStep digest scan row).expectedSeq = some (row.eventSeq + 1) := by
  simp only [verifyStep, ← numbered, ite_self]

/-- The numbers count up, from the expected one when there is one. -/
def CountsFrom (expected : Option Int) (numbers : List Int) : Prop :=
  (forall e, expected = some e -> forall first, numbers.head? = some first -> first = e) ∧ Consecutive numbers

theorem countsFrom_cons (expected : Option Int) (number : Int) (numbers : List Int) :
    CountsFrom expected (number :: numbers) <->
      number = expected.getD number ∧ CountsFrom (some (number + 1)) numbers := by
  have start : (forall e, expected = some e -> forall first, (number :: numbers).head? = some first -> first = e) <->
      number = expected.getD number := by
    cases expected with
    | none => simp
    | some e => simp
  rw [CountsFrom, start, CountsFrom, Consecutive, List.isChain_cons]
  simp [Consecutive]

/-- The invariant of the loop: no violation has been found exactly when none had
been found before, and the rows read since then count up and chain on. -/
theorem foldl_verifyStep_clean_iff (scan : ChainScan Hash) (rows : List (EventRow Data Hash)) :
    (rows.foldl (verifyStep digest) scan).violations = [] <->
      scan.violations = [] ∧ CountsFrom scan.expectedSeq (rows.map EventRow.eventSeq) ∧
        (chainScheme digest).Sealed scan.prevHash rows := by
  induction rows generalizing scan with
  | nil =>
      refine ⟨fun clean => ⟨clean, ⟨?_, List.isChain_nil⟩, trivial⟩, fun clean => clean.1⟩
      intro e expected first absent
      exact absurd absent (by simp)
  | cons row rows inductionHypothesis =>
      rw [List.foldl_cons, inductionHypothesis, verifyStep_clean_iff, List.map_cons, countsFrom_cons, Scheme.Sealed]
      constructor
      · rintro ⟨⟨clean, numbered, continues⟩, counts, chained⟩
        rw [verifyStep_expectedSeq digest scan row numbered] at counts
        exact ⟨clean, ⟨numbered, counts⟩, continues, chained⟩
      · rintro ⟨clean, ⟨numbered, counts⟩, continues, chained⟩
        rw [verifyStep_expectedSeq digest scan row numbered]
        exact ⟨⟨clean, numbered, continues⟩, counts, chained⟩

/-- `verify_chain` accepts exactly the chains with consecutive numbers. -/
theorem verifyChain_ok_iff (rows : List (EventRow Data Hash)) (initialPrevHash : Hash) :
    (verifyChain digest rows initialPrevHash).ok = true <->
      Consecutive (rows.map EventRow.eventSeq) ∧ (chainScheme digest).Sealed initialPrevHash rows := by
  rw [verifyChain]
  simp only [decide_eq_true_eq, List.length_eq_zero_iff, foldl_verifyStep_clean_iff]
  simp [CountsFrom]

/-! ## Tamper evidence -/

/-- Verification accepts exactly the lists with consecutive numbers in which
every row names its predecessor's hash and carries the hash of its own fields
and of that hash.  Two accepted lists of one length that end in the same hash
agree, row by row, on everything that is serialized. -/
theorem verifyChain_tamper_evidence (ideal : digest.CollisionFree) :
    (forall rows initialPrevHash, (verifyChain digest rows initialPrevHash).ok = true <->
      (forall first, rows[0]? = some first -> forall (i : Nat) row, rows[i]? = some row ->
        row.eventSeq = first.eventSeq + i) ∧
      (forall row, rows[0]? = some row -> row.prevHash = initialPrevHash) ∧
      (forall (i : Nat) row next, rows[i]? = some row -> rows[i + 1]? = some next -> next.prevHash = row.eventHash) ∧
      (forall (i : Nat) row, rows[i]? = some row ->
        row.eventHash = computeEventHash digest (fieldsFromRow row) (predecessorHash initialPrevHash rows i))) ∧
    (forall left right initialPrevHash, left.length = right.length ->
      (verifyChain digest left initialPrevHash).ok = true -> (verifyChain digest right initialPrevHash).ok = true ->
      left.getLast?.map EventRow.eventHash = right.getLast?.map EventRow.eventHash ->
      forall (i : Nat) row row', left[i]? = some row -> right[i]? = some row' ->
        (fieldsFromRow row).asSerialized = (fieldsFromRow row').asSerialized ∧ row.prevHash = row'.prevHash) := by
  refine ⟨?_, ?_⟩
  · intro rows initialPrevHash
    rw [verifyChain_ok_iff, consecutive_iff_rows, sealed_iff_rows]
  · intro left right initialPrevHash sameLength accepted accepted' sameLast i row row' found found'
    rw [verifyChain_ok_iff] at accepted accepted'
    have sameTip : (chainScheme digest).tip initialPrevHash left = (chainScheme digest).tip initialPrevHash right :=
      congrArg (fun last => last.getD initialPrevHash) sameLast
    have links := (Scheme.Sealed.eq_of_tip_eq ideal.determines sameLength accepted.2 accepted'.2 sameTip).2
    have same := List.forall₂_iff_get.mp links
    rcases List.getElem?_eq_some_iff.mp found with ⟨inside, rfl⟩
    rcases List.getElem?_eq_some_iff.mp found' with ⟨inside', rfl⟩
    exact ⟨(same.2 i inside inside').content, (same.2 i inside inside').prev⟩

end Loop

/-- A row that continues a chain of histories. -/
def sampleRow (seq : Int) (fields : AuditFields Text) (prevHash : History) : EventRow Text History :=
  { fields with eventSeq := seq, prevHash := prevHash, eventHash := computeEventHash historyDigest fields prevHash }

/-- The chain of the unit tests, and the same events with naive timestamps. -/
theorem verifyChain_tamper_evidence_naive :
    let aware := sampleRow 1 (sampleFields 1 "test.action.0".toList) []
    let naive := sampleRow 1 (sampleFields 1 "test.action.0".toList).asSerialized []
    (fieldsFromRow aware).asSerialized = (fieldsFromRow naive).asSerialized ∧ aware.prevHash = naive.prevHash :=
  (verifyChain_tamper_evidence historyDigest historyDigest_collisionFree).2
    [sampleRow 1 (sampleFields 1 "test.action.0".toList) [],
      sampleRow 2 (sampleFields 2 "test.action.1".toList)
        (sampleRow 1 (sampleFields 1 "test.action.0".toList) []).eventHash]
    [sampleRow 1 (sampleFields 1 "test.action.0".toList).asSerialized [],
      sampleRow 2 (sampleFields 2 "test.action.1".toList).asSerialized
        (sampleRow 1 (sampleFields 1 "test.action.0".toList) []).eventHash]
    [] rfl (by decide) (by decide) (by decide) 0 _ _ rfl rfl

end Audit
end ApexQuant
