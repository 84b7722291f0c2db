import ApexQuant.Audit.Hashing
import ApexQuant.Foundation.Database
import ApexQuant.Foundation.Runs

namespace ApexQuant
namespace Audit

open Foundation
open Foundation.Database

/-!
# The audit repository

`PostgresAuditRepository` over the table `audit.events`.  The identity column
hands out increasing numbers and never takes one back: not when the insert runs
into `ON CONFLICT DO NOTHING`, not when it violates a constraint, and not when
its transaction is rolled back.  Appends are serialized by an advisory lock, so
one call is one transition of the table.

JSONB values and timestamps come back from the table as they were stored.
-/

variable {Data Serialized Hash : Type}

/-! ## The table -/

/-- `audit.events`: its rows, in the order of their insertion, and the next value
of the identity column. -/
structure AuditTable (Data Hash : Type) where
  rows : List (EventRow Data Hash)
  nextSeq : Int
  primaryKey : (rows.map EventRow.eventSeq).Nodup

namespace AuditTable

/-- The table after the migration. -/
def empty : AuditTable Data Hash where
  rows := []
  nextSeq := 1
  primaryKey := List.nodup_nil

/-- The rows `ORDER BY event_seq ASC`. -/
def ordered (table : AuditTable Data Hash) : List (EventRow Data Hash) :=
  table.rows.insertionSort fun a b => a.eventSeq ≤ b.eventSeq

/-- What a rollback leaves: the rows as before, but no identity value back. -/
def rollback (before after : AuditTable Data Hash) : AuditTable Data Hash :=
  { before with nextSeq := after.nextSeq }

end AuditTable

/-- The ways in which a repository method raises. -/
inductive AuditRepositoryError where
  /-- A text parameter with a zero byte, which the driver does not send. -/
  | nulByte
  | sequenceExhausted
  | checkViolation
  | primaryKeyViolation
  | idempotencyViolation
  /-- `audit append failed`. -/
  | appendFailed
  /-- `cannot verify from sequence {start_seq}: previous event missing`. -/
  | previousEventMissing (startSeq : Int)
  deriving DecidableEq, Repr

/-- The text columns of the insert. -/
def AuditFields.texts (fields : AuditFields Data) : List Text :=
  [fields.actorType, fields.serviceName, fields.plane, fields.action, fields.resourceType, fields.resourceId,
    fields.decision, fields.reason, fields.severity] ++
  [fields.actorId, fields.principalName, fields.requestId, fields.correlationId, fields.traceId,
    fields.idempotencyKey].filterMap id

/-- The `CHECK` constraints of `audit.events`.  Those on the format of the hashes
hold of every hash. -/
def AuditFields.checks (fields : AuditFields Data) : Bool :=
  ["SERVICE".toList, "USER".toList, "SYSTEM".toList].contains fields.actorType &&
    ["ALLOW".toList, "DENY".toList, "SUCCESS".toList, "FAILURE".toList, "INFO".toList].contains fields.decision &&
    ["DEBUG".toList, "INFO".toList, "WARNING".toList, "CRITICAL".toList].contains fields.severity &&
    Text.notBlank fields.serviceName && Text.notBlank fields.plane && Text.notBlank fields.action

/-- The partial unique index on `(service_name, idempotency_key)`. -/
def collides (fields : AuditFields Data) (row : EventRow Data Hash) : Bool :=
  fields.idempotencyKey.isSome && decide (row.serviceName = fields.serviceName) &&
    decide (row.idempotencyKey = fields.idempotencyKey)

def EventRow.record (row : EventRow Data Hash) : AuditEventRecord Hash where
  eventSeq := row.eventSeq
  eventId := row.eventId
  occurredAt := row.occurredAt
  eventHash := row.eventHash

namespace AuditTable

/-- The row that an insert would store now. -/
def newRow (table : AuditTable Data Hash) (fields : AuditFields Data) (prevHash eventHash : Hash) :
    EventRow Data Hash :=
  { fields with eventSeq := table.nextSeq, prevHash := prevHash, eventHash := eventHash }

/-- The table after an identity value has been drawn. -/
def draw (table : AuditTable Data Hash) : AuditTable Data Hash :=
  { table with nextSeq := table.nextSeq + 1 }

/-- The table with a new row under a fresh number. -/
def store (table : AuditTable Data Hash) (fields : AuditFields Data) (prevHash eventHash : Hash)
    (fresh : table.nextSeq ∉ table.rows.map EventRow.eventSeq) : AuditTable Data Hash where
  rows := table.rows ++ [table.newRow fields prevHash eventHash]
  nextSeq := table.nextSeq + 1
  primaryKey := by
    rw [List.map_append, List.nodup_append]
    refine ⟨table.primaryKey, List.nodup_singleton _, ?_⟩
    intro old known new added same
    rw [List.map_singleton, List.mem_singleton] at added
    subst new
    subst same
    exact fresh known

end AuditTable

/-- The statement `INSERT INTO audit.events ... ON CONFLICT (event_id) DO NOTHING RETURNING ...`.
The identity value is drawn before the constraints are checked. -/
def insertEvent (fields : AuditFields Data) (prevHash eventHash : Hash) (table : AuditTable Data Hash) :
    Except AuditRepositoryError (Option (AuditEventRecord Hash)) × AuditTable Data Hash :=
  if fields.texts.all Text.sendable = false then (.error .nulByte, table)
  else if 9223372036854775807 < table.nextSeq then (.error .sequenceExhausted, table)
  else if fields.checks = false then (.error .checkViolation, table.draw)
  else if table.rows.any (fun row => decide (row.eventId = fields.eventId)) then (.ok none, table.draw)
  else if fresh : table.nextSeq ∉ table.rows.map EventRow.eventSeq then
    if table.rows.any (collides fields) then (.error .idempotencyViolation, table.draw)
    else
      (.ok (some (table.newRow fields prevHash eventHash).record), table.store fields prevHash eventHash fresh)
  else (.error .primaryKeyViolation, table.draw)

/-! ## Repository methods -/

/-- `append_event`. -/
def appendEvent (digest : Digest Data Serialized Hash) (fields : AuditFields Data) :
    Program AuditRepositoryError (AuditTable Data Hash) (AuditEventRecord Hash) :=
  transaction AuditTable.rollback do
    -- `pg_advisory_xact_lock`
    query fun _ => ()
    let row <- query fun table => table.ordered.getLast?.map EventRow.eventHash
    let prevHash := row.getD digest.genesisHash
    let eventHash := computeEventHash digest fields prevHash
    let inserted <- statement (insertEvent fields prevHash eventHash)
    match inserted with
    | some record => pure record
    | none =>
        let existing <- query fun table => table.rows.find? fun row => decide (row.eventId = fields.eventId)
        match existing with
        | none => throw (.raised .appendFailed)
        | some row => pure row.record

/-- `max(1, min(limit, most))`, as the number of rows that a query returns. -/
def clampLimit (most : Int) (limit : Int) : Nat :=
  (max 1 (min limit most)).toNat

/-- `fetch_verification_range`. -/
def fetchVerificationRange (digest : Digest Data Serialized Hash) (startSeq endSeq : Option Int) (limit : Int)
    (table : AuditTable Data Hash) : Except AuditRepositoryError (Hash × List (EventRow Data Hash)) :=
  let window (start : Int) : List (EventRow Data Hash) :=
    (table.ordered.filter fun row =>
      decide (start ≤ row.eventSeq) && endSeq.all fun last => decide (row.eventSeq ≤ last)).take
        (clampLimit 10000 limit)
  match startSeq with
  | none => .ok (digest.genesisHash, window 1)
  | some start =>
      if start ≤ 1 then .ok (digest.genesisHash, window 1)
      else
        match table.rows.find? fun row => decide (row.eventSeq = start - 1) with
        | none => .error (.previousEventMissing start)
        | some row => .ok (row.eventHash, window start)

/-- The report of the endpoint `/v1/audit/verify`. -/
def verifyAuditChain [DecidableEq Hash] (digest : Digest Data Serialized Hash) (startSeq endSeq : Option Int)
    (limit : Int) (table : AuditTable Data Hash) : Except AuditRepositoryError VerificationReport :=
  (fetchVerificationRange digest startSeq endSeq limit table).map fun (initialPrevHash, rows) =>
    verifyChain digest rows initialPrevHash

/-- The window is verified and the report says `ok`. -/
def reportsOk [DecidableEq Hash] (digest : Digest Data Serialized Hash) (startSeq endSeq : Option Int)
    (limit : Int) (table : AuditTable Data Hash) : Bool :=
  match verifyAuditChain digest startSeq endSeq limit table with
  | .ok report => report.ok
  | .error _ => false

/-! ## Sequences of calls -/

/-- A call of `append_event`, with the fate of its connection. -/
structure AppendCall (Data : Type) where
  fields : AuditFields Data
  link : Link

/-- The table that a call leaves, whether it returns or raises. -/
def appendStep (digest : Digest Data Serialized Hash) (table : AuditTable Data Hash) (call : AppendCall Data) :
    AuditTable Data Hash :=
  finalStore (appendEvent digest call.fields) { store := table, link := call.link }

/-! ## What one call can do -/

/-- The insert would store a row: the texts can be sent, a number is left, and no
constraint stands against it. -/
def AuditTable.insertable (table : AuditTable Data Hash) (fields : AuditFields Data) : Bool :=
  fields.texts.all Text.sendable && decide (table.nextSeq ≤ 9223372036854775807) &&
    fields.checks && !table.rows.any (fun row => decide (row.eventId = fields.eventId)) &&
    decide (table.nextSeq ∉ table.rows.map EventRow.eventSeq) && !table.rows.any (collides fields)

/-- The hash that the next row has to continue. -/
def AuditTable.lastHash (digest : Digest Data Serialized Hash) (table : AuditTable Data Hash) : Hash :=
  (table.ordered.getLast?.map EventRow.eventHash).getD digest.genesisHash

theorem AuditTable.fresh_of_insertable {table : AuditTable Data Hash} {fields : AuditFields Data}
    (accepts : table.insertable fields = true) : table.nextSeq ∉ table.rows.map EventRow.eventSeq := by
  simp only [insertable, Bool.and_eq_true, decide_eq_true_eq] at accepts
  exact accepts.1.2

theorem insertEvent_of_insertable {table : AuditTable Data Hash} {fields : AuditFields Data} (prevHash eventHash : Hash)
    (accepts : table.insertable fields = true) :
    insertEvent fields prevHash eventHash table =
      (.ok (some (table.newRow fields prevHash eventHash).record),
        table.store fields prevHash eventHash (AuditTable.fresh_of_insertable accepts)) := by
  have fresh := AuditTable.fresh_of_insertable accepts
  simp only [AuditTable.insertable, Bool.and_eq_true, Bool.not_eq_true', decide_eq_true_eq] at accepts
  rcases accepts with ⟨⟨⟨⟨⟨sendable, left⟩, checked⟩, unknown⟩, -⟩, noCollision⟩
  have notExhausted : ¬ 9223372036854775807 < table.nextSeq := by omega
  rw [insertEvent, sendable, checked, unknown, noCollision, if_neg notExhausted, dif_pos fresh]
  rfl

/-- An insert that stores no row leaves the rows alone, and may have drawn a number. -/
theorem insertEvent_of_not_insertable {table : AuditTable Data Hash} {fields : AuditFields Data}
    (prevHash eventHash : Hash) (refuses : table.insertable fields = false) :
    Exists fun answer => Exists fun next => (answer = .ok none ∨ Exists fun error => answer = .error error) ∧
      (next = table.nextSeq ∨ next = table.nextSeq + 1) ∧
      insertEvent fields prevHash eventHash table = (answer, { table with nextSeq := next }) := by
  unfold insertEvent
  split
  · exact ⟨_, _, Or.inr ⟨_, rfl⟩, Or.inl rfl, rfl⟩
  · rename_i sendable
    split
    · exact ⟨_, _, Or.inr ⟨_, rfl⟩, Or.inl rfl, rfl⟩
    · rename_i left
      split
      · exact ⟨_, _, Or.inr ⟨_, rfl⟩, Or.inr rfl, rfl⟩
      · rename_i checked
        split
        · exact ⟨_, _, Or.inl rfl, Or.inr rfl, rfl⟩
        · rename_i unknown
          split
          · rename_i fresh
            split
            · exact ⟨_, _, Or.inr ⟨_, rfl⟩, Or.inr rfl, rfl⟩
            · rename_i noCollision
              exfalso
              rw [Bool.not_eq_true] at unknown noCollision
              rw [Bool.not_eq_false] at sendable checked
              have notExhausted : table.nextSeq ≤ 9223372036854775807 := by omega
              simp only [AuditTable.insertable, sendable, unknown, noCollision, checked, notExhausted, fresh,
                Bool.not_false, decide_true, Bool.and_self, Bool.true_eq_false, not_false_eq_true] at refuses
          · exact ⟨_, _, Or.inr ⟨_, rfl⟩, Or.inr rfl, rfl⟩

/-- A call whose insert is accepted and whose commit, the fourth statement,
reaches the server stores a row.  It takes the next number and continues the hash
of the last row. -/
theorem appendStep_of_stored (digest : Digest Data Serialized Hash) (table : AuditTable Data Hash)
    (call : AppendCall Data) (accepts : table.insertable call.fields = true) (commits : call.link.carries 3 = true) :
    appendStep digest table call =
      table.store call.fields (table.lastHash digest) (computeEventHash digest call.fields (table.lastHash digest))
        (AuditTable.fresh_of_insertable accepts) := by
  rcases call with ⟨fields, link⟩
  have inserted := insertEvent_of_insertable (table.lastHash digest)
    (computeEventHash digest fields (table.lastHash digest)) accepts
  rw [AuditTable.lastHash] at inserted ⊢
  rcases link with _ | ⟨_ | _ | _ | _ | after, applied⟩
  · simp only [appendStep, finalStore, appendEvent, transaction, query, statement, bind, EStateM.bind, pure,
      EStateM.pure, Link.next, inserted]
  · exact absurd commits (by simp [Link.carries])
  · exact absurd commits (by simp [Link.carries])
  · exact absurd commits (by simp [Link.carries])
  · -- the answer to the commit is lost
    have applies : applied = true := by simpa [Link.carries] using commits
    simp only [appendStep, finalStore, appendEvent, transaction, query, statement, bind, EStateM.bind, pure,
      EStateM.pure, Link.next, Link.applies, inserted, applies, if_true]
  · simp only [appendStep, finalStore, appendEvent, transaction, query, statement, bind, EStateM.bind, pure,
      EStateM.pure, Link.next, inserted]

/-- The rows are as before, and at most one number is lost. -/
def AuditTable.Kept (before after : AuditTable Data Hash) : Prop :=
  Exists fun next => (next = before.nextSeq ∨ next = before.nextSeq + 1) ∧ after = { before with nextSeq := next }

theorem AuditTable.Kept.rollback {before after : AuditTable Data Hash} (kept : before.Kept after) :
    before.Kept (AuditTable.rollback before after) := by
  rcases kept with ⟨next, drawn, rfl⟩
  exact ⟨next, drawn, rfl⟩

/-- A call whose insert is refused keeps the rows, whatever happens to its connection. -/
theorem appendEvent_of_refused (digest : Digest Data Serialized Hash) {table : AuditTable Data Hash}
    {fields : AuditFields Data} (refuses : table.insertable fields = false) :
    Triple (fun store => store = table) (appendEvent digest fields) (fun _ => table.Kept) table.Kept := by
  have untouched : forall store, store = table -> table.Kept store := by
    rintro store rfl
    exact ⟨store.nextSeq, Or.inl rfl, rfl⟩
  refine Triple.transaction (?_ : forall before, before = table -> Triple (fun store => store = before) _
    (fun _ after => table.Kept after) (fun after => table.Kept after)) ?_ ?_
  · rintro before rfl
    refine Triple.query_bind untouched fun _ => ?_
    refine Triple.query_bind (fun store holds => untouched store holds.1) fun row => ?_
    rcases insertEvent_of_not_insertable (row.getD digest.genesisHash)
      (computeEventHash digest fields (row.getD digest.genesisHash)) refuses with
      ⟨answer, next, shape, drawn, inserted⟩
    -- the insert stores nothing, so it answers nothing or raises
    refine Triple.bind (Triple.statement ?_ (fun store holds => untouched store holds.1.1) ?_ :
      Triple _ _ (fun found store => found = none ∧ before.Kept store) _) fun found => ?_
    · rintro store ⟨⟨rfl, -⟩, -⟩ found answered
      rw [inserted] at answered ⊢
      rcases shape with rfl | ⟨error, rfl⟩
      · exact ⟨(Except.ok.inj answered).symm, next, drawn, rfl⟩
      · exact absurd answered (by simp)
    · rintro store ⟨⟨rfl, -⟩, -⟩
      rw [inserted]
      exact ⟨next, drawn, rfl⟩
    · cases found with
      | some record => exact Triple.pure fun _ impossible => absurd impossible.1 (by simp)
      | none =>
          refine Triple.query_bind (fun _ holds => holds.2) fun existing => ?_
          cases existing with
          | none => exact Triple.throw fun _ holds => holds.1.2
          | some row => exact Triple.pure fun _ holds => holds.1.2
  · rintro before rfl answer after kept
    exact ⟨kept, kept, kept.rollback⟩
  · rintro before rfl after kept
    exact kept.rollback

/-- Any other call leaves the rows alone, and may have drawn a number. -/
theorem appendStep_of_not_stored (digest : Digest Data Serialized Hash) (table : AuditTable Data Hash)
    (call : AppendCall Data) (fails : ¬ (table.insertable call.fields = true ∧ call.link.carries 3 = true)) :
    table.Kept (appendStep digest table call) := by
  rcases call with ⟨fields, link⟩
  cases accepts : table.insertable fields with
  | true =>
      have inserted := insertEvent_of_insertable (table.lastHash digest)
        (computeEventHash digest fields (table.lastHash digest)) accepts
      rw [AuditTable.lastHash] at inserted
      have dropped : link.carries 3 = false := by simpa [accepts] using fails
      -- before the insert, at it, and at the commit
      rcases link with _ | ⟨_ | _ | _ | _ | after, applied⟩
      · exact absurd dropped (by simp [Link.carries])
      · refine ⟨table.nextSeq, Or.inl rfl, ?_⟩
        cases applied <;> rfl
      · refine ⟨table.nextSeq, Or.inl rfl, ?_⟩
        cases applied <;> rfl
      · cases applied with
        | false => exact ⟨table.nextSeq, Or.inl rfl, rfl⟩
        | true =>
            refine ⟨table.nextSeq + 1, Or.inr rfl, ?_⟩
            simp only [appendStep, finalStore, appendEvent, transaction, query, statement, bind, EStateM.bind,
              Link.next, Link.applies, inserted, AuditTable.rollback, AuditTable.store, if_true]
      · have lost : applied = false := by simpa [Link.carries] using dropped
        refine ⟨table.nextSeq + 1, Or.inr rfl, ?_⟩
        simp only [appendStep, finalStore, appendEvent, transaction, query, statement, bind, EStateM.bind, pure,
          EStateM.pure, Link.next, Link.applies, inserted, lost, AuditTable.rollback, AuditTable.store,
          Bool.false_eq_true, if_false]
      · exact absurd dropped (by simp [Link.carries])
  | false =>
      exact Triple.finalStore (appendEvent_of_refused digest accepts) (fun _ _ kept => kept) (fun _ kept => kept) rfl

/-! ## The order of the rows -/

theorem AuditTable.ordered_increasing (table : AuditTable Data Hash) :
    (table.ordered.map EventRow.eventSeq).Pairwise (· < ·) := by
  have sorted : table.ordered.Pairwise fun a b => a.eventSeq ≤ b.eventSeq := by
    have total : Std.Total fun a b : EventRow Data Hash => a.eventSeq ≤ b.eventSeq := ⟨fun a b => le_total _ _⟩
    have transitive : IsTrans (EventRow Data Hash) fun a b => a.eventSeq ≤ b.eventSeq := ⟨fun a b c => le_trans⟩
    exact List.pairwise_insertionSort _ _
  have distinct : (table.ordered.map EventRow.eventSeq).Nodup :=
    ((List.perm_insertionSort _ table.rows).map _).nodup_iff.mpr table.primaryKey
  rw [List.pairwise_map]
  rw [List.Nodup, List.pairwise_map] at distinct
  exact sorted.imp₂ (fun a b ordered different => lt_of_le_of_ne ordered different) distinct

theorem AuditTable.mem_ordered {table : AuditTable Data Hash} {row : EventRow Data Hash} :
    row ∈ table.ordered <-> row ∈ table.rows :=
  List.mem_insertionSort _

theorem AuditTable.ordered_eq {table : AuditTable Data Hash}
    (increasing : (table.rows.map EventRow.eventSeq).Pairwise (· < ·)) : table.ordered = table.rows := by
  apply List.Pairwise.insertionSort_eq
  exact (List.pairwise_map.mp increasing).imp le_of_lt

/-! ## Reachable tables -/

/-- What holds of the table after any sequence of calls: the rows are stored in
the order of their numbers, which stay below the next one, and form a chain. -/
structure AuditTable.WellChained (digest : Digest Data Serialized Hash) (table : AuditTable Data Hash) : Prop where
  increasing : (table.rows.map EventRow.eventSeq).Pairwise (· < ·)
  positive : forall row, row ∈ table.rows -> 1 ≤ row.eventSeq
  below : forall row, row ∈ table.rows -> row.eventSeq < table.nextSeq
  start : 1 ≤ table.nextSeq
  chained : (chainScheme digest).Sealed digest.genesisHash table.rows

theorem AuditTable.WellChained.empty (digest : Digest Data Serialized Hash) :
    (AuditTable.empty : AuditTable Data Hash).WellChained digest where
  increasing := List.Pairwise.nil
  positive := fun _ absent => absurd absent List.not_mem_nil
  below := fun _ absent => absurd absent List.not_mem_nil
  start := le_refl 1
  chained := trivial

theorem AuditTable.WellChained.kept {digest : Digest Data Serialized Hash} {before after : AuditTable Data Hash}
    (wellChained : before.WellChained digest) (kept : before.Kept after) : after.WellChained digest := by
  rcases kept with ⟨next, drawn, rfl⟩
  have later : before.nextSeq ≤ next := by omega
  exact
    { increasing := wellChained.increasing
      positive := wellChained.positive
      below := fun row member => lt_of_lt_of_le (wellChained.below row member) later
      start := wellChained.start.trans later
      chained := wellChained.chained }

theorem AuditTable.WellChained.stored {digest : Digest Data Serialized Hash} {table : AuditTable Data Hash}
    (wellChained : table.WellChained digest) (fields : AuditFields Data)
    (fresh : table.nextSeq ∉ table.rows.map EventRow.eventSeq) :
    (table.store fields (table.lastHash digest) (computeEventHash digest fields (table.lastHash digest))
      fresh).WellChained digest where
  increasing := by
    rw [store, List.map_append, List.pairwise_append]
    refine ⟨wellChained.increasing, List.pairwise_singleton _ _, ?_⟩
    intro old known new added
    rw [List.map_singleton, List.mem_singleton] at added
    rcases List.mem_map.mp known with ⟨row, member, rfl⟩
    exact added ▸ wellChained.below row member
  positive := by
    intro row member
    rcases List.mem_append.mp member with old | new
    · exact wellChained.positive row old
    · rw [List.mem_singleton.mp new]
      exact wellChained.start
  below := by
    intro row member
    have step : table.nextSeq < table.nextSeq + 1 := by omega
    rcases List.mem_append.mp member with old | new
    · exact (wellChained.below row old).trans step
    · rw [List.mem_singleton.mp new]
      exact step
  start := Int.le_add_one wellChained.start
  chained := by
    rw [store, Scheme.sealed_concat]
    refine ⟨wellChained.chained, ?_⟩
    rw [lastHash, ordered_eq wellChained.increasing]
    exact ⟨rfl, rfl⟩

theorem AuditTable.WellChained.step {digest : Digest Data Serialized Hash} (table : AuditTable Data Hash)
    (call : AppendCall Data) (wellChained : table.WellChained digest) :
    (appendStep digest table call).WellChained digest := by
  by_cases stores : table.insertable call.fields = true ∧ call.link.carries 3 = true
  · rw [appendStep_of_stored digest table call stores.1 stores.2]
    exact wellChained.stored _ _
  · exact wellChained.kept (appendStep_of_not_stored digest table call stores)

/-! ## Verification of the whole table -/

/-- A call that stores a row is made when no number has been lost since the last
stored row. -/
def GapFree (table : AuditTable Data Hash) (call : AppendCall Data) : Prop :=
  table.insertable call.fields = true ∧ call.link.carries 3 = true ->
    table.rows = [] ∨ table.ordered.getLast?.map EventRow.eventSeq = some (table.nextSeq - 1)

/-- The numbers in the table are consecutive exactly when every call was gap-free. -/
theorem consecutive_iff_guarded (digest : Digest Data Serialized Hash) (calls : List (AppendCall Data)) :
    Consecutive ((calls.foldl (appendStep digest) AuditTable.empty).rows.map EventRow.eventSeq) <->
      Run.Guarded (appendStep digest) GapFree AuditTable.empty calls := by
  induction calls using List.reverseRecOn with
  | nil => exact iff_of_true List.isChain_nil trivial
  | append_singleton calls call inductionHypothesis =>
      rw [Run.guarded_concat, List.foldl_append, List.foldl_cons, List.foldl_nil, ← inductionHypothesis]
      have wellChained := Run.invariant (appendStep digest) AuditTable.WellChained.step
        (AuditTable.WellChained.empty digest) calls
      generalize calls.foldl (appendStep digest) AuditTable.empty = table at wellChained
      by_cases stores : table.insertable call.fields = true ∧ call.link.carries 3 = true
      · rw [appendStep_of_stored digest table call stores.1 stores.2, AuditTable.store, List.map_append,
          List.map_singleton, Consecutive.concat_iff, GapFree, AuditTable.ordered_eq wellChained.increasing,
          imp_iff_right stores, List.map_eq_nil_iff, List.getLast?_map]
        refine and_congr_right fun _ => or_congr_right ?_
        constructor
        · rintro ⟨last, found, next⟩
          rw [found, show table.nextSeq = last + 1 from next, Int.add_sub_cancel]
        · intro found
          exact ⟨table.nextSeq - 1, found, (Int.sub_add_cancel table.nextSeq 1).symm⟩
      · rcases appendStep_of_not_stored digest table call stores with ⟨next, -, kept⟩
        rw [kept]
        exact ⟨fun consecutive => ⟨consecutive, fun impossible => absurd impossible stores⟩, fun holds => holds.1⟩

/-- On a reachable table a verification without bounds reads the first rows, up to
the limit, and fails only at a gap between their numbers. -/
theorem reportsOk_whole_iff [DecidableEq Hash] (digest : Digest Data Serialized Hash) {table : AuditTable Data Hash}
    (wellChained : table.WellChained digest) (limit : Int) :
    reportsOk digest none none limit table = true <->
      Consecutive ((table.rows.map EventRow.eventSeq).take (clampLimit 10000 limit)) := by
  have everything : (table.rows.filter fun row => decide (1 ≤ row.eventSeq) && (none : Option Int).all fun last =>
      decide (row.eventSeq ≤ last)) = table.rows := by
    rw [List.filter_eq_self]
    intro row member
    rw [decide_eq_true (wellChained.positive row member)]
    rfl
  simp only [reportsOk, verifyAuditChain, fetchVerificationRange, Except.map,
    AuditTable.ordered_eq wellChained.increasing, everything, verifyChain_ok_iff, List.map_take]
  exact and_iff_left (wellChained.chained.take _)

/-- Appends keep the whole table verifiable, at every limit, as long as no call
stores a row after an identity value has been lost.  When the limit reaches over
the table, verification succeeds only then. -/
theorem append_keeps_verifiable [DecidableEq Hash] (digest : Digest Data Serialized Hash)
    (calls : List (AppendCall Data)) :
    (Run.Guarded (appendStep digest) GapFree AuditTable.empty calls ->
      forall limit, reportsOk digest none none limit (calls.foldl (appendStep digest) AuditTable.empty) = true) ∧
    (forall limit, (calls.foldl (appendStep digest) AuditTable.empty).rows.length ≤ clampLimit 10000 limit ->
      reportsOk digest none none limit (calls.foldl (appendStep digest) AuditTable.empty) = true ->
      Run.Guarded (appendStep digest) GapFree AuditTable.empty calls) := by
  have wellChained := Run.invariant (appendStep digest) AuditTable.WellChained.step
    (AuditTable.WellChained.empty digest) calls
  refine ⟨?_, ?_⟩
  · intro guarded limit
    rw [reportsOk_whole_iff digest wellChained]
    exact ((consecutive_iff_guarded digest calls).mpr guarded).take _
  · intro limit reaches accepted
    rw [reportsOk_whole_iff digest wellChained, List.take_of_length_le (by rwa [List.length_map])] at accepted
    exact (consecutive_iff_guarded digest calls).mp accepted

/-- Two events, the second of them retried. -/
def lastRetriedCalls : List (AppendCall Text) :=
  [{ fields := sampleFields 1 "test.action.0".toList, link := .steady },
    { fields := sampleFields 2 "test.action.1".toList, link := .steady },
    { fields := sampleFields 2 "test.action.1".toList, link := .steady }]

theorem append_keeps_verifiable_last_retried :
    reportsOk historyDigest none none 1000 (lastRetriedCalls.foldl (appendStep historyDigest) AuditTable.empty) = true := by
  have guarded : Run.Guarded (appendStep historyDigest) GapFree AuditTable.empty lastRetriedCalls :=
    ⟨fun _ => Or.inl rfl, fun _ => Or.inr (by decide), fun stores => absurd stores.1 (by decide), trivial⟩
  exact (append_keeps_verifiable historyDigest lastRetriedCalls).1 guarded 1000

/-- Three calls: an event, its retry, and another event. -/
def retriedCalls : List (AppendCall Text) :=
  [{ fields := sampleFields 1 "test.action.0".toList, link := .steady },
    { fields := sampleFields 1 "test.action.0".toList, link := .steady },
    { fields := sampleFields 2 "test.action.1".toList, link := .steady }]

/-- A retry consumes a number, and the next stored event leaves a gap that
verification reports. -/
theorem retry_breaks_verification :
    ¬ forall calls : List (AppendCall Text), reportsOk historyDigest none none 1000
      (calls.foldl (appendStep historyDigest) AuditTable.empty) = true := by
  intro always
  exact absurd (always retriedCalls) (by decide)

end Audit
end ApexQuant
