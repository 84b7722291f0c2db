import ApexQuant.Audit.Repository

namespace ApexQuant
namespace Audit

open Foundation
open Foundation.Database

/-!
# Publishing audit events

The audit service stores an event first and publishes it afterwards, on two
paths.  The handler of `POST /v1/audit/events` appends the event, fetches a row
back, publishes it and records the delivery of the number it appended.  The relay
loop fetches unpublished rows in batches, publishes each and records its delivery.
Every `await` is a point where the other tasks may run, so each repository call
and each publication is a step of its own.

The handler does not fetch the row by its number or its event identifier.  It asks
for the newest row whose `request_id` is the text of the event identifier, and
clients choose both.
-/

variable {Data Serialized Hash : Type}

/-! ## Repository methods -/

/-- `AND column = %s`, added to a query only for a non-empty argument. -/
def columnFilter (wanted : Option Text) (value : Option Text) : Bool :=
  match wanted with
  | none => true
  | some text => text.isEmpty || decide (value = some text)

/-- `fetch_events`. -/
def fetchEvents (limit : Int) (serviceName action requestId : Option Text) (table : AuditTable Data Hash) :
    List (EventRow Data Hash) :=
  (table.ordered.reverse.filter fun row =>
    columnFilter serviceName (some row.serviceName) && columnFilter action (some row.action) &&
      columnFilter requestId row.requestId).take (clampLimit 1000 limit)

/-- A row of `audit.event_delivery`; `published` says that `published_at` is set. -/
structure Delivery where
  published : Bool
  attempts : Int
  lastError : Option String
  deriving DecidableEq, Repr

/-- `audit.event_delivery`, by `event_seq`. -/
abbrev DeliveryTable := Int -> Option Delivery

/-- The event has been recorded as delivered. -/
def DeliveryTable.delivered (deliveries : DeliveryTable) (eventSeq : Int) : Bool :=
  (deliveries eventSeq).any Delivery.published

/-- `fetch_unpublished`, before its limit is applied. -/
def unpublished (table : AuditTable Data Hash) (deliveries : DeliveryTable) : List (EventRow Data Hash) :=
  table.ordered.filter fun row => !deliveries.delivered row.eventSeq

/-- `fetch_unpublished`. -/
def fetchUnpublished (limit : Int) (table : AuditTable Data Hash) (deliveries : DeliveryTable) :
    List (EventRow Data Hash) :=
  (unpublished table deliveries).take (clampLimit 1000 limit)

/-- The row of the delivery table that `record_delivery` leaves. -/
def Delivery.after (success : Bool) (error : Option String) : Option Delivery -> Delivery
  | none => { published := success, attempts := 1, lastError := error }
  | some old => { published := success || old.published, attempts := old.attempts + 1, lastError := error }

inductive DeliveryError where
  | foreignKeyViolation
  deriving DecidableEq, Repr

/-- The upsert of `record_delivery`. -/
def upsertDelivery (table : AuditTable Data Hash) (eventSeq : Int) (success : Bool) (error : Option String)
    (deliveries : DeliveryTable) : Except DeliveryError Unit × DeliveryTable :=
  if eventSeq ∈ table.rows.map EventRow.eventSeq then
    (.ok (), fun n => if n = eventSeq then some (Delivery.after success error (deliveries n)) else deliveries n)
  else (.error .foreignKeyViolation, deliveries)

/-- `record_delivery`. -/
def recordDelivery (table : AuditTable Data Hash) (eventSeq : Int) (success : Bool) (error : Option String) :
    Program DeliveryError DeliveryTable Unit :=
  transaction (fun before _ => before) (statement (upsertDelivery table eventSeq success error))

/-! ## The service -/

/-- Where a handler stands, by what it holds. -/
inductive Ingest (Data Hash : Type) where
  | appended (record : AuditEventRecord Hash)
  | fetched (record : AuditEventRecord Hash) (row : EventRow Data Hash)
  | sent (record : AuditEventRecord Hash) (ok : Bool) (error : Option String)
  | finished

/-- Where the relay loop stands.  It has no handler for exceptions, so a failing
repository call ends it. -/
inductive Relay (Data Hash : Type) where
  | sleeping
  | batch (rows : List (EventRow Data Hash))
  | sent (row : EventRow Data Hash) (ok : Bool) (error : Option String) (rest : List (EventRow Data Hash))
  | stopped

structure ServiceState (Data Hash : Type) where
  table : AuditTable Data Hash
  deliveries : DeliveryTable
  /-- The rows that have been passed to a successful `publish`. -/
  published : List (EventRow Data Hash)
  ingests : List (Ingest Data Hash)
  relay : Relay Data Hash

/-- The service on an empty database. -/
def ServiceState.initial : ServiceState Data Hash where
  table := AuditTable.empty
  deliveries := fun _ => none
  published := []
  ingests := []
  relay := .sleeping

/-- What a `publish` returns: nothing on success, else the text of the exception. -/
abbrev PublishOutcome := Option String

/-- The steps of the service, with what the environment decides about each. -/
inductive ServiceAction (Data : Type) where
  | ingest (request : AuditEventRequest Data) (uuid4 : Uuid) (clock : WallClock) (link : Link)
  | fetch (task : Nat) (answered : Bool)
  | publish (task : Nat) (outcome : PublishOutcome)
  | record (task : Nat) (link : Link)
  | relayFetch (answered : Bool)
  | relayPublish (outcome : PublishOutcome)
  | relayRecord (link : Link)
  | restart

/-- A request with the values of secret keys replaced. -/
def AuditEventRequest.redacted (redactData : Data -> Data) (request : AuditEventRequest Data) : AuditEventRequest Data :=
  { request with data := redactData request.data }

section Step

variable (digest : Digest Data Serialized Hash) (redactData : Data -> Data)

/-- The handler up to and including `append_event`. -/
def ingestStep (state : ServiceState Data Hash) (request : AuditEventRequest Data) (uuid4 : Uuid)
    (clock : WallClock) (link : Link) : ServiceState Data Hash :=
  match (request.redacted redactData).toFields uuid4 clock with
  | .error _ => state
  | .ok fields =>
      match appendEvent digest fields { store := state.table, link := link } with
      | .ok record after => { state with table := after.store, ingests := state.ingests ++ [.appended record] }
      | .error _ after => { state with table := after.store }

/-- The handler's `fetch_events(1, None, None, str(record.event_id))`. -/
def fetchStep (state : ServiceState Data Hash) (task : Nat) (answered : Bool) : ServiceState Data Hash :=
  match state.ingests[task]? with
  | some (.appended record) =>
      let rows := if answered then fetchEvents 1 none none (some record.eventId.str) state.table else []
      match rows with
      | [] => { state with ingests := state.ingests.set task .finished }
      | row :: _ => { state with ingests := state.ingests.set task (.fetched record row) }
  | _ => state

def publishStep (state : ServiceState Data Hash) (task : Nat) (outcome : PublishOutcome) : ServiceState Data Hash :=
  match state.ingests[task]? with
  | some (.fetched record row) =>
      { state with
        published := if outcome.isNone then state.published ++ [row] else state.published
        ingests := state.ingests.set task (.sent record outcome.isNone outcome) }
  | _ => state

def recordStep (state : ServiceState Data Hash) (task : Nat) (link : Link) : ServiceState Data Hash :=
  match state.ingests[task]? with
  | some (.sent record ok error) =>
      { state with
        deliveries := finalStore (recordDelivery state.table record.eventSeq ok error)
          { store := state.deliveries, link := link }
        ingests := state.ingests.set task .finished }
  | _ => state

def relayFetchStep (state : ServiceState Data Hash) (answered : Bool) : ServiceState Data Hash :=
  match state.relay with
  | .sleeping =>
      { state with
        relay := if answered then .batch (fetchUnpublished 100 state.table state.deliveries) else .stopped }
  | _ => state

def relayPublishStep (state : ServiceState Data Hash) (outcome : PublishOutcome) : ServiceState Data Hash :=
  match state.relay with
  | .batch [] => { state with relay := .sleeping }
  | .batch (row :: rest) =>
      { state with
        published := if outcome.isNone then state.published ++ [row] else state.published
        relay := .sent row outcome.isNone outcome rest }
  | _ => state

def relayRecordStep (state : ServiceState Data Hash) (link : Link) : ServiceState Data Hash :=
  match state.relay with
  | .sent row ok error rest =>
      match recordDelivery state.table row.eventSeq ok error { store := state.deliveries, link := link } with
      | .ok _ after => { state with deliveries := after.store, relay := .batch rest }
      | .error _ after => { state with deliveries := after.store, relay := .stopped }
  | _ => state

/-- One step of the service, with publishing enabled. -/
def serviceStep (state : ServiceState Data Hash) : ServiceAction Data -> ServiceState Data Hash
  | .ingest request uuid4 clock link => ingestStep digest redactData state request uuid4 clock link
  | .fetch task answered => fetchStep state task answered
  | .publish task outcome => publishStep state task outcome
  | .record task link => recordStep state task link
  | .relayFetch answered => relayFetchStep state answered
  | .relayPublish outcome => relayPublishStep state outcome
  | .relayRecord link => relayRecordStep state link
  | .restart => { state with ingests := [], relay := .sleeping }

end Step

/-! ## What the repository returns and keeps -/

/-- `append_event` returns the record of a stored row, new or old. -/
theorem appendEvent_record (digest : Digest Data Serialized Hash) (fields : AuditFields Data) :
    Triple (fun _ => True) (appendEvent digest fields)
      (fun record (table : AuditTable Data Hash) => Exists fun row => row ∈ table.rows ∧ row.record = record)
      (fun _ => True) := by
  refine Triple.transaction (?_ : forall before, True -> Triple (fun store => store = before) _
    (fun record (after : AuditTable Data Hash) => Exists fun row => row ∈ after.rows ∧ row.record = record)
    (fun _ => True)) (fun _ _ _ _ found => ⟨found, trivial, trivial⟩) (fun _ _ _ _ => trivial)
  intro before _
  refine Triple.query_bind (fun _ _ => trivial) fun _ => ?_
  refine Triple.query_bind (fun _ _ => trivial) fun last => ?_
  refine Triple.bind (Triple.statement ?_ (fun _ _ => trivial) (fun _ _ => trivial) :
    Triple _ _ (fun inserted (after : AuditTable Data Hash) => forall record, inserted = some record ->
      Exists fun row => row ∈ after.rows ∧ row.record = record) _) fun inserted => ?_
  · rintro table - inserted answered record rfl
    cases accepts : table.insertable fields with
    | true =>
        rw [insertEvent_of_insertable _ _ accepts] at answered ⊢
        refine ⟨_, List.mem_append_right _ List.mem_cons_self, ?_⟩
        exact Option.some.inj (Except.ok.inj answered)
    | false =>
        rcases insertEvent_of_not_insertable (last.getD digest.genesisHash)
          (computeEventHash digest fields (last.getD digest.genesisHash)) accepts with
          ⟨answer, next, shape, -, inserts⟩
        rw [inserts] at answered
        rcases shape with rfl | ⟨error, rfl⟩
        · exact absurd answered (by simp)
        · exact absurd answered (by simp)
  · cases inserted with
    | some record => exact Triple.pure fun _ found => found record rfl
    | none =>
        refine Triple.query_bind (fun _ _ => trivial) fun existing => ?_
        cases existing with
        | none => exact Triple.throw fun _ _ => trivial
        | some row =>
            apply Triple.pure
            rintro table ⟨-, found⟩
            exact ⟨row, List.mem_of_find?_eq_some found, rfl⟩

/-- An append never removes a row. -/
theorem appendStep_keeps_rows (digest : Digest Data Serialized Hash) (table : AuditTable Data Hash)
    (call : AppendCall Data) {row : EventRow Data Hash} (member : row ∈ table.rows) :
    row ∈ (appendStep digest table call).rows := by
  by_cases stores : table.insertable call.fields = true ∧ call.link.carries 3 = true
  · rw [appendStep_of_stored digest table call stores.1 stores.2]
    exact List.mem_append_left _ member
  · rcases appendStep_of_not_stored digest table call stores with ⟨next, -, kept⟩
    rw [kept]
    exact member

/-- Nothing is delivered beyond what was, except one number after a success. -/
def MarksOnly (before : DeliveryTable) (eventSeq : Int) (success : Bool) (after : DeliveryTable) : Prop :=
  forall n, after.delivered n = true -> before.delivered n = true ∨ (n = eventSeq ∧ success = true)

theorem upsertDelivery_marks (table : AuditTable Data Hash) (eventSeq : Int) (success : Bool) (error : Option String)
    (deliveries : DeliveryTable) :
    MarksOnly deliveries eventSeq success (upsertDelivery table eventSeq success error deliveries).2 := by
  intro n marked
  unfold upsertDelivery at marked
  split at marked
  · by_cases same : n = eventSeq
    · subst same
      simp only [DeliveryTable.delivered, if_true, Option.any_some] at marked ⊢
      cases old : deliveries n with
      | none =>
          rw [old] at marked
          exact Or.inr ⟨trivial, marked⟩
      | some delivery =>
          rw [old] at marked
          rcases Bool.or_eq_true_iff.mp marked with succeeded | before
          · exact Or.inr ⟨trivial, succeeded⟩
          · exact Or.inl before
    · simp only [DeliveryTable.delivered, if_neg same] at marked
      exact Or.inl marked
  · exact Or.inl marked

/-- `record_delivery` marks at most the number it is given, and only on success. -/
theorem recordDelivery_marks (table : AuditTable Data Hash) (eventSeq : Int) (success : Bool) (error : Option String)
    (deliveries : DeliveryTable) :
    Triple (fun store => store = deliveries) (recordDelivery table eventSeq success error)
      (fun _ => MarksOnly deliveries eventSeq success) (MarksOnly deliveries eventSeq success) := by
  have untouched : MarksOnly deliveries eventSeq success deliveries := fun _ marked => Or.inl marked
  have upserted := upsertDelivery_marks table eventSeq success error deliveries
  refine Triple.transaction (?_ : forall before, before = deliveries -> Triple (fun store => store = before) _
    (fun _ after => MarksOnly deliveries eventSeq success after)
    (fun after => MarksOnly deliveries eventSeq success after)) ?_ ?_
  · rintro before rfl
    apply Triple.statement
    · rintro store rfl answer -
      exact upserted
    · rintro store rfl
      exact untouched
    · rintro store rfl
      exact upserted
  · rintro before rfl answer after marks
    exact ⟨marks, marks, untouched⟩
  · rintro before rfl after -
    exact untouched

/-! ## Honest states -/

/-- The row with this number is in the table and has been published. -/
def Backed (table : AuditTable Data Hash) (published : List (EventRow Data Hash)) (eventSeq : Int) : Prop :=
  Exists fun row => row ∈ table.rows ∧ row.eventSeq = eventSeq ∧ row ∈ published

/-- What a handler holds is what it believes to hold. -/
def Ingest.Sound (table : AuditTable Data Hash) (published : List (EventRow Data Hash)) : Ingest Data Hash -> Prop
  | .appended record => Exists fun row => row ∈ table.rows ∧ row.record = record
  | .fetched record row => row ∈ table.rows ∧ row.eventSeq = record.eventSeq
  | .sent record ok _ => ok = true -> Backed table published record.eventSeq
  | .finished => True

def Relay.Sound (table : AuditTable Data Hash) (published : List (EventRow Data Hash)) : Relay Data Hash -> Prop
  | .sleeping => True
  | .batch rows => forall row, row ∈ rows -> row ∈ table.rows
  | .sent row ok _ rest =>
      row ∈ table.rows ∧ (ok = true -> row ∈ published) ∧ forall other, other ∈ rest -> other ∈ table.rows
  | .stopped => True

/-- Every handler and the relay are sound, and what is delivered is published. -/
structure Honest (state : ServiceState Data Hash) : Prop where
  ingests : forall task, task ∈ state.ingests -> task.Sound state.table state.published
  relay : state.relay.Sound state.table state.published
  delivered : forall n, state.deliveries.delivered n = true -> Backed state.table state.published n

section Growth

variable {table table' : AuditTable Data Hash} {published published' : List (EventRow Data Hash)}

theorem Backed.mono (rows : forall row, row ∈ table.rows -> row ∈ table'.rows)
    (sent : forall row, row ∈ published -> row ∈ published') {n : Int} (backed : Backed table published n) :
    Backed table' published' n := by
  rcases backed with ⟨row, member, numbered, passed⟩
  exact ⟨row, rows row member, numbered, sent row passed⟩

theorem Ingest.Sound.mono (rows : forall row, row ∈ table.rows -> row ∈ table'.rows)
    (sent : forall row, row ∈ published -> row ∈ published') {task : Ingest Data Hash}
    (sound : task.Sound table published) : task.Sound table' published' := by
  cases task with
  | appended record =>
      rcases sound with ⟨row, member, same⟩
      exact ⟨row, rows row member, same⟩
  | fetched record row => exact ⟨rows row sound.1, sound.2⟩
  | sent record ok error => exact fun succeeded => (sound succeeded).mono rows sent
  | finished => trivial

theorem Relay.Sound.mono (rows : forall row, row ∈ table.rows -> row ∈ table'.rows)
    (sent : forall row, row ∈ published -> row ∈ published') {relay : Relay Data Hash}
    (sound : relay.Sound table published) : relay.Sound table' published' := by
  cases relay with
  | sleeping => trivial
  | batch batch => exact fun row member => rows row (sound row member)
  | sent row ok error rest =>
      exact ⟨rows row sound.1, fun succeeded => sent row (sound.2.1 succeeded),
        fun other member => rows other (sound.2.2 other member)⟩
  | stopped => trivial

end Growth

/-- A task list stays sound when one task is replaced by a sound one. -/
theorem sound_set {table : AuditTable Data Hash} {published : List (EventRow Data Hash)}
    {tasks : List (Ingest Data Hash)} (sound : forall task, task ∈ tasks -> task.Sound table published)
    (position : Nat) {next : Ingest Data Hash} (nextSound : next.Sound table published) :
    forall task, task ∈ tasks.set position next -> task.Sound table published := by
  intro task member
  rcases List.mem_or_eq_of_mem_set member with old | new
  · exact sound task old
  · rw [new]
    exact nextSound

/-! ## The condition on the handler's fetch -/

/-- Of the stored rows whose `request_id` is the text of the event identifier, if
there are any, the newest is the event's own row. -/
def OwnRowNewest (table : AuditTable Data Hash) (record : AuditEventRecord Hash) : Prop :=
  forall row, row ∈ table.rows -> row.requestId = some record.eventId.str ->
    row.eventSeq ≤ record.eventSeq ∧ Exists fun own => own ∈ table.rows ∧ own.eventSeq = record.eventSeq ∧
      own.requestId = some record.eventId.str

/-- The condition on a step: a handler that fetches is one whose own row is newest. -/
def FetchesOwnRow (state : ServiceState Data Hash) : ServiceAction Data -> Prop
  | .fetch task _ => forall record, state.ingests[task]? = some (.appended record) -> OwnRowNewest state.table record
  | _ => True

theorem str_isEmpty (id : Uuid) : id.str.isEmpty = false := by
  rw [List.isEmpty_eq_false_iff]
  intro empty
  simp [Uuid.str] at empty

/-- `fetch_events` with a request identifier returns its newest row first. -/
theorem fetchEvents_head {table : AuditTable Data Hash} {limit : Int} {id : Uuid} {row : EventRow Data Hash}
    {rest : List (EventRow Data Hash)} (fetched : fetchEvents limit none none (some id.str) table = row :: rest) :
    row ∈ table.rows ∧ row.requestId = some id.str ∧
      forall other, other ∈ table.rows -> other.requestId = some id.str -> other.eventSeq ≤ row.eventSeq := by
  unfold fetchEvents at fetched
  simp only [columnFilter, str_isEmpty, Bool.true_and, Bool.false_or] at fetched
  -- the first row of the cut list is the first row of the list
  have head : ((table.ordered.reverse.filter fun row => decide (row.requestId = some id.str)).head?) = some row := by
    have cut := congrArg List.head? fetched
    rw [List.head?_take] at cut
    split at cut
    · exact absurd cut (by simp)
    · exact cut
  rcases List.head?_eq_some_iff.mp head with ⟨older, shape⟩
  have listed : forall other, other ∈ row :: older <-> other ∈ table.rows ∧ other.requestId = some id.str := by
    intro other
    rw [← shape, List.mem_filter, List.mem_reverse, AuditTable.mem_ordered, decide_eq_true_eq]
  have decreasing : (row :: older).Pairwise fun newer older => older.eventSeq < newer.eventSeq := by
    rw [← shape]
    apply List.Pairwise.filter
    rw [List.pairwise_reverse]
    exact List.pairwise_map.mp table.ordered_increasing
  refine ⟨((listed row).mp List.mem_cons_self).1, ((listed row).mp List.mem_cons_self).2, ?_⟩
  intro other member matching
  rcases List.mem_cons.mp ((listed other).mpr ⟨member, matching⟩) with same | later
  · rw [same]
  · exact le_of_lt ((List.pairwise_cons.mp decreasing).1 other later)

/-- Under the condition, what the handler fetches carries the number it appended. -/
theorem fetched_own_row {table : AuditTable Data Hash} {record : AuditEventRecord Hash} {limit : Int}
    {row : EventRow Data Hash} {rest : List (EventRow Data Hash)} (newest : OwnRowNewest table record)
    (fetched : fetchEvents limit none none (some record.eventId.str) table = row :: rest) :
    row ∈ table.rows ∧ row.eventSeq = record.eventSeq := by
  rcases fetchEvents_head fetched with ⟨member, matching, latest⟩
  rcases newest row member matching with ⟨upper, own, ownMember, ownSeq, ownMatching⟩
  have lower := latest own ownMember ownMatching
  exact ⟨member, by omega⟩

/-! ## Every step keeps the service honest -/

section Steps

variable {digest : Digest Data Serialized Hash} {redactData : Data -> Data} {state : ServiceState Data Hash}

theorem Honest.ingest (honest : Honest state) (request : AuditEventRequest Data) (uuid4 : Uuid) (clock : WallClock)
    (link : Link) : Honest (ingestStep digest redactData state request uuid4 clock link) := by
  unfold ingestStep
  split
  · exact honest
  · rename_i fields _
    have grows : forall row, row ∈ state.table.rows ->
        row ∈ (appendStep digest state.table { fields := fields, link := link }).rows :=
      fun row member => appendStep_keeps_rows digest state.table _ member
    have returned := appendEvent_record digest fields { store := state.table, link := link } trivial
    unfold appendStep finalStore at grows
    split
    · rename_i record after ran
      rw [ran] at grows returned
      exact
        { ingests := by
            intro task member
            rcases List.mem_append.mp member with old | new
            · exact (honest.ingests task old).mono grows (fun _ sent => sent)
            · rw [List.mem_singleton.mp new]
              exact returned
          relay := honest.relay.mono grows (fun _ sent => sent)
          delivered := fun n marked => (honest.delivered n marked).mono grows (fun _ sent => sent) }
    · rename_i failure after ran
      rw [ran] at grows
      exact
        { ingests := fun task member => (honest.ingests task member).mono grows (fun _ sent => sent)
          relay := honest.relay.mono grows (fun _ sent => sent)
          delivered := fun n marked => (honest.delivered n marked).mono grows (fun _ sent => sent) }

theorem Honest.fetch (honest : Honest state) (task : Nat) (answered : Bool)
    (condition : forall record, state.ingests[task]? = some (.appended record) -> OwnRowNewest state.table record) :
    Honest (fetchStep state task answered) := by
  unfold fetchStep
  split
  · rename_i record found
    dsimp only
    split
    · exact { honest with ingests := sound_set honest.ingests task trivial }
    · rename_i row rest fetched
      refine { honest with ingests := sound_set honest.ingests task ?_ }
      cases answered with
      | false => exact nomatch fetched
      | true => exact fetched_own_row (condition record found) fetched
  · exact honest

/-- What either path adds to the log of published rows. -/
theorem sent_grows (published : List (EventRow Data Hash)) (outcome : PublishOutcome) (row other : EventRow Data Hash)
    (sent : other ∈ published) : other ∈ if outcome.isNone then published ++ [row] else published := by
  cases outcome with
  | none => exact List.mem_append_left _ sent
  | some error => exact sent

theorem sent_of_success (published : List (EventRow Data Hash)) {outcome : PublishOutcome} (row : EventRow Data Hash)
    (succeeded : outcome.isNone = true) : row ∈ if outcome.isNone then published ++ [row] else published := by
  rw [if_pos succeeded]
  exact List.mem_append_right _ List.mem_cons_self

theorem Honest.publish (honest : Honest state) (task : Nat) (outcome : PublishOutcome) :
    Honest (publishStep state task outcome) := by
  unfold publishStep
  split
  · rename_i record row found
    have holds := honest.ingests _ (List.mem_of_getElem? found)
    have grows := sent_grows state.published outcome row
    refine
      { ingests := sound_set (fun other member => (honest.ingests other member).mono (fun _ listed => listed) grows) task ?_
        relay := honest.relay.mono (fun _ listed => listed) grows
        delivered := fun n marked => (honest.delivered n marked).mono (fun _ listed => listed) grows }
    intro succeeded
    exact ⟨row, holds.1, holds.2, sent_of_success state.published row succeeded⟩
  · exact honest

theorem Honest.record (honest : Honest state) (task : Nat) (link : Link) : Honest (recordStep state task link) := by
  unfold recordStep
  split
  · rename_i record ok error found
    have holds := honest.ingests _ (List.mem_of_getElem? found)
    refine { honest with ingests := sound_set honest.ingests task trivial, delivered := ?_ }
    have marks := Triple.finalStore (recordDelivery_marks state.table record.eventSeq ok error state.deliveries)
      (fun _ _ marks => marks) (fun _ marks => marks)
      (rfl : ({ store := state.deliveries, link := link } : Connection DeliveryTable).store = state.deliveries)
    intro n marked
    rcases marks n marked with before | ⟨same, succeeded⟩
    · exact honest.delivered n before
    · rw [same]
      exact holds succeeded
  · exact honest

theorem Honest.relayFetch (honest : Honest state) (answered : Bool) : Honest (relayFetchStep state answered) := by
  unfold relayFetchStep
  split
  · refine { honest with relay := ?_ }
    cases answered with
    | false => trivial
    | true =>
        intro row member
        exact AuditTable.mem_ordered.mp (List.mem_of_mem_filter (List.mem_of_mem_take member))
  · exact honest

theorem Honest.relayPublish (honest : Honest state) (outcome : PublishOutcome) :
    Honest (relayPublishStep state outcome) := by
  unfold relayPublishStep
  split
  · exact { honest with relay := trivial }
  · rename_i row rest standing
    have holds := honest.relay
    rw [standing] at holds
    have grows := sent_grows state.published outcome row
    exact
      { ingests := fun other member => (honest.ingests other member).mono (fun _ listed => listed) grows
        relay := ⟨holds row List.mem_cons_self, sent_of_success state.published row,
          fun other member => holds other (List.mem_cons_of_mem _ member)⟩
        delivered := fun n marked => (honest.delivered n marked).mono (fun _ listed => listed) grows }
  · exact honest

theorem Honest.relayRecord (honest : Honest state) (link : Link) : Honest (relayRecordStep state link) := by
  unfold relayRecordStep
  split
  · rename_i row ok error rest standing
    have holds := honest.relay
    rw [standing] at holds
    have marks := recordDelivery_marks state.table row.eventSeq ok error state.deliveries
      { store := state.deliveries, link := link } rfl
    have backed : forall after, MarksOnly state.deliveries row.eventSeq ok after ->
        forall n, after.delivered n = true -> Backed state.table state.published n := by
      intro after marks n marked
      rcases marks n marked with before | ⟨same, succeeded⟩
      · exact honest.delivered n before
      · rw [same]
        exact ⟨row, holds.1, rfl, holds.2.1 succeeded⟩
    split
    · rename_i after ran
      rw [ran] at marks
      exact { honest with relay := holds.2.2, delivered := backed _ marks }
    · rename_i failure after ran
      rw [ran] at marks
      exact { honest with relay := trivial, delivered := backed _ marks }
  · exact honest

/-- A step that meets the condition keeps the service honest. -/
theorem Honest.step (state : ServiceState Data Hash) (action : ServiceAction Data) (honest : Honest state)
    (condition : FetchesOwnRow state action) : Honest (serviceStep digest redactData state action) := by
  cases action with
  | ingest request uuid4 clock link => exact honest.ingest request uuid4 clock link
  | fetch task answered => exact honest.fetch task answered condition
  | publish task outcome => exact honest.publish task outcome
  | record task link => exact honest.record task link
  | relayFetch answered => exact honest.relayFetch answered
  | relayPublish outcome => exact honest.relayPublish outcome
  | relayRecord link => exact honest.relayRecord link
  | restart =>
      exact { ingests := fun _ absent => absurd absent List.not_mem_nil, relay := trivial, delivered := honest.delivered }

end Steps

theorem Honest.initial : Honest (ServiceState.initial : ServiceState Data Hash) where
  ingests := fun _ absent => absurd absent List.not_mem_nil
  relay := trivial
  delivered := fun _ marked => absurd marked Bool.false_ne_true

/-- In every run in which each handler that fetches is one whose own row is the
newest of those it asks for, an event is recorded as delivered only when its row
has been published, and a stored row that has not been published stays among the
unpublished ones. -/
theorem delivered_only_if_published (digest : Digest Data Serialized Hash) (redactData : Data -> Data)
    (actions : List (ServiceAction Data))
    (guarded : Run.Guarded (serviceStep digest redactData) FetchesOwnRow ServiceState.initial actions) :
    let state := actions.foldl (serviceStep digest redactData) ServiceState.initial
    (forall n, state.deliveries.delivered n = true -> Backed state.table state.published n) ∧
    (forall row, row ∈ state.table.rows -> row ∉ state.published ->
      row ∈ unpublished state.table state.deliveries) := by
  intro state
  have honest : Honest state := Run.Guarded.invariant Honest.step guarded Honest.initial
  refine ⟨honest.delivered, ?_⟩
  intro row member notPublished
  rw [unpublished, List.mem_filter]
  refine ⟨AuditTable.mem_ordered.mpr member, ?_⟩
  rw [Bool.not_eq_true', Bool.eq_false_iff]
  intro marked
  rcases honest.delivered row.eventSeq marked with ⟨other, otherMember, same, passed⟩
  have identical : other = row := List.inj_on_of_nodup_map state.table.primaryKey otherMember member same
  exact notPublished (identical ▸ passed)

/-- A client that uses the event identifier as the request identifier as well. -/
def ownRequestRun : List (ServiceAction Text) :=
  [.ingest (sampleRequest 1 (some (Uuid.str { value := 1 }))) { value := 7 } sampleClock .steady,
    .fetch 0 true, .publish 0 none, .record 0 .steady]

theorem delivered_only_if_published_own_request :
    let state := ownRequestRun.foldl (serviceStep historyDigest id) ServiceState.initial
    state.deliveries.delivered 1 = true ∧ Backed state.table state.published 1 := by
  have guarded : Run.Guarded (serviceStep historyDigest id) FetchesOwnRow ServiceState.initial ownRequestRun := by
    refine ⟨trivial, ?_, trivial, trivial, trivial⟩
    intro record appended
    cases appended
    unfold OwnRowNewest
    decide
  have marked : (ownRequestRun.foldl (serviceStep historyDigest id) ServiceState.initial).deliveries.delivered 1 = true := by
    decide
  exact ⟨marked, (delivered_only_if_published historyDigest id ownRequestRun guarded).1 1 marked⟩

/-- Another client names the first event's identifier as its request identifier
before the first handler fetches. -/
def borrowedRequestRun : List (ServiceAction Text) :=
  [.ingest (sampleRequest 1 none) { value := 7 } sampleClock .steady,
    .ingest (sampleRequest 2 (some (Uuid.str { value := 1 }))) { value := 7 } sampleClock .steady,
    .fetch 0 true, .publish 0 none, .record 0 .steady]

/-- The second event is published, and the first is recorded as delivered. -/
theorem borrowed_request_id_loses_event :
    ¬ forall actions : List (ServiceAction Text),
      let state := actions.foldl (serviceStep historyDigest id) ServiceState.initial
      forall n, state.deliveries.delivered n = true -> Backed state.table state.published n := by
  intro always
  rcases always borrowedRequestRun 1 (by decide) with ⟨row, -, numbered, passed⟩
  have others : forall row, row ∈ (borrowedRequestRun.foldl (serviceStep historyDigest id)
      ServiceState.initial).published -> row.eventSeq ≠ 1 := by decide
  exact others row passed numbered

end Audit
end ApexQuant
