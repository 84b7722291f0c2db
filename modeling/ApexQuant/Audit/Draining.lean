import ApexQuant.Audit.Delivery
import ApexQuant.Foundation.Retrying

namespace ApexQuant
namespace Audit

open Foundation
open Foundation.Database

/-!
# Draining the backlog

`relay_loop` takes the hundred oldest rows that are not delivered and publishes them
one after the other.  A row that the broker refuses is taken again on the next pass,
in the same place.  While the database answers and no handler is at work, a pass is
one look at a queue of retried entries, with a window of a hundred.

The handlers do not disturb a pass.  They only add rows and mark rows as delivered.
-/

variable {Data Serialized Hash : Type}

/-- The broker's answer to each row. -/
abbrev Broker (Data Hash : Type) := EventRow Data Hash -> PublishOutcome

def Broker.accepts (broker : Broker Data Hash) (row : EventRow Data Hash) : Bool :=
  (broker row).isNone

/-- The steps of the loop over a batch, while the database answers. -/
def passOver (broker : Broker Data Hash) (rows : List (EventRow Data Hash)) : List (ServiceAction Data) :=
  rows.flatMap (fun row => [.relayPublish (broker row), .relayRecord .steady]) ++ [.relayPublish none]

/-- One turn of the loop. -/
def relayPass (digest : Digest Data Serialized Hash) (redactData : Data -> Data) (broker : Broker Data Hash)
    (state : ServiceState Data Hash) : ServiceState Data Hash :=
  (.relayFetch true :: passOver broker (fetchUnpublished 100 state.table state.deliveries)).foldl
    (serviceStep digest redactData) state

/-! ## Recording -/

theorem recordDelivery_steady {table : AuditTable Data Hash} {eventSeq : Int}
    (stored : eventSeq ∈ table.rows.map EventRow.eventSeq) (success : Bool) (error : Option String)
    (deliveries : DeliveryTable) :
    recordDelivery table eventSeq success error { store := deliveries, link := .steady } =
      .ok () { store := (upsertDelivery table eventSeq success error deliveries).2, link := .steady } := by
  simp only [recordDelivery, transaction, statement, upsertDelivery, Link.next, if_pos stored]

/-- A recorded row is delivered when the publication succeeded, or was before. -/
theorem delivered_upsertDelivery {table : AuditTable Data Hash} {eventSeq : Int}
    (stored : eventSeq ∈ table.rows.map EventRow.eventSeq) (success : Bool) (error : Option String)
    (deliveries : DeliveryTable) (n : Int) :
    DeliveryTable.delivered (upsertDelivery table eventSeq success error deliveries).2 n =
      (deliveries.delivered n || (decide (eventSeq = n) && success)) := by
  rw [upsertDelivery, if_pos stored]
  by_cases same : n = eventSeq
  · subst same
    cases old : deliveries n with
    | none => simp [DeliveryTable.delivered, Delivery.after, old]
    | some delivery => simp [DeliveryTable.delivered, Delivery.after, old, Bool.or_comm]
  · simp [DeliveryTable.delivered, same, Ne.symm same]

/-- `record_delivery` never takes a delivery back, whatever becomes of the connection. -/
theorem recordDelivery_keeps (table : AuditTable Data Hash) (eventSeq : Int) (success : Bool) (error : Option String)
    {n : Int} : Triple (fun deliveries => DeliveryTable.delivered deliveries n = true)
      (recordDelivery table eventSeq success error) (fun _ deliveries => deliveries.delivered n = true)
      (fun deliveries => deliveries.delivered n = true) := by
  have upserted : forall deliveries : DeliveryTable, deliveries.delivered n = true ->
      DeliveryTable.delivered (upsertDelivery table eventSeq success error deliveries).2 n = true := by
    intro deliveries marked
    by_cases stored : eventSeq ∈ table.rows.map EventRow.eventSeq
    · rw [delivered_upsertDelivery stored, marked, Bool.true_or]
    · rw [upsertDelivery, if_neg stored]
      exact marked
  refine Triple.transaction (?_ : forall before : DeliveryTable, before.delivered n = true ->
    Triple (fun store => store = before) _ (fun _ after => DeliveryTable.delivered after n = true)
      (fun after => DeliveryTable.delivered after n = true)) ?_ ?_
  · intro before marked
    apply Triple.statement
    · rintro store rfl answer -
      exact upserted _ marked
    · rintro store rfl
      exact marked
    · rintro store rfl
      exact upserted _ marked
  · intro before marked answer after kept
    exact ⟨kept, kept, marked⟩
  · intro before marked after _
    exact marked

/-! ## One pass on its own -/

section Pass

variable (digest : Digest Data Serialized Hash) (redactData : Data -> Data)

/-- What a pass over `rows` does to the service. -/
structure PassedOver (broker : Broker Data Hash) (rows : List (EventRow Data Hash))
    (before after : ServiceState Data Hash) : Prop where
  idle : after.relay = .sleeping
  table : after.table = before.table
  published : after.published = before.published ++ rows.filter broker.accepts
  delivered : forall n, after.deliveries.delivered n =
    (before.deliveries.delivered n || rows.any fun row => decide (row.eventSeq = n) && broker.accepts row)

theorem passOver_passes (broker : Broker Data Hash) (rows : List (EventRow Data Hash))
    {state : ServiceState Data Hash} (standing : state.relay = .batch rows)
    (stored : forall row, row ∈ rows -> row ∈ state.table.rows) :
    PassedOver broker rows state ((passOver broker rows).foldl (serviceStep digest redactData) state) := by
  induction rows generalizing state with
  | nil =>
      have slept : (passOver broker []).foldl (serviceStep digest redactData) state =
          { state with relay := .sleeping } := by
        simp [passOver, serviceStep, relayPublishStep, standing]
      rw [slept]
      exact { idle := rfl, table := rfl, published := by simp, delivered := by simp }
  | cons row rest inductionHypothesis =>
      have numbered : row.eventSeq ∈ state.table.rows.map EventRow.eventSeq :=
        List.mem_map_of_mem (stored row List.mem_cons_self)
      -- the row is published and the answer recorded
      have stepped : (passOver broker (row :: rest)).foldl (serviceStep digest redactData) state =
          (passOver broker rest).foldl (serviceStep digest redactData)
            { state with
              published := if (broker row).isNone then state.published ++ [row] else state.published
              deliveries := (upsertDelivery state.table row.eventSeq (broker row).isNone (broker row) state.deliveries).2
              relay := .batch rest } := by
        simp [passOver, serviceStep, relayPublishStep, relayRecordStep, standing, recordDelivery_steady numbered]
      have passed := @inductionHypothesis
        { state with
          published := if (broker row).isNone then state.published ++ [row] else state.published
          deliveries := (upsertDelivery state.table row.eventSeq (broker row).isNone (broker row) state.deliveries).2
          relay := .batch rest } rfl fun other member => stored other (List.mem_cons_of_mem _ member)
      rw [stepped]
      refine { idle := passed.idle, table := passed.table, published := ?_, delivered := ?_ }
      · rw [passed.published]
        cases answer : (broker row).isNone <;> simp [Broker.accepts, answer]
      · intro n
        rw [passed.delivered, delivered_upsertDelivery numbered, List.any_cons, Bool.or_assoc]
        rfl

theorem unpublished_pairwise (table : AuditTable Data Hash) (deliveries : DeliveryTable) :
    (unpublished table deliveries).Pairwise fun earlier later => earlier.eventSeq < later.eventSeq :=
  (List.pairwise_map.mp table.ordered_increasing).filter _

theorem unpublished_nodup (table : AuditTable Data Hash) (deliveries : DeliveryTable) :
    (unpublished table deliveries).Nodup := by
  refine (unpublished_pairwise table deliveries).imp ?_
  rintro earlier later increasing rfl
  exact lt_irrefl _ increasing

theorem mem_unpublished {table : AuditTable Data Hash} {deliveries : DeliveryTable} {row : EventRow Data Hash} :
    row ∈ unpublished table deliveries <-> row ∈ table.rows ∧ deliveries.delivered row.eventSeq = false := by
  rw [unpublished, List.mem_filter, AuditTable.mem_ordered, Bool.not_eq_true']

theorem fetchUnpublished_hundred (table : AuditTable Data Hash) (deliveries : DeliveryTable) :
    fetchUnpublished 100 table deliveries = (unpublished table deliveries).take 100 :=
  rfl

/-- A pass is one look at the backlog. -/
structure Looked (broker : Broker Data Hash) (before after : ServiceState Data Hash) : Prop where
  idle : after.relay = .sleeping
  table : after.table = before.table
  published : after.published = before.published ++
    Retrying.settled 100 broker.accepts (unpublished before.table before.deliveries)
  backlog : unpublished after.table after.deliveries =
    Retrying.look 100 broker.accepts (unpublished before.table before.deliveries)

theorem relayPass_looks (broker : Broker Data Hash) {state : ServiceState Data Hash}
    (idle : state.relay = .sleeping) : Looked broker state (relayPass digest redactData broker state) := by
  have stored : forall row, row ∈ fetchUnpublished 100 state.table state.deliveries -> row ∈ state.table.rows :=
    fun row member => (mem_unpublished.mp (List.mem_of_mem_take member)).1
  have passed : PassedOver broker (fetchUnpublished 100 state.table state.deliveries)
      { state with relay := .batch (fetchUnpublished 100 state.table state.deliveries) }
      (relayPass digest redactData broker state) := by
    have fetched : relayPass digest redactData broker state =
        (passOver broker (fetchUnpublished 100 state.table state.deliveries)).foldl (serviceStep digest redactData)
          { state with relay := .batch (fetchUnpublished 100 state.table state.deliveries) } := by
      simp [relayPass, serviceStep, relayFetchStep, idle]
    rw [fetched]
    exact passOver_passes digest redactData broker _ rfl stored
  refine { idle := passed.idle, table := passed.table, published := passed.published, backlog := ?_ }
  have delivered := passed.delivered
  rw [fetchUnpublished_hundred] at delivered stored
  have goes : forall row, row ∈ unpublished state.table state.deliveries ->
      ((((unpublished state.table state.deliveries).take 100).any
          fun other => decide (other.eventSeq = row.eventSeq) && broker.accepts other) = true <->
        row ∈ (unpublished state.table state.deliveries).take 100 ∧ broker.accepts row = true) := by
    intro row member
    rw [List.any_eq_true]
    constructor
    · rintro ⟨other, taken, matches'⟩
      rcases Bool.and_eq_true_iff.mp matches' with ⟨same, accepted⟩
      have identical : other = row :=
        List.inj_on_of_nodup_map state.table.primaryKey (stored other taken) (mem_unpublished.mp member).1
          (of_decide_eq_true same)
      rw [← identical]
      exact ⟨taken, accepted⟩
    · rintro ⟨taken, accepted⟩
      exact ⟨row, taken, by rw [decide_eq_true rfl, accepted, Bool.and_self]⟩
  rw [Retrying.look_eq_filter (unpublished_nodup state.table state.deliveries) goes, unpublished, unpublished,
    List.filter_filter, passed.table]
  apply List.filter_congr
  intro row _
  rw [delivered, Bool.not_or, Bool.and_comm]
  rfl

/-! ## Many passes -/

/-- While the database answers and no handler is at work, whatever the broker answers on
each pass, every row that was waiting has been published once or is still waiting.  If
it accepts every row, the rows go out in the order of their numbers, a hundred a pass. -/
theorem relay_loses_and_repeats_nothing (brokers : List (Broker Data Hash)) {state : ServiceState Data Hash}
    (idle : state.relay = .sleeping) :
    let after := brokers.foldl (fun state broker => relayPass digest redactData broker state) state
    Exists fun sent => after.published = state.published ++ sent ∧
      (sent ++ unpublished after.table after.deliveries).Perm (unpublished state.table state.deliveries) ∧
      ((forall broker, broker ∈ brokers -> forall row, broker row = none) ->
        sent = (unpublished state.table state.deliveries).take (100 * brokers.length)) := by
  intro after
  -- a run of passes is a row of looks
  have looked : forall (brokers : List (Broker Data Hash)) (state : ServiceState Data Hash), state.relay = .sleeping ->
      let after := brokers.foldl (fun state broker => relayPass digest redactData broker state) state
      after.published = state.published ++
          Retrying.settledBy 100 (brokers.map Broker.accepts) (unpublished state.table state.deliveries) ∧
        unpublished after.table after.deliveries =
          (brokers.map Broker.accepts).foldl (fun queue settles => Retrying.look 100 settles queue)
            (unpublished state.table state.deliveries) := by
    intro brokers
    induction brokers with
    | nil =>
        intro state idle
        simp [Retrying.settledBy]
    | cons broker later inductionHypothesis =>
        intro state idle
        have pass := relayPass_looks digest redactData broker idle
        have rest := inductionHypothesis (relayPass digest redactData broker state) pass.idle
        rw [pass.published, pass.backlog, List.append_assoc] at rest
        exact rest
  rcases looked brokers state idle with ⟨published, backlog⟩
  refine ⟨_, published, ?_, ?_⟩
  · rw [backlog]
    exact Retrying.settledBy_perm _ _
  · intro accepting
    have all : forall settles, settles ∈ brokers.map Broker.accepts -> forall row, settles row = true := by
      intro settles member row
      rcases List.mem_map.mp member with ⟨broker, listed, rfl⟩
      rw [Broker.accepts, accepting broker listed row, Option.isNone_none]
    rw [Retrying.settledBy_of_all all, List.length_map]

end Pass

/-- Two events, the first of which the broker refuses. -/
def backlogOfTwo : ServiceState Text History :=
  [.ingest (sampleRequest 1 none) { value := 7 } sampleClock .steady,
    .ingest (sampleRequest 2 none) { value := 7 } sampleClock .steady].foldl (serviceStep historyDigest id)
      ServiceState.initial

def refusesFirst : Broker Text History :=
  fun row => if row.eventSeq = 1 then some "refused" else none

theorem nothing_is_lost_of_two :
    Exists fun sent => (relayPass historyDigest id refusesFirst backlogOfTwo).published = sent ∧
      (sent ++ unpublished (relayPass historyDigest id refusesFirst backlogOfTwo).table
        (relayPass historyDigest id refusesFirst backlogOfTwo).deliveries).length = 2 := by
  rcases relay_loses_and_repeats_nothing historyDigest id [refusesFirst] (rfl : backlogOfTwo.relay = .sleeping) with
    ⟨sent, published, kept, -⟩
  exact ⟨sent, published, kept.length_eq.trans (by decide)⟩

section Passes

variable (digest : Digest Data Serialized Hash) (redactData : Data -> Data)

theorem iterate_relayPass (broker : Broker Data Hash) {state : ServiceState Data Hash}
    (idle : state.relay = .sleeping) (passes : Nat) :
    let after := (relayPass digest redactData broker)^[passes] state
    after.relay = .sleeping ∧ after.table = state.table ∧
      unpublished after.table after.deliveries =
        (Retrying.look 100 broker.accepts)^[passes] (unpublished state.table state.deliveries) := by
  induction passes with
  | zero => exact ⟨idle, rfl, rfl⟩
  | succ passes inductionHypothesis =>
      rcases inductionHypothesis with ⟨still, table, backlog⟩
      have pass := relayPass_looks digest redactData broker still
      rw [Function.iterate_succ_apply', Function.iterate_succ_apply']
      exact ⟨pass.idle, pass.table.trans table, pass.backlog.trans (congrArg _ backlog)⟩

/-- Against a broker that always refuses certain rows, a row that it would accept is
delivered in the end exactly when fewer than a hundred refused rows wait before it.  A
hundred of them stop the relay for every row behind. -/
theorem relay_reaches_iff (broker : Broker Data Hash) {state : ServiceState Data Hash}
    (idle : state.relay = .sleeping) {row : EventRow Data Hash}
    (waiting : row ∈ unpublished state.table state.deliveries) (accepted : broker row = none) :
    (Exists fun passes =>
      ((relayPass digest redactData broker)^[passes] state).deliveries.delivered row.eventSeq = true) <->
      ((unpublished state.table state.deliveries).filter fun other =>
        decide (other.eventSeq < row.eventSeq) && (broker other).isSome).length < 100 := by
  have stored := (mem_unpublished.mp waiting).1
  rcases List.eq_append_cons_of_mem waiting with ⟨earlier, later, shape, -⟩
  have distinct := unpublished_nodup state.table state.deliveries
  have sorted := unpublished_pairwise state.table state.deliveries
  rw [shape] at distinct sorted
  have settling : broker.accepts row = true := by
    rw [Broker.accepts, accepted, Option.isNone_none]
  -- the rows before it are those with smaller numbers
  have before : ((earlier ++ row :: later).filter fun other =>
      decide (other.eventSeq < row.eventSeq) && (broker other).isSome).length =
      earlier.countP fun other => !broker.accepts other := by
    rcases List.pairwise_append.mp sorted with ⟨-, behind, across⟩
    rw [List.countP_eq_length_filter, List.filter_append, List.length_append]
    have none : (row :: later).filter (fun other =>
        decide (other.eventSeq < row.eventSeq) && (broker other).isSome) = [] := by
      rw [List.filter_eq_nil_iff]
      intro other member smaller
      have less := of_decide_eq_true (Bool.and_eq_true_iff.mp smaller).1
      rcases List.mem_cons.mp member with same | after
      · rw [same] at less
        exact lt_irrefl _ less
      · exact lt_asymm less ((List.pairwise_cons.mp behind).1 other after)
    rw [none, List.length_nil, Nat.add_zero]
    congr 1
    apply List.filter_congr
    intro other member
    rw [decide_eq_true (across other member row List.mem_cons_self), Bool.true_and, Broker.accepts]
    cases broker other <;> rfl
  rw [shape, before, ← Retrying.reached_iff settling distinct]
  apply exists_congr
  intro passes
  rcases iterate_relayPass digest redactData broker idle passes with ⟨-, table, backlog⟩
  rw [← shape, ← backlog, mem_unpublished, table]
  simp [stored]

end Passes

theorem second_is_reached :
    Exists fun row : EventRow Text History => row.eventSeq = 2 ∧ Exists fun passes =>
      ((relayPass historyDigest id refusesFirst)^[passes] backlogOfTwo).deliveries.delivered row.eventSeq = true := by
  refine ⟨(unpublished backlogOfTwo.table backlogOfTwo.deliveries).get ⟨1, by decide⟩, by decide, ?_⟩
  exact (relay_reaches_iff historyDigest id refusesFirst rfl (List.get_mem _ _) (by decide)).mpr (by decide)

/-! ## A pass among the handlers -/

/-- The steps of the relay's task, and the restart that ends it. -/
def ServiceAction.ofRelay : ServiceAction Data -> Bool
  | .relayFetch _ | .relayPublish _ | .relayRecord _ | .restart => true
  | .ingest .. | .fetch .. | .publish .. | .record .. => false

/-- What a handler leaves to the relay. -/
structure Undisturbed (before after : ServiceState Data Hash) : Prop where
  relay : after.relay = before.relay
  rows : forall row, row ∈ before.table.rows -> row ∈ after.table.rows
  published : forall row, row ∈ before.published -> row ∈ after.published
  delivered : forall n, before.deliveries.delivered n = true -> after.deliveries.delivered n = true

section Interleaved

variable (digest : Digest Data Serialized Hash) (redactData : Data -> Data)

theorem Undisturbed.refl (state : ServiceState Data Hash) : Undisturbed state state where
  relay := rfl
  rows := fun _ member => member
  published := fun _ member => member
  delivered := fun _ marked => marked

theorem handler_leaves_relay (state : ServiceState Data Hash) {action : ServiceAction Data}
    (handler : action.ofRelay = false) : Undisturbed state (serviceStep digest redactData state action) := by
  have unchanged := Undisturbed.refl state
  cases action with
  | relayFetch | relayPublish | relayRecord | restart => cases handler
  | ingest request uuid4 clock link =>
      rw [serviceStep, ingestStep]
      split
      · exact unchanged
      · rename_i fields _
        have grows : forall row, row ∈ state.table.rows ->
            row ∈ (appendStep digest state.table { fields := fields, link := link }).rows :=
          fun row member => appendStep_keeps_rows digest state.table _ member
        rw [appendStep, finalStore] at grows
        split
        · rename_i ran
          rw [ran] at grows
          exact { unchanged with rows := grows }
        · rename_i ran
          rw [ran] at grows
          exact { unchanged with rows := grows }
  | fetch task answered =>
      rw [serviceStep, fetchStep]
      split
      · dsimp only
        split
        · exact { unchanged with }
        · exact { unchanged with }
      · exact unchanged
  | publish task outcome =>
      rw [serviceStep, publishStep]
      split
      · exact { unchanged with published := fun other sent => sent_grows state.published outcome _ other sent }
      · exact unchanged
  | record task link =>
      rw [serviceStep, recordStep]
      split
      · rename_i record ok error _
        refine { unchanged with delivered := ?_ }
        intro n marked
        exact Triple.finalStore (recordDelivery_keeps state.table record.eventSeq ok error) (fun _ _ kept => kept)
          (fun _ kept => kept) marked
      · exact unchanged

/-- The row is known to be sent: it has been published and is recorded as delivered. -/
def Sent (state : ServiceState Data Hash) (row : EventRow Data Hash) : Prop :=
  row ∈ state.published ∧ state.deliveries.delivered row.eventSeq = true

theorem Undisturbed.sent {before after : ServiceState Data Hash} (undisturbed : Undisturbed before after)
    {row : EventRow Data Hash} (sent : Sent before row) : Sent after row :=
  ⟨undisturbed.published row sent.1, undisturbed.delivered _ sent.2⟩

/-- The steps of the loop over at most `most` rows that the broker accepts. -/
def acceptingPass (most : Nat) : List (ServiceAction Data) :=
  (List.replicate most [.relayPublish none, .relayRecord .steady]).flatten ++ [.relayPublish none]

theorem acceptingPass_succ (most : Nat) :
    (acceptingPass (most + 1) : List (ServiceAction Data)) =
      .relayPublish none :: .relayRecord .steady :: acceptingPass most := by
  simp [acceptingPass, List.replicate_succ]

/-- Where a pass stands when the relay has these steps left: every row of the batch is
sent, or is still in the relay's hands, which has steps enough for it. -/
def PassStands (front : List (EventRow Data Hash)) (left : List (ServiceAction Data)) (state : ServiceState Data Hash) :
    Prop :=
  match state.relay with
  | .sleeping => (Exists fun most => left <:+ acceptingPass most) ∧ forall row, row ∈ front -> Sent state row
  | .batch rows => (Exists fun most => left = acceptingPass most ∧ rows.length ≤ most) ∧
      (forall row, row ∈ rows -> row ∈ state.table.rows) ∧
      forall row, row ∈ front -> Sent state row ∨ row ∈ rows
  | .sent row ok _ rest => (Exists fun most => left = .relayRecord .steady :: acceptingPass most ∧ rest.length ≤ most) ∧
      ok = true ∧ row ∈ state.published ∧ row ∈ state.table.rows ∧
      (forall other, other ∈ rest -> other ∈ state.table.rows) ∧
      forall other, other ∈ front -> Sent state other ∨ other = row ∨ other ∈ rest
  | .stopped => False

theorem PassStands.others (front : List (EventRow Data Hash)) (left : List (ServiceAction Data))
    (state : ServiceState Data Hash) (action : ServiceAction Data) (handler : action.ofRelay = false)
    (stands : PassStands front left state) : PassStands front left (serviceStep digest redactData state action) := by
  have leaves := handler_leaves_relay digest redactData state handler
  rw [PassStands] at stands ⊢
  rw [leaves.relay]
  cases standing : state.relay with
  | sleeping =>
      rw [standing] at stands
      exact ⟨stands.1, fun row member => leaves.sent (stands.2 row member)⟩
  | batch rows =>
      rw [standing] at stands
      rcases stands with ⟨enough, stored, pending⟩
      exact ⟨enough, fun row member => leaves.rows row (stored row member),
        fun row member => (pending row member).imp_left leaves.sent⟩
  | sent row ok error rest =>
      rw [standing] at stands
      rcases stands with ⟨enough, succeeded, published, stored, behind, pending⟩
      exact ⟨enough, succeeded, leaves.published row published, leaves.rows row stored,
        fun other member => leaves.rows other (behind other member),
        fun other member => (pending other member).imp_left leaves.sent⟩
  | stopped =>
      rw [standing] at stands
      exact stands

/-- What is left of a pass begins with a publication or with a record. -/
theorem tail_of_suffix {action : ServiceAction Data} {left : List (ServiceAction Data)} {most : Nat}
    (ends : action :: left <:+ acceptingPass most) :
    (action = .relayPublish none ∨ action = .relayRecord .steady) ∧ left <:+ acceptingPass most := by
  have member : action ∈ (acceptingPass most : List (ServiceAction Data)) := ends.subset List.mem_cons_self
  refine ⟨?_, (List.suffix_cons action left).trans ends⟩
  simp only [acceptingPass, List.mem_append, List.mem_flatten, List.mem_replicate] at member
  rcases member with ⟨pair, ⟨-, rfl⟩, listed⟩ | last
  · simpa using listed
  · exact Or.inl (List.mem_singleton.mp last)

theorem PassStands.mine (front : List (EventRow Data Hash)) (action : ServiceAction Data)
    (left : List (ServiceAction Data)) (state : ServiceState Data Hash)
    (stands : PassStands front (action :: left) state) :
    PassStands front left (serviceStep digest redactData state action) := by
  rw [PassStands] at stands
  cases standing : state.relay with
  | sleeping =>
      rw [standing] at stands
      rcases stands with ⟨⟨most, ends⟩, sent⟩
      rcases tail_of_suffix ends with ⟨rfl | rfl, rest⟩
      · simp only [serviceStep, relayPublishStep, standing, PassStands]
        exact ⟨⟨most, rest⟩, sent⟩
      · simp only [serviceStep, relayRecordStep, standing, PassStands]
        exact ⟨⟨most, rest⟩, sent⟩
  | batch rows =>
      rw [standing] at stands
      rcases stands with ⟨⟨most, same, enough⟩, stored, pending⟩
      cases rows with
      | nil =>
          -- the loop over the batch is over
          have publishes : action = .relayPublish none := by
            cases most with
            | zero => exact (List.cons_eq_cons.mp same).1
            | succ most =>
                rw [acceptingPass_succ] at same
                exact (List.cons_eq_cons.mp same).1
          subst publishes
          simp only [serviceStep, relayPublishStep, standing, PassStands]
          refine ⟨⟨most, same ▸ List.suffix_cons _ _⟩, ?_⟩
          intro row member
          exact (pending row member).resolve_right List.not_mem_nil
      | cons row rest =>
          cases most with
          | zero => exact absurd enough (by simp)
          | succ most =>
              rw [acceptingPass_succ] at same
              rcases List.cons_eq_cons.mp same with ⟨rfl, rfl⟩
              simp only [serviceStep, relayPublishStep, standing, PassStands, Option.isNone_none, if_true]
              refine ⟨⟨most, rfl, by simpa using enough⟩, trivial, List.mem_append_right _ List.mem_cons_self,
                stored row List.mem_cons_self, fun other member => stored other (List.mem_cons_of_mem _ member), ?_⟩
              intro other member
              rcases pending other member with sent | waiting
              · exact Or.inl ⟨List.mem_append_left _ sent.1, sent.2⟩
              · exact Or.inr (List.mem_cons.mp waiting)
  | sent row ok error rest =>
      rw [standing] at stands
      rcases stands with ⟨⟨most, same, enough⟩, succeeded, published, stored, behind, pending⟩
      rcases List.cons_eq_cons.mp same with ⟨rfl, rfl⟩
      have numbered : row.eventSeq ∈ state.table.rows.map EventRow.eventSeq := List.mem_map_of_mem stored
      subst succeeded
      simp only [serviceStep, relayRecordStep, standing, recordDelivery_steady numbered, PassStands]
      refine ⟨⟨most, rfl, enough⟩, behind, ?_⟩
      intro other member
      rcases pending other member with sent | rfl | waiting
      · refine Or.inl ⟨sent.1, ?_⟩
        rw [delivered_upsertDelivery numbered, sent.2, Bool.true_or]
      · refine Or.inl ⟨published, ?_⟩
        simp [delivered_upsertDelivery numbered]
      · exact Or.inr waiting
  | stopped =>
      rw [standing] at stands
      exact stands.elim

/-- A pass without a fault sends every row that it has fetched, however the steps of the
handlers stand between its own: each of the hundred oldest undelivered rows is published
and recorded as delivered when the relay sleeps again. -/
theorem relay_pass_among_handlers {state : ServiceState Data Hash} (idle : state.relay = .sleeping)
    {actions : List (ServiceAction Data)} (pass : actions.filter ServiceAction.ofRelay = acceptingPass 100) :
    let after := (.relayFetch true :: actions).foldl (serviceStep digest redactData) state
    after.relay = .sleeping ∧
      forall row, row ∈ fetchUnpublished 100 state.table state.deliveries ->
        row ∈ after.published ∧ after.deliveries.delivered row.eventSeq = true := by
  intro after
  have fetched : PassStands (fetchUnpublished 100 state.table state.deliveries)
      (actions.filter ServiceAction.ofRelay) (serviceStep digest redactData state (.relayFetch true)) := by
    simp only [serviceStep, relayFetchStep, idle, if_true, PassStands]
    refine ⟨⟨100, pass, List.length_take_le _ _⟩, ?_, fun row member => Or.inr member⟩
    exact fun row member => (mem_unpublished.mp (List.mem_of_mem_take member)).1
  have stands : PassStands (fetchUnpublished 100 state.table state.deliveries) []
      (actions.foldl (serviceStep digest redactData) (serviceStep digest redactData state (.relayFetch true))) :=
    Run.among_others (PassStands.others digest redactData _) (fun action left state _ =>
      PassStands.mine digest redactData _ action left state) fetched
  change PassStands _ [] after at stands
  rw [PassStands] at stands
  cases standing : after.relay with
  | sleeping =>
      rw [standing] at stands
      exact ⟨rfl, stands.2⟩
  | batch rows =>
      rw [standing] at stands
      rcases stands with ⟨⟨most, same, -⟩, -⟩
      simp [acceptingPass] at same
  | sent row ok error rest =>
      rw [standing] at stands
      rcases stands with ⟨⟨most, same, -⟩, -⟩
      cases same
  | stopped =>
      rw [standing] at stands
      exact stands.elim

end Interleaved

theorem filter_acceptingPass (most : Nat) :
    (acceptingPass most : List (ServiceAction Data)).filter ServiceAction.ofRelay = acceptingPass most := by
  induction most with
  | zero => rfl
  | succ most inductionHypothesis =>
      rw [acceptingPass_succ, List.filter_cons_of_pos rfl, List.filter_cons_of_pos rfl, inductionHypothesis]

theorem both_are_sent_among_handlers :
    let after := (.relayFetch true :: .ingest (sampleRequest 3 none) { value := 7 } sampleClock .steady ::
      acceptingPass 100).foldl (serviceStep historyDigest id) backlogOfTwo
    after.relay = .sleeping ∧
      forall row, row ∈ fetchUnpublished 100 backlogOfTwo.table backlogOfTwo.deliveries ->
        row ∈ after.published ∧ after.deliveries.delivered row.eventSeq = true :=
  relay_pass_among_handlers historyDigest id rfl (filter_acceptingPass 100)

end Audit
end ApexQuant
