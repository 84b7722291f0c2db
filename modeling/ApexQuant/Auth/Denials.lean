import ApexQuant.Auth.Store
import ApexQuant.Foundation.Separators
import ApexQuant.Foundation.SlidingWindow

namespace ApexQuant
namespace Auth

open Foundation

/-!
# The stream of denials

`log_denial` writes one row, counts those of the same subject in the last second and, when
there are more than fifty, writes an alert.  All of it is one transaction, whose clock
stands in the row and ends the second.
-/

/-- A moment in microseconds, as `timestamptz` has it. -/
abbrev Moment := Int

/-- `interval '1 second'` -/
def oneSecond : Moment := 1000000

/-- `DENIAL_RATE_LIMIT_PER_SEC` -/
def DENIAL_RATE_LIMIT_PER_SEC : Nat := 50

/-- A row of `auth.rbac_denials`. -/
structure Denial where
  occurredAt : Moment
  principalId : Option Id
  subjectName : Option Text
  permission : Text
  reason : Text
  requestId : Option Text
  deriving DecidableEq

/-- A row of `auth.rbac_alerts`. -/
structure RbacAlert where
  severity : Text
  category : Text
  detail : Text
  deriving DecidableEq

structure DenialStream where
  denials : List Denial
  alerts : List RbacAlert

/-- What `log_denial` is called with, the clock of the transaction and whether it reaches
its commit. -/
structure DenialCall where
  principalId : Option Id
  subjectName : Option Text
  permission : Text
  reason : Text
  requestId : Option Text
  now : Moment
  commits : Bool
  deriving DecidableEq

namespace DenialCall

def sendable (call : DenialCall) : Bool :=
  call.subjectName.all Text.sendable && Text.sendable call.permission && Text.sendable call.reason &&
    call.requestId.all Text.sendable

def row (call : DenialCall) : Denial where
  occurredAt := call.now
  principalId := call.principalId
  subjectName := call.subjectName
  permission := call.permission
  reason := call.reason
  requestId := call.requestId

end DenialCall

/-- The condition of the `COUNT`: `NULL` equals nothing. -/
def Denial.counts (subjectName : Option Text) (now : Moment) (denial : Denial) : Bool :=
  (match subjectName, denial.subjectName with
    | some wanted, some name => decide (name = wanted)
    | _, _ => false) &&
    decide (now - oneSecond < denial.occurredAt)

/-- `f"subject={subject_name} denial_rate={rate}/s"` -/
def denialRate (subjectName : Option Text) (rate : Nat) : Text :=
  "subject=".toList ++ subjectName.getD "None".toList ++ " denial_rate=".toList ++ (toString rate).toList ++ "/s".toList

/-- `log_denial` -/
def logDenial (call : DenialCall) (stream : DenialStream) : Except AuthError (Bool × DenialStream) :=
  if !call.sendable then .error .nulByte
  else
    let denials := stream.denials ++ [call.row]
    let rate := denials.countP (Denial.counts call.subjectName call.now)
    let anomaly := decide (DENIAL_RATE_LIMIT_PER_SEC < rate)
    .ok (anomaly,
      { denials := denials
        alerts :=
          if anomaly then
            stream.alerts ++
              [{ severity := "CRITICAL".toList
                 category := "DENIAL_RATE_ANOMALY".toList
                 detail := denialRate call.subjectName rate }]
          else stream.alerts })

namespace DenialStream

def empty : DenialStream where
  denials := []
  alerts := []

/-- What the tables hold after a call. -/
def step (stream : DenialStream) (call : DenialCall) : DenialStream :=
  match logDenial call stream with
  | .ok (_, after) => if call.commits then after else stream
  | .error _ => stream

def after (calls : List DenialCall) : DenialStream :=
  calls.foldl step empty

end DenialStream

/-- The moments of the denials of a subject that were kept. -/
def denied (subject : Text) (calls : List DenialCall) : List Moment :=
  (calls.filter fun call => call.commits && call.sendable && decide (call.subjectName = some subject)).map DenialCall.now

/-- There is an alert about the rate of a subject. -/
def DenialStream.Alerted (stream : DenialStream) (subject : Text) : Prop :=
  Exists fun alert => Exists fun rate => alert ∈ stream.alerts ∧ alert.detail = denialRate (some subject) rate

/-! ## What the alert says -/

theorem equals_not_mem_rate (rate : Nat) : '=' ∉ (toString rate).toList ++ "/s".toList := by
  intro member
  rcases List.mem_append.mp member with digit | fixed
  · rw [Nat.toString_eq_repr, Nat.toList_repr] at digit
    exact absurd (Nat.isDigit_of_mem_toDigits (by decide) (by decide) digit) (by decide)
  · exact absurd fixed (by decide)

theorem denialRate_some (subject : Text) (rate : Nat) :
    denialRate (some subject) rate =
      ("subject=".toList ++ (subject ++ " denial_rate".toList)) ++ '=' :: ((toString rate).toList ++ "/s".toList) := by
  have literal : " denial_rate=".toList = " denial_rate".toList ++ ['='] := by decide
  unfold denialRate
  rw [literal]
  generalize "subject=".toList = opening
  generalize " denial_rate".toList = label
  generalize "/s".toList = unit
  simp

/-- The detail of an alert names its subject, whatever the name looks like. -/
theorem subject_of_denialRate {subject subject' : Text} {rate rate' : Nat}
    (same : denialRate (some subject) rate = denialRate (some subject') rate') : subject = subject' := by
  rw [denialRate_some, denialRate_some] at same
  have solid := equals_not_mem_rate rate
  have solid' := equals_not_mem_rate rate'
  generalize (toString rate).toList ++ "/s".toList = tail at same solid
  generalize (toString rate').toList ++ "/s".toList = tail' at same solid'
  generalize "subject=".toList = opening at same
  generalize " denial_rate".toList = label at same
  rcases Separated.split_cases same with ⟨names, -⟩ | ⟨between, -, rfl⟩ | ⟨between, -, rfl⟩
  · exact List.append_cancel_right (List.append_cancel_left names)
  · exact absurd (List.mem_append_right _ List.mem_cons_self) solid'
  · exact absurd (List.mem_append_right _ List.mem_cons_self) solid

/-! ## One call -/

theorem step_of_not_kept {stream : DenialStream} {call : DenialCall} (lost : (call.commits && call.sendable) = false) :
    stream.step call = stream := by
  unfold DenialStream.step logDenial
  cases sendable : call.sendable with
  | false => rfl
  | true =>
      rw [sendable, Bool.and_true] at lost
      simp [lost]

/-- How many denials of the subject the call counts. -/
def DenialStream.rate (stream : DenialStream) (call : DenialCall) : Nat :=
  (stream.denials ++ [call.row]).countP (Denial.counts call.subjectName call.now)

theorem step_of_kept {stream : DenialStream} {call : DenialCall} (kept : (call.commits && call.sendable) = true) :
    stream.step call =
      { denials := stream.denials ++ [call.row]
        alerts :=
          if DENIAL_RATE_LIMIT_PER_SEC < stream.rate call then
            stream.alerts ++
              [{ severity := "CRITICAL".toList
                 category := "DENIAL_RATE_ANOMALY".toList
                 detail := denialRate call.subjectName (stream.rate call) }]
          else stream.alerts } := by
  rcases Bool.and_eq_true_iff.mp kept with ⟨commits, sendable⟩
  simp [DenialStream.step, logDenial, commits, sendable, DenialStream.rate]

/-- A denial without a subject is never counted. -/
theorem rate_of_none {stream : DenialStream} {call : DenialCall} (unnamed : call.subjectName = none) :
    stream.rate call = 0 := by
  rw [DenialStream.rate, List.countP_eq_zero, unnamed]
  intro row member
  simp [Denial.counts]

theorem alerted_step_of_kept {stream : DenialStream} {call : DenialCall} {subject : Text}
    (kept : (call.commits && call.sendable) = true) :
    (stream.step call).Alerted subject <->
      stream.Alerted subject ∨ (call.subjectName = some subject ∧ DENIAL_RATE_LIMIT_PER_SEC < stream.rate call) := by
  rw [step_of_kept kept, DenialStream.Alerted, DenialStream.Alerted]
  by_cases many : DENIAL_RATE_LIMIT_PER_SEC < stream.rate call
  case neg => simp [many]
  simp only [many, if_true, and_true, List.mem_append, List.mem_singleton]
  constructor
  · rintro ⟨alert, rate, old | rfl, detail⟩
    · exact Or.inl ⟨alert, rate, old, detail⟩
    · right
      cases named : call.subjectName with
      | none =>
          rw [rate_of_none named] at many
          cases many
      | some name =>
          rw [named] at detail
          rw [subject_of_denialRate detail]
  · rintro (⟨alert, rate, old, detail⟩ | named)
    · exact ⟨alert, rate, Or.inl old, detail⟩
    · exact ⟨_, stream.rate call, Or.inr rfl, by rw [named]⟩

/-! ## Histories -/

theorem denied_concat (subject : Text) (calls : List DenialCall) (last : DenialCall) :
    denied subject (calls ++ [last]) =
      denied subject calls ++
        if (last.commits && last.sendable && decide (last.subjectName = some subject)) = true then [last.now] else [] := by
  unfold denied
  rw [List.filter_append, List.map_append, List.filter_singleton]
  cases last.commits && last.sendable && decide (last.subjectName = some subject) <;> rfl

theorem after_concat (calls : List DenialCall) (last : DenialCall) :
    DenialStream.after (calls ++ [last]) = (DenialStream.after calls).step last := by
  simp [DenialStream.after]

/-- The rows of a subject after a history are its denials that were kept. -/
theorem countP_after (calls : List DenialCall) (subject : Text) (now : Moment) :
    (DenialStream.after calls).denials.countP (Denial.counts (some subject) now) =
      (denied subject calls).countP fun moment => decide (now - oneSecond < moment) := by
  induction calls using List.reverseRecOn with
  | nil => rfl
  | append_singleton calls last ih =>
      rw [after_concat, denied_concat, List.countP_append]
      cases kept : last.commits && last.sendable with
      | false => simp [step_of_not_kept kept, ih]
      | true =>
          rw [step_of_kept kept]
          simp only [List.countP_append, ih, Bool.true_and, decide_eq_true_eq]
          congr 1
          cases named : last.subjectName with
          | none => simp [Denial.counts, DenialCall.row, named]
          | some name =>
              by_cases same : name = subject
              · simp [Denial.counts, DenialCall.row, named, same]
              · simp [Denial.counts, DenialCall.row, named, same]

theorem ordered_denied {calls : List DenialCall} (ordered : calls.Pairwise fun earlier later => earlier.now ≤ later.now)
    (subject : Text) : (denied subject calls).Pairwise fun earlier later => earlier ≤ later :=
  List.pairwise_map.mpr (ordered.sublist List.filter_sublist)

/-- While the clock of the database does not go back, there is an alert about a subject
exactly when some fifty-one of its denials in a row lie within one second: what other
subjects do, and what is refused or lost, never hides one and never makes one. -/
theorem alerted_iff_burst (calls : List DenialCall)
    (ordered : calls.Pairwise fun earlier later => earlier.now ≤ later.now) (subject : Text) :
    (DenialStream.after calls).Alerted subject <->
      SlidingWindow.Burst DENIAL_RATE_LIMIT_PER_SEC oneSecond (denied subject calls) := by
  induction calls using List.reverseRecOn with
  | nil =>
      refine ⟨?_, fun burst => absurd burst (SlidingWindow.not_burst_nil _ _)⟩
      rintro ⟨alert, rate, member, -⟩
      cases member
  | append_singleton calls last ih =>
      have earlier := ih (List.pairwise_append.mp ordered).1
      have ordered' := ordered_denied ordered subject
      rw [after_concat]
      rw [denied_concat] at ordered' ⊢
      cases kept : last.commits && last.sendable with
      | false => simp [step_of_not_kept kept, earlier]
      | true =>
          rw [alerted_step_of_kept kept, earlier]
          by_cases named : last.subjectName = some subject
          · rw [kept, decide_eq_true named, Bool.and_self, if_pos rfl] at ordered'
            rw [decide_eq_true named, Bool.and_self, if_pos rfl]
            rw [SlidingWindow.burst_concat ordered']
            have counted : (DenialStream.after calls).rate last =
                (denied subject calls ++ [last.now]).countP fun moment => decide (last.now - oneSecond < moment) := by
              have rows := countP_after (calls ++ [last]) subject last.now
              rw [after_concat, step_of_kept kept, denied_concat, kept, decide_eq_true named, Bool.and_self,
                if_pos rfl] at rows
              rw [DenialStream.rate, named]
              exact rows
            rw [counted]
            simp [named]
          · simp [named]

/-- Fifty-one denials at one moment raise the alert. -/
theorem alerted_of_flood :
    (DenialStream.after (List.replicate 51
      { principalId := none, subjectName := some "svc".toList, permission := "a:b".toList, reason := "r".toList,
        requestId := none, now := 0, commits := true })).Alerted "svc".toList := by
  refine (alerted_iff_burst _ (List.pairwise_replicate.mpr (Or.inr (le_refl 0))) _).mpr ⟨0, 0, 0, ?_, ?_, by decide⟩
  · decide
  · decide

end Auth
end ApexQuant
