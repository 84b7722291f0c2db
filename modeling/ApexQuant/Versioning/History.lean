import ApexQuant.Versioning.Operations
import ApexQuant.Versioning.Spelling

namespace ApexQuant
namespace Versioning

open Foundation

/-!
# The life of a version

Along every sequence of calls a version moves from one status to the next, and each
move leaves its date and its event.  The key of a version belongs to no other name and
text, because neither contains a colon.
-/

/-- The types of the events of a version, the oldest first. -/
def InMemoryRepository.eventTypes (repository : InMemoryRepository) (versionId : Text) : List EventType :=
  (repository.events.filter fun event => decide (event.versionId = versionId)).map EventRecord.eventType

/-- The event that a call leaves for a version. -/
def VersioningCall.effectOn (serviceName version : Text) (call : VersioningCall) : Option EventType :=
  call.effect.bind fun effect => if effect.1 = (serviceName, version) then some effect.2 else none

/-- The events that calls leave for a version. -/
def effectsOn (serviceName version : Text) (calls : List VersioningCall) : List EventType :=
  calls.filterMap (VersioningCall.effectOn serviceName version)

/-! ## Keys -/

theorem colon_not_mem_serviceName {serviceName : Text} (named : isServiceName serviceName = true) :
    ':' ∉ serviceName := by
  intro member
  unfold isServiceName at named
  simp only [Bool.and_eq_true] at named
  exact absurd (List.all_eq_true.mp named.1.1.1 ':' member) (by decide)

/-- The key of a name and a version without colons is the key of no others. -/
theorem versionKey_inj {serviceName version serviceName' version' : Text}
    (same : versionKey serviceName version = versionKey serviceName' version') (named : ':' ∉ serviceName')
    (spelled : ':' ∉ version') : serviceName = serviceName' ∧ version = version' := by
  unfold versionKey at same
  rcases List.append_eq_append_iff.mp same with ⟨between, whole, rest⟩ | ⟨between, whole, rest⟩
  · cases between with
    | nil =>
        rw [List.append_nil] at whole
        exact ⟨whole.symm, (List.cons.inj rest).2⟩
    | cons c between =>
        rw [← (List.cons.inj rest).1] at whole
        rw [whole] at named
        exact absurd (List.mem_append_right _ List.mem_cons_self) named
  · cases between with
    | nil =>
        rw [List.append_nil] at whole
        exact ⟨whole, (List.cons.inj rest).2.symm⟩
    | cons c between =>
        rw [(List.cons.inj rest).2] at spelled
        exact absurd (List.mem_append_right _ List.mem_cons_self) spelled

/-! ## The events of a call -/

theorem effectsOn_concat (serviceName version : Text) (calls : List VersioningCall) (call : VersioningCall) :
    effectsOn serviceName version (calls ++ [call]) =
      effectsOn serviceName version calls ++ (call.effectOn serviceName version).toList := by
  unfold effectsOn
  rw [List.filterMap_append]
  cases effect : call.effectOn serviceName version with
  | none => rw [List.filterMap_cons_none effect]; rfl
  | some eventType => rw [List.filterMap_cons_some effect]; rfl

theorem effectOn_self {call : VersioningCall} {serviceName version : Text} {eventType : EventType}
    (effect : call.effect = some ((serviceName, version), eventType)) :
    call.effectOn serviceName version = some eventType := by
  rw [VersioningCall.effectOn, effect, Option.bind_some, if_pos rfl]

theorem effectOn_of_ne {call : VersioningCall} {serviceName version other otherVersion : Text} {eventType : EventType}
    (effect : call.effect = some ((serviceName, version), eventType))
    (apart : versionKey serviceName version ≠ versionKey other otherVersion) :
    call.effectOn other otherVersion = none := by
  have different : ((serviceName, version), eventType).1 ≠ (other, otherVersion) := by
    intro same
    rcases Prod.mk.inj same with ⟨rfl, rfl⟩
    exact apart rfl
  rw [VersioningCall.effectOn, effect, Option.bind_some, if_neg different]

theorem effectOn_none {call : VersioningCall} (noEffect : call.effect = none) (serviceName version : Text) :
    call.effectOn serviceName version = none := by
  rw [VersioningCall.effectOn, noEffect, Option.bind_none]

theorem Wrote.eventTypes_self {before after : InMemoryRepository} {key : Text} {record : VersionRecord}
    {eventType : EventType} (wrote : Wrote before after key record eventType) :
    after.eventTypes record.versionId = before.eventTypes record.versionId ++ [eventType] := by
  rcases wrote.events with ⟨event, appended, own, rfl⟩
  have picked : [event].filter (fun event => decide (event.versionId = record.versionId)) = [event] := by
    simp [own]
  unfold InMemoryRepository.eventTypes
  rw [appended, List.filter_append, List.map_append, picked]
  rfl

theorem Wrote.eventTypes_of_ne {before after : InMemoryRepository} {key : Text} {record : VersionRecord}
    {eventType : EventType} (wrote : Wrote before after key record eventType) {versionId : Text}
    (apart : record.versionId ≠ versionId) : after.eventTypes versionId = before.eventTypes versionId := by
  rcases wrote.events with ⟨event, appended, own, -⟩
  have passed : [event].filter (fun event => decide (event.versionId = versionId)) = [] := by
    simp [own, apart]
  unfold InMemoryRepository.eventTypes
  rw [appended, List.filter_append, List.map_append, passed]
  exact List.append_nil _

/-! ## What every call keeps -/

/-- What is known of a version that is stored under a key. -/
structure VersionRecord.Kept (interpreter : Interpreter) (history : VersioningHistory) (key : Text)
    (record : VersionRecord) : Prop where
  placed : key = versionKey record.serviceName record.version
  named : isServiceName record.serviceName = true
  parsed : SemVer.parse interpreter.digits record.version = .ok record.semver
  dated : record.Dated
  stable : record.status ≠ .draft -> record.semver.isStable = true
  identified : Exists fun n => n < history.repository.drawn ∧ record.versionId = interpreter.uuid n
  recorded : history.repository.eventTypes record.versionId = record.status.history
  returned : effectsOn record.serviceName record.version history.returned = record.status.history

structure VersioningHistory.Sound (interpreter : Interpreter) (history : VersioningHistory) : Prop where
  services : forall serviceName service, history.repository.services.get serviceName = some service ->
    isServiceName serviceName = true
  versions : forall key record, history.repository.versions.get key = some record ->
    record.Kept interpreter history key
  distinct : forall key key' record record', history.repository.versions.get key = some record ->
    history.repository.versions.get key' = some record' -> record.versionId = record'.versionId -> key = key'
  events : forall event, event ∈ history.repository.events ->
    Exists fun n => n < history.repository.drawn ∧ event.versionId = interpreter.uuid n
  absent : forall serviceName version, history.repository.versions.get (versionKey serviceName version) = none ->
    effectsOn serviceName version history.returned = []

namespace VersioningHistory

variable {interpreter : Interpreter}

theorem Sound.start : Sound interpreter VersioningHistory.start where
  services := fun _ _ found => absurd found nofun
  versions := fun _ _ found => absurd found nofun
  distinct := fun _ _ _ _ found => absurd found nofun
  events := fun _ member => absurd member List.not_mem_nil
  absent := fun _ _ _ => rfl

/-- A registration touches no version. -/
theorem Sound.register {history : VersioningHistory} (sound : Sound interpreter history) {call : VersioningCall}
    (noEffect : call.effect = none) {serviceName : Text} (service : ServiceRecord)
    (named : isServiceName serviceName = true) :
    Sound interpreter
      { repository :=
          { history.repository with services := history.repository.services.set serviceName service }
        returned := history.returned ++ [call] } := by
  have effects : forall other version, effectsOn other version (history.returned ++ [call]) =
      effectsOn other version history.returned := by
    intro other version
    rw [effectsOn_concat, effectOn_none noEffect]
    exact List.append_nil _
  constructor
  · intro other found stored
    change (history.repository.services.set serviceName service).get other = some found at stored
    rw [Dictionary.get_set] at stored
    split at stored
    · rename_i same
      exact same ▸ named
    · exact sound.services other found stored
  · intro key record stored
    have kept := sound.versions key record stored
    exact { kept with returned := (effects _ _).trans kept.returned }
  · exact sound.distinct
  · exact sound.events
  · intro other version missing
    exact (effects other version).trans (sound.absent other version missing)

/-- What a call on one version leaves of the others. -/
theorem kept_of_wrote {history : VersioningHistory} {after : InMemoryRepository} {call : VersioningCall}
    {serviceName version key : Text} {eventType : EventType} {written record : VersionRecord}
    (effect : call.effect = some ((serviceName, version), eventType))
    (wrote : Wrote history.repository after (versionKey serviceName version) written eventType)
    (kept : record.Kept interpreter history key) (apart : versionKey serviceName version ≠ key)
    (different : written.versionId ≠ record.versionId) :
    record.Kept interpreter { repository := after, returned := history.returned ++ [call] } key := by
  rcases kept.identified with ⟨n, small, same⟩
  have recorded := wrote.eventTypes_of_ne different
  have returned : effectsOn record.serviceName record.version (history.returned ++ [call]) =
      effectsOn record.serviceName record.version history.returned := by
    rw [effectsOn_concat, effectOn_of_ne effect (kept.placed ▸ apart)]
    exact List.append_nil _
  exact
    { kept with
      identified := ⟨n, Nat.lt_trans small wrote.drawn, same⟩
      recorded := recorded.trans kept.recorded
      returned := returned.trans kept.returned }

/-- The events after a call are those before it, and one for the version. -/
theorem events_of_wrote {history : VersioningHistory} (sound : Sound interpreter history) {after : InMemoryRepository}
    {key : Text} {eventType : EventType} {written : VersionRecord}
    (wrote : Wrote history.repository after key written eventType)
    (identified : Exists fun n => n < after.drawn ∧ written.versionId = interpreter.uuid n) :
    forall event, event ∈ after.events -> Exists fun n => n < after.drawn ∧ event.versionId = interpreter.uuid n := by
  intro event member
  rcases wrote.events with ⟨last, appended, own, -⟩
  rw [appended] at member
  rcases List.mem_append.mp member with old | new
  · rcases sound.events event old with ⟨n, small, same⟩
    exact ⟨n, Nat.lt_trans small wrote.drawn, same⟩
  · rw [List.mem_singleton.mp new, own]
    exact identified

theorem absent_of_wrote {history : VersioningHistory} (sound : Sound interpreter history) {after : InMemoryRepository}
    {call : VersioningCall} {serviceName version : Text} {eventType : EventType} {written : VersionRecord}
    (effect : call.effect = some ((serviceName, version), eventType))
    (wrote : Wrote history.repository after (versionKey serviceName version) written eventType) :
    forall other otherVersion, after.versions.get (versionKey other otherVersion) = none ->
      effectsOn other otherVersion (history.returned ++ [call]) = [] := by
  intro other otherVersion missing
  rw [wrote.versions, Dictionary.get_set] at missing
  split at missing
  · cases missing
  · rename_i apart
    rw [effectsOn_concat, effectOn_of_ne effect apart, sound.absent other otherVersion missing]
    rfl

/-- The identifier of a version that is new belongs to no version. -/
theorem Sound.create {history : VersioningHistory} (sound : Sound interpreter history) {call : VersioningCall}
    {serviceName version : Text} {record : VersionRecord} {after : InMemoryRepository}
    (effect : call.effect = some ((serviceName, version), .versionCreated))
    (creates : Creates interpreter serviceName version record history.repository after) :
    Sound interpreter { repository := after, returned := history.returned ++ [call] } := by
  rcases creates.known with ⟨service, known⟩
  rcases creates.named with ⟨rfl, rfl⟩
  have wrote := creates.wrote
  have unknown : forall n, n < history.repository.drawn -> interpreter.uuid n ≠ record.versionId := by
    intro n small same
    rw [creates.identified] at same
    exact absurd (interpreter.uuid_injective same) (Nat.ne_of_lt small)
  have different : forall key other, history.repository.versions.get key = some other ->
      record.versionId ≠ other.versionId := by
    intro key other stored same
    rcases (sound.versions key other stored).identified with ⟨n, small, own⟩
    exact unknown n small (own.symm.trans same.symm)
  have identified : Exists fun n => n < after.drawn ∧ record.versionId = interpreter.uuid n :=
    ⟨_, wrote.drawn, creates.identified⟩
  have noEvents : history.repository.eventTypes record.versionId = [] := by
    unfold InMemoryRepository.eventTypes
    rw [List.map_eq_nil_iff, List.filter_eq_nil_iff]
    intro event member same
    rcases sound.events event member with ⟨n, small, own⟩
    exact unknown n small (own.symm.trans (of_decide_eq_true same))
  have kept : record.Kept interpreter { repository := after, returned := history.returned ++ [call] }
      (versionKey record.serviceName record.version) := by
    refine ⟨rfl, sound.services _ _ known, creates.parsed, creates.dated, ?_, identified, ?_, ?_⟩
    · exact fun released => absurd creates.draft released
    · rw [wrote.eventTypes_self, noEvents, creates.draft]
      rfl
    · rw [effectsOn_concat, effectOn_self effect, sound.absent _ _ creates.fresh, creates.draft]
      rfl
  constructor
  · intro other found
    rw [wrote.services]
    exact sound.services other found
  · intro key other stored
    rw [wrote.versions, Dictionary.get_set] at stored
    split at stored
    · rename_i same
      rw [← same, ← Option.some.inj stored]
      exact kept
    · rename_i apart
      exact kept_of_wrote effect wrote (sound.versions key other stored) apart (different key other stored)
  · intro key key' first second stored stored' same
    rw [wrote.versions, Dictionary.get_set] at stored stored'
    split at stored
    · rename_i here
      split at stored'
      · rename_i there
        exact here.symm.trans there
      · rw [← Option.some.inj stored] at same
        exact absurd same (different key' second stored')
    · split at stored'
      · rw [← Option.some.inj stored'] at same
        exact absurd same.symm (different key first stored)
      · exact sound.distinct key key' first second stored stored' same
  · exact events_of_wrote sound wrote identified
  · exact absent_of_wrote sound effect wrote

/-- A call that moves a version on. -/
theorem Sound.advance {history : VersioningHistory} (sound : Sound interpreter history) {call : VersioningCall}
    {serviceName version : Text} {eventType : EventType} {record changed : VersionRecord} {after : InMemoryRepository}
    (effect : call.effect = some ((serviceName, version), eventType))
    (advances : Advances interpreter serviceName version eventType record changed history.repository after) :
    Sound interpreter { repository := after, returned := history.returned ++ [call] } := by
  have kept := sound.versions _ _ advances.found
  rcases versionKey_inj kept.placed (colon_not_mem_serviceName kept.named) (SemVer.colon_not_mem kept.parsed) with
    ⟨rfl, rfl⟩
  have wrote := advances.wrote
  rcases advances.same with ⟨sameId, sameService, sameVersion, sameSemver⟩
  have different : forall key other, history.repository.versions.get key = some other ->
      versionKey record.serviceName record.version ≠ key -> changed.versionId ≠ other.versionId := by
    intro key other stored apart same
    exact apart (sound.distinct _ _ _ _ advances.found stored (sameId.symm.trans same))
  have identified : Exists fun n => n < after.drawn ∧ changed.versionId = interpreter.uuid n := by
    rcases kept.identified with ⟨n, small, own⟩
    exact ⟨n, Nat.lt_trans small wrote.drawn, sameId.trans own⟩
  have stable : record.semver.isStable = true := by
    by_cases draft : record.status = .draft
    · rcases advances.stable draft with ⟨semver, parsed, stable⟩
      rw [Except.ok.inj (kept.parsed.symm.trans parsed)]
      exact stable
    · exact kept.stable draft
  have keptAfter : changed.Kept interpreter { repository := after, returned := history.returned ++ [call] }
      (versionKey record.serviceName record.version) := by
    constructor
    · rw [sameService, sameVersion]
    · rw [sameService]
      exact kept.named
    · rw [sameVersion, sameSemver]
      exact kept.parsed
    · exact advances.dated kept.dated
    · rw [sameSemver]
      exact fun _ => stable
    · exact identified
    · rw [wrote.eventTypes_self, sameId, kept.recorded, advances.history]
    · rw [sameService, sameVersion, effectsOn_concat, effectOn_self effect, kept.returned, advances.history]
      rfl
  constructor
  · intro other found
    rw [wrote.services]
    exact sound.services other found
  · intro key other stored
    rw [wrote.versions, Dictionary.get_set] at stored
    split at stored
    · rename_i same
      rw [← same, ← Option.some.inj stored]
      exact keptAfter
    · rename_i apart
      exact kept_of_wrote effect wrote (sound.versions key other stored) apart (different key other stored apart)
  · intro key key' first second stored stored' same
    rw [wrote.versions, Dictionary.get_set] at stored stored'
    split at stored
    · rename_i here
      split at stored'
      · rename_i there
        exact here.symm.trans there
      · rename_i apart
        rw [← Option.some.inj stored] at same
        exact absurd same (different key' second stored' apart)
    · rename_i apart
      split at stored'
      · rw [← Option.some.inj stored'] at same
        exact absurd same.symm (different key first stored apart)
      · exact sound.distinct key key' first second stored stored' same
  · exact events_of_wrote sound wrote identified
  · exact absent_of_wrote sound effect wrote

theorem Sound.step {history : VersioningHistory} (call : VersioningCall) (sound : Sound interpreter history) :
    Sound interpreter (history.step interpreter call) := by
  unfold VersioningHistory.step
  rcases call.run_cases interpreter history.repository with ⟨failure, raised⟩ | ⟨after, ran, performed⟩
  · rw [raised]
    exact sound
  · rw [ran]
    cases performed with
    | registered serviceName service noEffect named result =>
        rw [result]
        exact sound.register noEffect service named
    | created serviceName version record effect creates => exact sound.create effect creates
    | advanced serviceName version eventType record changed effect advances => exact sound.advance effect advances

/-- A version has been released with an artifact. -/
def Released (key : Text) (artifact : Option Text × Option Text × Option Text) (history : VersioningHistory) : Prop :=
  Exists fun record => history.repository.versions.get key = some record ∧ record.status ≠ .draft ∧
    record.artifact = artifact

/-- A call leaves the artifact of a released version alone. -/
theorem Released.step {key : Text} {artifact : Option Text × Option Text × Option Text} (history : VersioningHistory)
    (call : VersioningCall) (released : Released key artifact history) :
    Released key artifact (history.step interpreter call) := by
  rcases released with ⟨record, stored, notDraft, same⟩
  unfold VersioningHistory.step
  rcases call.run_cases interpreter history.repository with ⟨failure, raised⟩ | ⟨after, ran, performed⟩
  · rw [raised]
    exact ⟨record, stored, notDraft, same⟩
  · rw [ran]
    cases performed with
    | registered serviceName service noEffect named result =>
        rw [result]
        exact ⟨record, stored, notDraft, same⟩
    | created serviceName version new effect creates =>
        refine ⟨record, ?_, notDraft, same⟩
        have apart : versionKey serviceName version ≠ key := by
          rintro rfl
          exact absurd (creates.fresh.symm.trans stored) nofun
        exact (congrArg (Dictionary.get · key) creates.wrote.versions).trans
          ((Dictionary.get_set_of_ne _ _ apart).trans stored)
    | advanced serviceName version eventType old changed effect advances =>
        by_cases own : versionKey serviceName version = key
        · subst own
          cases Option.some.inj (advances.found.symm.trans stored)
          refine ⟨changed, ?_, advances.released, (advances.artifact notDraft).trans same⟩
          exact (congrArg (Dictionary.get · _) advances.wrote.versions).trans (Dictionary.get_set_self _ _ _)
        · refine ⟨record, ?_, notDraft, same⟩
          exact (congrArg (Dictionary.get · key) advances.wrote.versions).trans
            ((Dictionary.get_set_of_ne _ _ own).trans stored)

/-- The history of a sequence of calls. -/
def after (interpreter : Interpreter) (calls : List VersioningCall) : VersioningHistory :=
  calls.foldl (VersioningHistory.step interpreter) VersioningHistory.start

theorem sound_after (calls : List VersioningCall) : Sound interpreter (after interpreter calls) :=
  Run.invariant _ (fun _ call sound => sound.step call) Sound.start calls

end VersioningHistory

end Versioning
end ApexQuant
