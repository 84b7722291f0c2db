import ApexQuant.Versioning.History
import ApexQuant.Versioning.Precedence

namespace ApexQuant
namespace Versioning

open Foundation

/-!
# Compatible versions

`is_backward_compatible`, `highest_compatible` and `check_compatibility`.  Only stable
versions are compatible with anything, so that no comparison among candidates reads a
prerelease.
-/

variable (digits : Text.DecimalDigits)

/-- `SemVer.__ge__`. -/
def SemVer.atLeast (version other : SemVer) : Except SemVerError Bool := do
  let answer ← version.compare digits other
  return decide (0 ≤ answer)

/-- `SemVer.__lt__`. -/
def SemVer.below (version other : SemVer) : Except SemVerError Bool := do
  let answer ← version.compare digits other
  return decide (answer < 0)

/-- `is_backward_compatible`. -/
def isBackwardCompatible (candidate minimum : Text) : Except SemVerError Bool := do
  let candidateVersion ← SemVer.parse digits candidate
  let minimumVersion ← SemVer.parse digits minimum
  if candidateVersion.isStable = false then return false
  else if candidateVersion.major = 0 ∨ minimumVersion.major = 0 then
    if candidateVersion.major = minimumVersion.major ∧ candidateVersion.minor = minimumVersion.minor then
      candidateVersion.atLeast digits minimumVersion
    else return false
  else if candidateVersion.major = minimumVersion.major then candidateVersion.atLeast digits minimumVersion
  else return false

/-- The list comprehension of `highest_compatible`. -/
def compatibleCandidates (minimum : Text) : List Text -> Except SemVerError (List Text)
  | [] => .ok []
  | candidate :: candidates => do
      let compatible ← isBackwardCompatible digits candidate minimum
      let others ← compatibleCandidates minimum candidates
      return if compatible then candidate :: others else others

/-- The key of `sorted` beside the value. -/
def withVersion (value : Text) : Except SemVerError (Text × SemVer) := do
  let version ← SemVer.parse digits value
  return (value, version)

/-- `highest_compatible`. -/
def highestCompatible (candidates : List Text) (minimum : Text) : Except SemVerError (Option Text) := do
  let compatible ← compatibleCandidates digits minimum candidates
  if compatible.isEmpty then return none
  else
    let keyed ← compatible.mapM (withVersion digits)
    let parsed ← sortDescending (fun item other => item.2.below digits other.2) keyed
    return parsed.head?.map Prod.fst

example : (highestCompatible Text.asciiDigits ["1.2.0".toList, "2.0.0".toList, "1.10.0+b".toList, "1.11.0-rc".toList]
    "1.1.0-alpha".toList).toOption = some (some "1.10.0+b".toList) := by
  decide

/-! ## Compatibility of texts -/

/-- The text is a version. -/
def IsVersion (text : Text) : Prop :=
  Exists fun version => SemVer.parse digits text = .ok version

/-- `is_backward_compatible` answers that it is. -/
def Compatible (candidate minimum : Text) : Prop :=
  isBackwardCompatible digits candidate minimum = .ok true

/-- Both texts are versions, and the first does not come after the second. -/
def NotAfter (text other : Text) : Prop :=
  Exists fun version => Exists fun version' => Exists fun answer : Int => SemVer.parse digits text = .ok version ∧
    SemVer.parse digits other = .ok version' ∧ version.compare digits version' = .ok answer ∧ answer ≤ 0

/-- Both texts are versions of one precedence. -/
def SamePrecedence (text other : Text) : Prop :=
  Exists fun version => Exists fun version' => SemVer.parse digits text = .ok version ∧
    SemVer.parse digits other = .ok version' ∧ version.compare digits version' = .ok 0

/-! ## Compatibility of versions -/

/-- Same major, for major zero the same minor, and no lower precedence. -/
structure SemVer.Serves (candidate minimum : SemVer) : Prop where
  stable : candidate.prerelease = none
  major : candidate.major = minimum.major
  minor : candidate.major = 0 -> candidate.minor = minimum.minor
  high : minimum.precedence ≤ candidate.precedence

theorem SemVer.Serves.trans {candidate minimum lowest : SemVer} (serves : candidate.Serves minimum)
    (serves' : minimum.Serves lowest) : candidate.Serves lowest where
  stable := serves.stable
  major := serves.major.trans serves'.major
  minor := fun zero => (serves.minor zero).trans (serves'.minor (serves.major.symm.trans zero))
  high := serves'.high.trans serves.high

section

variable {digits}

theorem SemVer.atLeast_of_stable (digits : Text.DecimalDigits) {version : SemVer} (stable : version.prerelease = none)
    (other : SemVer) :
    Exists fun answer => version.atLeast digits other = .ok answer ∧
      (answer = true <-> other.precedence ≤ version.precedence) := by
  unfold SemVer.atLeast
  rw [SemVer.compare_of_stable stable]
  refine ⟨_, rfl, ?_⟩
  rw [decide_eq_true_eq, threeWay_swap, Int.neg_nonneg, threeWay_nonpos_iff]

theorem SemVer.below_of_stable {version : SemVer} (stable : version.prerelease = none) (other : SemVer) :
    version.below digits other = .ok (decide (version.precedence < other.precedence)) := by
  unfold SemVer.below
  rw [SemVer.compare_of_stable stable]
  refine congrArg Except.ok (decide_eq_decide.mpr ?_)
  rcases threeWay_cases version.precedence other.precedence with ⟨below, known⟩ | ⟨same, known⟩ | ⟨above, known⟩
  · exact iff_of_true (by omega) below
  · exact iff_of_false (by omega) same.not_lt
  · exact iff_of_false (by omega) above.not_gt

/-- What `is_backward_compatible` answers on two versions. -/
theorem isBackwardCompatible_of_parse {candidate minimum : Text} {version required : SemVer}
    (parsed : SemVer.parse digits candidate = .ok version) (parsed' : SemVer.parse digits minimum = .ok required) :
    Exists fun answer => isBackwardCompatible digits candidate minimum = .ok answer ∧
      (answer = true <-> version.Serves required) := by
  unfold isBackwardCompatible
  rw [parsed, parsed']
  dsimp only [bind, Except.bind]
  by_cases unstable : version.isStable = false
  · rw [if_pos unstable]
    refine ⟨false, rfl, iff_of_false Bool.false_ne_true fun serves => ?_⟩
    rw [SemVer.isStable, serves.stable] at unstable
    cases unstable
  · have stable : version.prerelease = none := by
      rw [SemVer.isStable, Bool.not_eq_false] at unstable
      exact Option.isNone_iff_eq_none.mp unstable
    rcases SemVer.atLeast_of_stable digits stable required with ⟨answer, compared, high⟩
    rw [if_neg unstable, compared]
    by_cases zero : version.major = 0 ∨ required.major = 0
    · rw [if_pos zero]
      by_cases same : version.major = required.major ∧ version.minor = required.minor
      · rw [if_pos same]
        exact ⟨answer, rfl, high.trans ⟨fun above => ⟨stable, same.1, fun _ => same.2, above⟩, fun serves => serves.high⟩⟩
      · rw [if_neg same]
        refine ⟨false, rfl, iff_of_false Bool.false_ne_true fun serves => same ⟨serves.major, serves.minor ?_⟩⟩
        exact zero.elim id serves.major.trans
    · rw [if_neg zero]
      by_cases same : version.major = required.major
      · rw [if_pos same]
        exact ⟨answer, rfl, high.trans
          ⟨fun above => ⟨stable, same, fun none => absurd (Or.inl none) zero, above⟩, fun serves => serves.high⟩⟩
      · rw [if_neg same]
        exact ⟨false, rfl, iff_of_false Bool.false_ne_true fun serves => same serves.major⟩

theorem isVersion_of_isBackwardCompatible {candidate minimum : Text} {answer : Bool}
    (answered : isBackwardCompatible digits candidate minimum = .ok answer) :
    IsVersion digits candidate ∧ IsVersion digits minimum := by
  rcases Run.ok_of_bind answered with ⟨version, parsed, answered⟩
  rcases Run.ok_of_bind answered with ⟨required, parsed', _⟩
  exact ⟨⟨version, parsed⟩, ⟨required, parsed'⟩⟩

theorem compatible_iff {candidate minimum : Text} :
    Compatible digits candidate minimum <-> Exists fun version => Exists fun required =>
      SemVer.parse digits candidate = .ok version ∧ SemVer.parse digits minimum = .ok required ∧
        version.Serves required := by
  constructor
  · intro compatible
    rcases isVersion_of_isBackwardCompatible compatible with ⟨⟨version, parsed⟩, ⟨required, parsed'⟩⟩
    rcases isBackwardCompatible_of_parse parsed parsed' with ⟨answer, answered, serves⟩
    exact ⟨version, required, parsed, parsed', serves.mp (Except.ok.inj (answered.symm.trans compatible))⟩
  · rintro ⟨version, required, parsed, parsed', serves⟩
    rcases isBackwardCompatible_of_parse parsed parsed' with ⟨answer, answered, serves'⟩
    rw [Compatible, answered, serves'.mpr serves]

theorem Compatible.trans {candidate minimum lowest : Text} (compatible : Compatible digits candidate minimum)
    (compatible' : Compatible digits minimum lowest) : Compatible digits candidate lowest := by
  rcases compatible_iff.mp compatible with ⟨version, required, parsed, parsed', serves⟩
  rcases compatible_iff.mp compatible' with ⟨required', lower, parsed'', parsed''', serves'⟩
  cases Except.ok.inj (parsed'.symm.trans parsed'')
  exact compatible_iff.mpr ⟨version, lower, parsed, parsed''', serves.trans serves'⟩

/-! ## The highest candidate -/

theorem compatibleCandidates_of_versions {minimum : Text} (required : IsVersion digits minimum) {candidates : List Text}
    (versions : forall candidate, candidate ∈ candidates -> IsVersion digits candidate) :
    Exists fun compatible => compatibleCandidates digits minimum candidates = .ok compatible ∧
      forall candidate, candidate ∈ compatible <-> candidate ∈ candidates ∧ Compatible digits candidate minimum := by
  induction candidates with
  | nil => exact ⟨[], rfl, fun candidate => by simp⟩
  | cons candidate candidates inductionHypothesis =>
      rcases inductionHypothesis fun other member => versions other (List.mem_cons_of_mem _ member) with
        ⟨others, kept, members⟩
      rcases versions candidate List.mem_cons_self with ⟨version, parsed⟩
      rcases required with ⟨lowest, parsed'⟩
      rcases isBackwardCompatible_of_parse parsed parsed' with ⟨answer, answered, _⟩
      rw [compatibleCandidates, answered, kept]
      dsimp only [bind, Except.bind]
      refine ⟨_, rfl, fun other => ?_⟩
      cases answer with
      | true =>
          rw [if_pos rfl, List.mem_cons, List.mem_cons, members]
          constructor
          · rintro (same | ⟨member, compatible⟩)
            · exact ⟨Or.inl same, same ▸ answered⟩
            · exact ⟨Or.inr member, compatible⟩
          · rintro ⟨same | member, compatible⟩
            · exact Or.inl same
            · exact Or.inr ⟨member, compatible⟩
      | false =>
          rw [if_neg Bool.false_ne_true, List.mem_cons, members]
          constructor
          · rintro ⟨member, compatible⟩
            exact ⟨Or.inr member, compatible⟩
          · rintro ⟨same | member, compatible⟩
            · rw [same, Compatible, answered] at compatible
              cases compatible
            · exact ⟨member, compatible⟩

theorem versions_of_compatibleCandidates {minimum : Text} {candidates compatible : List Text}
    (kept : compatibleCandidates digits minimum candidates = .ok compatible) {candidate : Text}
    (member : candidate ∈ candidates) : IsVersion digits candidate ∧ IsVersion digits minimum := by
  induction candidates generalizing compatible with
  | nil => exact absurd member List.not_mem_nil
  | cons first candidates inductionHypothesis =>
      rcases Run.ok_of_bind kept with ⟨answer, answered, kept⟩
      rcases Run.ok_of_bind kept with ⟨others, keptOthers, _⟩
      rcases List.mem_cons.mp member with same | later
      · exact same ▸ isVersion_of_isBackwardCompatible answered
      · exact inductionHypothesis keptOthers later

theorem mapM_withVersion {values : List Text} (versions : forall value, value ∈ values -> IsVersion digits value) :
    Exists fun keyed => values.mapM (withVersion digits) = .ok keyed ∧ keyed.map Prod.fst = values ∧
      forall item, item ∈ keyed -> SemVer.parse digits item.1 = .ok item.2 := by
  induction values with
  | nil => exact ⟨[], rfl, rfl, fun _ member => absurd member List.not_mem_nil⟩
  | cons value values inductionHypothesis =>
      rcases inductionHypothesis fun other member => versions other (List.mem_cons_of_mem _ member) with
        ⟨keyed, read, same, parsed⟩
      rcases versions value List.mem_cons_self with ⟨version, parsedFirst⟩
      have first : withVersion digits value = .ok (value, version) := by
        rw [withVersion, parsedFirst]
        rfl
      refine ⟨(value, version) :: keyed, ?_, ?_, ?_⟩
      · rw [List.mapM_cons, first, read]
        rfl
      · rw [List.map_cons, same]
      · intro item member
        rcases List.mem_cons.mp member with rfl | later
        · exact parsedFirst
        · exact parsed item later

/-- No candidate is compatible, or the answer is a compatible one that none comes after. -/
structure IsHighest (digits : Text.DecimalDigits) (candidates : List Text) (minimum : Text) (answer : Option Text) :
    Prop where
  none_iff : answer = none <-> forall candidate, candidate ∈ candidates -> ¬Compatible digits candidate minimum
  highest : forall result, answer = some result -> result ∈ candidates ∧ Compatible digits result minimum ∧
    forall other, other ∈ candidates -> Compatible digits other minimum -> NotAfter digits other result

/-- Among versions the search always answers. -/
theorem highestCompatible_of_versions {candidates : List Text} {minimum : Text}
    (required : IsVersion digits minimum)
    (versions : forall candidate, candidate ∈ candidates -> IsVersion digits candidate) :
    Exists fun answer => highestCompatible digits candidates minimum = .ok answer ∧
      IsHighest digits candidates minimum answer := by
  rcases compatibleCandidates_of_versions required versions with ⟨compatible, kept, members⟩
  unfold highestCompatible
  rw [kept]
  dsimp only [bind, Except.bind]
  cases compatible with
  | nil =>
      refine ⟨none, rfl, iff_of_true rfl fun candidate member isCompatible => ?_, nofun⟩
      exact List.not_mem_nil ((members candidate).mpr ⟨member, isCompatible⟩)
  | cons candidate others =>
      rcases mapM_withVersion fun value member => versions value ((members value).mp member).1 with
        ⟨keyed, read, same, parsed⟩
      have stable : forall item, item ∈ keyed -> item.2.prerelease = none := by
        intro item member
        have listed : item.1 ∈ candidate :: others := same ▸ List.mem_map_of_mem member
        rcases compatible_iff.mp ((members item.1).mp listed).2 with ⟨version, lowest, parsedItem, _, serves⟩
        rw [Except.ok.inj ((parsed item member).symm.trans parsedItem)]
        exact serves.stable
      have sorted : sortDescending (fun item other => item.2.below digits other.2) keyed =
          .ok (keyed.insertionSort (NotBelow fun item => item.2.precedence)) :=
        sortDescending_eq (fun item => item.2.precedence) fun item other member _ =>
          SemVer.below_of_stable (stable item member) other.2
      rw [if_neg (by simp), read]
      dsimp only
      rw [sorted]
      dsimp only
      cases ordered : keyed.insertionSort (NotBelow fun item => item.2.precedence) with
      | nil =>
          have length := List.length_insertionSort (NotBelow fun item : Text × SemVer => item.2.precedence) keyed
          rw [ordered, List.length_nil] at length
          rw [List.length_eq_zero_iff.mp length.symm] at same
          cases same
      | cons first rest =>
          have found : first ∈ keyed := by
            rw [← List.mem_insertionSort (NotBelow fun item : Text × SemVer => item.2.precedence), ordered]
            exact List.mem_cons_self
          have listed : first.1 ∈ candidate :: others := same ▸ List.mem_map_of_mem found
          refine ⟨some first.1, rfl, iff_of_false nofun ?_, ?_⟩
          · intro absent
            exact absent first.1 ((members first.1).mp listed).1 ((members first.1).mp listed).2
          · intro result known
            cases known
            refine ⟨((members first.1).mp listed).1, ((members first.1).mp listed).2, fun other member isCompatible => ?_⟩
            have otherListed := (members other).mpr ⟨member, isCompatible⟩
            rw [← same] at otherListed
            rcases List.mem_map.mp otherListed with ⟨item, inside, rfl⟩
            refine ⟨item.2, first.2, _, parsed item inside, parsed first found,
              SemVer.compare_of_stable (stable item inside) first.2, threeWay_nonpos_iff.mpr ?_⟩
            exact le_of_head_insertionSort (fun item => item.2.precedence) ordered inside

theorem highestCompatible_returns_iff {candidates : List Text} {minimum : Text} :
    (Exists fun answer => highestCompatible digits candidates minimum = .ok answer) <->
      forall candidate, candidate ∈ candidates -> IsVersion digits candidate ∧ IsVersion digits minimum := by
  constructor
  · rintro ⟨answer, answered⟩ candidate member
    rcases Run.ok_of_bind answered with ⟨compatible, kept, _⟩
    exact versions_of_compatibleCandidates kept member
  · intro versions
    cases candidates with
    | nil => exact ⟨none, rfl⟩
    | cons candidate others =>
        rcases highestCompatible_of_versions (versions candidate List.mem_cons_self).2 fun other member =>
          (versions other member).1 with ⟨answer, answered, _⟩
        exact ⟨answer, answered⟩

theorem isHighest_of_highestCompatible {candidates : List Text} {minimum : Text} {answer : Option Text}
    (answered : highestCompatible digits candidates minimum = .ok answer) :
    IsHighest digits candidates minimum answer := by
  cases candidates with
  | nil =>
      cases answered
      exact ⟨iff_of_true rfl fun _ member => absurd member List.not_mem_nil, nofun⟩
  | cons candidate others =>
      have versions := highestCompatible_returns_iff.mp ⟨answer, answered⟩
      rcases highestCompatible_of_versions (versions candidate List.mem_cons_self).2 fun other member =>
        (versions other member).1 with ⟨answer', answered', highest⟩
      cases answered.symm.trans answered'
      exact highest

/-- Two answers that are not after each other are of one precedence. -/
theorem samePrecedence_of_notAfter {text other : Text} {minimum : Text} (compatible : Compatible digits text minimum)
    (compatible' : Compatible digits other minimum) (below : NotAfter digits text other)
    (above : NotAfter digits other text) : SamePrecedence digits text other := by
  rcases compatible_iff.mp compatible with ⟨version, lowest, parsed, _, serves⟩
  rcases compatible_iff.mp compatible' with ⟨version', lowest', parsed', _, serves'⟩
  have order : forall {left right : Text} {first second : SemVer}, SemVer.parse digits left = .ok first ->
      SemVer.parse digits right = .ok second -> first.prerelease = none -> NotAfter digits left right ->
        first.precedence ≤ second.precedence := by
    rintro left right first second read read' stable ⟨first', second', answer, again, again', compared, low⟩
    cases again.symm.trans read
    cases again'.symm.trans read'
    rw [SemVer.compare_of_stable stable] at compared
    exact threeWay_nonpos_iff.mp (Except.ok.inj compared ▸ low)
  refine ⟨version, version', parsed, parsed', ?_⟩
  rw [SemVer.compare_of_stable serves.stable, threeWay_eq_zero_iff.mpr]
  exact le_antisymm (order parsed parsed' serves.stable below) (order parsed' parsed serves'.stable above)

/-- The order of the candidates does not matter but among equals. -/
theorem IsHighest.rel {candidates reordered : List Text} {minimum : Text} {answer answer' : Option Text}
    (highest : IsHighest digits candidates minimum answer) (highest' : IsHighest digits reordered minimum answer')
    (same : reordered.Perm candidates) : Option.Rel (SamePrecedence digits) answer answer' := by
  cases answer with
  | none =>
      cases answer' with
      | none => exact .none
      | some result =>
          rcases highest'.highest result rfl with ⟨member, compatible, _⟩
          exact absurd compatible (highest.none_iff.mp rfl result (same.mem_iff.mp member))
  | some result =>
      rcases highest.highest result rfl with ⟨member, compatible, above⟩
      cases answer' with
      | none => exact absurd compatible (highest'.none_iff.mp rfl result (same.mem_iff.mpr member))
      | some result' =>
          rcases highest'.highest result' rfl with ⟨member', compatible', above'⟩
          exact .some (samePrecedence_of_notAfter compatible compatible'
            (above' result (same.mem_iff.mpr member) compatible) (above result' (same.mem_iff.mp member') compatible'))

end

/-! ## The service -/

structure CompatibilityDependencyReport where
  serviceName : Text
  minVersion : Text
  resolvedVersion : Option Text
  compatible : Bool
  reason : Text

structure CompatibilityReport where
  serviceName : Text
  version : Text
  ok : Bool
  dependencies : List CompatibilityDependencyReport

/-- `get_released_versions`. -/
def InMemoryRepository.getReleasedVersions (repository : InMemoryRepository) (serviceName : Text) : List Text :=
  let versions := (repository.versions.rows.map Prod.snd).filter fun version =>
    decide (version.serviceName = serviceName) && decide (version.status = .released)
  (versions.insertionSort (NotBelow fun version => version.semver.numericTuple)).map VersionRecord.version

namespace VersioningService

/-- The loop of `check_compatibility`, with what it has gathered. -/
def checkDependencies (ok : Bool) (reports : List CompatibilityDependencyReport) :
    List DependencySpec -> Repository (Bool × List CompatibilityDependencyReport)
  | [] => pure (ok, reports)
  | dependency :: dependencies => do
      let repository ← get
      let candidates := repository.getReleasedVersions dependency.serviceName
      match highestCompatible digits candidates dependency.minVersion with
      | .error error => throw (.uncaught error)
      | .ok none =>
          let report : CompatibilityDependencyReport :=
            { serviceName := dependency.serviceName
              minVersion := dependency.minVersion
              resolvedVersion := none
              compatible := false
              reason := "no released compatible dependency version found".toList }
          checkDependencies false (reports ++ [report]) dependencies
      | .ok (some resolved) =>
          let report : CompatibilityDependencyReport :=
            { serviceName := dependency.serviceName
              minVersion := dependency.minVersion
              resolvedVersion := some resolved
              compatible := true
              reason := "compatible released version found".toList }
          checkDependencies ok (reports ++ [report]) dependencies

/-- `check_compatibility`. -/
def checkCompatibility (serviceName version : Text) : Repository CompatibilityReport := do
  let current ← getVersion serviceName version
  if current.status ≠ .released then
    throw (.invalidTransition "compatibility can only be checked for released versions".toList)
  else do
    let (ok, reports) ← checkDependencies digits true [] current.dependencies
    pure { serviceName := serviceName, version := version, ok := ok, dependencies := reports }

end VersioningService

/-! ## What the stored dependencies say -/

/-- The record is a dependency whose version can be parsed. -/
structure DependencyRecord.Checked (digits : Text.DecimalDigits) (record : DependencyRecord) : Prop where
  readable : Exists fun dependency => readDependency record = some dependency
  version : IsVersion digits record.minVersion

/-- Every stored dependency has been checked. -/
def InMemoryRepository.Resolvable (digits : Text.DecimalDigits) (repository : InMemoryRepository) : Prop :=
  forall versionId records, repository.dependencies.get versionId = some records ->
    forall record, record ∈ records -> record.Checked digits

/-- The program keeps a property of the repository, and what it returns has another. -/
def Keeps {A : Type} (Inv : InMemoryRepository -> Prop) (Result : A -> Prop) (program : Repository A) : Prop :=
  forall repository, Inv repository ->
    (Exists fun answer => Exists fun after => program repository = .ok answer after ∧ Inv after ∧ Result answer) ∨
      Exists fun failure => Exists fun after => program repository = .error failure after ∧ Inv after

namespace Keeps

variable {A B : Type} {Inv : InMemoryRepository -> Prop} {Result : A -> Prop} {Result' : B -> Prop}

theorem bind {first : Repository A} {rest : A -> Repository B} (begins : Keeps Inv Result first)
    (continues : forall answer, Result answer -> Keeps Inv Result' (rest answer)) : Keeps Inv Result' (first >>= rest) := by
  intro repository holds
  rcases begins repository holds with ⟨answer, between, ran, held, result⟩ | ⟨failure, after, ran, held⟩
  · rcases continues answer result between held with ⟨other, after, ended, kept, result'⟩ | ⟨failure, after, ended, kept⟩
    · exact Or.inl ⟨other, after, (Run.bind_run_of_ok ran).trans ended, kept, result'⟩
    · exact Or.inr ⟨failure, after, (Run.bind_run_of_ok ran).trans ended, kept⟩
  · refine Or.inr ⟨failure, after, ?_, held⟩
    change EStateM.bind first rest repository = _
    unfold EStateM.bind
    rw [ran]

theorem pure {answer : A} (result : Result answer) : Keeps Inv Result (Pure.pure answer) :=
  fun repository holds => Or.inl ⟨answer, repository, rfl, holds, result⟩

theorem throw (failure : Failure) : Keeps Inv Result (MonadExcept.throw failure : Repository A) :=
  fun repository holds => Or.inr ⟨failure, repository, rfl, holds⟩

theorem of_readOnly {program : Repository A} (readOnly : ReadOnly program) : Keeps Inv (fun _ => True) program := by
  intro repository holds
  rcases readOnly repository with ⟨answer, ran⟩ | ⟨failure, ran⟩
  · exact Or.inl ⟨answer, repository, ran, holds, trivial⟩
  · exact Or.inr ⟨failure, repository, ran, holds⟩

end Keeps

namespace VersioningService

open InMemoryRepository

variable {interpreter : Interpreter}

theorem checked_of_dependencyRecords {serviceName : Text} {seen : List Text} {dependencies : List DependencySpec}
    {records : List DependencyRecord} {repository after : InMemoryRepository}
    (returned : dependencyRecords interpreter serviceName seen dependencies repository = .ok records after) :
    forall record, record ∈ records -> record.Checked interpreter.digits := by
  induction dependencies generalizing seen records repository after with
  | nil =>
      rw [← (EStateM.Result.ok.inj returned).1]
      exact fun _ member => absurd member List.not_mem_nil
  | cons dependency dependencies inductionHypothesis =>
      unfold dependencyRecords at returned
      split at returned
      · cases returned
      · split at returned
        · cases returned
        · rcases Run.ok_of_bind_run returned with ⟨read, between, got, returned⟩
          cases known : read.getService dependency.serviceName with
          | none =>
              rw [known] at returned
              cases returned
          | some service =>
              rw [known] at returned
              rcases Run.ok_of_bind_run returned with ⟨version, _, parsed, returned⟩
              rcases Run.ok_of_bind_run returned with ⟨others, _, checked, returned⟩
              rw [← (EStateM.Result.ok.inj returned).1]
              intro record member
              rcases List.mem_cons.mp member with rfl | later
              · exact ⟨⟨dependency, readDependency_of_spec dependency⟩, ⟨version, ok_of_parseVersion parsed⟩⟩
              · exact inductionHypothesis checked record later

theorem checkCreation_keeps (Inv : InMemoryRepository -> Prop) (serviceName : Text) (payload : VersionCreate) :
    Keeps Inv (fun answer => forall record, record ∈ answer.2 -> record.Checked interpreter.digits)
      (checkCreation interpreter serviceName payload) := by
  intro repository holds
  rcases checkCreation_readOnly interpreter serviceName payload repository with ⟨answer, ran⟩ | ⟨failure, ran⟩
  · refine Or.inl ⟨answer, repository, ran, holds, ?_⟩
    unfold checkCreation at ran
    rcases Run.ok_of_bind_run ran with ⟨read, between, got, ran⟩
    cases known : read.getService serviceName with
    | none =>
        rw [known] at ran
        exact absurd ran nofun
    | some service =>
        rw [known] at ran
        rcases Run.ok_of_bind_run ran with ⟨version, _, parsed, ran⟩
        rcases Run.ok_of_bind_run ran with ⟨_, _, _, ran⟩
        cases existing : read.getVersion serviceName payload.version with
        | some record =>
            rw [existing] at ran
            exact absurd ran nofun
        | none =>
            rw [existing] at ran
            rcases Run.ok_of_bind_run ran with ⟨records, _, listed, ran⟩
            rw [← (EStateM.Result.ok.inj ran).1]
            exact checked_of_dependencyRecords listed
  · exact Or.inr ⟨failure, repository, ran, holds⟩

/-- What leaves the dependencies alone keeps them resolvable. -/
theorem resolvable_of_same {before after : InMemoryRepository} (resolvable : before.Resolvable interpreter.digits)
    (same : after.dependencies = before.dependencies) : after.Resolvable interpreter.digits := by
  unfold InMemoryRepository.Resolvable
  rw [same]
  exact resolvable

theorem resolvable_of_set {before after : InMemoryRepository} (resolvable : before.Resolvable interpreter.digits)
    {versionId : Text} {records : List DependencyRecord}
    (checked : forall record, record ∈ records -> record.Checked interpreter.digits)
    (same : after.dependencies = before.dependencies.set versionId records) : after.Resolvable interpreter.digits := by
  intro other stored found
  rw [same, Dictionary.get_set] at found
  split at found
  · exact Option.some.inj found ▸ checked
  · exact resolvable other stored found

theorem updateVersion_keeps (serviceName version : Text) (change : VersionRecord -> VersionRecord) :
    Keeps (InMemoryRepository.Resolvable interpreter.digits) (fun _ => True)
      (InMemoryRepository.updateVersion serviceName version change) := by
  intro repository resolvable
  unfold InMemoryRepository.updateVersion
  cases repository.versions.get (versionKey serviceName version) with
  | none => exact Or.inr ⟨_, repository, rfl, resolvable⟩
  | some record => exact Or.inl ⟨_, _, rfl, resolvable_of_same resolvable rfl, trivial⟩

theorem insertEvent_keeps (now : Int) (versionId : Text) (eventType : EventType) (actor reason : Text)
    (details : List (Text × Text)) :
    Keeps (InMemoryRepository.Resolvable interpreter.digits) (fun _ => True)
      (insertEvent interpreter now versionId eventType actor reason details) :=
  fun _ resolvable => Or.inl ⟨_, _, rfl, resolvable_of_same resolvable rfl, trivial⟩

theorem createVersion_keeps (moments : Moments) (serviceName : Text) (payload : VersionCreate) :
    Keeps (InMemoryRepository.Resolvable interpreter.digits) (fun _ => True)
      (createVersion interpreter moments serviceName payload) := by
  unfold createVersion
  refine Keeps.bind (checkCreation_keeps _ serviceName payload) ?_
  rintro ⟨semver, records⟩ checked
  have inserts : Keeps (InMemoryRepository.Resolvable interpreter.digits) (fun _ => True)
      (insertVersion interpreter moments.updatedAt serviceName payload.version semver .draft payload.gitSha
        payload.imageTag payload.apiVersion payload.minCompatibleVersion none payload.metadata) := by
    intro repository resolvable
    unfold insertVersion
    split
    · exact Or.inr ⟨_, repository, rfl, resolvable⟩
    · refine Or.inl ⟨_, _, rfl, ?_, trivial⟩
      exact resolvable_of_set resolvable (fun _ member => absurd member List.not_mem_nil) rfl
  refine Keeps.bind inserts fun record _ => ?_
  have sets : Keeps (InMemoryRepository.Resolvable interpreter.digits) (fun _ => True)
      (setDependencies record.versionId records) :=
    fun repository resolvable => Or.inl ⟨(), _, rfl, resolvable_of_set resolvable checked rfl, trivial⟩
  refine Keeps.bind sets fun _ _ => Keeps.bind (insertEvent_keeps _ _ _ _ _ _) fun _ _ => ?_
  exact Keeps.of_readOnly (getVersion_readOnly serviceName payload.version)

theorem releaseVersion_keeps (moments : Moments) (serviceName version gitSha imageTag checksumSha256 actor reason : Text) :
    Keeps (InMemoryRepository.Resolvable interpreter.digits) (fun _ => True)
      (releaseVersion interpreter moments serviceName version gitSha imageTag checksumSha256 actor reason) := by
  unfold releaseVersion
  refine Keeps.bind (Keeps.of_readOnly (getVersion_readOnly serviceName version)) fun current _ => ?_
  split
  · exact Keeps.throw _
  · split
    · exact Keeps.throw _
    · split
      · exact Keeps.throw _
      · refine Keeps.bind (updateVersion_keeps _ _ _) fun record _ => Keeps.bind (insertEvent_keeps _ _ _ _ _ _) fun _ _ => ?_
        exact Keeps.of_readOnly (getVersion_readOnly serviceName version)

theorem deprecateVersion_keeps (moments : Moments) (serviceName version actor reason : Text) :
    Keeps (InMemoryRepository.Resolvable interpreter.digits) (fun _ => True)
      (deprecateVersion interpreter moments serviceName version actor reason) := by
  unfold deprecateVersion
  refine Keeps.bind (Keeps.of_readOnly (getVersion_readOnly serviceName version)) fun current _ => ?_
  split
  · exact Keeps.throw _
  · refine Keeps.bind (updateVersion_keeps _ _ _) fun record _ => Keeps.bind (insertEvent_keeps _ _ _ _ _ _) fun _ _ => ?_
    exact Keeps.of_readOnly (getVersion_readOnly serviceName version)

theorem retireVersion_keeps (moments : Moments) (serviceName version actor reason : Text) :
    Keeps (InMemoryRepository.Resolvable interpreter.digits) (fun _ => True)
      (retireVersion interpreter moments serviceName version actor reason) := by
  unfold retireVersion
  refine Keeps.bind (Keeps.of_readOnly (getVersion_readOnly serviceName version)) fun current _ => ?_
  split
  · exact Keeps.throw _
  · refine Keeps.bind (updateVersion_keeps _ _ _) fun record _ => Keeps.bind (insertEvent_keeps _ _ _ _ _ _) fun _ _ => ?_
    exact Keeps.of_readOnly (getVersion_readOnly serviceName version)

end VersioningService

/-- Every call keeps the dependencies resolvable. -/
theorem VersioningCall.run_keeps (interpreter : Interpreter) (call : VersioningCall) :
    Keeps (InMemoryRepository.Resolvable interpreter.digits) (fun _ => True) (call.run interpreter) := by
  have silently : forall {A : Type} {program : Repository A},
      Keeps (InMemoryRepository.Resolvable interpreter.digits) (fun _ => True) program ->
        Keeps (InMemoryRepository.Resolvable interpreter.digits) (fun _ => True) (do let _ ← program : Repository Unit) :=
    fun kept => Keeps.bind kept fun _ _ => Keeps.pure trivial
  cases call with
  | registerService now payload =>
      refine silently fun repository resolvable => Or.inl ⟨_, _, rfl, ?_, trivial⟩
      exact VersioningService.resolvable_of_same resolvable rfl
  | createVersion moments serviceName payload => exact silently (VersioningService.createVersion_keeps _ _ _)
  | releaseVersion moments serviceName version gitSha imageTag checksumSha256 actor reason =>
      exact silently (VersioningService.releaseVersion_keeps _ _ _ _ _ _ _ _)
  | deprecateVersion moments serviceName version actor reason =>
      exact silently (VersioningService.deprecateVersion_keeps _ _ _ _ _)
  | retireVersion moments serviceName version actor reason =>
      exact silently (VersioningService.retireVersion_keeps _ _ _ _ _)

theorem VersioningHistory.resolvable_step (interpreter : Interpreter) {history : VersioningHistory}
    (resolvable : history.repository.Resolvable interpreter.digits) (call : VersioningCall) :
    (history.step interpreter call).repository.Resolvable interpreter.digits := by
  unfold VersioningHistory.step
  rcases VersioningCall.run_keeps interpreter call history.repository resolvable with
    ⟨_, after, ran, kept, _⟩ | ⟨failure, after, ran, kept⟩
  · rw [ran]
    exact kept
  · rw [ran]
    exact kept

theorem VersioningHistory.resolvable_after (interpreter : Interpreter) (calls : List VersioningCall) :
    (VersioningHistory.after interpreter calls).repository.Resolvable interpreter.digits := by
  let Inv : VersioningHistory -> Prop := fun history => history.repository.Resolvable interpreter.digits
  have start : Inv VersioningHistory.start := by
    intro versionId records found
    cases found
  have keeps : forall history call, Inv history -> Inv (history.step interpreter call) :=
    fun _ call resolvable => resolvable_step interpreter resolvable call
  exact Run.invariant (VersioningHistory.step interpreter) keeps start calls

/-! ## The report -/

theorem mem_getReleasedVersions {repository : InMemoryRepository} {serviceName version : Text} :
    version ∈ repository.getReleasedVersions serviceName <->
      Exists fun key => Exists fun record => repository.versions.get key = some record ∧
        record.serviceName = serviceName ∧ record.status = .released ∧ record.version = version := by
  unfold InMemoryRepository.getReleasedVersions
  rw [List.mem_map]
  constructor
  · rintro ⟨record, listed, same⟩
    rw [List.mem_insertionSort, List.mem_filter, Bool.and_eq_true, decide_eq_true_eq, decide_eq_true_eq] at listed
    rcases List.mem_map.mp listed.1 with ⟨⟨key, stored⟩, member, rfl⟩
    exact ⟨key, stored, Dictionary.get_of_mem member, listed.2.1, listed.2.2, same⟩
  · rintro ⟨key, record, stored, named, released, same⟩
    refine ⟨record, ?_, same⟩
    rw [List.mem_insertionSort, List.mem_filter, Bool.and_eq_true, decide_eq_true_eq, decide_eq_true_eq]
    exact ⟨List.mem_map.mpr ⟨_, Dictionary.mem_of_get stored, rfl⟩, named, released⟩

/-- Some released version of a service is compatible with a requirement. -/
def InMemoryRepository.Satisfies (digits : Text.DecimalDigits) (repository : InMemoryRepository)
    (serviceName minVersion : Text) : Prop :=
  Exists fun key => Exists fun candidate => repository.versions.get key = some candidate ∧
    candidate.serviceName = serviceName ∧ candidate.status = .released ∧ Compatible digits candidate.version minVersion

namespace VersioningService

section

variable {digits}

/-- An answer is found where the requirement is satisfied. -/
theorem ne_none_iff_satisfies {repository : InMemoryRepository} {serviceName minVersion : Text} {answer : Option Text}
    (highest : IsHighest digits (repository.getReleasedVersions serviceName) minVersion answer) :
    answer ≠ none <-> repository.Satisfies digits serviceName minVersion := by
  rw [ne_eq, highest.none_iff]
  constructor
  · intro some
    rcases not_forall.mp some with ⟨candidate, found⟩
    rcases Classical.not_imp.mp found with ⟨member, compatible⟩
    rcases mem_getReleasedVersions.mp member with ⟨key, record, stored, named, released, rfl⟩
    exact ⟨key, record, stored, named, released, not_not.mp compatible⟩
  · rintro ⟨key, record, stored, named, released, compatible⟩ none
    exact none record.version (mem_getReleasedVersions.mpr ⟨key, record, stored, named, released, rfl⟩) compatible

/-- Where all versions can be parsed, the loop reaches its end. -/
theorem checkDependencies_run {repository : InMemoryRepository}
    (candidates : forall serviceName version, version ∈ repository.getReleasedVersions serviceName -> IsVersion digits version)
    {dependencies : List DependencySpec}
    (required : forall dependency, dependency ∈ dependencies -> IsVersion digits dependency.minVersion) (ok : Bool)
    (reports : List CompatibilityDependencyReport) :
    Exists fun answer => checkDependencies digits ok reports dependencies repository = .ok answer repository ∧
      (answer.1 = true <-> ok = true ∧ forall dependency, dependency ∈ dependencies ->
        repository.Satisfies digits dependency.serviceName dependency.minVersion) := by
  induction dependencies generalizing ok reports with
  | nil => exact ⟨(ok, reports), rfl, by simp⟩
  | cons dependency dependencies inductionHypothesis =>
      rcases highestCompatible_of_versions (required dependency List.mem_cons_self)
        (candidates dependency.serviceName) with ⟨answer, answered, highest⟩
      have satisfied := ne_none_iff_satisfies highest
      have later := inductionHypothesis fun other member => required other (List.mem_cons_of_mem _ member)
      have got : (get : Repository InMemoryRepository) repository = .ok repository repository := rfl
      rw [checkDependencies, Run.bind_run_of_ok got]
      dsimp only
      rw [answered]
      cases answer with
      | none =>
          rcases later false _ with ⟨found, ran, verdict⟩
          refine ⟨found, ran, verdict.trans (iff_of_false (fun both => Bool.false_ne_true both.1) ?_)⟩
          intro both
          exact satisfied.mpr (both.2 dependency List.mem_cons_self) rfl
      | some resolved =>
          rcases later ok _ with ⟨found, ran, verdict⟩
          refine ⟨found, ran, verdict.trans (and_congr_right fun _ => ?_)⟩
          constructor
          · intro each other member
            rcases List.mem_cons.mp member with rfl | member
            · exact satisfied.mp nofun
            · exact each other member
          · exact fun each other member => each other (List.mem_cons_of_mem _ member)

end

theorem spec_of_readDependency {record : DependencyRecord} {dependency : DependencySpec}
    (read : readDependency record = some dependency) :
    dependency.serviceName = record.serviceName ∧ dependency.minVersion = record.minVersion := by
  unfold readDependency at read
  split at read
  · cases read
    exact ⟨rfl, rfl⟩
  · cases read

/-- The dependencies that are read are those that are stored. -/
theorem mapM_readDependency {digits : Text.DecimalDigits} {records : List DependencyRecord}
    (checked : forall record, record ∈ records -> record.Checked digits) :
    Exists fun dependencies => records.mapM readDependency = some dependencies ∧
      (forall dependency, dependency ∈ dependencies -> IsVersion digits dependency.minVersion) ∧
      forall satisfies : Text -> Text -> Prop,
        (forall dependency, dependency ∈ dependencies -> satisfies dependency.serviceName dependency.minVersion) <->
          forall record, record ∈ records -> satisfies record.serviceName record.minVersion := by
  induction records with
  | nil => exact ⟨[], rfl, by simp, by simp⟩
  | cons record records inductionHypothesis =>
      rcases inductionHypothesis fun other member => checked other (List.mem_cons_of_mem _ member) with
        ⟨dependencies, read, versions, same⟩
      rcases (checked record List.mem_cons_self).readable with ⟨dependency, readFirst⟩
      rcases spec_of_readDependency readFirst with ⟨named, required⟩
      refine ⟨dependency :: dependencies, ?_, ?_, fun satisfies => ?_⟩
      · rw [List.mapM_cons, readFirst, read]
        rfl
      · intro other member
        rcases List.mem_cons.mp member with rfl | later
        · exact required ▸ (checked record List.mem_cons_self).version
        · exact versions other later
      · rw [List.forall_mem_cons, List.forall_mem_cons, same, named, required]

theorem current_of_stored {serviceName version : Text} {repository : InMemoryRepository} {record : VersionRecord}
    {dependencies : List DependencySpec} (stored : repository.getVersion serviceName version = some record)
    (read : (repository.getDependencies record.versionId).mapM readDependency = some dependencies) :
    Exists fun current => getVersion serviceName version repository = .ok current repository ∧
      current.status = record.status ∧ current.dependencies = dependencies := by
  have got : (get : Repository InMemoryRepository) repository = .ok repository repository := rfl
  unfold getVersion
  rw [Run.bind_run_of_ok got, stored]
  dsimp only
  rw [read]
  exact ⟨_, rfl, rfl, rfl⟩

/-- The report on a released version. -/
theorem checkCompatibility_run (interpreter : Interpreter) (calls : List VersioningCall) {serviceName version : Text}
    {record : VersionRecord}
    (stored : (VersioningHistory.after interpreter calls).repository.getVersion serviceName version = some record)
    (released : record.status = .released) :
    Exists fun report =>
      checkCompatibility interpreter.digits serviceName version (VersioningHistory.after interpreter calls).repository =
          .ok report (VersioningHistory.after interpreter calls).repository ∧
        (report.ok = true <-> forall dependency,
          dependency ∈ (VersioningHistory.after interpreter calls).repository.getDependencies record.versionId ->
            (VersioningHistory.after interpreter calls).repository.Satisfies interpreter.digits dependency.serviceName
              dependency.minVersion) := by
  have sound : (VersioningHistory.after interpreter calls).Sound interpreter := VersioningHistory.sound_after calls
  have resolvable := VersioningHistory.resolvable_after interpreter calls
  generalize VersioningHistory.after interpreter calls = history at stored sound resolvable ⊢
  have checked : forall dependency, dependency ∈ history.repository.getDependencies record.versionId ->
      dependency.Checked interpreter.digits := by
    unfold InMemoryRepository.getDependencies
    cases found : history.repository.dependencies.get record.versionId with
    | none => exact fun _ member => absurd member List.not_mem_nil
    | some records => exact resolvable record.versionId records found
  rcases mapM_readDependency checked with ⟨dependencies, read, versions, same⟩
  have candidates : forall serviceName version, version ∈ history.repository.getReleasedVersions serviceName ->
      IsVersion interpreter.digits version := by
    intro serviceName version listed
    rcases mem_getReleasedVersions.mp listed with ⟨key, candidate, found, _, _, rfl⟩
    exact ⟨candidate.semver, (sound.versions key candidate found).parsed⟩
  rcases checkDependencies_run candidates versions true [] with ⟨answer, ran, verdict⟩
  refine ⟨{ serviceName := serviceName, version := version, ok := answer.1, dependencies := answer.2 }, ?_, ?_⟩
  · rcases current_of_stored stored read with ⟨current, ranCurrent, status, known⟩
    rw [checkCompatibility, Run.bind_run_of_ok ranCurrent, status, released, if_neg (not_not.mpr rfl), known,
      Run.bind_run_of_ok ran]
    rfl
  · exact verdict.trans ((and_iff_right rfl).trans (same _))

end VersioningService

/-- What `highest_compatible` does with a list of candidates and with any order of it. -/
structure ResolvesHighest (digits : Text.DecimalDigits) (candidates : List Text) (minimum : Text) : Prop where
  returns : (Exists fun answer => highestCompatible digits candidates minimum = .ok answer) <->
    forall candidate, candidate ∈ candidates -> IsVersion digits candidate ∧ IsVersion digits minimum
  highest : forall answer, highestCompatible digits candidates minimum = .ok answer ->
    IsHighest digits candidates minimum answer
  unordered : forall reordered, reordered.Perm candidates -> forall answer,
    highestCompatible digits candidates minimum = .ok answer -> Exists fun answer' =>
      highestCompatible digits reordered minimum = .ok answer' ∧ Option.Rel (SamePrecedence digits) answer answer'

/-- The highest compatible version is found in any list of versions, compatibility is
transitive, and after all calls the report on a released version says whether each of its
dependencies has a released version that is compatible. -/
theorem dependency_resolution (interpreter : Interpreter) :
    (forall candidates minimum, ResolvesHighest interpreter.digits candidates minimum) ∧
      (forall candidate minimum lowest, Compatible interpreter.digits candidate minimum ->
        Compatible interpreter.digits minimum lowest -> Compatible interpreter.digits candidate lowest) ∧
      forall calls serviceName version record,
        (VersioningHistory.after interpreter calls).repository.getVersion serviceName version = some record ->
        record.status = .released -> Exists fun report =>
          VersioningService.checkCompatibility interpreter.digits serviceName version
              (VersioningHistory.after interpreter calls).repository =
            .ok report (VersioningHistory.after interpreter calls).repository ∧
          (report.ok = true <-> forall dependency,
            dependency ∈ (VersioningHistory.after interpreter calls).repository.getDependencies record.versionId ->
              (VersioningHistory.after interpreter calls).repository.Satisfies interpreter.digits dependency.serviceName
                dependency.minVersion) := by
  refine ⟨fun candidates minimum => ?_, fun _ _ _ compatible compatible' => compatible.trans compatible',
    fun calls _ _ _ stored released => VersioningService.checkCompatibility_run interpreter calls stored released⟩
  refine ⟨highestCompatible_returns_iff, fun _ answered => isHighest_of_highestCompatible answered, ?_⟩
  intro reordered same answer answered
  have versions := highestCompatible_returns_iff.mp ⟨answer, answered⟩
  rcases highestCompatible_returns_iff.mpr fun candidate member => versions candidate (same.mem_iff.mp member) with
    ⟨answer', answered'⟩
  exact ⟨answer', answered', (isHighest_of_highestCompatible answered).rel (isHighest_of_highestCompatible answered') same⟩

end Versioning
end ApexQuant
