import ApexQuant.Versioning.History

namespace ApexQuant
namespace Versioning

open Foundation

/-!
# One version, several texts

A version is stored under the text that it was created with, and a text is refused
only when it is stored already.  `SemVer.parse` takes blanks off and reads the decimal
digits of every script, so two texts may be the same version.  They are exactly when
they are one text after both is undone.
-/

/-- A decimal digit of any script as the digit of ASCII. -/
def plainChar (digits : Text.DecimalDigits) (c : Char) : Char :=
  (digits.value c).elim c Nat.digitChar

/-- A text without the blanks around it, in the digits of ASCII. -/
def plainSpelling (digits : Text.DecimalDigits) (text : Text) : Text :=
  (Text.strip text).map (plainChar digits)

/-- A version that is not created in another spelling of a version of the service. -/
def VersioningCall.Distinctive (interpreter : Interpreter) (history : VersioningHistory) :
    VersioningCall -> Prop
  | .createVersion _ serviceName payload =>
      forall key record, history.repository.versions.get key = some record -> record.serviceName = serviceName ->
        plainSpelling interpreter.digits payload.version = plainSpelling interpreter.digits record.version ->
          payload.version = record.version
  | _ => True

/-- No two versions of a service are parsed alike. -/
def InMemoryRepository.Unambiguous (interpreter : Interpreter) (repository : InMemoryRepository) : Prop :=
  forall key key' record record', repository.versions.get key = some record ->
    repository.versions.get key' = some record' -> record.serviceName = record'.serviceName ->
      SemVer.parse interpreter.digits record.version = SemVer.parse interpreter.digits record'.version -> key = key'

/-! ## Plain digits -/

section Plain

variable {digits : Text.DecimalDigits}

theorem plainChar_of_ascii {c : Char} (ascii : c.toNat < 128) : plainChar digits c = c := by
  unfold plainChar
  rw [digits.value_of_ascii c ascii]
  split
  · rename_i bounded
    apply Char.toNat_inj.mp
    change (Nat.digitChar (c.toNat - 48)).toNat = c.toNat
    rw [Nat.toNat_digitChar_of_lt_ten (by omega)]
    omega
  · rfl

theorem map_plainChar_of_ascii {text : Text} (ascii : forall c, c ∈ text -> c.toNat < 128) :
    text.map (plainChar digits) = text := by
  have same : text.map (plainChar digits) = text.map fun c => c :=
    List.map_congr_left fun c member => plainChar_of_ascii (ascii c member)
  exact same.trans (List.map_id' text)

/-- A digit keeps its value. -/
theorem value_plainChar (decimal : forall c d, digits.value c = some d -> d < 10) (c : Char) :
    digits.value (plainChar digits c) = digits.value c := by
  unfold plainChar
  cases value : digits.value c with
  | none => exact value
  | some d => exact Text.DecimalDigits.value_digitChar digits (decimal c d value)

theorem number_map_plainChar (decimal : forall c d, digits.value c = some d -> d < 10) (text : Text) :
    digits.number (text.map (plainChar digits)) = digits.number text := by
  unfold Text.DecimalDigits.number
  rw [List.foldl_map]
  congr 1
  funext total c
  rw [value_plainChar decimal]

theorem plainChar_ascii_of_digit (decimal : forall c d, digits.value c = some d -> d < 10) {c : Char}
    (digit : digits.isDigit c = true) : (plainChar digits c).toNat < 128 := by
  rcases Option.isSome_iff_exists.mp digit with ⟨d, value⟩
  have small := decimal c d value
  unfold plainChar
  rw [value]
  change (Nat.digitChar d).toNat < 128
  rw [Nat.toNat_digitChar_of_lt_ten small]
  omega

/-- A numeral in plain digits is the decimal text of its number. -/
theorem map_plainChar_of_numeric (decimal : forall c d, digits.value c = some d -> d < 10) {numeral : Text}
    (numeric : isNumericPart digits numeral = true) :
    numeral.map (plainChar digits) = Nat.toDigits 10 (digits.number numeral) := by
  have plainNumeric : isNumericPart digits (numeral.map (plainChar digits)) = true ∧
      Text.isAscii (numeral.map (plainChar digits)) = true := by
    cases numeral with
    | nil => exact absurd numeric Bool.false_ne_true
    | cons first rest =>
        rcases Bool.or_eq_true_iff.mp numeric with zero | positive
        · rcases Bool.and_eq_true_iff.mp zero with ⟨isZero, alone⟩
          rw [eq_of_beq isZero, List.isEmpty_iff.mp alone, List.map_singleton, plainChar_of_ascii (by decide)]
          exact ⟨rfl, by decide⟩
        · rcases Bool.and_eq_true_iff.mp positive with ⟨opening, later⟩
          have bounded := of_decide_eq_true opening
          have readable : forall c, c ∈ rest.map (plainChar digits) -> digits.isDigit c = true ∧ c.toNat < 128 := by
            intro c member
            rcases List.mem_map.mp member with ⟨old, inside, rfl⟩
            have digit := List.all_eq_true.mp later old inside
            refine ⟨?_, plainChar_ascii_of_digit decimal digit⟩
            unfold Text.DecimalDigits.isDigit
            rw [value_plainChar decimal]
            exact digit
          rw [List.map_cons, plainChar_of_ascii (by omega)]
          constructor
          · apply Bool.or_eq_true_iff.mpr
            right
            exact Bool.and_eq_true_iff.mpr ⟨opening, List.all_eq_true.mpr fun c member => (readable c member).1⟩
          · apply List.all_eq_true.mpr
            intro c member
            rcases List.mem_cons.mp member with same | member
            · rw [same]
              exact decide_eq_true (by omega)
            · exact decide_eq_true (readable c member).2
  have read := toDigits_of_isNumericPart plainNumeric.1 plainNumeric.2
  rw [number_map_plainChar decimal] at read
  exact read.symm

theorem toNat_of_isIdentifierChar {c : Char} (accepted : isIdentifierChar c = true) : c.toNat < 128 := by
  rcases Bool.or_eq_true_iff.mp accepted with letter | hyphen
  · simp only [Char.isAlphanum, Char.isAlpha, Char.isUpper, Char.isLower, Char.isDigit, Bool.or_eq_true,
      Bool.and_eq_true, decide_eq_true_eq, ge_iff_le, UInt32.le_iff_toNat_le] at letter
    change c.val.toNat < 128
    rcases letter with (letter | letter) | letter
    all_goals exact Nat.lt_of_le_of_lt letter.2 (by decide)
  · rw [eq_of_beq hyphen]
    decide

theorem ascii_of_isIdentifiers {text : Text} (accepted : isIdentifiers text = true) :
    forall c, c ∈ text -> c.toNat < 128 := by
  intro c member
  rcases Text.mem_of_splitOn '.' member with same | ⟨piece, listed, inside⟩
  · rw [same]
    decide
  · have spelled := (Bool.and_eq_true_iff.mp (List.all_eq_true.mp accepted piece listed)).2
    exact toNat_of_isIdentifierChar (List.all_eq_true.mp spelled c inside)

theorem map_joinAt {separator : Char} (f : Char -> Char) (fixed : f separator = separator) (before : Text)
    (after : Option Text) : (joinAt separator before after).map f = joinAt separator (before.map f) (after.map (List.map f)) := by
  unfold joinAt
  cases after with
  | none => rw [Option.elim_none, Option.map_none, Option.elim_none, List.append_nil, List.append_nil]
  | some rest =>
      rw [Option.elim_some, Option.map_some, Option.elim_some, List.map_append, List.map_cons, fixed]

theorem map_plainChar_of_part {part : Option Text} (accepted : part.all isIdentifiers = true) :
    part.map (List.map (plainChar digits)) = part := by
  cases part with
  | none => rfl
  | some text => exact congrArg some (map_plainChar_of_ascii (ascii_of_isIdentifiers accepted))

/-- What is accepted is spelled plainly like its version. -/
theorem plainSpelling_of_parse (decimal : forall c d, digits.value c = some d -> d < 10) {value : Text}
    {version : SemVer} (parsed : SemVer.parse digits value = .ok version) :
    plainSpelling digits value = version.text := by
  rcases SemVer.exists_reads parsed with ⟨major, minor, patch, reads⟩
  rcases reads.numbers with ⟨first, second, third⟩
  have numerals : forall part, part ∈ [major, minor, patch] ->
      part.map (plainChar digits) = Nat.toDigits 10 (digits.number part) :=
    fun part member => map_plainChar_of_numeric decimal (reads.numerals part member)
  have core : (List.intercalate ['.'] [major, minor, patch]).map (plainChar digits) =
      List.intercalate ['.'] [Nat.toDigits 10 version.major, Nat.toDigits 10 version.minor,
        Nat.toDigits 10 version.patch] := by
    rw [intercalate_three, intercalate_three, List.map_append, List.map_cons, List.map_append, List.map_cons,
      plainChar_of_ascii (by decide), numerals major (by simp), numerals minor (by simp), numerals patch (by simp),
      first, second, third]
  unfold plainSpelling SemVer.text
  rw [reads.shape, spell, spell, map_joinAt _ (plainChar_of_ascii (by decide)),
    map_joinAt _ (plainChar_of_ascii (by decide)), core, map_plainChar_of_part reads.identifiers.1,
    map_plainChar_of_part reads.identifiers.2]

end Plain

/-! ## Histories -/

section Histories

variable {interpreter : Interpreter}

/-- A call that has returned leaves the names and the texts of the versions alone, but
for a new one. -/
theorem versions_of_performed {call : VersioningCall} {before after : InMemoryRepository}
    (performed : Performed interpreter call before after) {key : Text} {record : VersionRecord}
    (stored : after.versions.get key = some record) :
    (Exists fun old => before.versions.get key = some old ∧ old.serviceName = record.serviceName ∧
        old.version = record.version) ∨
      (call.effect = some ((record.serviceName, record.version), .versionCreated) ∧
        key = versionKey record.serviceName record.version ∧
        Exists fun semver => SemVer.parse interpreter.digits record.version = .ok semver) := by
  cases performed with
  | registered serviceName service noEffect named result =>
      rw [result] at stored
      exact Or.inl ⟨record, stored, rfl, rfl⟩
  | created serviceName version new effect creates =>
      rw [creates.wrote.versions, Dictionary.get_set] at stored
      split at stored
      · rename_i same
        rw [← Option.some.inj stored, ← same, creates.named.1, creates.named.2]
        exact Or.inr ⟨effect, rfl, _, creates.parsed⟩
      · exact Or.inl ⟨record, stored, rfl, rfl⟩
  | advanced serviceName version eventType old changed effect advances =>
      rw [advances.wrote.versions, Dictionary.get_set] at stored
      split at stored
      · rename_i same
        rw [← Option.some.inj stored, ← same, advances.same.2.1, advances.same.2.2.1]
        exact Or.inl ⟨old, advances.found, rfl, rfl⟩
      · exact Or.inl ⟨record, stored, rfl, rfl⟩

/-- A created version is spelled unlike those of the service that are there. -/
theorem spelled_apart {call : VersioningCall} {history : VersioningHistory}
    (distinctive : call.Distinctive interpreter history) {serviceName version : Text}
    (effect : call.effect = some ((serviceName, version), .versionCreated)) {key : Text} {record : VersionRecord}
    (stored : history.repository.versions.get key = some record) (own : record.serviceName = serviceName)
    (alike : plainSpelling interpreter.digits version = plainSpelling interpreter.digits record.version) :
    version = record.version := by
  cases call with
  | createVersion moments name payload =>
      rcases Prod.mk.inj (Prod.mk.inj (Option.some.inj effect)).1 with ⟨rfl, rfl⟩
      exact distinctive key record stored own alike
  | registerService now payload => exact absurd effect nofun
  | releaseVersion moments name text gitSha imageTag checksumSha256 actor reason =>
      exact absurd (Prod.mk.inj (Option.some.inj effect)).2 nofun
  | deprecateVersion moments name text actor reason =>
      exact absurd (Prod.mk.inj (Option.some.inj effect)).2 nofun
  | retireVersion moments name text actor reason => exact absurd (Prod.mk.inj (Option.some.inj effect)).2 nofun

/-- A version that is new is not parsed like one of the service that is there. -/
theorem key_eq_of_new (decimal : forall c d, interpreter.digits.value c = some d -> d < 10) {call : VersioningCall}
    {history : VersioningHistory} (sound : VersioningHistory.Sound interpreter history)
    (distinctive : call.Distinctive interpreter history) {serviceName version : Text}
    (effect : call.effect = some ((serviceName, version), .versionCreated)) {semver : SemVer}
    (parsed : SemVer.parse interpreter.digits version = .ok semver) {key : Text} {record : VersionRecord}
    (stored : history.repository.versions.get key = some record) (own : record.serviceName = serviceName)
    (alike : SemVer.parse interpreter.digits record.version = SemVer.parse interpreter.digits version) :
    key = versionKey serviceName version := by
  have plain : plainSpelling interpreter.digits version = plainSpelling interpreter.digits record.version :=
    (plainSpelling_of_parse decimal parsed).trans (plainSpelling_of_parse decimal (alike.trans parsed)).symm
  have same := spelled_apart distinctive effect stored own plain
  rw [(sound.versions key record stored).placed, own, same]

theorem Unambiguous.step (decimal : forall c d, interpreter.digits.value c = some d -> d < 10)
    (history : VersioningHistory) (call : VersioningCall)
    (kept : VersioningHistory.Sound interpreter history ∧ history.repository.Unambiguous interpreter)
    (distinctive : call.Distinctive interpreter history) :
    VersioningHistory.Sound interpreter (history.step interpreter call) ∧
      (history.step interpreter call).repository.Unambiguous interpreter := by
  rcases kept with ⟨sound, unambiguous⟩
  refine ⟨sound.step call, ?_⟩
  unfold VersioningHistory.step
  rcases call.run_cases interpreter history.repository with ⟨failure, raised⟩ | ⟨after, ran, performed⟩
  · rw [raised]
    exact unambiguous
  rw [ran]
  intro key key' record record' stored stored' sameService sameParse
  rcases versions_of_performed performed stored with ⟨old, found, service, text⟩ | ⟨effect, placed, semver, parsed⟩
  · rcases versions_of_performed performed stored' with ⟨old', found', service', text'⟩ |
      ⟨effect', placed', semver', parsed'⟩
    · apply unambiguous key key' old old' found found'
      · rw [service, service', sameService]
      · rw [text, text', sameParse]
    · rw [placed']
      apply key_eq_of_new decimal sound distinctive effect' parsed' found
      · exact service.trans sameService
      · rw [text, sameParse]
  · rcases versions_of_performed performed stored' with ⟨old', found', service', text'⟩ |
      ⟨effect', placed', semver', parsed'⟩
    · rw [placed]
      symm
      apply key_eq_of_new decimal sound distinctive effect parsed found'
      · exact service'.trans sameService.symm
      · rw [text', sameParse]
    · rw [effect] at effect'
      rcases Prod.mk.inj (Prod.mk.inj (Option.some.inj effect')).1 with ⟨service, text⟩
      rw [placed, placed', service, text]

end Histories

/-- While no version is created in another spelling of one that is there, no two
versions of a service are parsed alike. -/
theorem versions_distinct_while_spelled_apart (interpreter : Interpreter)
    (decimal : forall c d, interpreter.digits.value c = some d -> d < 10) (calls : List VersioningCall)
    (distinctive : Run.Guarded (VersioningHistory.step interpreter)
      (fun history call => call.Distinctive interpreter history) VersioningHistory.start calls) :
    (VersioningHistory.after interpreter calls).repository.Unambiguous interpreter := by
  have initially : VersioningHistory.Sound interpreter VersioningHistory.start ∧
      VersioningHistory.start.repository.Unambiguous interpreter :=
    ⟨VersioningHistory.Sound.start, fun _ _ _ _ stored => absurd stored nofun⟩
  exact (distinctive.invariant (Unambiguous.step decimal) initially).2

/-! ## One service -/

namespace Scenario

def interpreter : Interpreter where
  digits := Text.asciiDigits
  upper := fun text => text.map Char.toUpper
  uuid := fun n => Nat.toDigits 10 n
  uuid_injective := by
    intro m n same
    have read := congrArg Text.asciiDigits.number same
    rw [Text.DecimalDigits.number_toDigits, Text.DecimalDigits.number_toDigits] at read
    exact read

theorem decimal (c : Char) (d : Nat) (value : interpreter.digits.value c = some d) : d < 10 := by
  change (if 48 ≤ c.toNat ∧ c.toNat ≤ 57 then some (c.toNat - 48) else none) = some d at value
  split at value
  · have same := Option.some.inj value
    omega
  · cases value

def registration : VersioningCall :=
  .registerService 0
    { serviceName := "api".toList
      plane := "control".toList
      description := []
      named := by decide
      plane_nonempty := by decide }

/-- The creation of a version under a text. -/
def creation (version : Text) (long : 5 ≤ version.length) : VersioningCall :=
  .createVersion { updatedAt := 1, occurredAt := 1 } "api".toList
    { version := version
      gitSha := none
      imageTag := none
      apiVersion := "v1".toList
      minCompatibleVersion := none
      dependencies := []
      metadata := "{}".toList
      long := long
      commit := fun _ given => absurd given nofun }

/-- A version is created once more with a blank before it. -/
def createdTwice : List VersioningCall :=
  [registration, creation "1.0.0".toList (by decide), creation " 1.0.0".toList (by decide)]

end Scenario

/-- Two versions in one spelling each. -/
theorem two_versions_are_distinct :
    (VersioningHistory.after Scenario.interpreter
      [Scenario.registration, Scenario.creation "1.0.0".toList (by decide),
        Scenario.creation "1.0.1".toList (by decide)]).repository.Unambiguous Scenario.interpreter := by
  apply versions_distinct_while_spelled_apart Scenario.interpreter Scenario.decimal
  rw [Run.Guarded, Run.Guarded, Run.Guarded, Run.Guarded]
  refine ⟨trivial, ?_, ?_, trivial⟩
  · intro _ _ stored
    cases stored
  · intro key record stored _ alike
    have listed : record.version ∈ (VersioningHistory.after Scenario.interpreter
        [Scenario.registration, Scenario.creation "1.0.0".toList (by decide)]).repository.versions.rows.map
          (fun item => item.2.version) := List.mem_map_of_mem (Dictionary.mem_of_get stored)
    have texts : (VersioningHistory.after Scenario.interpreter
        [Scenario.registration, Scenario.creation "1.0.0".toList (by decide)]).repository.versions.rows.map
          (fun item => item.2.version) = ["1.0.0".toList] := by decide +kernel
    rw [texts] at listed
    rw [List.mem_singleton.mp listed] at alike
    exact absurd alike (by decide)

theorem blank_creates_a_second_version :
    ¬ forall (interpreter : Interpreter) (calls : List VersioningCall),
      (VersioningHistory.after interpreter calls).repository.Unambiguous interpreter := by
  intro unambiguous
  have plain : ((VersioningHistory.after Scenario.interpreter Scenario.createdTwice).repository.versions.get
      "api:1.0.0".toList).map (fun record => (record.serviceName, record.version)) =
      some ("api".toList, "1.0.0".toList) := by decide +kernel
  have blank : ((VersioningHistory.after Scenario.interpreter Scenario.createdTwice).repository.versions.get
      "api: 1.0.0".toList).map (fun record => (record.serviceName, record.version)) =
      some ("api".toList, " 1.0.0".toList) := by decide +kernel
  rcases Option.map_eq_some_iff.mp plain with ⟨first, found, named⟩
  rcases Option.map_eq_some_iff.mp blank with ⟨second, found', named'⟩
  rcases Prod.mk.inj named with ⟨service, version⟩
  rcases Prod.mk.inj named' with ⟨service', version'⟩
  have parsed : SemVer.parse Scenario.interpreter.digits first.version =
      SemVer.parse Scenario.interpreter.digits second.version := by
    rw [version, version']
    decide
  have same := unambiguous Scenario.interpreter Scenario.createdTwice _ _ first second found found'
    (service.trans service'.symm) parsed
  exact absurd same (by decide)

end Versioning
end ApexQuant
