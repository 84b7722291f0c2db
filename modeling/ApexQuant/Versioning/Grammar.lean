import ApexQuant.Versioning.Identity

namespace ApexQuant
namespace Versioning

open Foundation

/-!
# The grammar of Semantic Versioning

`SemVer.parse` beside the published grammar.  The pattern lets through the digits of
any script and numeric identifiers that begin with a zero; `int` refuses a number of
too many digits.
-/

/-! ## The published grammar -/

/-- `<numeric identifier>`. -/
inductive IsNumericIdentifier : Text -> Prop where
  | zero : IsNumericIdentifier ['0']
  | positive {first : Char} {rest : Text} (opening : '1' ≤ first ∧ first ≤ '9')
      (later : forall c, c ∈ rest -> c.isDigit = true) : IsNumericIdentifier (first :: rest)

/-- `<alphanumeric identifier>`: letters, digits and hyphens, not all of them digits. -/
structure IsAlphanumericIdentifier (text : Text) : Prop where
  spelled : forall c, c ∈ text -> isIdentifierChar c = true
  nonDigit : Exists fun c => c ∈ text ∧ c.isDigit = false

/-- `<digits>`. -/
structure IsDigits (text : Text) : Prop where
  nonempty : text ≠ []
  digits : forall c, c ∈ text -> c.isDigit = true

/-- `<pre-release identifier>`. -/
def IsPrereleaseIdentifier (text : Text) : Prop :=
  IsAlphanumericIdentifier text ∨ IsNumericIdentifier text

/-- `<build identifier>`. -/
def IsBuildIdentifier (text : Text) : Prop :=
  IsAlphanumericIdentifier text ∨ IsDigits text

/-- Identifiers with dots between them. -/
structure IsDotSeparated (isIdentifier : Text -> Prop) (identifiers : List Text) (text : Text) : Prop where
  nonempty : identifiers ≠ []
  shape : text = List.intercalate ['.'] identifiers
  each : forall identifier, identifier ∈ identifiers -> isIdentifier identifier

/-- `<valid semver>`. -/
structure IsValidSemVer (text : Text) (major minor patch : Text) (prerelease build : Option Text) : Prop where
  shape : text = spell major minor patch prerelease build
  core : forall part, part ∈ [major, minor, patch] -> IsNumericIdentifier part
  prereleased : forall identifiers, prerelease = some identifiers ->
    Exists fun pieces => IsDotSeparated IsPrereleaseIdentifier pieces identifiers
  built : forall identifiers, build = some identifiers ->
    Exists fun pieces => IsDotSeparated IsBuildIdentifier pieces identifiers

/-- The text is in the grammar of Semantic Versioning 2.0.0. -/
def InGrammar (text : Text) : Prop :=
  Exists fun major => Exists fun minor => Exists fun patch => Exists fun prerelease => Exists fun build =>
    IsValidSemVer text major minor patch prerelease build

/-! ## The pattern -/

/-- What the groups of `SEMVER_PATTERN` hold when it matches a text. -/
structure Matches (digits : Text.DecimalDigits) (text major minor patch : Text) (prerelease build : Option Text) :
    Prop where
  shape : text = spell major minor patch prerelease build
  core : forall part, part ∈ [major, minor, patch] -> isNumericPart digits part = true
  prereleased : prerelease.all isIdentifiers = true
  built : build.all isIdentifiers = true

section

variable {digits : Text.DecimalDigits}

theorem cutAt_joinAt {separator : Char} {before : Text} (solid : separator ∉ before) (after : Option Text) :
    cutAt separator (joinAt separator before after) = (before, after) := by
  unfold cutAt joinAt
  cases after with
  | none =>
      have whole := Text.apart_of_not_mem solid
      dsimp only [Option.elim_none]
      rw [List.append_nil, List.takeWhile_eq_self_iff.mpr whole, List.dropWhile_eq_nil_iff.mpr whole]
  | some rest =>
      dsimp only [Option.elim_some]
      rw [Text.takeWhile_apart solid, Text.dropWhile_apart solid]

/-- A numeral holds no ASCII character but digits. -/
theorem not_mem_of_isNumericPart {numeral : Text} (numeric : isNumericPart digits numeral = true) {c : Char}
    (ascii : c.toNat < 128) (nonDigit : ¬(48 ≤ c.toNat ∧ c.toNat ≤ 57)) : c ∉ numeral := by
  intro member
  cases numeral with
  | nil => exact absurd member List.not_mem_nil
  | cons first rest =>
      rcases Bool.or_eq_true_iff.mp numeric with zero | positive
      · rcases Bool.and_eq_true_iff.mp zero with ⟨isZero, alone⟩
        rw [eq_of_beq isZero, List.isEmpty_iff.mp alone, List.mem_singleton] at member
        rw [member] at nonDigit
        exact nonDigit (by decide)
      · rcases Bool.and_eq_true_iff.mp positive with ⟨opening, decimal⟩
        rcases List.mem_cons.mp member with same | later
        · rw [← same] at opening
          have bounded := of_decide_eq_true opening
          omega
        · have digit := List.all_eq_true.mp decimal c later
          rw [Text.DecimalDigits.isDigit, digits.value_of_ascii c ascii, if_neg nonDigit] at digit
          exact Bool.false_ne_true digit

theorem not_mem_of_isIdentifiers {text : Text} (accepted : isIdentifiers text = true) {c : Char} (notDot : c ≠ '.')
    (foreign : isIdentifierChar c = false) : c ∉ text := by
  intro member
  rcases Text.mem_of_splitOn '.' member with same | ⟨piece, listed, inside⟩
  · exact notDot same
  · have spelled := (Bool.and_eq_true_iff.mp (List.all_eq_true.mp accepted piece listed)).2
    rw [List.all_eq_true.mp spelled c inside] at foreign
    cases foreign

namespace Matches

variable {text major minor patch : Text} {prerelease build : Option Text}

theorem not_mem_core (found : Matches digits text major minor patch prerelease build) {c : Char} (notDot : c ≠ '.')
    (ascii : c.toNat < 128) (nonDigit : ¬(48 ≤ c.toNat ∧ c.toNat ≤ 57)) :
    c ∉ List.intercalate ['.'] [major, minor, patch] := by
  rw [intercalate_three]
  intro member
  simp only [List.mem_append, List.mem_cons] at member
  rcases member with inside | same | inside | same | inside
  · exact not_mem_of_isNumericPart (found.core major (by simp)) ascii nonDigit inside
  · exact notDot same
  · exact not_mem_of_isNumericPart (found.core minor (by simp)) ascii nonDigit inside
  · exact notDot same
  · exact not_mem_of_isNumericPart (found.core patch (by simp)) ascii nonDigit inside

/-- The pattern has one way to match. -/
theorem cut (found : Matches digits text major minor patch prerelease build) :
    cutAt '+' text = (joinAt '-' (List.intercalate ['.'] [major, minor, patch]) prerelease, build) ∧
      cutAt '-' (joinAt '-' (List.intercalate ['.'] [major, minor, patch]) prerelease) =
        (List.intercalate ['.'] [major, minor, patch], prerelease) ∧
      List.splitOn '.' (List.intercalate ['.'] [major, minor, patch]) = [major, minor, patch] := by
  refine ⟨?_, ?_, ?_⟩
  · rw [found.shape, spell]
    refine cutAt_joinAt ?_ build
    intro member
    rcases mem_joinAt member with core | same | ⟨rest, known, inside⟩
    · exact found.not_mem_core (by decide) (by decide) (by decide) core
    · exact absurd same (by decide)
    · have accepted := found.prereleased
      rw [known] at accepted
      exact not_mem_of_isIdentifiers accepted (by decide) (by decide) inside
  · exact cutAt_joinAt (found.not_mem_core (by decide) (by decide) (by decide)) prerelease
  · refine List.splitOn_intercalate '.' ?_ (List.cons_ne_nil _ _)
    intro part member
    exact not_mem_of_isNumericPart (found.core part member) (by decide) (by decide)

theorem unique (found : Matches digits text major minor patch prerelease build) {major' minor' patch' : Text}
    {prerelease' build' : Option Text} (found' : Matches digits text major' minor' patch' prerelease' build') :
    major' = major ∧ minor' = minor ∧ patch' = patch ∧ prerelease' = prerelease ∧ build' = build := by
  rcases found.cut with ⟨outer, inner, split⟩
  rcases found'.cut with ⟨outer', inner', split'⟩
  rw [outer] at outer'
  rcases Prod.mk.inj outer' with ⟨versioned, sameBuild⟩
  rw [← versioned, inner] at inner'
  rcases Prod.mk.inj inner' with ⟨core, samePrerelease⟩
  rw [← core, split] at split'
  rcases List.cons.inj split' with ⟨sameMajor, split'⟩
  rcases List.cons.inj split' with ⟨sameMinor, split'⟩
  exact ⟨sameMajor.symm, sameMinor.symm, (List.cons.inj split').1.symm, samePrerelease.symm, sameBuild.symm⟩

end Matches

/-- No number has more digits than `int` reads. -/
def ReadableNumbers (major minor patch : Text) : Prop :=
  forall part, part ∈ [major, minor, patch] -> part.length ≤ INT_MAX_STR_DIGITS

theorem readNumeric_of_short {text : Text} (short : text.length ≤ INT_MAX_STR_DIGITS) :
    readNumeric digits text = .ok (digits.number text) :=
  if_neg short.not_gt

theorem readNumeric_of_long {text : Text} (long : ¬text.length ≤ INT_MAX_STR_DIGITS) :
    readNumeric digits text = .error .tooManyDigits :=
  if_pos (not_le.mp long)

/-- A text that matches is read unless a number is too long. -/
theorem SemVer.parse_of_matches {value major minor patch : Text} {prerelease build : Option Text}
    (found : Matches digits (Text.strip value) major minor patch prerelease build) :
    SemVer.parse digits value = (do
      let first ← readNumeric digits major
      let second ← readNumeric digits minor
      let third ← readNumeric digits patch
      return { major := first, minor := second, patch := third, prerelease := prerelease, build := build }) := by
  rcases found.cut with ⟨outer, inner, split⟩
  have accepted : (isNumericPart digits major && isNumericPart digits minor && isNumericPart digits patch &&
      prerelease.all isIdentifiers && build.all isIdentifiers) = true := by
    rw [found.core major (by simp), found.core minor (by simp), found.core patch (by simp), found.prereleased, found.built]
    rfl
  rw [SemVer.parse, outer]
  dsimp only
  rw [inner]
  dsimp only
  rw [split]
  dsimp only
  rw [if_pos accepted]

theorem SemVer.parse_of_readable {value major minor patch : Text} {prerelease build : Option Text}
    (found : Matches digits (Text.strip value) major minor patch prerelease build)
    (readable : ReadableNumbers major minor patch) :
    SemVer.parse digits value =
      .ok
        { major := digits.number major
          minor := digits.number minor
          patch := digits.number patch
          prerelease := prerelease
          build := build } := by
  rw [SemVer.parse_of_matches found, readNumeric_of_short (readable major (by simp)),
    readNumeric_of_short (readable minor (by simp)), readNumeric_of_short (readable patch (by simp))]
  rfl

theorem readable_of_parse {value major minor patch : Text} {prerelease build : Option Text} {version : SemVer}
    (found : Matches digits (Text.strip value) major minor patch prerelease build)
    (parsed : SemVer.parse digits value = .ok version) : ReadableNumbers major minor patch := by
  have short : forall {text : Text} {n : Nat}, readNumeric digits text = .ok n -> text.length ≤ INT_MAX_STR_DIGITS := by
    intro text n read
    by_contra long
    rw [readNumeric_of_long long] at read
    cases read
  rw [SemVer.parse_of_matches found] at parsed
  rcases Run.ok_of_bind parsed with ⟨first, readFirst, parsed⟩
  rcases Run.ok_of_bind parsed with ⟨second, readSecond, parsed⟩
  rcases Run.ok_of_bind parsed with ⟨third, readThird, _⟩
  intro part member
  simp only [List.mem_cons, List.not_mem_nil, or_false] at member
  rcases member with rfl | rfl | rfl
  · exact short readFirst
  · exact short readSecond
  · exact short readThird

/-- What is accepted matches. -/
theorem exists_matches {value : Text} {version : SemVer} (parsed : SemVer.parse digits value = .ok version) :
    Exists fun major => Exists fun minor => Exists fun patch =>
      Matches digits (Text.strip value) major minor patch version.prerelease version.build := by
  rcases SemVer.exists_reads parsed with ⟨major, minor, patch, reads⟩
  exact ⟨major, minor, patch, reads.shape, reads.numerals, reads.identifiers.1, reads.identifiers.2⟩

end

/-! ## The pattern and the grammar -/

/-- Digits alone, more than one, of which the first is a zero. -/
structure IsPadded (identifier : Text) : Prop where
  digits : forall c, c ∈ identifier -> c.isDigit = true
  long : 1 < identifier.length
  zero : identifier.head? = some '0'

/-- Numbers in ASCII, and no padded identifier. -/
structure PlainlySpelled (major minor patch : Text) (prerelease : Option Text) : Prop where
  ascii : forall part, part ∈ [major, minor, patch] -> Text.isAscii part = true
  unpadded : forall identifiers, prerelease = some identifiers ->
    forall identifier, identifier ∈ List.splitOn '.' identifiers -> ¬IsPadded identifier

theorem isDigit_iff {c : Char} : c.isDigit = true <-> 48 ≤ c.toNat ∧ c.toNat ≤ 57 := by
  simp only [Char.isDigit, Bool.and_eq_true, decide_eq_true_eq, ge_iff_le, UInt32.le_iff_toNat_le]
  exact Iff.rfl

theorem isIdentifierChar_of_isDigit {c : Char} (digit : c.isDigit = true) : isIdentifierChar c = true := by
  simp [isIdentifierChar, Char.isAlphanum, digit]

section

variable (digits : Text.DecimalDigits)

theorem isDigit_eq_of_ascii {c : Char} (ascii : c.toNat < 128) : digits.isDigit c = c.isDigit := by
  rw [Bool.eq_iff_iff, isDigit_iff, Text.DecimalDigits.isDigit, digits.value_of_ascii c ascii]
  split
  · rename_i digit
    exact iff_of_true rfl digit
  · rename_i nonDigit
    exact iff_of_false Bool.false_ne_true nonDigit

/-- The numerals of the pattern that are in ASCII are the numeric identifiers. -/
theorem isNumericIdentifier_iff {part : Text} :
    IsNumericIdentifier part <-> isNumericPart digits part = true ∧ Text.isAscii part = true := by
  have plain : forall {c : Char}, c.isDigit = true -> c.toNat < 128 := by
    intro c digit
    have bounded := isDigit_iff.mp digit
    omega
  constructor
  · intro numeric
    cases numeric with
    | zero => exact ⟨rfl, rfl⟩
    | @positive first rest opening later =>
        have bounded : 49 ≤ first.toNat ∧ first.toNat ≤ 57 := opening
        constructor
        · refine Bool.or_eq_true_iff.mpr (Or.inr (Bool.and_eq_true_iff.mpr ⟨decide_eq_true bounded, ?_⟩))
          refine List.all_eq_true.mpr fun c member => ?_
          rw [isDigit_eq_of_ascii digits (plain (later c member))]
          exact later c member
        · refine List.all_eq_true.mpr fun c member => decide_eq_true ?_
          rcases List.mem_cons.mp member with same | member
          · rw [same]
            omega
          · exact plain (later c member)
  · rintro ⟨numeric, ascii⟩
    cases part with
    | nil => exact absurd numeric Bool.false_ne_true
    | cons first rest =>
        rcases Bool.or_eq_true_iff.mp numeric with zero | positive
        · rcases Bool.and_eq_true_iff.mp zero with ⟨isZero, alone⟩
          rw [eq_of_beq isZero, List.isEmpty_iff.mp alone]
          exact .zero
        · rcases Bool.and_eq_true_iff.mp positive with ⟨opening, decimal⟩
          refine .positive (of_decide_eq_true opening) fun c member => ?_
          have small : c.toNat < 128 := of_decide_eq_true (List.all_eq_true.mp ascii c (List.mem_cons_of_mem _ member))
          rw [← isDigit_eq_of_ascii digits small]
          exact List.all_eq_true.mp decimal c member

end

theorem IsNumericIdentifier.digits {text : Text} (numeric : IsNumericIdentifier text) :
    IsDigits text ∧ ¬IsPadded text := by
  cases numeric with
  | zero =>
      refine ⟨⟨List.cons_ne_nil _ _, fun c member => ?_⟩, fun padded => absurd padded.long (by decide)⟩
      rw [List.mem_singleton.mp member]
      rfl
  | @positive first rest opening later =>
      have bounded : 49 ≤ first.toNat ∧ first.toNat ≤ 57 := opening
      refine ⟨⟨List.cons_ne_nil _ _, fun c member => ?_⟩, fun padded => ?_⟩
      · rcases List.mem_cons.mp member with same | member
        · rw [same]
          exact isDigit_iff.mpr (by omega)
        · exact later c member
      · rw [Option.some.inj padded.zero] at bounded
        exact absurd bounded (by decide)

theorem isNumericIdentifier_of_unpadded {text : Text} (numeral : IsDigits text) (unpadded : ¬IsPadded text) :
    IsNumericIdentifier text := by
  cases text with
  | nil => exact absurd rfl numeral.nonempty
  | cons first rest =>
      by_cases zero : first = '0'
      · cases rest with
        | nil =>
            rw [zero]
            exact .zero
        | cons second rest => exact absurd ⟨numeral.digits, by simp, by simp [zero]⟩ unpadded
      · have bounded := isDigit_iff.mp (numeral.digits first List.mem_cons_self)
        have apart : first.toNat ≠ 48 := fun same => zero (Char.toNat_inj.mp same)
        have opening : 49 ≤ first.toNat ∧ first.toNat ≤ 57 := by omega
        exact .positive opening fun c member => numeral.digits c (List.mem_cons_of_mem _ member)

/-- An identifier either holds a character that is no digit or consists of digits. -/
theorem isBuildIdentifier_iff {text : Text} :
    IsBuildIdentifier text <-> text ≠ [] ∧ forall c, c ∈ text -> isIdentifierChar c = true := by
  constructor
  · rintro (alphanumeric | numeral)
    · rcases alphanumeric.nonDigit with ⟨c, member, _⟩
      exact ⟨List.ne_nil_of_mem member, alphanumeric.spelled⟩
    · exact ⟨numeral.nonempty, fun c member => isIdentifierChar_of_isDigit (numeral.digits c member)⟩
  · rintro ⟨nonempty, spelled⟩
    by_cases all : forall c, c ∈ text -> c.isDigit = true
    · exact Or.inr ⟨nonempty, all⟩
    · rcases not_forall.mp all with ⟨c, notDigit⟩
      rcases Classical.not_imp.mp notDigit with ⟨member, nonDigit⟩
      exact Or.inl ⟨spelled, c, member, Bool.eq_false_iff.mpr nonDigit⟩

theorem isPrereleaseIdentifier_iff {text : Text} :
    IsPrereleaseIdentifier text <-> IsBuildIdentifier text ∧ ¬IsPadded text := by
  constructor
  · rintro (alphanumeric | numeric)
    · refine ⟨Or.inl alphanumeric, fun padded => ?_⟩
      rcases alphanumeric.nonDigit with ⟨c, member, nonDigit⟩
      rw [padded.digits c member] at nonDigit
      cases nonDigit
    · exact ⟨Or.inr numeric.digits.1, numeric.digits.2⟩
  · rintro ⟨alphanumeric | numeral, unpadded⟩
    · exact Or.inl alphanumeric
    · exact Or.inr (isNumericIdentifier_of_unpadded numeral unpadded)

theorem exists_isDotSeparated_iff {isIdentifier : Text -> Prop}
    (solid : forall identifier, isIdentifier identifier -> '.' ∉ identifier) {text : Text} :
    (Exists fun pieces => IsDotSeparated isIdentifier pieces text) <->
      forall identifier, identifier ∈ List.splitOn '.' text -> isIdentifier identifier := by
  constructor
  · rintro ⟨pieces, separated⟩
    rw [separated.shape, List.splitOn_intercalate '.' (fun piece member => solid piece (separated.each piece member))
      separated.nonempty]
    exact separated.each
  · intro each
    exact ⟨List.splitOn '.' text, List.splitOn_ne_nil '.' text, (List.intercalate_splitOn '.').symm, each⟩

theorem dot_not_mem_of_isBuildIdentifier {identifier : Text} (accepted : IsBuildIdentifier identifier) :
    '.' ∉ identifier :=
  fun member => absurd ((isBuildIdentifier_iff.mp accepted).2 '.' member) (by decide)

theorem isIdentifiers_iff {text : Text} :
    isIdentifiers text = true <-> forall identifier, identifier ∈ List.splitOn '.' text -> IsBuildIdentifier identifier := by
  unfold isIdentifiers
  rw [List.all_eq_true]
  refine forall₂_congr fun identifier member => ?_
  simp [isBuildIdentifier_iff]

/-- The grammar is the pattern on texts that are plainly spelled. -/
theorem isValidSemVer_iff (digits : Text.DecimalDigits) {text major minor patch : Text} {prerelease build : Option Text} :
    IsValidSemVer text major minor patch prerelease build <->
      Matches digits text major minor patch prerelease build ∧ PlainlySpelled major minor patch prerelease := by
  have prereleased : forall identifiers : Text,
      (Exists fun pieces => IsDotSeparated IsPrereleaseIdentifier pieces identifiers) <->
        isIdentifiers identifiers = true ∧
          forall identifier, identifier ∈ List.splitOn '.' identifiers -> ¬IsPadded identifier := by
    intro identifiers
    rw [exists_isDotSeparated_iff fun identifier accepted =>
      dot_not_mem_of_isBuildIdentifier (isPrereleaseIdentifier_iff.mp accepted).1, isIdentifiers_iff, ← forall₂_and]
    exact forall₂_congr fun identifier _ => isPrereleaseIdentifier_iff
  have built : forall identifiers : Text,
      (Exists fun pieces => IsDotSeparated IsBuildIdentifier pieces identifiers) <-> isIdentifiers identifiers = true := by
    intro identifiers
    rw [exists_isDotSeparated_iff fun identifier accepted => dot_not_mem_of_isBuildIdentifier accepted, isIdentifiers_iff]
  constructor
  · intro valid
    refine ⟨⟨valid.shape, fun part member => ((isNumericIdentifier_iff digits).mp (valid.core part member)).1, ?_, ?_⟩,
      fun part member => ((isNumericIdentifier_iff digits).mp (valid.core part member)).2, ?_⟩
    · cases known : prerelease with
      | none => rfl
      | some identifiers => exact ((prereleased identifiers).mp (valid.prereleased identifiers known)).1
    · cases known : build with
      | none => rfl
      | some identifiers => exact (built identifiers).mp (valid.built identifiers known)
    · intro identifiers known
      exact ((prereleased identifiers).mp (valid.prereleased identifiers known)).2
  · rintro ⟨found, plain⟩
    refine ⟨found.shape, fun part member =>
      (isNumericIdentifier_iff digits).mpr ⟨found.core part member, plain.ascii part member⟩, ?_, ?_⟩
    · intro identifiers known
      have accepted := found.prereleased
      rw [known] at accepted
      exact (prereleased identifiers).mpr ⟨accepted, plain.unpadded identifiers known⟩
    · intro identifiers known
      have accepted := found.built
      rw [known] at accepted
      exact (built identifiers).mpr accepted

/-! ## What is accepted -/

/-- The text is accepted as the grammar says, and its version reads as the text. -/
structure SemVer.ParsesByGrammar (digits : Text.DecimalDigits) (value : Text) : Prop where
  accepts : (Exists fun version => SemVer.parse digits value = .ok version) <-> InGrammar (Text.strip value)
  renders : forall version, SemVer.parse digits value = .ok version -> version.text = Text.strip value

/-- The grammar is met on every text but those that match with readable numbers that are
not plainly spelled, and those of the grammar whose numbers are too long. -/
theorem SemVer.parses_by_grammar_iff (digits : Text.DecimalDigits) (value : Text) :
    SemVer.ParsesByGrammar digits value <->
      forall major minor patch prerelease build, Matches digits (Text.strip value) major minor patch prerelease build ->
        (ReadableNumbers major minor patch <-> PlainlySpelled major minor patch prerelease) := by
  constructor
  · intro parses major minor patch prerelease build found
    constructor
    · intro readable
      rcases parses.accepts.mp ⟨_, SemVer.parse_of_readable found readable⟩ with
        ⟨major', minor', patch', prerelease', build', valid⟩
      rcases (isValidSemVer_iff digits).mp valid with ⟨found', plain⟩
      rcases found.unique found' with ⟨rfl, rfl, rfl, rfl, rfl⟩
      exact plain
    · intro plain
      have valid : InGrammar (Text.strip value) :=
        ⟨major, minor, patch, prerelease, build, (isValidSemVer_iff digits).mpr ⟨found, plain⟩⟩
      rcases parses.accepts.mpr valid with ⟨version, parsed⟩
      exact readable_of_parse found parsed
  · intro condition
    refine ⟨⟨?_, ?_⟩, ?_⟩
    · rintro ⟨version, parsed⟩
      rcases exists_matches parsed with ⟨major, minor, patch, found⟩
      have plain := (condition major minor patch _ _ found).mp (readable_of_parse found parsed)
      exact ⟨major, minor, patch, _, _, (isValidSemVer_iff digits).mpr ⟨found, plain⟩⟩
    · rintro ⟨major, minor, patch, prerelease, build, valid⟩
      rcases (isValidSemVer_iff digits).mp valid with ⟨found, plain⟩
      exact ⟨_, SemVer.parse_of_readable found ((condition major minor patch prerelease build found).mpr plain)⟩
    · intro version parsed
      rcases exists_matches parsed with ⟨major, minor, patch, found⟩
      have readable := readable_of_parse found parsed
      have plain := (condition major minor patch _ _ found).mp readable
      have same : forall part, part ∈ [major, minor, patch] -> Nat.toDigits 10 (digits.number part) = part :=
        fun part member => toDigits_of_isNumericPart (found.core part member) (plain.ascii part member)
      have version_eq := Except.ok.inj (parsed.symm.trans (SemVer.parse_of_readable found readable))
      rw [found.shape, SemVer.text, congrArg SemVer.major version_eq, congrArg SemVer.minor version_eq,
        congrArg SemVer.patch version_eq, same major (by simp), same minor (by simp), same patch (by simp)]

/-- A numeric identifier with a leading zero is accepted. -/
theorem padded_identifier_is_accepted : ¬SemVer.ParsesByGrammar Text.asciiDigits "1.0.0-01".toList := by
  intro parses
  have accepted : Exists fun version => SemVer.parse Text.asciiDigits "1.0.0-01".toList = .ok version := ⟨_, rfl⟩
  rcases parses.accepts.mp accepted with ⟨major, minor, patch, prerelease, build, valid⟩
  rcases (isValidSemVer_iff Text.asciiDigits).mp valid with ⟨found, plain⟩
  have known : prerelease = some "01".toList := by
    rcases found.cut with ⟨outer, inner, _⟩
    have outer' : cutAt '+' (Text.strip "1.0.0-01".toList) = ("1.0.0-01".toList, none) := by decide
    rw [outer] at outer'
    rw [(Prod.mk.inj outer').1] at inner
    exact (Prod.mk.inj inner).2.symm.trans (by decide)
  have padded : IsPadded "01".toList := by
    refine ⟨?_, by decide, by decide⟩
    have all : "01".toList.all Char.isDigit = true := by decide
    exact List.all_eq_true.mp all
  exact plain.unpadded _ known _ (by decide) padded

end Versioning
end ApexQuant
