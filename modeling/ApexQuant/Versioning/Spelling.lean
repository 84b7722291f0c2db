import ApexQuant.Foundation.Numerals
import ApexQuant.Foundation.Runs
import ApexQuant.Versioning.SemVer

namespace ApexQuant
namespace Versioning

open Foundation

/-!
# How a version is spelled

What `SemVer.parse` accepts is the text of a version between blanks, whose numbers
may be written with the decimal digits of any script.  Without blanks and in ASCII
the version has one spelling.
-/

/-- Two texts with a separator between them, or the first alone. -/
def joinAt (separator : Char) (before : Text) (after : Option Text) : Text :=
  before ++ after.elim [] (separator :: ·)

theorem joinAt_cutAt (separator : Char) (text : Text) :
    joinAt separator (cutAt separator text).1 (cutAt separator text).2 = text := by
  unfold cutAt joinAt
  dsimp only
  have whole := List.takeWhile_append_dropWhile (p := fun c => decide (c ≠ separator)) (l := text)
  cases left : text.dropWhile fun c => decide (c ≠ separator) with
  | nil =>
      rw [left, List.append_nil] at whole
      rw [whole]
      exact List.append_nil text
  | cons c rest =>
      have opening := List.head?_dropWhile_not (fun c => decide (c ≠ separator)) text
      rw [left, List.head?_cons] at opening
      have same : c = separator := by_contra fun apart => Bool.false_ne_true (opening.symm.trans (decide_eq_true apart))
      rw [left, same] at whole
      exact whole

theorem mem_joinAt {separator c : Char} {before : Text} {after : Option Text} (member : c ∈ joinAt separator before after) :
    c ∈ before ∨ c = separator ∨ Exists fun rest => after = some rest ∧ c ∈ rest := by
  rcases List.mem_append.mp member with first | second
  · exact Or.inl first
  · cases after with
    | none => exact absurd second List.not_mem_nil
    | some rest =>
        rcases List.mem_cons.mp second with same | later
        · exact Or.inr (Or.inl same)
        · exact Or.inr (Or.inr ⟨rest, rfl, later⟩)

/-- The three numbers, the prerelease and the build metadata, with their separators. -/
def spell (major minor patch : Text) (prerelease build : Option Text) : Text :=
  joinAt '+' (joinAt '-' (List.intercalate ['.'] [major, minor, patch]) prerelease) build

theorem intercalate_three (major minor patch : Text) :
    List.intercalate ['.'] [major, minor, patch] = major ++ '.' :: (minor ++ '.' :: patch) := by
  simp [List.intercalate]

/-- What a text says that is accepted as a version. -/
structure SemVer.Reads (digits : Text.DecimalDigits) (value : Text) (version : SemVer) (major minor patch : Text) :
    Prop where
  shape : Text.strip value = spell major minor patch version.prerelease version.build
  numerals : forall part, part ∈ [major, minor, patch] -> isNumericPart digits part = true
  numbers : version.major = digits.number major ∧ version.minor = digits.number minor ∧
    version.patch = digits.number patch
  identifiers : version.prerelease.all isIdentifiers = true ∧ version.build.all isIdentifiers = true

theorem number_of_readNumeric {digits : Text.DecimalDigits} {text : Text} {n : Nat}
    (read : readNumeric digits text = .ok n) : n = digits.number text := by
  unfold readNumeric at read
  split at read
  · exact absurd read nofun
  · exact (Except.ok.inj read).symm

/-- What `SemVer.parse` has read when it returns. -/
theorem SemVer.exists_reads {digits : Text.DecimalDigits} {value : Text} {version : SemVer}
    (parsed : SemVer.parse digits value = .ok version) :
    Exists fun major => Exists fun minor => Exists fun patch => SemVer.Reads digits value version major minor patch := by
  rcases outer : cutAt '+' (Text.strip value) with ⟨versioned, build⟩
  rcases inner : cutAt '-' versioned with ⟨core, prerelease⟩
  have whole := joinAt_cutAt '+' (Text.strip value)
  have part := joinAt_cutAt '-' versioned
  rw [outer] at whole
  rw [inner] at part
  rw [SemVer.parse, outer] at parsed
  dsimp only at parsed
  rw [inner] at parsed
  dsimp only at parsed
  split at parsed
  · rename_i major minor patch pieces
    split at parsed
    · rename_i accepted
      simp only [Bool.and_eq_true] at accepted
      rcases accepted with ⟨⟨⟨⟨majorNumeral, minorNumeral⟩, patchNumeral⟩, prereleased⟩, built⟩
      rcases Run.ok_of_bind parsed with ⟨first, readFirst, parsed⟩
      rcases Run.ok_of_bind parsed with ⟨second, readSecond, parsed⟩
      rcases Run.ok_of_bind parsed with ⟨third, readThird, parsed⟩
      cases parsed
      refine ⟨major, minor, patch, ?_, ?_, ?_, prereleased, built⟩
      · have joined : List.intercalate ['.'] [major, minor, patch] = core := by
          rw [← pieces]
          exact List.intercalate_splitOn '.'
        rw [spell, joined, ← whole, ← part]
      · intro numeral member
        simp only [List.mem_cons, List.not_mem_nil, or_false] at member
        rcases member with rfl | rfl | rfl
        · exact majorNumeral
        · exact minorNumeral
        · exact patchNumeral
      · exact ⟨number_of_readNumeric readFirst, number_of_readNumeric readSecond, number_of_readNumeric readThird⟩
    · cases parsed
  · cases parsed

/-! ## The canonical spelling -/

/-- A text without blanks around it, in ASCII. -/
def CanonicalSpelling (value : Text) : Prop :=
  Text.strip value = value ∧ Text.isAscii value = true

instance CanonicalSpelling.decidable (value : Text) : Decidable (CanonicalSpelling value) :=
  inferInstanceAs (Decidable (_ ∧ _))

/-- The text of a version. -/
def SemVer.text (version : SemVer) : Text :=
  spell (Nat.toDigits 10 version.major) (Nat.toDigits 10 version.minor) (Nat.toDigits 10 version.patch)
    version.prerelease version.build

/-- A numeral in ASCII is the decimal text of its number. -/
theorem toDigits_of_isNumericPart {digits : Text.DecimalDigits} {numeral : Text}
    (numeric : isNumericPart digits numeral = true) (plain : Text.isAscii numeral = true) :
    Nat.toDigits 10 (digits.number numeral) = numeral := by
  cases numeral with
  | nil => exact absurd numeric Bool.false_ne_true
  | cons first rest =>
      rcases Bool.or_eq_true_iff.mp numeric with zero | positive
      · rcases Bool.and_eq_true_iff.mp zero with ⟨isZero, alone⟩
        rw [eq_of_beq isZero, List.isEmpty_iff.mp alone]
        change Nat.toDigits 10 (0 * 10 + (digits.value '0').getD 0) = ['0']
        rw [show digits.value '0' = some 0 from digits.value_of_ascii '0' (by decide)]
        rfl
      · rcases Bool.and_eq_true_iff.mp positive with ⟨opening, decimal⟩
        refine (Text.DecimalDigits.toDigits_number digits (of_decide_eq_true opening) ?_).2
        intro c member
        have small : c.toNat < 128 := of_decide_eq_true (List.all_eq_true.mp plain c (List.mem_cons_of_mem _ member))
        have digit := List.all_eq_true.mp decimal c member
        rw [Text.DecimalDigits.isDigit, digits.value_of_ascii c small] at digit
        by_contra outside
        rw [if_neg outside] at digit
        exact Bool.false_ne_true digit

/-- A canonical text that is accepted is the text of its version. -/
theorem SemVer.text_of_parse {digits : Text.DecimalDigits} {value : Text} {version : SemVer}
    (parsed : SemVer.parse digits value = .ok version) (canonical : CanonicalSpelling value) : version.text = value := by
  rcases SemVer.exists_reads parsed with ⟨major, minor, patch, reads⟩
  have shape := reads.shape
  rw [canonical.1] at shape
  have plain : forall part, part ∈ [major, minor, patch] -> Text.isAscii part = true := by
    intro part member
    rw [Text.isAscii, List.all_eq_true]
    intro c inside
    have listed : c ∈ value := by
      rw [shape, spell, joinAt, joinAt, intercalate_three]
      refine List.mem_append_left _ (List.mem_append_left _ ?_)
      simp only [List.mem_cons, List.not_mem_nil, or_false] at member
      rcases member with rfl | rfl | rfl
      · exact List.mem_append_left _ inside
      · exact List.mem_append_right _ (List.mem_cons_of_mem _ (List.mem_append_left _ inside))
      · exact List.mem_append_right _ (List.mem_cons_of_mem _ (List.mem_append_right _
          (List.mem_cons_of_mem _ inside)))
    exact List.all_eq_true.mp canonical.2 c listed
  have same : forall part, part ∈ [major, minor, patch] -> Nat.toDigits 10 (digits.number part) = part :=
    fun part member => toDigits_of_isNumericPart (reads.numerals part member) (plain part member)
  rcases reads.numbers with ⟨first, second, third⟩
  rw [SemVer.text, first, second, third, same major (by simp), same minor (by simp), same patch (by simp), ← shape]

/-- Canonical texts of one version are one text. -/
theorem eq_of_parse_eq {digits : Text.DecimalDigits} {left right : Text} {version : SemVer}
    (parsed : SemVer.parse digits left = .ok version) (parsed' : SemVer.parse digits right = .ok version)
    (canonical : CanonicalSpelling left) (canonical' : CanonicalSpelling right) : left = right :=
  (SemVer.text_of_parse parsed canonical).symm.trans (SemVer.text_of_parse parsed' canonical')

/-! ## Colons -/

theorem mem_strip {text : Text} {c : Char} (member : c ∈ text) (solid : Text.isSpace c = false) :
    c ∈ Text.strip text := by
  have kept : forall {piece : Text}, c ∈ piece -> c ∈ piece.dropWhile Text.isSpace := by
    intro piece inside
    rw [← List.takeWhile_append_dropWhile (p := Text.isSpace) (l := piece)] at inside
    rcases List.mem_append.mp inside with blank | later
    · rw [List.mem_takeWhile_imp blank] at solid
      exact absurd solid nofun
    · exact later
  rw [Text.strip, List.rdropWhile, List.mem_reverse]
  exact kept (List.mem_reverse.mpr (kept member))

theorem colon_not_mem_numeral {digits : Text.DecimalDigits} {numeral : Text}
    (numeric : isNumericPart digits numeral = true) : ':' ∉ numeral := by
  intro member
  cases numeral with
  | nil => exact absurd member List.not_mem_nil
  | cons first rest =>
      rcases Bool.or_eq_true_iff.mp numeric with zero | positive
      · rcases Bool.and_eq_true_iff.mp zero with ⟨isZero, alone⟩
        rw [eq_of_beq isZero, List.isEmpty_iff.mp alone] at member
        exact absurd member (by decide)
      · rcases Bool.and_eq_true_iff.mp positive with ⟨opening, decimal⟩
        rcases List.mem_cons.mp member with same | later
        · rw [← same] at opening
          exact absurd opening (by decide)
        · have digit := List.all_eq_true.mp decimal ':' later
          rw [Text.DecimalDigits.isDigit, digits.value_of_ascii ':' (by decide), if_neg (by decide)] at digit
          exact Bool.false_ne_true digit

theorem colon_not_mem_identifiers {text : Text} (accepted : isIdentifiers text = true) : ':' ∉ text := by
  intro member
  rcases Text.mem_of_splitOn '.' member with same | ⟨piece, listed, inside⟩
  · exact absurd same (by decide)
  · have spelled := (Bool.and_eq_true_iff.mp (List.all_eq_true.mp accepted piece listed)).2
    exact absurd (List.all_eq_true.mp spelled ':' inside) (by decide)

/-- No text that is accepted as a version contains a colon. -/
theorem SemVer.colon_not_mem {digits : Text.DecimalDigits} {value : Text} {version : SemVer}
    (parsed : SemVer.parse digits value = .ok version) : ':' ∉ value := by
  rcases SemVer.exists_reads parsed with ⟨major, minor, patch, reads⟩
  intro member
  have inside := mem_strip member (by decide)
  rw [reads.shape, spell] at inside
  rcases reads.identifiers with ⟨prereleased, built⟩
  rcases mem_joinAt inside with versioned | same | ⟨build, known, inside⟩
  · rcases mem_joinAt versioned with core | same | ⟨prerelease, known, inside⟩
    · rw [intercalate_three] at core
      simp only [List.mem_append, List.mem_cons] at core
      rcases core with inside | same | inside | same | inside
      · exact colon_not_mem_numeral (reads.numerals major (by simp)) inside
      · exact absurd same (by decide)
      · exact colon_not_mem_numeral (reads.numerals minor (by simp)) inside
      · exact absurd same (by decide)
      · exact colon_not_mem_numeral (reads.numerals patch (by simp)) inside
    · exact absurd same (by decide)
    · rw [known] at prereleased
      exact colon_not_mem_identifiers prereleased inside
  · exact absurd same (by decide)
  · rw [known] at built
    exact colon_not_mem_identifiers built inside

end Versioning
end ApexQuant
