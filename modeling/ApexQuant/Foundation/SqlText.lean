import ApexQuant.Foundation.Text

namespace ApexQuant
namespace Foundation

/-!
# The lexical rule of SQL scripts

A scanner that goes through a script character by character, with one character of
lookahead, and knows whether it is in code, in a literal or quoted identifier, or in a
comment.  The statements of a script are what stands between the semicolons in code,
as the words that blanks and comments keep apart.
-/

namespace SqlText

/-- What the scanner sees. -/
inductive Lexeme where
  | char (c : Char)
  | blank
  | comment
  | semicolon
  deriving DecidableEq

/-- Where the scanner is. -/
inductive Mode where
  | code
  | quoted (quote : Char)
  | escaped (quote : Char)
  | lineComment
  | blockOpening
  | blockComment
  | blockClosing
  deriving DecidableEq

/-- Apostrophes, quotation marks and backticks. -/
def isQuote (c : Char) : Bool :=
  c == '\x27' || c == '\x22' || c == '\x60'

/-- The lexeme of a character, by the next one. -/
def emit : Mode -> Char -> Option Char -> Option Lexeme
  | .code, c, peek =>
      if (c = '-' ∧ peek = some '-') ∨ (c = '/' ∧ peek = some '*') then some .comment
      else if c = ';' then some .semicolon
      else if Text.isSpace c then some .blank
      else some (.char c)
  | .quoted _, c, _ => some (.char c)
  | .escaped _, c, _ => some (.char c)
  | .lineComment, c, _ => if c = '\n' then some .blank else none
  | .blockOpening, _, _ => none
  | .blockComment, _, _ => none
  | .blockClosing, _, _ => none

/-- Where a character leads. -/
def next : Mode -> Char -> Option Char -> Mode
  | .code, c, peek =>
      if c = '-' ∧ peek = some '-' then .lineComment
      else if c = '/' ∧ peek = some '*' then .blockOpening
      else if isQuote c then .quoted c
      else .code
  | .quoted quote, c, _ => if c = '\\' then .escaped quote else if c = quote then .code else .quoted quote
  | .escaped quote, _, _ => .quoted quote
  | .lineComment, c, _ => if c = '\n' then .code else .lineComment
  | .blockOpening, _, _ => .blockComment
  | .blockComment, c, peek => if c = '*' ∧ peek = some '/' then .blockClosing else .blockComment
  | .blockClosing, _, _ => .code

/-- The lexemes of a text. -/
def scan : Mode -> Text -> List Lexeme
  | _, [] => []
  | mode, c :: rest => (emit mode c rest.head?).toList ++ scan (next mode c rest.head?) rest

/-- Where a text leads. -/
def after : Mode -> Text -> Mode
  | mode, [] => mode
  | mode, c :: rest => after (next mode c rest.head?) rest

/-! ## Words and statements -/

/-- What keeps words apart. -/
def Lexeme.isGap : Lexeme -> Bool
  | .blank => true
  | .comment => true
  | _ => false

/-- What does not count at the end. -/
def Lexeme.isFaint : Lexeme -> Bool
  | .blank => true
  | .char c => Text.isSpace c
  | _ => false

/-- The words of a piece of a script. -/
def words (piece : List Lexeme) : List (List Lexeme) :=
  ((piece.rdropWhile Lexeme.isFaint).splitOnP Lexeme.isGap).filter fun word => !word.isEmpty

/-- A text as one statement. -/
def read (text : Text) : List (List Lexeme) :=
  words (scan .code text)

/-- What stands between the semicolons. -/
def pieces (lexemes : List Lexeme) : List (List Lexeme) :=
  List.splitOn .semicolon lexemes

/-- The statements of a script, which have words. -/
def statements (text : Text) : List (List (List Lexeme)) :=
  ((pieces (scan .code text)).map words).filter fun statement => !statement.isEmpty

example : statements "SELECT 'a;--b';-- c;\nSELECT/* ; */1;".toList =
    [read "SELECT 'a;--b'".toList, read "SELECT 1".toList] := by
  decide

/-! ## Texts one after the other -/

/-- The last character and the first one are not read together. -/
def Apart (before behind : Text) : Prop :=
  forall x y, before.getLast? = some x -> behind.head? = some y ->
    ¬(x = '-' ∧ y = '-') ∧ ¬(x = '/' ∧ y = '*') ∧ ¬(x = '*' ∧ y = '/')

/-- A character that is read by itself. -/
def isLone (c : Char) : Bool :=
  c != '-' && c != '/' && c != '*'

theorem apart_of_head {before behind : Text} (lone : forall y, behind.head? = some y -> isLone y = true) :
    Apart before behind := by
  intro x y _ opening
  have alone := lone y opening
  refine ⟨?_, ?_, ?_⟩ <;>
  · rintro ⟨_, rfl⟩
    exact absurd alone (by decide)

theorem apart_of_last {before behind : Text} (lone : forall x, before.getLast? = some x -> isLone x = true) :
    Apart before behind := by
  intro x y closing _
  have alone := lone x closing
  refine ⟨?_, ?_, ?_⟩ <;>
  · rintro ⟨rfl, _⟩
    exact absurd alone (by decide)

theorem emit_none_of_apart {mode : Mode} {x : Char} {behind : Text} (apart : Apart [x] behind) :
    emit mode x behind.head? = emit mode x none ∧ next mode x behind.head? = next mode x none := by
  cases opening : behind.head? with
  | none => exact ⟨rfl, rfl⟩
  | some y =>
      rcases apart x y rfl opening with ⟨hyphens, opens, closes⟩
      cases mode with
      | code => simp [emit, next, hyphens, opens]
      | blockComment => simp [emit, next, closes]
      | _ => exact ⟨rfl, rfl⟩

theorem scan_append {mode : Mode} {before behind : Text} (apart : Apart before behind) :
    scan mode (before ++ behind) = scan mode before ++ scan (after mode before) behind := by
  induction before generalizing mode with
  | nil => rfl
  | cons x rest inductionHypothesis =>
      cases rest with
      | nil =>
          rcases @emit_none_of_apart mode _ _ apart with ⟨same, same'⟩
          rw [List.singleton_append, scan, scan, after, List.head?_nil, same, same', scan, after, List.append_nil]
      | cons z rest =>
          rw [List.cons_append, scan, scan, after, List.cons_append, List.head?_cons, List.head?_cons,
            ← List.cons_append, inductionHypothesis, List.append_assoc]
          intro a b closing opening
          exact apart a b ((List.getLast?_cons_cons ..).trans closing) opening

theorem after_append {mode : Mode} {before behind : Text} (apart : Apart before behind) :
    after mode (before ++ behind) = after (after mode before) behind := by
  induction before generalizing mode with
  | nil => rfl
  | cons x rest inductionHypothesis =>
      cases rest with
      | nil =>
          rcases @emit_none_of_apart mode _ _ apart with ⟨_, same⟩
          rw [List.singleton_append, after, after, List.head?_nil, same, after]
      | cons z rest =>
          rw [List.cons_append, after, after, List.cons_append, List.head?_cons, List.head?_cons, ← List.cons_append,
            inductionHypothesis]
          intro a b closing opening
          exact apart a b ((List.getLast?_cons_cons ..).trans closing) opening

/-! ## Blanks around a text -/

theorem emit_space {mode : Mode} {c : Char} (space : Text.isSpace c = true) {lexeme : Lexeme}
    (emitted : emit mode c none = some lexeme) : lexeme.isFaint = true := by
  cases mode with
  | code =>
      have notSemicolon : c ≠ ';' := by
        rintro rfl
        exact absurd space (by decide)
      simp only [emit, reduceCtorEq, and_false, or_self, if_false, if_neg notSemicolon, if_pos space] at emitted
      rw [← Option.some.inj emitted]
      rfl
  | quoted quote =>
      rw [← Option.some.inj emitted]
      exact space
  | escaped quote =>
      rw [← Option.some.inj emitted]
      exact space
  | lineComment =>
      change (if c = '\n' then some Lexeme.blank else none) = some lexeme at emitted
      by_cases newline : c = '\n'
      · rw [if_pos newline] at emitted
        rw [← Option.some.inj emitted]
        rfl
      · rw [if_neg newline] at emitted
        cases emitted
  | blockOpening => cases emitted
  | blockComment => cases emitted
  | blockClosing => cases emitted

theorem next_space {c : Char} (space : Text.isSpace c = true) (peek : Option Char) : next .code c peek = .code := by
  have plain : c ≠ '-' ∧ c ≠ '/' ∧ isQuote c = false := by
    refine ⟨?_, ?_, ?_⟩
    · rintro rfl
      exact absurd space (by decide)
    · rintro rfl
      exact absurd space (by decide)
    · by_contra quote
      rw [Bool.not_eq_false, isQuote, Bool.or_eq_true, Bool.or_eq_true, beq_iff_eq, beq_iff_eq, beq_iff_eq] at quote
      rcases quote with (rfl | rfl) | rfl
      · exact absurd space (by decide)
      · exact absurd space (by decide)
      · exact absurd space (by decide)
  simp [next, plain]

theorem scan_space_cons {c : Char} (space : Text.isSpace c = true) (text : Text) :
    scan .code (c :: text) = .blank :: scan .code text := by
  have plain : c ≠ '-' ∧ c ≠ '/' ∧ c ≠ ';' := by
    refine ⟨?_, ?_, ?_⟩ <;>
    · rintro rfl
      exact absurd space (by decide)
  simp [scan, emit, next_space, plain, space]

theorem words_blank_cons (piece : List Lexeme) : words (.blank :: piece) = words piece := by
  have faint : Lexeme.blank.isFaint = true := rfl
  by_cases empty : piece.rdropWhile Lexeme.isFaint = []
  · have all : (Lexeme.blank :: piece).rdropWhile Lexeme.isFaint = [] := by
      rw [List.rdropWhile_eq_nil_iff] at empty ⊢
      exact List.forall_mem_cons.mpr ⟨faint, empty⟩
    rw [words, words, all, empty]
  · have kept : (Lexeme.blank :: piece).rdropWhile Lexeme.isFaint = .blank :: piece.rdropWhile Lexeme.isFaint := by
      rw [List.rdropWhile, List.reverse_cons, List.dropWhile_append, if_neg, List.reverse_append]
      · rfl
      · intro none
        exact empty (List.reverse_eq_nil_iff.mpr (List.isEmpty_iff.mp none))
    have gap : Lexeme.blank.isGap = true := rfl
    rw [words, words, kept, List.splitOnP_cons_eq_if_modifyHead, if_pos gap, List.filter_cons_of_neg (by simp)]

theorem words_concat_faint {lexeme : Lexeme} (faint : lexeme.isFaint = true) (piece : List Lexeme) :
    words (piece ++ [lexeme]) = words piece := by
  rw [words, words, List.rdropWhile_concat_pos _ _ _ faint]

/-- Blanks around a statement do not count. -/
theorem read_strip (text : Text) : read (Text.strip text) = read text := by
  have before : forall text : Text, read (text.dropWhile Text.isSpace) = read text := by
    intro text
    induction text with
    | nil => rfl
    | cons c rest inductionHypothesis =>
        by_cases space : Text.isSpace c = true
        · rw [List.dropWhile_cons_of_pos space, inductionHypothesis, read, read, scan_space_cons space, words_blank_cons]
        · rw [List.dropWhile_cons_of_neg space]
  have behind : forall text : Text, read (text.rdropWhile Text.isSpace) = read text := by
    intro text
    induction text using List.reverseRecOn with
    | nil => rfl
    | append_singleton rest c inductionHypothesis =>
        by_cases space : Text.isSpace c = true
        · have apart : Apart rest [c] := by
            refine apart_of_head fun y opening => ?_
            rw [← Option.some.inj opening, isLone]
            have solid : c ≠ '-' ∧ c ≠ '/' ∧ c ≠ '*' := by
              refine ⟨?_, ?_, ?_⟩ <;>
              · rintro rfl
                exact absurd space (by decide)
            simp [solid]
          rw [List.rdropWhile_concat_pos _ _ _ space, inductionHypothesis, read, read, scan_append apart]
          change _ = words (_ ++ ((emit (after .code rest) c none).toList ++ []))
          rw [List.append_nil]
          cases emitted : emit (after .code rest) c none with
          | none => rw [Option.toList_none, List.append_nil]
          | some lexeme => exact (words_concat_faint (emit_space space emitted) _).symm
        · rw [List.rdropWhile_concat_neg _ _ _ space]
  rw [Text.strip, behind, before]

/-! ## Pieces -/

/-- Nothing but blanks. -/
def isBlank (piece : List Lexeme) : Bool :=
  piece.all fun lexeme => lexeme == .blank

theorem emit_code_solid {c : Char} (solid : Text.isSpace c = false) (peek : Option Char) :
    Exists fun lexeme => emit .code c peek = some lexeme ∧ lexeme ≠ .blank := by
  rw [emit]
  by_cases comment : (c = '-' ∧ peek = some '-') ∨ (c = '/' ∧ peek = some '*')
  · rw [if_pos comment]
    exact ⟨.comment, rfl, nofun⟩
  · rw [if_neg comment, solid]
    by_cases semicolon : c = ';'
    · rw [if_pos semicolon]
      exact ⟨.semicolon, rfl, nofun⟩
    · rw [if_neg semicolon]
      exact ⟨.char c, rfl, nofun⟩

theorem isBlank_scan_iff {text : Text} : isBlank (scan .code text) = true <-> Text.strip text = [] := by
  rw [Text.strip_eq_nil_iff, isBlank, List.all_eq_true]
  induction text with
  | nil => exact iff_of_true (fun _ member => absurd member List.not_mem_nil) fun _ member => absurd member List.not_mem_nil
  | cons c rest inductionHypothesis =>
      by_cases space : Text.isSpace c = true
      · rw [scan_space_cons space, List.forall_mem_cons, List.forall_mem_cons, inductionHypothesis]
        exact and_congr_left fun _ => iff_of_true rfl space
      · refine iff_of_false (fun all => ?_) fun all => space (all c List.mem_cons_self)
        rcases emit_code_solid (Bool.eq_false_iff.mpr space) rest.head? with ⟨lexeme, emitted, notBlank⟩
        rw [scan, emitted] at all
        exact notBlank (beq_iff_eq.mp (all lexeme List.mem_cons_self))

/-- The pieces that are not blank, as words. -/
def spoken (lexemes : List Lexeme) : List (List (List Lexeme)) :=
  ((pieces lexemes).filter fun piece => !isBlank piece).map words

theorem spoken_of_solid {piece : List Lexeme} (solid : .semicolon ∉ piece) :
    spoken piece = if isBlank piece then [] else [words piece] := by
  rw [spoken, pieces, List.splitOn_eq_singleton solid, List.filter_singleton]
  cases isBlank piece with
  | true => rfl
  | false => rfl

theorem spoken_append_semicolon (piece rest : List Lexeme) :
    spoken (piece ++ .semicolon :: rest) = spoken piece ++ spoken rest := by
  rw [spoken, spoken, spoken, pieces, pieces, pieces, List.splitOn_append_cons_self, List.filter_append, List.map_append]

theorem spoken_blank_cons (rest : List Lexeme) : spoken (.blank :: rest) = spoken rest := by
  rw [spoken, spoken, pieces, pieces, List.splitOn_cons_eq_if_modifyHead, if_neg (by decide)]
  rcases List.exists_cons_of_ne_nil (List.splitOn_ne_nil Lexeme.semicolon rest) with ⟨first, others, shape⟩
  have same : isBlank (.blank :: first) = isBlank first := rfl
  rw [shape, List.modifyHead_cons, List.filter_cons, List.filter_cons, same]
  split
  · rw [List.map_cons, List.map_cons, words_blank_cons]
  · rfl

theorem mem_words {lexeme : Lexeme} {piece : List Lexeme} (member : lexeme ∈ piece) (solid : lexeme.isGap = false)
    (strong : lexeme.isFaint = false) : Exists fun word => word ∈ words piece ∧ lexeme ∈ word := by
  have kept : lexeme ∈ piece.rdropWhile Lexeme.isFaint := by
    have whole : piece.rdropWhile Lexeme.isFaint ++ piece.rtakeWhile Lexeme.isFaint = piece :=
      List.rdropWhile_append_rtakeWhile
    rw [← whole] at member
    rcases List.mem_append.mp member with kept | dropped
    · exact kept
    · rw [List.mem_rtakeWhile_imp dropped] at strong
      cases strong
  have split : forall lexemes : List Lexeme, lexeme ∈ lexemes ->
      Exists fun word => word ∈ lexemes.splitOnP Lexeme.isGap ∧ lexeme ∈ word := by
    intro lexemes inside
    induction lexemes with
    | nil => exact absurd inside List.not_mem_nil
    | cons first rest inductionHypothesis =>
        rw [List.splitOnP_cons_eq_if_modifyHead]
        by_cases gap : first.isGap = true
        · rw [if_pos gap]
          rcases List.mem_cons.mp inside with rfl | later
          · rw [gap] at solid
            cases solid
          · rcases inductionHypothesis later with ⟨word, listed, found⟩
            exact ⟨word, List.mem_cons_of_mem _ listed, found⟩
        · rw [if_neg gap]
          rcases List.exists_cons_of_ne_nil (List.splitOnP_ne_nil Lexeme.isGap rest) with ⟨word, others, shape⟩
          rw [shape] at inductionHypothesis ⊢
          rw [List.modifyHead_cons]
          rcases List.mem_cons.mp inside with rfl | later
          · exact ⟨lexeme :: word, List.mem_cons_self, List.mem_cons_self⟩
          · rcases inductionHypothesis later with ⟨found, listed, within⟩
            rcases List.mem_cons.mp listed with rfl | listed
            · exact ⟨first :: found, List.mem_cons_self, List.mem_cons_of_mem _ within⟩
            · exact ⟨found, List.mem_cons_of_mem _ listed, within⟩
  rcases split _ kept with ⟨word, listed, found⟩
  refine ⟨word, List.mem_filter.mpr ⟨listed, ?_⟩, found⟩
  rw [Bool.not_eq_true', List.isEmpty_eq_false_iff]
  exact List.ne_nil_of_mem found

theorem mem_of_mem_words {lexeme : Lexeme} {piece : List Lexeme} {word : List Lexeme} (listed : word ∈ words piece)
    (member : lexeme ∈ word) : lexeme ∈ piece := by
  have split : forall lexemes : List Lexeme, forall word, word ∈ lexemes.splitOnP Lexeme.isGap -> lexeme ∈ word ->
      lexeme ∈ lexemes := by
    intro lexemes
    induction lexemes with
    | nil =>
        intro word listed inside
        rw [List.splitOnP_nil, List.mem_singleton] at listed
        rw [listed] at inside
        exact inside
    | cons first rest inductionHypothesis =>
        intro word listed inside
        rw [List.splitOnP_cons_eq_if_modifyHead] at listed
        by_cases gap : first.isGap = true
        · rw [if_pos gap] at listed
          rcases List.mem_cons.mp listed with rfl | listed
          · exact absurd inside List.not_mem_nil
          · exact List.mem_cons_of_mem _ (inductionHypothesis word listed inside)
        · rw [if_neg gap] at listed
          rcases List.exists_cons_of_ne_nil (List.splitOnP_ne_nil Lexeme.isGap rest) with ⟨head, others, shape⟩
          rw [shape] at inductionHypothesis listed
          rcases List.mem_cons.mp listed with rfl | listed
          · rcases List.mem_cons.mp inside with rfl | inside
            · exact List.mem_cons_self
            · exact List.mem_cons_of_mem _ (inductionHypothesis head List.mem_cons_self inside)
          · exact List.mem_cons_of_mem _ (inductionHypothesis word (List.mem_cons_of_mem _ listed) inside)
  have inside := split _ word (List.mem_filter.mp listed).1 member
  exact (List.rdropWhile_prefix Lexeme.isFaint piece).subset inside

end SqlText
end Foundation
end ApexQuant
