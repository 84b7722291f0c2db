import ApexQuant.Migrations.Statements

namespace ApexQuant
namespace Migrations

open Foundation

/-!
# Where the lines of a script go

`split_sql` cuts the lines that it keeps into consecutive pieces.  A piece gives one
statement, which has the lines of the piece up to blanks before it and blanks and
semicolons behind it, or it gives none, and then it holds nothing else.
-/

/-- A blank or a semicolon. -/
def Light (c : Char) : Prop :=
  Text.isSpace c = true ∨ c = ';'

/-- Nothing but blanks and semicolons. -/
def Idle (line : Text) : Prop :=
  forall c, c ∈ line -> Light c

/-- Consecutive kept lines, with the statement that is made of them. -/
structure Piece where
  lines : List Text
  statement : Option Text

/-- What the lines are up to the edges: blank lines in front and the blanks that open the
first line are gone, and so are the blanks and semicolons that close the last one and the
idle lines behind it. -/
inductive UpToEdges : List Text -> List Text -> Prop where
  | intro {before after inner behind : List Text} {opening first last closing : Text}
      (blank : forall line, line ∈ before -> forall c, c ∈ line -> Text.isSpace c = true)
      (opens : forall c, c ∈ opening -> Text.isSpace c = true)
      (same : first :: after = inner ++ (last ++ closing) :: behind)
      (closes : forall c, c ∈ closing -> Light c) (idle : forall line, line ∈ behind -> Idle line) :
      UpToEdges (before ++ (opening ++ first) :: after) (inner ++ [last])

/-- All lines of the piece are accounted for. -/
inductive Accounted : Piece -> Prop where
  | idle {lines : List Text} (idle : forall line, line ∈ lines -> Idle line) : Accounted ⟨lines, none⟩
  | statement {lines : List Text} {statement : Text} (nonempty : statement ≠ [])
      (held : UpToEdges lines (splitLinesFrom [] statement)) : Accounted ⟨lines, some statement⟩

/-! ## Lines of a script -/

theorem splitLinesFrom_append {line : Text} (unbroken : forall c, c ∈ line -> isLineBreak c = false) (begun rest : Text) :
    splitLinesFrom begun (line ++ rest) = splitLinesFrom (line.reverse ++ begun) rest := by
  induction line generalizing begun with
  | nil => rfl
  | cons c more inductionHypothesis =>
      have here := unbroken c List.mem_cons_self
      have step : splitLinesFrom begun (c :: (more ++ rest)) = splitLinesFrom (c :: begun) (more ++ rest) := by
        rw [splitLinesFrom, if_neg (by rw [here]; exact Bool.false_ne_true)]
        rintro tail rfl _
        exact absurd here (by decide)
      rw [List.cons_append, step, inductionHypothesis fun d member => unbroken d (List.mem_cons_of_mem _ member),
        List.reverse_cons, List.append_assoc, List.singleton_append]

/-- Unbroken lines are read back from the text that joins them. -/
theorem splitLinesFrom_intercalate {lines : List Text} {last : Text}
    (unbroken : forall line, line ∈ lines ++ [last] -> forall c, c ∈ line -> isLineBreak c = false)
    (nonempty : last ≠ []) : splitLinesFrom [] (List.intercalate ['\n'] (lines ++ [last])) = lines ++ [last] := by
  induction lines with
  | nil =>
      have alone := splitLinesFrom_append (unbroken last (by simp)) [] []
      rw [List.append_nil, List.append_nil] at alone
      rw [List.nil_append, List.intercalate_singleton, alone, splitLinesFrom, List.reverse_reverse, if_neg (by simpa)]
  | cons line rest inductionHypothesis =>
      have later := inductionHypothesis fun other member => unbroken other (List.mem_cons_of_mem _ member)
      rw [List.cons_append, List.intercalate_cons_of_ne_nil (by simp), List.append_assoc,
        splitLinesFrom_append (unbroken line (by simp)), List.append_nil, List.singleton_append, splitLinesFrom,
        if_pos (by decide), List.reverse_reverse, later]
      intro tail impossible
      exact absurd impossible (by decide)

theorem unbroken_of_splitLinesFrom {begun text line : Text} (member : line ∈ splitLinesFrom begun text)
    (clear : forall c, c ∈ begun -> isLineBreak c = false) : forall c, c ∈ line -> isLineBreak c = false := by
  induction begun, text using splitLinesFrom.induct with
  | case1 begun empty =>
      rw [splitLinesFrom, if_pos empty] at member
      cases member
  | case2 begun solid =>
      rw [splitLinesFrom, if_neg solid, List.mem_singleton] at member
      intro c inside
      rw [member, List.mem_reverse] at inside
      exact clear c inside
  | case3 begun rest inductionHypothesis =>
      rw [splitLinesFrom, List.mem_cons] at member
      rcases member with rfl | later
      · exact fun c inside => clear c (List.mem_reverse.mp inside)
      · exact inductionHypothesis later fun c none => absurd none List.not_mem_nil
  | case4 begun c rest other breaks inductionHypothesis =>
      rw [splitLinesFrom, if_pos breaks, List.mem_cons] at member
      · rcases member with rfl | later
        · exact fun c inside => clear c (List.mem_reverse.mp inside)
        · exact inductionHypothesis later fun c none => absurd none List.not_mem_nil
      · exact other
  | case5 begun c rest other solid inductionHypothesis =>
      rw [splitLinesFrom, if_neg solid] at member
      · refine inductionHypothesis member fun d inside => ?_
        rcases List.mem_cons.mp inside with rfl | inside
        · exact Bool.eq_false_iff.mpr solid
        · exact clear d inside
      · exact other

/-- A cut in joined lines is a cut in one of them. -/
theorem exists_cut_of_intercalate {lines : List Text} (nonempty : lines ≠ []) {front back : Text}
    (cut : List.intercalate ['\n'] lines = front ++ back) :
    Exists fun before => Exists fun opening => Exists fun first => Exists fun after =>
      lines = before ++ (opening ++ first) :: after ∧ front = unlines before ++ opening ∧
        back = List.intercalate ['\n'] (first :: after) := by
  induction lines generalizing front with
  | nil => exact absurd rfl nonempty
  | cons line rest inductionHypothesis =>
      cases rest with
      | nil =>
          rw [List.intercalate_singleton] at cut
          exact ⟨[], front, back, [], by rw [cut]; rfl, rfl, (List.intercalate_singleton ..).symm⟩
      | cons second rest =>
          rw [List.intercalate_cons_cons, List.append_assoc, List.singleton_append] at cut
          rcases List.append_eq_append_iff.mp cut with ⟨common, rfl, same⟩ | ⟨common, rfl, rfl⟩
          · cases common with
            | nil =>
                refine ⟨[], line, [], second :: rest, by simp, by simp [unlines], ?_⟩
                rw [List.intercalate_cons_cons]
                exact same.symm
            | cons c common =>
                rcases List.cons.inj same with ⟨rfl, later⟩
                rcases inductionHypothesis (List.cons_ne_nil _ _) later with
                  ⟨before, opening, first, after, split, rfl, ends⟩
                exact ⟨line :: before, opening, first, after, by rw [split]; rfl, by simp [unlines], ends⟩
          · refine ⟨[], front, common, second :: rest, rfl, rfl, ?_⟩
            rw [List.intercalate_cons_cons, List.append_assoc]
            rfl

/-! ## One piece -/

theorem strip_edges (text : Text) : Exists fun front => Exists fun back => text = front ++ Text.strip text ++ back ∧
    (forall c, c ∈ front -> Text.isSpace c = true) ∧ forall c, c ∈ back -> Text.isSpace c = true := by
  refine ⟨text.takeWhile Text.isSpace, (text.dropWhile Text.isSpace).rtakeWhile Text.isSpace, ?_,
    fun c member => List.mem_takeWhile_imp member, fun c member => List.mem_rtakeWhile_imp member⟩
  rw [Text.strip, List.append_assoc, List.rdropWhile_append_rtakeWhile, List.takeWhile_append_dropWhile]

/-- What is left out of the joined lines. -/
theorem statementOf_edges (lines : List Text) : Exists fun front => Exists fun back =>
    List.intercalate ['\n'] lines = front ++ statementOf lines ++ back ∧
      (forall c, c ∈ front -> Text.isSpace c = true) ∧ forall c, c ∈ back -> Light c := by
  rcases strip_edges (List.intercalate ['\n'] lines) with ⟨front, back, outer, opens, closes⟩
  rcases strip_edges ((Text.strip (List.intercalate ['\n'] lines)).rdropWhile fun c => c == ';') with
    ⟨front', back', inner, opens', closes'⟩
  have semicolons := (Text.strip (List.intercalate ['\n'] lines)).rdropWhile_append_rtakeWhile (p := fun c => c == ';')
  refine ⟨front ++ front', back' ++ (Text.strip (List.intercalate ['\n'] lines)).rtakeWhile (fun c => c == ';') ++ back,
    ?_, ?_, ?_⟩
  · rw [← statementOf] at inner
    rw [inner] at semicolons
    rw [← semicolons] at outer
    exact outer.trans (by simp only [List.append_assoc])
  · intro c member
    rcases List.mem_append.mp member with found | found
    · exact opens c found
    · exact opens' c found
  · intro c member
    rcases List.mem_append.mp member with found | found
    · rcases List.mem_append.mp found with found | found
      · exact .inl (closes' c found)
      · exact .inr (beq_iff_eq.mp (List.mem_rtakeWhile_imp (p := fun c => c == ';') found))
    · exact .inl (closes c found)

theorem mem_intercalate_of_mem {lines : List Text} {line : Text} (member : line ∈ lines) {c : Char} (inside : c ∈ line) :
    c ∈ List.intercalate ['\n'] lines := by
  induction lines with
  | nil => cases member
  | cons first rest inductionHypothesis =>
      by_cases alone : rest = []
      · subst rest
        rw [List.mem_singleton.mp member] at inside
        rw [List.intercalate_singleton]
        exact inside
      · rw [List.intercalate_cons_of_ne_nil alone, List.append_assoc]
        rcases List.mem_cons.mp member with rfl | later
        · exact List.mem_append_left _ inside
        · exact List.mem_append_right _ (List.mem_append_right _ (inductionHypothesis later))

theorem intercalate_concat (lines : List Text) (last : Text) :
    List.intercalate ['\n'] (lines ++ [last]) = unlines lines ++ last := by
  induction lines with
  | nil => exact List.intercalate_singleton ..
  | cons line rest inductionHypothesis =>
      rw [List.cons_append, List.intercalate_cons_of_ne_nil (by simp), inductionHypothesis]
      simp [unlines]

theorem idle_of_empty {lines : List Text} (empty : statementOf lines = []) : forall line, line ∈ lines -> Idle line := by
  rcases statementOf_edges lines with ⟨front, back, whole, opens, closes⟩
  intro line member c inside
  have found := mem_intercalate_of_mem member inside
  rw [whole, empty, List.append_nil] at found
  rcases List.mem_append.mp found with found | found
  · exact .inl (opens c found)
  · exact closes c found

theorem isSpace_getLast?_statementOf {lines : List Text} {c : Char} (last : (statementOf lines).getLast? = some c) :
    Text.isSpace c = false :=
  Text.isSpace_getLast?_strip last

theorem upToEdges_of_statement {lines : List Text} (unbroken : forall line, line ∈ lines ->
    forall c, c ∈ line -> isLineBreak c = false) (nonempty : statementOf lines ≠ []) :
    UpToEdges lines (splitLinesFrom [] (statementOf lines)) := by
  rcases statementOf_edges lines with ⟨front, back, whole, opens, closes⟩
  have some : lines ≠ [] := by
    rintro rfl
    exact nonempty rfl
  rw [List.append_assoc] at whole
  rcases exists_cut_of_intercalate some whole with ⟨before, opening, first, after, rfl, rfl, rest⟩
  rcases exists_cut_of_intercalate (List.cons_ne_nil _ _) rest.symm with
    ⟨inner, last, closing, behind, same, held, rfl⟩
  rw [← intercalate_concat] at held
  have solid : last ≠ [] := by
    rintro rfl
    rw [intercalate_concat, List.append_nil] at held
    rcases List.getLast?_isSome.mpr nonempty |> Option.isSome_iff_exists.mp with ⟨c, final⟩
    have solid := isSpace_getLast?_statementOf final
    rw [held] at final
    rw [getLast?_unlines final] at solid
    exact absurd solid (by decide)
  have contained : forall line, line ∈ first :: after -> forall c, c ∈ line -> isLineBreak c = false := by
    intro line member c inside
    rcases List.mem_cons.mp member with rfl | later
    · exact unbroken (opening ++ line) (by simp) c (List.mem_append_right _ inside)
    · exact unbroken line (by simp [later]) c inside
  have unbroken' : forall line, line ∈ inner ++ [last] -> forall c, c ∈ line -> isLineBreak c = false := by
    intro line member c inside
    rcases List.mem_append.mp member with found | found
    · exact contained line (by rw [same]; exact List.mem_append_left _ found) c inside
    · rw [List.mem_singleton.mp found] at inside
      exact contained (last ++ closing) (by rw [same]; simp) c (List.mem_append_left _ inside)
  rw [held, splitLinesFrom_intercalate unbroken' solid]
  refine .intro ?_ ?_ same ?_ ?_
  · intro line member c inside
    refine opens c (List.mem_append_left _ ?_)
    exact List.mem_flatMap.mpr ⟨line, member, List.mem_append_left _ inside⟩
  · exact fun c inside => opens c (List.mem_append_right _ inside)
  · exact fun c inside => closes c (mem_intercalate_of_mem List.mem_cons_self inside)
  · exact fun line member c inside => closes c (mem_intercalate_of_mem (List.mem_cons_of_mem _ member) inside)

/-! ## The pieces of a script -/

/-- The piece that the loop closes. -/
def pieceOf (lines : List Text) : Piece where
  lines := lines
  statement := if (statementOf lines).isEmpty then none else some (statementOf lines)

/-- The pieces of kept lines, behind those of a piece that has been begun. -/
def piecesFrom (current : List Text) : List Text -> List Piece
  | [] => [pieceOf current]
  | line :: rest =>
      if closes line then pieceOf (current ++ [line]) :: piecesFrom [] rest else piecesFrom (current ++ [line]) rest

theorem lines_piecesFrom (current lines : List Text) : (piecesFrom current lines).flatMap Piece.lines = current ++ lines := by
  induction lines generalizing current with
  | nil => rw [piecesFrom, List.flatMap_singleton, pieceOf, List.append_nil]
  | cons line rest inductionHypothesis =>
      rw [piecesFrom]
      split
      · rw [List.flatMap_cons, inductionHypothesis, pieceOf, List.nil_append, List.append_assoc, List.singleton_append]
      · rw [inductionHypothesis, List.append_assoc, List.singleton_append]

theorem statements_piecesFrom (current lines : List Text) :
    (piecesFrom current lines).filterMap Piece.statement = emitted current lines := by
  have one (group : List Text) (rest : List Piece) : (pieceOf group :: rest).filterMap Piece.statement =
      (if (statementOf group).isEmpty then [] else [statementOf group]) ++ rest.filterMap Piece.statement := by
    rw [List.filterMap_cons, pieceOf]
    cases (statementOf group).isEmpty <;> rfl
  induction lines generalizing current with
  | nil => rw [piecesFrom, one, List.filterMap_nil, List.append_nil, emitted]
  | cons line rest inductionHypothesis =>
      rw [piecesFrom, emitted]
      split
      · rw [one, inductionHypothesis]
      · rw [inductionHypothesis]

theorem accounted_pieceOf {lines : List Text}
    (unbroken : forall line, line ∈ lines -> forall c, c ∈ line -> isLineBreak c = false) : Accounted (pieceOf lines) := by
  rw [pieceOf]
  by_cases empty : statementOf lines = []
  · rw [if_pos (List.isEmpty_iff.mpr empty)]
    exact .idle (idle_of_empty empty)
  · rw [if_neg fun none => empty (List.isEmpty_iff.mp none)]
    exact .statement empty (upToEdges_of_statement unbroken empty)

theorem accounted_piecesFrom {current lines : List Text}
    (unbroken : forall line, line ∈ current ++ lines -> forall c, c ∈ line -> isLineBreak c = false) :
    forall piece, piece ∈ piecesFrom current lines -> Accounted piece := by
  induction lines generalizing current with
  | nil =>
      intro piece member
      rw [piecesFrom, List.mem_singleton] at member
      rw [List.append_nil] at unbroken
      exact member ▸ accounted_pieceOf unbroken
  | cons line rest inductionHypothesis =>
      intro piece member
      have grown : current ++ line :: rest = (current ++ [line]) ++ rest := by simp
      rw [grown] at unbroken
      rw [piecesFrom] at member
      split at member
      · rcases List.mem_cons.mp member with rfl | later
        · exact accounted_pieceOf fun other found => unbroken other (List.mem_append_left _ found)
        · exact inductionHypothesis (fun other found => unbroken other (List.mem_append_right _ found)) piece later
      · exact inductionHypothesis unbroken piece member

/-- The line, and what is left of it without blanks in front and without blanks and semicolons
behind. -/
def TrimmedTo (line part : Text) : Prop :=
  Exists fun opening => Exists fun closing => line = opening ++ (part ++ closing) ∧
    (forall c, c ∈ opening -> Text.isSpace c = true) ∧ Idle closing

theorem TrimmedTo.ne_nil {line part : Text} (trimmed : TrimmedTo line part) (busy : ¬Idle line) : part ≠ [] := by
  rintro rfl
  rcases trimmed with ⟨opening, closing, rfl, opens, closes⟩
  refine busy fun c inside => ?_
  rcases List.mem_append.mp inside with found | found
  · exact .inl (opens c found)
  · exact closes c found

/-- A line that is more than blanks and semicolons is one of the lines up to the edges. -/
theorem UpToEdges.exists_part {lines held : List Text} (upTo : UpToEdges lines held) {line : Text}
    (member : line ∈ lines) (busy : ¬Idle line) : Exists fun part => part ∈ held ∧ TrimmedTo line part := by
  cases upTo with
  | @intro before after inner behind opening first last closing blank opens same closes idle =>
      have ofRest : forall other, other ∈ first :: after -> ¬Idle other ->
          Exists fun part => part ∈ inner ++ [last] ∧ Exists fun closing => other = part ++ closing ∧ Idle closing := by
        intro other found busy
        rw [same, List.mem_append, List.mem_cons] at found
        rcases found with found | rfl | found
        · exact ⟨other, by simp [found], [], by simp, fun _ none => absurd none List.not_mem_nil⟩
        · exact ⟨last, by simp, closing, rfl, closes⟩
        · exact absurd (idle other found) busy
      rw [List.mem_append, List.mem_cons] at member
      rcases member with found | rfl | found
      · exact absurd (fun c inside => .inl (blank line found c inside)) busy
      · have busy' : ¬Idle first := by
          intro idle
          refine busy fun c inside => ?_
          rcases List.mem_append.mp inside with found | found
          · exact .inl (opens c found)
          · exact idle c found
        rcases ofRest first List.mem_cons_self busy' with ⟨part, listed, closing, rfl, light⟩
        exact ⟨part, listed, opening, closing, rfl, opens, light⟩
      · rcases ofRest line (List.mem_cons_of_mem _ found) busy with ⟨part, listed, closing, rfl, light⟩
        exact ⟨part, listed, [], closing, rfl, fun _ none => absurd none List.not_mem_nil, light⟩

/-- The kept lines are cut into pieces, one statement to a piece or none, and each piece is
accounted for: `split_sql` loses nothing and repeats nothing. -/
theorem split_loses_nothing (sql : Text) :
    (forall statement, statement ∈ splitSql sql -> statement ≠ []) ∧
      Exists fun pieces : List Piece =>
        keptLines sql = pieces.flatMap Piece.lines ∧ splitSql sql = pieces.filterMap Piece.statement ∧
          forall piece, piece ∈ pieces -> Accounted piece ∧
            forall line, line ∈ piece.lines -> ¬Idle line -> Exists fun statement => piece.statement = some statement ∧
              Exists fun part => part ∈ splitLinesFrom [] statement ∧ part ≠ [] ∧ TrimmedTo line part := by
  have accounted : forall piece, piece ∈ piecesFrom [] (keptLines sql) -> Accounted piece := by
    apply accounted_piecesFrom
    intro line member c inside
    rw [List.nil_append, keptLines, List.mem_filter] at member
    exact unbroken_of_splitLinesFrom member.1 (fun d none => absurd none List.not_mem_nil) c inside
  have made : splitSql sql = (piecesFrom [] (keptLines sql)).filterMap Piece.statement := by
    rw [splitSql_eq, statements_piecesFrom]
  refine ⟨?_, piecesFrom [] (keptLines sql), (lines_piecesFrom [] (keptLines sql)).symm, made, ?_⟩
  · intro statement member
    rw [made, List.mem_filterMap] at member
    rcases member with ⟨piece, listed, given⟩
    cases accounted piece listed with
    | idle => cases given
    | statement nonempty =>
        cases given
        exact nonempty
  · intro piece listed
    refine ⟨accounted piece listed, ?_⟩
    intro line member busy
    cases accounted piece listed with
    | idle idle => exact absurd (idle line member) busy
    | @statement lines statement nonempty held =>
        rcases held.exists_part member busy with ⟨part, found, trimmed⟩
        exact ⟨statement, rfl, part, found, trimmed.ne_nil busy, trimmed⟩

end Migrations
end ApexQuant
