import ApexQuant.Foundation.SqlText
import ApexQuant.Migrations.Interleaving

namespace ApexQuant
namespace Migrations

open Foundation SqlText

/-!
# The statements of a ClickHouse script

`split_sql` beside the lexical rule.  It leaves out the lines that begin with two
hyphens and cuts behind the lines that end in a semicolon, whatever they are part of.
-/

/-- The line is left out. -/
def isCommentLine (line : Text) : Bool :=
  "--".toList.isPrefixOf (Text.strip line)

/-- `split_sql` cuts behind the line. -/
def closes (line : Text) : Bool :=
  (Text.strip line).getLast? == some ';'

/-- The line without the semicolons that it ends in. -/
def body (line : Text) : Text :=
  (line.rdropWhile Text.isSpace).rdropWhile fun c => c == ';'

/-- The lines that are not left out. -/
def keptLines (sql : Text) : List Text :=
  (splitLinesFrom [] sql).filter fun line => !isCommentLine line

/-- Lines with a newline after each. -/
def unlines (lines : List Text) : Text :=
  lines.flatMap fun line => line ++ ['\n']

/-- The statements of kept lines, behind those of a statement that has been begun. -/
def emitted (current : List Text) : List Text -> List Text
  | [] => if (statementOf current).isEmpty then [] else [statementOf current]
  | line :: rest =>
      if closes line then
        (if (statementOf (current ++ [line])).isEmpty then [] else [statementOf (current ++ [line])]) ++ emitted [] rest
      else emitted (current ++ [line]) rest

theorem splitSql_eq (sql : Text) : splitSql sql = emitted [] (keptLines sql) := by
  have loop : forall (lines statements current : List Text),
      closeStatement (lines.foldl splitStep (statements, current)).1 (lines.foldl splitStep (statements, current)).2 =
        statements ++ emitted current (lines.filter fun line => !isCommentLine line) := by
    intro lines
    induction lines with
    | nil =>
        intro statements current
        rw [List.foldl_nil, List.filter_nil, closeStatement, emitted]
        split
        · exact (List.append_nil _).symm
        · rfl
    | cons line rest inductionHypothesis =>
        intro statements current
        rw [List.foldl_cons]
        by_cases comment : isCommentLine line = true
        · have skipped : splitStep (statements, current) line = (statements, current) := if_pos comment
          rw [skipped, List.filter_cons_of_neg (by simp [comment]), inductionHypothesis]
        · rw [List.filter_cons_of_pos (by simp [comment]), emitted]
          by_cases closing : closes line = true
          · have cut : splitStep (statements, current) line = (closeStatement statements (current ++ [line]), []) :=
              (if_neg comment).trans (if_pos (beq_iff_eq.mp closing))
            rw [cut, if_pos closing, inductionHypothesis, closeStatement, ← List.append_assoc]
            split
            · rw [List.append_nil]
            · rfl
          · have grown : splitStep (statements, current) line = (statements, current ++ [line]) :=
              (if_neg comment).trans (if_neg fun last => closing (beq_iff_eq.mpr last))
            rw [grown, if_neg closing, inductionHypothesis]
  exact loop (splitLinesFrom [] sql) [] []

/-! ## What the lines have to be like -/

/-- Every line that ends in a semicolon ends there in code. -/
def CutsInCode : Mode -> List Text -> Prop
  | _, [] => True
  | mode, line :: rest =>
      (closes line = true -> after mode (body line) = .code) ∧ CutsInCode (after mode (line ++ ['\n'])) rest

/-- In code, only semicolons and blanks follow a semicolon on its line. -/
def EndsLines : Mode -> List Text -> Prop
  | _, [] => True
  | mode, line :: rest =>
      .semicolon ∉ scan mode (if closes line then body line else line) ∧ EndsLines (after mode (line ++ ['\n'])) rest

/-! ## Trimmed texts -/

theorem dropWhile_rdropWhile (p q : Char -> Bool) (text : Text) :
    (text.rdropWhile q).dropWhile p = (text.dropWhile p).rdropWhile q := by
  induction text with
  | nil => rfl
  | cons c rest inductionHypothesis =>
      by_cases gone : forall d, d ∈ c :: rest -> q d = true
      · have left : (c :: rest).rdropWhile q = [] := List.rdropWhile_eq_nil_iff.mpr gone
        have right : ((c :: rest).dropWhile p).rdropWhile q = [] :=
          List.rdropWhile_eq_nil_iff.mpr fun d member => gone d ((List.dropWhile_suffix p).subset member)
        rw [left, right, List.dropWhile_nil]
      · have kept : (c :: rest).rdropWhile q = c :: rest.rdropWhile q := by
          by_cases later : forall d, d ∈ rest -> q d = true
          · have here : ¬q c = true := fun here => gone (List.forall_mem_cons.mpr ⟨here, later⟩)
            have none : rest.rdropWhile q = [] := List.rdropWhile_eq_nil_iff.mpr later
            have first := Text.rdropWhile_append_cons [] c rest (Bool.eq_false_iff.mpr here)
            exact first
          · push Not at later
            rcases later with ⟨d, member, survives⟩
            rcases List.append_of_mem member with ⟨before, behind, rfl⟩
            have survives := Bool.eq_false_iff.mpr survives
            rw [← List.cons_append, Text.rdropWhile_append_cons _ _ _ survives,
              Text.rdropWhile_append_cons _ _ _ survives, List.cons_append]
        rw [kept]
        by_cases dropped : p c = true
        · rw [List.dropWhile_cons_of_pos dropped, List.dropWhile_cons_of_pos dropped, inductionHypothesis]
        · rw [List.dropWhile_cons_of_neg dropped, List.dropWhile_cons_of_neg dropped, kept]

theorem rdropWhile_append_of_last {p : Char -> Bool} {before text : Text}
    (survives : forall c, before.getLast? = some c -> p c = false) :
    (before ++ text).rdropWhile p = before ++ text.rdropWhile p := by
  induction text using List.reverseRecOn with
  | nil =>
      rw [List.rdropWhile_nil, List.append_nil, List.rdropWhile_eq_self_iff]
      intro nonempty dropped
      rw [survives _ (List.getLast?_eq_some_getLast nonempty)] at dropped
      cases dropped
  | append_singleton text last inductionHypothesis =>
      rw [← List.append_assoc]
      by_cases dropped : p last = true
      · rw [List.rdropWhile_concat_pos _ _ _ dropped, List.rdropWhile_concat_pos _ _ _ dropped, inductionHypothesis]
      · rw [List.rdropWhile_concat_neg _ _ _ dropped, List.rdropWhile_concat_neg _ _ _ dropped, List.append_assoc]

theorem unlines_append (before behind : List Text) : unlines (before ++ behind) = unlines before ++ unlines behind :=
  List.flatMap_append ..

theorem unlines_singleton (line : Text) : unlines [line] = line ++ ['\n'] :=
  List.flatMap_singleton ..

theorem getLast?_unlines {lines : List Text} {c : Char} (last : (unlines lines).getLast? = some c) : c = '\n' := by
  rcases List.eq_nil_or_concat' lines with rfl | ⟨before, line, rfl⟩
  · cases last
  · rw [unlines_append, unlines_singleton, ← List.append_assoc, List.getLast?_concat] at last
    exact (Option.some.inj last).symm

theorem body_append_space {text tail : Text} (space : forall c, c ∈ tail -> Text.isSpace c = true) :
    body (text ++ tail) = body text := by
  have trimmed : (text ++ tail).rdropWhile Text.isSpace = text.rdropWhile Text.isSpace := by
    induction tail using List.reverseRecOn with
    | nil => rw [List.append_nil]
    | append_singleton tail last inductionHypothesis =>
        rw [← List.append_assoc, List.rdropWhile_concat_pos _ _ _ (space last (by simp))]
        exact inductionHypothesis fun c member => space c (List.mem_append_left _ member)
  rw [body, body, trimmed]

theorem unlines_eq_intercalate {lines : List Text} (nonempty : lines ≠ []) :
    unlines lines = List.intercalate ['\n'] lines ++ ['\n'] := by
  induction lines with
  | nil => exact absurd rfl nonempty
  | cons line rest inductionHypothesis =>
      cases rest with
      | nil => simp [unlines]
      | cons second rest =>
          rw [List.intercalate_cons_cons, unlines, List.flatMap_cons, ← unlines, inductionHypothesis (by simp)]
          simp

theorem statementOf_eq (current : List Text) : statementOf current = Text.strip (body (unlines current)) := by
  have joined : body (unlines current) = body (List.intercalate ['\n'] current) := by
    by_cases none : current = []
    · rw [none]
      rfl
    · rw [unlines_eq_intercalate none, body_append_space]
      intro c member
      rw [List.mem_singleton.mp member]
      rfl
  have trimmed : ((Text.strip (List.intercalate ['\n'] current)).rdropWhile fun c => c == ';') =
      (body (List.intercalate ['\n'] current)).dropWhile Text.isSpace := by
    rw [body, Text.strip, dropWhile_rdropWhile, dropWhile_rdropWhile]
  rw [joined, statementOf, trimmed, Text.strip, List.dropWhile_idempotent, ← Text.strip]

/-! ## Where the lines are cut -/

theorem closes_iff {line : Text} :
    closes line = true <->
      Exists fun word => Exists fun blanks => line = word ++ ';' :: blanks ∧
        forall c, c ∈ blanks -> Text.isSpace c = true := by
  rw [closes, beq_iff_eq]
  refine ⟨fun last => ?_, ?_⟩
  · rw [Text.strip, ← dropWhile_rdropWhile, List.getLast?_eq_some_iff] at last
    rcases last with ⟨word, kept⟩
    refine ⟨(line.rdropWhile Text.isSpace).takeWhile Text.isSpace ++ word, line.rtakeWhile Text.isSpace, ?_,
      fun c member => List.mem_rtakeWhile_imp member⟩
    calc line = line.rdropWhile Text.isSpace ++ line.rtakeWhile Text.isSpace :=
          List.rdropWhile_append_rtakeWhile.symm
      _ = (line.rdropWhile Text.isSpace).takeWhile Text.isSpace ++
            (line.rdropWhile Text.isSpace).dropWhile Text.isSpace ++ line.rtakeWhile Text.isSpace := by
          rw [List.takeWhile_append_dropWhile]
      _ = _ := by rw [kept]; simp
  · rintro ⟨word, blanks, rfl, spaces⟩
    have none : blanks.rdropWhile Text.isSpace = [] := List.rdropWhile_eq_nil_iff.mpr spaces
    rw [Text.strip, ← dropWhile_rdropWhile, Text.rdropWhile_append_cons _ _ _ (by decide), none, List.dropWhile_append]
    split
    · rfl
    · rw [List.getLast?_concat]

/-- A line behind which the script is cut ends the text of the statement. -/
theorem body_of_closes {line : Text} (closing : closes line = true) (current : List Text) :
    body (unlines (current ++ [line])) = unlines current ++ body line := by
  rcases closes_iff.mp closing with ⟨word, blanks, rfl, spaces⟩
  have none : blanks.rdropWhile Text.isSpace = [] := List.rdropWhile_eq_nil_iff.mpr spaces
  have newline : forall c, c ∈ ['\n'] -> Text.isSpace c = true := by
    intro c member
    rw [List.mem_singleton.mp member]
    rfl
  have open' : forall c, (unlines current).getLast? = some c -> (c == ';') = false := by
    intro c last
    rw [getLast?_unlines last]
    rfl
  have kept : forall before : Text,
      body (before ++ (word ++ ';' :: blanks)) = (before ++ word).rdropWhile fun c => c == ';' := by
    intro before
    rw [body, ← List.append_assoc, Text.rdropWhile_append_cons _ _ _ (by decide), none,
      List.rdropWhile_concat_pos _ _ _ (by rfl)]
  have alone := kept []
  rw [List.nil_append, List.nil_append] at alone
  rw [unlines_append, unlines_singleton, ← List.append_assoc, body_append_space newline, kept, alone,
    rdropWhile_append_of_last open']

theorem closes_of_unlines {current : List Text} {word blanks : Text} (shape : unlines current = word ++ ';' :: blanks)
    (spaces : forall c, c ∈ blanks -> Text.isSpace c = true) :
    Exists fun line => line ∈ current ∧ closes line = true := by
  induction current using List.reverseRecOn generalizing word blanks with
  | nil => simp [unlines] at shape
  | append_singleton current line inductionHypothesis =>
      rw [unlines_append, unlines_singleton, ← List.append_assoc] at shape
      rcases List.eq_nil_or_concat' blanks with rfl | ⟨initial, last, rfl⟩
      · exact absurd (List.append_inj_right' shape rfl) (by decide)
      · rw [← List.cons_append, ← List.append_assoc] at shape
        have shorter := List.append_inj_left' shape rfl
        have spaces : forall c, c ∈ initial -> Text.isSpace c = true := fun c member =>
          spaces c (List.mem_append_left _ member)
        rcases List.append_eq_append_iff.mp shorter with ⟨common, rfl, same⟩ | ⟨common, same, rest⟩
        · exact ⟨line, by simp, closes_iff.mpr ⟨common, initial, same, spaces⟩⟩
        · cases common with
          | nil =>
              refine ⟨line, by simp, closes_iff.mpr ⟨[], initial, ?_, spaces⟩⟩
              exact rest.symm
          | cons first common =>
              rcases List.cons.inj rest with ⟨rfl, rfl⟩
              rcases inductionHypothesis same fun c member => spaces c (List.mem_append_left _ member) with
                ⟨found, member, closing⟩
              exact ⟨found, List.mem_append_left _ member, closing⟩

/-- Lines behind which nothing is cut stay as they are. -/
theorem body_of_open {current : List Text} (opens : forall line, line ∈ current -> closes line = false) :
    body (unlines current) = (unlines current).rdropWhile Text.isSpace := by
  rw [body, List.rdropWhile_eq_self_iff]
  intro nonempty semicolon
  have whole : (unlines current).rdropWhile Text.isSpace ++ (unlines current).rtakeWhile Text.isSpace =
      unlines current := List.rdropWhile_append_rtakeWhile
  rw [← List.dropLast_append_getLast nonempty, beq_iff_eq.mp semicolon, List.append_assoc] at whole
  rcases closes_of_unlines whole.symm fun c member => List.mem_rtakeWhile_imp member with ⟨line, member, closing⟩
  rw [opens line member] at closing
  cases closing

/-- Behind the text of a line that closes stand its semicolons and blanks. -/
theorem exists_of_closes {line : Text} (closing : closes line = true) :
    Exists fun tail => line = body line ++ ';' :: tail ∧ forall c, c ∈ tail -> Text.isSpace c = true ∨ c = ';' := by
  have cut := body_of_closes closing []
  rcases closes_iff.mp closing with ⟨word, blanks, shape, spaces⟩
  have kept : body line = word.rdropWhile fun c => c == ';' := by
    have none : blanks.rdropWhile Text.isSpace = [] := List.rdropWhile_eq_nil_iff.mpr spaces
    rw [shape, body, Text.rdropWhile_append_cons _ _ _ (by decide), none, List.rdropWhile_concat_pos _ _ _ (by rfl)]
  have whole : (word.rdropWhile fun c => c == ';') ++ (word.rtakeWhile fun c => c == ';') = word :=
    List.rdropWhile_append_rtakeWhile
  have semicolons : forall c, c ∈ word.rtakeWhile (fun c => c == ';') -> c = ';' := fun c member =>
    beq_iff_eq.mp (List.mem_rtakeWhile_imp (p := fun c => c == ';') member)
  rw [← kept] at whole
  cases taken : word.rtakeWhile fun c => c == ';' with
  | nil =>
      rw [taken, List.append_nil] at whole
      exact ⟨blanks, by rw [whole, ← shape], fun c member => .inl (spaces c member)⟩
  | cons first others =>
      rw [taken] at whole semicolons
      rw [semicolons first List.mem_cons_self] at whole
      refine ⟨others ++ ';' :: blanks, ?_, fun c member => ?_⟩
      · rw [← List.cons_append, ← List.append_assoc, whole, ← shape]
      · rcases List.mem_append.mp member with other | member
        · exact .inr (semicolons c (List.mem_cons_of_mem _ other))
        · rcases List.mem_cons.mp member with rfl | blank
          · exact .inr rfl
          · exact .inl (spaces c blank)

/-! ## The scanner over the lines -/

theorem scan_semicolon (rest : Text) : scan .code (';' :: rest) = .semicolon :: scan .code rest := by
  simp [scan, emit, next, isQuote]

theorem spoken_semicolon_cons (rest : List Lexeme) : spoken (.semicolon :: rest) = spoken rest :=
  spoken_append_semicolon [] rest

/-- Blanks and semicolons in code make no statements. -/
theorem spoken_tail {tail : Text} (light : forall c, c ∈ tail -> Text.isSpace c = true ∨ c = ';') (rest : Text) :
    spoken (scan .code (tail ++ rest)) = spoken (scan .code rest) ∧ after .code (tail ++ rest) = after .code rest := by
  induction tail with
  | nil => exact ⟨rfl, rfl⟩
  | cons c tail inductionHypothesis =>
      rcases inductionHypothesis fun d member => light d (List.mem_cons_of_mem _ member) with ⟨same, same'⟩
      rcases light c List.mem_cons_self with space | rfl
      · rw [List.cons_append, scan_space_cons space, spoken_blank_cons, after, next_space space]
        exact ⟨same, same'⟩
      · rw [List.cons_append, scan_semicolon, spoken_semicolon_cons]
        exact ⟨same, same'⟩

theorem apart_unlines (lines : List Text) (behind : Text) : Apart (unlines lines) behind := by
  refine apart_of_last fun c last => ?_
  rw [getLast?_unlines last]
  rfl

theorem apart_cons {c : Char} (lone : isLone c = true) (before behind : Text) : Apart before (c :: behind) := by
  refine apart_of_head fun d first => ?_
  rw [← Option.some.inj first]
  exact lone

/-- A newline is no semicolon. -/
theorem scan_newline (mode : Mode) : .semicolon ∉ scan mode ['\n'] := by
  cases mode <;> simp [scan, emit, Text.isSpace]

theorem semicolon_scan_line {mode : Mode} {line : Text} :
    .semicolon ∈ scan mode (line ++ ['\n']) <-> .semicolon ∈ scan mode line := by
  rw [scan_append (apart_cons rfl line []), List.mem_append, or_iff_left (scan_newline _)]

/-- Where a line leads that the script is cut behind. -/
theorem after_line {mode : Mode} {line : Text} (closing : closes line = true) (inCode : after mode (body line) = .code) :
    after mode (line ++ ['\n']) = .code := by
  rcases exists_of_closes closing with ⟨tail, shape, light⟩
  rw [shape, List.append_assoc, List.cons_append, after_append (apart_cons rfl _ _), inCode]
  exact (spoken_tail light ['\n']).2

/-- The scan of the lines and of the part of another one that is left of it. -/
theorem scan_unlines_append (current : List Text) (line : Text) :
    scan .code (unlines current ++ line) =
      scan .code (unlines current) ++ scan (after .code (unlines current)) line :=
  scan_append (apart_unlines current line)

theorem after_unlines_append (current : List Text) (line : Text) :
    after .code (unlines (current ++ [line])) = after (after .code (unlines current)) (line ++ ['\n']) := by
  rw [unlines_append, unlines_singleton, after_append (apart_unlines current _)]

/-! ## One statement -/

/-- What is sent for the lines of a statement, as words. -/
theorem read_statement (current : List Text) :
    (if (statementOf current).isEmpty then [] else [statementOf current]).map read =
      if isBlank (scan .code (body (unlines current))) then [] else [words (scan .code (body (unlines current)))] := by
  have same : (statementOf current).isEmpty = isBlank (scan .code (body (unlines current))) := by
    rw [Bool.eq_iff_iff, List.isEmpty_iff, isBlank_scan_iff, statementOf_eq]
  rw [same]
  split
  · rfl
  · rw [List.map_singleton, statementOf_eq, read_strip, SqlText.read]

/-- A statement whose words have no semicolon has none at all. -/
theorem semicolon_of_read {current : List Text}
    (solid : forall statement, statement ∈ (if (statementOf current).isEmpty then [] else [statementOf current]).map read ->
      forall word, word ∈ statement -> .semicolon ∉ word) :
    .semicolon ∉ scan .code (body (unlines current)) := by
  intro member
  rw [read_statement] at solid
  have notBlank : ¬isBlank (scan .code (body (unlines current))) = true := by
    intro blank
    exact absurd (beq_iff_eq.mp (List.all_eq_true.mp blank _ member)) (by decide)
  rw [if_neg notBlank] at solid
  rcases mem_words member rfl rfl with ⟨word, listed, inside⟩
  exact solid _ List.mem_cons_self word listed inside

theorem scan_body_of_open {current : List Text} (opens : forall line, line ∈ current -> closes line = false) :
    words (scan .code (body (unlines current))) = words (scan .code (unlines current)) ∧
      isBlank (scan .code (body (unlines current))) = isBlank (scan .code (unlines current)) := by
  have same : Text.strip ((unlines current).rdropWhile Text.isSpace) = Text.strip (unlines current) := by
    rw [Text.strip, ← dropWhile_rdropWhile, List.rdropWhile_idempotent, dropWhile_rdropWhile, ← Text.strip]
  rw [body_of_open opens]
  refine ⟨?_, ?_⟩
  · rw [← SqlText.read, ← SqlText.read, ← read_strip, same, read_strip]
  · rw [Bool.eq_iff_iff, isBlank_scan_iff, isBlank_scan_iff, same]

/-! ## The statements of the lines -/

/-- Where every cut is in code and nothing else of a line follows a semicolon, what is
sent is what the scanner finds. -/
theorem read_emitted {lines : List Text} : forall {current : List Text},
    (forall line, line ∈ current -> closes line = false) -> .semicolon ∉ scan .code (unlines current) ->
    CutsInCode (after .code (unlines current)) lines -> EndsLines (after .code (unlines current)) lines ->
    (emitted current lines).map read = spoken (scan .code (unlines current ++ unlines lines)) := by
  induction lines with
  | nil =>
      intro current opens solid _ _
      rcases scan_body_of_open opens with ⟨sameWords, sameBlank⟩
      have none : unlines [] = [] := rfl
      rw [emitted, read_statement, sameWords, sameBlank, none, List.append_nil, spoken_of_solid solid]
  | cons line rest inductionHypothesis =>
      intro current opens solid cuts ends
      rw [emitted]
      by_cases closing : closes line = true
      · have inCode := cuts.1 closing
        have none := ends.1
        rcases exists_of_closes closing with ⟨tail, shape, light⟩
        rw [if_pos closing] at none
        rw [if_pos closing, List.map_append, read_statement, body_of_closes closing]
        have first : .semicolon ∉ scan .code (unlines current ++ body line) := by
          rw [scan_unlines_append, List.mem_append, not_or]
          exact ⟨solid, none⟩
        have whole : unlines current ++ unlines (line :: rest) =
            unlines current ++ body line ++ ';' :: ((tail ++ ['\n']) ++ unlines rest) := by
          have front : unlines (line :: rest) = line ++ ['\n'] ++ unlines rest := List.flatMap_cons ..
          rw [front]
          nth_rewrite 1 [shape]
          simp
        have lightLine : forall c, c ∈ tail ++ ['\n'] -> Text.isSpace c = true ∨ c = ';' := by
          intro c member
          rcases List.mem_append.mp member with inside | newline
          · exact light c inside
          · rw [List.mem_singleton.mp newline]
            exact .inl rfl
        have later := @inductionHypothesis [] (fun _ member => absurd member List.not_mem_nil)
          List.not_mem_nil (after_line closing inCode ▸ cuts.2) (after_line closing inCode ▸ ends.2)
        rw [whole, scan_append (apart_cons rfl _ _), after_append (apart_unlines current _), inCode, scan_semicolon,
          spoken_append_semicolon, spoken_of_solid first, (spoken_tail lightLine _).1, later]
        rfl
      · have none := ends.1
        rw [if_neg closing] at none
        have opens' : forall other, other ∈ current ++ [line] -> closes other = false := by
          intro other member
          rcases List.mem_append.mp member with inside | last
          · exact opens other inside
          · rw [List.mem_singleton.mp last]
            exact Bool.eq_false_iff.mpr closing
        have solid' : .semicolon ∉ scan .code (unlines (current ++ [line])) := by
          rw [unlines_append, unlines_singleton, scan_unlines_append, List.mem_append, not_or, semicolon_scan_line]
          exact ⟨solid, none⟩
        have later := inductionHypothesis opens' solid' (after_unlines_append current line ▸ cuts.2)
          (after_unlines_append current line ▸ ends.2)
        rw [if_neg closing, later, ← unlines_append, ← unlines_append, List.append_assoc, List.singleton_append]

/-- Where every cut is in code, a semicolon inside a line is in a statement that is
sent. -/
theorem endsLines_of_emitted {lines : List Text} : forall {current : List Text},
    (forall line, line ∈ current -> closes line = false) -> CutsInCode (after .code (unlines current)) lines ->
    (forall statement, statement ∈ (emitted current lines).map read ->
      forall word, word ∈ statement -> .semicolon ∉ word) ->
    .semicolon ∉ scan .code (unlines current) ∧ EndsLines (after .code (unlines current)) lines := by
  induction lines with
  | nil =>
      intro current opens _ solid
      rw [emitted] at solid
      refine ⟨fun member => ?_, trivial⟩
      have kept := semicolon_of_read solid
      have notBlank : ¬isBlank (scan .code (unlines current)) = true := by
        intro blank
        exact absurd (beq_iff_eq.mp (List.all_eq_true.mp blank _ member)) (by decide)
      rcases scan_body_of_open opens with ⟨sameWords, _⟩
      rcases mem_words member rfl rfl with ⟨word, listed, inside⟩
      rw [← sameWords] at listed
      exact kept (mem_of_mem_words listed inside)
  | cons line rest inductionHypothesis =>
      intro current opens cuts solid
      rw [emitted] at solid
      by_cases closing : closes line = true
      · have inCode := cuts.1 closing
        rw [if_pos closing, List.map_append] at solid
        have first := semicolon_of_read fun statement member => solid statement (List.mem_append_left _ member)
        rw [body_of_closes closing, scan_unlines_append, List.mem_append, not_or] at first
        have later := @inductionHypothesis [] (fun _ member => absurd member List.not_mem_nil)
          (after_line closing inCode ▸ cuts.2) fun statement member => solid statement (List.mem_append_right _ member)
        refine ⟨first.1, ?_, (after_line closing inCode).symm ▸ later.2⟩
        rw [if_pos closing]
        exact first.2
      · rw [if_neg closing] at solid
        have opens' : forall other, other ∈ current ++ [line] -> closes other = false := by
          intro other member
          rcases List.mem_append.mp member with inside | last
          · exact opens other inside
          · rw [List.mem_singleton.mp last]
            exact Bool.eq_false_iff.mpr closing
        have later := inductionHypothesis opens' (after_unlines_append current line ▸ cuts.2) solid
        rw [unlines_append, unlines_singleton, scan_unlines_append, List.mem_append, not_or, semicolon_scan_line] at later
        refine ⟨later.1.1, ?_, ?_⟩
        · rw [if_neg closing]
          exact later.1.2
        · have rest := later.2
          rw [← unlines_singleton, ← unlines_append, after_unlines_append] at rest
          exact rest

theorem cutsInCode_iff {lines : List Text} : forall {front : List Text},
    CutsInCode (after .code (unlines front)) lines <->
      forall before line behind, lines = before ++ line :: behind -> closes line = true ->
        after .code (unlines (front ++ before) ++ body line) = .code := by
  induction lines with
  | nil =>
      intro front
      refine iff_of_true trivial fun before line behind shape => ?_
      simp at shape
  | cons first rest inductionHypothesis =>
      intro front
      rw [CutsInCode, ← after_unlines_append, inductionHypothesis]
      refine ⟨fun given before line behind shape closing => ?_, fun given => ⟨fun closing => ?_, ?_⟩⟩
      · cases before with
        | nil =>
            rcases List.cons.inj shape with ⟨rfl, rfl⟩
            rw [List.append_nil, after_append (apart_unlines front _)]
            exact given.1 closing
        | cons other before =>
            rcases List.cons.inj shape with ⟨rfl, rfl⟩
            have later := given.2 before line behind rfl closing
            rw [List.append_assoc, List.singleton_append] at later
            exact later
      · have here := given [] first rest rfl closing
        rw [List.append_nil, after_append (apart_unlines front _)] at here
        exact here
      · intro before line behind shape closing
        have later := given (first :: before) line behind (congrArg (first :: ·) shape) closing
        rw [List.append_assoc, List.singleton_append]
        exact later

theorem words_of_isBlank {piece : List Lexeme} (blank : isBlank piece = true) : words piece = [] := by
  have none : piece.rdropWhile Lexeme.isFaint = [] := by
    rw [List.rdropWhile_eq_nil_iff]
    intro lexeme member
    rw [beq_iff_eq.mp (List.all_eq_true.mp blank lexeme member)]
    rfl
  rw [words, none]
  rfl

/-- The pieces that are not blank are the statements where they all have words. -/
theorem spoken_eq_statements_iff {text : Text} :
    (forall piece, piece ∈ pieces (scan .code text) -> isBlank piece = false -> words piece ≠ []) <->
      spoken (scan .code text) = statements text := by
  have shape : statements text =
      ((pieces (scan .code text)).filter fun piece => !(words piece).isEmpty).map words := by
    rw [statements, List.filter_map]
    rfl
  refine ⟨fun given => ?_, fun same piece member solid none => ?_⟩
  · rw [shape, spoken]
    congr 1
    refine List.filter_congr fun piece member => ?_
    cases blank : isBlank piece with
    | true => simp [words_of_isBlank blank]
    | false => simp [given piece member blank]
  · have listed : words piece ∈ spoken (scan .code text) :=
      List.mem_map_of_mem (List.mem_filter.mpr ⟨member, by rw [solid]; rfl⟩)
    rw [same, none] at listed
    have empty := (List.mem_filter.mp listed).2
    cases empty

/-! ## The claim of the splitter -/

/-- `split_sql` follows the lexical rule: it returns the statements of the script and no
comments, and cuts at semicolons in code only. -/
structure SplitsLexically (sql : Text) : Prop where
  exactly : (splitSql sql).map read = statements sql
  inCode : forall before line behind, keptLines sql = before ++ line :: behind -> closes line = true ->
    after .code (unlines before ++ body line) = .code

/-- The lines of a script that `split_sql` is made for. -/
structure LinesAreStatements (sql : Text) : Prop where
  /-- The lines that are left out are comments. -/
  comments : statements (unlines (keptLines sql)) = statements sql
  /-- The semicolons that end lines are in code. -/
  cuts : CutsInCode .code (keptLines sql)
  /-- No other semicolons are in code. -/
  ends : EndsLines .code (keptLines sql)
  /-- No statement has but comments. -/
  worded : forall piece, piece ∈ pieces (scan .code (unlines (keptLines sql))) -> isBlank piece = false ->
    words piece ≠ []

theorem semicolon_of_statements {text : Text} {statement : List (List Lexeme)} (listed : statement ∈ statements text)
    {word : List Lexeme} (member : word ∈ statement) : .semicolon ∉ word := by
  rw [statements, List.mem_filter, List.mem_map] at listed
  rcases listed with ⟨⟨piece, found, rfl⟩, _⟩
  intro inside
  have within := mem_of_mem_words member inside
  exact Text.not_mem_of_mem_splitOn found within

theorem splits_lexically_iff (sql : Text) : SplitsLexically sql <-> LinesAreStatements sql := by
  have begun : (forall line : Text, line ∈ [] -> closes line = false) := fun _ member => absurd member List.not_mem_nil
  have cutsIff := @cutsInCode_iff (keptLines sql) []
  refine ⟨fun given => ?_, fun given => ?_⟩
  · have cuts : CutsInCode .code (keptLines sql) := cutsIff.mpr given.inCode
    have exactly := given.exactly
    rw [splitSql_eq] at exactly
    have ends := (@endsLines_of_emitted (keptLines sql) [] begun cuts fun statement listed word member =>
      semicolon_of_statements (exactly ▸ listed) member).2
    have found := @read_emitted (keptLines sql) [] begun List.not_mem_nil cuts ends
    have same : spoken (scan .code (unlines (keptLines sql))) = statements sql := found.symm.trans exactly
    have worded : forall piece, piece ∈ pieces (scan .code (unlines (keptLines sql))) -> isBlank piece = false ->
        words piece ≠ [] := by
      intro piece member solid none
      have listed : words piece ∈ statements sql :=
        same ▸ List.mem_map_of_mem (List.mem_filter.mpr ⟨member, by rw [solid]; rfl⟩)
      rw [none] at listed
      have empty := (List.mem_filter.mp listed).2
      cases empty
    exact ⟨(spoken_eq_statements_iff.mp worded).symm.trans same, cuts, ends, worded⟩
  · have found := @read_emitted (keptLines sql) [] begun List.not_mem_nil given.cuts given.ends
    have same := spoken_eq_statements_iff.mp given.worded
    refine ⟨?_, cutsIff.mp given.cuts⟩
    rw [splitSql_eq]
    exact found.trans (same.trans given.comments)

/-- Two statements on a line are sent as one. -/
theorem statements_on_one_line_are_not_split : ¬SplitsLexically "SELECT 1; SELECT 2;".toList := by
  intro given
  have exactly := given.exactly
  revert exactly
  decide

end Migrations
end ApexQuant
