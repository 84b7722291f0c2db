import Mathlib.Computability.RegularExpressions

namespace ApexQuant
namespace Foundation

/-!
# Patterns of separated words

Regular expressions as they are written in programs: a class of symbols, one or more,
at least so many.  A word followed by separated words is a text whose pieces are all
words, provided that no word holds the separator; this is what lets a pattern be read
off a split.
-/

namespace Pattern

open scoped Computability

variable {Symbol : Type*}

/-- `[...]` -/
def oneOf (symbols : List Symbol) : RegularExpression Symbol :=
  symbols.foldr (fun symbol rest => .char symbol + rest) 0

/-- The symbols as they stand. -/
def literal (symbols : List Symbol) : RegularExpression Symbol :=
  symbols.foldr (fun symbol rest => .char symbol * rest) 1

/-- `P+` -/
def oneOrMore (P : RegularExpression Symbol) : RegularExpression Symbol :=
  P * P.star

/-- `P\x7bcount,\x7d` -/
def atLeast (count : Nat) (P : RegularExpression Symbol) : RegularExpression Symbol :=
  P ^ count * P.star

/-- A `P`, and at least `count` more of them behind the separator. -/
def separated (separator : Symbol) (count : Nat) (P : RegularExpression Symbol) : RegularExpression Symbol :=
  P * atLeast count (.char separator * P)

theorem mem_char {symbol : Symbol} {word : List Symbol} :
    word ∈ (RegularExpression.char symbol).matches' <-> word = [symbol] :=
  Iff.rfl

theorem mem_oneOf {symbols : List Symbol} {word : List Symbol} :
    word ∈ (oneOf symbols).matches' <-> Exists fun symbol => symbol ∈ symbols ∧ word = [symbol] := by
  induction symbols with
  | nil => simp [oneOf]
  | cons symbol symbols inductionHypothesis =>
      have unfolded : oneOf (symbol :: symbols) = .char symbol + oneOf symbols := rfl
      rw [unfolded, RegularExpression.matches'_add, Language.mem_add, mem_char, inductionHypothesis]
      simp

theorem mem_char_mul {symbol : Symbol} {P : RegularExpression Symbol} {word : List Symbol} :
    word ∈ (.char symbol * P : RegularExpression Symbol).matches' <->
      Exists fun rest => rest ∈ P.matches' ∧ word = symbol :: rest := by
  rw [RegularExpression.matches'_mul, Language.mem_mul]
  constructor
  · rintro ⟨_, rfl, rest, inside, rfl⟩
    exact ⟨rest, inside, rfl⟩
  · rintro ⟨rest, inside, rfl⟩
    exact ⟨[symbol], rfl, rest, inside, rfl⟩

theorem mem_literal {symbols word : List Symbol} : word ∈ (literal symbols).matches' <-> word = symbols := by
  induction symbols generalizing word with
  | nil => exact Iff.rfl
  | cons symbol symbols inductionHypothesis =>
      have unfolded : literal (symbol :: symbols) = .char symbol * literal symbols := rfl
      rw [unfolded, mem_char_mul]
      simp only [inductionHypothesis, exists_eq_left]

/-- So many symbols of a class. -/
theorem mem_oneOf_pow {symbols : List Symbol} {count : Nat} {word : List Symbol} :
    word ∈ (oneOf symbols ^ count).matches' <-> word.length = count ∧ forall symbol, symbol ∈ word -> symbol ∈ symbols := by
  rw [RegularExpression.matches'_pow, Language.mem_pow]
  constructor
  · rintro ⟨letters, rfl, counted, each⟩
    have single : forall letter, letter ∈ letters -> letter.length = 1 := by
      intro letter listed
      rcases mem_oneOf.1 (each letter listed) with ⟨symbol, _, rfl⟩
      rfl
    constructor
    · rw [List.length_flatten, List.map_congr_left single, List.map_const', List.sum_replicate_nat, mul_one,
        counted]
    · intro symbol member
      rcases List.mem_flatten.1 member with ⟨letter, listed, inside⟩
      rcases mem_oneOf.1 (each letter listed) with ⟨other, known, rfl⟩
      exact List.mem_singleton.1 inside ▸ known
  · rintro ⟨counted, known⟩
    refine ⟨word.map fun symbol => [symbol], by simp [← List.flatMap_def], by simpa using counted, ?_⟩
    simpa [mem_oneOf] using known

theorem mem_star_oneOf {symbols : List Symbol} {word : List Symbol} :
    word ∈ (oneOf symbols).star.matches' <-> forall symbol, symbol ∈ word -> symbol ∈ symbols := by
  rw [RegularExpression.matches'_star, Language.mem_kstar]
  constructor
  · rintro ⟨letters, rfl, each⟩ symbol member
    rcases List.mem_flatten.1 member with ⟨letter, listed, inside⟩
    rcases mem_oneOf.1 (each letter listed) with ⟨other, known, rfl⟩
    exact List.mem_singleton.1 inside ▸ known
  · intro known
    refine ⟨word.map fun symbol => [symbol], by simp [← List.flatMap_def], ?_⟩
    simpa [mem_oneOf] using known

/-- A run of one class is a nonempty text over it. -/
theorem mem_oneOrMore_oneOf {symbols : List Symbol} {word : List Symbol} :
    word ∈ (oneOrMore (oneOf symbols)).matches' <-> word ≠ [] ∧ forall symbol, symbol ∈ word -> symbol ∈ symbols := by
  rw [oneOrMore, RegularExpression.matches'_mul, Language.mem_mul]
  constructor
  · rintro ⟨letter, first, rest, more, rfl⟩
    rcases mem_oneOf.1 first with ⟨symbol, known, rfl⟩
    refine ⟨by simp, fun other member => ?_⟩
    rcases List.mem_cons.1 member with rfl | later
    · exact known
    · exact mem_star_oneOf.1 more other later
  · rintro ⟨nonempty, known⟩
    cases word with
    | nil => exact absurd rfl nonempty
    | cons symbol rest =>
        refine ⟨[symbol], mem_oneOf.2 ⟨symbol, known symbol List.mem_cons_self, rfl⟩, rest, ?_, rfl⟩
        exact mem_star_oneOf.2 fun other member => known other (List.mem_cons_of_mem _ member)

theorem mem_atLeast {P : RegularExpression Symbol} {count : Nat} {word : List Symbol} :
    word ∈ (atLeast count P).matches' <->
      Exists fun words : List (List Symbol) =>
        word = words.flatten ∧ count ≤ words.length ∧ forall each, each ∈ words -> each ∈ P.matches' := by
  rw [atLeast, RegularExpression.matches'_mul, RegularExpression.matches'_pow, RegularExpression.matches'_star,
    Language.mem_mul]
  constructor
  · rintro ⟨opening, first, rest, more, rfl⟩
    rcases Language.mem_pow.1 first with ⟨words, rfl, counted, known⟩
    rcases Language.mem_kstar.1 more with ⟨others, rfl, known'⟩
    refine ⟨words ++ others, by simp, by simp [counted], fun each member => ?_⟩
    exact (List.mem_append.1 member).elim (known each) (known' each)
  · rintro ⟨words, rfl, counted, known⟩
    refine ⟨(words.take count).flatten, Language.mem_pow.2 ⟨words.take count, rfl, by simp [counted], ?_⟩,
      (words.drop count).flatten, Language.mem_kstar.2 ⟨words.drop count, rfl, ?_⟩, ?_⟩
    · exact fun each member => known each (List.mem_of_mem_take member)
    · exact fun each member => known each (List.mem_of_mem_drop member)
    · rw [← List.flatten_append, List.take_append_drop]

/-- Separated words, as they are written one after the other. -/
theorem intercalate_cons (separator : Symbol) (first : List Symbol) (others : List (List Symbol)) :
    [separator].intercalate (first :: others) = first ++ (others.map (separator :: ·)).flatten := by
  induction others generalizing first with
  | nil => simp [List.intercalate_singleton]
  | cons second others inductionHypothesis =>
      rw [List.intercalate_cons_cons, inductionHypothesis]
      simp

theorem mem_of_mem_splitOn [DecidableEq Symbol] {separator symbol : Symbol} {text piece : List Symbol}
    (listed : piece ∈ text.splitOn separator) (member : symbol ∈ piece) : symbol ∈ text := by
  rcases List.exists_cons_of_ne_nil (List.splitOn_ne_nil separator text) with ⟨first, others, pieces⟩
  have whole : first ++ (others.map (separator :: ·)).flatten = text := by
    rw [← intercalate_cons, ← pieces, List.intercalate_splitOn]
  rw [pieces] at listed
  rw [← whole, List.mem_append]
  rcases List.mem_cons.1 listed with rfl | later
  · exact Or.inl member
  · exact Or.inr (List.mem_flatten.2 ⟨separator :: piece, List.mem_map_of_mem later, List.mem_cons_of_mem _ member⟩)

/-- A pattern of separated words is read off the split at the separator. -/
theorem mem_separated [DecidableEq Symbol] {separator : Symbol} {count : Nat} {P : RegularExpression Symbol}
    (apart : forall word, word ∈ P.matches' -> separator ∉ word) {text : List Symbol} :
    text ∈ (separated separator count P).matches' <->
      count < (text.splitOn separator).length ∧ forall piece, piece ∈ text.splitOn separator -> piece ∈ P.matches' := by
  have behind : forall word, word ∈ (RegularExpression.char separator * P).matches' <->
      Exists fun piece => piece ∈ P.matches' ∧ word = separator :: piece := fun _ => mem_char_mul
  rw [separated, RegularExpression.matches'_mul, Language.mem_mul]
  constructor
  · rintro ⟨first, opening, rest, more, rfl⟩
    rcases mem_atLeast.1 more with ⟨words, rfl, counted, known⟩
    -- every later word is a piece behind the separator
    have pieces : Exists fun others : List (List Symbol) =>
        words = others.map (separator :: ·) ∧ forall piece, piece ∈ others -> piece ∈ P.matches' := by
      clear counted more
      induction words with
      | nil => exact ⟨[], rfl, fun _ member => by cases member⟩
      | cons word words inductionHypothesis =>
          rcases (behind word).1 (known word List.mem_cons_self) with ⟨piece, inside, rfl⟩
          rcases inductionHypothesis fun each member => known each (List.mem_cons_of_mem _ member) with
            ⟨others, rfl, all⟩
          exact ⟨piece :: others, rfl, List.forall_mem_cons.2 ⟨inside, all⟩⟩
    rcases pieces with ⟨others, rfl, all⟩
    have each : forall piece, piece ∈ first :: others -> piece ∈ P.matches' := List.forall_mem_cons.2 ⟨opening, all⟩
    rw [← intercalate_cons, List.splitOn_intercalate separator (fun piece member => apart piece (each piece member))
      (List.cons_ne_nil _ _)]
    refine ⟨?_, each⟩
    simpa [Nat.lt_succ_iff] using counted
  · rintro ⟨counted, each⟩
    rcases List.exists_cons_of_ne_nil (List.splitOn_ne_nil separator text) with ⟨first, others, pieces⟩
    rw [pieces] at counted each
    refine ⟨first, each first List.mem_cons_self, (others.map (separator :: ·)).flatten, ?_, ?_⟩
    · refine mem_atLeast.2 ⟨others.map (separator :: ·), rfl, ?_, ?_⟩
      · simpa [Nat.lt_succ_iff] using counted
      · intro word member
        rcases List.mem_map.1 member with ⟨piece, listed, rfl⟩
        exact (behind _).2 ⟨piece, each piece (List.mem_cons_of_mem _ listed), rfl⟩
    · rw [← intercalate_cons, ← pieces, List.intercalate_splitOn]

end Pattern
end Foundation
end ApexQuant
