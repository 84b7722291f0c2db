import ApexQuant.Foundation.JsonText

namespace ApexQuant
namespace Config

open Foundation

/-!
# The hash of a configuration

`canonical.py`, and `canonicalize` and `hash_config` of `lib.rs`.  Both sort the keys at
every depth, write the document without blanks and take the SHA-256 of the text in
UTF-8.  They differ in two places.  Python writes ASCII: `json.dumps` escapes the
character 127 and all beyond it, where `serde_json` writes them as they are.  And a
whole number that fits in neither an `i64` nor a `u64` is a double in Rust.
-/

/-! ## Integers -/

/-- A whole number in decimal digits. -/
def decimal : Int -> Text
  | .ofNat n => Nat.toDigits 10 n
  | .negSucc n => '-' :: Nat.toDigits 10 (n + 1)

/-- The number fits in an `i64` or a `u64`. -/
def Fits (value : Int) : Prop :=
  -9223372036854775808 ≤ value ∧ value < 18446744073709551616

instance : DecidablePred Fits := fun value =>
  inferInstanceAs (Decidable (-9223372036854775808 ≤ value ∧ value < 18446744073709551616))

/-- What is used of the packages: the hash, with the texts of numbers that are not
integers of 64 bits.  A double that stands for a large integer is written with a point
or an exponent. -/
structure Packages where
  sha256 : List UInt8 -> List UInt8
  sha256_injective : Function.Injective sha256
  wide : Int -> Text
  wide_opens : forall value, Exists fun c => (wide value).head? = some c ∧ (c = '-' ∨ c.isDigit = true)
  wide_solid : forall value c, c ∈ wide value -> Json.isDelimiter c = false
  wide_marked : forall value, '.' ∈ wide value ∨ 'e' ∈ wide value
  rustFloat : Rat -> Text
  pythonFloat : Rat -> Text

/-! ## Strings -/

/-- The letter that stands for a character after a backslash. -/
def shortEscape (c : Char) : Option Char :=
  if c = '"' then some '"'
  else if c = '\\' then some '\\'
  else if c = '\n' then some 'n'
  else if c = '\r' then some 'r'
  else if c = '\t' then some 't'
  else if c = '\x0c' then some 'f'
  else if c = '\x08' then some 'b'
  else none

/-- A code unit of UTF-16 as an escape. -/
def unitEscape (unit : Nat) : Text :=
  '\\' :: 'u' :: Numeral.digits 16 4 unit

/-- A character as `serde_json` writes it. -/
def Rust.escape (c : Char) : Text :=
  match shortEscape c with
  | some letter => ['\\', letter]
  | none => if c.toNat < 32 then unitEscape c.toNat else [c]

/-- A character as `json.dumps` writes it with `ensure_ascii`. -/
def Python.escape (c : Char) : Text :=
  match shortEscape c with
  | some letter => ['\\', letter]
  | none =>
      if 32 ≤ c.toNat ∧ c.toNat ≤ 126 then [c]
      else if c.toNat < 65536 then unitEscape c.toNat
      else
        unitEscape (0xd800 + (c.toNat - 65536) / 1024) ++ unitEscape (0xdc00 + (c.toNat - 65536) % 1024)

/-- A string in quotes. -/
def quoted (escape : Char -> Text) (text : Text) : Text :=
  '"' :: text.flatMap escape ++ ['"']

def Rust.writer (packages : Packages) : Json.Writer where
  string := quoted Rust.escape
  integer := fun value => if Fits value then decimal value else packages.wide value
  float := packages.rustFloat

def Python.writer (packages : Packages) : Json.Writer where
  string := quoted Python.escape
  integer := decimal
  float := packages.pythonFloat

/-! ## Hashes -/

/-- The octets of a digest in hexadecimal. -/
def hexdigest (octets : List UInt8) : Text :=
  octets.flatMap fun octet => Numeral.digits 16 2 octet.toNat

/-- `canonicalize` of `lib.rs`: every map goes through a `BTreeMap`. -/
def Rust.canonicalize (document : Json) : Json :=
  document.sortKeys

/-- `hash_config` of `lib.rs`. -/
def Rust.hashConfig (packages : Packages) (document : Json) : Text :=
  hexdigest (packages.sha256 (Text.utf8 (Json.render (Rust.writer packages) (Rust.canonicalize document))))

/-- `canonicalize` of `canonical.py`: every `dict` is made from its sorted keys. -/
def Python.canonicalize (document : Json) : Json :=
  document.sortKeys

/-- `canonical_json`. -/
def Python.canonicalJson (packages : Packages) (document : Json) : Text :=
  Json.render (Python.writer packages) (Python.canonicalize document)

/-- `hash_config` of `canonical.py`. -/
def Python.hashConfig (packages : Packages) (document : Json) : Text :=
  hexdigest (packages.sha256 (Text.utf8 (Python.canonicalJson packages document)))

/-! ## Reading strings back -/

/-- The ways in which either of them writes a character. -/
inductive Escaped : Char -> Text -> Prop where
  | plain {c : Char} (common : shortEscape c = none) : Escaped c [c]
  | short {c letter : Char} (known : shortEscape c = some letter) : Escaped c ['\\', letter]
  | unit {c : Char} (common : shortEscape c = none) (small : c.toNat < 65536) : Escaped c (unitEscape c.toNat)
  | pair {c : Char} (large : 65536 ≤ c.toNat) :
      Escaped c (unitEscape (0xd800 + (c.toNat - 65536) / 1024) ++ unitEscape (0xdc00 + (c.toNat - 65536) % 1024))

theorem Rust.escaped (c : Char) : Escaped c (Rust.escape c) := by
  rw [Rust.escape]
  split
  · rename_i letter known
    exact .short known
  · rename_i common
    split
    · exact .unit common (by omega)
    · exact .plain common

theorem Python.escaped (c : Char) : Escaped c (Python.escape c) := by
  rw [Python.escape]
  split
  · rename_i letter known
    exact .short known
  · rename_i common
    split
    · exact .plain common
    · split
      · rename_i small
        exact .unit common small
      · exact .pair (by omega)

/-- The characters that have a letter, with the letters. -/
def shortEscapes : List (Char × Char) :=
  [('"', '"'), ('\\', '\\'), ('\n', 'n'), ('\r', 'r'), ('\t', 't'), ('\x0c', 'f'), ('\x08', 'b')]

theorem mem_shortEscapes {c letter : Char} (known : shortEscape c = some letter) : (c, letter) ∈ shortEscapes := by
  unfold shortEscape at known
  split_ifs at known with quote backslash newline carriage tab feed bell
  all_goals
    cases known
    subst c
    decide

theorem shortEscape_injective {c d letter : Char} (left : shortEscape c = some letter)
    (right : shortEscape d = some letter) : c = d := by
  have table : forall entry, entry ∈ shortEscapes -> forall entry', entry' ∈ shortEscapes -> entry.2 = entry'.2 ->
    entry.1 = entry'.1 := by decide
  exact table _ (mem_shortEscapes left) _ (mem_shortEscapes right) rfl

theorem ne_unit_of_shortEscape {c letter : Char} (known : shortEscape c = some letter) : letter ≠ 'u' := by
  have table : forall entry, entry ∈ shortEscapes -> entry.2 ≠ 'u' := by decide
  exact table _ (mem_shortEscapes known)

theorem ne_mark_of_common {c : Char} (common : shortEscape c = none) : c ≠ '\\' ∧ c ≠ '"' := by
  unfold shortEscape at common
  grind

/-- A code unit is read off its four digits. -/
theorem unitEscape_cancel {unit unit' : Nat} (small : unit < 65536) (small' : unit' < 65536) {rest rest' : Text}
    (same : unitEscape unit ++ rest = unitEscape unit' ++ rest') : unit = unit' ∧ rest = rest' := by
  have opened := (List.cons.inj (List.cons.inj same).2).2
  rcases List.append_inj opened (by rw [Numeral.length_digits, Numeral.length_digits]) with ⟨digits, left⟩
  exact ⟨Numeral.digits_injOn (by decide) (by decide) (by omega) (by omega) digits, left⟩

/-- A character is no half of a pair. -/
theorem scalar (c : Char) : c.toNat < 0xd800 ∨ (0xdfff < c.toNat ∧ c.toNat < 0x110000) :=
  c.valid

theorem Escaped.opening {c : Char} {text : Text} (escaped : Escaped c text) :
    (Exists fun rest => text = '\\' :: rest) ∨ (text = [c] ∧ c ≠ '\\' ∧ c ≠ '"') := by
  cases escaped with
  | plain common => exact Or.inr ⟨rfl, ne_mark_of_common common⟩
  | short known => exact Or.inl ⟨_, rfl⟩
  | unit common small => exact Or.inl ⟨_, rfl⟩
  | pair large => exact Or.inl ⟨_, rfl⟩

/-- What a text begins with determines the character that was written. -/
theorem Escaped.unique {c d : Char} {text text' rest rest' : Text} (left : Escaped c text) (right : Escaped d text')
    (same : text ++ rest = text' ++ rest') : c = d ∧ text = text' ∧ rest = rest' := by
  have valid := scalar c
  have valid' := scalar d
  cases left with
  | plain common =>
      cases right with
      | plain common' =>
          rcases List.cons.inj same with ⟨rfl, left⟩
          exact ⟨rfl, rfl, left⟩
      | short | unit | pair => exact absurd (List.cons.inj same).1 (ne_mark_of_common common).1
  | short known =>
      cases right with
      | plain common' => exact absurd (List.cons.inj same).1.symm (ne_mark_of_common common').1
      | short known' =>
          rcases List.cons.inj (List.cons.inj same).2 with ⟨rfl, left⟩
          exact ⟨shortEscape_injective known known', rfl, left⟩
      | unit | pair => exact absurd (List.cons.inj (List.cons.inj same).2).1 (ne_unit_of_shortEscape known)
  | unit common small =>
      cases right with
      | plain common' => exact absurd (List.cons.inj same).1.symm (ne_mark_of_common common').1
      | short known' => exact absurd (List.cons.inj (List.cons.inj same).2).1.symm (ne_unit_of_shortEscape known')
      | unit common' small' =>
          rcases unitEscape_cancel small small' same with ⟨units, left⟩
          exact ⟨Char.toNat_inj.mp units, congrArg unitEscape units, left⟩
      | pair large' =>
          rw [List.append_assoc] at same
          have units := (unitEscape_cancel small (by omega) same).1
          omega
  | pair large =>
      rw [List.append_assoc] at same
      cases right with
      | plain common' => exact absurd (List.cons.inj same).1.symm (ne_mark_of_common common').1
      | short known' => exact absurd (List.cons.inj (List.cons.inj same).2).1.symm (ne_unit_of_shortEscape known')
      | unit common' small' =>
          have units := (unitEscape_cancel (by omega) small' same).1
          omega
      | pair large' =>
          rw [List.append_assoc] at same
          rcases unitEscape_cancel (by omega) (by omega) same with ⟨high, later⟩
          rcases unitEscape_cancel (by omega) (by omega) later with ⟨low, left⟩
          have same : c = d := Char.toNat_inj.mp (by omega)
          exact ⟨same, by rw [same], left⟩

/-- A string in quotes shows where it ends, and its text how each character was written. -/
theorem quoted_cancel {escape escape' : Char -> Text} (escaped : forall c, Escaped c (escape c))
    (escaped' : forall c, Escaped c (escape' c)) {text text' rest rest' : Text}
    (same : quoted escape text ++ rest = quoted escape' text' ++ rest') :
    text = text' ∧ (forall c, c ∈ text -> escape c = escape' c) ∧ rest = rest' := by
  have no_quote : forall (escape : Char -> Text), (forall c, Escaped c (escape c)) -> forall c (later more : Text),
      escape c ++ later ≠ '"' :: more := by
    intro escape escaped c later more same
    rcases (escaped c).opening with ⟨others, marked⟩ | ⟨plain, -, notQuote⟩
    · rw [marked] at same
      exact absurd (List.cons.inj same).1 (by decide)
    · rw [plain] at same
      exact notQuote (List.cons.inj same).1
  simp only [quoted, List.cons_append, List.append_assoc, List.nil_append, List.cons.injEq, true_and] at same
  induction text generalizing text' with
  | nil =>
      cases text' with
      | nil => exact ⟨rfl, fun _ member => absurd member List.not_mem_nil, (List.cons.inj same).2⟩
      | cons d others' =>
          rw [List.flatMap_cons, List.append_assoc] at same
          exact absurd same.symm (no_quote escape' escaped' d _ _)
  | cons c others inductionHypothesis =>
      rw [List.flatMap_cons, List.append_assoc] at same
      cases text' with
      | nil => exact absurd same (no_quote escape escaped c _ _)
      | cons d others' =>
          rw [List.flatMap_cons, List.append_assoc] at same
          rcases (escaped c).unique (escaped' d) same with ⟨rfl, written, later⟩
          rcases inductionHypothesis later with ⟨rfl, each, left⟩
          exact ⟨rfl, List.forall_mem_cons.mpr ⟨written, each⟩, left⟩

/-! ## Reading integers back -/

theorem decimal_opens (value : Int) : Exists fun c => (decimal value).head? = some c ∧ (c = '-' ∨ c.isDigit = true) := by
  cases value with
  | negSucc n => exact ⟨'-', rfl, Or.inl rfl⟩
  | ofNat n =>
      cases written : Nat.toDigits 10 n with
      | nil => exact absurd written Nat.toDigits_ne_nil
      | cons c rest =>
          have digit := Nat.isDigit_of_mem_toDigits (by decide) (by decide) (written ▸ List.mem_cons_self : c ∈ Nat.toDigits 10 n)
          exact ⟨c, congrArg List.head? written, Or.inr digit⟩

theorem mem_decimal {value : Int} {c : Char} (member : c ∈ decimal value) : c = '-' ∨ c.isDigit = true := by
  cases value with
  | ofNat n => exact Or.inr (Nat.isDigit_of_mem_toDigits (by decide) (by decide) member)
  | negSucc n =>
      rcases List.mem_cons.mp member with sign | digit
      · exact Or.inl sign
      · exact Or.inr (Nat.isDigit_of_mem_toDigits (by decide) (by decide) digit)

theorem solid_of_numeral {c : Char} (numeral : c = '-' ∨ c.isDigit = true) : Json.isDelimiter c = false := by
  cases delimiter : Json.isDelimiter c with
  | false => rfl
  | true =>
      simp only [Json.isDelimiter, Bool.or_eq_true, beq_iff_eq] at delimiter
      rcases delimiter with (rfl | rfl) | rfl <;> exact absurd numeral (by decide)

theorem decimal_injective : Function.Injective decimal := by
  have unsigned : forall n rest, Nat.toDigits 10 n ≠ '-' :: rest := by
    intro n rest same
    have member : '-' ∈ Nat.toDigits 10 n := same ▸ List.mem_cons_self
    exact absurd (Nat.isDigit_of_mem_toDigits (by decide) (by decide) member) (by decide)
  have digits : forall n n', Nat.toDigits 10 n = Nat.toDigits 10 n' -> n = n' := by
    intro n n' same
    rw [← Nat.ofDigitChars_ten_toDigits (n := n), same, Nat.ofDigitChars_ten_toDigits]
  intro value value' same
  cases value with
  | ofNat n =>
      cases value' with
      | ofNat n' => exact congrArg Int.ofNat (digits n n' same)
      | negSucc n' => exact absurd same (unsigned n _)
  | negSucc n =>
      cases value' with
      | ofNat n' => exact absurd same.symm (unsigned n' _)
      | negSucc n' => exact congrArg Int.negSucc (Nat.succ.inj (digits _ _ (List.cons.inj same).2))

/-- The text of a double is the text of no integer. -/
theorem wide_ne_decimal (packages : Packages) (value value' : Int) : packages.wide value ≠ decimal value' := by
  intro same
  rcases packages.wide_marked value with marked | marked
  · exact absurd (mem_decimal (same ▸ marked)) (by decide)
  · exact absurd (mem_decimal (same ▸ marked)) (by decide)

/-- A text of Rust in decimal digits is that of an integer of 64 bits. -/
theorem Rust.integer_eq_decimal {packages : Packages} {value value' : Int}
    (same : (Rust.writer packages).integer value = decimal value') : value = value' ∧ Fits value := by
  change (if Fits value then decimal value else packages.wide value) = decimal value' at same
  split at same
  · rename_i fits
    exact ⟨decimal_injective same, fits⟩
  · exact absurd same (wide_ne_decimal packages value value')

theorem Rust.integer_solid (packages : Packages) (value : Int) (c : Char)
    (member : c ∈ (Rust.writer packages).integer value) : Json.isDelimiter c = false := by
  change c ∈ (if Fits value then decimal value else packages.wide value) at member
  split at member
  · exact solid_of_numeral (mem_decimal member)
  · exact packages.wide_solid value c member

theorem Rust.shaped (packages : Packages) : (Rust.writer packages).Shaped where
  quoted := fun _ => rfl
  numeral := fun value => by
    change Exists fun c => (if Fits value then decimal value else packages.wide value).head? = some c ∧ _
    split
    · exact decimal_opens value
    · exact packages.wide_opens value

theorem Python.shaped (packages : Packages) : (Python.writer packages).Shaped where
  quoted := fun _ => rfl
  numeral := decimal_opens

/-! ## Reading documents back -/

/-- The characters that both write alike. -/
def Printable (text : Text) : Prop :=
  forall c, c ∈ text -> c.toNat < 127

/-- Strings and keys in ASCII, and integers of 64 bits. -/
def Plain : Json -> Prop :=
  Json.Leaves Printable Fits

/-- From 127 on, Rust writes the character and Python an escape. -/
theorem escape_eq_iff (c : Char) : Rust.escape c = Python.escape c <-> c.toNat < 127 := by
  unfold Rust.escape Python.escape
  cases known : shortEscape c with
  | some letter =>
      have table : forall entry, entry ∈ shortEscapes -> entry.1.toNat < 127 := by decide
      exact iff_of_true rfl (table _ (mem_shortEscapes known))
  | none =>
      rcases Nat.lt_or_ge c.toNat 32 with control | printed
      · dsimp only
        rw [if_pos control, if_neg (by omega), if_pos (by omega)]
        exact iff_of_true rfl (by omega)
      · dsimp only
        rw [if_neg (by omega)]
        split
        · exact iff_of_true rfl (by omega)
        · apply iff_of_false _ (by omega)
          intro same
          split at same <;> cases same

theorem quoted_congr {text : Text} (printable : Printable text) : quoted Rust.escape text = quoted Python.escape text := by
  have same : text.flatMap Rust.escape = text.flatMap Python.escape :=
    List.flatMap_congr fun c member => (escape_eq_iff c).mpr (printable c member)
  rw [quoted, quoted, same]

/-- What Python writes can be read back. -/
theorem Python.reads (packages : Packages) :
    Json.Reads (Python.writer packages) (Python.writer packages) (fun _ => True) (fun _ => True) fun _ => True where
  shaped := Python.shaped packages
  shaped' := Python.shaped packages
  strings := fun _ _ _ _ same => (quoted_cancel Python.escaped Python.escaped same).imp id (And.imp_left fun _ => trivial)
  integers := fun _ _ => Json.legible_of_solid (fun _ member => solid_of_numeral (mem_decimal member))
    (fun _ _ member => solid_of_numeral (mem_decimal member)) fun _ same => ⟨decimal_injective same, trivial⟩

/-- What Rust writes can be read back, but for the integers that became doubles. -/
theorem Rust.reads (packages : Packages) :
    Json.Reads (Rust.writer packages) (Rust.writer packages) (fun _ => True) Fits fun _ => True where
  shaped := Rust.shaped packages
  shaped' := Rust.shaped packages
  strings := fun _ _ _ _ same => (quoted_cancel Rust.escaped Rust.escaped same).imp id (And.imp_left fun _ => trivial)
  integers := fun value fits => Json.legible_of_solid (Rust.integer_solid packages value) (Rust.integer_solid packages)
    fun other same => by
      have written : (Rust.writer packages).integer value = decimal value := if_pos fits
      exact ⟨(Rust.integer_eq_decimal (same.symm.trans written)).1.symm, trivial⟩

/-- What Rust writes as Python does was plain. -/
theorem reads_across (packages : Packages) :
    Json.Reads (Rust.writer packages) (Python.writer packages) Printable (fun _ => True) Fits where
  shaped := Rust.shaped packages
  shaped' := Python.shaped packages
  strings := fun _ _ _ _ same => (quoted_cancel Rust.escaped Python.escaped same).imp id
    (And.imp_left fun each c member => (escape_eq_iff c).mp (each c member))
  integers := fun value _ => Json.legible_of_solid (Rust.integer_solid packages value)
    (fun _ _ member => solid_of_numeral (mem_decimal member)) fun _ same => Rust.integer_eq_decimal same

/-! ## What the hash is for -/

theorem hexdigest_injective : Function.Injective hexdigest := by
  intro octets
  induction octets with
  | nil =>
      intro octets' same
      cases octets' with
      | nil => rfl
      | cons octet' rest' => cases same
  | cons octet rest inductionHypothesis =>
      intro octets' same
      cases octets' with
      | nil => cases same
      | cons octet' rest' =>
          rw [hexdigest, hexdigest, List.flatMap_cons, List.flatMap_cons] at same
          rcases List.append_inj same (by rw [Numeral.length_digits, Numeral.length_digits]) with ⟨first, later⟩
          have numbers := @Numeral.digits_injOn 16 (by decide) (by decide) 2 _ _ octet.toNat_lt octet'.toNat_lt first
          rw [UInt8.toNat_inj.mp numbers, inductionHypothesis later]

/-- Equal digests are digests of equal texts. -/
theorem text_eq_of_digest {packages : Packages} {text text' : Text}
    (same : hexdigest (packages.sha256 (Text.utf8 text)) = hexdigest (packages.sha256 (Text.utf8 text'))) :
    text = text' :=
  Text.utf8_injective (packages.sha256_injective (hexdigest_injective same))

/-- A configuration: a document whose numbers are whole. -/
structure Configuration extends Document where
  whole : json.Whole

/-- The hash of the configuration is canonical: both languages have it, it does not
depend on the order of keys, and no other configuration has it. -/
structure Canonical (packages : Packages) (configuration : Configuration) : Prop where
  agree : Rust.hashConfig packages configuration.json = Python.hashConfig packages configuration.json
  steadyRust : forall json, Json.Reordered configuration.json json ->
    Rust.hashConfig packages json = Rust.hashConfig packages configuration.json
  steadyPython : forall json, Json.Reordered configuration.json json ->
    Python.hashConfig packages json = Python.hashConfig packages configuration.json
  faithfulRust : forall other : Configuration,
    Rust.hashConfig packages configuration.json = Rust.hashConfig packages other.json ->
      Json.Reordered configuration.json other.json
  faithfulPython : forall other : Configuration,
    Python.hashConfig packages configuration.json = Python.hashConfig packages other.json ->
      Json.Reordered configuration.json other.json

/-- A document whose sorted text can be read back has the digest of its own class only. -/
theorem reordered_of_digest {packages : Packages} {writer : Json.Writer} {texts : Text -> Prop} {given gained : Int -> Prop}
    (reads : Json.Reads writer writer texts given gained) {configuration other : Configuration}
    (leaves : Json.Leaves (fun _ => True) given configuration.json)
    (same : hexdigest (packages.sha256 (Text.utf8 (Json.render writer configuration.json.sortKeys))) =
      hexdigest (packages.sha256 (Text.utf8 (Json.render writer other.json.sortKeys)))) :
    Json.Reordered configuration.json other.json := by
  have texts := text_eq_of_digest same
  have whole := (Json.whole_sortKeys configuration.json).mpr configuration.whole
  have whole' := (Json.whole_sortKeys other.json).mpr other.whole
  rw [← List.append_nil (Json.render writer configuration.json.sortKeys),
    ← List.append_nil (Json.render writer other.json.sortKeys)] at texts
  have sorted := (Json.legible_render reads whole ((Json.leaves_sortKeys _).mpr leaves) _ [] [] whole'
    Json.delimited_nil Json.delimited_nil texts).1
  exact (Json.Reordered.iff_sortKeys_eq configuration.uniqueKeys).mpr sorted

/-- The hash of a configuration is canonical when its strings are in ASCII and its
integers have 64 bits, and then only. -/
theorem canonical_iff_plain (packages : Packages) (configuration : Configuration) :
    Canonical packages configuration <-> Plain configuration.json := by
  have whole := (Json.whole_sortKeys configuration.json).mpr configuration.whole
  constructor
  · intro canonical
    have texts := text_eq_of_digest canonical.agree
    unfold Rust.canonicalize Python.canonicalJson Python.canonicalize at texts
    have plain := (Json.legible_render (reads_across packages) whole (Json.leaves_true _) _ [] [] whole
      Json.delimited_nil Json.delimited_nil (congrArg (· ++ []) texts)).2.1
    exact (Json.leaves_sortKeys _).mp plain
  · intro plain
    have sorted : Json.Leaves Printable Fits configuration.json.sortKeys := (Json.leaves_sortKeys _).mpr plain
    have same : Json.render (Rust.writer packages) configuration.json.sortKeys =
        Json.render (Python.writer packages) configuration.json.sortKeys :=
      Json.render_congr (fun text printable => quoted_congr printable) (fun value fits => if_pos fits) whole sorted
    constructor
    · exact congrArg (fun text => hexdigest (packages.sha256 (Text.utf8 text))) same
    · intro json reordered
      rw [Rust.hashConfig, Rust.hashConfig, Rust.canonicalize, Rust.canonicalize,
        reordered.sortKeys_eq configuration.uniqueKeys]
    · intro json reordered
      rw [Python.hashConfig, Python.hashConfig, Python.canonicalJson, Python.canonicalJson, Python.canonicalize,
        Python.canonicalize, reordered.sortKeys_eq configuration.uniqueKeys]
    · intro other digests
      exact reordered_of_digest (Rust.reads packages) (Json.Leaves.imp plain (fun _ _ => trivial) fun _ fits => fits) digests
    · intro other digests
      exact reordered_of_digest (Python.reads packages) (Json.leaves_true _) digests

/-- A value of `é`. -/
def accented : Configuration where
  json := .object [("name".toList, .string "é".toList)]
  uniqueKeys := ⟨List.nodup_singleton _, trivial, trivial⟩
  whole := ⟨trivial, trivial, trivial⟩

/-- Packages with a hash that is the octets themselves. -/
def legiblePackages : Packages where
  sha256 := id
  sha256_injective := Function.injective_id
  wide := fun value => decimal value ++ ['.', '0']
  wide_opens := fun value => by
    rcases decimal_opens value with ⟨c, opening, numeral⟩
    exact ⟨c, by rw [List.head?_append, opening]; rfl, numeral⟩
  wide_solid := fun value c member => by
    rcases List.mem_append.mp member with digit | point
    · exact solid_of_numeral (mem_decimal digit)
    · rcases List.mem_pair.mp point with rfl | rfl <;> rfl
  wide_marked := fun value => Or.inl (List.mem_append_right _ (by decide))
  rustFloat := fun _ => []
  pythonFloat := fun _ => []

/-- Rust writes the accent as it is, and Python as an escape. -/
theorem accent_has_two_hashes : ¬ Canonical legiblePackages accented := by
  intro canonical
  exact absurd canonical.agree (by decide)

end Config
end ApexQuant
