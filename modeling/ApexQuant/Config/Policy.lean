import ApexQuant.Foundation.Json

namespace ApexQuant
namespace Config

open Foundation

/-!
# Secrets in configurations

`policy.py` and the scanner of `lib.rs`.  The two are the same program in two
languages: one walks a `dict`, the other a `BTreeMap`, which keeps its keys in order.

The scanner looks at a string where it stands directly under a key that it takes for
that of a secret.  It forgets the key when it goes on into a list or an object, so a
secret inside a list, or inside an object under a key of another name, is not seen.
-/

/-- `ValidationPolicy`. -/
structure ValidationPolicy where
  secretKeyMarkers : List Text
  allowedSecretReferencePrefixes : List Text
  environments : List Text
  planes : List Text
  failClosedPolicies : List Text
  tradingModeByEnvironment : List (Text × Text)
  requireFailClosedFor : List Text

/-- `data/config/validation_policy.yaml`, which both languages load. -/
def embeddedPolicy : ValidationPolicy where
  secretKeyMarkers :=
    ["password".toList, "secret".toList, "token".toList, "api_key".toList, "apikey".toList, "private_key".toList,
      "credential".toList, "access_key".toList]
  allowedSecretReferencePrefixes := ["env://".toList, "vault://".toList, "secret://".toList]
  environments := ["local".toList, "sandbox".toList, "paper".toList, "shadow".toList, "production".toList]
  planes :=
    ["CONTROL".toList, "MARKET_DATA".toList, "TRADING".toList, "RISK".toList, "AI".toList, "DATA_RESEARCH".toList,
      "OBSERVABILITY".toList]
  failClosedPolicies :=
    ["READ_ONLY".toList, "CANCEL_OPEN_ORDERS".toList, "HALT_TRADING".toList, "SHUTDOWN".toList]
  tradingModeByEnvironment :=
    [("local".toList, "DEVELOPMENT".toList), ("sandbox".toList, "SANDBOX".toList), ("paper".toList, "PAPER".toList),
      ("shadow".toList, "SHADOW".toList), ("production".toList, "PRODUCTION".toList)]
  requireFailClosedFor := ["paper".toList, "shadow".toList, "production".toList]

/-- `ValidationIssue`.  The rules here raise errors only. -/
structure ValidationIssue where
  path : Text
  message : Text
  deriving DecidableEq

/-- What a language takes for the key of a secret, and for a reference to one. -/
structure Scanner where
  fold : Text.Lowercasing
  policy : ValidationPolicy

/-- The scanner with the policy that both languages load. -/
def embeddedScanner (fold : Text.Lowercasing) : Scanner where
  fold := fold
  policy := embeddedPolicy

namespace Scanner

variable (scanner : Scanner)

/-- `is_secret_key`. -/
def isSecretKey (key : Text) : Bool :=
  scanner.policy.secretKeyMarkers.any fun marker => (scanner.fold.lower key).tails.any marker.isPrefixOf

/-- `is_secret_reference` of a string. -/
def isSecretReference (text : Text) : Bool :=
  ("$\x7b".toList.isPrefixOf text && "\x7d".toList.isSuffixOf text) ||
    scanner.policy.allowedSecretReferencePrefixes.any fun reference => reference.isPrefixOf text

/-- The value is a string, and not a reference. -/
def isLiteral : Json -> Bool
  | .string text => !scanner.isSecretReference text
  | _ => false

def literalSecret (path : Text) : ValidationIssue where
  path := path
  message :=
    "literal secret detected; use env://, vault://, secret://, or $\x7bVAR\x7d references only".toList

mutual

/-- `scan_secrets`. -/
def scanSecrets (path : Text) : Json -> List ValidationIssue
  | .object fields => scanFields path fields
  | .array items => scanItems path 0 items
  | .null => []
  | .bool _ => []
  | .integer _ => []
  | .float _ => []
  | .string _ => []

def scanFields (path : Text) : List (Text × Json) -> List ValidationIssue
  | [] => []
  | (key, item) :: rest =>
      (if scanner.isSecretKey key && scanner.isLiteral item then [literalSecret (path ++ '.' :: key)]
      else scanSecrets (path ++ '.' :: key) item) ++ scanFields path rest

def scanItems (path : Text) (index : Nat) : List Json -> List ValidationIssue
  | [] => []
  | item :: rest =>
      scanSecrets (path ++ '[' :: Nat.toDigits 10 index ++ [']']) item ++ scanItems path (index + 1) rest

end

end Scanner

/-- `scan_secrets` of `policy.py`. -/
def Python.scanSecrets (scanner : Scanner) (document : Json) : List ValidationIssue :=
  scanner.scanSecrets ['$'] document

/-- `scan_secrets` of `lib.rs`, whose maps are in the order of their keys. -/
def Rust.scanSecrets (scanner : Scanner) (document : Json) : List ValidationIssue :=
  scanner.scanSecrets ['$'] document.sortKeys

/-! ## What there is to find -/

namespace Scanner

variable (scanner : Scanner)

/-- An object with the string at some depth beneath the key of a secret. -/
def Keeps (text : Text) (document : Json) : Prop :=
  Exists fun fields => document = .object fields ∧ Exists fun field : Text × Json =>
    field ∈ fields ∧ scanner.isSecretKey field.1 = true ∧ Json.Somewhere (fun part => part = .string text) field.2

/-- Every string beneath the key of a secret is a reference. -/
def Covered (document : Json) : Prop :=
  forall text, Json.Somewhere (scanner.Keeps text) document -> scanner.isSecretReference text = true

/-- An object with a literal directly under the key of a secret. -/
def Shows (document : Json) : Prop :=
  Exists fun fields => document = .object fields ∧ Exists fun field : Text × Json =>
    field ∈ fields ∧ scanner.isSecretKey field.1 = true ∧ scanner.isLiteral field.2 = true

/-- A literal stands somewhere directly under the key of a secret. -/
def Exposed (document : Json) : Prop :=
  Json.Somewhere scanner.Shows document

/-- A list with a literal, or an object with one under a key that is not that of a
secret. -/
def Drops (document : Json) : Prop :=
  (Exists fun items => document = .array items ∧ Exists fun item => item ∈ items ∧ scanner.isLiteral item = true) ∨
  (Exists fun fields => document = .object fields ∧ Exists fun field : Text × Json =>
    field ∈ fields ∧ scanner.isSecretKey field.1 = false ∧ scanner.isLiteral field.2 = true)

/-- An object with such a list or object at some depth beneath the key of a secret. -/
def Hides (document : Json) : Prop :=
  Exists fun fields => document = .object fields ∧ Exists fun field : Text × Json =>
    field ∈ fields ∧ scanner.isSecretKey field.1 = true ∧ Json.Somewhere scanner.Drops field.2

/-- A literal stands beneath the key of a secret, where the scanner has forgotten the
key. -/
def Buried (document : Json) : Prop :=
  Json.Somewhere scanner.Hides document

/-! ## What the scanner finds -/

variable {scanner}

theorem scanFields_eq_nil {path : Text} {fields : List (Text × Json)} :
    scanner.scanFields path fields = [] <-> forall field, field ∈ fields ->
      ¬ (scanner.isSecretKey field.1 = true ∧ scanner.isLiteral field.2 = true) ∧
        scanner.scanSecrets (path ++ '.' :: field.1) field.2 = [] := by
  induction fields with
  | nil => exact ⟨fun _ _ member => absurd member List.not_mem_nil, fun _ => rfl⟩
  | cons field rest inductionHypothesis =>
      rcases field with ⟨key, item⟩
      rw [scanFields, List.append_eq_nil_iff, inductionHypothesis, List.forall_mem_cons]
      apply and_congr_left'
      by_cases shown : (scanner.isSecretKey key && scanner.isLiteral item) = true
      · rw [if_pos shown]
        constructor
        · intro empty
          cases empty
        · intro passed
          exact absurd (Bool.and_eq_true_iff.mp shown) passed.1
      · rw [if_neg shown]
        rw [Bool.and_eq_true_iff] at shown
        exact ⟨fun empty => ⟨shown, empty⟩, fun passed => passed.2⟩

theorem scanItems_eq_nil {path : Text} {index : Nat} {items : List Json}
    (silent : forall item, item ∈ items -> forall path, scanner.scanSecrets path item = [] <-> ¬ scanner.Exposed item) :
    scanner.scanItems path index items = [] <-> forall item, item ∈ items -> ¬ scanner.Exposed item := by
  induction items generalizing index with
  | nil => exact ⟨fun _ _ member => absurd member List.not_mem_nil, fun _ => rfl⟩
  | cons item rest inductionHypothesis =>
      rw [scanItems, List.append_eq_nil_iff, silent item List.mem_cons_self,
        inductionHypothesis fun other member => silent other (List.mem_cons_of_mem _ member), List.forall_mem_cons]

/-- The scanner finds the literals that stand directly under the key of a secret. -/
theorem scanSecrets_eq_nil_iff (document : Json) (path : Text) :
    scanner.scanSecrets path document = [] <-> ¬ scanner.Exposed document := by
  induction document generalizing path with
  | array items inductionHypothesis =>
      rw [scanSecrets, scanItems_eq_nil inductionHypothesis, Exposed, Json.somewhere_array]
      constructor
      · rintro silent (⟨fields, impossible, -⟩ | ⟨item, member, inside⟩)
        · cases impossible
        · exact silent item member inside
      · intro silent item member inside
        exact silent (Or.inr ⟨item, member, inside⟩)
  | object fields inductionHypothesis =>
      rw [scanSecrets, scanFields_eq_nil, Exposed, Json.somewhere_object]
      constructor
      · rintro silent (⟨_, same, field, member, shown⟩ | ⟨field, member, inside⟩)
        · cases same
          exact (silent field member).1 shown
        · exact (inductionHypothesis field member _).mp (silent field member).2 inside
      · intro silent field member
        refine ⟨fun shown => silent (Or.inl ⟨fields, rfl, field, member, shown⟩), ?_⟩
        exact (inductionHypothesis field member _).mpr fun inside => silent (Or.inr ⟨field, member, inside⟩)
  | null | bool | integer | float | string =>
      refine ⟨fun _ found => ?_, fun _ => rfl⟩
      cases found with
      | here shown =>
          rcases shown with ⟨fields, impossible, -⟩
          cases impossible

theorem isLiteral_sortKeys (document : Json) : scanner.isLiteral document.sortKeys = scanner.isLiteral document := by
  cases document <;> rfl

theorem shows_sortKeys (document : Json) : scanner.Shows document.sortKeys <-> scanner.Shows document := by
  cases document with
  | object fields =>
      rw [Json.sortKeys_object]
      constructor
      · rintro ⟨_, same, field, member, secret, literal⟩
        cases same
        rcases Json.mem_sorted.mp member with ⟨old, known, rfl⟩
        exact ⟨fields, rfl, old, known, secret, (isLiteral_sortKeys old.2).symm.trans literal⟩
      · rintro ⟨_, same, old, known, secret, literal⟩
        cases same
        exact ⟨_, rfl, _, Json.mem_sorted.mpr ⟨old, known, rfl⟩, secret, (isLiteral_sortKeys old.2).trans literal⟩
  | array items =>
      rw [Json.sortKeys_array]
      constructor
      · rintro ⟨fields, impossible, -⟩
        cases impossible
      · rintro ⟨fields, impossible, -⟩
        cases impossible
  | null | bool | integer | float | string => exact Iff.rfl

theorem python_scanSecrets_eq_nil_iff (document : Json) :
    Python.scanSecrets scanner document = [] <-> ¬ scanner.Exposed document :=
  scanSecrets_eq_nil_iff document ['$']

theorem rust_scanSecrets_eq_nil_iff (document : Json) :
    Rust.scanSecrets scanner document = [] <-> ¬ scanner.Exposed document := by
  unfold Rust.scanSecrets
  rw [scanSecrets_eq_nil_iff, Exposed, Exposed, Json.somewhere_sortKeys shows_sortKeys]

/-! ## What the scanner misses -/

/-- A literal inside a document is the document, or is shown, or is dropped. -/
theorem somewhere_literal_iff (document : Json) :
    Json.Somewhere (fun part => scanner.isLiteral part = true) document <->
      scanner.isLiteral document = true ∨ scanner.Exposed document ∨ Json.Somewhere scanner.Drops document := by
  constructor
  · intro found
    induction found with
    | here literal => exact Or.inl literal
    | item member _ inductionHypothesis =>
        rcases inductionHypothesis with literal | shown | dropped
        · exact Or.inr (Or.inr (.here (Or.inl ⟨_, rfl, _, member, literal⟩)))
        · exact Or.inr (Or.inl (.item member shown))
        · exact Or.inr (Or.inr (.item member dropped))
    | @field fields field member _ inductionHypothesis =>
        rcases inductionHypothesis with literal | shown | dropped
        · cases secret : scanner.isSecretKey field.1 with
          | true => exact Or.inr (Or.inl (.here ⟨fields, rfl, field, member, secret, literal⟩))
          | false => exact Or.inr (Or.inr (.here (Or.inr ⟨fields, rfl, field, member, secret, literal⟩)))
        · exact Or.inr (Or.inl (.field member shown))
        · exact Or.inr (Or.inr (.field member dropped))
  · have shows_literal : forall part, scanner.Shows part ->
        Json.Somewhere (fun part => scanner.isLiteral part = true) part := by
      rintro _ ⟨fields, rfl, field, member, -, literal⟩
      exact .field member (.here literal)
    have drops_literal : forall part, scanner.Drops part ->
        Json.Somewhere (fun part => scanner.isLiteral part = true) part := by
      rintro _ (⟨items, rfl, item, member, literal⟩ | ⟨fields, rfl, field, member, -, literal⟩)
      · exact .item member (.here literal)
      · exact .field member (.here literal)
    rintro (literal | shown | dropped)
    · exact .here literal
    · exact (Json.Somewhere.imp shown shows_literal).flatten
    · exact (Json.Somewhere.imp dropped drops_literal).flatten

/-- An object with a literal at some depth beneath the key of a secret. -/
def Holds (scanner : Scanner) (document : Json) : Prop :=
  Exists fun fields => document = .object fields ∧ Exists fun field : Text × Json =>
    field ∈ fields ∧ scanner.isSecretKey field.1 = true ∧
      Json.Somewhere (fun part => scanner.isLiteral part = true) field.2

/-- A string that is not a reference is a literal. -/
theorem somewhere_literal_iff_exists (document : Json) :
    Json.Somewhere (fun part => scanner.isLiteral part = true) document <-> Exists fun text =>
      Json.Somewhere (fun part => part = .string text) document ∧ scanner.isSecretReference text = false := by
  constructor
  · intro found
    induction found with
    | @here document literal =>
        cases document with
        | string text => exact ⟨text, .here rfl, (Bool.not_eq_true' _).mp literal⟩
        | null | bool | integer | float | array | object => cases literal
    | item member _ inductionHypothesis =>
        rcases inductionHypothesis with ⟨text, inside, plain⟩
        exact ⟨text, .item member inside, plain⟩
    | field member _ inductionHypothesis =>
        rcases inductionHypothesis with ⟨text, inside, plain⟩
        exact ⟨text, .field member inside, plain⟩
  · rintro ⟨text, inside, plain⟩
    apply inside.imp
    rintro _ rfl
    exact (Bool.not_eq_true' _).mpr plain

theorem covered_iff_not_somewhere_holds (document : Json) :
    scanner.Covered document <-> ¬ Json.Somewhere scanner.Holds document := by
  constructor
  · intro covered found
    have kept : Exists fun text =>
        Json.Somewhere (scanner.Keeps text) document ∧ scanner.isSecretReference text = false := by
      clear covered
      induction found with
      | here held =>
          rcases held with ⟨fields, same, field, member, secret, literal⟩
          rcases (somewhere_literal_iff_exists field.2).mp literal with ⟨text, inside, plain⟩
          exact ⟨text, .here ⟨fields, same, field, member, secret, inside⟩, plain⟩
      | item member _ inductionHypothesis =>
          rcases inductionHypothesis with ⟨text, inside, plain⟩
          exact ⟨text, .item member inside, plain⟩
      | field member _ inductionHypothesis =>
          rcases inductionHypothesis with ⟨text, inside, plain⟩
          exact ⟨text, .field member inside, plain⟩
    rcases kept with ⟨text, inside, plain⟩
    exact Bool.false_ne_true (plain.symm.trans (covered text inside))
  · intro absent text kept
    by_contra plain
    apply absent
    apply kept.imp
    rintro _ ⟨fields, rfl, field, member, secret, inside⟩
    exact ⟨fields, rfl, field, member, secret,
      (somewhere_literal_iff_exists field.2).mpr ⟨text, inside, Bool.not_eq_true _ ▸ plain⟩⟩

theorem somewhere_holds_iff (document : Json) :
    Json.Somewhere scanner.Holds document <-> scanner.Exposed document ∨ scanner.Buried document := by
  constructor
  · intro found
    induction found with
    | here held =>
        rcases held with ⟨fields, rfl, field, member, secret, literal⟩
        rcases (somewhere_literal_iff field.2).mp literal with shown | exposed | dropped
        · exact Or.inl (.here ⟨fields, rfl, field, member, secret, shown⟩)
        · exact Or.inl (.field member exposed)
        · exact Or.inr (.here ⟨fields, rfl, field, member, secret, dropped⟩)
    | item member _ inductionHypothesis => exact inductionHypothesis.imp (.item member) (.item member)
    | field member _ inductionHypothesis => exact inductionHypothesis.imp (.field member) (.field member)
  · rintro (exposed | buried)
    · apply Json.Somewhere.imp exposed
      rintro _ ⟨fields, rfl, field, member, secret, literal⟩
      exact ⟨fields, rfl, field, member, secret, .here literal⟩
    · apply Json.Somewhere.imp buried
      rintro _ ⟨fields, rfl, field, member, secret, dropped⟩
      exact ⟨fields, rfl, field, member, secret, (somewhere_literal_iff field.2).mpr (Or.inr (Or.inr dropped))⟩

/-- A document is covered when no literal is exposed and none is buried. -/
theorem covered_iff (document : Json) :
    scanner.Covered document <-> ¬ scanner.Exposed document ∧ ¬ scanner.Buried document := by
  rw [covered_iff_not_somewhere_holds, somewhere_holds_iff, not_or]

end Scanner

/-- A scan without findings means that every string beneath the key of a secret is a
reference, in both languages, and the two find something in the same documents. -/
def ScanComplete (scanner : Scanner) (document : Json) : Prop :=
  (Python.scanSecrets scanner document = [] -> scanner.Covered document) ∧
  (Rust.scanSecrets scanner document = [] -> scanner.Covered document) ∧
  (Python.scanSecrets scanner document = [] <-> Rust.scanSecrets scanner document = [])

/-- The scan of a document is complete unless a literal is buried in it and no other
one is exposed. -/
theorem scan_complete_iff (scanner : Scanner) (document : Json) :
    ScanComplete scanner document <-> scanner.Exposed document ∨ ¬ scanner.Buried document := by
  unfold ScanComplete
  rw [Scanner.python_scanSecrets_eq_nil_iff, Scanner.rust_scanSecrets_eq_nil_iff, Scanner.covered_iff]
  constructor
  · rintro ⟨complete, -, -⟩
    by_cases exposed : scanner.Exposed document
    · exact Or.inl exposed
    · exact Or.inr (complete exposed).2
  · intro condition
    have complete : ¬ scanner.Exposed document -> ¬ scanner.Exposed document ∧ ¬ scanner.Buried document :=
      fun unexposed => ⟨unexposed, condition.resolve_left unexposed⟩
    exact ⟨complete, complete, Iff.rfl⟩

/-- The tokens of a list are not seen. -/
theorem listed_token_is_missed :
    ¬ ScanComplete (embeddedScanner Text.asciiLowercasing) (.object [("tokens".toList, .array [.string "hunter2".toList])]) := by
  intro complete
  have covered := complete.1 (by decide)
  have kept : Json.Somewhere ((embeddedScanner Text.asciiLowercasing).Keeps "hunter2".toList)
      (.object [("tokens".toList, .array [.string "hunter2".toList])]) :=
    .here ⟨_, rfl, _, List.mem_singleton.mpr rfl, by decide, .item (List.mem_singleton.mpr rfl) (.here rfl)⟩
  have reference := covered _ kept
  exact absurd reference (by decide)

end Config
end ApexQuant
