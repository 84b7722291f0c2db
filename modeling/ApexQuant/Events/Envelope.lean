import ApexQuant.Config.Canonical
import ApexQuant.Foundation.Patterns
import ApexQuant.Foundation.Runs

namespace ApexQuant
namespace Events

open Foundation
open Config (decimal)

/-!
# The event envelope

`models.py` and `apex-events`.  Python reads the type of an event with a regular
expression, Rust with a loop over its segments; Python counts the characters of the
type, Rust also the bytes of the topic; and each strips its own blanks.  The version is
a whole number in Python and a `u32` in Rust, so an envelope with a larger version
cannot be read there.
-/

/-- What both programs check of an envelope. -/
structure EventEnvelope (Version : Type) where
  eventType : Text
  eventVersion : Version
  producerService : Text
  producerPlane : Text
  idempotencyKey : Text
  deriving DecidableEq

/-! ## `models.py` -/

namespace Models

/-- A refusal of a field by its bound, or of the policy with its text. -/
inductive ValidationError where
  | greaterThanEqual (bound : Int)
  | valueError (message : Text)
  deriving DecidableEq

/-- `[a-z0-9]` -/
def alphanumeric : List Char :=
  "abcdefghijklmnopqrstuvwxyz0123456789".toList

/-- `[a-z0-9]+(?:-[a-z0-9]+)*` -/
def segmentPattern : RegularExpression Char :=
  Pattern.separated '-' 0 (Pattern.oneOrMore (Pattern.oneOf alphanumeric))

/-- `EVENT_TYPE_PATTERN`, without its anchors. -/
def eventTypePattern : RegularExpression Char :=
  Pattern.separated '.' 2 segmentPattern

/-- `match` of a pattern between `^` and `$`, which lets one newline follow. -/
def patternMatches (pattern : RegularExpression Char) (value : Text) : Bool :=
  pattern.rmatch value || (decide (value.getLast? = some '\n') && pattern.rmatch value.dropLast)

def validateEventType (value : Text) : Except ValidationError Unit :=
  if Text.strip value = [] then .error (.valueError "event_type must not be empty".toList)
  else if 249 < value.length then .error (.valueError "event_type must not exceed 249 characters".toList)
  else if patternMatches eventTypePattern value = false then
    .error (.valueError
      "event_type must be lowercase dot-separated segments, for example platform.event-bus.heartbeat".toList)
  else .ok ()

/-- The check of a text that must not be blank. -/
def refuseBlank (field value : Text) : Except ValidationError Unit :=
  if Text.strip value = [] then .error (.valueError (field ++ " must not be empty".toList)) else .ok ()

def enforceEventPolicy (envelope : EventEnvelope Int) : Except ValidationError Unit := do
  validateEventType envelope.eventType
  refuseBlank "idempotency_key".toList envelope.idempotencyKey
  refuseBlank "producer_service".toList envelope.producerService
  refuseBlank "producer_plane".toList envelope.producerPlane

/-- `EventEnvelope(...)`: the bound of the version, then the policy. -/
def validate (envelope : EventEnvelope Int) : Except ValidationError Unit :=
  if envelope.eventVersion < 1 then .error (.greaterThanEqual 1) else enforceEventPolicy envelope

def topic (envelope : EventEnvelope Int) : Text :=
  envelope.eventType ++ ".v".toList ++ decimal envelope.eventVersion

def Accepts (envelope : EventEnvelope Int) : Prop :=
  validate envelope = .ok ()

instance : DecidablePred Accepts := fun envelope => inferInstanceAs (Decidable (validate envelope = .ok ()))

end Models

/-! ## `apex-events` -/

namespace ApexEvents

inductive EventError where
  | invalidEventType (value : Text)
  | invalidTopicName (value : Text)
  | invalidEventVersion (version : UInt32)
  | missingIdempotencyKey
  | missingProducerIdentity
  deriving DecidableEq

def EventError.message : EventError -> Text
  | .invalidEventType value => "invalid event type: ".toList ++ value
  | .invalidTopicName value => "invalid topic name: ".toList ++ value
  | .invalidEventVersion version => "invalid event version: ".toList ++ decimal version.toNat
  | .missingIdempotencyKey => "missing idempotency key".toList
  | .missingProducerIdentity => "missing producer identity".toList

/-- The early return of a check. -/
def ensure (passed : Bool) (error : EventError) : Except EventError Unit :=
  if passed then .ok () else .error error

def isAsciiLowercase (c : Char) : Bool :=
  decide ('a' ≤ c) && decide (c ≤ 'z')

def isAsciiUppercase (c : Char) : Bool :=
  decide ('A' ≤ c) && decide (c ≤ 'Z')

def isAsciiDigit (c : Char) : Bool :=
  decide ('0' ≤ c) && decide (c ≤ '9')

def validateEventType (value : Text) : Except EventError Unit := do
  ensure (!(Text.trim value).isEmpty) (.invalidEventType value)
  ensure (decide ((Text.utf8 value).length ≤ 249)) (.invalidEventType value)
  ensure (decide (3 ≤ (List.splitOn '.' value).length)) (.invalidEventType value)
  (List.splitOn '.' value).forM fun segment => do
    ensure (!segment.isEmpty) (.invalidEventType value)
    segment.forM fun character =>
      ensure (isAsciiLowercase character || isAsciiDigit character || character == '-') (.invalidEventType value)

def validateTopicName (value : Text) : Except EventError Unit := do
  ensure (!(Text.trim value).isEmpty) (.invalidTopicName value)
  ensure (decide ((Text.utf8 value).length ≤ 249)) (.invalidTopicName value)
  ensure (decide (value.head? ≠ some '.' ∧ value.getLast? ≠ some '.')) (.invalidTopicName value)
  value.forM fun character =>
    ensure (isAsciiUppercase character || isAsciiLowercase character || isAsciiDigit character || character == '.' ||
      character == '-' || character == '_') (.invalidTopicName value)

def topic (envelope : EventEnvelope UInt32) : Text :=
  envelope.eventType ++ ".v".toList ++ decimal envelope.eventVersion.toNat

def validate (envelope : EventEnvelope UInt32) : Except EventError Unit := do
  validateEventType envelope.eventType
  ensure (decide (envelope.eventVersion ≠ 0)) (.invalidEventVersion envelope.eventVersion)
  ensure (!(Text.trim envelope.idempotencyKey).isEmpty) .missingIdempotencyKey
  ensure (!(Text.trim envelope.producerService).isEmpty && !(Text.trim envelope.producerPlane).isEmpty)
    .missingProducerIdentity
  validateTopicName (topic envelope)

/-- The envelope as it is read: the version must be a `u32`. -/
def read (envelope : EventEnvelope Int) : Option (EventEnvelope UInt32) :=
  if 0 ≤ envelope.eventVersion ∧ envelope.eventVersion < 2 ^ 32 then
    some { envelope with eventVersion := UInt32.ofNat envelope.eventVersion.toNat }
  else none

def Accepts (envelope : EventEnvelope Int) : Prop :=
  (read envelope).map validate = some (.ok ())

instance : DecidablePred Accepts := fun envelope =>
  inferInstanceAs (Decidable ((read envelope).map validate = some (.ok ())))

end ApexEvents

/-! ## The two grammars -/

/-- Three or more segments over small letters, digits and hyphens, as Rust reads them. -/
def Segmented (value : Text) : Prop :=
  3 ≤ (List.splitOn '.' value).length ∧
    forall segment, segment ∈ List.splitOn '.' value ->
      segment ≠ [] ∧ forall c, c ∈ segment -> c ∈ Models.alphanumeric ∨ c = '-'

/-- The same with hyphens only between words, as the pattern has it. -/
def Hyphenated (value : Text) : Prop :=
  3 ≤ (List.splitOn '.' value).length ∧
    forall segment, segment ∈ List.splitOn '.' value -> forall word, word ∈ List.splitOn '-' segment ->
      word ≠ [] ∧ forall c, c ∈ word -> c ∈ Models.alphanumeric

theorem mem_alphanumeric {c : Char} :
    c ∈ Models.alphanumeric <-> (ApexEvents.isAsciiLowercase c || ApexEvents.isAsciiDigit c) = true := by
  constructor
  · have table : (Models.alphanumeric.all fun c => ApexEvents.isAsciiLowercase c || ApexEvents.isAsciiDigit c) = true := by
      decide
    exact List.all_eq_true.1 table c
  · intro ascii
    have table : forall n, n < 128 -> (ApexEvents.isAsciiLowercase (Char.ofNat n) || ApexEvents.isAsciiDigit (Char.ofNat n)) = true ->
        Char.ofNat n ∈ Models.alphanumeric := by decide +kernel
    have small : c.toNat < 128 := by
      simp only [ApexEvents.isAsciiLowercase, ApexEvents.isAsciiDigit, Bool.or_eq_true, Bool.and_eq_true,
        decide_eq_true_eq, Char.le_def, UInt32.le_iff_toNat_le] at ascii
      have last : 'z'.val.toNat = 122 := rfl
      have last' : '9'.val.toNat = 57 := rfl
      have code : c.toNat = c.val.toNat := rfl
      omega
    have known := table c.toNat small
    rw [Char.ofNat_toNat] at known
    exact known ascii

theorem mem_segmentPattern {segment : Text} :
    segment ∈ Models.segmentPattern.matches' <->
      forall word, word ∈ List.splitOn '-' segment -> word ≠ [] ∧ forall c, c ∈ word -> c ∈ Models.alphanumeric := by
  have apart : forall word, word ∈ (Pattern.oneOrMore (Pattern.oneOf Models.alphanumeric)).matches' -> '-' ∉ word := by
    intro word matched hyphen
    exact absurd ((Pattern.mem_oneOrMore_oneOf.1 matched).2 '-' hyphen) (by decide)
  rw [Models.segmentPattern, Pattern.mem_separated apart]
  simp only [Pattern.mem_oneOrMore_oneOf]
  exact and_iff_right (List.length_pos_of_ne_nil (List.splitOn_ne_nil _ _))

theorem mem_of_words {segment : Text}
    (words : forall word, word ∈ List.splitOn '-' segment -> word ≠ [] ∧ forall c, c ∈ word -> c ∈ Models.alphanumeric)
    {c : Char} (member : c ∈ segment) : c ∈ Models.alphanumeric ∨ c = '-' := by
  rcases Text.mem_of_splitOn '-' member with hyphen | ⟨word, listed, inside⟩
  · exact Or.inr hyphen
  · exact Or.inl ((words word listed).2 c inside)

/-- The pattern is the grammar with hyphens between words. -/
theorem mem_eventTypePattern {value : Text} : value ∈ Models.eventTypePattern.matches' <-> Hyphenated value := by
  have apart : forall segment, segment ∈ Models.segmentPattern.matches' -> '.' ∉ segment := by
    intro segment matched dot
    have known := mem_of_words (mem_segmentPattern.1 matched) dot
    exact absurd known (by decide)
  rw [Models.eventTypePattern, Pattern.mem_separated apart]
  simp only [mem_segmentPattern]
  rfl

theorem Hyphenated.segmented {value : Text} (hyphenated : Hyphenated value) : Segmented value := by
  refine ⟨hyphenated.1, fun segment listed => ⟨?_, fun c member => mem_of_words (hyphenated.2 segment listed) member⟩⟩
  rintro rfl
  exact (hyphenated.2 [] listed [] (by simp)).1 rfl

/-- Every character of a type that Rust takes. -/
theorem Segmented.character {value : Text} (segmented : Segmented value) {c : Char} (member : c ∈ value) :
    c ∈ Models.alphanumeric ∨ c = '-' ∨ c = '.' := by
  rcases Text.mem_of_splitOn '.' member with dot | ⟨segment, listed, inside⟩
  · exact Or.inr (Or.inr dot)
  · exact ((segmented.2 segment listed).2 c inside).imp_right Or.inl

theorem Segmented.ne_nil {value : Text} (segmented : Segmented value) : value ≠ [] := by
  rintro rfl
  exact absurd segmented.1 (by decide)

/-! ## What Python takes -/

/-- The type as Python spells it: one newline may follow. -/
def Spelled (value : Text) : Prop :=
  Hyphenated value ∨ (value.getLast? = some '\n' ∧ Hyphenated value.dropLast)

theorem patternMatches_iff {value : Text} :
    Models.patternMatches Models.eventTypePattern value = true <-> Spelled value := by
  simp only [Models.patternMatches, Bool.or_eq_true, Bool.and_eq_true, decide_eq_true_eq,
    RegularExpression.rmatch_iff_matches', mem_eventTypePattern]
  rfl

theorem isSpace_alphanumeric {c : Char} (known : c ∈ Models.alphanumeric) : Text.isSpace c = false := by
  have table : (Models.alphanumeric.all fun c => !Text.isSpace c) = true := by decide
  simpa using List.all_eq_true.1 table c known

/-- The type has a first segment, and that a character which is not blank. -/
theorem Hyphenated.exists_alphanumeric {value : Text} (hyphenated : Hyphenated value) :
    Exists fun c => c ∈ value ∧ c ∈ Models.alphanumeric := by
  rcases List.exists_mem_of_ne_nil _ (List.splitOn_ne_nil '.' value) with ⟨segment, listed⟩
  rcases List.exists_mem_of_ne_nil _ (List.splitOn_ne_nil '-' segment) with ⟨word, listed'⟩
  have known := hyphenated.2 segment listed word listed'
  rcases List.exists_mem_of_ne_nil _ known.1 with ⟨c, member⟩
  exact ⟨c, Pattern.mem_of_mem_splitOn listed (Pattern.mem_of_mem_splitOn listed' member), known.2 c member⟩

theorem Spelled.strip_ne_nil {value : Text} (spelled : Spelled value) : Text.strip value ≠ [] := by
  intro blank
  have all := Text.strip_eq_nil_iff.1 blank
  have solid : Exists fun c => c ∈ value ∧ c ∈ Models.alphanumeric := by
    rcases spelled with whole | ⟨_, before⟩
    · exact whole.exists_alphanumeric
    · rcases before.exists_alphanumeric with ⟨c, member, known⟩
      exact ⟨c, List.dropLast_subset _ member, known⟩
  rcases solid with ⟨c, member, known⟩
  have spaced := all c member
  rw [isSpace_alphanumeric known] at spaced
  cases spaced

theorem Models.validateEventType_iff {value : Text} :
    Models.validateEventType value = .ok () <-> value.length ≤ 249 ∧ Spelled value := by
  rw [Models.validateEventType]
  by_cases blank : Text.strip value = []
  · rw [if_pos blank]
    exact iff_of_false (fun refused => by cases refused) fun both => both.2.strip_ne_nil blank
  · rw [if_neg blank]
    by_cases long : 249 < value.length
    · rw [if_pos long]
      exact iff_of_false (fun refused => by cases refused) fun both => absurd both.1 (Nat.not_le.2 long)
    · rw [if_neg long, ← patternMatches_iff]
      cases matched : Models.patternMatches Models.eventTypePattern value with
      | false => exact iff_of_false (fun refused => by cases refused) fun both => by cases both.2
      | true => exact iff_of_true rfl ⟨Nat.not_lt.1 long, rfl⟩

/-- The texts beside the type are not blank. -/
def Named {Version : Type} (blank : Char -> Bool) (envelope : EventEnvelope Version) : Prop :=
  forall field, field ∈ [envelope.idempotencyKey, envelope.producerService, envelope.producerPlane] ->
    Exists fun c => c ∈ field ∧ blank c = false

theorem Models.refuseBlank_iff {field value : Text} :
    Models.refuseBlank field value = .ok () <-> Exists fun c => c ∈ value ∧ Text.isSpace c = false := by
  have solid : Text.strip value ≠ [] <-> Exists fun c => c ∈ value ∧ Text.isSpace c = false := by
    rw [Ne, Text.strip_eq_nil_iff]
    simp
  rw [← solid, Models.refuseBlank]
  by_cases blank : Text.strip value = []
  · rw [if_pos blank]
    exact iff_of_false (fun refused => by cases refused) (fun nonblank => nonblank blank)
  · rw [if_neg blank]
    exact iff_of_true rfl blank

theorem Models.accepts_iff {envelope : EventEnvelope Int} :
    Models.Accepts envelope <->
      1 ≤ envelope.eventVersion ∧ (envelope.eventType.length ≤ 249 ∧ Spelled envelope.eventType) ∧
        Named Text.isSpace envelope := by
  have policy : Models.enforceEventPolicy envelope = .ok () <->
      (envelope.eventType.length ≤ 249 ∧ Spelled envelope.eventType) ∧ Named Text.isSpace envelope := by
    rw [Models.enforceEventPolicy, Run.check_bind_eq_ok_iff, Run.check_bind_eq_ok_iff, Run.check_bind_eq_ok_iff,
      Models.validateEventType_iff, Models.refuseBlank_iff, Models.refuseBlank_iff, Models.refuseBlank_iff]
    simp [Named]
  rw [Models.Accepts, Models.validate, ← policy]
  by_cases small : envelope.eventVersion < 1
  · rw [if_pos small]
    exact iff_of_false (fun refused => by cases refused) fun both => absurd both.1 (Int.not_le.2 small)
  · rw [if_neg small]
    exact (and_iff_right (Int.not_lt.1 small)).symm

/-! ## What Rust takes -/

theorem ApexEvents.ensure_iff {passed : Bool} {error : EventError} : ensure passed error = .ok () <-> passed = true := by
  cases passed with
  | false => exact iff_of_false (fun refused => by cases refused) Bool.false_ne_true
  | true => exact iff_of_true rfl rfl

theorem isAscii_of_forall {value : Text} {known : Char -> Prop} (ascii : forall c, known c -> c.toNat < 128)
    (each : forall c, c ∈ value -> known c) : (Text.utf8 value).length = value.length := by
  have plain : Text.isAscii value = true := List.all_eq_true.2 fun c member => by simpa using ascii c (each c member)
  rw [Text.utf8_of_isAscii plain]
  simp [Text.ascii]

theorem toNat_alphanumeric {c : Char} (known : c ∈ Models.alphanumeric) : c.toNat < 128 := by
  have table : (Models.alphanumeric.all fun c => decide (c.toNat < 128)) = true := by decide
  exact of_decide_eq_true (List.all_eq_true.1 table c known)

theorem Segmented.length_utf8 {value : Text} (segmented : Segmented value) :
    (Text.utf8 value).length = value.length := by
  refine isAscii_of_forall (fun c known => ?_) (fun c member => segmented.character member)
  rcases known with known | rfl | rfl
  · exact toNat_alphanumeric known
  · decide
  · decide

theorem Segmented.trim_ne_nil {value : Text} (segmented : Segmented value) : Text.trim value ≠ [] := by
  intro blank
  rcases List.exists_mem_of_ne_nil _ segmented.ne_nil with ⟨c, member⟩
  have spaced := Text.trim_eq_nil_iff.1 blank c member
  rcases segmented.character member with known | rfl | rfl
  · rw [Text.isWhitespace_eq_false (isSpace_alphanumeric known)] at spaced
    cases spaced
  · cases spaced
  · cases spaced

theorem ApexEvents.validateEventType_iff {value : Text} :
    ApexEvents.validateEventType value = .ok () <-> value.length ≤ 249 ∧ Segmented value := by
  have loop : ((List.splitOn '.' value).forM fun segment => do
      ensure (!segment.isEmpty) (.invalidEventType value)
      segment.forM fun character =>
        ensure (isAsciiLowercase character || isAsciiDigit character || character == '-') (.invalidEventType value)) =
        .ok () <->
      forall segment, segment ∈ List.splitOn '.' value ->
        segment ≠ [] ∧ forall c, c ∈ segment -> c ∈ Models.alphanumeric ∨ c = '-' := by
    rw [Run.forM_eq_ok_iff]
    refine forall_congr' fun segment => forall_congr' fun _ => ?_
    rw [Run.check_bind_eq_ok_iff, ApexEvents.ensure_iff, Run.forM_eq_ok_iff]
    simp only [ApexEvents.ensure_iff, mem_alphanumeric]
    simp
  rw [ApexEvents.validateEventType, Run.check_bind_eq_ok_iff, Run.check_bind_eq_ok_iff, Run.check_bind_eq_ok_iff, loop,
    ApexEvents.ensure_iff, ApexEvents.ensure_iff, ApexEvents.ensure_iff]
  constructor
  · rintro ⟨_, short, many, each⟩
    have segmented : Segmented value := ⟨of_decide_eq_true many, each⟩
    exact ⟨segmented.length_utf8 ▸ of_decide_eq_true short, segmented⟩
  · rintro ⟨short, segmented⟩
    refine ⟨?_, decide_eq_true (segmented.length_utf8.symm ▸ short), decide_eq_true segmented.1, segmented.2⟩
    simpa using segmented.trim_ne_nil

/-! ## Topics -/

theorem read_topic (envelope : EventEnvelope Int) :
    (ApexEvents.read envelope).map ApexEvents.topic = (ApexEvents.read envelope).map fun _ => Models.topic envelope := by
  rw [ApexEvents.read]
  by_cases fits : 0 ≤ envelope.eventVersion ∧ envelope.eventVersion < 2 ^ 32
  · rw [if_pos fits]
    have version : ((UInt32.ofNat envelope.eventVersion.toNat).toNat : Int) = envelope.eventVersion := by
      rw [UInt32.toNat_ofNat']
      omega
    refine congrArg some ?_
    rw [ApexEvents.topic, Models.topic, version]
  · rw [if_neg fits]
    rfl

theorem not_mem_decimal (value : Int) : '.' ∉ decimal value := by
  intro dot
  exact absurd (Config.mem_decimal dot) (by decide)

/-- The last dot of a topic stands before the version. -/
theorem topic_injective {envelope other : EventEnvelope Int} (same : Models.topic envelope = Models.topic other) :
    envelope.eventType = other.eventType ∧ envelope.eventVersion = other.eventVersion := by
  have apart : forall value, '.' ∉ 'v' :: decimal value := by
    intro value dot
    rcases List.mem_cons.1 dot with letter | digit
    · exact absurd letter (by decide)
    · exact not_mem_decimal value digit
  have split := congrArg (List.splitOn '.') (show envelope.eventType ++ '.' :: 'v' :: decimal envelope.eventVersion =
    other.eventType ++ '.' :: 'v' :: decimal other.eventVersion by simpa [Models.topic] using same)
  rw [List.splitOn_append_cons_self, List.splitOn_append_cons_self, List.splitOn_eq_singleton (apart _),
    List.splitOn_eq_singleton (apart _)] at split
  rcases List.append_inj' split rfl with ⟨types, versions⟩
  refine ⟨Text.eq_of_splitOn_eq '.' types, Config.decimal_injective ?_⟩
  exact (List.cons.inj (List.singleton_inj.1 versions)).2

theorem character_topic {envelope : EventEnvelope Int} (segmented : Segmented envelope.eventType) {c : Char}
    (member : c ∈ Models.topic envelope) : c ∈ Models.alphanumeric ∨ c = '-' ∨ c = '.' := by
  rcases List.mem_append.1 member with before | digit
  · rcases List.mem_append.1 before with inside | mark
    · exact segmented.character inside
    · have marks : forall c, c ∈ ['.', 'v'] -> c ∈ Models.alphanumeric ∨ c = '-' ∨ c = '.' := by simp; decide
      exact marks c mark
  · rcases Config.mem_decimal digit with hyphen | digit
    · exact Or.inr (Or.inl hyphen)
    · refine Or.inl (mem_alphanumeric.2 ?_)
      have ascii : ApexEvents.isAsciiDigit c = true := digit
      rw [ascii, Bool.or_true]

theorem ApexEvents.validateTopicName_iff {envelope : EventEnvelope Int} (segmented : Segmented envelope.eventType) :
    ApexEvents.validateTopicName (Models.topic envelope) = .ok () <-> (Models.topic envelope).length ≤ 249 := by
  have length : (Text.utf8 (Models.topic envelope)).length = (Models.topic envelope).length := by
    refine isAscii_of_forall (fun c known => ?_) (fun c member => character_topic segmented member)
    rcases known with known | rfl | rfl
    · exact toNat_alphanumeric known
    · decide
    · decide
  have visible : Text.trim (Models.topic envelope) ≠ [] := by
    intro blank
    have spaced := Text.trim_eq_nil_iff.1 blank 'v' (by simp [Models.topic])
    cases spaced
  have opening : (Models.topic envelope).head? ≠ some '.' := by
    intro dot
    have first : envelope.eventType.head? = some '.' := by
      rwa [Models.topic, List.append_assoc, List.head?_append_of_ne_nil _ segmented.ne_nil] at dot
    rcases List.head?_eq_some_iff.1 first with ⟨rest, shape⟩
    have empty : [] ∈ List.splitOn '.' envelope.eventType := by
      rw [shape, List.splitOn_cons_eq_if_modifyHead]
      simp
    exact (segmented.2 [] empty).1 rfl
  have closing : (Models.topic envelope).getLast? ≠ some '.' := by
    intro dot
    have nonempty : decimal envelope.eventVersion ≠ [] := by
      rcases Config.decimal_opens envelope.eventVersion with ⟨c, first, _⟩
      rintro empty
      rw [empty] at first
      cases first
    rw [Models.topic, List.getLast?_append_of_ne_nil _ nonempty] at dot
    exact not_mem_decimal _ (List.mem_of_getLast? dot)
  have loop : ((Models.topic envelope).forM fun character =>
      ensure (isAsciiUppercase character || isAsciiLowercase character || isAsciiDigit character || character == '.' ||
        character == '-' || character == '_') (.invalidTopicName (Models.topic envelope))) = .ok () := by
    refine Run.forM_eq_ok_iff.2 fun c member => ApexEvents.ensure_iff.2 ?_
    rcases character_topic segmented member with known | rfl | rfl
    · have ascii := mem_alphanumeric.1 known
      rw [Bool.or_assoc (isAsciiUppercase c), ascii]
      simp
    · rfl
    · rfl
  rw [ApexEvents.validateTopicName, Run.check_bind_eq_ok_iff, Run.check_bind_eq_ok_iff, Run.check_bind_eq_ok_iff,
    ApexEvents.ensure_iff, ApexEvents.ensure_iff, ApexEvents.ensure_iff, length]
  simp [visible, opening, closing, loop]

theorem Named.trim_iff {value : Text} :
    (!(Text.trim value).isEmpty) = true <-> Exists fun c => c ∈ value ∧ Text.isWhitespace c = false := by
  have solid : Text.trim value ≠ [] <-> Exists fun c => c ∈ value ∧ Text.isWhitespace c = false := by
    rw [Ne, Text.trim_eq_nil_iff]
    simp
  rw [← solid]
  simp

theorem ApexEvents.accepts_iff {envelope : EventEnvelope Int} :
    ApexEvents.Accepts envelope <->
      (1 ≤ envelope.eventVersion ∧ envelope.eventVersion < 2 ^ 32) ∧ Segmented envelope.eventType ∧
        (Models.topic envelope).length ≤ 249 ∧ Named Text.isWhitespace envelope := by
  by_cases fits : 0 ≤ envelope.eventVersion ∧ envelope.eventVersion < 2 ^ 32
  · have received : ApexEvents.read envelope =
        some { envelope with eventVersion := UInt32.ofNat envelope.eventVersion.toNat } := if_pos fits
    have topics := read_topic envelope
    rw [received] at topics
    have positive : UInt32.ofNat envelope.eventVersion.toNat ≠ 0 <-> 1 ≤ envelope.eventVersion := by
      rw [Ne, ← UInt32.toNat_inj, UInt32.toNat_ofNat']
      simp only [UInt32.toNat_zero]
      omega
    rw [ApexEvents.Accepts, received, Option.map_some, Option.some_inj, ApexEvents.validate, Run.check_bind_eq_ok_iff,
      Run.check_bind_eq_ok_iff, Run.check_bind_eq_ok_iff, Run.check_bind_eq_ok_iff, ApexEvents.validateEventType_iff,
      Option.some.inj topics, ApexEvents.ensure_iff, ApexEvents.ensure_iff, ApexEvents.ensure_iff,
      decide_eq_true_eq, positive, Bool.and_eq_true, Named.trim_iff, Named.trim_iff, Named.trim_iff]
    have shorter : envelope.eventType.length ≤ (Models.topic envelope).length := by
      simp only [Models.topic, List.length_append]
      omega
    have named : Named Text.isWhitespace envelope <->
        (Exists fun c => c ∈ envelope.idempotencyKey ∧ Text.isWhitespace c = false) ∧
          (Exists fun c => c ∈ envelope.producerService ∧ Text.isWhitespace c = false) ∧
            Exists fun c => c ∈ envelope.producerPlane ∧ Text.isWhitespace c = false := by
      simp [Named]
    rw [named]
    constructor
    · rintro ⟨⟨_, segmented⟩, large, key, producer, written⟩
      exact ⟨⟨large, fits.2⟩, segmented, (ApexEvents.validateTopicName_iff segmented).1 written, key, producer⟩
    · rintro ⟨⟨large, _⟩, segmented, short, key, producer⟩
      exact ⟨⟨shorter.trans short, segmented⟩, large, key, producer, (ApexEvents.validateTopicName_iff segmented).2 short⟩
  · rw [ApexEvents.Accepts, ApexEvents.read, if_neg fits]
    refine iff_of_false (fun refused => by cases refused) fun both => fits ?_
    omega

/-! ## Where the programs part -/

/-- An envelope that Python takes and Rust refuses. -/
inductive OnlyPython (envelope : EventEnvelope Int) : Prop where
  /-- A newline follows the type. -/
  | newline (closing : envelope.eventType.getLast? = some '\n') (spelled : Hyphenated envelope.eventType.dropLast)
      (short : envelope.eventType.length ≤ 249) (positive : 1 ≤ envelope.eventVersion)
      (named : Named Text.isSpace envelope)
  /-- The type is short enough, and the topic is not. -/
  | longTopic (spelled : Hyphenated envelope.eventType) (short : envelope.eventType.length ≤ 249)
      (long : 249 < (Models.topic envelope).length) (positive : 1 ≤ envelope.eventVersion)
      (named : Named Text.isSpace envelope)
  /-- The version is not a `u32`. -/
  | largeVersion (spelled : Hyphenated envelope.eventType) (short : envelope.eventType.length ≤ 249)
      (large : 2 ^ 32 ≤ envelope.eventVersion) (named : Named Text.isSpace envelope)

/-- An envelope that Rust takes and Python refuses. -/
inductive OnlyRust (envelope : EventEnvelope Int) : Prop where
  /-- A segment begins or ends with a hyphen, or has two in a row. -/
  | hyphens (spelled : Segmented envelope.eventType) (stray : ¬Hyphenated envelope.eventType)
      (short : (Models.topic envelope).length ≤ 249) (positive : 1 ≤ envelope.eventVersion)
      (fits : envelope.eventVersion < 2 ^ 32) (named : Named Text.isWhitespace envelope)
  /-- A text is blank for Python only: it holds nothing but blanks and separators among
  the control characters. -/
  | controls (spelled : Segmented envelope.eventType) (short : (Models.topic envelope).length ≤ 249)
      (positive : 1 ≤ envelope.eventVersion) (fits : envelope.eventVersion < 2 ^ 32)
      (named : Named Text.isWhitespace envelope) (blank : ¬Named Text.isSpace envelope)

theorem Named.whitespace {Version : Type} {envelope : EventEnvelope Version} (named : Named Text.isSpace envelope) :
    Named Text.isWhitespace envelope := by
  intro field listed
  rcases named field listed with ⟨c, member, solid⟩
  exact ⟨c, member, Text.isWhitespace_eq_false solid⟩

/-- A type that Rust takes does not end in a newline. -/
theorem Segmented.getLast?_ne {value : Text} (segmented : Segmented value) : value.getLast? ≠ some '\n' := by
  intro newline
  rcases segmented.character (List.mem_of_getLast? newline) with known | hyphen | dot
  · exact absurd known (by decide)
  · exact absurd hyphen (by decide)
  · exact absurd dot (by decide)

theorem onlyPython_iff {envelope : EventEnvelope Int} :
    OnlyPython envelope <-> Models.Accepts envelope ∧ ¬ApexEvents.Accepts envelope := by
  rw [Models.accepts_iff, ApexEvents.accepts_iff]
  constructor
  · rintro (⟨closing, spelled, short, positive, named⟩ | ⟨spelled, short, long, positive, named⟩ |
      ⟨spelled, short, large, named⟩)
    · refine ⟨⟨positive, ⟨short, Or.inr ⟨closing, spelled⟩⟩, named⟩, fun taken => ?_⟩
      exact taken.2.1.getLast?_ne closing
    · refine ⟨⟨positive, ⟨short, Or.inl spelled⟩, named⟩, fun taken => ?_⟩
      exact absurd taken.2.2.1 (Nat.not_le.2 long)
    · refine ⟨⟨by omega, ⟨short, Or.inl spelled⟩, named⟩, fun taken => ?_⟩
      exact absurd taken.1.2 (Int.not_lt.2 large)
  · rintro ⟨⟨positive, ⟨short, spelled | ⟨closing, spelled⟩⟩, named⟩, refused⟩
    · by_cases large : 2 ^ 32 ≤ envelope.eventVersion
      · exact .largeVersion spelled short large named
      · by_cases long : 249 < (Models.topic envelope).length
        · exact .longTopic spelled short long positive named
        · refine absurd ⟨⟨positive, Int.not_le.1 large⟩, spelled.segmented, Nat.not_lt.1 long, ?_⟩ refused
          exact named.whitespace
    · exact .newline closing spelled short positive named

theorem onlyRust_iff {envelope : EventEnvelope Int} :
    OnlyRust envelope <-> ApexEvents.Accepts envelope ∧ ¬Models.Accepts envelope := by
  rw [Models.accepts_iff, ApexEvents.accepts_iff]
  constructor
  · rintro (⟨spelled, stray, short, positive, fits, named⟩ | ⟨spelled, short, positive, fits, named, blank⟩)
    · refine ⟨⟨⟨positive, fits⟩, spelled, short, named⟩, fun taken => ?_⟩
      rcases taken.2.1.2 with whole | ⟨closing, _⟩
      · exact stray whole
      · exact spelled.getLast?_ne closing
    · exact ⟨⟨⟨positive, fits⟩, spelled, short, named⟩, fun taken => blank taken.2.2⟩
  · rintro ⟨⟨⟨positive, fits⟩, spelled, short, named⟩, refused⟩
    by_cases whole : Hyphenated envelope.eventType
    · refine .controls spelled short positive fits named fun solid => refused ?_
      have shorter : envelope.eventType.length ≤ 249 := by
        simp only [Models.topic, List.length_append] at short
        omega
      exact ⟨positive, ⟨shorter, Or.inl whole⟩, solid⟩
    · exact .hyphens spelled whole short positive fits named

/-- The programs take the same envelopes but for those five kinds; they write the same
topics, and a topic has one type and one version. -/
theorem envelopes_agree (envelope : EventEnvelope Int) :
    ((Models.Accepts envelope <-> ApexEvents.Accepts envelope) <-> ¬OnlyPython envelope ∧ ¬OnlyRust envelope) ∧
      (ApexEvents.read envelope).map ApexEvents.topic =
        (ApexEvents.read envelope).map (fun _ => Models.topic envelope) ∧
      forall other, Models.topic envelope = Models.topic other <->
        envelope.eventType = other.eventType ∧ envelope.eventVersion = other.eventVersion := by
  refine ⟨?_, read_topic envelope, fun other => ⟨topic_injective, fun same => ?_⟩⟩
  · rw [onlyPython_iff, onlyRust_iff]
    tauto
  · rw [Models.topic, Models.topic, same.1, same.2]

/-- An envelope whose type ends in a newline. -/
def newlineEnvelope : EventEnvelope Int where
  eventType := "a.b.c\n".toList
  eventVersion := 1
  producerService := "service".toList
  producerPlane := "CONTROL".toList
  idempotencyKey := "key".toList

theorem newline_parts_them :
    ¬(forall envelope, Models.Accepts envelope <-> ApexEvents.Accepts envelope) := by
  intro agree
  have taken : Models.Accepts newlineEnvelope := by decide +kernel
  have refused : ¬ApexEvents.Accepts newlineEnvelope := by decide +kernel
  exact refused ((agree newlineEnvelope).1 taken)

end Events
end ApexQuant
