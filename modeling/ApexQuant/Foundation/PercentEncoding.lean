import ApexQuant.Foundation.Text

namespace ApexQuant
namespace Foundation

/-!
# Percent-encoding

A text stands for octets: an escape `%XX` for the octet with these digits, and any other
character for its octets in UTF-8.  Escaping every character of a set, which holds `%`,
keeps what a text stands for when nothing in it is an escape; a text stands for itself
exactly then.
-/

namespace PercentEncoding

/-- The value of a hexadecimal digit. -/
def hexValue (c : Char) : Option Nat :=
  if '0' ≤ c ∧ c ≤ '9' then some (c.toNat - 48)
  else if 'a' ≤ c ∧ c ≤ 'f' then some (c.toNat - 87)
  else if 'A' ≤ c ∧ c ≤ 'F' then some (c.toNat - 55)
  else none

/-- The octet of two digits. -/
def octet (high low : Char) : Option UInt8 :=
  (hexValue high).bind fun h => (hexValue low).map fun l => UInt8.ofNat (16 * h + l)

/-- The escape that a text begins with, behind its percent sign. -/
def escape : Text -> Option UInt8
  | high :: low :: _ => octet high low
  | _ => none

/-- The octets that a text stands for. -/
def decode : Text -> List UInt8
  | [] => []
  | [c] => Text.utf8 [c]
  | [c, d] => Text.utf8 [c] ++ decode [d]
  | c :: high :: low :: rest =>
      match if c = '%' then octet high low else none with
      | some value => value :: decode rest
      | none => Text.utf8 [c] ++ decode (high :: low :: rest)

/-- Something in the text is an escape. -/
def escaped : Text -> Bool
  | c :: rest => (decide (c = '%') && (escape rest).isSome) || escaped rest
  | [] => false

def digit (value : Nat) : Char :=
  Char.ofNat (if value < 10 then 48 + value else 55 + value)

def escapeOctet (value : UInt8) : Text :=
  ['%', digit (value.toNat / 16), digit (value.toNat % 16)]

/-- The text with the characters of a set escaped. -/
def encode (reserved : Char -> Bool) (text : Text) : Text :=
  text.flatMap fun c => if reserved c then (Text.utf8 [c]).flatMap escapeOctet else [c]

/-- The text of octets in UTF-8. -/
def ofUtf8 (octets : List UInt8) : Option Text :=
  octets.toByteArray.utf8Decode?.map Array.toList

/-! ## Reading -/

theorem utf8_cons (c : Char) (rest : Text) : Text.utf8 (c :: rest) = Text.utf8 [c] ++ Text.utf8 rest := by
  simp [Text.utf8]

theorem utf8_ne_nil (c : Char) : Text.utf8 [c] ≠ [] := by
  intro empty
  have size := congrArg List.length empty
  rw [Text.utf8, List.flatMap_singleton, String.length_utf8EncodeChar, List.length_nil] at size
  exact absurd size (Nat.ne_of_gt (Char.utf8Size_pos c))

theorem decode_of_escape {rest : Text} {value : UInt8} (found : escape rest = some value) :
    decode ('%' :: rest) = value :: decode (rest.drop 2) := by
  match rest, found with
  | high :: low :: more, found =>
      rw [escape] at found
      simp only [decode, if_pos, found, List.drop_succ_cons, List.drop_zero]

theorem decode_of_no_escape {c : Char} {rest : Text} (plain : c = '%' -> escape rest = none) :
    decode (c :: rest) = Text.utf8 [c] ++ decode rest := by
  match rest, plain with
  | [], _ => simp [decode]
  | [d], _ => rfl
  | high :: low :: more, plain =>
      have none_here : (if c = '%' then octet high low else none) = none := by
        by_cases percent : c = '%'
        · rw [if_pos percent]
          exact plain percent
        · exact if_neg percent
      simp only [decode, none_here]

theorem decode_ne_nil {text : Text} (nonempty : text ≠ []) : decode text ≠ [] := by
  cases text with
  | nil => exact absurd rfl nonempty
  | cons c rest =>
      by_cases percent : c = '%'
      · cases found : escape rest with
        | none =>
            rw [decode_of_no_escape fun _ => found]
            exact List.append_ne_nil_of_left_ne_nil (utf8_ne_nil c) _
        | some value =>
            rw [percent, decode_of_escape found]
            exact List.cons_ne_nil _ _
      · rw [decode_of_no_escape fun same => absurd same percent]
        exact List.append_ne_nil_of_left_ne_nil (utf8_ne_nil c) _

/-- A text without percent signs stands for itself, whatever follows it. -/
theorem decode_append {plain : Text} (unsigned : '%' ∉ plain) (rest : Text) :
    decode (plain ++ rest) = Text.utf8 plain ++ decode rest := by
  induction plain with
  | nil => rfl
  | cons c more inductionHypothesis =>
      rw [List.mem_cons, not_or] at unsigned
      rw [List.cons_append, decode_of_no_escape fun same => absurd same.symm unsigned.1,
        inductionHypothesis unsigned.2, utf8_cons c more, List.append_assoc]

theorem length_utf8_pos (c : Char) : 1 ≤ (Text.utf8 [c]).length :=
  List.length_pos_iff.mpr (utf8_ne_nil c)

theorem length_le_of_escape {rest : Text} {value : UInt8} (found : escape rest = some value) :
    (Text.utf8 (rest.drop 2)).length + 2 ≤ (Text.utf8 rest).length := by
  match rest, found with
  | high :: low :: more, _ =>
      rw [utf8_cons high, utf8_cons low, List.length_append, List.length_append, List.drop_succ_cons,
        List.drop_succ_cons, List.drop_zero]
      have first := length_utf8_pos high
      have second := length_utf8_pos low
      omega

/-- An escape stands for fewer octets than its characters. -/
theorem length_decode (text : Text) :
    (decode text).length ≤ (Text.utf8 text).length ∧
      (escaped text = true -> (decode text).length < (Text.utf8 text).length) := by
  induction size : text.length using Nat.strongRecOn generalizing text with
  | ind size inductionHypothesis =>
      subst size
      cases text with
      | nil => exact ⟨Nat.le_refl 0, fun found => by cases found⟩
      | cons c rest =>
          by_cases here : c = '%' ∧ (escape rest).isSome = true
          · rcases Option.isSome_iff_exists.mp here.2 with ⟨value, found⟩
            have shorter := (inductionHypothesis (rest.drop 2).length (by simp) (rest.drop 2) rfl).1
            have longer := length_le_of_escape found
            rw [here.1, decode_of_escape found, List.length_cons, utf8_cons, List.length_append]
            constructor
            · omega
            · intro
              omega
          · have plain : c = '%' -> escape rest = none := by
              intro percent
              by_contra found
              exact here ⟨percent, Option.isSome_iff_ne_none.mpr found⟩
            have later := inductionHypothesis rest.length (by simp) rest rfl
            rw [decode_of_no_escape plain, utf8_cons c rest, List.length_append, List.length_append]
            refine ⟨Nat.add_le_add_left later.1 _, fun found => Nat.add_lt_add_left (later.2 ?_) _⟩
            rw [escaped, Bool.or_eq_true, Bool.and_eq_true, decide_eq_true_iff] at found
            exact found.resolve_left here

theorem decode_of_not_escaped {text : Text} (plain : escaped text = false) : decode text = Text.utf8 text := by
  induction text with
  | nil => rfl
  | cons c rest inductionHypothesis =>
      rw [escaped, Bool.or_eq_false_iff, Bool.and_eq_false_iff] at plain
      have here : c = '%' -> escape rest = none := by
        intro percent
        rcases plain.1 with other | absent
        · exact absurd percent (of_decide_eq_false other)
        · exact Option.not_isSome_iff_eq_none.mp (by rw [absent]; exact Bool.false_ne_true)
      rw [decode_of_no_escape here, inductionHypothesis plain.2, ← utf8_cons]

/-- A text stands for itself exactly when nothing in it is an escape. -/
theorem decode_eq_utf8_iff {text : Text} : decode text = Text.utf8 text <-> escaped text = false := by
  refine ⟨fun same => ?_, decode_of_not_escaped⟩
  by_contra found
  exact absurd (congrArg List.length same) (Nat.ne_of_lt ((length_decode text).2 (Bool.eq_true_of_not_eq_false found)))

/-! ## Writing -/

theorem encode_cons (reserved : Char -> Bool) (c : Char) (rest : Text) :
    encode reserved (c :: rest) =
      (if reserved c then (Text.utf8 [c]).flatMap escapeOctet else [c]) ++ encode reserved rest :=
  List.flatMap_cons

theorem hexValue_digit {value : Nat} (small : value < 16) : hexValue (digit value) = some value := by
  have all : forall n, n < 16 -> hexValue (digit n) = some n := by decide
  exact all value small

theorem decode_escapeOctet (value : UInt8) (rest : Text) : decode (escapeOctet value ++ rest) = value :: decode rest := by
  have small : value.toNat < 256 := UInt8.toNat_lt value
  have whole : 16 * (value.toNat / 16) + value.toNat % 16 = value.toNat := Nat.div_add_mod _ _
  have found : escape (digit (value.toNat / 16) :: digit (value.toNat % 16) :: rest) = some value := by
    rw [escape, octet, hexValue_digit (by omega), hexValue_digit (Nat.mod_lt _ (by decide)), Option.bind_some,
      Option.map_some, whole, UInt8.ofNat_toNat]
  exact decode_of_escape found

theorem decode_escapes (octets : List UInt8) (rest : Text) :
    decode (octets.flatMap escapeOctet ++ rest) = octets ++ decode rest := by
  induction octets with
  | nil => rfl
  | cons value more inductionHypothesis =>
      rw [List.flatMap_cons, List.append_assoc, decode_escapeOctet, inductionHypothesis, List.cons_append]

/-- What is written is read again. -/
theorem decode_encode {reserved : Char -> Bool} (percent : reserved '%' = true) (text : Text) :
    decode (encode reserved text) = Text.utf8 text := by
  induction text with
  | nil => rfl
  | cons c rest inductionHypothesis =>
      rw [encode_cons, utf8_cons c rest]
      by_cases covered : reserved c = true
      · rw [if_pos covered, decode_escapes, inductionHypothesis]
      · rw [if_neg covered, List.singleton_append, decode_of_no_escape, inductionHypothesis]
        rintro rfl
        exact absurd percent covered

theorem mem_escapeOctet {value : UInt8} {c : Char} (member : c ∈ escapeOctet value) :
    c = '%' ∨ (hexValue c).isSome = true := by
  have small : value.toNat < 256 := UInt8.toNat_lt value
  rw [escapeOctet, List.mem_cons, List.mem_cons, List.mem_singleton] at member
  rcases member with rfl | rfl | rfl
  · exact Or.inl rfl
  · exact Or.inr (by rw [hexValue_digit (by omega)]; rfl)
  · exact Or.inr (by rw [hexValue_digit (Nat.mod_lt _ (by decide))]; rfl)

/-- A character of the set that no escape is made of is gone. -/
theorem not_mem_encode {reserved : Char -> Bool} {separator : Char} (covered : reserved separator = true)
    (sign : separator ≠ '%') (undigit : hexValue separator = none) (text : Text) : separator ∉ encode reserved text := by
  intro member
  rcases List.mem_flatMap.mp member with ⟨c, _, inside⟩
  by_cases escapes : reserved c = true
  · rw [if_pos escapes] at inside
    rcases List.mem_flatMap.mp inside with ⟨value, _, written⟩
    rcases mem_escapeOctet written with same | valued
    · exact sign same
    · rw [undigit] at valued
      cases valued
  · rw [if_neg escapes, List.mem_singleton] at inside
    exact escapes (inside ▸ covered)

theorem length_escapes (octets : List UInt8) : (octets.flatMap escapeOctet).length = 3 * octets.length := by
  induction octets with
  | nil => rfl
  | cons value more inductionHypothesis =>
      rw [List.flatMap_cons, List.length_append, inductionHypothesis, List.length_cons, escapeOctet]
      simp only [List.length_cons, List.length_nil]
      omega

theorem length_le_encode (reserved : Char -> Bool) (text : Text) : text.length ≤ (encode reserved text).length := by
  induction text with
  | nil => exact Nat.le_refl 0
  | cons c rest inductionHypothesis =>
      rw [encode_cons, List.length_append, List.length_cons]
      by_cases covered : reserved c = true
      · rw [if_pos covered, length_escapes]
        have positive := length_utf8_pos c
        omega
      · rw [if_neg covered, List.length_singleton]
        omega

theorem encode_ne_nil {reserved : Char -> Bool} {text : Text} (nonempty : text ≠ []) : encode reserved text ≠ [] := by
  have longer := length_le_encode reserved text
  have positive := List.length_pos_iff.mpr nonempty
  exact List.length_pos_iff.mp (by omega)

/-- A text is left as it is exactly when no character of the set is in it. -/
theorem encode_eq_self_iff {reserved : Char -> Bool} {text : Text} :
    encode reserved text = text <-> forall c, c ∈ text -> reserved c = false := by
  induction text with
  | nil => exact iff_of_true rfl fun _ member => by cases member
  | cons c rest inductionHypothesis =>
      rw [List.forall_mem_cons, ← inductionHypothesis, encode_cons]
      by_cases covered : reserved c = true
      · rw [if_pos covered]
        refine iff_of_false (fun same => ?_) fun kept => Bool.false_ne_true (kept.1.symm.trans covered)
        have lengths := congrArg List.length same
        rw [List.length_append, length_escapes, List.length_cons] at lengths
        have positive := length_utf8_pos c
        have longer := length_le_encode reserved rest
        omega
      · rw [if_neg covered, List.singleton_append, List.cons_inj_right]
        exact (and_iff_right (Bool.eq_false_of_not_eq_true covered)).symm

/-! ## UTF-8 -/

theorem ofUtf8_utf8 (text : Text) : ofUtf8 (Text.utf8 text) = some text := by
  have decoded : (Text.utf8 text).toByteArray.utf8Decode? = some text.toArray := List.utf8Decode?_utf8Encode
  simp [ofUtf8, decoded]

theorem utf8_of_ofUtf8 {octets : List UInt8} {text : Text} (read : ofUtf8 octets = some text) :
    Text.utf8 text = octets := by
  rcases Option.map_eq_some_iff.mp read with ⟨characters, decoded, rfl⟩
  have known : octets.toByteArray.utf8Decode?.isSome = true := by rw [decoded]; rfl
  have encoded := ByteArray.utf8Encode_get_utf8Decode? (b := octets.toByteArray) (h := known)
  have same : octets.toByteArray.utf8Decode?.get known = characters := by
    exact Option.get_of_eq_some known decoded
  rw [same] at encoded
  have whole : (Text.utf8 characters.toList).toByteArray = octets.toByteArray := encoded
  simpa using congrArg (fun bytes => bytes.data.toList) whole

end PercentEncoding
end Foundation
end ApexQuant
