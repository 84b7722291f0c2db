import Mathlib.Data.List.Nodup
import Mathlib.Data.List.GetD

namespace ApexQuant
namespace Foundation

/-!
# Base64

Three octets make four sextets, and an alphabet of sixty-four letters spells them.
There is one encoder and there are two decoders.

`decodeCanonical` accepts exactly what the encoder produces without padding.
`a2bBase64` is the scanner of Python's `binascii`: it walks over the text with the
bits that are left over from the last sextet, and unless it is strict it steps over
characters outside the alphabet, stops at a complete padding and never looks at the
bits that the last sextet leaves unused.
-/

namespace Base64

/-! ## Sextets -/

/-- The sextets of a byte string. -/
def sextets : List UInt8 -> List Nat
  | [] => []
  | [a] => [a.toNat / 4, a.toNat % 4 * 16]
  | [a, b] => [a.toNat / 4, a.toNat % 4 * 16 + b.toNat / 16, b.toNat % 16 * 4]
  | a :: b :: c :: rest =>
      a.toNat / 4 :: (a.toNat % 4 * 16 + b.toNat / 16) :: (b.toNat % 16 * 4 + c.toNat / 64) :: c.toNat % 64 ::
        sextets rest

theorem sextets_lt (octets : List UInt8) : forall sextet, sextet ∈ sextets octets -> sextet < 64 := by
  induction octets using sextets.induct with
  | case1 => exact fun _ member => absurd member List.not_mem_nil
  | case2 a =>
      have small := a.toNat_lt
      intro sextet member
      simp only [sextets, List.mem_cons, List.not_mem_nil, or_false] at member
      omega
  | case3 a b =>
      have smallA := a.toNat_lt
      have smallB := b.toNat_lt
      intro sextet member
      simp only [sextets, List.mem_cons, List.not_mem_nil, or_false] at member
      omega
  | case4 a b c rest inductionHypothesis =>
      have smallA := a.toNat_lt
      have smallB := b.toNat_lt
      have smallC := c.toNat_lt
      intro sextet member
      simp only [sextets, List.mem_cons] at member
      rcases member with first | second | third | fourth | later
      · omega
      · omega
      · omega
      · omega
      · exact inductionHypothesis sextet later

/-! ## Alphabets -/

/-- Sixty-four letters that are not the padding. -/
structure Alphabet where
  letters : List Char
  complete : letters.length = 64
  distinct : letters.Nodup
  unpadded : '=' ∉ letters

namespace Alphabet

variable (alphabet : Alphabet)

def letter (sextet : Nat) : Char :=
  alphabet.letters.getD sextet 'A'

def value (c : Char) : Option Nat :=
  if c ∈ alphabet.letters then some (alphabet.letters.idxOf c) else none

variable {alphabet}

theorem letter_mem {sextet : Nat} (small : sextet < 64) : alphabet.letter sextet ∈ alphabet.letters := by
  rw [letter, List.getD_eq_getElem _ _ (by rw [alphabet.complete]; exact small)]
  exact List.getElem_mem _

theorem letter_ne_padding {sextet : Nat} (small : sextet < 64) : alphabet.letter sextet ≠ '=' :=
  fun same => alphabet.unpadded (same ▸ letter_mem small)

theorem value_letter {sextet : Nat} (small : sextet < 64) : alphabet.value (alphabet.letter sextet) = some sextet := by
  have inside : sextet < alphabet.letters.length := by rw [alphabet.complete]; exact small
  rw [value, if_pos (letter_mem small), letter, List.getD_eq_getElem _ _ inside,
    alphabet.distinct.idxOf_getElem sextet inside]

theorem of_value {c : Char} {sextet : Nat} (valued : alphabet.value c = some sextet) :
    sextet < 64 ∧ alphabet.letter sextet = c := by
  unfold value at valued
  split at valued
  · rename_i member
    have inside := List.idxOf_lt_length_of_mem member
    cases valued
    refine ⟨alphabet.complete ▸ inside, ?_⟩
    rw [letter, List.getD_eq_getElem _ _ inside, List.getElem_idxOf inside]
  · exact absurd valued nofun

end Alphabet

/-- The spelling of a byte string, without padding. -/
def encode (alphabet : Alphabet) (octets : List UInt8) : List Char :=
  (sextets octets).map alphabet.letter

/-- The padding of a text of a length. -/
def padding (length : Nat) : List Char :=
  List.replicate ((4 - length % 4) % 4) '='

theorem mem_letters_of_encode {alphabet : Alphabet} {octets : List UInt8} {c : Char}
    (member : c ∈ encode alphabet octets) : c ∈ alphabet.letters := by
  rcases List.mem_map.mp member with ⟨sextet, listed, rfl⟩
  exact Alphabet.letter_mem (sextets_lt octets sextet listed)

/-! ## The canonical decoder -/

/-- Reads an unpadded text whose unused bits are zero. -/
def decodeCanonical (alphabet : Alphabet) : List Char -> Option (List UInt8)
  | [] => some []
  | [_] => none
  | [w, x] =>
      match alphabet.value w, alphabet.value x with
      | some w, some x => if x % 16 = 0 then some [UInt8.ofNat (w * 4 + x / 16)] else none
      | _, _ => none
  | [w, x, y] =>
      match alphabet.value w, alphabet.value x, alphabet.value y with
      | some w, some x, some y =>
          if y % 4 = 0 then some [UInt8.ofNat (w * 4 + x / 16), UInt8.ofNat (x % 16 * 16 + y / 4)] else none
      | _, _, _ => none
  | w :: x :: y :: z :: rest =>
      match alphabet.value w, alphabet.value x, alphabet.value y, alphabet.value z with
      | some w, some x, some y, some z =>
          (decodeCanonical alphabet rest).map fun octets =>
            UInt8.ofNat (w * 4 + x / 16) :: UInt8.ofNat (x % 16 * 16 + y / 4) :: UInt8.ofNat (y % 4 * 64 + z) :: octets
      | _, _, _, _ => none

theorem octet_eq {a : UInt8} {value : Nat} (same : value = a.toNat) : UInt8.ofNat value = a := by
  rw [same]
  exact UInt8.ofNat_toNat

theorem toNat_octet {value : Nat} (small : value < 256) : (UInt8.ofNat value).toNat = value := by
  rw [UInt8.toNat_ofNat']
  exact Nat.mod_eq_of_lt small

/-- The three octets behind four sextets. -/
theorem octets_of_sextets (a b c : UInt8) :
    UInt8.ofNat (a.toNat / 4 * 4 + (a.toNat % 4 * 16 + b.toNat / 16) / 16) = a ∧
      UInt8.ofNat ((a.toNat % 4 * 16 + b.toNat / 16) % 16 * 16 + (b.toNat % 16 * 4 + c.toNat / 64) / 4) = b ∧
      UInt8.ofNat ((b.toNat % 16 * 4 + c.toNat / 64) % 4 * 64 + c.toNat % 64) = c := by
  have smallA := a.toNat_lt
  have smallB := b.toNat_lt
  have smallC := c.toNat_lt
  refine ⟨octet_eq ?_, octet_eq ?_, octet_eq ?_⟩
  · omega
  · omega
  · omega

theorem octets_of_three (a b : UInt8) :
    UInt8.ofNat (a.toNat / 4 * 4 + (a.toNat % 4 * 16 + b.toNat / 16) / 16) = a ∧
      UInt8.ofNat ((a.toNat % 4 * 16 + b.toNat / 16) % 16 * 16 + b.toNat % 16 * 4 / 4) = b := by
  have smallA := a.toNat_lt
  have smallB := b.toNat_lt
  refine ⟨octet_eq ?_, octet_eq ?_⟩
  · omega
  · omega

theorem octets_of_two (a : UInt8) : UInt8.ofNat (a.toNat / 4 * 4 + a.toNat % 4 * 16 / 16) = a := by
  have smallA := a.toNat_lt
  apply octet_eq
  omega

theorem decodeCanonical_encode (alphabet : Alphabet) (octets : List UInt8) :
    decodeCanonical alphabet (encode alphabet octets) = some octets := by
  induction octets using sextets.induct with
  | case1 => rfl
  | case2 a =>
      have small := sextets_lt [a]
      simp only [sextets, List.mem_cons, List.not_mem_nil, or_false, forall_eq_or_imp, forall_eq] at small
      simp only [encode, sextets, List.map_cons, List.map_nil, decodeCanonical, Alphabet.value_letter small.1,
        Alphabet.value_letter small.2, octets_of_two]
      rw [if_pos (by omega)]
  | case3 a b =>
      have small := sextets_lt [a, b]
      simp only [sextets, List.mem_cons, List.not_mem_nil, or_false, forall_eq_or_imp, forall_eq] at small
      simp only [encode, sextets, List.map_cons, List.map_nil, decodeCanonical, Alphabet.value_letter small.1,
        Alphabet.value_letter small.2.1, Alphabet.value_letter small.2.2, octets_of_three]
      rw [if_pos (by omega)]
  | case4 a b c rest inductionHypothesis =>
      have small := sextets_lt (a :: b :: c :: rest)
      simp only [sextets, List.mem_cons, forall_eq_or_imp] at small
      rw [encode] at inductionHypothesis
      rcases octets_of_sextets a b c with ⟨first, second, third⟩
      simp only [encode, sextets, List.map_cons, decodeCanonical, Alphabet.value_letter small.1,
        Alphabet.value_letter small.2.1, Alphabet.value_letter small.2.2.1, Alphabet.value_letter small.2.2.2.1,
        first, second, third, inductionHypothesis, Option.map_some]

/-- Four sextets behind the three octets that they make. -/
theorem sextets_of_octets {w x y z : Nat} (smallW : w < 64) (smallX : x < 64) (smallY : y < 64) (smallZ : z < 64)
    (rest : List UInt8) :
    sextets (UInt8.ofNat (w * 4 + x / 16) :: UInt8.ofNat (x % 16 * 16 + y / 4) :: UInt8.ofNat (y % 4 * 64 + z) :: rest) =
      w :: x :: y :: z :: sextets rest := by
  have first : (w * 4 + x / 16) / 4 = w := by omega
  have second : (w * 4 + x / 16) % 4 * 16 + (x % 16 * 16 + y / 4) / 16 = x := by omega
  have third : (x % 16 * 16 + y / 4) % 16 * 4 + (y % 4 * 64 + z) / 64 = y := by omega
  have fourth : (y % 4 * 64 + z) % 64 = z := by omega
  rw [sextets, toNat_octet (by omega), toNat_octet (by omega), toNat_octet (by omega), first, second, third, fourth]

/-- Only the encoder's spelling is accepted. -/
theorem encode_of_decodeCanonical {alphabet : Alphabet} :
    forall {text : List Char} {octets : List UInt8}, decodeCanonical alphabet text = some octets ->
      encode alphabet octets = text
  | [], octets, decoded => by
      cases decoded
      rfl
  | [_], octets, decoded => absurd decoded nofun
  | [w, x], octets, decoded => by
      rw [decodeCanonical] at decoded
      split at decoded
      · rename_i first second firstValued secondValued
        rcases Alphabet.of_value firstValued with ⟨firstSmall, firstLetter⟩
        rcases Alphabet.of_value secondValued with ⟨secondSmall, secondLetter⟩
        split at decoded
        · cases decoded
          have left : (first * 4 + second / 16) / 4 = first := by omega
          have right : (first * 4 + second / 16) % 4 * 16 = second := by omega
          rw [encode, sextets, toNat_octet (by omega), left, right, List.map_cons, List.map_singleton, firstLetter,
            secondLetter]
        · exact absurd decoded nofun
      · exact absurd decoded nofun
  | [w, x, y], octets, decoded => by
      rw [decodeCanonical] at decoded
      split at decoded
      · rename_i first second third firstValued secondValued thirdValued
        rcases Alphabet.of_value firstValued with ⟨firstSmall, firstLetter⟩
        rcases Alphabet.of_value secondValued with ⟨secondSmall, secondLetter⟩
        rcases Alphabet.of_value thirdValued with ⟨thirdSmall, thirdLetter⟩
        split at decoded
        · cases decoded
          have left : (first * 4 + second / 16) / 4 = first := by omega
          have middle : (first * 4 + second / 16) % 4 * 16 + (second % 16 * 16 + third / 4) / 16 = second := by omega
          have right : (second % 16 * 16 + third / 4) % 16 * 4 = third := by omega
          rw [encode, sextets, toNat_octet (by omega), toNat_octet (by omega), left, middle, right, List.map_cons,
            List.map_cons, List.map_singleton, firstLetter, secondLetter, thirdLetter]
        · exact absurd decoded nofun
      · exact absurd decoded nofun
  | w :: x :: y :: z :: rest, octets, decoded => by
      rw [decodeCanonical] at decoded
      split at decoded
      · rename_i first second third fourth firstValued secondValued thirdValued fourthValued
        rcases Alphabet.of_value firstValued with ⟨firstSmall, firstLetter⟩
        rcases Alphabet.of_value secondValued with ⟨secondSmall, secondLetter⟩
        rcases Alphabet.of_value thirdValued with ⟨thirdSmall, thirdLetter⟩
        rcases Alphabet.of_value fourthValued with ⟨fourthSmall, fourthLetter⟩
        rcases Option.map_eq_some_iff.mp decoded with ⟨later, decodedLater, rfl⟩
        have tail := encode_of_decodeCanonical decodedLater
        rw [encode] at tail ⊢
        rw [sextets_of_octets firstSmall secondSmall thirdSmall fourthSmall, List.map_cons, List.map_cons, List.map_cons,
          List.map_cons, firstLetter, secondLetter, thirdLetter, fourthLetter, tail]
      · exact absurd decoded nofun

/-! ## The scanner of `binascii` -/

inductive Error where
  | leadingPadding
  | excessPadding
  | excessData
  | foreignCharacter
  | discontinuousPadding
  | invalidLength
  | incorrectPadding
  deriving DecidableEq, Repr

/-- What the scanner knows between two characters: how many sextets of the current
four it has seen, the bits left over from the last, the padding since then, and
whether there has been any. -/
structure Quad where
  position : Nat
  leftover : Nat
  pads : Nat
  padded : Bool

/-- The loop of `a2b_base64`. -/
def scan (strict : Bool) (value : Char -> Option Nat) : Quad -> List Char -> Except Error (List UInt8)
  | quad, [] =>
      if quad.position = 0 then .ok []
      else if quad.position = 1 then .error .invalidLength
      else .error .incorrectPadding
  | quad, c :: rest =>
      if c = '=' then
        if strict = true ∧ quad.position = 0 then .error .excessPadding
        else if 2 ≤ quad.position then
          if 4 ≤ quad.position + (quad.pads + 1) then
            if strict = true ∧ rest ≠ [] then .error .excessData else .ok []
          else scan strict value { quad with pads := quad.pads + 1, padded := true } rest
        else scan strict value { quad with padded := true } rest
      else
        match value c with
        | none => if strict then .error .foreignCharacter else scan strict value quad rest
        | some sextet =>
            if strict = true ∧ quad.padded = true then .error .discontinuousPadding
            else
              match quad.position with
              | 0 => scan strict value { quad with position := 1, leftover := sextet, pads := 0 } rest
              | 1 =>
                  (scan strict value { quad with position := 2, leftover := sextet % 16, pads := 0 } rest).map
                    (UInt8.ofNat (quad.leftover * 4 + sextet / 16) :: ·)
              | 2 =>
                  (scan strict value { quad with position := 3, leftover := sextet % 4, pads := 0 } rest).map
                    (UInt8.ofNat (quad.leftover * 16 + sextet / 4) :: ·)
              | _ =>
                  (scan strict value { quad with position := 0, leftover := 0, pads := 0 } rest).map
                    (UInt8.ofNat (quad.leftover * 64 + sextet) :: ·)

/-- Before the first character, and after every full group of four. -/
def Quad.start : Quad where
  position := 0
  leftover := 0
  pads := 0
  padded := false

/-- `binascii.a2b_base64(text, strict_mode=strict)`. -/
def a2bBase64 (strict : Bool) (value : Char -> Option Nat) (text : List Char) : Except Error (List UInt8) :=
  if strict = true ∧ text.head? = some '=' then .error .leadingPadding else scan strict value Quad.start text

section Scanner

variable {strict : Bool} {alphabet : Alphabet}

/-- Two letters make an octet. -/
theorem scan_two {w x : Nat} (smallW : w < 64) (smallX : x < 64) (rest : List Char) :
    scan strict alphabet.value Quad.start (alphabet.letter w :: alphabet.letter x :: rest) =
      (scan strict alphabet.value { position := 2, leftover := x % 16, pads := 0, padded := false } rest).map
        (UInt8.ofNat (w * 4 + x / 16) :: ·) := by
  simp [scan, Quad.start, Alphabet.letter_ne_padding smallW, Alphabet.letter_ne_padding smallX,
    Alphabet.value_letter smallW, Alphabet.value_letter smallX]

theorem scan_third {leftover y : Nat} (smallY : y < 64) (rest : List Char) :
    scan strict alphabet.value { position := 2, leftover := leftover, pads := 0, padded := false }
        (alphabet.letter y :: rest) =
      (scan strict alphabet.value { position := 3, leftover := y % 4, pads := 0, padded := false } rest).map
        (UInt8.ofNat (leftover * 16 + y / 4) :: ·) := by
  simp [scan, Alphabet.letter_ne_padding smallY, Alphabet.value_letter smallY]

theorem scan_fourth {leftover z : Nat} (smallZ : z < 64) (rest : List Char) :
    scan strict alphabet.value { position := 3, leftover := leftover, pads := 0, padded := false }
        (alphabet.letter z :: rest) =
      (scan strict alphabet.value Quad.start rest).map (UInt8.ofNat (leftover * 64 + z) :: ·) := by
  simp [scan, Quad.start, Alphabet.letter_ne_padding smallZ, Alphabet.value_letter smallZ]

/-- The padding completes a group of two sextets or of three. -/
theorem scan_padding (value : Char -> Option Nat) (leftover : Nat) :
    scan strict value { position := 2, leftover := leftover, pads := 0, padded := false } ['=', '='] = .ok [] ∧
      scan strict value { position := 3, leftover := leftover, pads := 0, padded := false } ['='] = .ok [] := by
  simp [scan]

/-- What the encoder writes, with its padding, the scanner reads. -/
theorem scan_encode (octets : List UInt8) :
    scan strict alphabet.value Quad.start (encode alphabet octets ++ padding (encode alphabet octets).length) =
      .ok octets := by
  induction octets using sextets.induct with
  | case1 => simp [encode, sextets, padding, scan, Quad.start]
  | case2 a =>
      have small := sextets_lt [a]
      simp only [sextets, List.mem_cons, List.not_mem_nil, or_false, forall_eq_or_imp, forall_eq] at small
      have spelled : encode alphabet [a] ++ padding (encode alphabet [a]).length =
          [alphabet.letter (a.toNat / 4), alphabet.letter (a.toNat % 4 * 16), '=', '='] := rfl
      rw [spelled, scan_two small.1 small.2, (scan_padding _ _).1, octets_of_two]
      rfl
  | case3 a b =>
      have small := sextets_lt [a, b]
      simp only [sextets, List.mem_cons, List.not_mem_nil, or_false, forall_eq_or_imp, forall_eq] at small
      have spelled : encode alphabet [a, b] ++ padding (encode alphabet [a, b]).length =
          [alphabet.letter (a.toNat / 4), alphabet.letter (a.toNat % 4 * 16 + b.toNat / 16),
            alphabet.letter (b.toNat % 16 * 4), '='] := rfl
      rcases octets_of_three a b with ⟨first, second⟩
      rw [spelled, scan_two small.1 small.2.1, scan_third small.2.2, (scan_padding _ _).2, first, second]
      rfl
  | case4 a b c rest inductionHypothesis =>
      have small := sextets_lt (a :: b :: c :: rest)
      simp only [sextets, List.mem_cons, forall_eq_or_imp] at small
      rcases octets_of_sextets a b c with ⟨first, second, third⟩
      have length : padding (encode alphabet (a :: b :: c :: rest)).length = padding (encode alphabet rest).length := by
        simp only [encode, sextets, List.map_cons, List.length_cons, padding]
        congr 1
        omega
      have spelled : encode alphabet (a :: b :: c :: rest) = alphabet.letter (a.toNat / 4) ::
          alphabet.letter (a.toNat % 4 * 16 + b.toNat / 16) :: alphabet.letter (b.toNat % 16 * 4 + c.toNat / 64) ::
          alphabet.letter (c.toNat % 64) :: encode alphabet rest := rfl
      rw [length, spelled, List.cons_append, List.cons_append, List.cons_append, List.cons_append,
        scan_two small.1 small.2.1, scan_third small.2.2.1, scan_fourth small.2.2.2.1, inductionHypothesis, first,
        second, third]
      rfl

theorem a2bBase64_encode (octets : List UInt8) :
    a2bBase64 strict alphabet.value (encode alphabet octets ++ padding (encode alphabet octets).length) =
      .ok octets := by
  unfold a2bBase64
  rw [if_neg, scan_encode]
  rintro ⟨-, padded⟩
  cases spelled : encode alphabet octets with
  | nil =>
      rw [spelled] at padded
      exact absurd padded (by decide)
  | cons c rest =>
      rw [spelled, List.cons_append, List.head?_cons] at padded
      have member : c ∈ encode alphabet octets := spelled ▸ List.mem_cons_self
      exact alphabet.unpadded (Option.some.inj padded ▸ mem_letters_of_encode member)

end Scanner

/-! ## The two alphabets -/

/-- The alphabet of `base64.b64encode`. -/
def standard : Alphabet where
  letters := "ABCDEFGHIJKLMNOPQRSTUVWXYZabcdefghijklmnopqrstuvwxyz0123456789+/".toList
  complete := by decide
  distinct := by decide
  unpadded := by decide

/-- The alphabet that is safe in URLs. -/
def urlSafe : Alphabet where
  letters := "ABCDEFGHIJKLMNOPQRSTUVWXYZabcdefghijklmnopqrstuvwxyz0123456789-_".toList
  complete := by decide
  distinct := by decide
  unpadded := by decide

/-- The translation of `urlsafe_b64decode`. -/
def fromUrlSafe (c : Char) : Char :=
  if c = '-' then '+' else if c = '_' then '/' else c

theorem fromUrlSafe_letter {sextet : Nat} (small : sextet < 64) :
    fromUrlSafe (urlSafe.letter sextet) = standard.letter sextet := by
  have same : urlSafe.letters.map fromUrlSafe = standard.letters := by decide
  have inside : sextet < urlSafe.letters.length := by rw [urlSafe.complete]; exact small
  have insideStandard : sextet < standard.letters.length := by rw [standard.complete]; exact small
  rw [Alphabet.letter, Alphabet.letter, List.getD_eq_getElem _ _ inside, List.getD_eq_getElem _ _ insideStandard]
  simp only [<- same, List.getElem_map]

theorem map_fromUrlSafe_encode (octets : List UInt8) :
    (encode urlSafe octets).map fromUrlSafe = encode standard octets := by
  unfold encode
  rw [List.map_map]
  apply List.map_congr_left
  intro sextet member
  exact fromUrlSafe_letter (sextets_lt octets sextet member)

end Base64
end Foundation
end ApexQuant
