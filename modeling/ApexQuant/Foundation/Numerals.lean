import ApexQuant.Foundation.Text

namespace ApexQuant
namespace Foundation

/-!
# Numerals of fixed width

Identifiers and timestamps are written with a fixed number of digits per field,
so a concatenation of fields can be read back by position.  Below the capacity
of a field its text determines its number.
-/

namespace Numeral

/-- The lowest `width` digits of a number, most significant first. -/
def digits (base : Nat) : Nat -> Nat -> Text
  | 0, _ => []
  | width + 1, n => digits base width (n / base) ++ [Nat.digitChar (n % base)]

@[simp]
theorem length_digits (base width n : Nat) : (digits base width n).length = width := by
  induction width generalizing n with
  | zero => rfl
  | succ width inductionHypothesis => rw [digits, List.length_append, inductionHypothesis]; rfl

/-- Digits up to hexadecimal are distinct characters. -/
theorem digitChar_injOn {a b : Nat} (small : a < 16) (small' : b < 16)
    (same : Nat.digitChar a = Nat.digitChar b) : a = b := by
  have table : forall a, a < 16 -> forall b, b < 16 -> Nat.digitChar a = Nat.digitChar b -> a = b := by decide
  exact table a small b small' same

theorem digits_injOn {base : Nat} (positive : 0 < base) (small : base ≤ 16) {width a b : Nat}
    (fits : a < base ^ width) (fits' : b < base ^ width) (same : digits base width a = digits base width b) :
    a = b := by
  induction width generalizing a b with
  | zero => rw [pow_zero] at fits fits'; omega
  | succ width inductionHypothesis =>
      rcases List.append_inj' same rfl with ⟨high, low⟩
      rw [pow_succ] at fits fits'
      have quotients : a / base = b / base :=
        inductionHypothesis (Nat.div_lt_of_lt_mul (by rwa [Nat.mul_comm] at fits))
          (Nat.div_lt_of_lt_mul (by rwa [Nat.mul_comm] at fits')) high
      have remainders : a % base = b % base :=
        digitChar_injOn ((Nat.mod_lt a positive).trans_le small) ((Nat.mod_lt b positive).trans_le small)
          (List.singleton_inj.mp low)
      rw [← Nat.div_add_mod a base, ← Nat.div_add_mod b base, quotients, remainders]

/-- Every character of a numeral is one of the digits of its base. -/
theorem mem_digits {base : Nat} (positive : 0 < base) {width n : Nat} {c : Char} (member : c ∈ digits base width n) :
    Exists fun d => d < base ∧ c = Nat.digitChar d := by
  induction width generalizing n with
  | zero => exact absurd member List.not_mem_nil
  | succ width inductionHypothesis =>
      rcases List.mem_append.mp member with high | low
      · exact inductionHypothesis high
      · exact ⟨n % base, Nat.mod_lt n positive, List.mem_singleton.mp low⟩

end Numeral

/-! ## Decimal numerals -/

namespace Text.DecimalDigits

variable (digits : Text.DecimalDigits)

theorem value_digitChar {d : Nat} (small : d < 10) : digits.value (Nat.digitChar d) = some d := by
  have code : (Nat.digitChar d).toNat = 48 + d := Nat.toNat_digitChar_of_lt_ten small
  rw [digits.value_of_ascii _ (by omega), if_pos (by omega), code, Nat.add_sub_cancel_left]

theorem number_concat (text : Text) (c : Char) :
    digits.number (text ++ [c]) = digits.number text * 10 + (digits.value c).getD 0 :=
  List.foldl_concat ..

/-- `int(str(n)) == n`. -/
theorem number_toDigits (n : Nat) : digits.number (Nat.toDigits 10 n) = n := by
  induction n using Nat.strong_induction_on with
  | _ n inductionHypothesis =>
      rw [Nat.toDigits_eq_if (by omega)]
      split
      · rename_i small
        change digits.number ([] ++ [_]) = n
        rw [number_concat, value_digitChar digits small]
        exact Nat.zero_add n
      · rename_i large
        rw [number_concat, inductionHypothesis (n / 10) (by omega), value_digitChar digits (by omega)]
        exact Nat.div_add_mod' n 10

/-- `str(int(text)) == text` for a numeral in ASCII that does not begin with a zero. -/
theorem toDigits_number {first : Char} {rest : Text} (opening : 49 ≤ first.toNat ∧ first.toNat ≤ 57)
    (decimal : forall c, c ∈ rest -> 48 ≤ c.toNat ∧ c.toNat ≤ 57) :
    0 < digits.number (first :: rest) ∧ Nat.toDigits 10 (digits.number (first :: rest)) = first :: rest := by
  have read : forall c : Char, 48 ≤ c.toNat ∧ c.toNat ≤ 57 -> digits.value c = some (c.toNat - 48) := by
    intro c bounded
    rw [digits.value_of_ascii c (by omega), if_pos bounded]
  have spelled : forall c : Char, 48 ≤ c.toNat ∧ c.toNat ≤ 57 -> Nat.digitChar (c.toNat - 48) = c := by
    intro c bounded
    apply Char.toNat_inj.mp
    rw [Nat.toNat_digitChar_of_lt_ten (by omega)]
    omega
  induction rest using List.reverseRecOn with
  | nil =>
      have value : digits.number [first] = first.toNat - 48 := by
        change 0 * 10 + (digits.value first).getD 0 = first.toNat - 48
        rw [read first (by omega), Option.getD_some, Nat.zero_mul, Nat.zero_add]
      rw [value]
      refine ⟨by omega, ?_⟩
      rw [Nat.toDigits_eq_if (by omega), if_pos (by omega), spelled first (by omega)]
  | append_singleton initial last inductionHypothesis =>
      have bounded := decimal last (List.mem_append_right _ List.mem_cons_self)
      rcases inductionHypothesis fun c member => decimal c (List.mem_append_left _ member) with ⟨positive, same⟩
      have value : digits.number (first :: (initial ++ [last])) =
          digits.number (first :: initial) * 10 + (last.toNat - 48) := by
        rw [← List.cons_append, number_concat, read last bounded, Option.getD_some]
      have quotient : (digits.number (first :: initial) * 10 + (last.toNat - 48)) / 10 =
          digits.number (first :: initial) := by omega
      have remainder : (digits.number (first :: initial) * 10 + (last.toNat - 48)) % 10 = last.toNat - 48 := by omega
      rw [value]
      refine ⟨by omega, ?_⟩
      rw [Nat.toDigits_eq_if (by omega), if_neg (by omega), quotient, remainder, same, spelled last bounded,
        List.cons_append]

/-- Leading zeros do not count. -/
theorem number_leftpad (width : Nat) (text : Text) :
    digits.number (text.leftpad width '0') = digits.number text := by
  unfold List.leftpad
  induction width - text.length with
  | zero => rfl
  | succ zeros inductionHypothesis =>
      rw [List.replicate_succ, List.cons_append, ← inductionHypothesis]
      change List.foldl _ (0 * 10 + (digits.value '0').getD 0) _ = _
      rw [show digits.value '0' = some 0 from value_digitChar digits (d := 0) (by omega)]
      rfl

end Text.DecimalDigits
end Foundation
end ApexQuant
