import ApexQuant.Foundation.Numerals
import ApexQuant.Foundation.Patterns
import ApexQuant.Foundation.PercentEncoding

namespace ApexQuant
namespace Tracing

open Foundation

/-!
# The `traceparent` header

`parse_traceparent` and `format_traceparent` of the crate `apex-tracing` and of the
tracing package.  The crate splits the trimmed header and checks the parts, each with an
error of its own.  The package matches the stripped header against a pattern first and
splits what matched.  `IsTraceparent` is what both accept.
-/

/-- `[0-9a-f]` -/
def hexDigits : List Char :=
  "0123456789abcdef".toList

def zeroTraceId : Text :=
  List.replicate 32 '0'

def zeroSpanId : Text :=
  List.replicate 16 '0'

/-- `02x` -/
def hex2 (n : Nat) : Text :=
  (Nat.toDigits 16 n).leftpad 2 '0'

/-! ## The crate `apex-tracing` -/

namespace Rust

inductive TracingError where
  | invalidTraceparent
  | unsupportedVersion
  | invalidTraceId
  | invalidSpanId
  | invalidTraceFlags
  deriving DecidableEq

def TracingError.message : TracingError -> Text
  | .invalidTraceparent => "invalid traceparent header".toList
  | .unsupportedVersion => "unsupported traceparent version".toList
  | .invalidTraceId => "invalid trace identifier".toList
  | .invalidSpanId => "invalid span identifier".toList
  | .invalidTraceFlags => "invalid trace flags".toList

structure TraceContext where
  traceId : Text
  spanId : Text
  traceFlags : UInt8
  tracestate : Option Text
  deriving DecidableEq

/-- `char::is_ascii_hexdigit`. -/
def isAsciiHexdigit (c : Char) : Bool :=
  (decide ('0' ≤ c) && decide (c ≤ '9')) || (decide ('a' ≤ c) && decide (c ≤ 'f')) ||
    (decide ('A' ≤ c) && decide (c ≤ 'F'))

/-- `char::is_ascii_uppercase`. -/
def isAsciiUppercase (c : Char) : Bool :=
  decide ('A' ≤ c) && decide (c ≤ 'Z')

/-- `is_lowercase_hex`. -/
def isLowercaseHex (value : Text) : Bool :=
  !value.isEmpty && value.all fun c => isAsciiHexdigit c && !isAsciiUppercase c

/-- `str::len`. -/
def len (value : Text) : Nat :=
  (Text.utf8 value).length

/-- One digit in `u8::from_str_radix`, with the check for overflow. -/
def addDigit (number : Nat) (c : Char) : Option Nat :=
  (PercentEncoding.hexValue c).bind fun d => if number * 16 + d < 256 then some (number * 16 + d) else none

/-- `u8::from_str_radix(src, 16)`, which takes a plus sign in front of digits. -/
def fromStrRadix16 (src : Text) : Option UInt8 :=
  match src with
  | [] => none
  | ['+'] => none
  | ['-'] => none
  | '+' :: digits => (digits.foldlM addDigit 0).map UInt8.ofNat
  | digits => (digits.foldlM addDigit 0).map UInt8.ofNat

/-- `parse_traceparent`. -/
def parseTraceparent (header : Text) : Except TracingError TraceContext :=
  match List.splitOn '-' (Text.trim header) with
  | [version, traceId, spanId, flags] =>
      if version ≠ "00".toList then .error .unsupportedVersion
      else if len traceId ≠ 32 ∨ isLowercaseHex traceId = false ∨ traceId = zeroTraceId then .error .invalidTraceId
      else if len spanId ≠ 16 ∨ isLowercaseHex spanId = false ∨ spanId = zeroSpanId then .error .invalidSpanId
      else if len flags ≠ 2 ∨ isLowercaseHex flags = false then .error .invalidTraceFlags
      else
        match fromStrRadix16 flags with
        | none => .error .invalidTraceFlags
        | some traceFlags =>
            .ok { traceId := traceId, spanId := spanId, traceFlags := traceFlags, tracestate := none }
  | _ => .error .invalidTraceparent

/-- `format_traceparent`. -/
def formatTraceparent (context : TraceContext) : Text :=
  "00-".toList ++ context.traceId ++ '-' :: context.spanId ++ '-' :: hex2 context.traceFlags.toNat

end Rust

/-! ## The package `apexquant-tracing` -/

namespace Python

/-- `TraceContext`, with the bounds of its `Field`s. -/
structure TraceContext where
  traceId : Text
  traceId_length : traceId.length = 32
  spanId : Text
  spanId_length : spanId.length = 16
  traceFlags : Nat
  traceFlags_le : traceFlags ≤ 255
  tracestate : Option Text

/-- What is raised by the assignment to four names and by the model. -/
inductive Raised where
  | valueError
  | validationError
  deriving DecidableEq

/-- `TraceContext(...)`. -/
def TraceContext.build (traceId spanId : Text) (traceFlags : Nat) : Except Raised TraceContext :=
  if bounded : traceId.length = 32 ∧ spanId.length = 16 ∧ traceFlags ≤ 255 then
    .ok { traceId := traceId, traceId_length := bounded.1, spanId := spanId, spanId_length := bounded.2.1,
          traceFlags := traceFlags, traceFlags_le := bounded.2.2, tracestate := none }
  else .error .validationError

/-- `TRACEPARENT_PATTERN`, without its anchors. -/
def traceparentPattern : RegularExpression Char :=
  Pattern.literal "00-".toList * (Pattern.oneOf hexDigits ^ 32 * (.char '-' *
    (Pattern.oneOf hexDigits ^ 16 * (.char '-' * Pattern.oneOf hexDigits ^ 2))))

/-- `match` of a pattern between `^` and `$`, which lets one newline follow. -/
def patternMatches (pattern : RegularExpression Char) (value : Text) : Bool :=
  pattern.rmatch value || (decide (value.getLast? = some '\n') && pattern.rmatch value.dropLast)

/-- `int(text, 16)` of hexadecimal digits. -/
def int16 (text : Text) : Nat :=
  text.foldl (fun number c => number * 16 + (PercentEncoding.hexValue c).getD 0) 0

/-- `parse_traceparent`. -/
def parseTraceparent (header : Text) : Except Raised (Option TraceContext) :=
  if patternMatches traceparentPattern (Text.strip header) = false then .ok none
  else
    match List.splitOn '-' (Text.strip header) with
    | [version, traceId, spanId, flagsHex] =>
        if version ≠ "00".toList then .ok none
        else if traceId = zeroTraceId ∨ spanId = zeroSpanId then .ok none
        else (TraceContext.build traceId spanId (int16 flagsHex)).map some
    | _ => .error .valueError

/-- `format_traceparent`. -/
def formatTraceparent (context : TraceContext) : Text :=
  "00-".toList ++ context.traceId ++ '-' :: context.spanId ++ '-' :: hex2 context.traceFlags

end Python

/-! ## Hexadecimal digits -/

/-- So many digits. -/
def IsHex (width : Nat) (text : Text) : Prop :=
  text.length = width ∧ forall c, c ∈ text -> c ∈ hexDigits

theorem plain_of_mem_hexDigits {c : Char} (member : c ∈ hexDigits) : c.toNat < 128 ∧ Text.isSpace c = false ∧ c ≠ '-' := by
  have table : hexDigits.all (fun d => decide (d.toNat < 128 ∧ Text.isSpace d = false ∧ d ≠ '-')) = true := by
    decide +kernel
  exact of_decide_eq_true (List.all_eq_true.mp table c member)

/-- The range tests of the crate and the class of the pattern select the same characters. -/
theorem lowerHex_iff (c : Char) :
    (Rust.isAsciiHexdigit c && !Rust.isAsciiUppercase c) = true <-> c ∈ hexDigits := by
  have table : forall n, n < 128 -> ((Rust.isAsciiHexdigit (Char.ofNat n) && !Rust.isAsciiUppercase (Char.ofNat n)) = true <->
      Char.ofNat n ∈ hexDigits) := by decide +kernel
  by_cases small : c.toNat < 128
  · have known := table c.toNat small
    rw [Char.ofNat_toNat] at known
    exact known
  · have above : forall d : Char, d.toNat < 128 -> ¬c ≤ d := fun d bound below => small (Nat.lt_of_le_of_lt below bound)
    refine iff_of_false ?_ fun member => small (plain_of_mem_hexDigits member).1
    simp [Rust.isAsciiHexdigit, above '9' (by decide), above 'f' (by decide), above 'F' (by decide)]

/-- The crate counts octets, the pattern characters. -/
theorem hex_iff {width : Nat} (positive : 0 < width) (text : Text) :
    Rust.len text = width ∧ Rust.isLowercaseHex text = true <-> IsHex width text := by
  have digits : Rust.isLowercaseHex text = true <-> text ≠ [] ∧ forall c, c ∈ text -> c ∈ hexDigits := by
    simp only [Rust.isLowercaseHex, Bool.and_eq_true, List.all_eq_true, Bool.not_eq_true', List.isEmpty_eq_false_iff,
      ← lowerHex_iff]
  have counted (hex : forall c, c ∈ text -> c ∈ hexDigits) : Rust.len text = text.length := by
    have plain : Text.isAscii text = true :=
      List.all_eq_true.mpr fun c member => decide_eq_true (plain_of_mem_hexDigits (hex c member)).1
    rw [Rust.len, Text.utf8_of_isAscii plain, Text.ascii, List.length_map]
  rw [digits, IsHex]
  constructor
  · rintro ⟨length, _, hex⟩
    exact ⟨counted hex ▸ length, hex⟩
  · rintro ⟨length, hex⟩
    refine ⟨(counted hex).trans length, ?_, hex⟩
    rintro rfl
    exact absurd length positive.ne

theorem exists_of_mem_hexDigits {c : Char} (member : c ∈ hexDigits) :
    Exists fun d => d < 16 ∧ PercentEncoding.hexValue c = some d ∧ Nat.digitChar d = c := by
  have table : hexDigits.all (fun c =>
      (PercentEncoding.hexValue c).any fun d => decide (d < 16 ∧ Nat.digitChar d = c)) = true := by decide +kernel
  rcases (Option.any_eq_true ..).mp (List.all_eq_true.mp table c member) with ⟨d, value, known⟩
  rw [decide_eq_true_eq] at known
  exact ⟨d, known.1, value, known.2⟩

theorem digitChar_hex {d : Nat} (small : d < 16) :
    Nat.digitChar d ∈ hexDigits ∧ PercentEncoding.hexValue (Nat.digitChar d) = some d := by
  have table : forall d, d < 16 ->
      Nat.digitChar d ∈ hexDigits ∧ PercentEncoding.hexValue (Nat.digitChar d) = some d := by decide +kernel
  exact table d small

theorem hex2_eq {n : Nat} (small : n < 256) : hex2 n = [Nat.digitChar (n / 16), Nat.digitChar (n % 16)] := by
  have high : n / 16 < 16 := by omega
  rw [hex2, Nat.toDigits_eq_if (by omega)]
  split
  · rename_i single
    rw [Nat.div_eq_of_lt single, Nat.mod_eq_of_lt single]
    rfl
  · rw [Nat.toDigits_eq_if (by omega), if_pos high]
    rfl

theorem int16_pair {high low : Char} {h l : Nat} (first : PercentEncoding.hexValue high = some h)
    (second : PercentEncoding.hexValue low = some l) : Python.int16 [high, low] = h * 16 + l := by
  simp [Python.int16, first, second]

theorem fromStrRadix16_pair {high low : Char} {h l : Nat} (first : PercentEncoding.hexValue high = some h)
    (second : PercentEncoding.hexValue low = some l) (small : h * 16 + l < 256) :
    Rust.fromStrRadix16 [high, low] = some (UInt8.ofNat (h * 16 + l)) := by
  have unsigned : high ≠ '+' := by
    rintro rfl
    cases first
  have small' : h < 256 := by omega
  have digits : [high, low].foldlM Rust.addDigit 0 = some (h * 16 + l) := by
    simp [Rust.addDigit, first, second, small, small']
  rw [Rust.fromStrRadix16, digits, Option.map_some]
  · intro none
    cases none
  · intro sign
    cases sign
  · intro sign
    cases sign
  · intro rest same
    exact unsigned (List.cons.inj same).1

/-- Two digits and their number. -/
theorem read_hex2 {flags : Text} (hex : IsHex 2 flags) :
    Rust.fromStrRadix16 flags = some (UInt8.ofNat (Python.int16 flags)) ∧ Python.int16 flags < 256 ∧
      hex2 (Python.int16 flags) = flags := by
  rcases hex with ⟨length, digits⟩
  rcases List.length_eq_two.mp length with ⟨high, low, rfl⟩
  rcases exists_of_mem_hexDigits (digits high (by simp)) with ⟨h, smallHigh, first, rfl⟩
  rcases exists_of_mem_hexDigits (digits low (by simp)) with ⟨l, smallLow, second, rfl⟩
  have small : h * 16 + l < 256 := by omega
  have quotient : (h * 16 + l) / 16 = h := by omega
  have remainder : (h * 16 + l) % 16 = l := by omega
  rw [int16_pair first second, hex2_eq small, quotient, remainder]
  exact ⟨fromStrRadix16_pair first second small, small, rfl⟩

theorem hex2_read {n : Nat} (small : n < 256) : IsHex 2 (hex2 n) ∧ Python.int16 (hex2 n) = n := by
  have high := digitChar_hex (show n / 16 < 16 by omega)
  have low := digitChar_hex (show n % 16 < 16 by omega)
  rw [hex2_eq small, int16_pair high.2 low.2]
  refine ⟨⟨rfl, ?_⟩, by omega⟩
  intro c member
  rcases List.mem_pair.mp member with rfl | rfl
  · exact high.1
  · exact low.1

/-! ## What both parsers accept -/

/-- Lower-case ids that are not all zero. -/
structure ValidIds (traceId spanId : Text) : Prop where
  trace_hex : IsHex 32 traceId
  trace_ne : traceId ≠ zeroTraceId
  span_hex : IsHex 16 spanId
  span_ne : spanId ≠ zeroSpanId

/-- A header value without blanks around it, and its parts. -/
structure IsTraceparent (value traceId spanId flags : Text) : Prop where
  value_eq : value = "00-".toList ++ traceId ++ '-' :: spanId ++ '-' :: flags
  ids : ValidIds traceId spanId
  flags_hex : IsHex 2 flags

theorem joined_eq (traceId spanId flags : Text) :
    "00-".toList ++ traceId ++ '-' :: spanId ++ '-' :: flags =
      List.intercalate ['-'] ["00".toList, traceId, spanId, flags] := by
  have prefixed : "00-".toList = "00".toList ++ ['-'] := by decide
  rw [prefixed]
  simp [List.intercalate_cons_cons, List.intercalate_singleton]

theorem hyphen_not_mem {width : Nat} {text : Text} (hex : IsHex width text) : '-' ∉ text := fun member =>
  (plain_of_mem_hexDigits (hex.2 '-' member)).2.2 rfl

theorem splitOn_joined {traceId spanId flags : Text} (trace : IsHex 32 traceId) (span : IsHex 16 spanId)
    (flag : IsHex 2 flags) : List.splitOn '-' ("00-".toList ++ traceId ++ '-' :: spanId ++ '-' :: flags) =
      ["00".toList, traceId, spanId, flags] := by
  rw [joined_eq]
  refine List.splitOn_intercalate '-' ?_ (List.cons_ne_nil _ _)
  intro piece member
  simp only [List.mem_cons, List.not_mem_nil, or_false] at member
  rcases member with rfl | rfl | rfl | rfl
  · decide
  · exact hyphen_not_mem trace
  · exact hyphen_not_mem span
  · exact hyphen_not_mem flag

namespace IsTraceparent

variable {value traceId spanId flags : Text}

theorem splitOn_eq (parts : IsTraceparent value traceId spanId flags) :
    List.splitOn '-' value = ["00".toList, traceId, spanId, flags] := by
  rw [parts.value_eq]
  exact splitOn_joined parts.ids.trace_hex parts.ids.span_hex parts.flags_hex

theorem value_of_splitOn (split : List.splitOn '-' value = ["00".toList, traceId, spanId, flags]) :
    value = "00-".toList ++ traceId ++ '-' :: spanId ++ '-' :: flags := by
  rw [joined_eq, ← split, List.intercalate_splitOn]

theorem solid (parts : IsTraceparent value traceId spanId flags) : forall c, c ∈ value -> Text.isSpace c = false := by
  have ofHex {width : Nat} {text : Text} (hex : IsHex width text) : forall c, c ∈ text -> Text.isSpace c = false :=
    fun c member => (plain_of_mem_hexDigits (hex.2 c member)).2.1
  intro c member
  rw [parts.value_eq] at member
  simp only [List.mem_append, List.mem_cons] at member
  rcases member with ((opening | inTrace) | rfl | inSpan) | rfl | inFlags
  · have table : "00-".toList.all (fun c => !Text.isSpace c) = true := by decide
    exact Bool.not_eq_true' .. ▸ List.all_eq_true.mp table c opening
  · exact ofHex parts.ids.trace_hex c inTrace
  · rfl
  · exact ofHex parts.ids.span_hex c inSpan
  · rfl
  · exact ofHex parts.flags_hex c inFlags

theorem nonempty (parts : IsTraceparent value traceId spanId flags) : value ≠ [] := by
  rw [parts.value_eq]
  simp

end IsTraceparent

theorem mem_traceparentPattern {value : Text} :
    Python.traceparentPattern.rmatch value = true <-> Exists fun traceId => Exists fun spanId => Exists fun flags =>
      value = "00-".toList ++ traceId ++ '-' :: spanId ++ '-' :: flags ∧ IsHex 32 traceId ∧ IsHex 16 spanId ∧
        IsHex 2 flags := by
  rw [RegularExpression.rmatch_iff_matches', Python.traceparentPattern, RegularExpression.matches'_mul, Language.mem_mul]
  constructor
  · rintro ⟨opening, first, rest, more, rfl⟩
    rw [RegularExpression.matches'_mul, Language.mem_mul] at more
    rcases more with ⟨traceId, second, behind, hyphen, rfl⟩
    rcases Pattern.mem_char_mul.mp hyphen with ⟨rest, more, rfl⟩
    rw [RegularExpression.matches'_mul, Language.mem_mul] at more
    rcases more with ⟨spanId, third, behind, hyphen', rfl⟩
    rcases Pattern.mem_char_mul.mp hyphen' with ⟨flags, last, rfl⟩
    refine ⟨traceId, spanId, flags, ?_, Pattern.mem_oneOf_pow.mp second, Pattern.mem_oneOf_pow.mp third,
      Pattern.mem_oneOf_pow.mp last⟩
    rw [Pattern.mem_literal.mp first]
    simp
  · rintro ⟨traceId, spanId, flags, rfl, second, third, last⟩
    refine ⟨"00-".toList, Pattern.mem_literal.mpr rfl, traceId ++ '-' :: (spanId ++ '-' :: flags), ?_, by simp⟩
    rw [RegularExpression.matches'_mul, Language.mem_mul]
    refine ⟨traceId, Pattern.mem_oneOf_pow.mpr second, _, Pattern.mem_char_mul.mpr ⟨_, ?_, rfl⟩, rfl⟩
    rw [RegularExpression.matches'_mul, Language.mem_mul]
    exact ⟨spanId, Pattern.mem_oneOf_pow.mpr third, _,
      Pattern.mem_char_mul.mpr ⟨flags, Pattern.mem_oneOf_pow.mpr last, rfl⟩, rfl⟩

/-! ## The parsers -/

namespace Rust

theorem parseTraceparent_eq_ok_iff {header : Text} {context : TraceContext} :
    parseTraceparent header = .ok context <->
      Exists fun flags => IsTraceparent (Text.trim header) context.traceId context.spanId flags ∧
        context.traceFlags = UInt8.ofNat (Python.int16 flags) ∧ context.tracestate = none := by
  constructor
  · intro parsed
    rw [parseTraceparent] at parsed
    split at parsed
    · rename_i version traceId spanId flags split
      split_ifs at parsed with version_ne trace_bad span_bad flags_bad
      rw [not_not] at version_ne
      rw [not_or, not_or, not_not, Bool.not_eq_false] at trace_bad span_bad
      rw [not_or, not_not, Bool.not_eq_false] at flags_bad
      have hex := (hex_iff (by omega) flags).mp flags_bad
      rw [(read_hex2 hex).1] at parsed
      cases parsed
      rw [version_ne] at split
      exact ⟨flags, ⟨IsTraceparent.value_of_splitOn split,
        ⟨(hex_iff (by omega) traceId).mp ⟨trace_bad.1, trace_bad.2.1⟩, trace_bad.2.2,
          (hex_iff (by omega) spanId).mp ⟨span_bad.1, span_bad.2.1⟩, span_bad.2.2⟩, hex⟩, rfl, rfl⟩
    · cases parsed
  · rintro ⟨flags, parts, number, state⟩
    have trace := (hex_iff (by omega) context.traceId).mpr parts.ids.trace_hex
    have span := (hex_iff (by omega) context.spanId).mpr parts.ids.span_hex
    have flag := (hex_iff (by omega) flags).mpr parts.flags_hex
    rw [parseTraceparent, parts.splitOn_eq]
    simp only [ne_eq, not_true_eq_false, if_false, trace, span, flag, parts.ids.trace_ne, parts.ids.span_ne, or_self,
      Bool.true_eq_false, (read_hex2 parts.flags_hex).1, ← number, ← state]

end Rust

namespace Python

/-- A stripped value ends in no newline, so the pattern has to match all of it. -/
theorem patternMatches_strip (pattern : RegularExpression Char) (header : Text) :
    patternMatches pattern (Text.strip header) = pattern.rmatch (Text.strip header) := by
  have solid : ¬(Text.strip header).getLast? = some '\n' := by
    intro last
    exact absurd (Text.isSpace_getLast?_strip last) (by decide)
  rw [patternMatches, decide_eq_false solid, Bool.false_and, Bool.or_false]

theorem parseTraceparent_of_not_match {header : Text}
    (other : traceparentPattern.rmatch (Text.strip header) = false) : parseTraceparent header = .ok none := by
  rw [parseTraceparent, patternMatches_strip, if_pos other]

/-- What the pattern matches has four parts, and they fit the model. -/
theorem parseTraceparent_of_match {header traceId spanId flags : Text}
    (value : Text.strip header = "00-".toList ++ traceId ++ '-' :: spanId ++ '-' :: flags) (trace : IsHex 32 traceId)
    (span : IsHex 16 spanId) (flag : IsHex 2 flags) :
    parseTraceparent header =
      if traceId = zeroTraceId ∨ spanId = zeroSpanId then .ok none
      else .ok (some { traceId := traceId, traceId_length := trace.1, spanId := spanId, spanId_length := span.1,
                       traceFlags := int16 flags, traceFlags_le := Nat.le_of_lt_succ (read_hex2 flag).2.1,
                       tracestate := none }) := by
  have matched : traceparentPattern.rmatch (Text.strip header) = true :=
    mem_traceparentPattern.mpr ⟨traceId, spanId, flags, value, trace, span, flag⟩
  have bounded : traceId.length = 32 ∧ spanId.length = 16 ∧ int16 flags ≤ 255 :=
    ⟨trace.1, span.1, Nat.le_of_lt_succ (read_hex2 flag).2.1⟩
  rw [parseTraceparent, patternMatches_strip, matched, if_neg (by simp), value, splitOn_joined trace span flag]
  simp only [ne_eq, not_true_eq_false, if_false, TraceContext.build, dif_pos bounded]
  rfl

theorem parseTraceparent_eq_ok_iff {header : Text} {context : TraceContext} :
    parseTraceparent header = .ok (some context) <->
      Exists fun flags => IsTraceparent (Text.strip header) context.traceId context.spanId flags ∧
        context.traceFlags = int16 flags ∧ context.tracestate = none := by
  constructor
  · intro parsed
    cases matched : traceparentPattern.rmatch (Text.strip header) with
    | false =>
        rw [parseTraceparent_of_not_match matched] at parsed
        cases parsed
    | true =>
        rcases mem_traceparentPattern.mp matched with ⟨traceId, spanId, flags, value, trace, span, flag⟩
        rw [parseTraceparent_of_match value trace span flag] at parsed
        split_ifs at parsed with zero
        · cases parsed
        · cases parsed
          rw [not_or] at zero
          exact ⟨flags, ⟨value, ⟨trace, zero.1, span, zero.2⟩, flag⟩, rfl, rfl⟩
  · rintro ⟨flags, parts, number, state⟩
    rw [parseTraceparent_of_match parts.value_eq parts.ids.trace_hex parts.ids.span_hex parts.flags_hex,
      if_neg (not_or.mpr ⟨parts.ids.trace_ne, parts.ids.span_ne⟩)]
    simp only [← number, ← state]

/-- Nothing is raised. -/
theorem parseTraceparent_isOk (header : Text) : (parseTraceparent header).isOk = true := by
  cases matched : traceparentPattern.rmatch (Text.strip header) with
  | false =>
      rw [parseTraceparent_of_not_match matched]
      rfl
  | true =>
      rcases mem_traceparentPattern.mp matched with ⟨traceId, spanId, flags, value, trace, span, flag⟩
      rw [parseTraceparent_of_match value trace span flag]
      split <;> rfl

end Python

/-! ## The codec -/

theorem isTraceparent_format {traceId spanId : Text} (ids : ValidIds traceId spanId) {n : Nat} (small : n < 256) :
    IsTraceparent ("00-".toList ++ traceId ++ '-' :: spanId ++ '-' :: hex2 n) traceId spanId (hex2 n) :=
  ⟨rfl, ids, (hex2_read small).1⟩

namespace Rust

theorem parse_format {context : TraceContext} (ids : ValidIds context.traceId context.spanId)
    (state : context.tracestate = none) : parseTraceparent (formatTraceparent context) = .ok context := by
  have parts := isTraceparent_format ids context.traceFlags.toNat_lt
  have trimmed : Text.trim (formatTraceparent context) = formatTraceparent context := Text.trim_eq_self _ parts.solid
  refine parseTraceparent_eq_ok_iff.mpr ⟨hex2 context.traceFlags.toNat, ?_, ?_, state⟩
  · rw [trimmed]
    exact parts
  · rw [(hex2_read context.traceFlags.toNat_lt).2, UInt8.ofNat_toNat]

theorem format_parse {header : Text} {context : TraceContext} (parsed : parseTraceparent header = .ok context) :
    formatTraceparent context = Text.trim header := by
  rcases parseTraceparent_eq_ok_iff.mp parsed with ⟨flags, parts, number, _⟩
  have read := read_hex2 parts.flags_hex
  have same : context.traceFlags.toNat = Python.int16 flags := by
    rw [number]
    exact Nat.mod_eq_of_lt read.2.1
  rw [formatTraceparent, same, read.2.2, parts.value_eq]

end Rust

namespace Python

theorem parse_format {context : TraceContext} (ids : ValidIds context.traceId context.spanId)
    (state : context.tracestate = none) : parseTraceparent (formatTraceparent context) = .ok (some context) := by
  have small : context.traceFlags < 256 := Nat.lt_succ_of_le context.traceFlags_le
  have parts := isTraceparent_format ids small
  have stripped : Text.strip (formatTraceparent context) = formatTraceparent context := Text.strip_eq_self _ parts.solid
  refine parseTraceparent_eq_ok_iff.mpr ⟨hex2 context.traceFlags, ?_, (hex2_read small).2.symm, state⟩
  rw [stripped]
  exact parts

theorem format_parse {header : Text} {context : TraceContext} (parsed : parseTraceparent header = .ok (some context)) :
    formatTraceparent context = Text.strip header := by
  rcases parseTraceparent_eq_ok_iff.mp parsed with ⟨flags, parts, number, _⟩
  rw [formatTraceparent, number, (read_hex2 parts.flags_hex).2.2, parts.value_eq]

end Python

/-- A visible ASCII character, a space or a tab. -/
def isFieldChar (c : Char) : Bool :=
  decide (c = '\t') || (decide (32 ≤ c.toNat) && decide (c.toNat ≤ 126))

/-- The languages trim the same from a header value. -/
theorem trim_eq_strip {header : Text} (field : forall c, c ∈ header -> isFieldChar c = true) :
    Text.trim header = Text.strip header := by
  have same : forall c, c ∈ header -> Text.isWhitespace c = Text.isSpace c := by
    intro c member
    have known := field c member
    have separators : (28 ≤ c.toNat && c.toNat ≤ 31) = false := by
      rw [isFieldChar, Bool.or_eq_true, Bool.and_eq_true, decide_eq_true_eq, decide_eq_true_eq, decide_eq_true_eq] at known
      rcases known with rfl | visible
      · rfl
      · rw [Bool.and_eq_false_iff]
        exact Or.inr (decide_eq_false (by omega))
    rw [Text.isWhitespace, separators, Bool.not_false, Bool.and_true]
  have left := Text.dropWhile_congr same
  have right : forall c, c ∈ (header.dropWhile Text.isSpace).reverse -> Text.isWhitespace c = Text.isSpace c :=
    fun c member => same c ((List.dropWhile_suffix _).subset (List.mem_reverse.mp member))
  rw [Text.trim, Text.strip, left, List.rdropWhile, List.rdropWhile, Text.dropWhile_congr right]

/-- The ids and the flags that a parser reads. -/
structure Reading where
  traceId : Text
  spanId : Text
  traceFlags : Nat
  deriving DecidableEq

def Rust.read (header : Text) : Option Reading :=
  match Rust.parseTraceparent header with
  | .ok context =>
      some { traceId := context.traceId, spanId := context.spanId, traceFlags := context.traceFlags.toNat }
  | .error _ => none

def Python.read (header : Text) : Option Reading :=
  match Python.parseTraceparent header with
  | .ok (some context) =>
      some { traceId := context.traceId, spanId := context.spanId, traceFlags := context.traceFlags }
  | _ => none

theorem Rust.read_eq_some_iff {header : Text} {reading : Reading} :
    Rust.read header = some reading <-> Exists fun flags =>
      IsTraceparent (Text.trim header) reading.traceId reading.spanId flags ∧ reading.traceFlags = Python.int16 flags := by
  have number {flags : Text} (hex : IsHex 2 flags) : (UInt8.ofNat (Python.int16 flags)).toNat = Python.int16 flags :=
    Nat.mod_eq_of_lt (read_hex2 hex).2.1
  constructor
  · intro found
    rw [Rust.read] at found
    split at found
    · rename_i context parsed
      cases found
      rcases Rust.parseTraceparent_eq_ok_iff.mp parsed with ⟨flags, parts, same, _⟩
      exact ⟨flags, parts, by rw [same, number parts.flags_hex]⟩
    · cases found
  · rintro ⟨flags, parts, same⟩
    have parsed : Rust.parseTraceparent header = .ok
        { traceId := reading.traceId, spanId := reading.spanId, traceFlags := UInt8.ofNat (Python.int16 flags),
          tracestate := none } := Rust.parseTraceparent_eq_ok_iff.mpr ⟨flags, parts, rfl, rfl⟩
    rw [Rust.read, parsed]
    dsimp only
    rw [number parts.flags_hex, ← same]

theorem Python.read_eq_some_iff {header : Text} {reading : Reading} :
    Python.read header = some reading <-> Exists fun flags =>
      IsTraceparent (Text.strip header) reading.traceId reading.spanId flags ∧ reading.traceFlags = Python.int16 flags := by
  constructor
  · intro found
    rw [Python.read] at found
    split at found
    · rename_i context parsed
      cases found
      rcases Python.parseTraceparent_eq_ok_iff.mp parsed with ⟨flags, parts, same, _⟩
      exact ⟨flags, parts, same⟩
    · cases found
  · rintro ⟨flags, parts, same⟩
    have parsed := Python.parseTraceparent_of_match parts.value_eq parts.ids.trace_hex parts.ids.span_hex parts.flags_hex
    rw [if_neg (not_or.mpr ⟨parts.ids.trace_ne, parts.ids.span_ne⟩)] at parsed
    rw [Python.read, parsed]
    dsimp only
    rw [← same]

/-- A context is read back from its header, a header is written back from what it was read
as, and both languages read one context from a header value. -/
theorem traceparent_codec :
    ((forall context : Rust.TraceContext, ValidIds context.traceId context.spanId -> context.tracestate = none ->
        Rust.parseTraceparent (Rust.formatTraceparent context) = .ok context) ∧
      forall header context, Rust.parseTraceparent header = .ok context ->
        Rust.formatTraceparent context = Text.trim header) ∧
    ((forall context : Python.TraceContext, ValidIds context.traceId context.spanId -> context.tracestate = none ->
        Python.parseTraceparent (Python.formatTraceparent context) = .ok (some context)) ∧
      forall header context, Python.parseTraceparent header = .ok (some context) ->
        Python.formatTraceparent context = Text.strip header) ∧
    forall header, (forall c, c ∈ header -> isFieldChar c = true) -> Rust.read header = Python.read header := by
  refine ⟨⟨fun _ => Rust.parse_format, fun _ _ => Rust.format_parse⟩,
    ⟨fun _ => Python.parse_format, fun _ _ => Python.format_parse⟩, ?_⟩
  intro header field
  ext reading
  rw [Rust.read_eq_some_iff, Python.read_eq_some_iff, trim_eq_strip field]

end Tracing
end ApexQuant
