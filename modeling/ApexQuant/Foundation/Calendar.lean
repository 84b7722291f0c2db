import ApexQuant.Foundation.Numerals

namespace ApexQuant
namespace Foundation

/-!
# The proleptic Gregorian calendar

Days are numbered from 1, the first of January of year 1.  `toDate` is the
division chain by which the standard libraries find the date of a day: cycles
of 400, 100, 4 and 1 years, then the month within the year.  `toOrdinal` counts
the days before a date.  The second undoes the first, so that a day is
determined by its date.
-/

namespace Calendar

/-- A date, with the day of the month counted from 1. -/
@[ext]
structure Date where
  year : Nat
  month : Nat
  day : Nat
  deriving DecidableEq, Repr

def isLeap (year : Nat) : Bool :=
  year % 4 == 0 && (year % 100 != 0 || year % 400 == 0)

/-- The days of a common year before the given month. -/
def daysBeforeMonth : Nat -> Nat
  | 1 => 0
  | 2 => 31
  | 3 => 59
  | 4 => 90
  | 5 => 120
  | 6 => 151
  | 7 => 181
  | 8 => 212
  | 9 => 243
  | 10 => 273
  | 11 => 304
  | 12 => 334
  | _ => 365

/-- The days before the given month, with the leap day where it falls. -/
def daysBefore (leap : Bool) (month : Nat) : Nat :=
  daysBeforeMonth month + if 2 < month && leap then 1 else 0

def daysBeforeYear (year : Nat) : Nat :=
  (year - 1) * 365 + (year - 1) / 4 - (year - 1) / 100 + (year - 1) / 400

def Date.toOrdinal (date : Date) : Nat :=
  daysBeforeYear date.year + daysBefore (isLeap date.year) date.month + date.day

/-- The month that holds the given day of the year, both counted as in the
libraries: an estimate that is at most one month late. -/
def monthOf (leap : Bool) (dayOfYear : Nat) : Nat :=
  let month := (dayOfYear + 50) / 32
  if dayOfYear < daysBefore leap month then month - 1 else month

def toDate (ordinal : Nat) : Date :=
  let n := ordinal - 1
  let n400 := n / 146097
  let n := n % 146097
  let n100 := n / 36524
  let n := n % 36524
  let n4 := n / 1461
  let n := n % 1461
  let n1 := n / 365
  let n := n % 365
  let year := n400 * 400 + 1 + n100 * 100 + n4 * 4 + n1
  if n1 = 4 ∨ n100 = 4 then { year := year - 1, month := 12, day := 31 }
  else
    let leap := n1 == 3 && (n4 != 24 || n100 == 3)
    let month := monthOf leap n
    { year := year, month := month, day := n - daysBefore leap month + 1 }

/-- Within a year the month starts no later than the day, and the date stays in
two digits. -/
theorem monthOf_spec (leap : Bool) {dayOfYear : Nat} (inside : dayOfYear < 365) :
    daysBefore leap (monthOf leap dayOfYear) ≤ dayOfYear ∧ monthOf leap dayOfYear ≤ 12 ∧
      dayOfYear - daysBefore leap (monthOf leap dayOfYear) < 31 := by
  have table : forall leap, forall n, n < 365 -> daysBefore leap (monthOf leap n) ≤ n ∧ monthOf leap n ≤ 12 ∧
      n - daysBefore leap (monthOf leap n) < 31 := by decide +kernel
  exact table leap dayOfYear inside

/-- The leap rule in terms of the cycles of the division chain. -/
theorem isLeap_cycles {n400 n100 n4 n1 : Nat} (century : n100 < 4) (quad : n4 < 25) (single : n1 < 4) :
    isLeap (n400 * 400 + 1 + n100 * 100 + n4 * 4 + n1) = (n1 == 3 && (n4 != 24 || n100 == 3)) := by
  rw [Bool.eq_iff_iff]
  simp only [isLeap, Bool.and_eq_true, Bool.or_eq_true, beq_iff_eq, bne_iff_ne, ne_eq]
  omega

theorem daysBeforeYear_cycles {n400 n100 n4 n1 : Nat} (century : n100 < 4) (quad : n4 < 25) (single : n1 < 4) :
    daysBeforeYear (n400 * 400 + 1 + n100 * 100 + n4 * 4 + n1) =
      n400 * 146097 + n100 * 36524 + n4 * 1461 + n1 * 365 := by
  rw [daysBeforeYear]
  omega

/-- The last day of a leap year, which is what ends a 4-year and a 400-year cycle. -/
theorem toOrdinal_lastDay {year : Nat} (leap : isLeap year = true) :
    ({ year := year, month := 12, day := 31 } : Date).toOrdinal = daysBeforeYear year + 366 := by
  rw [Date.toOrdinal, leap]
  rfl

theorem daysBeforeYear_fourth {n400 n100 n4 : Nat} (century : n100 < 4) (quad : n4 < 24) :
    daysBeforeYear (n400 * 400 + 1 + n100 * 100 + n4 * 4 + 4 - 1) =
      n400 * 146097 + n100 * 36524 + n4 * 1461 + 1095 := by
  have shifted : n400 * 400 + 1 + n100 * 100 + n4 * 4 + 4 - 1 = n400 * 400 + 1 + n100 * 100 + n4 * 4 + 3 := by omega
  rw [shifted, daysBeforeYear_cycles century (by omega) (by decide)]

/-- The division chain loses nothing: the last days of a 4-year and of a
400-year cycle are the two that it reaches with a full quotient. -/
theorem toOrdinal_toDate {ordinal : Nat} (positive : 0 < ordinal) : (toDate ordinal).toOrdinal = ordinal := by
  rw [toDate]
  split
  · rename_i last
    obtain ⟨n400, shape⟩ : Exists fun n400 => (ordinal - 1) / 146097 = n400 := ⟨_, rfl⟩
    rcases last with four | century
    · -- a full 4-year cycle never closes a century
      obtain ⟨n4, quad⟩ : Exists fun n4 => (ordinal - 1) % 146097 % 36524 / 1461 = n4 := ⟨_, rfl⟩
      obtain ⟨n100, cent⟩ : Exists fun n100 => (ordinal - 1) % 146097 / 36524 = n100 := ⟨_, rfl⟩
      have early : n4 < 24 := by omega
      have inside : n100 < 4 := by omega
      rw [shape, four, quad, cent, toOrdinal_lastDay]
      · rw [daysBeforeYear_fourth inside early]
        omega
      · simp only [isLeap, Bool.and_eq_true, Bool.or_eq_true, beq_iff_eq, bne_iff_ne, ne_eq]
        omega
    · have quad : (ordinal - 1) % 146097 % 36524 / 1461 = 0 := by omega
      have single : (ordinal - 1) % 146097 % 36524 % 1461 / 365 = 0 := by omega
      rw [shape, century, quad, single, toOrdinal_lastDay]
      · rw [daysBeforeYear]
        omega
      · simp only [isLeap, Bool.and_eq_true, Bool.or_eq_true, beq_iff_eq, bne_iff_ne, ne_eq]
        omega
  · rename_i inner
    rw [not_or] at inner
    have century : (ordinal - 1) % 146097 / 36524 < 4 := by omega
    have quad : (ordinal - 1) % 146097 % 36524 / 1461 < 25 := by omega
    have single : (ordinal - 1) % 146097 % 36524 % 1461 / 365 < 4 := by omega
    have started := (monthOf_spec
      ((ordinal - 1) % 146097 % 36524 % 1461 / 365 == 3 &&
        ((ordinal - 1) % 146097 % 36524 / 1461 != 24 || (ordinal - 1) % 146097 / 36524 == 3))
      (Nat.mod_lt ((ordinal - 1) % 146097 % 36524 % 1461) (by decide : 0 < 365))).1
    simp only [Date.toOrdinal, daysBeforeYear_cycles century quad single, isLeap_cycles century quad single]
    omega

/-- Every date of the first 9999 years fits four, two and two digits. -/
theorem toDate_bounds {ordinal : Nat} (latest : ordinal ≤ 3652059) :
    (toDate ordinal).year < 10000 ∧ (toDate ordinal).month < 100 ∧ (toDate ordinal).day < 100 := by
  rw [toDate]
  split
  · refine ⟨?_, Nat.lt_of_sub_eq_succ rfl, Nat.lt_of_sub_eq_succ rfl⟩
    dsimp only
    omega
  · have spec := monthOf_spec
      ((ordinal - 1) % 146097 % 36524 % 1461 / 365 == 3 &&
        ((ordinal - 1) % 146097 % 36524 / 1461 != 24 || (ordinal - 1) % 146097 / 36524 == 3))
      (Nat.mod_lt ((ordinal - 1) % 146097 % 36524 % 1461) (by decide : 0 < 365))
    refine ⟨?_, ?_, ?_⟩
    · dsimp only
      omega
    · exact lt_of_le_of_lt spec.2.1 (by decide)
    · dsimp only
      omega

/-- A day is determined by its date. -/
theorem toDate_injective {a b : Nat} (positive : 0 < a) (positive' : 0 < b) (same : toDate a = toDate b) : a = b := by
  rw [← toOrdinal_toDate positive, same, toOrdinal_toDate positive']

end Calendar
end Foundation
end ApexQuant
