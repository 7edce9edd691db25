/-! Dates of the proleptic Gregorian calendar and their distance in days from 1970-01-01. -/
namespace Wakeup

/-- A year, a month and a day. Only some of these triples are dates of the calendar. -/
structure Date where
  year : Int
  month : Nat
  day : Nat
  deriving DecidableEq, Repr

namespace Date

def IsLeapYear (y : Int) : Prop := y % 4 = 0 ∧ (y % 100 ≠ 0 ∨ y % 400 = 0)

instance : DecidablePred IsLeapYear := fun _ => inferInstanceAs (Decidable (_ ∧ _))

def yearLength (y : Int) : Nat := if IsLeapYear y then 366 else 365

/-- Lengths of the months, January first. -/
def monthLengths (y : Int) : List Nat :=
  [31, if IsLeapYear y then 29 else 28, 31, 30, 31, 30, 31, 31, 30, 31, 30, 31]

/-- The calendar has this date. -/
def Valid (d : Date) : Prop :=
  1 ≤ d.month ∧ 1 ≤ d.day ∧ ∃ n ∈ (monthLengths d.year)[d.month - 1]?, d.day ≤ n

instance (d : Date) : Decidable d.Valid :=
  inferInstanceAs (Decidable (_ ∧ _ ∧ ∃ n ∈ (monthLengths d.year)[d.month - 1]?, d.day ≤ n))

/-- Days from 0001-01-01 to the first day of year `y`. -/
def daysBeforeYear (y : Int) : Int :=
  365 * (y - 1) + (y - 1) / 4 - (y - 1) / 100 + (y - 1) / 400

/-- Days from the first day of the year to the first day of month `m`. -/
def daysBeforeMonth (y : Int) (m : Nat) : Nat := ((monthLengths y).take (m - 1)).foldr (· + ·) 0

/-- Days from 0001-01-01 to 1970-01-01. -/
def epoch : Int := 719162

/-- Days from 1970-01-01 to the date. -/
def toDays (d : Date) : Int :=
  daysBeforeYear d.year + daysBeforeMonth d.year d.month + d.day - 1 - epoch

/-- The year that day `n` after 0001-01-01 lies in. Full groups of 400, 100, 4 and 1 years are
taken off in turn; the last century of a cycle and the last year of a group are a day longer. -/
def yearOfDay (n : Int) : Int :=
  let inCycle := n % 146097
  let century := min (inCycle / 36524) 3
  let inCentury := inCycle - 36524 * century
  let inGroup := inCentury % 1461
  400 * (n / 146097) + 100 * century + 4 * (inCentury / 1461) + min (inGroup / 365) 3 + 1

/-- The month and day that day `k` of a year is, by the lengths of the months from month `m` on. -/
def walkMonths (m k : Nat) : List Nat → Nat × Nat
  | [] => (m, k + 1)
  | n :: rest => if k < n then (m, k + 1) else walkMonths (m + 1) (k - n) rest

/-- The date `n` days from 1970-01-01. -/
def ofDays (n : Int) : Date :=
  let y := yearOfDay (n + epoch)
  let (m, d) := walkMonths 1 (n + epoch - daysBeforeYear y).toNat (monthLengths y)
  ⟨y, m, d⟩

end Date
end Wakeup
