/-! Rounding rational numbers. -/
namespace Wakeup

/-- The nearest whole number, and of two the even one. -/
def roundHalfEven (x : Rat) : Int :=
  let below := x.floor
  let rest := x - below
  if rest < 1 / 2 ∨ rest = 1 / 2 ∧ below % 2 = 0 then below else below + 1

/-- The greatest `k` with `2 ^ k ≤ x`, for positive `x`. The lengths of numerator and denominator
leave two candidates. -/
def floorLog2 (x : Rat) : Int :=
  let k : Int := x.num.natAbs.log2 - x.den.log2
  if (2 : Rat) ^ k ≤ x then k else k - 1

/-- The greatest `k` with `10 ^ k ≤ x`, for positive `x`, from the number of digits of `x` or of
its inverse. -/
def floorLog10 (x : Rat) : Int :=
  if 1 ≤ x then (Nat.toDigits 10 x.floor.toNat).length - 1
  else -(Nat.toDigits 10 (-(-x⁻¹).floor - 1).toNat).length

end Wakeup
