import Wakeup.Number.Rounding

/-! Binary floating point of 64 bits: what the bits are worth, and rounding to what they can
hold. -/
namespace Wakeup

/-- A sign, eleven bits of exponent and fifty-two of fraction. -/
structure Binary64 where
  bits : UInt64
  deriving DecidableEq, Repr

namespace Binary64

def negative (x : Binary64) : Bool := 9223372036854775808 ≤ x.bits.toNat
def exponent (x : Binary64) : Nat := x.bits.toNat / 4503599627370496 % 2048
def fraction (x : Binary64) : Nat := x.bits.toNat % 4503599627370496

def isFinite (x : Binary64) : Bool := x.exponent ≠ 2047
def isNaN (x : Binary64) : Bool := x.exponent = 2047 && x.fraction ≠ 0

/-- The distance from zero of a finite number. -/
def magnitude (x : Binary64) : Rat :=
  if x.exponent = 0 then x.fraction * (2 : Rat) ^ (-1074 : Int)
  else (4503599627370496 + x.fraction) * (2 : Rat) ^ ((x.exponent : Int) - 1075)

/-- The value if it is above zero and else zero, also for what is no number. Infinity has none. -/
def positivePart? (x : Binary64) : Option Rat :=
  if x.isNaN ∨ x.negative then some 0
  else if x.isFinite then some x.magnitude
  else none

/-- Equal values: both zeros are one, and what is no number equals nothing. -/
def sameValue (x y : Binary64) : Bool :=
  !x.isNaN && !y.isNaN &&
    (x = y || (x.isFinite && y.isFinite && x.magnitude = 0 && y.magnitude = 0))

/-- The exponent of the last place that a number of this size keeps: 53 bits, and none below
`2 ^ -1074`. -/
def lastPlace (x : Rat) : Int := max (floorLog2 x - 52) (-1074)

/-- The nearest value that is kept, for `x` not below zero; of two, the one whose last bit is zero.
There is none from `2 ^ 1024` on. -/
def nearest? (x : Rat) : Option Rat :=
  if x ≤ 0 then some 0
  else
    let unit := (2 : Rat) ^ lastPlace x
    let y := roundHalfEven (x / unit) * unit
    if y < (2 : Rat) ^ (1024 : Int) then some y else none

/-- The number with a given sign and a distance from zero that is kept exactly. -/
def ofMagnitude (negative : Bool) (x : Rat) : Binary64 :=
  let sign := if negative then 9223372036854775808 else 0
  if x ≤ 0 then ⟨.ofNat sign⟩
  else
    let place := lastPlace x
    let m := (x / (2 : Rat) ^ place).floor.toNat
    if m < 4503599627370496 then ⟨.ofNat (sign + m)⟩
    else ⟨.ofNat (sign + (place + 1074).toNat * 4503599627370496 + m)⟩

end Binary64
end Wakeup
