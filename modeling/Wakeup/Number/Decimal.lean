import Wakeup.Number.Numeral
import Wakeup.Number.Binary64

/-! Numerals for binary numbers: the shortest that is read back, and the reading of any. -/
namespace Wakeup.Binary64

/-- Between the two numbers beside it, half the way to each belongs to a number if its last bit is
zero. -/
def readsBack (x : Binary64) (y : Rat) : Bool :=
  let v := x.magnitude
  let up := (2 : Rat) ^ lastPlace v / 2
  let down := if x.fraction = 0 ∧ 1 < x.exponent then up / 2 else up
  if x.fraction % 2 = 0 then v - down ≤ y && y ≤ v + up else v - down < y && y < v + up

/-- The multiple of `10 ^ k` that is nearest to the number, of those that are read back as it. -/
def onGrid? (x : Binary64) (k : Int) : Option Nat :=
  let unit := (10 : Rat) ^ k
  let scaled := x.magnitude / unit
  let below := scaled.floor.toNat
  let inside (n : Nat) : Bool := x.readsBack (n * unit)
  let upIsNearer := roundHalfEven scaled ≠ below
  if inside (below + 1) ∧ (upIsNearer ∨ ¬ inside below) then some (below + 1)
  else if inside below then some below
  else none

/-- The fewest digits that are read back as the number, which is finite and not zero, and the power
of ten they are multiplied by. -/
def shortest (x : Binary64) : Nat × Int :=
  let top := floorLog10 x.magnitude
  let found := (List.range 17).findSome? fun (n : Nat) => do
    let k : Int := top - n
    return (← x.onGrid? k, k)
  found.getD (0, 0)

/-- Digits that are worth `digits · 10 ^ k`. From `10 ^ -5` up to `10 ^ 16` the point stands in its
place, with a zero where no digit would be beside it. -/
def layOut (negative : Bool) (digits : List Char) (k : Int) : Numeral :=
  let top := digits.length + k - 1
  let zeros (n : Int) := List.replicate n.toNat '0'
  if -5 ≤ top ∧ top ≤ 15 then
    if 0 ≤ k then ⟨negative, Numeral.value (digits ++ zeros k), ['0'], none⟩
    else if 0 ≤ top then
      let (whole, rest) := digits.splitAt (top + 1).toNat
      ⟨negative, Numeral.value whole, rest, none⟩
    else ⟨negative, 0, zeros (-top - 1) ++ digits, none⟩
  else ⟨negative, Numeral.value (digits.take 1), digits.drop 1, some top⟩

/-- The numeral of a finite number. -/
def toNumeral? (x : Binary64) : Option Numeral :=
  if !x.isFinite then none
  else if x.magnitude = 0 then some ⟨x.negative, 0, ['0'], none⟩
  else
    let (n, k) := x.shortest
    let digits := Nat.toDigits 10 n
    let kept := (digits.reverse.dropWhile (· = '0')).reverse
    some (layOut x.negative kept (k + (digits.length - kept.length : Nat)))

end Wakeup.Binary64

namespace Wakeup.Numeral

/-- The leading digits of `whole` that make a number of 64 bits, and how many are left out. -/
def leading64 (whole : Nat) : Nat × Nat :=
  if whole < 18446744073709551616 then (whole, 0)
  else
    let (n, dropped) := leading64 (whole / 10)
    (n, dropped + 1)

/-- Digits after the point are taken up while the number stays within 64 bits; the power of ten
counts them. -/
def takeUp (n : Nat) (power : Int) : List Char → Nat × Int
  | [] => (n, power)
  | d :: ds =>
    let n' := n * 10 + (d.toNat - '0'.toNat)
    if n' < 18446744073709551616 then takeUp n' (power - 1) ds else (n, power)

/-- A number times a power of ten, where each step is rounded: the power itself, the product or the
quotient. Powers below `10 ^ -308` are divided out in turn. -/
def scale? (x : Rat) (power : Int) : Option Rat :=
  if 308 < power then if x = 0 then some 0 else none
  else if power < -308 then
    if x = 0 then some 0
    else (Binary64.nearest? (x / tenTo 308)).bind fun x => scale? x (power + 308)
  else if 0 ≤ power then Binary64.nearest? (x * tenTo power)
  else Binary64.nearest? (x / tenTo (-power))
termination_by power.natAbs
where
  tenTo (k : Int) : Rat := (Binary64.nearest? ((10 : Rat) ^ k)).getD 0

/-- The number a numeral stands for, read from at most 64 bits of its digits; none if it is too
great. The last place can be off by the roundings on the way. -/
def toBinary64? (n : Numeral) : Option Binary64 := do
  let (leading, dropped) := leading64 n.whole
  let (leading, power) := takeUp leading dropped n.fraction
  let x ← scale? (← Binary64.nearest? leading) (power + n.exponent.getD 0)
  return .ofMagnitude n.negative x

end Wakeup.Numeral
