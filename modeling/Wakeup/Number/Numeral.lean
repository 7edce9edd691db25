/-! Decimal numerals: how a number is spelled, apart from what it is worth. -/
namespace Wakeup

/-- Digits in front of a point, digits after it, and a power of ten. Without a point `fraction` is
empty. -/
structure Numeral where
  negative : Bool
  whole : Nat
  fraction : List Char
  exponent : Option Int
  deriving DecidableEq, Repr

namespace Numeral

def ofInt (i : Int) : Numeral := ⟨i < 0, i.natAbs, [], none⟩

/-- The whole number that is meant by digits alone; minus zero is none. -/
def int? (n : Numeral) : Option Int :=
  if n.fraction = [] ∧ n.exponent = none ∧ ¬ (n.negative ∧ n.whole = 0) then
    some (if n.negative then -n.whole else n.whole)
  else none

def spellExponent (e : Int) : List Char :=
  'e' :: (if e < 0 then '-' else '+') :: Nat.toDigits 10 e.natAbs

def spell (n : Numeral) : List Char :=
  (if n.negative then ['-'] else []) ++ Nat.toDigits 10 n.whole ++
    (if n.fraction = [] then [] else '.' :: n.fraction) ++ n.exponent.elim [] spellExponent

/-- The digits at the front of a text, at least one, and the rest. -/
def digits? (s : List Char) : Option (List Char × List Char) :=
  let ds := s.takeWhile Char.isDigit
  if ds = [] then none else some (ds, s.dropWhile Char.isDigit)

def value (ds : List Char) : Nat := Nat.ofDigitChars 10 ds 0

def sign : List Char → Bool × List Char
  | '-' :: s => (true, s)
  | s => (false, s)

def fraction? : List Char → Option (List Char × List Char)
  | '.' :: s => digits? s
  | s => some ([], s)

/-- The power of ten that ends a numeral. -/
def exponent? : List Char → Option (Option Int)
  | [] => some none
  | e :: s => do
    guard (e = 'e' ∨ e = 'E')
    let (negative, s) := match s with
      | '+' :: s => (false, s)
      | s => sign s
    let (ds, []) ← digits? s | none
    return some (if negative then -value ds else value ds)

/-- A numeral has no zero in front of another digit, and digits on both sides of a point. -/
def read? (s : List Char) : Option Numeral := do
  let (negative, s) := sign s
  let (whole, s) ← digits? s
  guard (whole.length = 1 ∨ whole.head? ≠ some '0')
  let (fraction, s) ← fraction? s
  return ⟨negative, value whole, fraction, ← exponent? s⟩

end Numeral
end Wakeup
