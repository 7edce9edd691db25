/-! Hexadecimal digits, of either case. -/
namespace Wakeup.Text

def isHexDigit (c : Char) : Bool :=
  c.isDigit || ('a' ≤ c && c ≤ 'f') || ('A' ≤ c && c ≤ 'F')

def hexDigit? (c : Char) : Option Nat :=
  if c.isDigit then some (c.toNat - '0'.toNat)
  else if 'a' ≤ c ∧ c ≤ 'f' then some (c.toNat - 'a'.toNat + 10)
  else if 'A' ≤ c ∧ c ≤ 'F' then some (c.toNat - 'A'.toNat + 10)
  else none

/-- The number that digits to a base make. -/
def digitsValue (base : Nat) (s : List Char) : Nat :=
  s.foldl (fun n c => n * base + (hexDigit? c).getD 0) 0

end Wakeup.Text
