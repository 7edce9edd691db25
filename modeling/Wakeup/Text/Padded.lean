/-! Decimal numbers written to a least width. -/
namespace Wakeup.Text

/-- Zeros on the left up to `width` characters. -/
def zeros (width : Nat) (s : List Char) : List Char :=
  List.replicate (width - s.length) '0' ++ s

/-- The decimal digits of `n`, at least `width` of them. -/
def padded (width n : Nat) : List Char := zeros width (Nat.toDigits 10 n)

/-- A sign counts towards the width; a number that is not negative has none. -/
def paddedInt (width : Nat) : Int → List Char
  | .ofNat n => padded width n
  | .negSucc n => '-' :: padded (width - 1) (n + 1)

end Wakeup.Text
