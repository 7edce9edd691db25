/-! Readers take a value off the front of a text, or fail. -/
namespace Wakeup.Text

abbrev Reader := StateT (List Char) Option

namespace Reader

/-- The whole text is one value. -/
def readAll (r : Reader α) (s : List Char) : Option α :=
  match r.run s with
  | some (a, []) => some a
  | _ => none

/-- One character of a class. -/
def one (p : Char → Bool) : Reader Char
  | c :: s => if p c then some (c, s) else none
  | [] => none

/-- The text `w` itself. -/
def literal (w : List Char) : Reader Unit := fun s =>
  if w.isPrefixOf s then some ((), s.drop w.length) else none

def skip (p : Char → Bool) : Reader Unit := fun s => some ((), s.dropWhile p)

/-- The next character, left where it is. -/
def peek? : Reader (Option Char) := fun s => some (s.head?, s)

/-- The longest run of digits, `most` at the most. -/
def digitRun (most : Option Nat) : Reader (List Char) := fun s =>
  let ds := (most.elim s s.take).takeWhile Char.isDigit
  some (ds, s.drop ds.length)

def ofDigits (ds : List Char) : Nat := Nat.ofDigitChars 10 ds 0

/-- A number of one digit or more, `most` at the most. -/
def number (most : Option Nat) : Reader Nat := do
  let ds ← digitRun most
  guard (ds ≠ [])
  return ofDigits ds

/-- Exactly `n` decimal digits. -/
def digits (n : Nat) : Reader Nat := do
  let ds ← digitRun (some n)
  guard (ds.length = n)
  return ofDigits ds

end Reader
end Wakeup.Text
