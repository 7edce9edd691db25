import Wakeup.Domain.Name
import Wakeup.Text.Utf8

/-! Hosts of web addresses: names, and numbers of 32 or 128 bits. -/
namespace Wakeup.Events.Host

open Text

/-- A number to the base that its first characters tell: sixteen, eight or ten. -/
def number? : List Char → Option Nat
  | [] => none
  | '0' :: 'x' :: s | '0' :: 'X' :: s => if s.all isHexDigit then some (digitsValue 16 s) else none
  | '0' :: s => if s.all fun c => '0' ≤ c && c ≤ '7' then some (digitsValue 8 s) else none
  | s => if s.all Char.isDigit then some (digitsValue 10 s) else none

/-- What the last of so many numbers stays below: it fills the bytes that are left. -/
def lastBound : Nat → Nat
  | 1 => 4294967296
  | 2 => 16777216
  | 3 => 65536
  | 4 => 256
  | _ => 0

/-- Up to four numbers, each a byte but the last. -/
def isShort (labels : List (List Char)) : Bool :=
  match labels.mapM number? with
  | some ns => ns.dropLast.all (· < 256) && ns.getLast?.any (· < lastBound ns.length)
  | none => false

/-- A byte in decimal without a zero in front. -/
def isByte (s : List Char) : Bool :=
  s ≠ [] && s.all Char.isDigit && (s.length = 1 || s.head? ≠ some '0') && digitsValue 10 s < 256

def isGroup (s : List Char) : Bool := 1 ≤ s.length && s.length ≤ 4 && s.all isHexDigit

/-- How many units of 16 bits groups make up. In place of the last two, four bytes may stand. -/
def units? : List (List Char) → Option Nat
  | [] => some 0
  | [g] =>
    if isGroup g then some 1
    else if (parts '.' g).length = 4 ∧ (parts '.' g).all isByte then some 2
    else none
  | g :: gs => if isGroup g then (units? gs).map (· + 1) else none

/-- The text in front of the first two colons in a row and the text behind them. -/
def gap? : List Char → Option (List Char × List Char)
  | ':' :: ':' :: s => some ([], s)
  | c :: s => (gap? s).map fun (a, b) => (c :: a, b)
  | [] => none

def groups (s : List Char) : List (List Char) := if s = [] then [] else parts ':' s

/-- Eight units, or less and one gap. -/
def isLong (s : List Char) : Bool :=
  match gap? s with
  | none => units? (groups s) = some 8
  | some (a, b) =>
    (groups a).all isGroup && (units? (groups b)).any fun n => (groups a).length + n ≤ 7

/-- Bytes of a text in which a percent sign and two hexadecimal digits stand for a byte. -/
def unescaped : List Char → List UInt8
  | [] => []
  | c :: s =>
    match c, s with
    | '%', a :: b :: rest =>
      match hexDigit? a, hexDigit? b with
      | some x, some y => .ofNat (16 * x + y) :: unescaped rest
      | _, _ => 0x25 :: unescaped (a :: b :: rest)
    | c, s => String.utf8EncodeChar c ++ unescaped s

/-- Neither controls nor marks that part an address. -/
def isNameChar (c : Char) : Bool :=
  ' ' < c && c ≠ '\x7f' &&
    c ∉ ['#', '%', '/', ':', '<', '>', '?', '@', '[', '\\', ']', '^', '|']

/-- A name is a domain name of such characters. If its last label is a number, then it is a number
as a whole. -/
def isName (s : List Char) : Bool :=
  match Domain.labels? ((Utf8.decode (unescaped s)).map (·.getD '\uFFFD')) with
  | none => false
  | some labels =>
    let numbered :=
      if 1 < labels.length ∧ labels.getLast? = some [] then labels.dropLast else labels
    let last := numbered.getLast?.getD []
    labels ≠ [[]] && labels.all (·.all isNameChar) &&
      (isShort numbered || ((number? last).isNone && !(last ≠ [] && last.all Char.isDigit)))

/-- Hosts of addresses that say nothing of domain names are texts without these characters. -/
def isOpaque (s : List Char) : Bool :=
  s.all (· ∉ ['\x00', '\t', '\n', '\r', ' ', '#', '/', ':', '<', '>', '?', '@', '[', '\\', ']',
    '^', '|'])

/-- A long number in brackets, or else what `other` takes for a host. -/
def isLongOr (other : List Char → Bool) (s : List Char) : Bool :=
  if s.head? = some '[' then s.getLast? = some ']' && isLong (s.drop 1).dropLast else other s

end Host

/-- A host is a name or a short number, or a long number in brackets. -/
def isHost (s : List Char) : Bool := Host.isLongOr Host.isName s

end Wakeup.Events
