import Wakeup.Json.Basic
import Wakeup.Text.Hexadecimal

/-! The tokens of JSON text: how each is spelled, and how it is read off the front of a text. -/
namespace Wakeup.Json

inductive Token where
  | openArray | closeArray | openObject | closeObject | comma | colon
  | null
  | bool (b : Bool)
  | number (n : Numeral)
  | text (s : Option String)
  deriving DecidableEq, Repr

/-- A character of the input, or bytes that are none. -/
abbrev Glyph := Option Char

namespace Token

/-- Inside quotes only the quote, the backslash and control characters are escaped. -/
def escapedChar (c : Char) : List Char :=
  match c with
  | '"' => ['\\', '"']
  | '\\' => ['\\', '\\']
  | '\x08' => ['\\', 'b']
  | '\x0c' => ['\\', 'f']
  | '\n' => ['\\', 'n']
  | '\r' => ['\\', 'r']
  | '\t' => ['\\', 't']
  | c =>
    if c.toNat < 0x20 then
      ['\\', 'u', '0', '0', Nat.digitChar (c.toNat / 16), Nat.digitChar (c.toNat % 16)]
    else [c]

/-- The characters of a token. A text that has no value is shown as a replacement character. -/
def spell : Token → List Char
  | openArray => ['[']
  | closeArray => [']']
  | openObject => ['{']
  | closeObject => ['}']
  | comma => [',']
  | colon => [':']
  | null => ['n', 'u', 'l', 'l']
  | bool true => ['t', 'r', 'u', 'e']
  | bool false => ['f', 'a', 'l', 's', 'e']
  | number n => n.spell
  | text s => '"' :: (s.getD "\uFFFD").toList.flatMap escapedChar ++ ['"']

/-- A piece of quoted text: a character, or a 16-bit unit that was written in hexadecimal. -/
inductive Piece where
  | glyph (g : Glyph)
  | unit (n : Nat)

def hexUnit? (gs : List Glyph) : Option Nat :=
  gs.foldlM (fun n g => do return n * 16 + (← Text.hexDigit? (← g))) 0

def unescape? : Glyph → Option Char
  | some '"' => some '"'
  | some '\\' => some '\\'
  | some '/' => some '/'
  | some 'b' => some '\x08'
  | some 'f' => some '\x0c'
  | some 'n' => some '\n'
  | some 'r' => some '\r'
  | some 't' => some '\t'
  | _ => none

def isControl (g : Glyph) : Bool := g.any (·.toNat < 0x20)

/-- The pieces up to the closing quote, and what follows it. -/
def pieces? (out : List Piece) : List Glyph → Option (List Piece × List Glyph)
  | [] => none
  | some '"' :: s => some (out.reverse, s)
  | some '\\' :: some 'u' :: a :: b :: c :: d :: s =>
    match hexUnit? [a, b, c, d] with
    | some n => pieces? (.unit n :: out) s
    | none => none
  | some '\\' :: e :: s =>
    match unescape? e with
    | some c => pieces? (.glyph (some c) :: out) s
    | none => none
  | g :: s => if isControl g ∨ g = some '\\' then none else pieces? (.glyph g :: out) s

def isHighSurrogate (n : Nat) : Bool := 0xD800 ≤ n && n < 0xDC00
def isLowSurrogate (n : Nat) : Bool := 0xDC00 ≤ n && n < 0xE000

/-- The text that pieces make up, latest first, onto what is made already. Two surrogates, high
then low, are one character, and neither stands alone. -/
def joinOnto (out : List Char) : List Piece → Option (List Char)
  | [] => some out
  | .glyph (some c) :: ps => joinOnto (c :: out) ps
  | .glyph none :: _ => none
  | .unit h :: .unit l :: ps =>
    if isHighSurrogate h then
      if isLowSurrogate l then
        joinOnto (Char.ofNat (0x10000 + (h - 0xD800) * 0x400 + (l - 0xDC00)) :: out) ps
      else none
    else if isLowSurrogate h then none
    else joinOnto (Char.ofNat h :: out) (.unit l :: ps)
  | .unit h :: ps =>
    if isHighSurrogate h ∨ isLowSurrogate h then none else joinOnto (Char.ofNat h :: out) ps

def join (ps : List Piece) : Option String :=
  (joinOnto [] ps).map fun cs => String.ofList cs.reverse

def isNumberGlyph (g : Glyph) : Bool :=
  g.any fun c => c.isDigit || c = '-' || c = '+' || c = '.' || c = 'e' || c = 'E'

/-- The token at the front of a text, and the rest. -/
def next? : List Glyph → Option (Token × List Glyph)
  | some '[' :: s => some (openArray, s)
  | some ']' :: s => some (closeArray, s)
  | some '{' :: s => some (openObject, s)
  | some '}' :: s => some (closeObject, s)
  | some ',' :: s => some (comma, s)
  | some ':' :: s => some (colon, s)
  | some 'n' :: some 'u' :: some 'l' :: some 'l' :: s => some (null, s)
  | some 't' :: some 'r' :: some 'u' :: some 'e' :: s => some (bool true, s)
  | some 'f' :: some 'a' :: some 'l' :: some 's' :: some 'e' :: s => some (bool false, s)
  | some '"' :: s => (pieces? [] s).map fun (ps, s) => (text (join ps), s)
  | g :: s =>
    if isNumberGlyph g then
      (Numeral.read? ((g :: s.takeWhile isNumberGlyph).filterMap id)).map fun n =>
        (number n, s.dropWhile isNumberGlyph)
    else none
  | [] => none

theorem pieces?_length {out ps : List Piece} {s r : List Glyph} (h : pieces? out s = some (ps, r)) :
    r.length < s.length := by
  fun_induction pieces? out s <;> simp_all <;> omega

theorem next?_length {s r : List Glyph} {t : Token} (h : next? s = some (t, r)) :
    r.length < s.length := by
  unfold next? at h
  split at h <;> simp_all <;> try (obtain ⟨rfl, rfl⟩ := h; omega)
  · obtain ⟨ps, h, _⟩ := h
    have := pieces?_length h
    omega
  · obtain ⟨_, _, _, _, rfl⟩ := h
    have := (List.dropWhile_suffix isNumberGlyph (l := ‹List Glyph›)).length_le
    omega

def isBlank (g : Glyph) : Bool := g.any fun c => c = ' ' || c = '\n' || c = '\t' || c = '\r'

/-- The tokens of a whole text, onto those before it, latest first. -/
def scanOnto (out : List Token) (s : List Glyph) : Option (List Token) :=
  match s with
  | [] => some out
  | g :: s =>
    if isBlank g then scanOnto out s
    else match h : next? (g :: s) with
      | some (t, r) =>
        have := next?_length h
        scanOnto (t :: out) r
      | none => none
termination_by s.length
decreasing_by all_goals simp only [List.length_cons] at *; omega

/-- The tokens of a text; blanks between them are skipped. -/
def scan? (s : List Glyph) : Option (List Token) := (scanOnto [] s).map List.reverse

end Token
end Wakeup.Json
