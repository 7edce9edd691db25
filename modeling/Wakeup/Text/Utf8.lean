/-! Bytes as text: UTF-8, with a mark for each stretch of bytes that is not. -/
namespace Wakeup.Text.Utf8

/-- A character that has begun: the value of its bits so far, how many bytes it is owed, and the
bounds of the next one. -/
structure Begun where
  bits : Nat
  owed : Nat
  low : UInt8 := 0x80
  high : UInt8 := 0xBF

/-- What a byte does at the start of a character: it ends a character, ill-formed or not, or begins
one. The bounds keep out overlong forms, surrogates and values past U+10FFFF. -/
def lead (b : UInt8) : Option Char ⊕ Begun :=
  if b < 0x80 then .inl (some (Char.ofNat b.toNat))
  else if b < 0xC2 then .inl none
  else if b < 0xE0 then .inr { bits := b.toNat - 0xC0, owed := 1 }
  else if b = 0xE0 then .inr { bits := 0, owed := 2, low := 0xA0 }
  else if b = 0xED then .inr { bits := 0xD, owed := 2, high := 0x9F }
  else if b < 0xF0 then .inr { bits := b.toNat - 0xE0, owed := 2 }
  else if b = 0xF0 then .inr { bits := 0, owed := 3, low := 0x90 }
  else if b < 0xF4 then .inr { bits := b.toNat - 0xF0, owed := 3 }
  else if b = 0xF4 then .inr { bits := 4, owed := 3, high := 0x8F }
  else .inl none

/-- A further byte of a character that has begun. -/
def Begun.add (p : Begun) (b : UInt8) : Option Char ⊕ Begun :=
  let bits := p.bits * 64 + (b.toNat - 0x80)
  if p.owed = 1 then .inl (some (Char.ofNat bits)) else .inr { bits, owed := p.owed - 1 }

/-- The characters of a byte sequence, latest first. A byte that cannot go on with what has begun
is read afresh, and what had begun counts as one ill-formed character. -/
def decodeOnto (out : List (Option Char)) : Option Begun → List UInt8 → List (Option Char)
  | none, [] => out
  | some _, [] => none :: out
  | none, b :: bs =>
    match lead b with
    | .inl c => decodeOnto (c :: out) none bs
    | .inr p => decodeOnto out (some p) bs
  | some p, b :: bs =>
    if p.low ≤ b && b ≤ p.high then
      match p.add b with
      | .inl c => decodeOnto (c :: out) none bs
      | .inr p => decodeOnto out (some p) bs
    else
      match lead b with
      | .inl c => decodeOnto (c :: none :: out) none bs
      | .inr p => decodeOnto (none :: out) (some p) bs

/-- The characters of a byte sequence; `none` stands for a longest run of bytes that begins a
character and does not end it, or for a byte that begins none. -/
def decode (bs : List UInt8) : List (Option Char) := (decodeOnto [] none bs).reverse

/-- The bytes as a text, with U+FFFD for what is ill-formed. -/
def lossy (bs : List UInt8) : String :=
  String.ofList ((decode bs).map (·.getD '\uFFFD'))

end Wakeup.Text.Utf8
