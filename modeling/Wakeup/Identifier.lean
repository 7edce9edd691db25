import Wakeup.Blake2b
import Wakeup.Text.Hexadecimal
import Wakeup.Text.Parts

/-! Identifiers in the grouping 8-4-4-4-12 of hexadecimal digits. -/
namespace Wakeup.Identifier

open Text

def hexByte (b : UInt8) : List Char :=
  [Nat.digitChar (b.toNat / 16), Nat.digitChar (b.toNat % 16)]

/-- Sixteen bytes in lowercase, with a hyphen behind the fourth, sixth, eighth and tenth. -/
def spell (bytes : Vector UInt8 16) : String :=
  let group (first count : Nat) := (bytes.toList.drop first |>.take count).flatMap hexByte
  String.ofList (group 0 4 ++ '-' :: group 4 2 ++ '-' :: group 6 2 ++ '-' :: group 8 2 ++
    '-' :: group 10 6)

/-- Version 4 and the standard variant are written over six of the bits. -/
def mark (bytes : Vector UInt8 16) : Vector UInt8 16 :=
  Vector.ofFn fun i : Fin 16 =>
    if i.val = 6 then bytes.get i &&& 0x0f ||| 0x40
    else if i.val = 8 then bytes.get i &&& 0x3f ||| 0x80
    else bytes.get i

/-- The identifier that sixteen random bytes make. -/
def ofRandom (bytes : Vector UInt8 16) : String := spell (mark bytes)

def littleEndian (n : UInt64) : List UInt8 :=
  (List.range 8).map fun i => (n >>> .ofNat (8 * i)).toUInt8

/-- What is hashed for a key and a seed. -/
def message (key : String) (seed : UInt64) : List UInt8 :=
  key.toUTF8.toList ++ littleEndian seed

/-- The identifier of a key: the same key and seed give the same one. -/
def ofKey (key : String) (seed : UInt64) : String :=
  let digest := Blake2b.digest (message key seed)
  spell (mark (Vector.ofFn fun i : Fin 16 => digest[i.val]))

/-- Hexadecimal digits that take `n` bytes. -/
def isGroup (n : Nat) (s : List Char) : Bool :=
  let bytes := (String.ofList s).toUTF8.toList
  bytes.length = n && bytes.all fun b => isHexDigit (.ofUInt8 b)

/-- The parts are groups of these lengths, and there are no more of them. -/
def areGroups : List Nat → List (List Char) → Bool
  | [], ps => ps.isEmpty
  | _ :: _, [] => false
  | n :: ns, p :: ps => isGroup n p && areGroups ns ps

/-- The text has the grouping of an identifier, in either case. -/
def isCanonical (s : String) : Bool := areGroups [8, 4, 4, 4, 12] (parts '-' s.toList)

end Wakeup.Identifier
