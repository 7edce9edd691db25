import Wakeup.Json.Text
import Wakeup.Number.Decimal

/-! Reading typed values out of JSON values. -/
namespace Wakeup.Json

def toText? : Json → Option String
  | .text s => s
  | _ => none

/-- A whole number that is spelled as one and lies between two bounds. -/
def toInt? (least greatest : Int) : Json → Option Int
  | .number n => do
    let i ← n.int?
    guard (least ≤ i ∧ i ≤ greatest)
    return i
  | _ => none

def toUInt32? (v : Json) : Option UInt32 :=
  (v.toInt? 0 4294967295).map fun i => .ofNat i.toNat

def toUInt64? (v : Json) : Option UInt64 :=
  (v.toInt? 0 18446744073709551615).map fun i => .ofNat i.toNat

def toInt32? (v : Json) : Option Int32 :=
  (v.toInt? (-2147483648) 2147483647).map .ofInt

def toInt64? (v : Json) : Option Int64 :=
  (v.toInt? (-9223372036854775808) 9223372036854775807).map .ofInt

def toBinary64? : Json → Option Binary64
  | .number n => n.toBinary64?
  | _ => none

/-- A value that may be null. -/
def toOption? (f : Json → Option α) : Json → Option (Option α)
  | .null => some none
  | v => (f v).map some

def toList? (f : Json → Option α) : Json → Option (List α)
  | .array vs => vs.mapM f
  | _ => none

/-- When a field may be left out. -/
inductive Presence where
  | required
  /-- an object may leave it out, and it is then null -/
  | nullable
  /-- an object may leave it out, and so may an array that ends before it -/
  | defaulted
  deriving DecidableEq

structure Field where
  /-- the spellings of the name -/
  names : List String
  presence : Presence := .required

/-- The value of a field among the members of an object, `some none` if it is left out and may be.
It must not be given twice, under whatever spellings. -/
def member? (members : List (Option String × Json)) (f : Field) : Option (Option Json) :=
  match members.filter (·.1.any (· ∈ f.names)) with
  | [] => if f.presence = .required then none else some none
  | [(_, v)] => some (some v)
  | _ => none

/-- The value of a field in an array, by its place. -/
def item? (items : List Json) (f : Field) (i : Nat) : Option (Option Json) :=
  match items[i]? with
  | some v => some (some v)
  | none => if f.presence = .defaulted then some none else none

/-- Every name is a text and, if a record is closed, the name of a field. -/
def namesOk (closed : Bool) (fields : List Field) (members : List (Option String × Json)) : Bool :=
  members.all fun (k, _) => k.any fun k => !closed || fields.any (k ∈ ·.names)

/-- The values of the fields of a record, in their order. The record is an object, in which other
members are passed over unless the record is closed, or an array of its fields' values in order. -/
def fields? (closed : Bool) (fields : List Field) : Json → Option (List (Option Json))
  | .object members => do
    guard (namesOk closed fields members)
    fields.mapM (member? members)
  | .array items => do
    guard (items.length ≤ fields.length)
    fields.zipIdx.mapM fun (f, i) => item? items f i
  | _ => none

/-- The values of a record whose fields are all required. -/
def record? (closed : Bool) (names : List String) (v : Json) : Option (List Json) := do
  (← v.fields? closed (names.map fun n => { names := [n] })).mapM id

/-- The name of an alternative and what it holds: a text, or an object of one member. -/
def variant? : Json → Option (String × Json)
  | .text s => s.map (·, .null)
  | .object [(k, v)] => k.map (·, v)
  | _ => none

end Wakeup.Json
