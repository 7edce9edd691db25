import Wakeup.Json.Token
import Wakeup.Text.Utf8

/-! JSON values as text: written without blanks, and read from characters or from bytes. -/
namespace Wakeup.Json

mutual

def tokens : Json → List Token
  | .null => [.null]
  | .bool b => [.bool b]
  | .number n => [.number n]
  | .text s => [.text s]
  | .array [] => [.openArray, .closeArray]
  | .array (v :: vs) => .openArray :: (v.tokens ++ furtherItems vs)
  | .object [] => [.openObject, .closeObject]
  | .object ((k, v) :: ms) => .openObject :: .text k :: .colon :: (v.tokens ++ furtherMembers ms)

/-- The rest of an array, after an item. -/
def furtherItems : List Json → List Token
  | [] => [.closeArray]
  | v :: vs => .comma :: (v.tokens ++ furtherItems vs)

/-- The rest of an object, after a member. -/
def furtherMembers : List (Option String × Json) → List Token
  | [] => [.closeObject]
  | (k, v) :: ms => .comma :: .text k :: .colon :: (v.tokens ++ furtherMembers ms)

end

/-- The value as text, without blanks. -/
def render (v : Json) : String := String.ofList (v.tokens.flatMap Token.spell)

/-- A container that has been opened, with what it holds so far, latest first. In an object a name
waits for its value. -/
inductive Frame where
  | array (items : List Json)
  | object (members : List (Option String × Json)) (name : Option String)

/-- What may come next, and the containers around it, innermost first. -/
inductive Stage where
  /-- a value -/
  | value (outer : List Frame)
  /-- the first item of an array, or its end -/
  | firstItem (outer : List Frame)
  /-- the first name of an object, or its end -/
  | firstName (outer : List Frame)
  /-- a further name -/
  | name (members : List (Option String × Json)) (outer : List Frame)
  /-- the colon after a name -/
  | colon (members : List (Option String × Json)) (name : Option String) (outer : List Frame)
  /-- what follows a value that is complete -/
  | complete (v : Json) (outer : List Frame)

/-- A value starts, and may be complete at once. -/
def Stage.start? (outer : List Frame) : Token → Option Stage
  | .null => some (.complete .null outer)
  | .bool b => some (.complete (.bool b) outer)
  | .number n => some (.complete (.number n) outer)
  | .text s => some (.complete (.text s) outer)
  | .openArray => some (.firstItem outer)
  | .openObject => some (.firstName outer)
  | _ => none

def Stage.step? : Stage → Token → Option Stage
  | .value outer, t => start? outer t
  | .firstItem outer, .closeArray => some (.complete (.array []) outer)
  | .firstItem outer, t => start? (.array [] :: outer) t
  | .firstName outer, .closeObject => some (.complete (.object []) outer)
  | .firstName outer, .text k => some (.colon [] k outer)
  | .name ms outer, .text k => some (.colon ms k outer)
  | .colon ms k outer, .colon => some (.value (.object ms k :: outer))
  | .complete v (.array vs :: outer), .comma => some (.value (.array (v :: vs) :: outer))
  | .complete v (.array vs :: outer), .closeArray =>
    some (.complete (.array (v :: vs).reverse) outer)
  | .complete v (.object ms k :: outer), .comma => some (.name ((k, v) :: ms) outer)
  | .complete v (.object ms k :: outer), .closeObject =>
    some (.complete (.object ((k, v) :: ms).reverse) outer)
  | _, _ => none

/-- The one value that tokens make up. -/
def ofTokens? (ts : List Token) : Option Json :=
  match ts.foldlM Stage.step? (.value []) with
  | some (.complete v []) => some v
  | _ => none

def ofGlyphs? (s : List Glyph) : Option Json := Token.scan? s >>= ofTokens?

def parse? (s : String) : Option Json := ofGlyphs? (s.toList.map some)

def parseBytes? (bs : List UInt8) : Option Json := ofGlyphs? (Text.Utf8.decode bs)

end Wakeup.Json
