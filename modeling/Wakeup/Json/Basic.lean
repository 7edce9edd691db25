import Wakeup.Number.Numeral

/-! JSON values. -/
namespace Wakeup

/-- A text is absent where its spelling is no Unicode text: bytes outside UTF-8, half a surrogate
pair. -/
inductive Json where
  | null
  | bool (b : Bool)
  | number (n : Numeral)
  | text (s : Option String)
  | array (items : List Json)
  | object (members : List (Option String × Json))
  deriving Repr

namespace Json

def ofString (s : String) : Json := .text (some s)

def ofInt (i : Int) : Json := .number (.ofInt i)

/-- An object of named values, in order. -/
def record (members : List (String × Json)) : Json :=
  .object (members.map fun (k, v) => (some k, v))

def ofOption (f : α → Json) : Option α → Json
  | none => .null
  | some a => f a

end Json
end Wakeup
