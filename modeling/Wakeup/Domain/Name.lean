import Wakeup.Domain.Direction
import Wakeup.Domain.Joining
import Wakeup.Domain.Punycode

/-! Domain names in the letters of any language. -/
namespace Wakeup.Domain

open Text

def isAscii (s : List Char) : Bool := s.all (· < '\x80')

/-- A label as it is read: behind `xn--` it is told in Punycode, and then in no other spelling than
its own. -/
def readLabel? (s : List Char) : Option (List Char) :=
  match s with
  | 'x' :: 'n' :: '-' :: '-' :: s => do
    guard (isAscii s)
    let label ← Punycode.decode? s
    guard (folded? label = some label)
    return label
  | s => some s

/-- Labels outside ASCII do not start with a mark, and have a thousand characters at the most. -/
def isLabel (s : List Char) : Bool :=
  isAscii s || (!s.head?.any isMark && joinersFit [] s && s.length ≤ 1000)

/-- The labels of a domain name as they are read. -/
def labels? (s : List Char) : Option (List (List Char)) := do
  let labels ← (parts '.' (← folded? s)).mapM readLabel?
  guard (labels.all isLabel && Direction.agree labels)
  return labels

end Wakeup.Domain
