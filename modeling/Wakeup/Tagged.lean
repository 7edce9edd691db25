import Wakeup.Json.Decode

/-! Texts that are told apart by what they are for. -/
namespace Wakeup

inductive Purpose where
  | ruleName
  | targetId
  | requestToken
  | payload
  deriving DecidableEq, Repr

def Purpose.name : Purpose → String
  | ruleName => "RuleName"
  | targetId => "TargetId"
  | requestToken => "RequestToken"
  | payload => "ContinuationPayload"

structure Tagged (p : Purpose) where
  text : String
  deriving DecidableEq, Repr

/-- The name of a rule of the scheduling service. -/
abbrev RuleName := Tagged .ruleName

/-- The name of a target, unique within its rule. -/
abbrev TargetId := Tagged .targetId

/-- What repeated attempts at one reinvocation have in common; names are derived from it. -/
abbrev Token := Tagged .requestToken

/-- State for the target, which nothing here looks into. -/
abbrev Payload := Tagged .payload

namespace Tagged
variable {p : Purpose}

def isEmpty (t : Tagged p) : Bool := t.text.isEmpty

def toJson (t : Tagged p) : Json := .ofString t.text

def ofJson? (v : Json) : Option (Tagged p) := v.toText?.map (⟨·⟩)

end Tagged
end Wakeup
