import Wakeup.Calendar.Timestamp
import Wakeup.Schedule

/-! Triggers: a rule that fires once and its one target. -/
namespace Wakeup

/-- The names of a rule and its target. -/
structure TriggerIds where
  ruleName : RuleName
  targetId : TargetId
  deriving DecidableEq, Repr

namespace TriggerIds

/-- Both names are derived from one token. -/
def ofToken (token : Token) : TriggerIds :=
  ⟨⟨"reinvoke-handler-" ++ token.text⟩, ⟨"reinvoke-target-" ++ token.text⟩⟩

def toJson (ids : TriggerIds) : Json :=
  .record [("rule_name", ids.ruleName.toJson), ("target_id", ids.targetId.toJson)]

def ofJson? (v : Json) : Option TriggerIds := do
  let [rule, target] ← v.record? false ["rule_name", "target_id"] | none
  return ⟨← Tagged.ofJson? rule, ← Tagged.ofJson? target⟩

end TriggerIds

/-- A wish to be invoked again. -/
structure Request where
  /-- the address to invoke -/
  destination : String
  /-- how long after the base time -/
  delayMinutes : Int64
  payload : Payload
  base : Instant
  token : Token
  /-- names to use in place of those derived from the token -/
  ruleName : Option RuleName
  targetId : Option TargetId
  deriving DecidableEq, Repr

namespace Request

/-- The names given with the request, and where there is none, those of other ids. -/
def idsOr (r : Request) (ids : TriggerIds) : TriggerIds :=
  ⟨r.ruleName.getD ids.ruleName, r.targetId.getD ids.targetId⟩

def ids (r : Request) : TriggerIds := r.idsOr (.ofToken r.token)

/-- There is a token to derive names from, or no need of one. -/
def isNamed (r : Request) : Bool :=
  !r.token.isEmpty || (r.ruleName.isSome && r.targetId.isSome)

def schedule (r : Request) : Schedule := .after r.base r.delayMinutes

def toJson (r : Request) : Json := .record [
  ("target", .ofString r.destination),
  ("delay_minutes", .ofInt r.delayMinutes.toInt),
  ("payload", r.payload.toJson),
  ("base_time", .ofString (String.ofList r.base.spell)),
  ("request_token", r.token.toJson),
  ("rule_name", .ofOption Tagged.toJson r.ruleName),
  ("target_id", .ofOption Tagged.toJson r.targetId)]

def ofJson? (v : Json) : Option Request := do
  let [some destination, some delay, some payload, some base, some token, rule, target] ←
    v.fields? false [{ names := ["target"] }, { names := ["delay_minutes"] },
      { names := ["payload"] }, { names := ["base_time"] }, { names := ["request_token"] },
      { names := ["rule_name"], presence := .nullable },
      { names := ["target_id"], presence := .nullable }] | none
  return {
    destination := ← destination.toText?
    delayMinutes := ← delay.toInt64?
    payload := ← Tagged.ofJson? payload
    base := ← Instant.parse? (← base.toText?)
    token := ← Tagged.ofJson? token
    ruleName := ← (rule.getD .null).toOption? Tagged.ofJson?
    targetId := ← (target.getD .null).toOption? Tagged.ofJson? }

end Request

/-- A trigger that has been created. -/
structure Trigger where
  ids : TriggerIds
  schedule : Schedule
  destination : String
  payload : Payload
  deriving DecidableEq, Repr

namespace Trigger

def toJson (t : Trigger) : Json := .record [
  ("ids", t.ids.toJson), ("schedule", t.schedule.toJson),
  ("destination", .ofString t.destination), ("payload", t.payload.toJson)]

def ofJson? (v : Json) : Option Trigger := do
  let [ids, schedule, destination, payload] ←
    v.record? false ["ids", "schedule", "destination", "payload"] | none
  return ⟨← TriggerIds.ofJson? ids, ← Schedule.ofJson? schedule, ← destination.toText?,
    ← Tagged.ofJson? payload⟩

end Trigger
end Wakeup
