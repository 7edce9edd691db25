import Wakeup.Duration

/-! How a scheduler arms rules and when it waits by itself. -/
namespace Wakeup

/-- Whether a rule is armed. -/
inductive RuleState where
  | enabled
  | disabled
  deriving DecidableEq, Repr

namespace RuleState

def name : RuleState → String
  | enabled => "ENABLED"
  | disabled => "DISABLED"

def toJson (s : RuleState) : Json := .ofString s.name

def ofJson? (v : Json) : Option RuleState :=
  match v.variant? with
  | some ("ENABLED", .null) => some enabled
  | some ("DISABLED", .null) => some disabled
  | _ => none

end RuleState

structure Config where
  /-- the state of new rules -/
  ruleState : RuleState := .enabled
  /-- shorter delays may be waited out on the spot -/
  localWaitThreshold : Duration := .ofSeconds 60
  /-- how many times a delay must fit into the time that remains -/
  headroom : Binary64 := ⟨0x3ff3333333333333⟩
  /-- the least delay of a rule, in minutes -/
  leastRemoteMinutes : Int64 := 1
  deriving DecidableEq, Repr

namespace Config

/-- Equal settings, where ratios are compared by value. -/
def sameAs (a b : Config) : Bool :=
  a.ruleState = b.ruleState && a.localWaitThreshold = b.localWaitThreshold &&
    a.headroom.sameValue b.headroom && a.leastRemoteMinutes = b.leastRemoteMinutes

/-- A ratio that is not finite is written as null. -/
def toJson (c : Config) : Json := .record [
  ("rule_state", c.ruleState.toJson),
  ("local_wait_threshold", c.localWaitThreshold.toJson),
  ("deadline_buffer_ratio", .ofOption .number c.headroom.toNumeral?),
  ("minimum_remote_delay_minutes", .ofInt c.leastRemoteMinutes.toInt)]

def ofJson? (v : Json) : Option Config := do
  let [state, threshold, ratio, least] ← v.record? false ["rule_state", "local_wait_threshold",
    "deadline_buffer_ratio", "minimum_remote_delay_minutes"] | none
  return {
    ruleState := ← RuleState.ofJson? state
    localWaitThreshold := ← Duration.ofJson? threshold
    headroom := ← ratio.toBinary64?
    leastRemoteMinutes := ← least.toInt64? }

end Config
end Wakeup
