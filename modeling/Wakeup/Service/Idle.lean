import Wakeup.Script

/-! A service that does nothing but tell of the calls it gets. -/
namespace Wakeup.Idle

/-- A call as it is told; the payload is left out. -/
def details : Call → List (String × Detail)
  | .putRule name expression state =>
    [("rule_name", .text name.text), ("schedule", .text expression), ("state", .text state.name)]
  | .putTarget rule id destination _ =>
    [("rule_name", .text rule.text), ("target_id", .text id.text),
      ("destination", .text destination)]
  | .removeTarget rule id => [("rule_name", .text rule.text), ("target_id", .text id.text)]
  | .deleteRule name => [("rule_name", .text name.text)]

def service : Script.Service Unit := fun c _ =>
  (.ok (), [⟨.info, "noop " ++ c.operation.name, details c⟩], ())

end Wakeup.Idle
