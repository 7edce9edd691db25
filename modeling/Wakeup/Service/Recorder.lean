import Std.Data.HashMap
import Wakeup.Script

/-! A service that keeps rules and targets in memory, records each call, and fails when it is told
to. -/
namespace Wakeup

deriving instance Hashable for Purpose
deriving instance Hashable for Tagged

structure Recorder where
  /-- for each operation, the outcomes of its next calls -/
  queued : Operation → List Outcome := fun _ => []
  calls : List Call := []
  /-- the rules there are, with their schedule expressions -/
  rules : Std.HashMap RuleName String := ∅
  /-- the targets there are, with their payloads -/
  targets : Std.HashMap (RuleName × TargetId) Payload := ∅

namespace Recorder

/-- One more outcome waits for calls of the operation. -/
def queue (r : Recorder) (op : Operation) (o : Outcome) : Recorder :=
  { r with queued := fun op' => if op' = op then r.queued op ++ [o] else r.queued op' }

def queueFaults (r : Recorder) (op : Operation) (f : Fault) : Nat → Recorder
  | 0 => r
  | n + 1 => (r.queue op (.error f)).queueFaults op f n

def callsFor (r : Recorder) (op : Operation) : List Call := r.calls.filter (·.operation = op)

def clearCalls (r : Recorder) : Recorder := { r with calls := [] }

def hasRule (r : Recorder) (name : RuleName) : Bool := r.rules.contains name

def ruleSchedule? (r : Recorder) (name : RuleName) : Option String := r.rules[name]?

def targetPayload? (r : Recorder) (rule : RuleName) (id : TargetId) : Option Payload :=
  r.targets[(rule, id)]?

def ruleCount (r : Recorder) : Nat := r.rules.size

/-- What a call changes when it succeeds. -/
def apply (r : Recorder) : Call → Recorder
  | .putRule name expression _ => { r with rules := r.rules.insert name expression }
  | .putTarget rule id _ payload => { r with targets := r.targets.insert (rule, id) payload }
  | .removeTarget rule id => { r with targets := r.targets.erase (rule, id) }
  | .deleteRule name => { r with rules := r.rules.erase name }

/-- Take down the call. -/
def record (r : Recorder) (c : Call) : Recorder := { r with calls := r.calls ++ [c] }

/-- The call is taken down and gets the next outcome that waits for its operation; when none waits
it succeeds. -/
def answer (r : Recorder) (c : Call) : Outcome × Recorder :=
  match r.queued c.operation with
  | [] => (.ok (), (r.record c).apply c)
  | o :: rest =>
    let r := { r.record c with
      queued := fun op => if op = c.operation then rest else r.queued op }
    match o with
    | .ok () => (.ok (), r.apply c)
    | .error f => (.error f, r)

def service : Script.Service Recorder := fun c r =>
  let (o, r) := r.answer c
  (o, [], r)

def summary (r : Recorder) : String :=
  "MockSchedulingService \x7b call_count: " ++ toString r.calls.length ++ ", rule_count: " ++
    toString r.ruleCount ++ " \x7d"

end Recorder
end Wakeup
