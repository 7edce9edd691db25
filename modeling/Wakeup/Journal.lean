import Wakeup.Trigger

/-! What is told about the work while it goes on. -/
namespace Wakeup

inductive Level where
  | debug
  | info
  | warn
  deriving DecidableEq, Repr

inductive Detail where
  | text (s : String)
  | int (i : Int64)
  deriving DecidableEq, Repr

structure Event where
  level : Level
  message : String
  details : List (String × Detail) := []
  deriving DecidableEq, Repr

namespace Event

def freshIds (rule : RuleName) : Event :=
  ⟨.debug, "Empty request token; drew fresh trigger ids", [("rule_name", .text rule.text)]⟩

def puttingRule (expression : String) (delayMinutes : Int64) : Event :=
  ⟨.debug, "Putting reinvocation rule",
    [("schedule", .text expression), ("delay_minutes", .int delayMinutes)]⟩

def targetFailed (f : Fault) : Event :=
  ⟨.warn, "Target attachment failed; rule left in place", [("error", .text f.message)]⟩

def scheduled (expression : String) : Event :=
  ⟨.info, "Scheduled reinvocation", [("schedule", .text expression)]⟩

def targetRemoved : Event := ⟨.debug, "Removed reinvocation target", []⟩

def deletionFailed (f : Fault) : Event :=
  ⟨.warn, "Rule deletion failed; rule left without target", [("error", .text f.message)]⟩

def cleanedUp : Event := ⟨.info, "Cleaned up reinvocation", []⟩

def sending (op : Operation) (uri : String) : Event :=
  ⟨.debug, "Sending scheduling service request",
    [("operation", .text op.name), ("endpoint", .text uri)]⟩

end Event

/-- A stretch of work on one trigger. -/
inductive Work where
  | schedule
  | cleanup
  deriving DecidableEq, Repr

def Work.name : Work → String
  | schedule => "schedule"
  | cleanup => "cleanup"

inductive Entry where
  /-- work on a trigger begins -/
  | opened (work : Work) (ids : TriggerIds)
  | noted (e : Event)
  /-- the work that was begun last has ended -/
  | closed (succeeded : Bool)
  deriving DecidableEq, Repr

abbrev Journal := List Entry

/-- The entries in order, each with whether it lies within a stretch of work. -/
def Journal.placed (j : Journal) (within : Bool) : List (Entry × Bool) :=
  match j with
  | [] => []
  | .opened w ids :: j => (.opened w ids, within) :: placed j true
  | .noted e :: j => (.noted e, within) :: placed j within
  | .closed ok :: j => (.closed ok, within) :: placed j false

end Wakeup
