import Wakeup.Tagged
import Wakeup.Text.Quoted

/-! What can go wrong, why, and how it is worded. -/
namespace Wakeup

/-- The kinds of call that a scheduling service takes. -/
inductive Operation where
  | putRule
  | putTargets
  | removeTargets
  | deleteRule
  deriving DecidableEq, Repr

namespace Operation

def name : Operation → String
  | putRule => "PutRule"
  | putTargets => "PutTargets"
  | removeTargets => "RemoveTargets"
  | deleteRule => "DeleteRule"

def toJson (op : Operation) : Json := .ofString op.name

def ofJson? (v : Json) : Option Operation :=
  match v.variant? with
  | some ("PutRule", .null) => some putRule
  | some ("PutTargets", .null) => some putTargets
  | some ("RemoveTargets", .null) => some removeTargets
  | some ("DeleteRule", .null) => some deleteRule
  | _ => none

end Operation

/-- What the service itself says of a failed call. -/
structure Diagnosis where
  code : String
  message : String
  requestId : Option String
  deriving DecidableEq, Repr

namespace Diagnosis

def toJson (d : Diagnosis) : Json := .record [
  ("code", .ofString d.code), ("message", .ofString d.message),
  ("request_id", .ofOption .ofString d.requestId)]

def ofJson? (v : Json) : Option Diagnosis := do
  let [some code, some message, id] ← v.fields? false [
    { names := ["code"] }, { names := ["message"] },
    { names := ["request_id"], presence := .nullable }] | none
  return ⟨← code.toText?, ← message.toText?, ← (id.getD .null).toOption? Json.toText?⟩

end Diagnosis

/-- The failure of one call. -/
structure Fault where
  message : String
  retriable : Bool
  diagnosis : Option Diagnosis := none
  deriving DecidableEq, Repr

namespace Fault

def code? (f : Fault) : Option String := f.diagnosis.map (·.code)

/-- The service turned the call away because there were too many. -/
def isThrottling (f : Fault) : Bool :=
  f.code? = some "ThrottlingException" || f.code? = some "TooManyRequestsException"

/-- The service knows no such rule or target. -/
def isNotFound (f : Fault) : Bool := f.code? = some "ResourceNotFoundException"

end Fault

/-- Why a request is turned away before any call. -/
inductive Refusal where
  | empty (p : Purpose)
  | noDestination
  | noNames
  | noRuleName
  | noTargetId
  | notOneShot (text : String)
  | stated (message : String)
  deriving DecidableEq, Repr

def Refusal.message : Refusal → String
  | empty p => p.name ++ " cannot be empty"
  | noDestination => "target cannot be empty"
  | noNames => "rule name and target id cannot be empty"
  | noRuleName => "rule name cannot be empty"
  | noTargetId => "target id cannot be empty"
  | notOneShot text => "not a one-shot schedule: " ++ Text.quoted text
  | stated message => message

/-- How an operation fails. -/
inductive Failure where
  /-- the request itself is at fault -/
  | refused (why : Refusal)
  /-- a call failed -/
  | service (during : Operation) (fault : Fault)
  /-- no identifier could be drawn -/
  | identifier (message : String)
  /-- the client cannot be set up -/
  | configuration (message : String)
  deriving DecidableEq, Repr

namespace Failure

def message : Failure → String
  | refused why => "Validation error: " ++ why.message
  | service op fault => "Service error during " ++ op.name ++ ": " ++ fault.message
  | identifier m => "Identifier error: " ++ m
  | configuration m => "Configuration error: " ++ m

/-- The same request may succeed another time. -/
def isRetriable : Failure → Bool
  | service _ fault => fault.retriable
  | _ => false

def operation? : Failure → Option Operation
  | service op _ => some op
  | _ => none

def fault? : Failure → Option Fault
  | service _ fault => some fault
  | _ => none

end Failure

/-- A failure as it is handed on to a caller in another process. -/
structure Report where
  kind : String
  message : String
  deriving DecidableEq, Repr

namespace Report

def ofFailure (f : Failure) : Report :=
  match f with
  | .refused why => ⟨"ValidationError", why.message⟩
  | .service _ _ => ⟨"ServiceError", f.message⟩
  | .identifier m => ⟨"IdentifierError", m⟩
  | .configuration m => ⟨"ConfigurationError", m⟩

def toJson (r : Report) : Json :=
  .record [("ErrorType", .ofString r.kind), ("ErrorMessage", .ofString r.message)]

def ofJson? (v : Json) : Option Report := do
  let [kind, message] ← v.record? false ["ErrorType", "ErrorMessage"] | none
  return ⟨← kind.toText?, ← message.toText?⟩

end Report

/-- A text that must not be empty. -/
def Tagged.nonempty {p : Purpose} (s : String) : Except Failure (Tagged p) :=
  if s.isEmpty then .error (.refused (.empty p)) else .ok ⟨s⟩

end Wakeup
