import Wakeup.Script
import Wakeup.Text.Utf8

/-! Calls to the events service as JSON over HTTP, and what its answers mean. -/
namespace Wakeup.Events

/-- The body of the request for a call. -/
def body : Call → Json
  | .putRule name expression state => .record [
      ("Name", name.toJson), ("ScheduleExpression", .ofString expression), ("State", state.toJson)]
  | .putTarget rule id destination payload => .record [
      ("Rule", rule.toJson),
      ("Targets", .array [.record [
        ("Id", id.toJson), ("Arn", .ofString destination), ("Input", payload.toJson)]])]
  | .removeTarget rule id => .record [("Rule", rule.toJson), ("Ids", .array [id.toJson])]
  | .deleteRule name => .record [("Name", name.toJson)]

/-- The name the service goes by for an operation. -/
def action (op : Operation) : String := "AWSEvents." ++ op.name

/-- The text of a header's value. Only visible bytes, blanks and tabs make one. -/
def headerText? (value : List UInt8) : Option String :=
  if value.all fun b => b = 9 || (0x20 ≤ b && b ≤ 0x7e) then
    some (String.ofList (value.map .ofUInt8))
  else none

/-- The answer to a request, with its headers under their names in lowercase. -/
structure Answer where
  status : Nat
  headers : List (String × List UInt8)
  body : List UInt8
  deriving DecidableEq, Repr

def Answer.isSuccess (a : Answer) : Bool := 200 ≤ a.status && a.status < 300

/-- What the service calls the request. The first of its headers counts, even if it is no text. -/
def Answer.requestId (a : Answer) : Option String :=
  (a.headers.lookup "x-amzn-requestid").bind headerText?

/-- The codes of faults that pass. -/
def passingCodes : List String :=
  ["ThrottlingException", "TooManyRequestsException", "ConcurrentModificationException",
    "InternalException", "ServiceUnavailableException"]

/-- What a body says of an error: its type and a message. -/
def errorBody? (v : Json) : Option (Option String × Option String) := do
  let [type, message] ← v.fields? false [
    { names := ["__type"], presence := .defaulted },
    { names := ["message", "Message"], presence := .defaulted }] | none
  return (← (type.getD .null).toOption? Json.toText?,
    ← (message.getD .null).toOption? Json.toText?)

/-- What is behind the last `#`. -/
def behindHash (s : String) : String :=
  String.ofList (s.toList.reverse.takeWhile (· ≠ '#')).reverse

/-- The code of an error that names no type. -/
def codeOfStatus (status : Nat) : String :=
  if status = 404 then "ResourceNotFoundException"
  else if status = 429 then "ThrottlingException"
  else toString status

/-- The fault that an answer without success tells of. A body that is no error object says nothing
of its type and is the message itself. -/
def faultOfAnswer (op : Operation) (a : Answer) : Fault :=
  let (type, said) := ((Json.parseBytes? a.body).bind errorBody?).getD (none, none)
  let code := (type.map behindHash).getD (codeOfStatus a.status)
  let message := said.getD (Text.Utf8.lossy a.body)
  { message := op.name ++ " returned " ++ toString a.status ++ ": " ++ message
    retriable := a.status = 429 || (500 ≤ a.status && a.status < 600) || code ∈ passingCodes
    diagnosis := some ⟨code, message, a.requestId⟩ }

/-- A target for which a call had no effect. -/
structure FailedEntry where
  targetId : Option String
  code : Option String
  message : Option String
  deriving DecidableEq, Repr

def FailedEntry.ofJson? (v : Json) : Option FailedEntry := do
  let [id, code, message] ← v.fields? false [
    { names := ["TargetId"], presence := .defaulted },
    { names := ["ErrorCode"], presence := .defaulted },
    { names := ["ErrorMessage"], presence := .defaulted }] | none
  return ⟨← (id.getD .null).toOption? Json.toText?, ← (code.getD .null).toOption? Json.toText?,
    ← (message.getD .null).toOption? Json.toText?⟩

/-- The number of failed entries and those that are listed. -/
def failedEntries? (v : Json) : Option (UInt32 × List FailedEntry) := do
  let [count, entries] ← v.fields? false [
    { names := ["FailedEntryCount"], presence := .defaulted },
    { names := ["FailedEntries"], presence := .defaulted }] | none
  return (← count.elim (some 0) Json.toUInt32?,
    ← entries.elim (some []) (·.toList? FailedEntry.ofJson?))

/-- The fault of a call that failed for some of its targets; the first one listed tells why. -/
def faultOfEntries (op : Operation) (count : UInt32) (entries : List FailedEntry) : Fault :=
  let entry := entries.head?.getD ⟨none, none, none⟩
  let code := entry.code.getD "FailedEntry"
  let message := entry.message.getD "target entry was not applied"
  { message := op.name ++ " failed for " ++ toString (max count 1) ++
      (if 1 < count then " entries" else " entry") ++ " (targetId=" ++ entry.targetId.getD "" ++
      "): " ++ message
    retriable := code ∈ passingCodes
    diagnosis := some ⟨code, message, none⟩ }

/-- A body with success can still list targets that failed. An empty one lists none. One that does
not tell of targets is refused, and `why` is what is said of it. -/
def checkEntries (op : Operation) (body : List UInt8) (why : String) : Outcome :=
  if body = [] then .ok ()
  else match (Json.parseBytes? body).bind failedEntries? with
    | none => .error ⟨"Failed to deserialize " ++ op.name ++ " response: " ++ why, false, none⟩
    | some (count, entries) =>
      if count = 0 ∧ entries = [] then .ok () else .error (faultOfEntries op count entries)

/-- The outcome of a call by the answer to its request. Only calls on targets have entries. -/
def outcomeOfAnswer (op : Operation) (a : Answer) (why : String) : Outcome :=
  if !a.isSuccess then .error (faultOfAnswer op a)
  else match op with
    | .putTargets | .removeTargets => checkEntries op a.body why
    | .putRule | .deleteRule => .ok ()

end Wakeup.Events
