import Wakeup.Config

/-! Whether a delay is waited out on the spot or left to a rule. -/
namespace Wakeup

inductive Plan where
  /-- wait here -/
  | wait (d : Duration)
  /-- have a rule fire this many minutes from now -/
  | remote (minutes : Int64)
  deriving DecidableEq, Repr

namespace Plan

def isWait : Plan → Bool
  | wait _ => true
  | remote _ => false

/-- The time that must remain for a wait of so many seconds: the product with the headroom as
binary floating point gives it, to the nearest nanosecond. What is infinite, or infinity times
zero, is the longest time there is. -/
def requiredTime (seconds : Nat) (headroom : Binary64) : Duration :=
  let product? := do
    Binary64.nearest? ((← Binary64.nearest? seconds) * (← headroom.positivePart?))
  (product?.bind Duration.nearest?).getD .longest

/-- The delay in whole minutes, none of them cut short. -/
def wholeMinutes (seconds : Nat) : Nat := (seconds + 59) / 60

/-- A delay below zero is none. It is waited out if it is short and enough time remains. -/
def choose (delaySeconds : Int64) (remaining : Duration) (config : Config) : Plan :=
  let seconds := delaySeconds.toInt.toNat
  let delay := Duration.ofSeconds (.ofNat seconds)
  if delay < config.localWaitThreshold ∧ requiredTime seconds config.headroom < remaining then
    .wait delay
  else .remote (max (.ofNat (wholeMinutes seconds)) config.leastRemoteMinutes)

def toJson : Plan → Json
  | wait d => .record [("Local", .record [("wait", d.toJson)])]
  | remote m => .record [("Remote", .record [("delay_minutes", .ofInt m.toInt)])]

def ofJson? (v : Json) : Option Plan := do
  match ← v.variant? with
  | ("Local", v) =>
    let [d] ← v.record? false ["wait"] | none
    return wait (← Duration.ofJson? d)
  | ("Remote", v) =>
    let [m] ← v.record? false ["delay_minutes"] | none
    return remote (← m.toInt64?)
  | _ => none

end Plan
end Wakeup
