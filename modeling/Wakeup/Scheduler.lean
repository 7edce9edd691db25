import Wakeup.Script

/-! The operations on triggers. None is retried or undone: a failure goes to the caller, and since
names are derived from the token, the same request may be made again. -/
namespace Wakeup.Scheduler

def freshToken : Action Token := return ⟨← Action.draw⟩

def freshIds : Action TriggerIds := return .ofToken (← freshToken)

/-- The names for a request. Without a token there is nothing to derive them from, and a fresh one
is drawn unless both names are given. -/
def resolve (r : Request) : Action TriggerIds :=
  if r.isNamed then return r.ids
  else do
    let fresh ← freshIds
    Action.note (.freshIds fresh.ruleName)
    return r.idsOr fresh

/-- The rule first, then its target. If only the target fails the rule stays. -/
def arm (config : Config) (r : Request) (ids : TriggerIds) : Action Trigger := do
  let expression := r.schedule.expression
  Action.note (.puttingRule expression r.delayMinutes)
  Action.call (.putRule ids.ruleName expression config.ruleState)
  Action.callOr (.putTarget ids.ruleName ids.targetId r.destination r.payload) .targetFailed
  Action.note (.scheduled expression)
  return { ids, schedule := r.schedule, destination := r.destination, payload := r.payload }

theorem run_arm (config : Config) (r : Request) (ids : TriggerIds) :
    (arm config r ids).run =
      .note (.noted (.puttingRule r.schedule.expression r.delayMinutes))
        (.call (.putRule ids.ruleName r.schedule.expression config.ruleState) fun
          | .error f => .done (.error (.service .putRule f))
          | .ok () => .call (.putTarget ids.ruleName ids.targetId r.destination r.payload) fun
            | .error f =>
              .note (.noted (.targetFailed f)) (.done (.error (.service .putTargets f)))
            | .ok () => .note (.noted (.scheduled r.schedule.expression))
              (.done (.ok ⟨ids, r.schedule, r.destination, r.payload⟩))) := by
  simp only [arm, ExceptT.run_bind, Action.run_note, Script.note_bind, Script.done_bind,
    Action.run_call, Script.call_bind]
  congr 2
  funext o
  rcases o with f | ⟨⟩
  · rfl
  · simp only [Script.done_bind, Action.run_callOr, Script.call_bind]
    congr 1
    funext o
    rcases o with f | ⟨⟩ <;> rfl

/-- Arrange for one invocation. -/
def schedule (config : Config) (r : Request) : Action Trigger :=
  if r.destination.isEmpty then throw (.refused .noDestination)
  else do
    let ids ← resolve r
    if ids.ruleName.isEmpty || ids.targetId.isEmpty then throw (.refused .noNames)
    else Action.within .schedule ids (arm config r ids)

/-- The target comes off its rule before the rule is deleted. -/
def disarm (ids : TriggerIds) : Action Unit := do
  Action.call (.removeTarget ids.ruleName ids.targetId)
  Action.note .targetRemoved
  Action.callOr (.deleteRule ids.ruleName) .deletionFailed
  Action.note .cleanedUp

theorem run_disarm (ids : TriggerIds) :
    (disarm ids).run =
      .call (.removeTarget ids.ruleName ids.targetId) fun
        | .error f => .done (.error (.service .removeTargets f))
        | .ok () => .note (.noted .targetRemoved) (.call (.deleteRule ids.ruleName) fun
          | .error f => .note (.noted (.deletionFailed f)) (.done (.error (.service .deleteRule f)))
          | .ok () => .note (.noted .cleanedUp) (.done (.ok ()))) := by
  simp only [disarm, ExceptT.run_bind, Action.run_call, Script.call_bind]
  congr 1
  funext o
  rcases o with f | ⟨⟩
  · rfl
  · simp only [Script.done_bind, Action.run_note, Script.note_bind,
      Action.run_callOr, Script.call_bind]
    congr 2
    funext o
    rcases o with f | ⟨⟩ <;> rfl

/-- Remove what was arranged. -/
def cleanup (ids : TriggerIds) : Action Unit :=
  if ids.ruleName.isEmpty then throw (.refused .noRuleName)
  else if ids.targetId.isEmpty then throw (.refused .noTargetId)
  else Action.within .cleanup ids (disarm ids)

end Wakeup.Scheduler
