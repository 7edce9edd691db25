import Wakeup.Proofs.Script.Steps
import Wakeup.Scheduler

/-! Jobs done one after another, and everything that a job can do, call by call. -/
namespace Wakeup.Scheduler

open Script

/-- What can be asked of a scheduler. -/
inductive Job where
  | schedule (r : Request)
  | cleanup (ids : TriggerIds)
  | drawToken
  | drawIds
  deriving DecidableEq

inductive Answer where
  | scheduled (result : Except Failure Trigger)
  | cleaned (result : Except Failure Unit)
  | drewToken (result : Except Failure Token)
  | drewIds (result : Except Failure TriggerIds)

def Job.script (config : Config) : Job → Script Answer
  | schedule r => (Scheduler.schedule config r).run >>= fun a => .done (.scheduled a)
  | cleanup ids => (Scheduler.cleanup ids).run >>= fun a => .done (.cleaned a)
  | drawToken => freshToken.run >>= fun a => .done (.drewToken a)
  | drawIds => freshIds.run >>= fun a => .done (.drewIds a)

/-- Jobs in order, each with its answer. -/
def session (config : Config) : List Job → Script (List (Job × Answer))
  | [] => .done []
  | j :: js => j.script config >>= fun a => session config js >>= fun as => .done ((j, a) :: as)

/-- Nothing was scheduled and nothing cleaned up. -/
def Answer.Idle (a : Answer) : Prop := (∀ t, a ≠ .scheduled (.ok t)) ∧ a ≠ .cleaned (.ok ())

/-- Why nothing was scheduled, cleaned up or drawn. -/
def Answer.failure? : Answer → Option Failure
  | scheduled (.error e) | cleaned (.error e) | drewToken (.error e) | drewIds (.error e) => some e
  | _ => none

variable {σ γ : Type}

/-- A job that finds the service at `s`: its calls, its answer, and the service it leaves. -/
inductive Works (service : Service σ) (config : Config) (s : σ) :
    Job → List (Step σ) → Answer → σ → Prop where
  | idle {j : Job} {a : Answer} (ha : a.Idle) : Works service config s j [] a s
  | ruleFailed {r : Request} {ids : TriggerIds} {f : Fault} {events : List Event} {s' : σ}
      (hids : r.isNamed → ids = r.ids)
      (h : service (.putRule ids.ruleName r.schedule.expression config.ruleState) s =
        (.error f, events, s')) :
      Works service config s (.schedule r)
        [⟨s, .putRule ids.ruleName r.schedule.expression config.ruleState, .error f, s'⟩]
        (.scheduled (.error (.service .putRule f))) s'
  | targetFailed {r : Request} {ids : TriggerIds} {f : Fault} {events events' : List Event}
      {s' s'' : σ} (hids : r.isNamed → ids = r.ids)
      (h : service (.putRule ids.ruleName r.schedule.expression config.ruleState) s =
        (.ok (), events, s'))
      (h' : service (.putTarget ids.ruleName ids.targetId r.destination r.payload) s' =
        (.error f, events', s'')) :
      Works service config s (.schedule r)
        [⟨s, .putRule ids.ruleName r.schedule.expression config.ruleState, .ok (), s'⟩,
          ⟨s', .putTarget ids.ruleName ids.targetId r.destination r.payload, .error f, s''⟩]
        (.scheduled (.error (.service .putTargets f))) s''
  | armed {r : Request} {ids : TriggerIds} {events events' : List Event}
      {s' s'' : σ} (hids : r.isNamed → ids = r.ids)
      (h : service (.putRule ids.ruleName r.schedule.expression config.ruleState) s =
        (.ok (), events, s'))
      (h' : service (.putTarget ids.ruleName ids.targetId r.destination r.payload) s' =
        (.ok (), events', s'')) :
      Works service config s (.schedule r)
        [⟨s, .putRule ids.ruleName r.schedule.expression config.ruleState, .ok (), s'⟩,
          ⟨s', .putTarget ids.ruleName ids.targetId r.destination r.payload, .ok (), s''⟩]
        (.scheduled (.ok ⟨ids, r.schedule, r.destination, r.payload⟩)) s''
  | removalFailed {ids : TriggerIds} {f : Fault} {events : List Event} {s' : σ}
      (h : service (.removeTarget ids.ruleName ids.targetId) s = (.error f, events, s')) :
      Works service config s (.cleanup ids)
        [⟨s, .removeTarget ids.ruleName ids.targetId, .error f, s'⟩]
        (.cleaned (.error (.service .removeTargets f))) s'
  | deletionFailed {ids : TriggerIds} {f : Fault} {events events' : List Event} {s' s'' : σ}
      (h : service (.removeTarget ids.ruleName ids.targetId) s = (.ok (), events, s'))
      (h' : service (.deleteRule ids.ruleName) s' = (.error f, events', s'')) :
      Works service config s (.cleanup ids)
        [⟨s, .removeTarget ids.ruleName ids.targetId, .ok (), s'⟩,
          ⟨s', .deleteRule ids.ruleName, .error f, s''⟩]
        (.cleaned (.error (.service .deleteRule f))) s''
  | cleaned {ids : TriggerIds} {events events' : List Event} {s' s'' : σ}
      (h : service (.removeTarget ids.ruleName ids.targetId) s = (.ok (), events, s'))
      (h' : service (.deleteRule ids.ruleName) s' = (.ok (), events', s'')) :
      Works service config s (.cleanup ids)
        [⟨s, .removeTarget ids.ruleName ids.targetId, .ok (), s'⟩,
          ⟨s', .deleteRule ids.ruleName, .ok (), s''⟩]
        (.cleaned (.ok ())) s''

variable {service : Service σ} {generator : Generator γ} {config : Config}
  {s s' : σ} {j : Job} {a : Answer} {steps : List (Step σ)}

theorem Works.leads (h : Works service config s j steps a s') : Leads service s steps s' := by
  cases h with
  | idle => exact .nil
  | ruleFailed _ h | removalFailed h => exact .cons h .nil
  | targetFailed _ h h' | armed _ h h' | deletionFailed h h' | cleaned h h' =>
    exact .cons h (.cons h' .nil)

/-- A call that fails is what its job fails of. -/
theorem Works.failure?_eq (h : Works service config s j steps a s') {x : Step σ} {f : Fault}
    (hx : x ∈ steps) (hf : x.outcome = .error f) :
    a.failure? = some (.service x.call.operation f) := by
  cases h with
  | idle => cases hx
  | ruleFailed | removalFailed =>
    obtain rfl := List.mem_singleton.mp hx
    cases hf
    rfl
  | targetFailed | deletionFailed =>
    simp only [List.mem_cons, List.not_mem_nil, or_false] at hx
    rcases hx with rfl | rfl <;> cases hf
    rfl
  | armed | cleaned =>
    simp only [List.mem_cons, List.not_mem_nil, or_false] at hx
    rcases hx with rfl | rfl <;> cases hf

/-- A script that does what `Works` allows the job. -/
def Follows (service : Service σ) (generator : Generator γ) (config : Config) (j : Job)
    (x : Script Answer) : Prop :=
  ∀ w : World σ γ, Works service config w.service j (x.steps service generator w)
    (x.run service generator w).1 (x.run service generator w).2.service

theorem follows_done {j : Job} {a : Answer} (h : a.Idle) :
    Follows service generator config j (.done a) := fun _ => .idle h

theorem follows_note {j : Job} {x : Script Answer} {e : Entry}
    (h : Follows service generator config j x) : Follows service generator config j (.note e x) :=
  fun w => h { w with journal := w.journal ++ [e] }

theorem follows_draw {j : Job} {next : Except Failure String → Script Answer}
    (h : ∀ i, Follows service generator config j (next i)) :
    Follows service generator config j (.draw next) :=
  fun w => h _ { w with generator := (generator w.generator).2 }

theorem follows_arm {r : Request} {ids : TriggerIds} (hids : r.isNamed → ids = r.ids) :
    Follows service generator config (.schedule r)
      ((Action.within .schedule ids (arm config r ids)).run >>= fun a => .done (.scheduled a)) := by
  rw [Action.run_within, run_arm]
  intro w
  rcases h : service (.putRule ids.ruleName r.schedule.expression config.ruleState) w.service with
    ⟨o, events, s'⟩
  rcases o with f | ⟨⟩
  · simp only [note_bind, call_bind, done_bind, steps, run, h]
    exact .ruleFailed hids h
  · rcases h' : service (.putTarget ids.ruleName ids.targetId r.destination r.payload) s' with
      ⟨o, events', s''⟩
    rcases o with f | ⟨⟩
    · simp only [note_bind, call_bind, done_bind, steps, run, h, h']
      exact .targetFailed hids h h'
    · simp only [note_bind, call_bind, done_bind, steps, run, h, h']
      exact .armed hids h h'

theorem follows_disarm (ids : TriggerIds) :
    Follows service generator config (.cleanup ids)
      ((Action.within .cleanup ids (disarm ids)).run >>= fun a => .done (.cleaned a)) := by
  rw [Action.run_within, run_disarm]
  intro w
  rcases h : service (.removeTarget ids.ruleName ids.targetId) w.service with ⟨o, events, s'⟩
  rcases o with f | ⟨⟩
  · simp only [note_bind, call_bind, done_bind, steps, run, h]
    exact .removalFailed h
  · rcases h' : service (.deleteRule ids.ruleName) s' with ⟨o, events', s''⟩
    rcases o with f | ⟨⟩
    · simp only [note_bind, call_bind, done_bind, steps, run, h, h']
      exact .deletionFailed h h'
    · simp only [note_bind, call_bind, done_bind, steps, run, h, h']
      exact .cleaned h h'

theorem run_freshToken : freshToken.run = .draw fun i => .done (i.map fun s => ⟨s⟩) := by
  simp only [freshToken, ExceptT.run_bind, Action.run_draw, draw_bind, done_bind]
  congr 1
  funext i
  cases i <;> rfl

theorem run_freshIds : freshIds.run = .draw fun i => .done (i.map fun s => .ofToken ⟨s⟩) := by
  simp only [freshIds, ExceptT.run_bind, run_freshToken, draw_bind, done_bind]
  congr 1
  funext i
  cases i <;> rfl

theorem run_resolve (r : Request) : (resolve r).run =
    if r.isNamed then .done (.ok r.ids)
    else .draw fun
      | .error f => .done (.error f)
      | .ok s => .note (.noted (.freshIds (TriggerIds.ofToken ⟨s⟩).ruleName))
        (.done (.ok (r.idsOr (.ofToken ⟨s⟩)))) := by
  unfold resolve
  split
  · rfl
  · simp only [ExceptT.run_bind, run_freshIds, draw_bind, done_bind]
    congr 1
    funext i
    cases i <;> rfl

/-- What is done once the names are known. -/
theorem follows_resolved {r : Request} {ids : TriggerIds} (hids : r.isNamed → ids = r.ids) :
    Follows service generator config (.schedule r)
      ((if ids.ruleName.isEmpty || ids.targetId.isEmpty then throw (.refused .noNames)
        else Action.within .schedule ids (arm config r ids) : Action Trigger).run >>= fun a =>
          .done (.scheduled a)) := by
  split
  · exact follows_done ⟨nofun, nofun⟩
  · exact follows_arm hids

theorem follows_schedule (r : Request) :
    Follows service generator config (.schedule r) (Job.script config (.schedule r)) := by
  rw [Job.script, schedule]
  split
  · exact follows_done ⟨nofun, nofun⟩
  · rw [ExceptT.run_bind, run_resolve]
    split
    · exact follows_resolved fun _ => rfl
    · next hn =>
      refine follows_draw fun i => ?_
      cases i with
      | error f => exact follows_done ⟨nofun, nofun⟩
      | ok s => exact follows_note (follows_resolved fun h => absurd h hn)

theorem follows_cleanup (ids : TriggerIds) :
    Follows service generator config (.cleanup ids) (Job.script config (.cleanup ids)) := by
  rw [Job.script, cleanup]
  split
  · exact follows_done ⟨nofun, nofun⟩
  · split
    · exact follows_done ⟨nofun, nofun⟩
    · exact follows_disarm ids

/-- Everything a job can do, whatever the service answers and the generator gives. -/
theorem follows_script (j : Job) : Follows service generator config j (j.script config) := by
  cases j with
  | schedule r => exact follows_schedule r
  | cleanup ids => exact follows_cleanup ids
  | drawToken =>
    rw [Job.script, run_freshToken]
    exact follows_draw fun i => follows_done ⟨nofun, nofun⟩
  | drawIds =>
    rw [Job.script, run_freshIds]
    exact follows_draw fun i => follows_done ⟨nofun, nofun⟩

/-- Jobs done one after another. -/
inductive WorksAll (service : Service σ) (config : Config) :
    σ → List (Step σ) → List (Job × Answer) → σ → Prop where
  | nil {s : σ} : WorksAll service config s [] [] s
  | cons {s s' s'' : σ} {j : Job} {a : Answer} {steps later : List (Step σ)}
      {history : List (Job × Answer)} (h : Works service config s j steps a s')
      (hs : WorksAll service config s' later history s'') :
      WorksAll service config s (steps ++ later) ((j, a) :: history) s''

/-- A session does its jobs in order, and gives each its answer. -/
theorem worksAll_session (service : Service σ) (generator : Generator γ) (config : Config)
    (jobs : List Job) (w : World σ γ) :
    WorksAll service config w.service ((session config jobs).steps service generator w)
        ((session config jobs).run service generator w).1
        ((session config jobs).run service generator w).2.service ∧
      ((session config jobs).run service generator w).1.map Prod.fst = jobs := by
  induction jobs generalizing w with
  | nil => exact ⟨.nil, rfl⟩
  | cons j js ih =>
    obtain ⟨hw, hj⟩ := ih ((j.script config).run service generator w).2
    rw [session, steps_bind, run_bind, steps_bind, run_bind]
    simp only [steps, run, List.append_nil, List.map_cons, hj, and_true]
    exact .cons (follows_script j w) hw

end Wakeup.Scheduler
