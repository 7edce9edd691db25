import Wakeup.Proofs.Scheduler.Isolation

/-! Attempts under one token meet at one rule and one target: however their calls come between each
other, and whichever fail, they leave nothing else. -/
namespace Wakeup.Scheduler

open Script Script.Pool Recorder TriggerIds

variable {σ ι γ : Type} {service : Service σ} {generator : Generator γ} {config : Config}
  {t : Token} {ids : TriggerIds} {c : Call} {q : Request}

theorem PutBy.of_writesRule {name : RuleName} (h : PutBy config ids q c)
    (hw : c.writesRule name) : name = ids.ruleName ∧
      c = .putRule ids.ruleName q.schedule.expression config.ruleState := by
  rcases h with rfl | rfl
  · exact ⟨(of_decide_eq_true hw).symm, rfl⟩
  · cases hw

theorem PutBy.of_writesTarget {name : RuleName} {id : TargetId} (h : PutBy config ids q c)
    (hw : c.writesTarget name id) : (name, id) = (ids.ruleName, ids.targetId) ∧
      c = .putTarget ids.ruleName ids.targetId q.destination q.payload := by
  rcases h with rfl | rfl
  · cases hw
  · obtain ⟨rfl, rfl⟩ := of_decide_eq_true hw
    exact ⟨rfl, rfl⟩

section

variable [DecidableEq ι] {configs : ι → Config} {requests : ι → Request} {turns : List ι}

/-- Attempts side by side, each of a scheduler of its own. -/
def attempts (configs : ι → Config) (requests : ι → Request) (w : World σ γ) :
    Pool ι (Except Failure Trigger) σ γ :=
  ⟨fun i => (schedule (configs i) (requests i)).run, w⟩

theorem putBy_of_play {w : World σ γ}
    (hq : ∀ i, (Job.schedule (requests i)).ByToken ∧ (Job.schedule (requests i)).On t) :
    ∀ e ∈ exchanges ((attempts configs requests w).play service generator turns).1,
      ∃ i, PutBy (configs i) (ofToken t) (requests i) e.1 := by
  intro e he
  obtain ⟨x, hx, rfl⟩ := mem_exchanges.mp he
  exact ⟨x.1, forall_calls_play (fun i => PutBy (configs i) (ofToken t) (requests i)) service
    generator turns (fun i => onlyCalls_onToken (configs i) (hq i).1 (hq i).2) x hx⟩

/-- Once an attempt has succeeded both of its calls have been granted. -/
theorem granted_of_play {w : World σ γ} {i : ι} {trigger : Trigger}
    (hq : (Job.schedule (requests i)).ByToken ∧ (Job.schedule (requests i)).On t)
    (h : ((attempts configs requests w).play service generator turns).2.scripts i =
      .done (.ok trigger)) (hc : PutBy (configs i) (ofToken t) (requests i) c) :
    (c, .ok ()) ∈ exchanges ((attempts configs requests w).play service generator turns).1 := by
  obtain ⟨hn, hids⟩ := ids_of_onToken hq.1
  obtain rfl : (requests i).token = t := hq.2
  rw [← hids] at hc
  obtain ⟨x, hx, _, he⟩ := mem_exchangesOf.mp (granted_of_scheduled hn (reaches_of_eq h) hc)
  exact mem_exchanges.mpr ⟨x, hx, he⟩

end

/-- However the calls of attempts under one token come between each other, and whichever fail, no
rule changes but the token's and no target but the token's. What these hold is of one of the
attempts, the last to put it, and once an attempt has succeeded both are there. -/
theorem attempts_share_names [DecidableEq ι] (configs : ι → Config) (requests : ι → Request)
    (generator : Generator γ) (w : World Recorder γ) (turns : List ι) (t : Token)
    (hq : ∀ i, (Job.schedule (requests i)).ByToken ∧ (Job.schedule (requests i)).On t) :
    let played := (attempts configs requests w).play Recorder.service generator turns
    let made := exchanges played.1
    let before := w.service
    let after := played.2.world.service
    let rule := (ofToken t).ruleName
    let id := (ofToken t).targetId
    ((∀ name, name ≠ rule → after.ruleSchedule? name = before.ruleSchedule? name) ∧
      match lastGranted? (Call.writesRule rule) made with
      | none => after.ruleSchedule? rule = before.ruleSchedule? rule
      | some c => ∃ i,
        c = .putRule rule (requests i).schedule.expression (configs i).ruleState ∧
        after.ruleSchedule? rule = some (requests i).schedule.expression) ∧
    ((∀ name i, (name, i) ≠ (rule, id) →
        after.targetPayload? name i = before.targetPayload? name i) ∧
      match lastGranted? (Call.writesTarget rule id) made with
      | none => after.targetPayload? rule id = before.targetPayload? rule id
      | some c => ∃ i,
        c = .putTarget rule id (requests i).destination (requests i).payload ∧
        after.targetPayload? rule id = some (requests i).payload) ∧
    after.ruleCount ≤ before.ruleCount + 1 ∧ after.targets.size ≤ before.targets.size + 1 ∧
    ∀ i trigger, played.2.scripts i = .done (.ok trigger) →
      after.hasRule rule ∧ (after.targetPayload? rule id).isSome := by
  intro played made before after rule id
  have hmade : ∀ e ∈ made, ∃ i, PutBy (configs i) (ofToken t) (requests i) e.1 :=
    putBy_of_play hq
  have hleads := leads_play Recorder.service generator turns (attempts configs requests w)
  obtain ⟨hrules, hrule, hput⟩ := kept_of_family rule (ruleSchedule?_of_leads hleads)
    fun name e he hw => by
      obtain ⟨i, hi⟩ := hmade e he
      obtain ⟨hname, hc⟩ := hi.of_writesRule hw
      exact ⟨hname, i, hc⟩
  obtain ⟨htargets, htarget, hputTarget⟩ := kept_of_family (rule, id)
    (fun k => targetPayload?_of_leads hleads k.1 k.2) fun k e he hw => by
      obtain ⟨i, hi⟩ := hmade e he
      obtain ⟨hname, hc⟩ := hi.of_writesTarget hw
      exact ⟨hname, i, hc⟩
  refine ⟨⟨hrules, hrule⟩, ⟨fun name i => htargets (name, i), htarget⟩, size_le_of_eq_off hrules,
    size_le_of_eq_off htargets, fun i trigger h => ?_⟩
  obtain ⟨_, hrule⟩ := hput _ (granted_of_play (hq i) h (.inl rfl)) (decide_eq_true rfl)
  obtain ⟨_, htarget⟩ := hputTarget _ (granted_of_play (hq i) h (.inr rfl))
    (decide_eq_true ⟨rfl, rfl⟩)
  rw [hasRule_eq]
  exact ⟨congrArg Option.isSome hrule, congrArg Option.isSome htarget⟩

/-- Two attempts by turns, the second without its target: the rule is of the one, the target of the
other. -/
theorem attempts_share_names_mixed :
    let ids := ofToken ⟨"a"⟩
    let requests : Fin 2 → Request := fun i =>
      if i = 0 then requestAtEpoch 5 ⟨"one"⟩ else requestAtEpoch 7 ⟨"two"⟩
    let pool := attempts (γ := Unit) (fun _ => {}) requests ⟨failingOnce .putTargets, (), []⟩
    let turns : List (Fin 2) := [0, 0, 0, 1, 1, 1, 1, 0, 0, 0, 0, 1, 1]
    let played := pool.play Recorder.service (fun g => (.error (.identifier ""), g)) turns
    let after := played.2.world.service
    after.hasRule ids.ruleName ∧ after.ruleCount ≤ 1 ∧
      after.ruleSchedule? ids.ruleName = some "cron(07 00 01 01 ? 1970)" ∧
      after.targetPayload? ids.ruleName ids.targetId = some ⟨"one"⟩ := by
  intro ids requests pool turns played after
  have hq : ∀ i, (Job.schedule (requests i)).ByToken ∧ (Job.schedule (requests i)).On ⟨"a"⟩ := by
    intro i
    match i with
    | 0 | 1 => exact ⟨⟨rfl, rfl, rfl⟩, rfl⟩
  have hlast : lastGranted? (Call.writesRule ids.ruleName) (exchanges played.1) =
      some (.putRule ids.ruleName (requestAtEpoch 7 ⟨"two"⟩).schedule.expression .enabled) := by rfl
  have hlastTarget : lastGranted? (Call.writesTarget ids.ruleName ids.targetId)
      (exchanges played.1) = some (.putTarget ids.ruleName ids.targetId "arn" ⟨"one"⟩) := by rfl
  have hschedule : (requestAtEpoch 7 ⟨"two"⟩).schedule = ⟨7, 0, 1, 1, 1970⟩ := by rfl
  have htext : (⟨7, 0, 1, 1, 1970⟩ : Schedule).expression = "cron(07 00 01 01 ? 1970)" := by rfl
  obtain ⟨⟨_, hrule⟩, ⟨_, htarget⟩, hcount, _, hok⟩ := attempts_share_names (fun _ => {}) requests
    (fun g => (.error (.identifier ""), g)) ⟨failingOnce .putTargets, (), []⟩ turns ⟨"a"⟩ hq
  have hdone := hok 0 _ rfl
  rw [hlast] at hrule
  rw [hlastTarget] at htarget
  obtain ⟨i, hi, hrule⟩ := hrule
  obtain ⟨k, hk, htarget⟩ := htarget
  rw [← (Call.putRule.inj hi).2.1, hschedule, htext] at hrule
  rw [← (Call.putTarget.inj hk).2.2.2] at htarget
  exact ⟨hdone.1, hcount, hrule, htarget⟩

end Wakeup.Scheduler
