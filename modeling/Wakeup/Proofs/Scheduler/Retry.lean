import Wakeup.Proofs.Scheduler.Jobs
import Wakeup.Proofs.Service.Recorder
import Wakeup.Proofs.Trigger.Names

/-! The last job on a token decides what is kept under it, whatever failed before. -/
namespace Wakeup.Scheduler

open Script TriggerIds

/-- The job is about what is named after the token. -/
def Job.On (t : Token) : Job → Prop
  | schedule r => r.token = t
  | cleanup ids => ids = ofToken t
  | drawToken | drawIds => False

instance (t : Token) : DecidablePred (Job.On t)
  | .schedule r => inferInstanceAs (Decidable (r.token = t))
  | .cleanup ids => inferInstanceAs (Decidable (ids = ofToken t))
  | .drawToken | .drawIds => inferInstanceAs (Decidable False)

/-- The job uses no names but those derived from a token. -/
def Job.ByToken : Job → Prop
  | schedule r => r.token.isEmpty = false ∧ r.ruleName = none ∧ r.targetId = none
  | cleanup ids => ∃ t, ids = ofToken t
  | drawToken | drawIds => True

/-- The last job on the token, with its answer. -/
def lastOn (t : Token) (history : List (Job × Answer)) : Option (Job × Answer) :=
  (history.filter fun e => e.1.On t).getLast?

/-- The rule and the target that are kept under the token. -/
def Keeps (r : Recorder) (t : Token) (rule : Option String) (target : Option Payload) : Prop :=
  r.ruleSchedule? (ofToken t).ruleName = rule ∧
    r.targetPayload? (ofToken t).ruleName (ofToken t).targetId = target

/-- The success of the last job on the token is still to be seen. -/
def Settled (t : Token) (history : List (Job × Answer)) (r : Recorder) : Prop :=
  (∀ j trigger, lastOn t history = some (j, .scheduled (.ok trigger)) →
    Keeps r t (some trigger.schedule.expression) (some trigger.payload)) ∧
  (∀ j, lastOn t history = some (j, .cleaned (.ok ())) → Keeps r t none none)

variable {σ γ : Type} {service : Service σ} {config : Config} {s s' : σ} {r r' : Recorder}
  {j : Job} {a : Answer} {steps : List (Step σ)} {calls : List (Step Recorder)} {t : Token}
  {history past : List (Job × Answer)}

theorem lastOn_concat_of_on (h : j.On t) : lastOn t (history ++ [(j, a)]) = some (j, a) := by
  simp [lastOn, List.filter_append, h]

theorem lastOn_concat_of_not_on (h : ¬ j.On t) :
    lastOn t (history ++ [(j, a)]) = lastOn t history := by
  simp [lastOn, List.filter_append, h]

theorem ids_of_byToken {q : Request} (h : (Job.schedule q).ByToken) {ids : TriggerIds}
    (hids : q.isNamed → ids = q.ids) : ids = ofToken q.token := by
  obtain ⟨ht, hr, hi⟩ := h
  have hn : q.isNamed := by simp [Request.isNamed, ht]
  rw [hids hn, Request.ids, Request.idsOr, hr, hi]
  rfl

/-- A job by token makes calls with the names of its own token only. -/
theorem uses_of_byToken (h : Works service config s j steps a s') (hj : j.ByToken) :
    ∀ x ∈ steps, ∃ u, j.On u ∧ x.call.Uses (ofToken u) := by
  intro x hx
  cases h with
  | idle => cases hx
  | ruleFailed hids | targetFailed hids | armed hids =>
    have he := ids_of_byToken hj hids
    simp only [List.mem_cons, List.not_mem_nil, or_false] at hx
    rcases hx with rfl | rfl <;> exact ⟨_, rfl, by simp [Call.Uses, Call.rule, Call.target?, he]⟩
  | removalFailed | deletionFailed | cleaned =>
    obtain ⟨u, rfl⟩ := hj
    simp only [List.mem_cons, List.not_mem_nil, or_false] at hx
    rcases hx with rfl | rfl <;> exact ⟨u, rfl, by simp [Call.Uses, Call.rule, Call.target?]⟩

theorem rule_of_byToken (h : Works service config s j steps a s') (hj : j.ByToken)
    (hn : ¬ j.On t) : ∀ x ∈ steps, x.call.rule ≠ (ofToken t).ruleName := by
  intro x hx he
  obtain ⟨u, hu, hc⟩ := uses_of_byToken h hj x hx
  rw [hc.1] at he
  exact hn (ruleName_ofToken_inj.mp he ▸ hu)

theorem keeps_of_not_on (h : Works Recorder.service config r j calls a r') (hj : j.ByToken)
    (hn : ¬ j.On t) {rule : Option String} {target : Option Payload} (hk : Keeps r t rule target) :
    Keeps r' t rule target := by
  obtain ⟨hr, ht⟩ := Recorder.stored_of_leads h.leads (rule_of_byToken h hj hn)
  exact ⟨hr.trans hk.1, (ht _).trans hk.2⟩

/-- Scheduling that succeeds leaves the new rule and the new target, whatever it found. -/
theorem keeps_of_scheduled {trigger : Trigger}
    (h : Works Recorder.service config r j calls (.scheduled (.ok trigger)) r') (hj : j.ByToken)
    (hon : j.On t) : Keeps r' t (some trigger.schedule.expression) (some trigger.payload) := by
  cases h with
  | idle ha => exact absurd rfl (ha.1 trigger)
  | armed hids h h' =>
    obtain rfl := ids_of_byToken hj hids
    obtain rfl : _ = t := hon
    obtain ⟨hr, _⟩ := Recorder.stored_of_ok h
    obtain ⟨hr', ht'⟩ := Recorder.stored_of_ok h'
    constructor
    · rw [hr', Recorder.ruleSchedule?_apply, hr, Recorder.ruleSchedule?_apply]
      exact if_pos rfl
    · rw [ht', Recorder.targetPayload?_apply]
      exact if_pos ⟨rfl, rfl⟩

theorem keeps_of_cleaned (h : Works Recorder.service config r j calls (.cleaned (.ok ())) r')
    (hon : j.On t) : Keeps r' t none none := by
  cases h with
  | idle ha => exact absurd rfl ha.2
  | cleaned h h' =>
    obtain rfl : _ = ofToken t := hon
    obtain ⟨_, ht⟩ := Recorder.stored_of_ok h
    obtain ⟨hr', ht'⟩ := Recorder.stored_of_ok h'
    constructor
    · rw [hr', Recorder.ruleSchedule?_apply]
      exact if_pos rfl
    · rw [ht', Recorder.targetPayload?_apply, ht, Recorder.targetPayload?_apply]
      exact if_pos ⟨rfl, rfl⟩

theorem settled_step (h : Works Recorder.service config r j calls a r') (hj : j.ByToken)
    (hs : Settled t past r) : Settled t (past ++ [(j, a)]) r' := by
  by_cases hon : j.On t
  · rw [Settled, lastOn_concat_of_on hon]
    constructor
    · intro _ trigger he
      cases he
      exact keeps_of_scheduled h hj hon
    · intro _ he
      cases he
      exact keeps_of_cleaned h hon
  · rw [Settled, lastOn_concat_of_not_on hon]
    constructor
    · intro i trigger he
      exact keeps_of_not_on h hj hon (hs.1 i trigger he)
    · intro i he
      exact keeps_of_not_on h hj hon (hs.2 i he)

theorem settled_all (h : WorksAll Recorder.service config r calls history r')
    (hj : ∀ e ∈ history, e.1.ByToken) (hs : Settled t past r) : Settled t (past ++ history) r' := by
  induction h generalizing past with
  | nil => rwa [List.append_nil]
  | cons h _ ih =>
    have hstep := settled_step h (hj _ List.mem_cons_self) hs
    have hrest := ih (fun e he => hj e (List.mem_cons_of_mem _ he)) hstep
    rwa [List.append_assoc] at hrest

theorem settled_nil (t : Token) (r : Recorder) : Settled t [] r := by
  constructor
  · intro _ _ he
    cases he
  · intro _ he
    cases he

/-- A retry heals: once the last job on a token has succeeded, what is kept under the token is as
its answer says, wherever earlier jobs stopped and whatever was done under other tokens. -/
theorem kept_after_last_job (config : Config) (generator : Generator γ) (w : World Recorder γ)
    (jobs : List Job) (hjobs : ∀ j ∈ jobs, j.ByToken) (t : Token) :
    let done := (session config jobs).run Recorder.service generator w
    (∀ j trigger, lastOn t done.1 = some (j, .scheduled (.ok trigger)) →
      done.2.service.ruleSchedule? (ofToken t).ruleName = some trigger.schedule.expression ∧
      done.2.service.targetPayload? (ofToken t).ruleName (ofToken t).targetId =
        some trigger.payload) ∧
    (∀ j, lastOn t done.1 = some (j, .cleaned (.ok ())) →
      done.2.service.hasRule (ofToken t).ruleName = false ∧
      done.2.service.targetPayload? (ofToken t).ruleName (ofToken t).targetId = none) := by
  intro done
  obtain ⟨hw, hfst⟩ := worksAll_session Recorder.service generator config jobs w
  rw [← hfst] at hjobs
  have hj : ∀ e ∈ done.1, e.1.ByToken := List.forall_mem_map.mp hjobs
  obtain ⟨hs, hc⟩ := settled_all hw hj (settled_nil t w.service)
  refine ⟨hs, fun j he => ?_⟩
  obtain ⟨hr, ht⟩ := hc j he
  rw [Recorder.hasRule_eq, hr]
  exact ⟨rfl, ht⟩

/-- A request at 1970-01-01T00:00Z, under a token of one letter. -/
def requestAtEpoch (delayMinutes : Int64) (payload : Payload) : Request :=
  ⟨"arn", delayMinutes, payload, ⟨0, 0, by decide, by decide, by decide, by decide⟩, ⟨"a"⟩,
    none, none⟩

/-- A service whose first call of one kind fails. -/
def failingOnce (op : Operation) : Recorder := { queued := fun op' =>
  if op' = op then [.error ⟨"", true, none⟩] else [] }

/-- The first request fails at its target; there is a cleanup under another token before the
second. -/
theorem kept_after_targetFailed :
    let jobs : List Job := [.schedule (requestAtEpoch 5 ⟨"one"⟩), .cleanup (ofToken ⟨"b"⟩),
      .schedule (requestAtEpoch 7 ⟨"two"⟩)]
    let done := (session {} jobs).run Recorder.service (fun g => (.error (.identifier ""), g))
      ⟨failingOnce .putTargets, (), []⟩
    done.2.service.ruleSchedule? (ofToken ⟨"a"⟩).ruleName = some "cron(07 00 01 01 ? 1970)" ∧
      done.2.service.targetPayload? (ofToken ⟨"a"⟩).ruleName (ofToken ⟨"a"⟩).targetId =
        some ⟨"two"⟩ := by
  intro jobs done
  have hjobs : ∀ j ∈ jobs, j.ByToken := by
    intro j hj
    simp only [jobs, List.mem_cons, List.not_mem_nil, or_false] at hj
    rcases hj with rfl | rfl | rfl
    · exact ⟨rfl, rfl, rfl⟩
    · exact ⟨_, rfl⟩
    · exact ⟨rfl, rfl, rfl⟩
  have hlast : lastOn ⟨"a"⟩ done.1 = some (.schedule (requestAtEpoch 7 ⟨"two"⟩),
      .scheduled (.ok ⟨ofToken ⟨"a"⟩, ⟨7, 0, 1, 1, 1970⟩, "arn", ⟨"two"⟩⟩)) := by rfl
  have htext : (⟨7, 0, 1, 1, 1970⟩ : Schedule).expression = "cron(07 00 01 01 ? 1970)" := by rfl
  obtain ⟨hkept, _⟩ :=
    kept_after_last_job {} _ ⟨failingOnce .putTargets, (), []⟩ jobs hjobs ⟨"a"⟩
  rw [← htext]
  exact hkept _ ⟨ofToken ⟨"a"⟩, ⟨7, 0, 1, 1, 1970⟩, "arn", ⟨"two"⟩⟩ hlast

end Wakeup.Scheduler
