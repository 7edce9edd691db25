import Wakeup.Proofs.Scheduler.Retry

/-! At no point of a session is there a target without its rule. -/
namespace Wakeup

/-- No rule name is used with two target ids. -/
def OneTargetPerRule (calls : List Call) : Prop :=
  ∀ c ∈ calls, ∀ c' ∈ calls, ∀ rule id id',
    c.target? = some (rule, id) → c'.target? = some (rule, id') → id = id'

namespace Recorder

/-- Each target has its rule, and no rule has two targets. -/
structure Anchored (r : Recorder) : Prop where
  hasRule : ∀ rule id, (r.targetPayload? rule id).isSome → r.hasRule rule
  unique : ∀ rule id id', (r.targetPayload? rule id).isSome →
    (r.targetPayload? rule id').isSome → id = id'

/-- The same, with the one target id of each rule known beforehand. -/
structure AnchoredBy (ids : RuleName → TargetId) (r : Recorder) : Prop where
  hasRule : ∀ rule id, (r.targetPayload? rule id).isSome → (r.ruleSchedule? rule).isSome
  id_eq : ∀ rule id, (r.targetPayload? rule id).isSome → id = ids rule

variable {ids : RuleName → TargetId} {r r' : Recorder} {events : List Event} {rule : RuleName}
  {id : TargetId}

theorem AnchoredBy.anchored (h : r.AnchoredBy ids) : r.Anchored := by
  constructor
  · intro rule id hi
    rw [hasRule_eq]
    exact h.hasRule rule id hi
  · intro rule id id' hi hi'
    exact (h.id_eq rule id hi).trans (h.id_eq rule id' hi').symm

theorem anchoredBy_empty (queued : Operation → List Outcome) :
    ({ queued } : Recorder).AnchoredBy ids := by
  constructor
  · intro rule id h
    simp [targetPayload?] at h
  · intro rule id h
    simp [targetPayload?] at h

theorem anchoredBy_error {c : Call} {f : Fault} (h : r.AnchoredBy ids)
    (hc : service c r = (.error f, events, r')) : r'.AnchoredBy ids := by
  obtain ⟨hr, ht⟩ := stored_of_error hc
  constructor
  · intro rule id hi
    rw [hr]
    exact h.hasRule rule id (ht rule id ▸ hi)
  · intro rule id hi
    exact h.id_eq rule id (ht rule id ▸ hi)

theorem anchoredBy_putRule {expression : String} {state : RuleState} (h : r.AnchoredBy ids)
    (hc : service (.putRule rule expression state) r = (.ok (), events, r')) :
    r'.AnchoredBy ids ∧ (r'.ruleSchedule? rule).isSome := by
  obtain ⟨hr, ht⟩ := stored_of_ok hc
  refine ⟨⟨?_, ?_⟩, ?_⟩
  · intro n i hi
    rw [ht, targetPayload?_apply] at hi
    rw [hr, ruleSchedule?_apply]
    simp only
    split
    · rfl
    · exact h.hasRule n i hi
  · intro n i hi
    rw [ht, targetPayload?_apply] at hi
    exact h.id_eq n i hi
  · rw [hr, ruleSchedule?_apply]
    simp

/-- A target may come to a rule that is there, under the id of that rule. -/
theorem anchoredBy_putTarget {destination : String} {payload : Payload} (h : r.AnchoredBy ids)
    (hrule : (r.ruleSchedule? rule).isSome) (hid : id = ids rule)
    (hc : service (.putTarget rule id destination payload) r = (.ok (), events, r')) :
    r'.AnchoredBy ids := by
  obtain ⟨hr, ht⟩ := stored_of_ok hc
  constructor
  · intro n i hi
    rw [ht, targetPayload?_apply] at hi
    rw [hr, ruleSchedule?_apply]
    simp only at hi
    split at hi
    · next he =>
      rw [← he.1]
      exact hrule
    · exact h.hasRule n i hi
  · intro n i hi
    rw [ht, targetPayload?_apply] at hi
    simp only at hi
    split at hi
    · next he =>
      rw [← he.1, ← he.2]
      exact hid
    · exact h.id_eq n i hi

theorem anchoredBy_removeTarget (h : r.AnchoredBy ids)
    (hc : service (.removeTarget rule id) r = (.ok (), events, r')) :
    r'.AnchoredBy ids ∧ r'.targetPayload? rule id = none := by
  obtain ⟨hr, ht⟩ := stored_of_ok hc
  refine ⟨⟨?_, ?_⟩, ?_⟩
  · intro n i hi
    rw [ht, targetPayload?_apply] at hi
    rw [hr, ruleSchedule?_apply]
    simp only at hi
    split at hi
    · cases hi
    · exact h.hasRule n i hi
  · intro n i hi
    rw [ht, targetPayload?_apply] at hi
    simp only at hi
    split at hi
    · cases hi
    · exact h.id_eq n i hi
  · rw [ht, targetPayload?_apply]
    exact if_pos ⟨rfl, rfl⟩

/-- A rule may go when its target is gone. -/
theorem anchoredBy_deleteRule (h : r.AnchoredBy ids)
    (hgone : r.targetPayload? rule (ids rule) = none)
    (hc : service (.deleteRule rule) r = (.ok (), events, r')) : r'.AnchoredBy ids := by
  obtain ⟨hr, ht⟩ := stored_of_ok hc
  constructor
  · intro n i hi
    rw [ht, targetPayload?_apply] at hi
    rw [hr, ruleSchedule?_apply]
    have hne : rule ≠ n := by
      rintro rfl
      rw [h.id_eq rule i hi, hgone] at hi
      cases hi
    simp only [if_neg hne]
    exact h.hasRule n i hi
  · intro n i hi
    rw [ht, targetPayload?_apply] at hi
    exact h.id_eq n i hi

end Recorder

namespace Scheduler

open Script Recorder TriggerIds

variable {γ : Type} {config : Config} {ids : RuleName → TargetId} {r r' : Recorder} {j : Job}
  {a : Answer} {steps : List (Step Recorder)} {history : List (Job × Answer)}

/-- The rule comes before its target and goes after it, so a job may stop at any call. -/
theorem anchoredBy_steps (h : Works Recorder.service config r j steps a r')
    (hids : ∀ x ∈ steps, ∀ rule id, x.call.target? = some (rule, id) → id = ids rule)
    (hr : r.AnchoredBy ids) : (∀ x ∈ steps, x.after.AnchoredBy ids) ∧ r'.AnchoredBy ids := by
  cases h with
  | idle => exact ⟨fun x hx => absurd hx List.not_mem_nil, hr⟩
  | ruleFailed _ h | removalFailed h =>
    have hr' := anchoredBy_error hr h
    exact ⟨List.forall_mem_singleton.mpr hr', hr'⟩
  | targetFailed _ h h' =>
    obtain ⟨hm, _⟩ := anchoredBy_putRule hr h
    have hr' := anchoredBy_error hm h'
    exact ⟨List.forall_mem_cons.mpr ⟨hm, List.forall_mem_singleton.mpr hr'⟩, hr'⟩
  | armed _ h h' =>
    obtain ⟨hm, hrule⟩ := anchoredBy_putRule hr h
    have hid := hids _ (List.mem_cons_of_mem _ List.mem_cons_self) _ _ rfl
    have hr' := anchoredBy_putTarget hm hrule hid h'
    exact ⟨List.forall_mem_cons.mpr ⟨hm, List.forall_mem_singleton.mpr hr'⟩, hr'⟩
  | deletionFailed h h' =>
    obtain ⟨hm, _⟩ := anchoredBy_removeTarget hr h
    have hr' := anchoredBy_error hm h'
    exact ⟨List.forall_mem_cons.mpr ⟨hm, List.forall_mem_singleton.mpr hr'⟩, hr'⟩
  | cleaned h h' =>
    obtain ⟨hm, hgone⟩ := anchoredBy_removeTarget hr h
    have hid := hids _ List.mem_cons_self _ _ rfl
    rw [hid] at hgone
    have hr' := anchoredBy_deleteRule hm hgone h'
    exact ⟨List.forall_mem_cons.mpr ⟨hm, List.forall_mem_singleton.mpr hr'⟩, hr'⟩

theorem anchoredBy_all (h : WorksAll Recorder.service config r steps history r')
    (hids : ∀ x ∈ steps, ∀ rule id, x.call.target? = some (rule, id) → id = ids rule)
    (hr : r.AnchoredBy ids) : ∀ x ∈ steps, x.after.AnchoredBy ids := by
  induction h with
  | nil => exact fun x hx => absurd hx List.not_mem_nil
  | cons h _ ih =>
    obtain ⟨hsteps, hr'⟩ := anchoredBy_steps h
      (fun x hx => hids x (List.mem_append_left _ hx)) hr
    have hlater := ih (fun x hx => hids x (List.mem_append_right _ hx)) hr'
    intro x hx
    rcases List.mem_append.mp hx with hx | hx
    · exact hsteps x hx
    · exact hlater x hx

/-- The ids that rules are used with, as a function. -/
theorem exists_id_of_oneTargetPerRule {calls : List Call} (h : OneTargetPerRule calls) :
    ∃ ids : RuleName → TargetId,
      ∀ c ∈ calls, ∀ rule id, c.target? = some (rule, id) → id = ids rule := by
  have hex : ∀ rule, ∃ i, ∀ c ∈ calls, ∀ id, c.target? = some (rule, id) → id = i := by
    intro rule
    by_cases hc : ∃ c ∈ calls, ∃ i, c.target? = some (rule, i)
    · obtain ⟨c, hc, i, hi⟩ := hc
      exact ⟨i, fun c' hc' id hid => h c' hc' c hc rule id i hid hi⟩
    · exact ⟨⟨""⟩, fun c' hc' id hid => absurd ⟨c', hc', id, hid⟩ hc⟩
  obtain ⟨ids, hids⟩ := Classical.axiomOfChoice hex
  exact ⟨ids, fun c hc rule id hi => hids rule c hc id hi⟩

theorem uses_of_byToken_all (h : WorksAll Recorder.service config r steps history r')
    (hj : ∀ e ∈ history, e.1.ByToken) : ∀ x ∈ steps, ∃ t, x.call.Uses (.ofToken t) := by
  induction h with
  | nil => exact fun x hx => absurd hx List.not_mem_nil
  | cons h _ ih =>
    have hlater := ih fun e he => hj e (List.mem_cons_of_mem _ he)
    intro x hx
    rcases List.mem_append.mp hx with hx | hx
    · obtain ⟨t, _, ht⟩ := uses_of_byToken h (hj _ List.mem_cons_self) x hx
      exact ⟨t, ht⟩
    · exact hlater x hx

/-- Names derived from tokens pair each rule with one target. -/
theorem oneTargetPerRule_of_byToken (config : Config) (generator : Generator γ) (g : γ)
    (queued : Operation → List Outcome) (jobs : List Job) (hjobs : ∀ j ∈ jobs, j.ByToken) :
    OneTargetPerRule ((session config jobs).run Recorder.service generator
      ⟨{ queued }, g, []⟩).2.service.calls := by
  obtain ⟨hw, hfst⟩ := worksAll_session Recorder.service generator config jobs ⟨{ queued }, g, []⟩
  rw [← hfst] at hjobs
  have huses := uses_of_byToken_all hw (List.forall_mem_map.mp hjobs)
  rw [calls_of_leads (leads_steps _ _ _ _), List.nil_append]
  intro c hc c' hc' rule id id' hi hi'
  obtain ⟨x, hx, rfl⟩ := List.mem_map.mp hc
  obtain ⟨x', hx', rfl⟩ := List.mem_map.mp hc'
  obtain ⟨t, _, ht⟩ := huses x hx
  obtain ⟨t', _, ht'⟩ := huses x' hx'
  obtain ⟨hr, rfl⟩ := Prod.mk.inj (ht _ hi)
  obtain ⟨hr', rfl⟩ := Prod.mk.inj (ht' _ hi')
  obtain rfl := ruleName_ofToken_inj.mp (hr.symm.trans hr')
  rfl

/-- Starting with an empty service that fails as it likes, after each single call of a session
every target has its rule and no rule has two targets. -/
theorem anchored_after_each_call (config : Config) (generator : Generator γ) (g : γ)
    (queued : Operation → List Outcome) (jobs : List Job)
    (h : OneTargetPerRule ((session config jobs).run Recorder.service generator
      ⟨{ queued }, g, []⟩).2.service.calls) :
    ∀ x ∈ (session config jobs).steps Recorder.service generator ⟨{ queued }, g, []⟩,
      x.after.Anchored := by
  obtain ⟨hw, _⟩ := worksAll_session Recorder.service generator config jobs ⟨{ queued }, g, []⟩
  obtain ⟨ids, hids⟩ := exists_id_of_oneTargetPerRule h
  rw [calls_of_leads (leads_steps _ _ _ _), List.nil_append] at hids
  have hall := anchoredBy_all hw (fun y hy => hids y.call (List.mem_map_of_mem hy))
    (anchoredBy_empty queued)
  intro x hx
  exact (hall x hx).anchored

/-- A cleanup that stops when the target is gone. -/
theorem anchored_after_deletionFailed :
    let jobs : List Job := [.schedule (requestAtEpoch 5 ⟨"one"⟩), .cleanup (ofToken ⟨"a"⟩)]
    ∀ x ∈ (session {} jobs).steps Recorder.service (fun g => (.error (.identifier ""), g))
      ⟨failingOnce .deleteRule, (), []⟩, x.after.Anchored := by
  intro jobs
  have hjobs : ∀ j ∈ jobs, j.ByToken := by
    intro j hj
    simp only [jobs, List.mem_cons, List.not_mem_nil, or_false] at hj
    rcases hj with rfl | rfl
    · exact ⟨rfl, rfl, rfl⟩
    · exact ⟨_, rfl⟩
  have hone := oneTargetPerRule_of_byToken {} (fun g => (.error (.identifier ""), g)) ()
    (failingOnce .deleteRule).queued jobs hjobs
  exact anchored_after_each_call {} _ () _ jobs hone

end Scheduler
end Wakeup
