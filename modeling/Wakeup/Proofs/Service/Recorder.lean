import Wakeup.Proofs.Script.Steps
import Wakeup.Service.Recorder

/-! What a call changes in the memory of rules and targets, and what it leaves alone. -/
namespace Wakeup

/-- The rule that a call is about. -/
def Call.rule : Call → RuleName
  | putRule name _ _ => name
  | putTarget rule _ _ _ => rule
  | removeTarget rule _ => rule
  | deleteRule name => name

/-- The target that a call is about, with its rule. -/
def Call.target? : Call → Option (RuleName × TargetId)
  | putTarget rule id _ _ | removeTarget rule id => some (rule, id)
  | putRule .. | deleteRule _ => none

/-- The call names nothing else. -/
def Call.Uses (ids : TriggerIds) (c : Call) : Prop :=
  c.rule = ids.ruleName ∧ ∀ x ∈ c.target?, x = (ids.ruleName, ids.targetId)

namespace Recorder

variable {r r' : Recorder} {c : Call} {events : List Event} {name : RuleName}

theorem hasRule_eq (r : Recorder) (name : RuleName) :
    r.hasRule name = (r.ruleSchedule? name).isSome :=
  Std.HashMap.contains_eq_isSome_getElem?

theorem ruleSchedule?_apply (r : Recorder) (c : Call) (name : RuleName) :
    (r.apply c).ruleSchedule? name =
      match c with
      | .putRule n e _ => if n = name then some e else r.ruleSchedule? name
      | .deleteRule n => if n = name then none else r.ruleSchedule? name
      | _ => r.ruleSchedule? name := by
  cases c with
  | putRule n e s => simp [apply, ruleSchedule?, Std.HashMap.getElem?_insert]
  | putTarget n i d p => rfl
  | removeTarget n i => rfl
  | deleteRule n => simp [apply, ruleSchedule?, Std.HashMap.getElem?_erase]

theorem targetPayload?_apply (r : Recorder) (c : Call) (rule : RuleName) (id : TargetId) :
    (r.apply c).targetPayload? rule id =
      match c with
      | .putTarget n i _ p => if n = rule ∧ i = id then some p else r.targetPayload? rule id
      | .removeTarget n i => if n = rule ∧ i = id then none else r.targetPayload? rule id
      | _ => r.targetPayload? rule id := by
  cases c with
  | putRule n e s => rfl
  | putTarget n i d p => simp [apply, targetPayload?, Std.HashMap.getElem?_insert]
  | removeTarget n i => simp [apply, targetPayload?, Std.HashMap.getElem?_erase]
  | deleteRule n => rfl

theorem apply_of_rule_ne (h : c.rule ≠ name) :
    (r.apply c).ruleSchedule? name = r.ruleSchedule? name ∧
      ∀ id, (r.apply c).targetPayload? name id = r.targetPayload? name id := by
  rw [ruleSchedule?_apply]
  constructor
  · cases c with
    | putRule n e s => exact if_neg h
    | putTarget n i d p => rfl
    | removeTarget n i => rfl
    | deleteRule n => exact if_neg h
  · intro id
    rw [targetPayload?_apply]
    cases c with
    | putRule n e s => rfl
    | putTarget n i d p => exact if_neg fun he => h he.1
    | removeTarget n i => exact if_neg fun he => h he.1
    | deleteRule n => rfl

theorem service_eq_iff {o : Outcome} :
    service c r = (o, events, r') ↔ r.answer c = (o, r') ∧ events = [] := by
  unfold service
  constructor
  · intro h
    cases h
    exact ⟨rfl, rfl⟩
  · rintro ⟨h, rfl⟩
    rw [h]

/-- Every call is taken down; one that succeeds is carried out, and one that fails changes neither
rules nor targets. -/
theorem service_cases {o : Outcome} (h : service c r = (o, events, r')) :
    r'.calls = r.calls ++ [c] ∧
      (o = .ok () ∧ r'.rules = (r.apply c).rules ∧ r'.targets = (r.apply c).targets ∨
        (∃ f, o = .error f) ∧ r'.rules = r.rules ∧ r'.targets = r.targets) := by
  have ha := (service_eq_iff.mp h).1
  unfold answer at ha
  split at ha
  · cases ha
    cases c <;> exact ⟨rfl, .inl ⟨rfl, rfl, rfl⟩⟩
  · next o rest _ =>
    rcases o with f | ⟨⟩
    · cases ha
      exact ⟨rfl, .inr ⟨⟨f, rfl⟩, rfl, rfl⟩⟩
    · cases ha
      cases c <;> exact ⟨rfl, .inl ⟨rfl, rfl, rfl⟩⟩

theorem stored_of_ok (h : service c r = (.ok (), events, r')) :
    (∀ name, r'.ruleSchedule? name = (r.apply c).ruleSchedule? name) ∧
      ∀ rule id, r'.targetPayload? rule id = (r.apply c).targetPayload? rule id := by
  rcases (service_cases h).2 with ⟨_, hr, ht⟩ | ⟨⟨f, hf⟩, _⟩
  · simp only [ruleSchedule?, targetPayload?, hr, ht, implies_true, and_self]
  · cases hf

theorem stored_of_error {f : Fault} (h : service c r = (.error f, events, r')) :
    (∀ name, r'.ruleSchedule? name = r.ruleSchedule? name) ∧
      ∀ rule id, r'.targetPayload? rule id = r.targetPayload? rule id := by
  rcases (service_cases h).2 with ⟨hf, _⟩ | ⟨_, hr, ht⟩
  · cases hf
  · simp only [ruleSchedule?, targetPayload?, hr, ht, implies_true, and_self]

/-- What is kept about a rule only calls about it change. -/
theorem stored_of_rule_ne {o : Outcome} (h : service c r = (o, events, r')) (hc : c.rule ≠ name) :
    r'.ruleSchedule? name = r.ruleSchedule? name ∧
      ∀ id, r'.targetPayload? name id = r.targetPayload? name id := by
  rcases o with f | ⟨⟩
  · obtain ⟨hr, ht⟩ := stored_of_error h
    exact ⟨hr name, ht name⟩
  · obtain ⟨hr, ht⟩ := stored_of_ok h
    obtain ⟨har, hat⟩ := apply_of_rule_ne (r := r) hc
    exact ⟨(hr name).trans har, fun id => (ht name id).trans (hat id)⟩

theorem stored_of_leads {steps : List (Script.Step Recorder)}
    (h : Script.Leads service r steps r') (hc : ∀ x ∈ steps, x.call.rule ≠ name) :
    r'.ruleSchedule? name = r.ruleSchedule? name ∧
      ∀ id, r'.targetPayload? name id = r.targetPayload? name id := by
  induction h with
  | nil => exact ⟨rfl, fun _ => rfl⟩
  | cons h _ ih =>
    obtain ⟨hx, hlater⟩ := List.forall_mem_cons.mp hc
    obtain ⟨hr, ht⟩ := stored_of_rule_ne h hx
    obtain ⟨hr', ht'⟩ := ih hlater
    exact ⟨hr'.trans hr, fun id => (ht' id).trans (ht id)⟩

theorem calls_of_leads {steps : List (Script.Step Recorder)}
    (h : Script.Leads service r steps r') : r'.calls = r.calls ++ steps.map Script.Step.call := by
  induction h with
  | nil => rw [List.map_nil, List.append_nil]
  | cons h _ ih =>
    rw [ih, (service_cases h).1, List.append_assoc]
    rfl

end Recorder
end Wakeup
