import Wakeup.Proofs.Script.Traces
import Wakeup.Proofs.Service.Recorder

/-! What a history of calls leaves behind: of each rule and of each target, what the last call says
that succeeded in changing it. -/
namespace Wakeup

open Script

/-- The call is about the rule itself. -/
def Call.writesRule (name : RuleName) : Call → Bool
  | putRule n _ _ | deleteRule n => n = name
  | putTarget .. | removeTarget .. => false

/-- The call is about the target. -/
def Call.writesTarget (rule : RuleName) (id : TargetId) : Call → Bool
  | putTarget n i _ _ | removeTarget n i => n = rule ∧ i = id
  | putRule .. | deleteRule _ => false

/-- The expression that the rule is given. -/
def Call.expression? : Call → Option String
  | putRule _ expression _ => some expression
  | _ => none

/-- The payload that the target is given. -/
def Call.payload? : Call → Option Payload
  | putTarget _ _ _ payload => some payload
  | _ => none

theorem Call.rule_of_writesRule {c : Call} {name : RuleName} (h : c.writesRule name) :
    c.rule = name := by
  cases c <;> simp_all [writesRule, rule]

theorem Call.rule_of_writesTarget {c : Call} {rule : RuleName} {id : TargetId}
    (h : c.writesTarget rule id) : c.rule = rule := by
  cases c <;> simp_all [writesTarget, Call.rule]

namespace Recorder

variable {r r' : Recorder} {c : Call} {events : List Event} {o : Outcome} {name : RuleName}
  {rule : RuleName} {id : TargetId} {l : List (Step Recorder)}

theorem ruleSchedule?_of_service (h : service c r = (.ok (), events, r')) :
    r'.ruleSchedule? name = if c.writesRule name then c.expression? else r.ruleSchedule? name := by
  rw [(stored_of_ok h).1, ruleSchedule?_apply]
  cases c <;> simp [Call.writesRule, Call.expression?]

theorem targetPayload?_of_service (h : service c r = (.ok (), events, r')) :
    r'.targetPayload? rule id =
      if c.writesTarget rule id then c.payload? else r.targetPayload? rule id := by
  rw [(stored_of_ok h).2, targetPayload?_apply]
  cases c <;> simp [Call.writesTarget, Call.payload?]

/-- What is seen at one place after a call, and then after others: a call on that place counts as
one more of them. -/
theorem seen_of_answered {β : Type} (see : Recorder → β) {p : Call → Bool} {f : Call → β}
    (hok : ∀ {c r r' events}, service c r = (.ok (), events, r') →
      see r' = if p c then f c else see r)
    (herror : ∀ {c r r' events g}, service c r = (.error g, events, r') → see r' = see r)
    (h : service c r = (o, events, r')) (later : List (Call × Outcome)) :
    (lastGranted? p later).elim (see r') f = (lastGranted? p ((c, o) :: later)).elim (see r) f := by
  rcases o with g | ⟨⟩
  · rw [lastGranted?_cons_error, herror h]
  · rw [lastGranted?_cons_ok, hok h]
    cases lastGranted? p later with
    | some d => rfl
    | none =>
      rw [Option.none_or]
      split <;> rfl

/-- What is seen of the service at one place is as the last call on that place left it. -/
theorem seen_of_leads {β : Type} (see : Recorder → β) {p : Call → Bool} {f : Call → β}
    (hok : ∀ {c r r' events}, service c r = (.ok (), events, r') →
      see r' = if p c then f c else see r)
    (herror : ∀ {c r r' events g}, service c r = (.error g, events, r') → see r' = see r)
    (h : Leads service r l r') :
    see r' = (lastGranted? p (l.map Step.exchange)).elim (see r) f := by
  induction h with
  | nil => rfl
  | cons h _ ih =>
    rw [ih]
    exact seen_of_answered see hok herror h _

theorem ruleSchedule?_of_leads (h : Leads service r l r') (name : RuleName) :
    r'.ruleSchedule? name = (lastGranted? (Call.writesRule name) (l.map Step.exchange)).elim
      (r.ruleSchedule? name) Call.expression? :=
  seen_of_leads (fun r => r.ruleSchedule? name) ruleSchedule?_of_service
    (fun h => (stored_of_error h).1 name) h

theorem targetPayload?_of_leads (h : Leads service r l r') (rule : RuleName) (id : TargetId) :
    r'.targetPayload? rule id = (lastGranted? (Call.writesTarget rule id)
      (l.map Step.exchange)).elim (r.targetPayload? rule id) Call.payload? :=
  seen_of_leads (fun r => r.targetPayload? rule id) targetPayload?_of_service
    (fun h => (stored_of_error h).2 rule id) h

/-- Where only calls of one family change what is kept, and those at one place only, all other
places stay as they were, and this one is as the last of the calls has it. -/
theorem kept_of_family {κ ι β : Type} {before after : κ → Option β} {p : κ → Call → Bool}
    {f : Call → Option β} {put : ι → Call} {l : List (Call × Outcome)} (own : κ)
    (hafter : ∀ k, after k = (lastGranted? (p k) l).elim (before k) f)
    (hput : ∀ k, ∀ e ∈ l, p k e.1 → k = own ∧ ∃ i, e.1 = put i) :
    (∀ k, k ≠ own → after k = before k) ∧
    (match lastGranted? (p own) l with
      | none => after own = before own
      | some c => ∃ i, c = put i ∧ after own = f (put i)) ∧
    ∀ c, (c, .ok ()) ∈ l → p own c → ∃ i, after own = f (put i) := by
  have hlast : ∀ {k c}, lastGranted? (p k) l = some c → k = own ∧ ∃ i, c = put i := fun h =>
    hput _ _ (lastGranted?_eq_some h).1 (lastGranted?_eq_some h).2
  refine ⟨fun k hne => ?_, ?_, fun c hc hp => ?_⟩
  · rw [hafter]
    cases h : lastGranted? (p k) l with
    | none => rfl
    | some c => exact absurd (hlast h).1 hne
  · rw [hafter]
    cases h : lastGranted? (p own) l with
    | none => rfl
    | some c =>
      obtain ⟨_, i, rfl⟩ := hlast h
      exact ⟨i, rfl, rfl⟩
  · obtain ⟨d, hd⟩ := exists_lastGranted? hc hp
    obtain ⟨_, i, rfl⟩ := hlast hd
    rw [hafter, hd]
    exact ⟨i, rfl⟩

/-- No outcome waits for any call. -/
def Drained (r : Recorder) : Prop := ∀ op, r.queued op = []

theorem service_of_drained (hr : r.Drained) (h : service c r = (o, events, r')) :
    o = .ok () ∧ r'.Drained := by
  have ha := (service_eq_iff.mp h).1
  rw [answer, hr c.operation] at ha
  cases ha
  refine ⟨rfl, fun op => ?_⟩
  cases c <;> exact hr op

theorem leads_of_drained (hr : r.Drained) (h : Leads service r l r') :
    (∀ x ∈ l, x.outcome = .ok ()) ∧ r'.Drained := by
  induction h with
  | nil => exact ⟨fun x hx => absurd hx List.not_mem_nil, hr⟩
  | cons h _ ih =>
    obtain ⟨ho, hr'⟩ := service_of_drained hr h
    obtain ⟨hall, hend⟩ := ih hr'
    exact ⟨List.forall_mem_cons.mpr ⟨ho, hall⟩, hend⟩

/-- The outcome of a call, and what waits after it, hang on what waits for its operation alone. -/
theorem service_of_queued_eq {s : Recorder} {d : Call} (h : s.queued = r.queued)
    (hd : d.operation = c.operation) :
    (service d s).1 = (service c r).1 ∧ (service d s).2.2.queued = (service c r).2.2.queued := by
  simp only [service, answer, h, hd]
  split
  · cases c <;> cases d <;> exact ⟨rfl, h⟩
  · next o rest _ =>
    rcases o with f | ⟨⟩
    · exact ⟨rfl, rfl⟩
    · cases c <;> cases d <;> exact ⟨rfl, rfl⟩

/-- What a script comes to hangs on what waits for its calls, never on the rules and targets that
there are. -/
theorem run_eq_of_queued_eq {α γ : Type} {generator : Generator γ} (x : Script α)
    {w w' : World Recorder γ} (hs : w.service.queued = w'.service.queued)
    (hg : w.generator = w'.generator) :
    (x.run service generator w).1 = (x.run service generator w').1 := by
  induction x generalizing w w' with
  | done a => rfl
  | call c next ih =>
    obtain ⟨ho, hq⟩ := service_of_queued_eq hs (Eq.refl c.operation)
    simp only [run, ho]
    exact ih _ hq hg
  | draw next ih =>
    simp only [run, hg]
    exact ih _ hs rfl
  | note e next ih => exact ih hs hg

/-- A map that differs from another at one key at most has one entry more at most. -/
theorem size_le_of_eq_off {κ β : Type} [BEq κ] [LawfulBEq κ] [Hashable κ]
    {m m' : Std.HashMap κ β} {k : κ} (h : ∀ k', k' ≠ k → m'[k']? = m[k']?) :
    m'.size ≤ m.size + 1 := by
  -- without the key they are the same
  have he : (m'.erase k).Equiv (m.erase k) := by
    refine .of_forall_getElem?_eq fun k' => ?_
    by_cases hk : k' = k
    · subst hk
      rw [Std.HashMap.getElem?_erase_self, Std.HashMap.getElem?_erase_self]
    · have hb : (k == k') = false := beq_eq_false_iff_ne.mpr (Ne.symm hk)
      simp only [Std.HashMap.getElem?_erase, hb, h k' hk]
  have hsize := he.size_eq
  have hadded := Std.HashMap.size_le_size_erase (m := m') (k := k)
  have herased := Std.HashMap.size_erase_le (m := m) (k := k)
  omega

end Recorder
end Wakeup
