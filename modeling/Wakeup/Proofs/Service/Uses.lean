import Wakeup.Proofs.Service.History

/-! A service that was told how to answer beforehand, and then is called and has its record of calls
cleared in any order: what it answers, records and keeps is read off that history. -/
namespace Wakeup

open Script

/-- What is arranged before the first call: one more outcome for an operation, or some failures. -/
inductive Preparation where
  | response (op : Operation) (o : Outcome)
  | failures (op : Operation) (f : Fault) (count : Nat)

/-- The outcomes that are arranged for an operation. -/
def Preparation.outcomes (op : Operation) : Preparation → List Outcome
  | response op' o => if op' = op then [o] else []
  | failures op' f count => if op' = op then List.replicate count (.error f) else []

/-- What is done to a service afterwards. -/
inductive Use where
  | call (c : Call)
  | clear

def Use.call? : Use → Option Call
  | call c => some c
  | clear => none

namespace Recorder

def prepare (r : Recorder) : Preparation → Recorder
  | .response op o => r.queue op o
  | .failures op f count => r.queueFaults op f count

/-- A new service that has been told how to answer. -/
def prepared (setup : List Preparation) : Recorder := setup.foldl prepare {}

/-- The calls that are made, each with its outcome, and the service that is left. -/
def use : List Use → Recorder → List (Call × Outcome) × Recorder
  | [], r => ([], r)
  | .call c :: uses, r =>
    let (o, r) := r.answer c
    let (made, r) := r.use uses
    ((c, o) :: made, r)
  | .clear :: uses, r => r.clearCalls.use uses

/-- The calls of one operation. -/
def made (op : Operation) (l : List (Call × Outcome)) : List (Call × Outcome) :=
  l.filter fun e => e.1.operation = op

variable {r s : Recorder} {c : Call} {op : Operation} {uses : List Use}
  {setup : List Preparation} {name : RuleName} {rule : RuleName} {id : TargetId}

theorem queued_queue (r : Recorder) (op op' : Operation) (o : Outcome) :
    (r.queue op' o).queued op = r.queued op ++ if op' = op then [o] else [] := by
  by_cases h : op' = op
  · subst h
    simp [queue]
  · simp [queue, h, Ne.symm h]

theorem queued_queueFaults (r : Recorder) (op op' : Operation) (f : Fault) (count : Nat) :
    (r.queueFaults op' f count).queued op =
      r.queued op ++ if op' = op then List.replicate count (.error f) else [] := by
  induction count generalizing r with
  | zero => simp [queueFaults]
  | succ n ih =>
    rw [queueFaults, ih, queued_queue]
    split <;> simp [List.replicate_succ]

theorem queued_prepare (r : Recorder) (p : Preparation) (op : Operation) :
    (r.prepare p).queued op = r.queued op ++ p.outcomes op := by
  cases p with
  | response op' o => exact queued_queue r op op' o
  | failures op' f count => exact queued_queueFaults r op op' f count

/-- What is arranged waits in the order in which it was arranged. -/
theorem queued_prepared (setup : List Preparation) (op : Operation) :
    (prepared setup).queued op = setup.flatMap (Preparation.outcomes op) := by
  have hall : ∀ r : Recorder, (setup.foldl prepare r).queued op =
      r.queued op ++ setup.flatMap (Preparation.outcomes op) := by
    induction setup with
    | nil => simp
    | cons p setup ih =>
      intro r
      rw [List.foldl_cons, ih, queued_prepare, List.flatMap_cons, List.append_assoc]
  exact hall {}

/-- A call gets the first outcome that waits for its operation. -/
theorem outcome_answer (r : Recorder) (c : Call) :
    (r.answer c).1 = ((r.queued c.operation)[0]?).getD (.ok ()) := by
  unfold answer
  split
  · next h => rw [h]; rfl
  · next o rest h =>
    rw [h]
    rcases o with f | ⟨⟩ <;> rfl

@[simp] theorem queued_apply (r : Recorder) (c : Call) : (r.apply c).queued = r.queued := by
  cases c <;> rfl

/-- This outcome waits no longer; those of other operations do. -/
theorem queued_answer (r : Recorder) (c : Call) (op : Operation) :
    (r.answer c).2.queued op =
      if op = c.operation then (r.queued op).tail else r.queued op := by
  unfold answer
  split
  · next h =>
    rw [queued_apply]
    by_cases he : op = c.operation
    · rw [if_pos he, he, h]
      exact h
    · rw [if_neg he]
      rfl
  · next o rest h =>
    have hrest : (if op = c.operation then rest else r.queued op) =
        if op = c.operation then (r.queued op).tail else r.queued op := by
      by_cases he : op = c.operation
      · rw [if_pos he, if_pos he, he, h]
        rfl
      · rw [if_neg he, if_neg he]
    rcases o with f | ⟨⟩
    · exact hrest
    · rw [queued_apply]
      exact hrest

theorem calls_answer (r : Recorder) (c : Call) : (r.answer c).2.calls = r.calls ++ [c] :=
  (service_cases (service_eq_iff.mpr ⟨rfl, rfl⟩)).1

theorem made_cons (op : Operation) (c : Call) (o : Outcome) (l : List (Call × Outcome)) :
    made op ((c, o) :: l) = if c.operation = op then (c, o) :: made op l else made op l := by
  unfold made
  rw [List.filter_cons]
  simp only [decide_eq_true_eq]

theorem calls_use (uses : List Use) (r : Recorder) :
    (r.use uses).1.map Prod.fst = uses.filterMap Use.call? := by
  induction uses generalizing r with
  | nil => rfl
  | cons u uses ih =>
    cases u with
    | call c => exact congrArg (c :: ·) (ih _)
    | clear => exact ih _

/-- The calls of an operation use up what waits for it, one after another, whatever other calls are
made between them. -/
theorem outcomes_use (uses : List Use) (r : Recorder) (op : Operation) :
    (∀ (k : Nat) e, (made op (r.use uses).1)[k]? = some e →
        e.2 = ((r.queued op)[k]?).getD (.ok ())) ∧
      (r.use uses).2.queued op = (r.queued op).drop (made op (r.use uses).1).length := by
  induction uses generalizing r with
  | nil => exact ⟨fun k e h => by simp [use, made] at h, rfl⟩
  | cons u uses ih =>
    cases u with
    | clear => exact ih r.clearCalls
    | call c =>
      obtain ⟨hlater, hleft⟩ := ih (r.answer c).2
      rw [queued_answer] at hlater hleft
      simp only [use, made_cons]
      by_cases hop : c.operation = op
      · rw [if_pos hop.symm] at hlater hleft
        rw [if_pos hop]
        constructor
        · intro k e h
          cases k with
          | zero =>
            obtain rfl := Option.some.inj h
            rw [← hop]
            exact outcome_answer r c
          | succ k =>
            have hk := hlater k e h
            rwa [List.getElem?_tail] at hk
        · rw [hleft, List.length_cons, List.drop_tail]
      · rw [if_neg (Ne.symm hop)] at hlater hleft
        rw [if_neg hop]
        exact ⟨hlater, hleft⟩

/-- The record holds the calls since it was cleared last. -/
theorem recorded_use (uses : List Use) (r : Recorder) : ∃ before since,
    uses = before ++ since.map .call ∧
      (before = [] ∧ (r.use uses).2.calls = r.calls ++ since ∨
        before.getLast? = some .clear ∧ (r.use uses).2.calls = since) := by
  induction uses generalizing r with
  | nil => exact ⟨[], [], rfl, .inl ⟨rfl, (List.append_nil _).symm⟩⟩
  | cons u uses ih =>
    cases u with
    | call c =>
      obtain ⟨before, since, rfl, ⟨rfl, h⟩ | ⟨hlast, h⟩⟩ := ih (r.answer c).2
      · refine ⟨[], c :: since, rfl, .inl ⟨rfl, ?_⟩⟩
        rw [calls_answer, List.append_assoc] at h
        exact h
      · refine ⟨.call c :: before, since, rfl, .inr ⟨?_, h⟩⟩
        rw [List.getLast?_cons, hlast]
        rfl
    | clear =>
      obtain ⟨before, since, rfl, ⟨rfl, h⟩ | ⟨hlast, h⟩⟩ := ih r.clearCalls
      · exact ⟨[.clear], since, rfl, .inr ⟨rfl, h⟩⟩
      · refine ⟨.clear :: before, since, rfl, .inr ⟨?_, h⟩⟩
        rw [List.getLast?_cons, hlast]
        rfl

/-- What is seen at one place is as the last call on that place left it; to clear the record of
calls is no such call. -/
theorem seen_of_use {β : Type} (see : Recorder → β) {p : Call → Bool} {f : Call → β}
    (hok : ∀ {c r r' events}, service c r = (.ok (), events, r') →
      see r' = if p c then f c else see r)
    (herror : ∀ {c r r' events g}, service c r = (.error g, events, r') → see r' = see r)
    (hclear : ∀ r, see r.clearCalls = see r) (uses : List Use) (r : Recorder) :
    see (r.use uses).2 = (lastGranted? p (r.use uses).1).elim (see r) f := by
  induction uses generalizing r with
  | nil => rfl
  | cons u uses ih =>
    cases u with
    | call c => exact (ih _).trans (seen_of_answered see hok herror rfl _)
    | clear => exact (ih _).trans (congrArg (Option.elim _ · f) (hclear r))

theorem ruleSchedule?_use (uses : List Use) (r : Recorder) (name : RuleName) :
    (r.use uses).2.ruleSchedule? name = (lastGranted? (Call.writesRule name) (r.use uses).1).elim
      (r.ruleSchedule? name) Call.expression? :=
  seen_of_use (fun r => r.ruleSchedule? name) ruleSchedule?_of_service
    (fun h => (stored_of_error h).1 name) (fun _ => rfl) uses r

theorem targetPayload?_use (uses : List Use) (r : Recorder) (rule : RuleName) (id : TargetId) :
    (r.use uses).2.targetPayload? rule id = (lastGranted? (Call.writesTarget rule id)
      (r.use uses).1).elim (r.targetPayload? rule id) Call.payload? :=
  seen_of_use (fun r => r.targetPayload? rule id) targetPayload?_of_service
    (fun h => (stored_of_error h).2 rule id) (fun _ => rfl) uses r

theorem clearCalls_eq_iff : r.clearCalls = s.clearCalls ↔
    r.queued = s.queued ∧ r.rules = s.rules ∧ r.targets = s.targets := by
  simp [clearCalls]

theorem answer_clearCalls (r : Recorder) (c : Call) :
    (r.clearCalls.answer c).1 = (r.answer c).1 ∧
      (r.clearCalls.answer c).2.clearCalls = (r.answer c).2.clearCalls := by
  simp only [answer, clearCalls]
  split
  · cases c <;> exact ⟨rfl, rfl⟩
  · next o rest _ =>
    rcases o with f | ⟨⟩
    · exact ⟨rfl, rfl⟩
    · cases c <;> exact ⟨rfl, rfl⟩

/-- The record apart, it makes no difference that the record is cleared. -/
theorem use_filter_call (uses : List Use) (h : r.clearCalls = s.clearCalls) :
    (r.use (uses.filter (·.call?.isSome))).1 = (s.use uses).1 ∧
      (r.use (uses.filter (·.call?.isSome))).2.clearCalls = (s.use uses).2.clearCalls := by
  induction uses generalizing r s with
  | nil => exact ⟨rfl, h⟩
  | cons u uses ih =>
    cases u with
    | clear => exact ih h
    | call c =>
      obtain ⟨ho, hl⟩ := answer_clearCalls r c
      obtain ⟨ho', hl'⟩ := answer_clearCalls s c
      rw [h] at ho hl
      obtain ⟨hm, hc⟩ := ih (hl.symm.trans hl')
      rw [List.filter_cons_of_pos rfl]
      refine ⟨?_, hc⟩
      rw [use, use]
      simp only [hm, ho.symm.trans ho']

/-- A map has as many keys as its size says. -/
theorem exists_keys {κ β : Type} [BEq κ] [LawfulBEq κ] [Hashable κ] (m : Std.HashMap κ β) :
    ∃ names : List κ, names.Nodup ∧ (∀ n, n ∈ names ↔ m.contains n) ∧ names.length = m.size := by
  refine ⟨m.keys, ?_, fun n => ?_, Std.HashMap.length_keys⟩
  · have hd := Std.HashMap.distinct_keys (m := m)
    exact hd.imp fun h he => by simp [he] at h
  · rw [Std.HashMap.mem_keys, Std.HashMap.mem_iff_contains]

theorem queueFaults_eq (r : Recorder) (op : Operation) (f : Fault) (count : Nat) :
    ∃ queued, r.queueFaults op f count = { r with queued := queued } := by
  induction count generalizing r with
  | zero => exact ⟨r.queued, rfl⟩
  | succ n ih => exact ih (r.queue op (.error f))

/-- A new service is empty but for what it was told to answer. -/
theorem prepared_eq (setup : List Preparation) :
    ∃ queued, prepared setup = { queued := queued } := by
  have hall : ∀ r : Recorder, ∃ queued, setup.foldl prepare r = { r with queued := queued } := by
    induction setup with
    | nil => exact fun r => ⟨r.queued, rfl⟩
    | cons p setup ih =>
      intro r
      obtain ⟨q, hp⟩ : ∃ queued, r.prepare p = { r with queued := queued } := by
        cases p with
        | response op o => exact ⟨_, rfl⟩
        | failures op f count => exact queueFaults_eq r op f count
      obtain ⟨q', h⟩ := ih (r.prepare p)
      exact ⟨q', by rw [List.foldl_cons, h, hp]⟩
  exact hall {}

/-- What the last call on a place says, where nothing was there before. -/
theorem elim_lastGranted?_eq_some_iff {β : Type} {p : Call → Bool} {f : Call → Option β}
    {l : List (Call × Outcome)} {b : β} : (lastGranted? p l).elim none f = some b ↔
      ∃ c, lastGranted? p l = some c ∧ p c ∧ f c = some b := by
  constructor
  · intro h
    cases hc : lastGranted? p l with
    | none =>
      rw [hc] at h
      cases h
    | some c =>
      rw [hc] at h
      exact ⟨c, rfl, (lastGranted?_eq_some hc).2, h⟩
  · rintro ⟨c, hc, _, hb⟩
    rw [hc]
    exact hb

theorem ruleSchedule?_eq_some_iff {e : String} :
    ((prepared setup).use uses).2.ruleSchedule? name = some e ↔
      ∃ state, lastGranted? (Call.writesRule name) ((prepared setup).use uses).1 =
        some (.putRule name e state) := by
  have hnew : (prepared setup).ruleSchedule? name = none := by
    obtain ⟨q, h⟩ := prepared_eq setup
    simp [ruleSchedule?, h]
  rw [ruleSchedule?_use, hnew, elim_lastGranted?_eq_some_iff]
  constructor
  · rintro ⟨c, hc, hw, he⟩
    cases c with
    | putRule n e' state =>
      obtain rfl : n = name := of_decide_eq_true hw
      obtain rfl : e' = e := Option.some.inj he
      exact ⟨state, hc⟩
    | putTarget | removeTarget | deleteRule => cases he
  · rintro ⟨state, hc⟩
    exact ⟨_, hc, decide_eq_true rfl, rfl⟩

theorem targetPayload?_eq_some_iff {p : Payload} :
    ((prepared setup).use uses).2.targetPayload? rule id = some p ↔
      ∃ destination, lastGranted? (Call.writesTarget rule id) ((prepared setup).use uses).1 =
        some (.putTarget rule id destination p) := by
  have hnew : (prepared setup).targetPayload? rule id = none := by
    obtain ⟨q, h⟩ := prepared_eq setup
    simp [targetPayload?, h]
  rw [targetPayload?_use, hnew, elim_lastGranted?_eq_some_iff]
  constructor
  · rintro ⟨c, hc, hw, hp⟩
    cases c with
    | putTarget n i d p' =>
      obtain ⟨rfl, rfl⟩ : n = rule ∧ i = id := of_decide_eq_true hw
      obtain rfl : p' = p := Option.some.inj hp
      exact ⟨d, hc⟩
    | putRule | removeTarget | deleteRule => cases hp
  · rintro ⟨d, hc⟩
    exact ⟨_, hc, decide_eq_true ⟨rfl, rfl⟩, rfl⟩

/-- However a service is prepared and used, its whole state is told by the history. Each call of an
operation gets the outcome that was arranged for it in its turn, and succeeds when no more were; the
record holds the calls since it was cleared; a rule or a target is there if the last call that
succeeded on it put it there; and neither a call that fails nor clearing the record touches them. -/
theorem seen_after_uses (setup : List Preparation) (uses : List Use) :
    let l := ((prepared setup).use uses).1
    let r := ((prepared setup).use uses).2
    let uncleared := (prepared setup).use (uses.filter (·.call?.isSome))
    l.map Prod.fst = uses.filterMap Use.call? ∧
    (∀ op (k : Nat) e, (made op l)[k]? = some e →
      e.2 = ((setup.flatMap (Preparation.outcomes op))[k]?).getD (.ok ())) ∧
    (∃ before since, uses = before ++ since.map .call ∧
      (before = [] ∨ before.getLast? = some .clear) ∧ r.calls = since ∧
      ∀ op, r.callsFor op = since.filter (·.operation = op)) ∧
    (∀ name e, r.ruleSchedule? name = some e ↔ ∃ state,
      lastGranted? (Call.writesRule name) l = some (.putRule name e state)) ∧
    (∀ rule id p, r.targetPayload? rule id = some p ↔ ∃ destination,
      lastGranted? (Call.writesTarget rule id) l = some (.putTarget rule id destination p)) ∧
    (∃ names : List RuleName, names.Nodup ∧ (∀ name, name ∈ names ↔ r.hasRule name) ∧
      names.length = r.ruleCount) ∧
    (∀ c f r', r.answer c = (.error f, r') → r'.rules = r.rules ∧ r'.targets = r.targets) ∧
    r.clearCalls.calls = [] ∧
    uncleared.1 = l ∧ uncleared.2.queued = r.queued ∧ uncleared.2.rules = r.rules ∧
      uncleared.2.targets = r.targets := by
  intro l r uncleared
  refine ⟨calls_use uses _, fun op k e h => ?_, ?_, fun _ _ => ruleSchedule?_eq_some_iff,
    fun _ _ _ => targetPayload?_eq_some_iff, exists_keys r.rules, fun c f r' h => ?_, rfl, ?_⟩
  · rw [← queued_prepared]
    exact (outcomes_use uses _ op).1 k e h
  · obtain ⟨before, since, huses, hcalls⟩ := recorded_use uses (prepared setup)
    have hnew : (prepared setup).calls = [] := by
      obtain ⟨q, h⟩ := prepared_eq setup
      rw [h]
    refine ⟨before, since, huses, hcalls.imp And.left And.left, ?_⟩
    have hsince : r.calls = since := by
      rcases hcalls with ⟨_, h⟩ | ⟨_, h⟩
      · rw [hnew] at h
        exact h
      · exact h
    exact ⟨hsince, fun op => by rw [callsFor, hsince]⟩
  · rcases (service_cases (service_eq_iff.mpr ⟨h, rfl⟩)).2 with ⟨hok, _⟩ | ⟨_, hr, ht⟩
    · cases hok
    · exact ⟨hr, ht⟩
  · obtain ⟨hl, hr⟩ := use_filter_call uses (Eq.refl (prepared setup).clearCalls)
    exact ⟨hl, clearCalls_eq_iff.mp hr⟩

end Recorder
end Wakeup
