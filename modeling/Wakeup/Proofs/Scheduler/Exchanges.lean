import Wakeup.Proofs.Scheduler.Jobs
import Wakeup.Proofs.Script.Traces

/-! Each operation makes two calls at most, the second only after the first has succeeded, and none
at all if it is turned away. -/
namespace Wakeup

/-- There is no token to derive names from, and a name is left to derive. -/
def Request.LacksNames (r : Request) : Prop :=
  r.token.text = "" ∧ (r.ruleName = none ∨ r.targetId = none)

namespace Scheduler

open Script TriggerIds

/-- The names that a request goes by, where `drawn` is what the generator gives when asked. -/
inductive GoesBy (r : Request) (drawn : Except Failure String) : TriggerIds → Prop where
  | derived (h : ¬ r.LacksNames) : GoesBy r drawn (r.idsOr (ofToken r.token))
  | fresh {s : String} (h : r.LacksNames) (hs : drawn = .ok s) :
      GoesBy r drawn (r.idsOr (ofToken ⟨s⟩))

/-- A name is missing. -/
def Nameless (ids : TriggerIds) : Prop := ids.ruleName.text = "" ∨ ids.targetId.text = ""

/-- Why a request gets no call. A missing destination is told of before all else. -/
inductive TurnedAway (r : Request) (drawn : Except Failure String) : Failure → Prop where
  | noDestination (h : r.destination = "") : TurnedAway r drawn (.refused .noDestination)
  | noIdentifier {f : Failure} (h : r.destination ≠ "") (hn : r.LacksNames)
      (hf : drawn = .error f) : TurnedAway r drawn f
  | noNames {ids : TriggerIds} (h : r.destination ≠ "") (hids : GoesBy r drawn ids)
      (hn : Nameless ids) : TurnedAway r drawn (.refused .noNames)

/-- Two calls in turn: how they and the result hang together, whatever the service answers. -/
structure InTurn {α : Type} (first second : Call) (a : α) (l : List (Call × Outcome))
    (result : Except Failure α) : Prop where
  calls : l.map Prod.fst = [first] ∨ l.map Prod.fst = [first, second]
  second_iff : l.map Prod.fst = [first, second] ↔ l.head? = some (first, .ok ())
  ok_iff : ∀ b, result = .ok b ↔ b = a ∧ l = [(first, .ok ()), (second, .ok ())]
  /-- no call is made after one that failed, and its fault is what the caller gets -/
  failed : ∀ c f, (c, .error f) ∈ l → l.getLast? = some (c, .error f) ∧
    ∃ e, result = .error e ∧ e.operation? = some c.operation ∧ e.fault? = some f ∧
      e.isRetriable = f.retriable

variable {σ γ α : Type} {service : Service σ} {generator : Generator γ} {config : Config}
  {w : World σ γ} {r : Request} {drawn : Except Failure String} {ids : TriggerIds} {f : Failure}
  {first second : Call} {a : α} {l : List (Call × Outcome)}

theorem inTurn_of_first_failed (f : Fault) :
    InTurn first second a [(first, .error f)] (.error (.service first.operation f)) := by
  constructor
  · exact .inl rfl
  · simp
  · intro b
    simp
  · intro c g h
    simp only [List.mem_singleton, Prod.mk.injEq, Except.error.injEq] at h
    obtain ⟨rfl, rfl⟩ := h
    exact ⟨rfl, _, rfl, rfl, rfl, rfl⟩

theorem inTurn_of_second_failed (f : Fault) :
    InTurn first second a [(first, .ok ()), (second, .error f)]
      (.error (.service second.operation f)) := by
  constructor
  · exact .inr rfl
  · simp
  · intro b
    simp
  · intro c g h
    simp only [List.mem_cons, List.not_mem_nil, or_false, Prod.mk.injEq, Except.error.injEq,
      reduceCtorEq, and_false, false_or] at h
    obtain ⟨rfl, rfl⟩ := h
    exact ⟨rfl, _, rfl, rfl, rfl, rfl⟩

theorem inTurn_of_both :
    InTurn first second a [(first, .ok ()), (second, .ok ())] (.ok a) := by
  constructor
  · exact .inr rfl
  · simp
  · intro b
    simp [eq_comm]
  · intro c g h
    simp at h

/-- What is done to arm a trigger is two calls in turn. -/
theorem inTurn_arm {result : Except Failure Trigger}
    (h : Reaches (Action.within .schedule ids (arm config r ids)).run l (.done result)) :
    InTurn (.putRule ids.ruleName r.schedule.expression config.ruleState)
      (.putTarget ids.ruleName ids.targetId r.destination r.payload)
      ⟨ids, r.schedule, r.destination, r.payload⟩ l result := by
  rw [Action.run_within, run_arm] at h
  simp only [note_bind, call_bind, reaches_note_iff, reaches_call_iff] at h
  obtain ⟨o, l', rfl, h⟩ := h
  rcases o with f | ⟨⟩
  · simp only [done_bind, reaches_note_iff, reaches_done_iff] at h
    obtain ⟨rfl, rfl⟩ := h
    exact inTurn_of_first_failed f
  · simp only [call_bind, reaches_call_iff] at h
    obtain ⟨o, l'', rfl, h⟩ := h
    rcases o with f | ⟨⟩ <;>
      simp only [note_bind, done_bind, reaches_note_iff, reaches_done_iff] at h <;>
      obtain ⟨rfl, rfl⟩ := h
    · exact inTurn_of_second_failed f
    · exact inTurn_of_both

/-- So is what is done to take it away. -/
theorem inTurn_disarm {result : Except Failure Unit}
    (h : Reaches (Action.within .cleanup ids (disarm ids)).run l (.done result)) :
    InTurn (.removeTarget ids.ruleName ids.targetId) (.deleteRule ids.ruleName) () l result := by
  rw [Action.run_within, run_disarm] at h
  simp only [call_bind, reaches_note_iff, reaches_call_iff] at h
  obtain ⟨o, l', rfl, h⟩ := h
  rcases o with f | ⟨⟩
  · simp only [done_bind, reaches_note_iff, reaches_done_iff] at h
    obtain ⟨rfl, rfl⟩ := h
    exact inTurn_of_first_failed f
  · simp only [note_bind, call_bind, reaches_note_iff, reaches_call_iff] at h
    obtain ⟨o, l'', rfl, h⟩ := h
    rcases o with f | ⟨⟩ <;>
      simp only [note_bind, done_bind, reaches_note_iff, reaches_done_iff] at h <;>
      obtain ⟨rfl, rfl⟩ := h
    · exact inTurn_of_second_failed f
    · exact inTurn_of_both

theorem isNamed_iff : r.isNamed ↔ ¬ r.LacksNames := by
  have hr : r.ruleName.isSome ↔ r.ruleName ≠ none := Option.isSome_iff_ne_none
  have hi : r.targetId.isSome ↔ r.targetId ≠ none := Option.isSome_iff_ne_none
  simp only [Request.LacksNames, Request.isNamed, Tagged.isEmpty, Bool.or_eq_true,
    Bool.not_eq_true', Bool.and_eq_true, hr, hi, ← Bool.not_eq_true, String.isEmpty_iff, ne_eq,
    Classical.not_and_iff_not_or_not, not_or]

/-- Only a name that cannot be drawn leaves a request without names. -/
theorem exists_goesBy (r : Request) (drawn : Except Failure String) :
    (r.LacksNames ∧ ∃ f, drawn = .error f) ∨ ∃ ids, GoesBy r drawn ids := by
  by_cases hn : r.LacksNames
  · rcases drawn with f | s
    · exact .inl ⟨hn, f, rfl⟩
    · exact .inr ⟨_, .fresh hn rfl⟩
  · exact .inr ⟨_, .derived hn⟩

/-- A request is turned away, or it has a destination and names to go by. -/
theorem turnedAway_or_goesBy (r : Request) (drawn : Except Failure String) :
    (∃ f, TurnedAway r drawn f) ∨
      ∃ ids, r.destination ≠ "" ∧ GoesBy r drawn ids ∧ ¬ Nameless ids := by
  by_cases hd : r.destination = ""
  · exact .inl ⟨_, .noDestination hd⟩
  · rcases exists_goesBy r drawn with ⟨hn, f, hf⟩ | ⟨ids, hids⟩
    · exact .inl ⟨f, .noIdentifier hd hn hf⟩
    · by_cases he : Nameless ids
      · exact .inl ⟨_, .noNames hd hids he⟩
      · exact .inr ⟨ids, hd, hids, he⟩

/-- What is left to do when the names are known. -/
def armNamed (config : Config) (r : Request) (ids : TriggerIds) : Action Trigger :=
  if ids.ruleName.isEmpty || ids.targetId.isEmpty then throw (.refused .noNames)
  else Action.within .schedule ids (arm config r ids)

theorem armNamed_of_nameless (h : Nameless ids) :
    armNamed config r ids = throw (.refused .noNames) := by
  refine if_pos ?_
  simpa [Tagged.isEmpty, String.isEmpty_iff, Nameless] using h

theorem armNamed_of_not_nameless (h : ¬ Nameless ids) :
    armNamed config r ids = Action.within .schedule ids (arm config r ids) := by
  refine if_neg ?_
  simpa [Tagged.isEmpty, String.isEmpty_iff, Nameless] using h

theorem schedule_of_noDestination (h : r.destination = "") :
    schedule config r = throw (.refused .noDestination) :=
  if_pos (String.isEmpty_iff.mpr h)

theorem schedule_of_destination (h : r.destination ≠ "") :
    schedule config r = resolve r >>= armNamed config r :=
  if_neg fun he => h (String.isEmpty_iff.mp he)

/-- Names are found without a call. -/
theorem steps_schedule (config : Config) (service : Service σ) (hd : r.destination ≠ "")
    (hids : GoesBy r (generator w.generator).1 ids) :
    ∃ w' : World σ γ,
      (schedule config r).run.steps service generator w =
        (armNamed config r ids).run.steps service generator w' ∧
      ((schedule config r).run.run service generator w).1 =
        ((armNamed config r ids).run.run service generator w').1 := by
  rw [schedule_of_destination hd, ExceptT.run_bind, run_resolve]
  cases hids with
  | derived h =>
    rw [if_pos (isNamed_iff.mpr h)]
    exact ⟨w, rfl, rfl⟩
  | fresh h hs =>
    rw [if_neg fun hn => isNamed_iff.mp hn h]
    simp only [draw_bind, steps, run, hs]
    exact ⟨_, rfl, rfl⟩

theorem schedule_of_turnedAway (h : TurnedAway r (generator w.generator).1 f) :
    (schedule config r).run.steps service generator w = [] ∧
      ((schedule config r).run.run service generator w).1 = .error f := by
  cases h with
  | noDestination h =>
    rw [schedule_of_noDestination h]
    exact ⟨rfl, rfl⟩
  | noIdentifier h hn hf =>
    rw [schedule_of_destination h, ExceptT.run_bind, run_resolve,
      if_neg fun h => isNamed_iff.mp h hn]
    simp only [draw_bind, steps, run, hf]
    exact ⟨rfl, rfl⟩
  | noNames h hids hn =>
    obtain ⟨w', hsteps, hrun⟩ := steps_schedule config service h hids
    rw [hsteps, hrun, armNamed_of_nameless hn]
    exact ⟨rfl, rfl⟩

theorem inTurn_schedule (config : Config) (service : Service σ) (hd : r.destination ≠ "")
    (hids : GoesBy r (generator w.generator).1 ids) (hn : ¬ Nameless ids) :
    InTurn (.putRule ids.ruleName r.schedule.expression config.ruleState)
      (.putTarget ids.ruleName ids.targetId r.destination r.payload)
      ⟨ids, r.schedule, r.destination, r.payload⟩
      (((schedule config r).run.steps service generator w).map Step.exchange)
      ((schedule config r).run.run service generator w).1 := by
  obtain ⟨w', hsteps, hrun⟩ := steps_schedule config service hd hids
  rw [hsteps, hrun, armNamed_of_not_nameless hn]
  exact inTurn_arm (reaches_run service generator _ w')

theorem InTurn.ne_nil {result : Except Failure α} (h : InTurn first second a l result) :
    l ≠ [] := by
  rintro rfl
  rcases h.calls with h | h <;> cases h

theorem cleanup_of_noRuleName (h : ids.ruleName.text = "") :
    cleanup ids = throw (.refused .noRuleName) :=
  if_pos (String.isEmpty_iff.mpr h)

theorem cleanup_of_noTargetId (h : ids.ruleName.text ≠ "") (h' : ids.targetId.text = "") :
    cleanup ids = throw (.refused .noTargetId) :=
  (if_neg fun he => h (String.isEmpty_iff.mp he)).trans (if_pos (String.isEmpty_iff.mpr h'))

theorem cleanup_of_not_nameless (h : ¬ Nameless ids) :
    cleanup ids = Action.within .cleanup ids (disarm ids) := by
  obtain ⟨hr, ht⟩ := not_or.mp h
  exact (if_neg fun he => hr (String.isEmpty_iff.mp he)).trans
    (if_neg fun he => ht (String.isEmpty_iff.mp he))

theorem steps_cleanup_of_nameless (h : Nameless ids) :
    (cleanup ids).run.steps service generator w = [] := by
  by_cases hr : ids.ruleName.text = ""
  · rw [cleanup_of_noRuleName hr]
    rfl
  · rw [cleanup_of_noTargetId hr (h.resolve_left hr)]
    rfl

theorem inTurn_cleanup (service : Service σ) (generator : Generator γ) (w : World σ γ)
    (h : ¬ Nameless ids) :
    InTurn (.removeTarget ids.ruleName ids.targetId) (.deleteRule ids.ruleName) ()
      (((cleanup ids).run.steps service generator w).map Step.exchange)
      ((cleanup ids).run.run service generator w).1 := by
  rw [cleanup_of_not_nameless h]
  exact inTurn_disarm (reaches_run service generator _ w)

/-- The call is one of the two that a request makes by the names. -/
def PutBy (config : Config) (ids : TriggerIds) (r : Request) (c : Call) : Prop :=
  c = .putRule ids.ruleName r.schedule.expression config.ruleState ∨
    c = .putTarget ids.ruleName ids.targetId r.destination r.payload

/-- Once the names are known nothing else is ever called, and nothing is drawn. -/
theorem onlyCalls_armNamed (config : Config) (r : Request) (ids : TriggerIds) :
    (armNamed config r ids).run.OnlyCalls (PutBy config ids r) := by
  by_cases hn : Nameless ids
  · rw [armNamed_of_nameless hn]
    trivial
  · rw [armNamed_of_not_nameless hn, Action.run_within, run_arm]
    refine ⟨.inl rfl, fun o => ?_⟩
    rcases o with f | ⟨⟩
    · trivial
    · refine ⟨.inr rfl, fun o => ?_⟩
      rcases o with f | ⟨⟩ <;> trivial

/-- Where there is a token, or both names are given, the names are known. -/
theorem onlyCalls_schedule (config : Config) (h : r.isNamed) :
    (schedule config r).run.OnlyCalls (PutBy config r.ids r) := by
  by_cases hd : r.destination = ""
  · rw [schedule_of_noDestination hd]
    trivial
  · rw [schedule_of_destination hd, ExceptT.run_bind, run_resolve, if_pos h]
    exact onlyCalls_armNamed config r r.ids

/-- What is armed goes by the names. -/
theorem ok_of_armNamed {trigger : Trigger}
    (h : Reaches (armNamed config r ids).run l (.done (.ok trigger))) :
    trigger.ids = ids ∧ l = [(.putRule ids.ruleName r.schedule.expression config.ruleState, .ok ()),
      (.putTarget ids.ruleName ids.targetId r.destination r.payload, .ok ())] := by
  by_cases hn : Nameless ids
  · rw [armNamed_of_nameless hn] at h
    cases (reaches_done_iff.mp h).2
  · rw [armNamed_of_not_nameless hn] at h
    obtain ⟨rfl, hl⟩ := ((inTurn_arm h).ok_iff trigger).mp rfl
    exact ⟨rfl, hl⟩

/-- A request that has its names and succeeds has had both of its calls granted. -/
theorem granted_of_scheduled {trigger : Trigger} {c : Call} (hr : r.isNamed)
    (h : Reaches (schedule config r).run l (.done (.ok trigger))) (hc : PutBy config r.ids r c) :
    (c, .ok ()) ∈ l := by
  by_cases hd : r.destination = ""
  · rw [schedule_of_noDestination hd] at h
    cases (reaches_done_iff.mp h).2
  · rw [schedule_of_destination hd, ExceptT.run_bind, run_resolve, if_pos hr] at h
    obtain ⟨_, rfl⟩ := ok_of_armNamed h
    rcases hc with rfl | rfl <;> simp

theorem onlyCalls_cleanup (ids : TriggerIds) : (cleanup ids).run.OnlyCalls fun c =>
    c = .removeTarget ids.ruleName ids.targetId ∨ c = .deleteRule ids.ruleName := by
  by_cases hr : ids.ruleName.text = ""
  · rw [cleanup_of_noRuleName hr]
    trivial
  · by_cases ht : ids.targetId.text = ""
    · rw [cleanup_of_noTargetId hr ht]
      trivial
    · rw [cleanup_of_not_nameless (not_or.mpr ⟨hr, ht⟩), Action.run_within, run_disarm]
      refine ⟨.inl rfl, fun o => ?_⟩
      rcases o with f | ⟨⟩
      · trivial
      · refine ⟨.inr rfl, fun o => ?_⟩
        rcases o with f | ⟨⟩ <;> trivial

/-- A request gets no call exactly if it is turned away, and then the caller is told why; or else
its rule is put and, if that succeeds, its target. A cleanup gets no call exactly if a name is
missing, or else the target is removed and, if that succeeds, the rule is deleted. -/
theorem calls_in_turn (config : Config) (service : Service σ) (generator : Generator γ)
    (w : World σ γ) (r : Request) (ids : TriggerIds) :
    (let drawn := (generator w.generator).1
      let made := (schedule config r).run.steps service generator w
      let done := (schedule config r).run.run service generator w
      Leads service w.service made done.2.service ∧
      (∀ f, TurnedAway r drawn f → made = [] ∧ done.1 = .error f) ∧
      (made = [] ↔ ∃ f, TurnedAway r drawn f) ∧
      (made ≠ [] → ∃ names, GoesBy r drawn names ∧
        InTurn (.putRule names.ruleName (Schedule.after r.base r.delayMinutes).expression
            config.ruleState)
          (.putTarget names.ruleName names.targetId r.destination r.payload)
          ⟨names, Schedule.after r.base r.delayMinutes, r.destination, r.payload⟩
          (made.map Step.exchange) done.1)) ∧
    (let made := (cleanup ids).run.steps service generator w
      let done := (cleanup ids).run.run service generator w
      Leads service w.service made done.2.service ∧
      (ids.ruleName.text = "" → done.1 = .error (.refused .noRuleName)) ∧
      (ids.ruleName.text ≠ "" → ids.targetId.text = "" →
        done.1 = .error (.refused .noTargetId)) ∧
      (made = [] ↔ ids.ruleName.text = "" ∨ ids.targetId.text = "") ∧
      (made ≠ [] → InTurn (.removeTarget ids.ruleName ids.targetId) (.deleteRule ids.ruleName) ()
        (made.map Step.exchange) done.1)) := by
  constructor
  · intro drawn made done
    have haway : ∀ f, TurnedAway r drawn f → made = [] ∧ done.1 = .error f := fun f h =>
      schedule_of_turnedAway h
    refine ⟨leads_steps _ _ _ w, haway, ?_⟩
    rcases turnedAway_or_goesBy r drawn with ⟨f, hf⟩ | ⟨names, hd, hnames, hn⟩
    · have hmade := (haway f hf).1
      exact ⟨⟨fun _ => ⟨f, hf⟩, fun _ => hmade⟩, fun h => absurd hmade h⟩
    · have hturn := inTurn_schedule config service hd hnames hn
      have hmade : made ≠ [] := fun h => hturn.ne_nil (List.map_eq_nil_iff.mpr h)
      exact ⟨⟨fun h => absurd h hmade, fun ⟨f, hf⟩ => absurd (haway f hf).1 hmade⟩,
        fun _ => ⟨names, hnames, hturn⟩⟩
  · intro made done
    refine ⟨leads_steps _ _ _ w, fun h => ?_, fun h h' => ?_, ?_⟩
    · simp only [done, cleanup_of_noRuleName h]
      rfl
    · simp only [done, cleanup_of_noTargetId h h']
      rfl
    · by_cases hn : Nameless ids
      · have hmade : made = [] := steps_cleanup_of_nameless hn
        exact ⟨⟨fun _ => hn, fun _ => hmade⟩, fun h => absurd hmade h⟩
      · have hturn := inTurn_cleanup service generator w hn
        have hmade : made ≠ [] := fun h => hturn.ne_nil (List.map_eq_nil_iff.mpr h)
        exact ⟨⟨fun h => absurd h hmade, fun h => absurd h hn⟩, fun _ => hturn⟩

end Scheduler
end Wakeup
