import Wakeup.Proofs.Scheduler.Exchanges
import Wakeup.Proofs.Scheduler.Retry
import Wakeup.Proofs.Script.Pool
import Wakeup.Proofs.Service.History

/-! Sessions that share no token do not meet: in whatever order their calls come, each answers as if
it were alone, and together they leave what they leave one after another. -/
namespace Wakeup.Scheduler

open Script Script.Pool Recorder TriggerIds

variable {σ ι γ α : Type} {service : Service σ} {generator : Generator γ} {config : Config}
  {j : Job} {t u : Token} {c : Call} {w w' : World Recorder γ}

theorem ids_of_onToken {r : Request} (hj : (Job.schedule r).ByToken) :
    r.isNamed ∧ r.ids = ofToken r.token := by
  obtain ⟨ht, _⟩ := id hj
  have hn : r.isNamed := by simp [Request.isNamed, ht]
  exact ⟨hn, ids_of_byToken hj fun _ => rfl⟩

theorem onlyCalls_onToken {r : Request} (config : Config) (hj : (Job.schedule r).ByToken)
    (hon : (Job.schedule r).On t) :
    (schedule config r).run.OnlyCalls (PutBy config (ofToken t) r) := by
  obtain ⟨hn, hids⟩ := ids_of_onToken hj
  obtain rfl : r.token = t := hon
  rw [← hids]
  exact onlyCalls_schedule config hn

/-- A job by token draws nothing, and calls by the names of its token only. -/
theorem onlyCalls_job (hj : j.ByToken) (hon : j.On t) :
    (j.script config).OnlyCalls (Call.Uses (ofToken t)) := by
  cases j with
  | schedule r =>
    refine ((onlyCalls_onToken config hj hon).mono fun c hc => ?_).bind fun _ => trivial
    rcases hc with rfl | rfl <;> simp [Call.Uses, Call.rule, Call.target?]
  | cleanup ids =>
    obtain rfl : ids = ofToken t := hon
    refine ((onlyCalls_cleanup (ofToken t)).mono fun c hc => ?_).bind fun _ => trivial
    rcases hc with rfl | rfl <;> simp [Call.Uses, Call.rule, Call.target?]
  | drawToken | drawIds => exact hon.elim

/-- A job is on one token at most. -/
theorem Job.On.unique (h : j.On t) (h' : j.On u) : t = u := by
  cases j with
  | schedule r => exact h.symm.trans h'
  | cleanup ids => exact ruleName_ofToken_inj.mp (congrArg TriggerIds.ruleName (h.symm.trans h'))
  | drawToken | drawIds => exact h.elim

/-- The call is by the names of a token that one of the jobs is on. -/
def CalledFor (jobs : List Job) (c : Call) : Prop :=
  ∃ j ∈ jobs, ∃ t, j.On t ∧ c.Uses (ofToken t)

theorem onlyCalls_session {jobs : List Job} (hjobs : ∀ j ∈ jobs, j.ByToken ∧ ∃ t, j.On t) :
    (session config jobs).OnlyCalls (CalledFor jobs) := by
  induction jobs with
  | nil => trivial
  | cons j js ih =>
    obtain ⟨⟨hj, t, hon⟩, hjs⟩ := List.forall_mem_cons.mp hjobs
    refine ((onlyCalls_job hj hon).mono fun c hc => ?_).bind fun a => ?_
    · exact ⟨j, List.mem_cons_self, t, hon, hc⟩
    · refine ((ih hjs).mono fun c hc => ?_).bind fun _ => trivial
      obtain ⟨k, hk, hc⟩ := hc
      exact ⟨k, List.mem_cons_of_mem _ hk, hc⟩

theorem drained_run (x : Script α) (hw : w.service.Drained) :
    (x.run Recorder.service generator w).2.service.Drained :=
  (leads_of_drained hw (leads_steps _ _ x w)).2

/-- A run where no call fails. -/
theorem reaches_run_of_drained (generator : Generator γ) (x : Script α) (hw : w.service.Drained) :
    ∃ l, Reaches x l (.done (x.run Recorder.service generator w).1) ∧ ∀ e ∈ l, e.2 = .ok () := by
  refine ⟨_, reaches_run Recorder.service generator x w, List.forall_mem_map.mpr ?_⟩
  exact (leads_of_drained hw (leads_steps _ _ x w)).1

/-- Where no call fails the state of the service makes no difference to the answer. -/
theorem run_eq_of_drained {x : Script α} {P : Call → Prop} (hx : x.OnlyCalls P)
    (hw : w.service.Drained) (hw' : w'.service.Drained) :
    (x.run Recorder.service generator w).1 = (x.run Recorder.service generator w').1 := by
  obtain ⟨l, h, hl⟩ := reaches_run_of_drained generator x hw
  obtain ⟨l', h', hl'⟩ := reaches_run_of_drained generator x hw'
  exact (h.done_unique h' hx hl hl').2

theorem session_run_of_drained {jobs : List Job} (hjobs : ∀ j ∈ jobs, j.ByToken ∧ ∃ t, j.On t)
    (hw : w.service.Drained) (hw' : w'.service.Drained) :
    ((session config jobs).run Recorder.service generator w).1 =
      jobs.map fun j => (j, ((j.script config).run Recorder.service generator w').1) := by
  induction jobs generalizing w with
  | nil => rfl
  | cons j js ih =>
    obtain ⟨⟨hj, t, hon⟩, hjs⟩ := List.forall_mem_cons.mp hjobs
    rw [session, run_bind, run_bind, List.map_cons,
      ← run_eq_of_drained (onlyCalls_job hj hon) hw hw', ← ih hjs (drained_run _ hw)]
    rfl

/-- No two of the sessions have a job on the same token. -/
def Apart (jobs : ι → List Job) : Prop :=
  ∀ i k t, (∃ j ∈ jobs i, j.On t) → (∃ j ∈ jobs k, j.On t) → i = k

/-- Only one session calls upon any one rule. -/
theorem Apart.owner_eq {jobs : ι → List Job} (h : Apart jobs) {i k : ι} {d : Call}
    (hc : CalledFor (jobs i) c) (hd : CalledFor (jobs k) d) (he : c.rule = d.rule) : i = k := by
  obtain ⟨j, hj, t, hon, hu, _⟩ := hc
  obtain ⟨j', hj', t', hon', hu', _⟩ := hd
  obtain rfl : t = t' := ruleName_ofToken_inj.mp (hu.symm.trans (he.trans hu'))
  exact h i k t ⟨j, hj, hon⟩ ⟨j', hj', hon'⟩

section

variable [DecidableEq ι] {configs : ι → Config} {jobs : ι → List Job} {turns turns' : List ι}

/-- Sessions side by side, each of a scheduler of its own. -/
def sideBySide (configs : ι → Config) (jobs : ι → List Job) (w : World σ γ) :
    Pool ι (List (Job × Answer)) σ γ :=
  ⟨fun i => session (configs i) (jobs i), w⟩

theorem calledFor_of_play {w : World σ γ} (hjobs : ∀ i, ∀ j ∈ jobs i, j.ByToken ∧ ∃ t, j.On t)
    (turns : List ι) : ∀ x ∈ ((sideBySide configs jobs w).play service generator turns).1,
      CalledFor (jobs x.1) x.2.call :=
  forall_calls_play (fun i => CalledFor (jobs i)) service generator turns fun i =>
    onlyCalls_session (hjobs i)

theorem ok_of_play {p : Pool ι α Recorder γ} (hp : p.world.service.Drained) (turns : List ι)
    (k : ι) : ∀ e ∈ exchangesOf k (p.play Recorder.service generator turns).1, e.2 = .ok () := by
  intro e he
  obtain ⟨x, hx, _, rfl⟩ := mem_exchangesOf.mp he
  exact (leads_of_drained hp (leads_play _ _ turns p)).1 x.2 (List.mem_map_of_mem hx)

/-- The calls about any one rule are all of one session, so they come in the order of its calls. -/
theorem granted_filter_congr {made made' : List (ι × Step σ)} {name : RuleName} {p : Call → Bool}
    (hapart : Apart jobs) (hfor : ∀ x ∈ made, CalledFor (jobs x.1) x.2.call)
    (hfor' : ∀ x ∈ made', CalledFor (jobs x.1) x.2.call)
    (hsame : ∀ i, exchangesOf i made = exchangesOf i made') (hp : ∀ c, p c → c.rule = name) :
    (granted (exchanges made)).filter p = (granted (exchanges made')).filter p := by
  -- one session makes all calls of the kind, or none does
  by_cases hi : ∃ i, ∃ c, p c ∧ CalledFor (jobs i) c
  · obtain ⟨i, c, hc, hown⟩ := hi
    have howner : ∀ {x : ι × Step σ}, CalledFor (jobs x.1) x.2.call → p x.2.call → x.1 = i :=
      fun hx hpx => hapart.owner_eq hx hown ((hp _ hpx).trans (hp c hc).symm)
    rw [granted_filter_of_owner fun x hx => howner (hfor x hx),
      granted_filter_of_owner fun x hx => howner (hfor' x hx), hsame]
  · have hnone : ∀ {l : List (ι × Step σ)}, (∀ x ∈ l, CalledFor (jobs x.1) x.2.call) →
        (granted (exchanges l)).filter p = [] := by
      intro l hl
      refine List.filter_eq_nil_iff.mpr fun c hc hpc => hi ?_
      obtain ⟨x, hx, he⟩ := mem_exchanges.mp (mem_granted.mp hc)
      obtain rfl : x.2.call = c := congrArg Prod.fst he
      exact ⟨x.1, _, hpc, hl x hx⟩
    rw [hnone hfor, hnone hfor']

/-- Histories that differ only in how the calls of different sessions come between each other lead
to the same rules and targets. -/
theorem stored_eq_of_leads {made made' : List (ι × Step Recorder)} {r s s' : Recorder}
    (h : Leads Recorder.service r (made.map Prod.snd) s)
    (h' : Leads Recorder.service r (made'.map Prod.snd) s') (hapart : Apart jobs)
    (hfor : ∀ x ∈ made, CalledFor (jobs x.1) x.2.call)
    (hfor' : ∀ x ∈ made', CalledFor (jobs x.1) x.2.call)
    (hsame : ∀ i, exchangesOf i made = exchangesOf i made') (name : RuleName) :
    s.ruleSchedule? name = s'.ruleSchedule? name ∧
      ∀ id, s.targetPayload? name id = s'.targetPayload? name id := by
  have hlast : ∀ p : Call → Bool, (∀ c, p c → c.rule = name) →
      lastGranted? p (exchanges made) = lastGranted? p (exchanges made') := fun p hp =>
    congrArg List.getLast? (granted_filter_congr hapart hfor hfor' hsame hp)
  constructor
  · have hrule := hlast (Call.writesRule name) fun _ => Call.rule_of_writesRule
    rw [ruleSchedule?_of_leads h, ruleSchedule?_of_leads h']
    exact congrArg (Option.elim · _ Call.expression?) hrule
  · intro id
    have htarget := hlast (Call.writesTarget name id) fun _ => Call.rule_of_writesTarget
    rw [targetPayload?_of_leads h, targetPayload?_of_leads h']
    exact congrArg (Option.elim · _ Call.payload?) htarget

/-- Each session that has come to its end has the answers that it has when it is alone. -/
theorem answers_of_play (hjobs : ∀ i, ∀ j ∈ jobs i, j.ByToken ∧ ∃ t, j.On t)
    (hw : w.service.Drained) {i : ι} {as : List (Job × Answer)}
    (h : ((sideBySide configs jobs w).play Recorder.service generator turns).2.scripts i =
      .done as) :
    as = ((session (configs i) (jobs i)).run Recorder.service generator w).1 := by
  obtain ⟨l, halone, hl⟩ := reaches_run_of_drained generator
    (session (configs i) (jobs i)) hw
  exact ((reaches_of_eq h).done_unique halone (onlyCalls_session (hjobs i))
    (ok_of_play hw turns i) hl).2

/-- Sessions that have come to their ends by turns of one kind or another have left the same. -/
theorem stored_eq_of_play (hjobs : ∀ i, ∀ j ∈ jobs i, j.ByToken ∧ ∃ t, j.On t)
    (hapart : Apart jobs) (hw : w.service.Drained)
    (h : ∀ i, ∃ as, ((sideBySide configs jobs w).play Recorder.service generator
      turns).2.scripts i = .done as)
    (h' : ∀ i, ∃ as, ((sideBySide configs jobs w).play Recorder.service generator
      turns').2.scripts i = .done as) (name : RuleName) :
    let r := ((sideBySide configs jobs w).play Recorder.service generator turns).2.world.service
    let s := ((sideBySide configs jobs w).play Recorder.service generator turns').2.world.service
    r.ruleSchedule? name = s.ruleSchedule? name ∧
      ∀ id, r.targetPayload? name id = s.targetPayload? name id := by
  refine stored_eq_of_leads (leads_play _ _ turns _) (leads_play _ _ turns' _) hapart
    (calledFor_of_play hjobs turns) (calledFor_of_play hjobs turns') (fun i => ?_) name
  obtain ⟨as, has⟩ := h i
  obtain ⟨bs, hbs⟩ := h' i
  exact ((reaches_of_eq has).done_unique (reaches_of_eq hbs) (onlyCalls_session (hjobs i))
    (ok_of_play hw turns i) (ok_of_play hw turns' i)).1

end

/-- What is done under one token does not touch, nor look at, what is kept under another. -/
theorem keeps_of_other (hj : j.ByToken) (hon : j.On t) (hne : t ≠ u) (w : World Recorder γ) :
    let made := (j.script config).steps Recorder.service generator w
    let left := ((j.script config).run Recorder.service generator w).2.service
    (∀ x ∈ made, x.call.Uses (ofToken t)) ∧
      left.ruleSchedule? (ofToken u).ruleName =
        w.service.ruleSchedule? (ofToken u).ruleName ∧
      left.targetPayload? (ofToken u).ruleName (ofToken u).targetId =
        w.service.targetPayload? (ofToken u).ruleName (ofToken u).targetId := by
  intro made left
  have hreach := reaches_run Recorder.service generator (j.script config) w
  have huses : ∀ x ∈ made, x.call.Uses (ofToken t) := fun x hx =>
    hreach.forall_calls (onlyCalls_job hj hon) x.exchange (List.mem_map_of_mem hx)
  have hother : ∀ x ∈ made, x.call.rule ≠ (ofToken u).ruleName := fun x hx he =>
    hne (ruleName_ofToken_inj.mp ((huses x hx).1.symm.trans he))
  obtain ⟨hr, ht⟩ := stored_of_leads (leads_steps _ generator _ w) hother
  exact ⟨huses, hr, ht _⟩

/-- However the calls of sessions with tokens of their own come between each other, each job answers
as if it were alone, and what is left is what the sessions leave one after another in any order.
For names tell tokens apart, and a job neither changes nor looks at what it has no name for. -/
theorem interleaved_as_in_order [DecidableEq ι] (configs : ι → Config) (jobs : ι → List Job)
    (generator : Generator γ) (w : World Recorder γ) (turns : List ι)
    (hjobs : ∀ i, ∀ j ∈ jobs i, j.ByToken ∧ ∃ t, j.On t) (hapart : Apart jobs)
    (hw : w.service.Drained)
    (hend : ∀ i, ∃ as, ((sideBySide configs jobs w).play Recorder.service generator
      turns).2.scripts i = .done as) :
    let ended := ((sideBySide configs jobs w).play Recorder.service generator turns).2
    (∀ i, ended.scripts i =
        .done ((session (configs i) (jobs i)).run Recorder.service generator w).1 ∧
      ended.scripts i = .done ((jobs i).map fun j =>
        (j, ((j.script (configs i)).run Recorder.service generator w).1))) ∧
    (∀ order : List ι, (∀ i, i ∈ order) →
      let serial := (sideBySide configs jobs w).inOrder Recorder.service generator order
      (∀ i, serial.scripts i = ended.scripts i) ∧
      ∀ rule, ended.world.service.ruleSchedule? rule = serial.world.service.ruleSchedule? rule ∧
        ∀ id, ended.world.service.targetPayload? rule id =
          serial.world.service.targetPayload? rule id) ∧
    (∀ t u : Token, ((ofToken t).ruleName = (ofToken u).ruleName ↔ t = u) ∧
      ((ofToken t).targetId = (ofToken u).targetId ↔ t = u)) ∧
    ∀ (config : Config) (j : Job) (t u : Token), j.ByToken → j.On t → t ≠ u →
      ∀ v : World Recorder γ,
      let made := (j.script config).steps Recorder.service generator v
      let done := (j.script config).run Recorder.service generator v
      (∀ x ∈ made, x.call.Uses (ofToken t)) ∧
      done.2.service.ruleSchedule? (ofToken u).ruleName =
        v.service.ruleSchedule? (ofToken u).ruleName ∧
      done.2.service.targetPayload? (ofToken u).ruleName (ofToken u).targetId =
        v.service.targetPayload? (ofToken u).ruleName (ofToken u).targetId ∧
      ∀ v' : World Recorder γ, v'.service.queued = v.service.queued →
        v'.generator = v.generator →
        ((j.script config).run Recorder.service generator v').1 = done.1 := by
  intro ended
  have halone : ∀ i, ended.scripts i =
      .done ((session (configs i) (jobs i)).run Recorder.service generator w).1 := by
    intro i
    obtain ⟨as, has⟩ := hend i
    rw [← answers_of_play hjobs hw has]
    exact has
  refine ⟨fun i => ⟨halone i, ?_⟩, fun order horder => ?_, fun t u => ?_, ?_⟩
  · rw [halone i, session_run_of_drained (hjobs i) hw hw]
  · obtain ⟨turns', hserial⟩ := exists_turns_inOrder Recorder.service generator order
      (sideBySide configs jobs w)
    have hdone := fun i => inOrder_done Recorder.service generator order
      (sideBySide configs jobs w) (.inl (horder i))
    rw [← hserial] at hdone ⊢
    refine ⟨fun i => ?_, stored_eq_of_play hjobs hapart hw hend hdone⟩
    obtain ⟨as, has⟩ := hdone i
    rw [halone i, ← answers_of_play hjobs hw has]
    exact has
  · exact ⟨ruleName_ofToken_inj, targetId_ofToken_inj⟩
  · intro config j t u hj hon hne v made done
    obtain ⟨huses, hr, ht⟩ := keeps_of_other hj hon hne v
    exact ⟨huses, hr, ht, fun v' hq hg => run_eq_of_queued_eq _ hq hg⟩

/-- Two sessions by turns: a request under a token, and a request and its cleanup under the name
that the first one's rule has. -/
theorem interleaved_by_turns :
    let other : Token := ⟨"reinvoke-handler-a"⟩
    let jobs : Fin 2 → List Job := fun i =>
      if i = 0 then [.schedule (requestAtEpoch 5 ⟨"one"⟩)]
      else [.schedule { requestAtEpoch 7 ⟨"two"⟩ with token := other }, .cleanup (ofToken other)]
    let w : World Recorder Unit := ⟨{}, (), []⟩
    let pool := sideBySide (fun _ => {}) jobs w
    let generator : Generator Unit := fun g => (.error (.identifier ""), g)
    let turns : List (Fin 2) := (List.replicate 12 [0, 1]).flatten
    let ended := (pool.play Recorder.service generator turns).2
    let serial := pool.inOrder Recorder.service generator [1, 0]
    (∀ i, serial.scripts i = ended.scripts i) ∧
      ∀ rule, ended.world.service.ruleSchedule? rule = serial.world.service.ruleSchedule? rule := by
  intro other jobs w pool generator turns ended serial
  have hon : ∀ i, ∀ j ∈ jobs i, j.ByToken ∧ j.On (if i = 0 then ⟨"a"⟩ else other) := by
    intro i j hj
    match i with
    | 0 =>
      obtain rfl := List.mem_singleton.mp hj
      exact ⟨⟨rfl, rfl, rfl⟩, rfl⟩
    | 1 =>
      rcases List.mem_cons.mp hj with rfl | hj
      · exact ⟨⟨rfl, rfl, rfl⟩, rfl⟩
      · obtain rfl := List.mem_singleton.mp hj
        exact ⟨⟨other, rfl⟩, rfl⟩
  have hjobs : ∀ i, ∀ j ∈ jobs i, j.ByToken ∧ ∃ t, j.On t := fun i j hj =>
    ⟨(hon i j hj).1, _, (hon i j hj).2⟩
  have hapart : Apart jobs := by
    rintro i k t ⟨j, hj, ht⟩ ⟨j', hj', ht'⟩
    have hi := Job.On.unique (hon i j hj).2 ht
    have hk := Job.On.unique (hon k j' hj').2 ht'
    subst hi
    match i, k with
    | 0, 0 | 1, 1 => rfl
    | 0, 1 | 1, 0 => exact absurd hk (by decide)
  have hend : ∀ i, ∃ as, ended.scripts i = .done as := by
    intro i
    match i with
    | 0 => exact ⟨_, rfl⟩
    | 1 => exact ⟨_, rfl⟩
  obtain ⟨_, hserial, _⟩ := interleaved_as_in_order (fun _ => {}) jobs generator w turns hjobs
    hapart (fun _ => rfl) hend
  obtain ⟨hscripts, hstored⟩ := hserial [1, 0] (by decide)
  exact ⟨hscripts, fun rule => (hstored rule).1⟩

end Wakeup.Scheduler
