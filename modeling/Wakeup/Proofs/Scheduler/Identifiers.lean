import Mathlib.Data.List.Nodup
import Wakeup.Generator
import Wakeup.Proofs.Scheduler.Exchanges
import Wakeup.Proofs.Scheduler.Retry
import Wakeup.Proofs.Script.Draws

/-! Each job draws one identifier or none. Identifiers are used up in the order in which the
generator gives them, so that no two requests without a token go by the same names. -/
namespace Wakeup.Scheduler

open Script TriggerIds

/-- The job needs an identifier of its own. -/
def Job.Draws : Job → Prop
  | schedule r => r.destination ≠ "" ∧ r.LacksNames
  | cleanup _ => False
  | drawToken | drawIds => True

/-- A job that was done: what was drawn for it, and its answer. -/
structure Account where
  job : Job
  drawn : List (Except Failure String)
  answer : Answer

/-- What a job draws and what it makes of that. -/
inductive Account.Sound : Account → Prop where
  | noDestination {r : Request} (hd : r.destination = "") :
      Sound ⟨.schedule r, [], .scheduled (.error (.refused .noDestination))⟩
  | derived {r : Request} {result : Except Failure Trigger} (hd : r.destination ≠ "")
      (h : ¬ r.LacksNames) (hids : ∀ t, result = .ok t → t.ids = r.ids) :
      Sound ⟨.schedule r, [], .scheduled result⟩
  | noIdentifier {r : Request} {f : Failure} (hd : r.destination ≠ "") (h : r.LacksNames) :
      Sound ⟨.schedule r, [.error f], .scheduled (.error f)⟩
  | fresh {r : Request} {s : String} {result : Except Failure Trigger} (hd : r.destination ≠ "")
      (h : r.LacksNames) (hids : ∀ t, result = .ok t → t.ids = r.idsOr (ofToken ⟨s⟩)) :
      Sound ⟨.schedule r, [.ok s], .scheduled result⟩
  | cleanup {ids : TriggerIds} {result : Except Failure Unit} :
      Sound ⟨.cleanup ids, [], .cleaned result⟩
  | token {i : Except Failure String} :
      Sound ⟨.drawToken, [i], .drewToken (i.map fun s => ⟨s⟩)⟩
  | ids {i : Except Failure String} :
      Sound ⟨.drawIds, [i], .drewIds (i.map fun s => ofToken ⟨s⟩)⟩

/-- Neither goes by a name of the other, unless it was told to. -/
def Account.Apart (a b : Account) : Prop :=
  ∀ r q t u, a.job = .schedule r → b.job = .schedule q →
    a.answer = .scheduled (.ok t) → b.answer = .scheduled (.ok u) →
    r.token.text = "" → q.token.text = "" →
      (r.ruleName = none → q.ruleName = none → t.ids.ruleName ≠ u.ids.ruleName) ∧
      (r.targetId = none → q.targetId = none → t.ids.targetId ≠ u.ids.targetId)

variable {σ γ : Type} {service : Service σ} {generator : Generator γ} {config : Config}
  {j : Job} {r q : Request} {ids : TriggerIds} {a b : Account}

/-- The account of a job that is done in a world. -/
def account (service : Service σ) (generator : Generator γ) (config : Config) (j : Job)
    (w : World σ γ) : Account :=
  ⟨j, (j.script config).draws service generator w, ((j.script config).run service generator w).1⟩

/-- The accounts of jobs that are done one after another. -/
def accounts (service : Service σ) (generator : Generator γ) (config : Config) :
    List Job → World σ γ → List Account
  | [], _ => []
  | j :: js, w => account service generator config j w ::
    accounts service generator config js ((j.script config).run service generator w).2

theorem Account.Sound.draws_iff (h : a.Sound) :
    (a.job.Draws ↔ a.drawn.length = 1) ∧ (¬ a.job.Draws ↔ a.drawn = []) := by
  cases h with
  | noDestination hd => simp [Job.Draws, hd]
  | derived hd h => simp [Job.Draws, h]
  | noIdentifier hd h | fresh hd h => simp [Job.Draws, hd, h]
  | cleanup | token | ids => simp [Job.Draws]

theorem Account.Sound.exists_drawn {t : Trigger} (h : a.Sound) (hj : a.job = .schedule r)
    (ha : a.answer = .scheduled (.ok t)) (hr : r.LacksNames) :
    ∃ s, a.drawn = [.ok s] ∧ t.ids = r.idsOr (ofToken ⟨s⟩) := by
  cases h with
  | noDestination hd | noIdentifier hd h => cases ha
  | derived hd h => cases hj; exact absurd hr h
  | fresh hd h hids =>
    cases hj
    cases ha
    exact ⟨_, rfl, hids t rfl⟩
  | cleanup | token | ids => cases hj

/-- Where nothing drawn is shared, two requests that need identifiers get different ones. -/
theorem Account.Sound.exists_ne {t u : Trigger} (ha : a.Sound) (hb : b.Sound)
    (h : (identifiers a.drawn).Disjoint (identifiers b.drawn))
    (hr : a.job = .schedule r) (hq : b.job = .schedule q) (ht : a.answer = .scheduled (.ok t))
    (hu : b.answer = .scheduled (.ok u)) (hnr : r.LacksNames) (hnq : q.LacksNames) :
    ∃ x y : Token, x ≠ y ∧ t.ids = r.idsOr (ofToken x) ∧ u.ids = q.idsOr (ofToken y) := by
  obtain ⟨x, hx, hids⟩ := ha.exists_drawn hr ht hnr
  obtain ⟨y, hy, hids'⟩ := hb.exists_drawn hq hu hnq
  refine ⟨⟨x⟩, ⟨y⟩, ?_, hids, hids'⟩
  rintro ⟨rfl⟩
  rw [hx, hy] at h
  exact h (a := x) List.mem_cons_self List.mem_cons_self

theorem Account.Sound.apart (ha : a.Sound) (hb : b.Sound)
    (h : (identifiers a.drawn).Disjoint (identifiers b.drawn)) : a.Apart b := by
  intro r q t u hr hq ht hu her heq
  constructor
  · intro hnr hnq
    obtain ⟨x, y, hne, hx, hy⟩ := ha.exists_ne hb h hr hq ht hu ⟨her, .inl hnr⟩ ⟨heq, .inl hnq⟩
    rw [hx, hy, Request.idsOr, Request.idsOr, hnr, hnq]
    exact fun he => hne (ruleName_ofToken_inj.mp he)
  · intro hnr hnq
    obtain ⟨x, y, hne, hx, hy⟩ := ha.exists_ne hb h hr hq ht hu ⟨her, .inr hnr⟩ ⟨heq, .inr hnq⟩
    rw [hx, hy, Request.idsOr, Request.idsOr, hnr, hnq]
    exact fun he => hne (targetId_ofToken_inj.mp he)

/-- Once its names are known, a request draws nothing more and goes by them. -/
theorem draws_armNamed (service : Service σ) (generator : Generator γ) (config : Config)
    (r : Request) (ids : TriggerIds) (w : World σ γ) :
    (armNamed config r ids).run.draws service generator w = [] ∧
      ∀ t, ((armNamed config r ids).run.run service generator w).1 = .ok t → t.ids = ids := by
  refine ⟨(onlyCalls_armNamed config r ids).draws_eq_nil service generator w, fun t ht => ?_⟩
  have h := reaches_run service generator (armNamed config r ids).run w
  rw [ht] at h
  exact (ok_of_armNamed h).1

theorem sound_schedule (r : Request) (w : World σ γ) :
    (account service generator config (.schedule r) w).Sound := by
  simp only [account, Job.script, draws_bind, run_bind, draws, run, List.append_nil]
  by_cases hd : r.destination = ""
  · rw [schedule_of_noDestination hd]
    exact .noDestination hd
  · rw [schedule_of_destination hd, ExceptT.run_bind, run_resolve]
    by_cases hn : r.LacksNames
    · rw [if_neg fun h => isNamed_iff.mp h hn]
      rcases h : generator w.generator with ⟨f | s, g⟩
      · simp only [draw_bind, done_bind, draws, run, h]
        exact .noIdentifier hd hn
      · simp only [draw_bind, note_bind, done_bind, draws, run, h]
        obtain ⟨hdraws, hids⟩ :=
          draws_armNamed service generator config r (r.idsOr (ofToken ⟨s⟩)) _
        rw [hdraws]
        exact .fresh hd hn hids
    · simp only [if_pos (isNamed_iff.mpr hn), done_bind]
      obtain ⟨hdraws, hids⟩ := draws_armNamed service generator config r r.ids w
      rw [hdraws]
      exact .derived hd hn hids

/-- Everything a job can draw, whatever the service answers and the generator gives. -/
theorem sound_account (j : Job) (w : World σ γ) :
    (account service generator config j w).Sound := by
  cases j with
  | schedule r => exact sound_schedule r w
  | cleanup ids =>
    have hdraws := (onlyCalls_cleanup ids).draws_eq_nil service generator w
    simp only [account, Job.script, draws_bind, run_bind, draws, run, hdraws, List.append_nil]
    exact .cleanup
  | drawToken =>
    simp only [account, Job.script, run_freshToken, draw_bind, done_bind, draws, run]
    exact .token
  | drawIds =>
    simp only [account, Job.script, run_freshIds, draw_bind, done_bind, draws, run]
    exact .ids

theorem sound_accounts (jobs : List Job) (w : World σ γ) :
    ∀ a ∈ accounts service generator config jobs w, a.Sound := by
  induction jobs generalizing w with
  | nil => exact fun a ha => absurd ha List.not_mem_nil
  | cons j js ih => exact List.forall_mem_cons.mpr ⟨sound_account j w, ih _⟩

/-- The accounts tell of the session as it goes: its answers, and all that is drawn in it. -/
theorem accounts_session (service : Service σ) (generator : Generator γ) (config : Config)
    (jobs : List Job) (w : World σ γ) :
    (accounts service generator config jobs w).map (fun a => (a.job, a.answer)) =
        ((session config jobs).run service generator w).1 ∧
      (accounts service generator config jobs w).flatMap Account.drawn =
        (session config jobs).draws service generator w := by
  induction jobs generalizing w with
  | nil => exact ⟨rfl, rfl⟩
  | cons j js ih =>
    obtain ⟨hanswers, hdrawn⟩ := ih ((j.script config).run service generator w).2
    rw [accounts, List.map_cons, List.flatMap_cons, hanswers, hdrawn, session, run_bind, draws_bind,
      run_bind, draws_bind]
    simp only [account, run, draws, List.append_nil, and_self]

/-- Accounts in which no identifier is drawn twice are apart from one another. -/
theorem pairwise_apart {accounts : List Account} (hs : ∀ a ∈ accounts, a.Sound)
    (h : (identifiers (accounts.flatMap Account.drawn)).Nodup) :
    accounts.Pairwise Account.Apart := by
  rw [identifiers, List.filterMap_flatMap, List.nodup_flatMap] at h
  exact h.2.imp_of_mem fun ha hb hd => (hs _ ha).apart (hs _ hb) hd

/-- With a generator that gives no identifier twice, a job draws one exactly if it needs it, and
they are used in the order in which they are given. So requests without a token go by different
names, but for names they were told to go by; and a request with a token goes by the names derived
from it, whatever is given to it and to those before. -/
theorem drawn_in_order (config : Config) (service : Service σ) (generator : Generator γ)
    (w : World σ γ) (jobs : List Job) (hg : GivesOnce generator w.generator) :
    let done := accounts service generator config jobs w
    let drawn := (session config jobs).draws service generator w
    done.map (fun a => (a.job, a.answer)) = ((session config jobs).run service generator w).1 ∧
    (∀ a ∈ done, (a.job.Draws ↔ a.drawn.length = 1) ∧ (¬ a.job.Draws ↔ a.drawn = []) ∧ a.Sound) ∧
    done.flatMap Account.drawn = drawn ∧
    drawn = upcoming generator drawn.length w.generator ∧
    (identifiers drawn).Nodup ∧
    done.Pairwise Account.Apart ∧
    ∀ r : Request, r.token.text ≠ "" →
      ∀ {τ δ : Type} (service : Service τ) (generator : Generator δ) (v : World τ δ),
        (resolve r).run.run service generator v = (.ok r.ids, v) := by
  intro done drawn
  obtain ⟨hanswers, hdrawn⟩ := accounts_session service generator config jobs w
  have hyields := yields_draws service generator (session config jobs) w
  have hsound : ∀ a ∈ done, a.Sound := sound_accounts jobs w
  have hnodup := hyields.nodup hg
  refine ⟨hanswers, fun a ha => ?_, hdrawn, hyields.eq_upcoming, hnodup, ?_, fun r hr => ?_⟩
  · obtain ⟨hone, hnone⟩ := (hsound a ha).draws_iff
    exact ⟨hone, hnone, hsound a ha⟩
  · rw [← hdrawn] at hnodup
    exact pairwise_apart hsound hnodup
  · intro τ δ service generator v
    rw [run_resolve, if_pos (isNamed_iff.mpr fun h => hr h.1)]
    rfl

theorem identifiers_ofList (f : Failure) (n : Nat) (ids : List String) :
    identifiers (upcoming (Generator.ofList f) n ids) = ids.take n := by
  induction n generalizing ids with
  | zero => rfl
  | succ n ih =>
    cases ids with
    | nil => exact (ih []).trans List.take_nil
    | cons id ids => exact congrArg (id :: ·) (ih ids)

theorem givesOnce_ofList (f : Failure) {ids : List String} (h : ids.Nodup) :
    GivesOnce (Generator.ofList f) ids := by
  intro n
  rw [identifiers_ofList]
  exact h.sublist (List.take_sublist n ids)

/-- The first request fails after its draw, a token is drawn on its own, and the second request
is told the name of its rule. -/
theorem drawn_in_order_targetFailed :
    let request : Request := { requestAtEpoch 5 ⟨"one"⟩ with token := ⟨""⟩ }
    let jobs : List Job := [.schedule request, .drawToken,
      .schedule { request with ruleName := some ⟨"rule"⟩ }, .cleanup (ofToken ⟨"a"⟩),
      .schedule request]
    let generator := Generator.ofList (.identifier "")
    let w : World Recorder (List String) :=
      ⟨failingOnce .putTargets, ["a", "b", "c", "d"], []⟩
    let done := accounts Recorder.service generator {} jobs w
    GivesOnce generator w.generator ∧
      (session {} jobs).draws Recorder.service generator w =
        [.ok "a", .ok "b", .ok "c", .ok "d"] ∧
      done.map Account.drawn = [[.ok "a"], [.ok "b"], [.ok "c"], [], [.ok "d"]] ∧
      done.Pairwise Account.Apart := by
  intro request jobs generator w done
  have hg : GivesOnce generator w.generator := givesOnce_ofList _ (by decide)
  have hdrawn : done.map Account.drawn = [[.ok "a"], [.ok "b"], [.ok "c"], [], [.ok "d"]] := by rfl
  obtain ⟨_, _, hflat, _, _, hapart, _⟩ := drawn_in_order {} Recorder.service generator w jobs hg
  refine ⟨hg, ?_, hdrawn, hapart⟩
  rw [← hflat, List.flatMap_def, hdrawn]
  rfl

end Wakeup.Scheduler
