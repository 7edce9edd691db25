import Mathlib.Logic.Function.Basic
import Wakeup.Proofs.Script.Traces

/-! Scripts side by side in one world. Their steps may come in any order, and still each does what
it could do by itself. -/
namespace Wakeup.Script

/-- Scripts that share a world. -/
structure Pool (ι α σ γ : Type) where
  scripts : ι → Script α
  world : World σ γ

namespace Pool

variable {ι α σ γ : Type} [DecidableEq ι]

/-- One of the scripts takes a step; if it is a call, the call is told of. -/
def move (service : Service σ) (generator : Generator γ) (i : ι) (p : Pool ι α σ γ) :
    List (ι × Step σ) × Pool ι α σ γ :=
  match p.scripts i with
  | .done _ => ([], p)
  | .call c next =>
    let (o, events, s) := service c p.world.service
    ([(i, ⟨p.world.service, c, o, s⟩)], ⟨Function.update p.scripts i (next o),
      { p.world with service := s, journal := p.world.journal ++ events.map .noted }⟩)
  | .draw next =>
    let (x, g) := generator p.world.generator
    ([], ⟨Function.update p.scripts i (next x), { p.world with generator := g }⟩)
  | .note e next =>
    ([], ⟨Function.update p.scripts i next, { p.world with journal := p.world.journal ++ [e] }⟩)

/-- The scripts take steps by turns; the calls come in the order in which they were made. -/
def play (service : Service σ) (generator : Generator γ) :
    List ι → Pool ι α σ γ → List (ι × Step σ) × Pool ι α σ γ
  | [], p => ([], p)
  | i :: turns, p =>
    let (made, q) := p.move service generator i
    let (later, r) := q.play service generator turns
    (made ++ later, r)

/-- One of the scripts runs to its end while the others wait. -/
def finish (service : Service σ) (generator : Generator γ) (i : ι) (p : Pool ι α σ γ) :
    Pool ι α σ γ :=
  let (a, w) := (p.scripts i).run service generator p.world
  ⟨Function.update p.scripts i (.done a), w⟩

/-- The scripts run one after another, each to its end. -/
def inOrder (service : Service σ) (generator : Generator γ) (order : List ι)
    (p : Pool ι α σ γ) : Pool ι α σ γ :=
  order.foldl (fun p i => p.finish service generator i) p

/-- The calls with what came of them. -/
def exchanges (made : List (ι × Step σ)) : List (Call × Outcome) :=
  (made.map Prod.snd).map Step.exchange

/-- Those that are due to one of the scripts. -/
def exchangesOf (k : ι) (made : List (ι × Step σ)) : List (Call × Outcome) :=
  (made.filter fun x => x.1 = k).map fun x => x.2.exchange

variable {service : Service σ} {generator : Generator γ} {p : Pool ι α σ γ} {i : ι}

@[simp] theorem exchangesOf_nil (k : ι) : exchangesOf k ([] : List (ι × Step σ)) = [] := rfl

omit [DecidableEq ι] in
theorem mem_exchanges {made : List (ι × Step σ)} {e : Call × Outcome} :
    e ∈ exchanges made ↔ ∃ x ∈ made, x.2.exchange = e := by
  simp only [exchanges, List.map_map, List.mem_map, Function.comp_apply]

theorem exchangesOf_append (k : ι) (made later : List (ι × Step σ)) :
    exchangesOf k (made ++ later) = exchangesOf k made ++ exchangesOf k later := by
  simp only [exchangesOf, List.filter_append, List.map_append]

theorem exchangesOf_singleton (k i : ι) (x : Step σ) :
    exchangesOf k [(i, x)] = if i = k then [x.exchange] else [] := by
  by_cases h : i = k <;> simp [exchangesOf, h]

theorem mem_exchangesOf {k : ι} {made : List (ι × Step σ)} {e : Call × Outcome} :
    e ∈ exchangesOf k made ↔ ∃ x ∈ made, x.1 = k ∧ x.2.exchange = e := by
  simp only [exchangesOf, List.mem_map, List.mem_filter, decide_eq_true_eq, and_assoc]

/-- The calls that one script alone can have made are found among its own. -/
theorem granted_filter_of_owner {made : List (ι × Step σ)} {p : Call → Bool} {i : ι}
    (h : ∀ x ∈ made, p x.2.call → x.1 = i) :
    (granted (exchanges made)).filter p = (granted (exchangesOf i made)).filter p := by
  simp only [granted, exchanges, exchangesOf, List.filter_map, List.map_map, List.filter_filter]
  congr 1
  refine List.filter_congr fun x hx => ?_
  simp only [Function.comp_apply, Step.exchange]
  by_cases hp : p x.2.call
  · simp [hp, h x hx hp]
  · simp [hp]

theorem play_append (turns turns' : List ι) (p : Pool ι α σ γ) :
    (p.play service generator (turns ++ turns')).2 =
      ((p.play service generator turns).2.play service generator turns').2 := by
  induction turns generalizing p with
  | nil => rfl
  | cons i turns ih => exact ih _

theorem leads_move (i : ι) (p : Pool ι α σ γ) :
    Leads service p.world.service ((p.move service generator i).1.map Prod.snd)
      (p.move service generator i).2.world.service := by
  unfold move
  split
  · exact .nil
  · exact .cons rfl .nil
  · exact .nil
  · exact .nil

/-- The calls are made one after another, however they are shared out. -/
theorem leads_play (service : Service σ) (generator : Generator γ) (turns : List ι)
    (p : Pool ι α σ γ) :
    Leads service p.world.service ((p.play service generator turns).1.map Prod.snd)
      (p.play service generator turns).2.world.service := by
  induction turns generalizing p with
  | nil => exact .nil
  | cons i turns ih =>
    simp only [play, List.map_append]
    exact (leads_move i p).trans (ih _)

theorem reaches_move (i : ι) (p : Pool ι α σ γ) (k : ι) :
    Reaches (p.scripts k) (exchangesOf k (p.move service generator i).1)
      ((p.move service generator i).2.scripts k) := by
  by_cases hk : k = i
  -- the script whose turn it is takes its step, the others stay as they are
  · subst hk
    unfold move
    split
    · exact .refl
    · next h =>
      rw [h]
      simp only [exchangesOf_singleton, if_true, Function.update_self]
      exact .call .refl
    · next h =>
      rw [h]
      simp only [exchangesOf_nil, Function.update_self]
      exact .draw .refl
    · next h =>
      rw [h]
      simp only [exchangesOf_nil, Function.update_self]
      exact .note .refl
  · unfold move
    split
    · exact .refl
    · simp only [exchangesOf_singleton, if_neg (Ne.symm hk), Function.update_of_ne hk]
      exact .refl
    · simp only [exchangesOf_nil, Function.update_of_ne hk]
      exact .refl
    · simp only [exchangesOf_nil, Function.update_of_ne hk]
      exact .refl

/-- Each script does what it could do by itself. -/
theorem reaches_play (service : Service σ) (generator : Generator γ) (turns : List ι)
    (p : Pool ι α σ γ) (k : ι) :
    Reaches (p.scripts k) (exchangesOf k (p.play service generator turns).1)
      ((p.play service generator turns).2.scripts k) := by
  induction turns generalizing p with
  | nil => exact .refl
  | cons i turns ih =>
    simp only [play, exchangesOf_append]
    exact (reaches_move i p k).trans (ih _)

theorem reaches_of_eq {turns : List ι} {k : ι} {x : Script α}
    (h : (p.play service generator turns).2.scripts k = x) :
    Reaches (p.scripts k) (exchangesOf k (p.play service generator turns).1) x := by
  rw [← h]
  exact reaches_play service generator turns p k

/-- Each script makes the calls that it makes at all. -/
theorem forall_calls_play (P : ι → Call → Prop) (service : Service σ) (generator : Generator γ)
    (turns : List ι) (h : ∀ k, (p.scripts k).OnlyCalls (P k)) :
    ∀ x ∈ (p.play service generator turns).1, P x.1 x.2.call := by
  intro x hx
  exact (reaches_play service generator turns p x.1).forall_calls (h x.1) x.2.exchange
    (mem_exchangesOf.mpr ⟨x, hx, rfl, rfl⟩)

/-- The steps that a script takes are those of its run. -/
theorem finish_move (i : ι) (p : Pool ι α σ γ) :
    (p.move service generator i).2.finish service generator i = p.finish service generator i := by
  unfold move
  split
  · rfl
  all_goals
    next h => simp only [finish, h, run, Function.update_self, Function.update_idem]

theorem exists_turns_of_move (h : ∃ turns, ((p.move service generator i).2.play service generator
      turns).2 = (p.move service generator i).2.finish service generator i) :
    ∃ turns, (p.play service generator turns).2 = p.finish service generator i := by
  obtain ⟨turns, h⟩ := h
  exact ⟨i :: turns, h.trans (finish_move i p)⟩

/-- A script that is left alone for long enough comes to its end. -/
theorem exists_turns_finish (service : Service σ) (generator : Generator γ) (i : ι)
    (p : Pool ι α σ γ) :
    ∃ turns, (p.play service generator turns).2 = p.finish service generator i := by
  -- by what is left of the script, whatever the world it stands in
  generalize hx : p.scripts i = x
  induction x generalizing p with
  | done a =>
    refine ⟨[], ?_⟩
    rw [finish, hx]
    change p = ⟨Function.update p.scripts i (.done a), p.world⟩
    rw [← hx, Function.update_eq_self]
  | call c next ih =>
    have hmove : (p.move service generator i).2.scripts i = next (service c p.world.service).1 := by
      simp only [move, hx, Function.update_self]
    exact exists_turns_of_move (ih _ _ hmove)
  | draw next ih =>
    have hmove : (p.move service generator i).2.scripts i =
        next (generator p.world.generator).1 := by
      simp only [move, hx, Function.update_self]
    exact exists_turns_of_move (ih _ _ hmove)
  | note e next ih =>
    have hmove : (p.move service generator i).2.scripts i = next := by
      simp only [move, hx, Function.update_self]
    exact exists_turns_of_move (ih _ hmove)

/-- To run one after another is one way to take turns. -/
theorem exists_turns_inOrder (service : Service σ) (generator : Generator γ) (order : List ι)
    (p : Pool ι α σ γ) :
    ∃ turns, (p.play service generator turns).2 = p.inOrder service generator order := by
  induction order generalizing p with
  | nil => exact ⟨[], rfl⟩
  | cons i order ih =>
    obtain ⟨turns, h⟩ := exists_turns_finish service generator i p
    obtain ⟨turns', h'⟩ := ih (p.finish service generator i)
    refine ⟨turns ++ turns', ?_⟩
    rw [play_append, h, h']
    rfl

theorem finish_self (i : ι) (p : Pool ι α σ γ) :
    ∃ a, (p.finish service generator i).scripts i = .done a :=
  ⟨_, Function.update_self ..⟩

theorem finish_of_done {k : ι} (h : ∃ a, p.scripts k = .done a) :
    ∃ a, (p.finish service generator i).scripts k = .done a := by
  by_cases hk : k = i
  · subst hk
    exact finish_self k p
  · obtain ⟨a, h⟩ := h
    exact ⟨a, (Function.update_of_ne hk ..).trans h⟩

/-- Each script whose turn it has been is at its end. -/
theorem inOrder_done (service : Service σ) (generator : Generator γ) (order : List ι)
    (p : Pool ι α σ γ) {k : ι}
    (h : k ∈ order ∨ ∃ a, p.scripts k = .done a) :
    ∃ a, (p.inOrder service generator order).scripts k = .done a := by
  induction order generalizing p with
  | nil => exact h.resolve_left List.not_mem_nil
  | cons i order ih =>
    refine ih (p.finish service generator i) ?_
    rcases h with h | h
    · rcases List.mem_cons.mp h with rfl | h
      · exact .inr (finish_self k p)
      · exact .inl h
    · exact .inr (finish_of_done h)

end Pool
end Wakeup.Script
