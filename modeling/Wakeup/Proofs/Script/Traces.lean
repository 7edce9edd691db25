import Wakeup.Proofs.Script.Steps

/-! What a script can do with any service at all: the calls it makes, by the outcomes that it is
given. -/
namespace Wakeup.Script

variable {σ γ α β : Type} {x y z : Script α} {l l' : List (Call × Outcome)} {P Q : Call → Prop}

/-- A call that was made with what came of it. -/
def Step.exchange (s : Step σ) : Call × Outcome := (s.call, s.outcome)

/-- The calls that succeeded. -/
def granted (l : List (Call × Outcome)) : List Call := (l.filter fun e => e.2.isOk).map Prod.fst

theorem mem_granted {c : Call} {l : List (Call × Outcome)} :
    c ∈ granted l ↔ (c, .ok ()) ∈ l := by
  simp only [granted, List.mem_map, List.mem_filter]
  constructor
  · rintro ⟨⟨c, o⟩, ⟨hm, ho⟩, rfl⟩
    rcases o with f | ⟨⟩
    · cases ho
    · exact hm
  · intro h
    exact ⟨_, ⟨h, rfl⟩, rfl⟩

/-- The last call of one kind that succeeded. -/
def lastGranted? (p : Call → Bool) (l : List (Call × Outcome)) : Option Call :=
  ((granted l).filter p).getLast?

theorem lastGranted?_cons_ok (p : Call → Bool) (c : Call) (l : List (Call × Outcome)) :
    lastGranted? p ((c, .ok ()) :: l) = (lastGranted? p l).or (if p c then some c else none) := by
  change (List.filter p (c :: granted l)).getLast? = _
  by_cases hp : p c
  · rw [List.filter_cons_of_pos hp, List.getLast?_cons, if_pos hp, lastGranted?]
    cases (List.filter p (granted l)).getLast? <;> rfl
  · rw [List.filter_cons_of_neg hp, if_neg hp, Option.or_none, lastGranted?]

theorem lastGranted?_cons_error (p : Call → Bool) (c : Call) (f : Fault)
    (l : List (Call × Outcome)) : lastGranted? p ((c, .error f) :: l) = lastGranted? p l := rfl

theorem lastGranted?_eq_some {p : Call → Bool} {c : Call} (h : lastGranted? p l = some c) :
    (c, .ok ()) ∈ l ∧ p c := by
  obtain ⟨hc, hp⟩ := List.mem_filter.mp (List.mem_of_getLast? h)
  exact ⟨mem_granted.mp hc, hp⟩

theorem exists_lastGranted? {p : Call → Bool} {c : Call} (h : (c, .ok ()) ∈ l) (hp : p c) :
    ∃ d, lastGranted? p l = some d := by
  have hc := List.mem_filter.mpr ⟨mem_granted.mpr h, hp⟩
  exact ⟨_, List.getLast?_eq_some_getLast (List.ne_nil_of_mem hc)⟩

/-- `Reaches x l y`: once the calls of `l` have had their outcomes, `y` is what is left of `x`. -/
inductive Reaches : Script α → List (Call × Outcome) → Script α → Prop where
  | refl {x : Script α} : Reaches x [] x
  | call {c : Call} {next : Outcome → Script α} {o : Outcome} {l : List (Call × Outcome)}
      {y : Script α} (h : Reaches (next o) l y) : Reaches (.call c next) ((c, o) :: l) y
  | draw {next : Except Failure String → Script α} {i : Except Failure String}
      {l : List (Call × Outcome)} {y : Script α} (h : Reaches (next i) l y) :
      Reaches (.draw next) l y
  | note {e : Entry} {next : Script α} {l : List (Call × Outcome)} {y : Script α}
      (h : Reaches next l y) : Reaches (.note e next) l y

theorem Reaches.trans (h : Reaches x l y) (h' : Reaches y l' z) : Reaches x (l ++ l') z := by
  induction h with
  | refl => exact h'
  | call _ ih => exact .call (ih h')
  | draw _ ih => exact .draw (ih h')
  | note _ ih => exact .note (ih h')

@[simp] theorem reaches_done_iff {a b : α} :
    Reaches (.done b) l (.done a) ↔ l = [] ∧ b = a := by
  constructor
  · intro h
    cases h
    exact ⟨rfl, rfl⟩
  · rintro ⟨rfl, rfl⟩
    exact .refl

@[simp] theorem reaches_call_iff {c : Call} {next : Outcome → Script α} {a : α} :
    Reaches (.call c next) l (.done a) ↔
      ∃ o l', l = (c, o) :: l' ∧ Reaches (next o) l' (.done a) := by
  constructor
  · intro h
    cases h with
    | call h => exact ⟨_, _, rfl, h⟩
  · rintro ⟨o, l', rfl, h⟩
    exact .call h

@[simp] theorem reaches_note_iff {e : Entry} {next : Script α} {a : α} :
    Reaches (.note e next) l (.done a) ↔ Reaches next l (.done a) := by
  constructor
  · intro h
    cases h with
    | note h => exact h
  · exact .note

/-- A run is one of the things that a script can do. -/
theorem reaches_run (service : Service σ) (generator : Generator γ) (x : Script α)
    (w : World σ γ) : Reaches x ((x.steps service generator w).map Step.exchange)
      (.done (x.run service generator w).1) := by
  induction x generalizing w with
  | done a => exact .refl
  | call c next ih => exact .call (ih _ _)
  | draw next ih => exact .draw (ih _ _)
  | note e next ih => exact .note (ih _)

/-- The script takes notes and makes calls of one kind, and does nothing else. -/
def OnlyCalls (P : Call → Prop) : Script α → Prop
  | done _ => True
  | call c next => P c ∧ ∀ o, (next o).OnlyCalls P
  | draw _ => False
  | note _ next => next.OnlyCalls P

theorem OnlyCalls.mono (h : x.OnlyCalls P) (hPQ : ∀ c, P c → Q c) : x.OnlyCalls Q := by
  induction x with
  | done a => trivial
  | call c next ih => exact ⟨hPQ c h.1, fun o => ih o (h.2 o)⟩
  | draw next => exact h.elim
  | note e next ih => exact ih h

theorem OnlyCalls.bind {f : α → Script β} (h : x.OnlyCalls P) (hf : ∀ a, (f a).OnlyCalls P) :
    (x >>= f).OnlyCalls P := by
  induction x with
  | done a => exact hf a
  | call c next ih => exact ⟨h.1, fun o => ih o (h.2 o)⟩
  | draw next => exact h.elim
  | note e next ih => exact ih h

theorem Reaches.forall_calls (h : Reaches x l y) (hx : x.OnlyCalls P) : ∀ e ∈ l, P e.1 := by
  induction h with
  | refl => exact fun e he => absurd he List.not_mem_nil
  | call _ ih => exact List.forall_mem_cons.mpr ⟨hx.1, ih (hx.2 _)⟩
  | draw => exact hx.elim
  | note _ ih => exact ih hx

/-- Where all calls succeed and nothing is drawn there is one way to the end. -/
theorem Reaches.done_unique {a b : α} (h : Reaches x l (.done a)) (h' : Reaches x l' (.done b))
    (hx : x.OnlyCalls P) (hl : ∀ e ∈ l, e.2 = .ok ()) (hl' : ∀ e ∈ l', e.2 = .ok ()) :
    l = l' ∧ a = b := by
  -- along the one way to the end; the other can only part from it at an outcome
  generalize hy : Script.done a = y at h
  induction h generalizing l' with
  | refl =>
    subst hy
    cases h'
    exact ⟨rfl, rfl⟩
  | call _ ih =>
    cases h' with
    | call h' =>
      obtain ⟨ho, hrest⟩ := List.forall_mem_cons.mp hl
      obtain ⟨ho', hrest'⟩ := List.forall_mem_cons.mp hl'
      simp only at ho ho'
      subst ho ho'
      obtain ⟨rfl, rfl⟩ := ih h' (hx.2 _) hrest hrest' hy
      exact ⟨rfl, rfl⟩
  | draw => exact hx.elim
  | note _ ih =>
    cases h' with
    | note h' => exact ih h' hx hl hl' hy

end Wakeup.Script
