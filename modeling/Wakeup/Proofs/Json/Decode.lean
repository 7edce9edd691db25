import Mathlib.Data.Option.Basic
import Wakeup.Json.Decode

/-! What a value has to be to be read as a number, as a list, or as a record of two fields that may
be left out. -/
namespace Wakeup.Json

/-- What an object gives under any of the names, in order. -/
def given (names : List String) (members : List (Option String × Json)) : List Json :=
  (members.filter fun m => m.1.any (· ∈ names)).map Prod.snd

/-- Every name is a text. -/
def Named (members : List (Option String × Json)) : Prop := ∀ m ∈ members, m.1 ≠ none

variable {members : List (Option String × Json)} {items : List Json} {v : Json} {f g : Field}
  {a b : Option Json} {l : List (Option Json)}

theorem length_given_le {names names' : List String} (h : names ⊆ names') :
    (given names members).length ≤ (given names' members).length := by
  simp only [given, List.length_map, ← List.countP_eq_length_filter]
  refine List.countP_mono_left fun m _ hm => ?_
  rcases m with ⟨_ | k, v⟩
  · exact hm
  · exact decide_eq_true (h (of_decide_eq_true hm))

/-- Zero is spelled in one way. -/
theorem int?_eq_zero_iff {n : Numeral} : n.int? = some 0 ↔ n = .ofInt 0 := by
  constructor
  · intro h
    unfold Numeral.int? at h
    split at h
    · next hn =>
      obtain ⟨hf, he, hs⟩ := hn
      rcases n with ⟨negative, whole, fraction, exponent⟩
      cases negative <;> simp_all [Numeral.ofInt]
    · cases h
  · rintro rfl
    rfl

theorem toInt?_eq_some_iff {least greatest i : Int} : v.toInt? least greatest = some i ↔
    ∃ n, v = .number n ∧ n.int? = some i ∧ least ≤ i ∧ i ≤ greatest := by
  cases v with
  | number n =>
    simp only [toInt?, Option.bind_eq_bind, Option.bind_eq_some_iff, Option.guard_eq_some',
      Option.pure_def, Option.some.injEq, Json.number.injEq, exists_eq_left']
    constructor
    · rintro ⟨j, hj, _, hb, rfl⟩
      exact ⟨hj, hb⟩
    · rintro ⟨hi, hb⟩
      exact ⟨i, hi, (), hb, rfl⟩
  | _ => simp [toInt?]

theorem toUInt32?_eq_zero_iff : v.toUInt32? = some 0 ↔ v = .ofInt 0 := by
  constructor
  · intro h
    obtain ⟨i, hi, hz⟩ := Option.map_eq_some_iff.mp h
    obtain ⟨n, rfl, hn, hle, hge⟩ := toInt?_eq_some_iff.mp hi
    have hlt : i.toNat < 4294967296 := by omega
    have hnat : i.toNat = 0 := by
      have := congrArg UInt32.toNat hz
      rwa [UInt32.toNat_ofNat_of_lt' hlt] at this
    obtain rfl : i = 0 := by omega
    rw [int?_eq_zero_iff.mp hn]
    rfl
  · rintro rfl
    rfl

theorem toList?_eq_nil_iff {α : Type} {r : Json → Option α} :
    v.toList? r = some [] ↔ v = .array [] := by
  rcases v with _ | _ | _ | _ | (_ | ⟨v, vs⟩) | _ <;> simp [toList?, Option.bind_eq_some_iff]

theorem namesOk_iff (fields : List Field) : namesOk false fields members ↔ Named members := by
  simp only [namesOk, Bool.not_false, Bool.true_or, Named, List.all_eq_true]
  refine forall₂_congr fun m _ => ?_
  rcases m with ⟨k | k, v⟩ <;> simp

/-- A field that may be left out must not be given twice. -/
theorem member?_eq_some_iff (hf : f.presence = .defaulted) :
    member? members f = some a ↔ given f.names members = a.toList := by
  unfold member? given
  generalize (members.filter fun m => m.1.any (· ∈ f.names)) = found
  rcases found with _ | ⟨m, _ | ⟨m', found⟩⟩ <;> cases a <;> simp [hf]

/-- A null is read as nothing. -/
theorem toOption?_toText?_eq_some_iff {o : Option String} :
    v.toOption? toText? = some o ↔ v = .ofOption .ofString o := by
  rcases v with _ | _ | _ | (_ | s) | _ | _ <;> cases o <;>
    simp [toOption?, toText?, ofOption, ofString]

theorem mapM_pair {α β : Type} (r : α → Option β) (x y : α) (u v : β) :
    [x, y].mapM r = some [u, v] ↔ r x = some u ∧ r y = some v := by
  simp [Option.bind_eq_some_iff]

theorem exists_pair_of_mapM {α β : Type} {r : α → Option β} {x y : α} {l : List β}
    (h : [x, y].mapM r = some l) : ∃ u v, l = [u, v] := by
  simp only [List.mapM_cons, List.mapM_nil, Option.bind_eq_bind, Option.pure_def,
    Option.bind_some, Option.bind_eq_some_iff, Option.some.injEq] at h
  obtain ⟨u, _, _, ⟨v, _, rfl⟩, rfl⟩ := h
  exact ⟨u, v, rfl⟩

theorem exists_pair_of_fields? (h : v.fields? false [f, g] = some l) : ∃ a b, l = [a, b] := by
  cases v with
  | object | array =>
    obtain ⟨_, _, h⟩ := Option.bind_eq_some_iff.mp h
    exact exists_pair_of_mapM h
  | _ => cases h

/-- What is made of a record of two fields is made of their values. -/
theorem bind_fields?_eq_some_iff {β : Type} {r : List (Option Json) → Option β} {x : β} :
    (v.fields? false [f, g]).bind r = some x ↔
      ∃ a b, v.fields? false [f, g] = some [a, b] ∧ r [a, b] = some x := by
  rw [Option.bind_eq_some_iff]
  constructor
  · rintro ⟨l, hl, h⟩
    obtain ⟨a, b, rfl⟩ := exists_pair_of_fields? hl
    exact ⟨a, b, hl, h⟩
  · rintro ⟨a, b, hl, h⟩
    exact ⟨_, hl, h⟩

theorem fields?_object (hf : f.presence = .defaulted) (hg : g.presence = .defaulted) :
    fields? false [f, g] (.object members) = some [a, b] ↔
      Named members ∧ given f.names members = a.toList ∧ given g.names members = b.toList := by
  rw [← member?_eq_some_iff hf, ← member?_eq_some_iff hg, ← namesOk_iff [f, g], ← mapM_pair]
  by_cases hn : namesOk false [f, g] members
  · simp only [fields?, hn, guard, if_true, true_and]
    rfl
  · simp only [fields?, hn, guard]
    exact iff_of_false nofun fun h => nomatch h.1

/-- In an array the second field is not without the first. -/
theorem fields?_array (hf : f.presence = .defaulted) (hg : g.presence = .defaulted) :
    fields? false [f, g] (.array items) = some [a, b] ↔
      items = a.toList ++ b.toList ∧ (a = none → b = none) := by
  rcases items with _ | ⟨x, _ | ⟨y, _ | ⟨z, items⟩⟩⟩
  case cons.cons.cons =>
    refine iff_of_false (by simp only [fields?, guard]; nofun) ?_
    cases a <;> cases b <;> simp
  all_goals cases a <;> cases b <;> simp [fields?, item?, hf, hg, guard]

end Wakeup.Json
