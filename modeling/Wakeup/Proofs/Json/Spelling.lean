import Mathlib.Data.List.Chain
import Wakeup.Json.Tokens
import Wakeup.Proofs.Number.Numerals
import Wakeup.Proofs.Text.Utf8

/-! A value that is spelled out is read as that value, from characters and from bytes. -/
namespace Wakeup.Json

namespace Token

/-- The piece that a character is read as. Control characters without an escape of their own are
written as units. -/
def pieceOf (c : Char) : Piece :=
  if c.toNat < 0x20 ∧ c ∉ ['\x08', '\x0c', '\n', '\r', '\t'] then .unit c.toNat else .glyph (some c)

theorem hexUnit?_control (n : Nat) (h : n < 0x20) :
    hexUnit? [some '0', some '0', some (Nat.digitChar (n / 16)), some (Nat.digitChar (n % 16))] =
      some n := by
  revert n
  decide

/-- A character that needs no escape is read as it stands. -/
theorem pieces?_unescaped {c : Char} (hq : c ≠ '"') (hb : c ≠ '\\') (h : ¬ c.toNat < 0x20)
    (out : List Piece) (s : List Glyph) :
    pieces? out (some c :: s) = pieces? (.glyph (some c) :: out) s := by
  have hn : ¬ (isControl (some c) ∨ some c = some '\\') := by
    simp only [isControl, Option.any_some, decide_eq_true_eq, Option.some.injEq, not_or]
    exact ⟨h, hb⟩
  rw [pieces?, if_neg hn]
  · exact fun he => hq (Option.some.inj he)
  · exact fun _ _ _ _ _ he => absurd (Option.some.inj he) hb
  · exact fun _ _ he => absurd (Option.some.inj he) hb

theorem pieces?_escapedChar (c : Char) (out : List Piece) (s : List Glyph) :
    pieces? out ((escapedChar c).map some ++ s) = pieces? (pieceOf c :: out) s := by
  unfold escapedChar
  split
  iterate 7 rfl
  next hq hb h8 hc hn hr ht =>
    split
    · next h =>
      have hp : pieceOf c = .unit c.toNat := if_pos ⟨h, by simpa using ⟨h8, hc, hn, hr, ht⟩⟩
      simp only [List.map_cons, List.map_nil, List.cons_append, List.nil_append]
      rw [pieces?, hexUnit?_control _ h, hp]
    · next h =>
      have hp : pieceOf c = .glyph (some c) := if_neg fun hc => h hc.1
      rw [hp]
      exact pieces?_unescaped hq hb h out s

theorem pieces?_escaped (cs : List Char) (out : List Piece) (s : List Glyph) :
    pieces? out ((cs.flatMap escapedChar).map some ++ some '"' :: s) =
      some (out.reverse ++ cs.map pieceOf, s) := by
  induction cs generalizing out with
  | nil => simp [pieces?]
  | cons c cs ih =>
    rw [List.flatMap_cons, List.map_append, List.append_assoc, pieces?_escapedChar, ih]
    simp

theorem joinOnto_pieceOf (c : Char) (out : List Char) (ps : List Piece) :
    joinOnto out (pieceOf c :: ps) = joinOnto (c :: out) ps := by
  unfold pieceOf
  split
  · next h =>
    -- a control character is no half of a surrogate pair, whatever comes next
    have hh : isHighSurrogate c.toNat = false := by
      simp only [isHighSurrogate, Bool.and_eq_false_iff, decide_eq_false_iff_not]
      omega
    have hl : isLowSurrogate c.toNat = false := by
      simp only [isLowSurrogate, Bool.and_eq_false_iff, decide_eq_false_iff_not]
      omega
    rcases ps with _ | ⟨g | n, ps⟩ <;> simp [joinOnto, hh, hl]
  · rfl

theorem joinOnto_map_pieceOf (cs out : List Char) :
    joinOnto out (cs.map pieceOf) = some (cs.reverse ++ out) := by
  induction cs generalizing out with
  | nil => rfl
  | cons c cs ih =>
    rw [List.map_cons, joinOnto_pieceOf, ih]
    simp

theorem join_map_pieceOf (s : String) : join (s.toList.map pieceOf) = some s := by
  rw [join, joinOnto_map_pieceOf]
  simp

/-- No number, and no text without a value: the token is told by its first characters alone. -/
def IsPlain : Token → Prop
  | number _ | text none => False
  | _ => True

/-- A plain token is read off the front of a text, whatever follows it. -/
theorem next?_spell {t : Token} (h : t.IsPlain) (s : List Glyph) :
    next? (t.spell.map some ++ s) = some (t, s) := by
  cases t with
  | openArray | closeArray | openObject | closeObject | comma | colon | null => rfl
  | bool b => cases b <;> rfl
  | number n => exact h.elim
  | text v =>
    cases v with
    | none => exact h.elim
    | some v =>
      have hp := pieces?_escaped v.toList [] s
      simp only [spell, Option.getD_some, List.map_append, List.map_cons, List.map_nil,
        List.cons_append, List.append_assoc, List.nil_append, next?, hp, Option.map_some,
        List.reverse_nil, join_map_pieceOf]

/-- It starts with what is neither a blank nor part of a number. -/
theorem exists_spell_eq_cons {t : Token} (h : t.IsPlain) :
    ∃ c cs, t.spell = c :: cs ∧ isBlank (some c) = false ∧ isNumberGlyph (some c) = false := by
  cases t with
  | openArray | closeArray | openObject | closeObject | comma | colon | null =>
    exact ⟨_, _, rfl, rfl, rfl⟩
  | bool b => cases b <;> exact ⟨_, _, rfl, rfl, rfl⟩
  | number n => exact h.elim
  | text v => exact ⟨_, _, rfl, rfl, rfl⟩

theorem isNumberGlyph_of_isDigit {c : Char} (h : c.isDigit) : isNumberGlyph (some c) := by
  simp [isNumberGlyph, h]

theorem isNumberGlyph_of_mem_spell {n : Numeral} (h : n.IsProper) :
    ∀ c ∈ n.spell, isNumberGlyph (some c) := by
  have hdigits : ∀ k, ∀ c ∈ Nat.toDigits 10 k, isNumberGlyph (some c) := fun k c hc =>
    isNumberGlyph_of_isDigit (Numeral.isDigit_of_mem_toDigits (k := k) c hc)
  intro c hc
  simp only [Numeral.spell, List.mem_append, or_assoc] at hc
  rcases hc with hc | hc | hc | hc
  · split at hc
    · obtain rfl := List.mem_singleton.mp hc
      rfl
    · cases hc
  · exact hdigits _ c hc
  · split at hc
    · cases hc
    · rcases List.mem_cons.mp hc with rfl | hc
      · rfl
      · exact isNumberGlyph_of_isDigit (h c hc)
  · cases he : n.exponent with
    | none =>
      rw [he] at hc
      cases hc
    | some e =>
      rw [he] at hc
      simp only [Option.elim_some, Numeral.spellExponent, List.mem_cons] at hc
      rcases hc with rfl | rfl | hc
      · rfl
      · split <;> rfl
      · exact hdigits _ c hc

theorem exists_numeral_spell_eq_cons {n : Numeral} (h : n.IsProper) :
    ∃ c cs, n.spell = c :: cs ∧ isNumberGlyph (some c) := by
  obtain ⟨c, cs, hc⟩ : ∃ c cs, n.spell = c :: cs := by
    refine List.exists_cons_of_ne_nil fun hnil => ?_
    rw [Numeral.spell_eq] at hnil
    exact Nat.toDigits_ne_nil (List.append_eq_nil_iff.mp (List.append_eq_nil_iff.mp hnil).2).1
  exact ⟨c, cs, hc, isNumberGlyph_of_mem_spell h c (hc ▸ List.mem_cons_self)⟩

/-- What starts like a number is read as one. -/
theorem next?_of_isNumberGlyph {g : Glyph} {s : List Glyph} (h : isNumberGlyph g) :
    next? (g :: s) = (Numeral.read? ((g :: s.takeWhile isNumberGlyph).filterMap id)).map fun n =>
      (number n, s.dropWhile isNumberGlyph) := by
  unfold next?
  split
  case h_11 => rename_i heq; obtain ⟨rfl, rfl⟩ := List.cons.inj heq; rw [if_pos h]
  case h_12 => contradiction
  all_goals
    rename_i heq
    obtain ⟨rfl, -⟩ := List.cons.inj heq
    cases h

/-- A number is read up to where something else begins. -/
theorem next?_spell_number {n : Numeral} (h : n.IsProper) {s : List Glyph}
    (hs : Text.Stops isNumberGlyph s) : next? (n.spell.map some ++ s) = some (number n, s) := by
  obtain ⟨c, cs, hc, hglyph⟩ := exists_numeral_spell_eq_cons h
  have hall : ∀ g ∈ cs.map some, isNumberGlyph g := by
    refine List.forall_mem_map.mpr fun d hd => isNumberGlyph_of_mem_spell h d ?_
    rw [hc]
    exact List.mem_cons_of_mem _ hd
  have hread : (some c :: cs.map some).filterMap id = n.spell := by
    rw [hc, ← List.map_cons, List.filterMap_map]
    simp
  rw [hc, List.map_cons, List.cons_append, next?_of_isNumberGlyph hglyph,
    Text.takeWhile_append hall hs, Text.dropWhile_append hall hs, hread, Numeral.read?_spell h]
  rfl

/-- A token that says all there is to say: a text that has a value, a number with nothing but digits
behind its point. -/
def IsLegible : Token → Prop
  | number n => n.IsProper
  | text none => False
  | _ => True

def isNumber : Token → Bool
  | number _ => true
  | _ => false

theorem IsLegible.cases {t : Token} (h : t.IsLegible) :
    t.IsPlain ∧ t.isNumber = false ∨ ∃ n, t = number n ∧ n.IsProper := by
  cases t with
  | number n => exact .inr ⟨n, rfl, h⟩
  | text v =>
    cases v with
    | none => exact h.elim
    | some v => exact .inl ⟨trivial, rfl⟩
  | _ => exact .inl ⟨trivial, rfl⟩

/-- No two numbers stand side by side, where they would be one. -/
def Apart (ts : List Token) : Prop := ts.IsChain fun t u => t.isNumber → u.isNumber = false

theorem apart_cons {t : Token} {ts : List Token} :
    Apart (t :: ts) ↔ (t.isNumber → ∀ u ∈ ts.head?, u.isNumber = false) ∧ Apart ts := by
  unfold Apart
  rw [List.isChain_cons]
  exact and_congr_left' ⟨fun h ht u hu => h u hu ht, fun h u hu ht => h ht u hu⟩

theorem stops_spell {ts : List Token} (h : ∀ t ∈ ts, t.IsLegible)
    (hfirst : ∀ u ∈ ts.head?, u.isNumber = false) :
    Text.Stops isNumberGlyph ((ts.flatMap spell).map some) := by
  cases ts with
  | nil => exact Text.stops_nil
  | cons u us =>
    have hu := hfirst u rfl
    rcases (h u List.mem_cons_self).cases with ⟨hplain, _⟩ | ⟨n, rfl, _⟩
    · obtain ⟨c, cs, hc, _, hglyph⟩ := exists_spell_eq_cons hplain
      rw [List.flatMap_cons, hc]
      exact Text.stops_cons hglyph
    · cases hu

theorem next?_legible {t : Token} {ts : List Token} (h : ∀ u ∈ t :: ts, u.IsLegible)
    (ha : Apart (t :: ts)) : next? (t.spell.map some ++ (ts.flatMap spell).map some) =
      some (t, (ts.flatMap spell).map some) := by
  obtain ⟨ht, hts⟩ := List.forall_mem_cons.mp h
  rcases ht.cases with ⟨hplain, _⟩ | ⟨n, rfl, hn⟩
  · exact next?_spell hplain _
  · exact next?_spell_number hn (stops_spell hts ((apart_cons.mp ha).1 rfl))

theorem exists_legible_eq_cons {t : Token} (h : t.IsLegible) :
    ∃ c cs, t.spell = c :: cs ∧ isBlank (some c) = false := by
  rcases h.cases with ⟨hplain, _⟩ | ⟨n, rfl, hn⟩
  · obtain ⟨c, cs, hc, hblank, _⟩ := exists_spell_eq_cons hplain
    exact ⟨c, cs, hc, hblank⟩
  · obtain ⟨c, cs, hc, hglyph⟩ := exists_numeral_spell_eq_cons hn
    refine ⟨c, cs, hc, Bool.eq_false_iff.mpr fun hblank => ?_⟩
    simp only [isBlank, Option.any_some, Bool.or_eq_true, decide_eq_true_eq] at hblank
    rcases hblank with ((rfl | rfl) | rfl) | rfl <;> cases hglyph

theorem scanOnto_of_next? {g : Glyph} {s r : List Glyph} {t : Token} (hg : isBlank g = false)
    (h : next? (g :: s) = some (t, r)) (out : List Token) :
    scanOnto out (g :: s) = scanOnto (t :: out) r := by
  rw [scanOnto, if_neg (by simp [hg])]
  split
  · next h' =>
    obtain ⟨rfl, rfl⟩ := Prod.mk.inj (Option.some.inj (h.symm.trans h'))
    rfl
  · next h' => cases h.symm.trans h'

theorem scanOnto_spell {ts : List Token} (h : ∀ t ∈ ts, t.IsLegible) (ha : Apart ts)
    (out : List Token) : scanOnto out ((ts.flatMap spell).map some) = some (ts.reverse ++ out) := by
  induction ts generalizing out with
  | nil =>
    rw [List.flatMap_nil, List.map_nil, scanOnto]
    rfl
  | cons t ts ih =>
    have hnext := next?_legible h ha
    obtain ⟨ht, hts⟩ := List.forall_mem_cons.mp h
    obtain ⟨c, cs, hc, hblank⟩ := exists_legible_eq_cons ht
    rw [hc, List.map_cons, List.cons_append] at hnext
    rw [List.flatMap_cons, List.map_append, hc, List.map_cons, List.cons_append,
      scanOnto_of_next? hblank hnext, ih hts (apart_cons.mp ha).2]
    simp

theorem scan?_spell {ts : List Token} (h : ∀ t ∈ ts, t.IsLegible) (ha : Apart ts) :
    scan? ((ts.flatMap spell).map some) = some ts := by
  rw [scan?, scanOnto_spell h ha]
  simp

end Token

open Token

theorem apart_cons_of_not_isNumber {t : Token} {ts : List Token} (ht : t.isNumber = false)
    (h : Apart ts) : Apart (t :: ts) :=
  apart_cons.mpr ⟨fun hn => absurd hn (by simp [ht]), h⟩

mutual

/-- What follows a value is a comma or the end of something, never a number. -/
theorem apart_tokens (v : Json) (rest : List Token) (h : Apart rest)
    (hfirst : ∀ u ∈ rest.head?, u.isNumber = false) : Apart (v.tokens ++ rest) := by
  match v with
  | .null => exact apart_cons_of_not_isNumber rfl h
  | .bool b => exact apart_cons_of_not_isNumber rfl h
  | .number n => exact apart_cons.mpr ⟨fun _ => hfirst, h⟩
  | .text s => exact apart_cons_of_not_isNumber rfl h
  | .array [] => exact apart_cons_of_not_isNumber rfl (apart_cons_of_not_isNumber rfl h)
  | .array (v :: vs) =>
    rw [tokens, List.cons_append, List.append_assoc]
    obtain ⟨hitems, hcomma⟩ := apart_furtherItems vs rest h
    exact apart_cons_of_not_isNumber rfl (apart_tokens v _ hitems hcomma)
  | .object [] => exact apart_cons_of_not_isNumber rfl (apart_cons_of_not_isNumber rfl h)
  | .object ((k, v) :: ms) =>
    rw [tokens, List.cons_append, List.cons_append, List.cons_append, List.append_assoc]
    obtain ⟨hmembers, hcomma⟩ := apart_furtherMembers ms rest h
    exact apart_cons_of_not_isNumber rfl (apart_cons_of_not_isNumber rfl
      (apart_cons_of_not_isNumber rfl (apart_tokens v _ hmembers hcomma)))

theorem apart_furtherItems (vs : List Json) (rest : List Token) (h : Apart rest) :
    Apart (furtherItems vs ++ rest) ∧
      ∀ u ∈ (furtherItems vs ++ rest).head?, u.isNumber = false := by
  match vs with
  | [] => exact ⟨apart_cons_of_not_isNumber rfl h, fun u hu => Option.some.inj hu ▸ rfl⟩
  | v :: vs =>
    rw [furtherItems, List.cons_append, List.append_assoc]
    obtain ⟨hitems, hcomma⟩ := apart_furtherItems vs rest h
    exact ⟨apart_cons_of_not_isNumber rfl (apart_tokens v _ hitems hcomma),
      fun u hu => Option.some.inj hu ▸ rfl⟩

theorem apart_furtherMembers (ms : List (Option String × Json)) (rest : List Token)
    (h : Apart rest) : Apart (furtherMembers ms ++ rest) ∧
      ∀ u ∈ (furtherMembers ms ++ rest).head?, u.isNumber = false := by
  match ms with
  | [] => exact ⟨apart_cons_of_not_isNumber rfl h, fun u hu => Option.some.inj hu ▸ rfl⟩
  | (k, v) :: ms =>
    rw [furtherMembers, List.cons_append, List.cons_append, List.cons_append, List.append_assoc]
    obtain ⟨hmembers, hcomma⟩ := apart_furtherMembers ms rest h
    exact ⟨apart_cons_of_not_isNumber rfl (apart_cons_of_not_isNumber rfl
      (apart_cons_of_not_isNumber rfl (apart_tokens v _ hmembers hcomma))),
      fun u hu => Option.some.inj hu ▸ rfl⟩

end

/-- Each text in the value has a value, and each number only digits behind its point. -/
def IsLegible (v : Json) : Prop := ∀ t ∈ v.tokens, t.IsLegible

/-- Reading undoes writing. -/
theorem parse?_render {v : Json} (h : v.IsLegible) : parse? v.render = some v := by
  have ha := apart_tokens v [] .nil nofun
  rw [List.append_nil] at ha
  rw [parse?, ofGlyphs?, render, String.toList_ofList, scan?_spell h ha]
  exact ofTokens?_tokens v

theorem parseBytes?_bytes (s : String) : parseBytes? (Text.Utf8.bytes s) = parse? s := by
  rw [parseBytes?, Text.Utf8.decode_bytes, parse?]

theorem parseBytes?_render {v : Json} (h : v.IsLegible) :
    parseBytes? (Text.Utf8.bytes v.render) = some v := by
  rw [parseBytes?_bytes, parse?_render h]

theorem parseBytes?_nil : parseBytes? [] = none := by
  have hscan : scan? [] = some [] := scan?_spell (List.forall_mem_nil Token.IsLegible) .nil
  change (scan? []).bind ofTokens? = none
  rw [hscan]
  rfl

end Wakeup.Json
