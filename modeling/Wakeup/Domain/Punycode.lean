/-! Labels in Punycode: the characters outside ASCII are told, in the order of their code points, by
numbers for how far on the next one is. -/
namespace Wakeup.Domain.Punycode

def digit? (c : Char) : Option Nat :=
  if 'a' ≤ c ∧ c ≤ 'z' then some (c.toNat - 'a'.toNat)
  else if c.isDigit then some (c.toNat - '0'.toNat + 26)
  else none

/-- What the last digit of a number stays below, and the others do not. -/
def threshold (bias place : Nat) : Nat := max 1 (min 26 (place - bias))

/-- A number off the front of a text, lowest digit first. A weight fits in 32 bits. -/
def number? (bias : Nat) : (place weight : Nat) → List Char → Option (Nat × List Char)
  | _, _, [] => none
  | place, weight, c :: s => do
    let d ← digit? c
    let t := threshold bias place
    if d < t then some (d * weight, s)
    else do
      guard (weight * (36 - t) < 4294967296)
      let (n, s) ← number? bias (place + 36) (weight * (36 - t)) s
      return (d * weight + n, s)

theorem length_lt_of_number? {bias place weight n : Nat} {s r : List Char}
    (h : number? bias place weight s = some (n, r)) : r.length < s.length := by
  induction s generalizing place weight n with
  | nil => cases h
  | cons c s ih =>
    obtain ⟨d, -, h⟩ := Option.bind_eq_some_iff.1 h
    by_cases hd : d < threshold bias place
    · rw [if_pos hd] at h
      obtain ⟨-, rfl⟩ := Prod.mk.inj (Option.some.inj h)
      exact Nat.lt_succ_self _
    · rw [if_neg hd] at h
      obtain ⟨-, -, h⟩ := Option.bind_eq_some_iff.1 h
      obtain ⟨⟨m, q⟩, hq, h⟩ := Option.bind_eq_some_iff.1 h
      obtain ⟨-, rfl⟩ := Prod.mk.inj (Option.some.inj h)
      exact Nat.lt_succ_of_lt (ih hq)

def settled (delta : Nat) : Nat :=
  if 455 < delta then 36 + settled (delta / 35) else 36 * delta / (delta + 38)

/-- The bias for the next number, so that numbers of the size of this one come out short. -/
def nextBias (delta count : Nat) (isFirst : Bool) : Nat :=
  let delta := delta / if isFirst then 700 else 2
  settled (delta + delta / count)

/-- Puts in the characters that the numbers of a text tell. Numbers count places in the label, and
a turn through all of them goes on to the next code point. -/
def insertAll (bias code place : Nat) (label s : List Char) : Option (List Char) :=
  if s = [] then some label
  else
    match h : number? bias 36 1 s with
    | none => none
    | some (delta, rest) =>
      let count := label.length + 1
      let next := code + (place + delta) / count
      let here := (place + delta) % count
      if next < 0xD800 ∨ (0xDFFF < next ∧ next < 0x110000) then
        insertAll (nextBias delta count (place = 0)) next (here + 1)
          (label.insertIdx here (.ofNat next)) rest
      else none
termination_by s.length
decreasing_by exact length_lt_of_number? h

/-- The label that a text stands for: what is in front of its last hyphen, if there is one and
anything in front of it, with at least one character put in. -/
def decode? (s : List Char) : Option (List Char) := do
  let told := (s.reverse.takeWhile (· ≠ '-')).reverse
  let plain := s.take (s.length - told.length - 1)
  guard (s.length ≤ 2000 ∧ told ≠ [] ∧ (plain ≠ [] ∨ told = s))
  insertAll 72 128 0 plain told

end Wakeup.Domain.Punycode
