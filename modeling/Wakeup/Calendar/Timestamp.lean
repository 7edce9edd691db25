import Wakeup.Calendar.Instant
import Wakeup.Text.Blank
import Wakeup.Text.Padded
import Wakeup.Text.Reader

/-! Instants as date and time in text. They are written in universal time; what is read may be
local time with an offset, a little more freely spelled. -/
namespace Wakeup.Instant

open Text

/-- Four digits, and in front of them a sign where the year has more or is below zero. -/
def spellYear (y : Int) : List Char :=
  if 0 ≤ y ∧ y ≤ 9999 then padded 4 y.toNat
  else (if y < 0 then '-' else '+') :: padded 4 y.natAbs

/-- As many digits as hold it: none, three, six or nine. -/
def spellFraction (nanos : Nat) : List Char :=
  if nanos = 0 then []
  else if nanos % 1000000 = 0 then '.' :: padded 3 (nanos / 1000000)
  else if nanos % 1000 = 0 then '.' :: padded 6 (nanos / 1000)
  else '.' :: padded 9 nanos

/-- A leap second is second 60 of its minute. -/
def spell (t : Instant) : List Char :=
  let date := Date.ofDays (t.seconds / 86400)
  let inDay := (t.seconds % 86400).toNat
  spellYear date.year ++ '-' :: padded 2 date.month ++ '-' :: padded 2 date.day ++
    'T' :: padded 2 (inDay / 3600) ++ ':' :: padded 2 (inDay / 60 % 60) ++
    ':' :: padded 2 (inDay % 60 + t.nanos / 1000000000) ++
    spellFraction (t.nanos % 1000000000) ++ ['Z']

open Reader

/-- A year without a sign has at most four digits. -/
def year : Reader Int := do
  skip isBlank
  match ← peek? with
  | some '-' => literal ['-']; return -(← number none)
  | some '+' => literal ['+']; number none
  | _ => number (some 4)

/-- A number of one or two digits, behind blanks. -/
def pair : Reader Nat := do
  skip isBlank
  number (some 2)

/-- A mark between numbers, behind blanks. -/
def mark (c : Char) : Reader Unit := do
  skip isBlank
  literal [c]

def date : Reader Date := do
  let y ← year
  mark '-'
  let m ← pair
  mark '-'
  return ⟨y, m, ← pair⟩

/-- Nanoseconds after a point; digits past the ninth are passed over. -/
def fraction : Reader Nat := do
  if (← peek?) = some '.' then
    literal ['.']
    let ds ← digitRun (some 9)
    guard (ds ≠ [])
    skip Char.isDigit
    return ofDigits (ds ++ List.replicate (9 - ds.length) '0')
  else return 0

/-- The second of the day and the nanoseconds. Second 60 is a leap second, at any minute. -/
def timeOfDay : Reader (Nat × Nat) := do
  let h ← pair
  mark ':'
  let m ← pair
  mark ':'
  let s ← pair
  guard (h < 24 ∧ m < 60 ∧ s ≤ 60)
  let nanos ← fraction
  if s = 60 then return (h * 3600 + m * 60 + 59, nanos + 1000000000)
  else return (h * 3600 + m * 60 + s, nanos)

/-- Hours and minutes ahead of universal time, in seconds. -/
def distance : Reader Int := do
  let h ← digits 2
  skip fun c => c = ':' || isBlank c
  let m ← digits 2
  guard (h < 24 ∧ m < 60)
  return h * 3600 + m * 60

/-- Universal time by name or letter, or an offset of less than a day. -/
def offset : Reader Int := do
  skip isBlank
  match ← one (fun _ => true) with
  | '+' => distance
  | '-' | '−' => return -(← distance)
  | 'Z' | 'z' => return 0
  | 'U' | 'u' =>
    let _ ← one fun c => c = 'T' || c = 't'
    let _ ← one fun c => c = 'C' || c = 'c'
    return 0
  | _ => failure

/-- Both the local time and the instant must be in range. -/
def reader : Reader Instant := do
  let d ← date
  guard d.Valid
  let _ ← one fun c => c = 'T' || c = 't' || c = ' '
  let (second, nanos) ← timeOfDay
  let ahead ← offset
  skip isBlank
  let there ← ofUnix? (d.toDays * 86400 + second) nanos
  ofUnix? (there.seconds - ahead) nanos

def parse? (s : String) : Option Instant := readAll reader s.toList

end Wakeup.Instant
