import Wakeup.Calendar.Instant
import Wakeup.Failure
import Wakeup.Text.Padded
import Wakeup.Text.Parts
import Wakeup.Text.Reader

/-! Schedules that name one minute: their text, the minute they fire at, and the schedule for a
given time. -/
namespace Wakeup

/-- The fields of an expression. Only some values name a minute of the calendar. -/
structure Schedule where
  minute : UInt32
  hour : UInt32
  day : UInt32
  month : UInt32
  year : Int32
  deriving DecidableEq, Repr

namespace Schedule

def date (s : Schedule) : Date := ⟨s.year.toInt, s.month.toNat, s.day.toNat⟩

/-- The first instant of the minute, if there is such a minute. -/
def fireAt? (s : Schedule) : Option Instant :=
  if s.date.Valid ∧ s.hour < 24 ∧ s.minute < 60 then
    Instant.ofMinute? (s.date.toDays * 1440 + s.hour.toNat * 60 + s.minute.toNat)
  else none

/-- 0000-01-01T00:00, the first minute with a year of four digits. -/
def firstMinute : Int := -1036120320

/-- 9999-12-31T23:59, the last one. -/
def lastMinute : Int := 4223371679

/-- The schedule of a minute, counted from 1970-01-01T00:00. -/
def ofMinute (m : Int) : Schedule :=
  let d := Date.ofDays (m / 1440)
  let inDay := (m % 1440).toNat
  ⟨.ofNat (inDay % 60), .ofNat (inDay / 60), .ofNat d.day, .ofNat d.month, .ofInt d.year⟩

/-- The schedule of the minute that holds an instant, or of the nearest minute that has one. -/
def containing (t : Instant) : Schedule :=
  ofMinute (max firstMinute (min lastMinute t.minute))

/-- The instant that many minutes on, none for a delay below zero, unless it is past the end of
time or the delay is no length of time. -/
def instantAfter? (base : Instant) (minutes : Int64) : Option Instant :=
  (Instant.span? minutes.toInt.toNat).bind base.later?

/-- The schedule that many minutes on. Where there is no such instant it is the end of time. -/
def after (base : Instant) (minutes : Int64) : Schedule :=
  containing ((instantAfter? base minutes).getD .latest)

open Text

/-- All fields are fixed, the year too; the weekday is left open, as the day of the month is not. -/
def spell (s : Schedule) : List Char :=
  ['c', 'r', 'o', 'n', '('] ++ padded 2 s.minute.toNat ++ ' ' :: padded 2 s.hour.toNat ++
    ' ' :: padded 2 s.day.toNat ++ ' ' :: padded 2 s.month.toNat ++ [' ', '?', ' '] ++
    paddedInt 4 s.year.toInt ++ [')']

def expression (s : Schedule) : String := String.ofList s.spell

/-- A number of exactly `n` digits. -/
def field? (n : Nat) (s : List Char) : Option Nat :=
  if s.length = n ∧ s.all Char.isDigit then some (Reader.ofDigits s) else none

/-- The fields of an expression, whether or not they name a minute. -/
def ofText? (s : List Char) : Option Schedule := do
  let body ← beforeSuffix? [')'] (← afterPrefix? ['c', 'r', 'o', 'n', '('] s)
  let [minute, hour, day, month, ['?'], year] := parts ' ' body | none
  return ⟨.ofNat (← field? 2 minute), .ofNat (← field? 2 hour), .ofNat (← field? 2 day),
    .ofNat (← field? 2 month), .ofInt (← field? 4 year)⟩

/-- The schedule of an expression, which must name a minute of the calendar. -/
def parse (text : String) : Except Failure Schedule :=
  match ofText? text.toList with
  | some s => if s.fireAt?.isSome then .ok s else .error (.refused (.notOneShot text))
  | none => .error (.refused (.notOneShot text))

def toJson (s : Schedule) : Json := .record [
  ("minute", .ofInt s.minute.toNat), ("hour", .ofInt s.hour.toNat), ("day", .ofInt s.day.toNat),
  ("month", .ofInt s.month.toNat), ("year", .ofInt s.year.toInt)]

def ofJson? (v : Json) : Option Schedule := do
  let [minute, hour, day, month, year] ←
    v.record? false ["minute", "hour", "day", "month", "year"] | none
  return ⟨← minute.toUInt32?, ← hour.toUInt32?, ← day.toUInt32?, ← month.toUInt32?,
    ← year.toInt32?⟩

end Schedule
end Wakeup
