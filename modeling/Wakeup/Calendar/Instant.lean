import Wakeup.Calendar.Date

/-! Instants of universal time, to the nanosecond, over the years -262143 to 262142. -/
namespace Wakeup

/-- Seconds since 1970-01-01T00:00:00Z and nanoseconds within the second. A leap second has no
number of its own: it is nanosecond 1000000000 and later of second 59 of its minute. -/
structure Instant where
  seconds : Int
  nanos : Nat
  first_le : -8334601228800 ≤ seconds
  le_last : seconds ≤ 8210266876799
  nanos_lt : nanos < 2000000000
  leap_at_59 : 1000000000 ≤ nanos → seconds % 60 = 59
  deriving DecidableEq, Repr

namespace Instant

def ofUnix? (seconds : Int) (nanos : Nat) : Option Instant :=
  if h : (-8334601228800 ≤ seconds ∧ seconds ≤ 8210266876799) ∧
      nanos < 2000000000 ∧ (1000000000 ≤ nanos → seconds % 60 = 59) then
    some ⟨seconds, nanos, h.1.1, h.1.2, h.2.1, h.2.2⟩
  else none

/-- The last nanosecond of the year 262142. -/
def latest : Instant := ⟨8210266876799, 999999999, by decide, by decide, by decide, by decide⟩

/-- The number of the minute since 1970-01-01T00:00Z. -/
def minute (t : Instant) : Int := t.seconds / 60

/-- The first instant of a minute. -/
def ofMinute? (m : Int) : Option Instant := ofUnix? (60 * m) 0

/-- The instant `m` minutes on, if there is one. To leave a leap second is to leave the nanosecond
of second 59 it is a second ahead of. -/
def later? (t : Instant) (m : Nat) : Option Instant :=
  if m = 0 then some t else ofUnix? (t.seconds + 60 * m) (t.nanos % 1000000000)

/-- A length of time of `m` minutes, if there is one: it is kept in milliseconds, as a signed number
of 64 bits. -/
def span? (m : Nat) : Option Nat := if m * 60000 < 9223372036854775808 then some m else none

theorem ofUnix?_self (t : Instant) : ofUnix? t.seconds t.nanos = some t :=
  dif_pos ⟨⟨t.first_le, t.le_last⟩, t.nanos_lt, t.leap_at_59⟩

end Instant
end Wakeup
