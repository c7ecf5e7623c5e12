import Larder.Time.Calendar

/-!
Instants and lengths of time, to the nanosecond.  An instant is a second and the nanoseconds into
it; from `10 ^ 9` on they lie in a leap second that follows the second, so the order by both puts a
leap second between its neighbours.
-/

namespace Larder

/-- A length of time, never negative. -/
structure Duration where
  nanoseconds : Nat
deriving DecidableEq, Repr

namespace Duration

def ofSeconds (n : Nat) : Duration := ⟨n * 1_000_000_000⟩

def ofMilliseconds (n : Nat) : Duration := ⟨n * 1_000_000⟩

/-- Whole seconds, rounded down. -/
def seconds (d : Duration) : Nat := d.nanoseconds / 1_000_000_000

/-- Whole milliseconds, rounded down. -/
def milliseconds (d : Duration) : Nat := d.nanoseconds / 1_000_000

end Duration

structure Instant where
  second : Int
  nanosecond : Nat
deriving DecidableEq, Repr

namespace Instant

/-- Order in time. -/
def le (a b : Instant) : Bool :=
  a.second < b.second || (a.second == b.second && a.nanosecond ≤ b.nanosecond)

/-- First and last year that instants are kept for. -/
def firstYear : Int := -262143

def lastYear : Int := 262142

def minimum : Instant := ⟨(Time.Date.toDays ⟨firstYear, 1, 1⟩) * 86400, 0⟩

/-- The largest instant: the last nanosecond of the last year. -/
def maximum : Instant := ⟨(Time.Date.toDays ⟨lastYear, 12, 31⟩) * 86400 + 86399, 999_999_999⟩

/-- The instant a length of time later, whatever its year.  Within a leap second only its
nanoseconds move; past its end the count goes on as if the leap second had taken no time. -/
def plus (t : Instant) (d : Duration) : Instant :=
  let within := t.nanosecond + d.nanoseconds
  if 1_000_000_000 ≤ t.nanosecond ∧ within < 2 * 1_000_000_000 then ⟨t.second, within⟩
  else
    let total := t.nanosecond % 1_000_000_000 + d.nanoseconds
    ⟨t.second + (total / 1_000_000_000 : Nat), total % 1_000_000_000⟩

/-- The same, unless it lies past the last year. -/
def plus? (t : Instant) (d : Duration) : Option Instant :=
  let u := t.plus d
  if u.second ≤ maximum.second then some u else none

/-- The longest time that can be added at once: a signed 64-bit number of milliseconds. -/
def longestStep : Nat := ((1 <<< 63) - 1) * 1_000_000

/-- The end of a time to live; one that cannot be represented never ends. -/
def expiry (t : Instant) (ttl : Duration) : Instant :=
  if longestStep < ttl.nanoseconds then maximum
  else (t.plus? ttl).getD maximum

/-- Nanoseconds since 1970, for instants outside leap seconds. -/
def toNanoseconds (t : Instant) : Int := t.second * 1_000_000_000 + t.nanosecond

/-- Milliseconds from `a` to `b`, rounded toward the past. -/
def millisecondsBetween (a b : Instant) : Int :=
  (b.toNanoseconds - a.toNanoseconds).fdiv 1_000_000

end Instant

end Larder
