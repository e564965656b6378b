import CloudCensus.Time.Calendar

/-!
Instants of universal time to the nanosecond.

A leap second shares its second with the one before it and has a nanosecond count from 10^9 on, so
the order of the pairs is the order of time.
-/

namespace CloudCensus

structure Instant where
  /-- Seconds since 1970-01-01T00:00:00Z, leap seconds not counted. -/
  second : Int
  nano : Nat
  deriving DecidableEq, Repr, Inhabited

namespace Instant

def le (a b : Instant) : Bool :=
  a.second < b.second || (a.second = b.second && a.nano ≤ b.nano)

/-- The later of two optional instants; the first if they are equal. -/
def latest : Option Instant → Option Instant → Option Instant
  | none, b => b
  | a, none => a
  | some a, some b => if b.le a then some a else some b

def isValid (t : Instant) : Bool := (Date.ofDays (t.second.fdiv 86400)).isValid

end Instant
end CloudCensus
