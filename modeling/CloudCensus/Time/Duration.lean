import CloudCensus.Number.Binary64

namespace CloudCensus

structure Duration where
  nanos : Nat
  deriving DecidableEq, Repr, Inhabited

namespace Duration

def zero : Duration := ⟨0⟩

def ofSeconds (n : Nat) : Duration := ⟨n * tenTo 9⟩

def ofMillis (n : Nat) : Duration := ⟨n * tenTo 6⟩

def wholeSeconds (d : Duration) : Nat := d.nanos / tenTo 9

def restNanos (d : Duration) : Nat := d.nanos % tenTo 9

def ceilMillis (d : Duration) : Nat := (d.nanos + 999999) / tenTo 6

/-- The length in seconds: whole seconds and rest are rounded apart and added. -/
def seconds (d : Duration) : Binary64 :=
  (Binary64.ofNat d.wholeSeconds).add ((Binary64.ofNat d.restNanos).div (Binary64.ofNat (tenTo 9)))

/-- The span nearest to a length in seconds; negative and infinite lengths count as none. -/
def nearest : Binary64 → Duration
  | .finite false m e =>
    let (up, down) := twoPower e
    ⟨roundHalfEven (m * up * tenTo 9) down⟩
  | _ => zero

end Duration
end CloudCensus
