import CloudCensus.Number.Natural

/-!
Double-precision numbers as exact integers.

A finite double is `± mantissa * 2 ^ exponent`.  Every operation computes the exact rational result
and rounds it once, half to even, so no machine arithmetic is involved.
-/

namespace CloudCensus

/-- The doubles; `finite` values built by this module are normalised to 53 bits. -/
inductive Binary64 where
  | nan
  | infinite (negative : Bool)
  | finite (negative : Bool) (mantissa : Nat) (exponent : Int)
  deriving DecidableEq, Repr, Inhabited

/-- The quotient `n / d` rounded to the nearest natural, a tie going to the even neighbour. -/
def roundHalfEven (n d : Nat) : Nat :=
  let q := n / d
  let r := n % d
  if 2 * r < d then q else if d < 2 * r then q + 1 else q + q % 2

/-- Splits `2 ^ e` into the factor of a numerator and the factor of a denominator. -/
def twoPower (e : Int) : Nat × Nat :=
  (twoTo e.toNat, twoTo (-e).toNat)

def tenPower (e : Int) : Nat × Nat :=
  (tenTo e.toNat, tenTo (-e).toNat)

namespace Binary64

/-- The least exponent, that of zero and of the subnormal numbers. -/
def leastExponent : Int := -1074

def greatestExponent : Int := 971

def zero (negative : Bool) : Binary64 := .finite negative 0 leastExponent

/-- A rounded 53-bit mantissa may carry into a 54th bit, and may be too large to be finite. -/
def pack (negative : Bool) (mantissa : Nat) (exponent : Int) : Binary64 :=
  let (m, e) := if mantissa = twoTo 53 then (twoTo 52, exponent + 1) else (mantissa, exponent)
  if greatestExponent < e then .infinite negative else .finite negative m e

def ofRatio (negative : Bool) (n d : Nat) : Binary64 :=
  if n = 0 ∨ d = 0 then zero negative
  else
    let guess : Int := (n.log2 : Int) - (d.log2 : Int) - 52
    let (up, down) := twoPower guess
    let exact := if n * down < d * up * twoTo 52 then guess - 1 else guess
    let e := max exact leastExponent
    let (up, down) := twoPower e
    pack negative (roundHalfEven (n * down) (d * up)) e

def ofNat (n : Nat) : Binary64 := ofRatio false n 1

def one : Binary64 := ofNat 1

def ofDecimal (negative : Bool) (coefficient : Nat) (exponent : Int) : Binary64 :=
  let (up, down) := tenPower exponent
  ofRatio negative (coefficient * up) down

/-- The double nearest to the decimal with the given count of digits in its coefficient; one that is
far too large or far too small is not computed. -/
def ofDecimalText (negative : Bool) (coefficient digits : Nat) (exponent : Int) : Binary64 :=
  if coefficient = 0 then zero negative
  else if (digits : Int) + exponent < -330 then zero negative
  else if 400 < exponent then .infinite negative
  else ofDecimal negative coefficient exponent

def isFinite : Binary64 → Bool
  | finite .. => true
  | _ => false

def isZero : Binary64 → Bool
  | finite _ 0 _ => true
  | _ => false

def isNegative : Binary64 → Bool
  | nan => false
  | infinite s => s
  | finite s _ _ => s

def neg : Binary64 → Binary64
  | nan => nan
  | infinite s => infinite (!s)
  | finite s m e => finite (!s) m e

def mul : Binary64 → Binary64 → Binary64
  | nan, _ => nan
  | _, nan => nan
  | infinite s, b => if b.isZero then nan else infinite (s != b.isNegative)
  | a, infinite t => if a.isZero then nan else infinite (a.isNegative != t)
  | finite s m e, finite t n f =>
    let (up, down) := twoPower (e + f)
    ofRatio (s != t) (m * n * up) down

def div : Binary64 → Binary64 → Binary64
  | nan, _ => nan
  | _, nan => nan
  | infinite _, infinite _ => nan
  | infinite s, finite t _ _ => infinite (s != t)
  | finite s _ _, infinite t => zero (s != t)
  | finite s m e, finite t n f =>
    if n = 0 then (if m = 0 then nan else infinite (s != t))
    else
      let (up, down) := twoPower (e - f)
      ofRatio (s != t) (m * up) (n * down)

/-- The value of a finite double times `2 ^ 1074`, which is an integer. -/
def scaled : Binary64 → Int
  | finite s m e => (if s then -1 else 1) * ((m * twoTo (e - leastExponent).toNat : Nat) : Int)
  | _ => 0

def add : Binary64 → Binary64 → Binary64
  | nan, _ => nan
  | _, nan => nan
  | infinite s, infinite t => if s = t then infinite s else nan
  | infinite s, finite .. => infinite s
  | finite .., infinite t => infinite t
  | a@(finite s _ _), b@(finite t _ _) =>
    let sum := a.scaled + b.scaled
    if sum = 0 then zero (s && t) else ofRatio (sum < 0) sum.natAbs (twoTo 1074)

/-- The order of the doubles; a comparison with `nan` fails. -/
def le : Binary64 → Binary64 → Bool
  | nan, _ => false
  | _, nan => false
  | infinite true, _ => true
  | infinite false, b => b = infinite false
  | finite .., infinite t => !t
  | a@(finite ..), b@(finite ..) => a.scaled ≤ b.scaled

def lt (a b : Binary64) : Bool := a.le b && !b.le a

def powerFrom (result base : Binary64) (n : Nat) : Binary64 :=
  let result := if n % 2 = 1 then result.mul base else result
  if n < 2 then result else powerFrom result (base.mul base) (n / 2)
termination_by n

/-- The power by repeated squaring, rounded at every multiplication. -/
def power (base : Binary64) (n : Nat) : Binary64 := powerFrom one base n

end Binary64
end CloudCensus
