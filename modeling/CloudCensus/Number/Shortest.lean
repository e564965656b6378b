import CloudCensus.Number.Binary64

/-!
The fewest decimal digits that read back as a given double.

The reals that round to a double form an interval whose ends lie halfway to its neighbours and
belong to it exactly when the mantissa is even.  For one digit, two digits and so on, the two
neighbours of the value on that decimal grid are tested; the first grid with a hit gives the digits.
Of two hits the nearer one counts, and the greater one when both are equally near.
-/

namespace CloudCensus

structure Decimal where
  coefficient : Nat
  exponent : Int
  deriving DecidableEq, Repr, Inhabited

namespace Decimal

def trim (d : Decimal) : Decimal :=
  if d.coefficient ≠ 0 ∧ d.coefficient % 10 = 0 then trim ⟨d.coefficient / 10, d.exponent + 1⟩ else d
termination_by d.coefficient
decreasing_by omega

def digits (d : Decimal) : List Char := Nat.toDigits 10 d.coefficient

/-- Without an exponent: zeros fill the places up to the point on either side. -/
def positional (d : Decimal) : String :=
  let ds := d.digits
  if 0 ≤ d.exponent then
    String.ofList (ds ++ List.replicate d.exponent.toNat '0')
  else
    let places := (-d.exponent).toNat
    if ds.length ≤ places then
      "0." ++ String.ofList (List.replicate (places - ds.length) '0' ++ ds)
    else
      String.ofList (ds.take (ds.length - places)) ++ "." ++ String.ofList (ds.drop (ds.length - places))

def scientific (d : Decimal) : String :=
  let ds := d.digits
  let power : Int := d.exponent + (ds.length : Int) - 1
  let body := match ds with
    | [] => "0"
    | [c] => c.toString
    | c :: rest => c.toString ++ "." ++ String.ofList rest
  body ++ "e" ++ toString power

end Decimal

namespace Binary64

def compareDecimal (c : Nat) (i : Int) (m : Nat) (j : Int) : Ordering :=
  let (tens, tenths) := tenPower i
  let (twos, halves) := twoPower j
  compare (c * tens * halves) (m * twos * tenths)

def leadingPower (m : Nat) (e : Int) : Int :=
  let guess : Int := ((m.log2 : Int) + e) * 30103 / 100000
  if compareDecimal 1 (guess + 1) m e = .gt then
    (if compareDecimal 1 guess m e = .gt then guess - 1 else guess)
  else guess + 1

def readsBack (m : Nat) (e : Int) (c : Nat) (i : Int) : Bool :=
  let below := if m = twoTo 52 ∧ e ≠ leastExponent then 4 * m - 1 else 4 * m - 2
  let low := compareDecimal c i below (e - 2)
  let high := compareDecimal c i (4 * m + 2) (e - 2)
  if m % 2 = 0 then low ≠ .lt && high ≠ .gt else low = .gt && high = .lt

/-- Whether `c * 10 ^ i` is nearer to `m * 2 ^ e` than its successor on the grid. -/
def lowerIsNearer (m : Nat) (e : Int) (c : Nat) (i : Int) : Bool :=
  compareDecimal (2 * c + 1) i (2 * m) e = .gt

/-- The neighbour of the value on the grid of `10 ^ i` that reads back, if there is one. -/
def onGrid (m : Nat) (e : Int) (i : Int) : Option Decimal :=
  let (tens, tenths) := tenPower i
  let (twos, halves) := twoPower e
  let c := m * twos * tenths / (halves * tens)
  match readsBack m e c i, readsBack m e (c + 1) i with
  | true, true => some ⟨if lowerIsNearer m e c i then c else c + 1, i⟩
  | true, false => some ⟨c, i⟩
  | false, true => some ⟨c + 1, i⟩
  | false, false => none

/-- Searches the grids from `n` digits on; seventeen digits always suffice. -/
def shortestFrom (m : Nat) (e : Int) (power : Int) : Nat → Nat → Decimal
  | 0, n => (onGrid m e (power + 1 - n)).getD ⟨0, 0⟩
  | more + 1, n =>
    match onGrid m e (power + 1 - n) with
    | some d => d
    | none => shortestFrom m e power more (n + 1)

def shortest (m : Nat) (e : Int) : Decimal :=
  if m = 0 then ⟨0, 0⟩ else (shortestFrom m e (leadingPower m e) 16 1).trim

def plain : Binary64 → String
  | nan => "NaN"
  | infinite s => if s then "-inf" else "inf"
  | finite s m e => (if s then "-" else "") ++ (shortest m e).positional

/-- Text that always shows a point or an exponent: positional from `1e-5` up to `1e16`. -/
def marked : Binary64 → String
  | nan => "NaN"
  | infinite s => if s then "-inf" else "inf"
  | finite s m e =>
    let d := shortest m e
    let power : Int := d.exponent + (d.digits.length : Int)
    (if s then "-" else "") ++
      (if m = 0 then "0.0"
       else if -5 < power ∧ power ≤ 16 then
         (if 0 ≤ d.exponent then d.positional ++ ".0" else d.positional)
       else d.scientific)

end Binary64
end CloudCensus
