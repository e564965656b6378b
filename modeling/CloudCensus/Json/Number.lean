import CloudCensus.Json.Value
import CloudCensus.Text.Digits

/-!
Numbers as JSON writes them.

An integer of 64 bits, signed or unsigned, is kept exactly.  Any other number becomes a double made
from as many leading digits as fit into 64 bits, scaled by powers of ten that are doubles
themselves; it may differ in the last place from the double nearest to the decimal.
-/

namespace CloudCensus

structure NumberText where
  negative : Bool
  whole : List Nat
  fraction : List Nat
  exponent : Option (Bool × List Nat)
  deriving DecidableEq, Repr, Inhabited

namespace NumberText

def wordLimit : Nat := twoTo 64

/-- Appends digits to a word while it holds them; the digits left over come second. -/
def fill (word : Nat) : List Nat → Nat × List Nat
  | [] => (word, [])
  | d :: ds => if word * 10 + d < wordLimit then fill (word * 10 + d) ds else (word, d :: ds)

def powerOfTen (n : Nat) : Binary64 := Binary64.ofDecimal false 1 n

/-- Divides by `10 ^ 308` until the exponent is in reach of a double; a zero stays zero. -/
def shrink : Nat → Binary64 → Nat → Binary64
  | 0, value, _ => value
  | more + 1, value, power =>
    if power ≤ 308 then value.div (powerOfTen power)
    else if value.isZero then value
    else shrink more (value.div (powerOfTen 308)) (power - 308)

def scale (word : Nat) (exponent : Int) : Option Binary64 :=
  let value := Binary64.ofNat word
  if 0 ≤ exponent then
    if exponent ≤ 308 then
      let scaled := value.mul (powerOfTen exponent.toNat)
      if scaled.isFinite then some scaled else none
    else if word = 0 then some value else none
  else some (shrink 8 value exponent.natAbs)

def exponentValue : Option (Bool × List Nat) → Int
  | none => 0
  | some (negative, digits) =>
    let n : Int := ofDigits 10 digits
    if negative then -n else n

def real? (t : NumberText) : Option Binary64 :=
  let (word, dropped) := fill 0 t.whole
  let (word, lost) := fill word t.fraction
  let places := t.fraction.length - lost.length
  let exponent := (dropped.length : Int) - places + exponentValue t.exponent
  (scale word exponent).map fun x => if t.negative then x.neg else x

def value? (t : NumberText) : Option Json :=
  let n := ofDigits 10 t.whole
  if t.fraction.isEmpty && t.exponent.isNone && (if t.negative then 0 < n && n ≤ twoTo 63 else n < wordLimit) then
    some (.integer (if t.negative then -(n : Int) else n))
  else (real? t).map .real

end NumberText
end CloudCensus
