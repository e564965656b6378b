import CloudCensus.Number.Natural
import CloudCensus.Text.Blank
import CloudCensus.Text.Digits
import CloudCensus.Time.Instant

/-!
Timestamps as RFC 3339 writes them.

Writing always gives universal time with `Z` and the shortest of 0, 3, 6 or 9 fraction digits that is
exact.  Reading is lenient about white space, missing leading zeros, the separator of the two halves,
and the spelling of the offset, but wants every part.
-/

namespace CloudCensus.Rfc3339

def digitsUpTo : Nat → List Char → List Nat × List Char
  | 0, cs => ([], cs)
  | _, [] => ([], [])
  | width + 1, c :: cs =>
    match digit? c with
    | some d => let (ds, rest) := digitsUpTo width cs; (d :: ds, rest)
    | none => ([], c :: cs)

def number? (width : Nat) (cs : List Char) : Option (Nat × List Char) :=
  match digitsUpTo width (trimStart cs) with
  | ([], _) => none
  | (ds, rest) => some (ofDigits 10 ds, rest)

/-- A year: four digits at most, or any number of them after a sign. -/
def year? (cs : List Char) : Option (Int × List Char) :=
  match trimStart cs with
  | '-' :: rest =>
    match digitsUpTo rest.length rest with
    | ([], _) => none
    | (ds, rest) => some (-(ofDigits 10 ds : Int), rest)
  | '+' :: rest =>
    match digitsUpTo rest.length rest with
    | ([], _) => none
    | (ds, rest) => some ((ofDigits 10 ds : Int), rest)
  | rest => (number? 4 rest).map fun (n, rest) => ((n : Int), rest)

def expect? (c : Char) (cs : List Char) : Option (List Char) :=
  match trimStart cs with
  | d :: rest => if d = c then some rest else none
  | [] => none

def separator? : List Char → Option (List Char)
  | 'T' :: rest | 't' :: rest | ' ' :: rest => some rest
  | _ => none

/-- Nanoseconds after a point; digits beyond the ninth do not count. -/
def fraction? (cs : List Char) : Option (Nat × List Char) :=
  match cs with
  | '.' :: rest =>
    match digitsUpTo 9 rest with
    | ([], _) => none
    | (ds, rest) => some (ofDigits 10 ds * tenTo (9 - ds.length), rest.dropWhile Char.isDigit)
  | rest => some (0, rest)

def twoDigits? : List Char → Option (Nat × List Char)
  | a :: b :: rest => do return ((← digit? a) * 10 + (← digit? b), rest)
  | _ => none

def offsetSize? (cs : List Char) : Option (Nat × List Char) := do
  let (hours, rest) ← twoDigits? cs
  let (minutes, rest) ← twoDigits? (rest.dropWhile fun c => c = ':' || isBlank c)
  if minutes < 60 then return (hours * 3600 + minutes * 60, rest) else none

def offset? (cs : List Char) : Option (Int × List Char) :=
  if (cs.take 3).map Char.toUpper = ['U', 'T', 'C'] then some (0, cs.drop 3)
  else
    match cs with
    | 'Z' :: rest | 'z' :: rest => some (0, rest)
    | '+' :: rest => (offsetSize? rest).map fun (n, rest) => ((n : Int), rest)
    | '-' :: rest | '\u2212' :: rest => (offsetSize? rest).map fun (n, rest) => (-(n : Int), rest)
    | _ => none

def parse? (text : String) : Option Instant := do
  let (year, rest) ← year? text.toList
  let (month, rest) ← number? 2 (← expect? '-' rest)
  let (day, rest) ← number? 2 (← expect? '-' rest)
  let (hour, rest) ← number? 2 (← separator? rest)
  let (minute, rest) ← number? 2 (← expect? ':' rest)
  let (second, rest) ← number? 2 (← expect? ':' rest)
  let (nano, rest) ← fraction? rest
  let (offset, rest) ← offset? (trimStart rest)
  let date : Date := ⟨year, month, day⟩
  if date.isValid && hour < 24 && minute < 60 && second ≤ 60 && offset.natAbs < 86400 &&
      (trimStart rest).isEmpty then
    let (second, nano) := if second = 60 then (59, nano + tenTo 9) else (second, nano)
    let t : Instant := ⟨date.toDays * 86400 + ((hour * 3600 + minute * 60 + second : Nat) : Int) - offset, nano⟩
    if t.isValid then return t else none
  else none

def padded (width n : Nat) : String :=
  let ds := Nat.toDigits 10 n
  String.ofList (List.replicate (width - ds.length) '0' ++ ds)

/-- Years of four digits stand plain; others have their sign. -/
def yearText (year : Int) : String :=
  if 0 ≤ year ∧ year ≤ 9999 then padded 4 year.toNat
  else (if year < 0 then "-" else "+") ++ padded 4 year.natAbs

def fractionText (nano : Nat) : String :=
  if nano = 0 then ""
  else if nano % 1000000 = 0 then "." ++ padded 3 (nano / 1000000)
  else if nano % 1000 = 0 then "." ++ padded 6 (nano / 1000)
  else "." ++ padded 9 nano

def render (t : Instant) : String :=
  let date := Date.ofDays (t.second.fdiv 86400)
  let clock := (t.second.fmod 86400).toNat
  let leap := if tenTo 9 ≤ t.nano then 1 else 0
  yearText date.year ++ "-" ++ padded 2 date.month ++ "-" ++ padded 2 date.day ++ "T" ++
    padded 2 (clock / 3600) ++ ":" ++ padded 2 (clock / 60 % 60) ++ ":" ++
    padded 2 (clock % 60 + leap) ++ fractionText (t.nano % tenTo 9) ++ "Z"

end CloudCensus.Rfc3339
