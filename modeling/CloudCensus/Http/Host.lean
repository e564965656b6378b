import CloudCensus.Number.Natural
import CloudCensus.Text.Cut
import CloudCensus.Text.Digits
import CloudCensus.Text.Utf8

/-!
The hosts that a URL may name.

A host is a name, an address of four octets, or an address of eight groups between brackets.  What
ends in a number is read as an address of octets, whatever stands before it.
-/

namespace CloudCensus.Host

def percentDecoded : List Char → List Nat
  | '%' :: a :: b :: rest =>
    match hexDigit? a, hexDigit? b with
    | some x, some y => (x * 16 + y) :: percentDecoded rest
    | _, _ => '%'.toNat :: percentDecoded (a :: b :: rest)
  | c :: rest => Utf8.encodeChar c ++ percentDecoded rest
  | [] => []

def admits (c : Char) : Bool :=
  0x20 < c.toNat && c.toNat ≠ 0x7f && c.toNat ≠ 0xfffd && !"\"#%/:<>?@[\\]^`\x7b|\x7d".contains c

def parts (mark : Char) : List Char → List (List Char)
  | [] => [[]]
  | c :: rest =>
    if c = mark then [] :: parts mark rest
    else
      match parts mark rest with
      | [] => [[c]]
      | p :: ps => (c :: p) :: ps

/-- The number that a part of an address writes: hexadecimal after `0x`, octal after `0`, else decimal. -/
def number? : List Char → Option Nat
  | [] => none
  | '0' :: x :: rest =>
    if x = 'x' || x = 'X' then (if rest.isEmpty then some 0 else numeral? 16 rest)
    else numeral? 8 (x :: rest)
  | cs => numeral? 10 cs

/-- The parts of an address of octets; a point at its end does not count. -/
def octetParts (cs : List Char) : List (List Char) :=
  let ps := parts '.' cs
  if 1 < ps.length && ps.getLast? = some [] then ps.dropLast else ps

def endsInNumber (cs : List Char) : Bool :=
  (octetParts cs).getLast?.any fun p =>
    (!p.isEmpty && p.all fun c => (digit? c).isSome) || (number? p).isSome

/-- The address of one to four numbers, of which the last one fills the octets that remain. -/
def octets? (cs : List Char) : Option Nat := do
  let numbers ← (octetParts cs).mapM number?
  let last ← numbers.getLast?
  let before := numbers.dropLast
  if 3 < before.length || before.any (255 < ·) || twoTo (8 * (4 - before.length)) ≤ last then none
  else some (ofDigits 256 before * twoTo (8 * (4 - before.length)) + last)

def octetsText (address : Nat) : String :=
  ".".intercalate ([24, 16, 8, 0].map fun shift => toString (address / twoTo shift % 256))

/-- One octet of an address between brackets: decimal, without a zero in front. -/
def octet? (cs : List Char) : Option Nat := do
  let n ← numeral? 10 cs
  if 255 < n || (1 < cs.length && cs.head? = some '0') then none else some n

def groupCount? (isLast : Bool) (cs : List Char) : Option Nat :=
  match parts '.' cs with
  | [digits] => if digits.length ≤ 4 then (numeral? 16 digits).map fun _ => 1 else none
  | octets => if isLast && octets.length = 4 then (octets.mapM octet?).map fun _ => 2 else none

/-- How many groups parts write; only the last one, if `mayEndInOctets`, may hold octets. -/
def groupsCount? (mayEndInOctets : Bool) : List (List Char) → Option Nat
  | [] => some 0
  | [p] => groupCount? mayEndInOctets p
  | p :: ps => do return (← groupCount? false p) + (← groupsCount? mayEndInOctets ps)

def sideCount? (mayEndInOctets : Bool) (cs : List Char) : Option Nat :=
  if cs.isEmpty then some 0 else groupsCount? mayEndInOctets (parts ':' cs)

def cutDouble : List Char → Option (List Char × List Char)
  | ':' :: ':' :: rest => some ([], rest)
  | c :: rest => (cutDouble rest).map fun (a, b) => (c :: a, b)
  | [] => none

/-- Whether an address of eight groups is well written; a double colon stands for at least one group. -/
def isGroups (cs : List Char) : Bool :=
  match cutDouble cs with
  | none => sideCount? true cs = some 8
  | some (left, right) =>
    match sideCount? false left, sideCount? true right with
    | some m, some n => m + n ≤ 7
    | _, _ => false

def parse? (cs : List Char) : Option String :=
  match cs with
  | '[' :: inner =>
    if inner.getLast? = some ']' && isGroups inner.dropLast then
      some (String.ofList (cs.map Char.toLower))
    else none
  | cs =>
    let name := (Utf8.lossyText (percentDecoded cs)).toList
    if name.isEmpty || !name.all admits then none
    else if endsInNumber name then (octets? name).map octetsText
    else some (String.ofList (name.map Char.toLower))

end CloudCensus.Host
