import CloudCensus.Http.Host
import CloudCensus.Text.Cut
import CloudCensus.Text.Utf8

/-!
Absolute URLs of HTTP: where they lead, and the path and query that are sent there.

White space around a URL and tabs and line ends inside it do not count, and a backslash counts as a
slash.  Paths are percent-encoded, queries are form-encoded, and a fragment is not sent.
-/

namespace CloudCensus

structure Origin where
  secure : Bool
  host : String
  port : Nat
  deriving DecidableEq, Repr

/-- A URL whose parts are encoded; a name and password in front of the host are left out. -/
structure Url where
  origin : Origin
  path : List Char
  query : Option (List Char)
  fragment : Option (List Char)
  deriving DecidableEq, Repr

namespace Url

def hexUpper (n : Nat) : Char := if n < 10 then Char.ofNat (n + 48) else Char.ofNat (n + 55)

def percent (b : Nat) : List Char := ['%', hexUpper (b / 16), hexUpper (b % 16)]

def encodeWith (passes : Char → Bool) (cs : List Char) : List Char :=
  cs.flatMap fun c => if passes c then [c] else (Utf8.encodeChar c).flatMap percent

def isVisible (c : Char) : Bool := 0x20 < c.toNat && c.toNat < 0x7f

def passesPath (c : Char) : Bool := isVisible c && !"\"#<>?^`\x7b\x7d".contains c

def passesQuery (c : Char) : Bool := isVisible c && !"\"#<>'".contains c

def passesFragment (c : Char) : Bool := isVisible c && !"\"<>`".contains c

def passesForm (c : Char) : Bool := c.isAlphanum || "*-._".contains c

/-- A name or value of a form: letters, digits and four signs stay, a space becomes a plus sign. -/
def formText (s : String) : List Char :=
  s.toList.flatMap fun c =>
    if c = ' ' then ['+'] else if passesForm c then [c] else (Utf8.encodeChar c).flatMap percent

def formPairs (pairs : List (String × String)) : List Char :=
  ['&'].intercalate (pairs.map fun (k, v) => formText k ++ '=' :: formText v)

def isDot (s : List Char) : Bool := s = ['.'] || s.map Char.toLower = "%2e".toList

def isDoubleDot (s : List Char) : Bool :=
  ["..", ".%2e", "%2e.", "%2e%2e"].any fun t => s.map Char.toLower = t.toList

def isDrive : List Char → Bool
  | [c, mark] => c.isAlpha && (mark = ':' || mark = '|')
  | _ => false

/-- The segments without the last one; a drive is never left. -/
def leave : List (List Char) → List (List Char)
  | [] => []
  | s :: done => if isDrive s then s :: done else done

/-- Resolves the segments `.` and `..`; one at the end leaves an empty segment. -/
def resolveDots (done : List (List Char)) : List (List Char) → List (List Char)
  | [] => done.reverse
  | s :: rest =>
    let last := rest.isEmpty
    if isDoubleDot s then resolveDots (if last then [] :: leave done else leave done) rest
    else if isDot s then resolveDots (if last then [] :: done else done) rest
    else resolveDots (s :: done) rest

def significant (text : String) : List Char :=
  let cs := text.toList.dropWhile fun c => c.toNat ≤ 0x20
  let cs := (cs.reverse.dropWhile fun c => c.toNat ≤ 0x20).reverse
  cs.filter fun c => c ≠ '\t' && c ≠ '\n' && c ≠ '\r'

def isSlash (c : Char) : Bool := c = '/' || c = '\\'

def endsHost (c : Char) : Bool := isSlash c || c = '?' || c = '#'

def scheme? (cs : List Char) : Option (Bool × List Char) := do
  let (name, rest) ← cutAt ':' cs
  let name := name.map Char.toLower
  if name = "http".toList then some (false, rest.dropWhile isSlash)
  else if name = "https".toList then some (true, rest.dropWhile isSlash)
  else none

/-- What follows the name and password, which end at the last `@`. -/
def afterUser (cs : List Char) : List Char := (cs.reverse.takeWhile (· ≠ '@')).reverse

/-- The host and what follows the colon after it; a colon between brackets belongs to the host. -/
def cutPort (inside : Bool) : List Char → List Char × Option (List Char)
  | [] => ([], none)
  | c :: rest =>
    if c = ':' && !inside then ([], some rest)
    else
      let (host, port) := cutPort (if c = '[' then true else if c = ']' then false else inside) rest
      (c :: host, port)

/-- The port that digits write; without digits it is the standard one. -/
def port? (secure : Bool) (digits : List Char) : Option Nat :=
  if digits.isEmpty then some (if secure then 443 else 80)
  else (numeral? 10 digits).bind fun n => if n ≤ 65535 then some n else none

def origin? (secure : Bool) (cs : List Char) : Option Origin := do
  let (host, port) := cutPort false (afterUser cs)
  return ⟨secure, ← Host.parse? host, ← port? secure (port.getD [])⟩

def cutOff (c : Char) (cs : List Char) : List Char × Option (List Char) :=
  match cutAt c cs with
  | some (a, b) => (a, some b)
  | none => (cs, none)

def parse? (text : String) : Option Url := do
  let (secure, cs) ← scheme? (significant text)
  let origin ← origin? secure (cs.takeWhile (!endsHost ·))
  let (cs, fragment) := cutOff '#' (cs.dropWhile (!endsHost ·))
  let (cs, query) := cutOff '?' cs
  let segments := (Host.parts '/' (cs.map fun c => if isSlash c then '/' else c)).drop 1
  return {
    origin := origin
    path := encodeWith passesPath (['/'].intercalate (resolveDots [] segments))
    query := query.map (encodeWith passesQuery)
    fragment := fragment.map (encodeWith passesFragment) }

/-- Adds pairs to the query; an empty query is left out. -/
def addPairs (pairs : List (String × String)) (u : Url) : Url :=
  let own := u.query.getD []
  let added := formPairs pairs
  let all := if own.isEmpty then added else if pairs.isEmpty then own else own ++ '&' :: added
  { u with query := if all.isEmpty then none else some all }

def part (mark : Char) (cs : Option (List Char)) : List Char := (cs.map (mark :: ·)).getD []

def target (u : Url) : String := String.ofList ('/' :: u.path ++ part '?' u.query)

/-- The whole URL; a standard port is left out. -/
def write (u : Url) : String :=
  let port := if u.origin.port = (if u.origin.secure then 443 else 80) then "" else ":" ++ toString u.origin.port
  (if u.origin.secure then "https://" else "http://") ++ u.origin.host ++ port ++ u.target ++
    String.ofList (part '#' u.fragment)

def limit : Nat := 65534

end Url
end CloudCensus
