import CloudCensus.Text.Digits
import CloudCensus.Text.Utf8
import CloudCensus.Yaml.Line

namespace CloudCensus.Yaml

inductive Style where
  | plain
  | quoted
  | literal
  | folded
  deriving DecidableEq, Repr, Inhabited

inductive Token where
  | version (major minor : Nat)
  | tagHandle (handle lead : String)
  | documentStart
  | documentEnd
  | blockSequence
  | blockMapping
  /-- The end of a block sequence or mapping, where the margin falls back. -/
  | blockEnd
  | flowSequence
  | flowSequenceEnd
  | flowMapping
  | flowMappingEnd
  | entry
  | flowEntry
  | key
  | value
  | reference (name : String)
  | anchor (name : String)
  /-- A tag; without a handle its text stands for itself. -/
  | tag (handle text : String)
  | scalar (style : Style) (text : String)
  deriving DecidableEq, Repr, Inhabited

def anchorEnds : List Char := ['?', ':', ',', ']', '\x7d', '%', '@', '\x60']

def anchorName? (cs : List Char) : Option (String × List Char) :=
  let name := cs.takeWhile isWord
  let rest := cs.drop name.length
  if !name.isEmpty && (endsWord rest || rest.head?.any (anchorEnds.contains ·)) then
    some (String.ofList name, rest)
  else none

def tagMarks : List Char :=
  [';', '/', '?', ':', '@', '&', '=', '+', '$', '.', '!', '~', '*', '\'', '(', ')']

/-- The characters that a tag may hold only between angle brackets. -/
def flowMarks : List Char := [',', '[', ']']

def octetsAfter? (octet : Nat) : Option Nat :=
  if octet < 0x80 then some 0
  else if octet / 0x20 = 6 then some 1
  else if octet / 0x10 = 14 then some 2
  else if octet / 0x8 = 30 then some 3
  else none

/-- The octets of a tag's text while `pending` escaped ones must follow. -/
def tagOctets (verbatim : Bool) : Nat → List Char → Option (List Nat × List Char)
  | pending, '%' :: a :: b :: rest => do
    let octet ← numeral? 16 [a, b]
    let more ← if pending = 0 then octetsAfter? octet
      else if octet / 0x40 = 2 then some (pending - 1) else none
    let (octets, rest) ← tagOctets verbatim more rest
    return (octet :: octets, rest)
  | 0, c :: rest =>
    if isWord c || tagMarks.contains c || (verbatim && flowMarks.contains c) then
      (tagOctets verbatim 0 rest).map fun (octets, rest) => (c.toNat :: octets, rest)
    else some ([], c :: rest)
  | 0, [] => some ([], [])
  | _ + 1, _ => none

/-- The text that octets spell; it ends at an octet of zero. -/
def tagText (octets : List Nat) : String := Utf8.lossyText (octets.takeWhile (· ≠ 0))

def tagHandle? : List Char → Option (List Char × List Char)
  | '!' :: rest =>
    let name := rest.takeWhile isWord
    match rest.drop name.length with
    | '!' :: after => some ('!' :: name ++ ['!'], after)
    | after => some ('!' :: name, after)
  | _ => none

def isClosedHandle (handle : List Char) : Bool := 2 ≤ handle.length && handle.getLast? = some '!'

def verbatimTag? (cs : List Char) : Option (Token × List Char) :=
  match tagOctets true 0 cs with
  | some (o :: octets, '>' :: rest) => some (.tag "" (tagText (o :: octets)), rest)
  | _ => none

/-- A tag with a handle, or with the primary handle; an exclamation mark alone stands for itself. -/
def handledTag? (cs : List Char) : Option (Token × List Char) := do
  let (handle, rest) ← tagHandle? cs
  let (octets, rest) ← tagOctets false 0 rest
  if isClosedHandle handle then
    if octets.isEmpty then none else some (.tag (String.ofList handle) (tagText octets), rest)
  else
    let text := String.ofList (handle.drop 1) ++ tagText octets
    some (if text.isEmpty then .tag "" "!" else .tag "!" text, rest)

def tag? (inFlow : Bool) (cs : List Char) : Option (Token × List Char) := do
  let (token, rest) ← match cs with
    | '!' :: '<' :: rest => verbatimTag? rest
    | cs => handledTag? cs
  if endsWord rest || (inFlow && rest.head? = some ',') then some (token, rest) else none

def versionNumber? (cs : List Char) : Option (Nat × List Char) :=
  let (digits, rest) := takeDigits cs
  if digits.isEmpty || 9 < digits.length then none else some (ofDigits 10 digits, rest)

def versionDirective? (cs : List Char) : Option (Token × List Char) := do
  let (major, rest) ← versionNumber? cs
  let rest ← match rest with
    | '.' :: rest => some rest
    | _ => none
  let (minor, rest) ← versionNumber? rest
  return (.version major minor, rest)

def tagDirective? (cs : List Char) : Option (Token × List Char) := do
  let (handle, rest) ← tagHandle? cs
  if handle ≠ ['!'] && !isClosedHandle handle then none
  else if !rest.head?.any isSpaceOrTab then none
  else
    let (octets, rest) ← tagOctets true 0 (rest.dropWhile isSpaceOrTab)
    if octets.isEmpty || !endsWord rest then none
    else some (.tagHandle (String.ofList handle) (tagText octets), rest)

def directive? (cs : List Char) : Option (Token × List Char) := do
  let name := cs.takeWhile isWord
  let rest := cs.drop name.length
  if !endsWord rest then none
  else
    let rest := rest.dropWhile isSpaceOrTab
    let (token, rest) ←
      if name = "YAML".toList then versionDirective? rest
      else if name = "TAG".toList then tagDirective? rest
      else none
    (restOfLine? rest).map (token, ·)

end CloudCensus.Yaml
