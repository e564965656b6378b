/-!
The characters of YAML and the folding of its lines.

Texts are read with every line break of one or two characters turned into a line feed, save for the
two separators of Unicode, which stand for themselves.
-/

namespace CloudCensus.Yaml

def isAdmitted (c : Char) : Bool :=
  let n := c.toNat
  n = 0x9 || n = 0xa || n = 0xd || (0x20 ≤ n && n ≤ 0x7e) || n = 0x85 || (0xa0 ≤ n && n ≤ 0xfffd) ||
    0x10000 ≤ n

/-- Turns carriage returns, their pairs with line feeds, and next lines into line feeds. -/
def unifyBreaks : List Char → List Char
  | '\r' :: '\n' :: rest => '\n' :: unifyBreaks rest
  | c :: rest => (if c = '\r' || c = '\u0085' then '\n' else c) :: unifyBreaks rest
  | [] => []

def isBreak (c : Char) : Bool := c = '\n' || c = '\u2028' || c = '\u2029'

def isSpaceOrTab (c : Char) : Bool := c = ' ' || c = '\t'

def isGap (c : Char) : Bool := isSpaceOrTab c || isBreak c

def endsWord : List Char → Bool
  | [] => true
  | c :: _ => isGap c

def isWord (c : Char) : Bool :=
  ('0' ≤ c && c ≤ '9') || ('A' ≤ c && c ≤ 'Z') || ('a' ≤ c && c ≤ 'z') || c = '_' || c = '-'

def isMarker (c : Char) : List Char → Bool
  | a :: b :: d :: rest => a = c && b = c && d = c && endsWord rest
  | _ => false

def isDocumentMarker (cs : List Char) : Bool := isMarker '-' cs || isMarker '.' cs

/-- What remains of the gap between two words: within a line all of it; over one line break a space;
over more of them all but the first.  A separator is never dropped. -/
def foldGap (gap : List Char) : List Char :=
  match gap.filter isBreak with
  | [] => gap
  | ['\n'] => [' ']
  | '\n' :: more => more
  | breaks => breaks

/-- What follows blanks and a comment at the end of a line; anything else there is refused. -/
def restOfLine? (cs : List Char) : Option (List Char) :=
  let rest := cs.dropWhile isSpaceOrTab
  let rest := match rest with
    | '#' :: _ => rest.dropWhile (!isBreak ·)
    | _ => rest
  match rest with
  | [] => some []
  | c :: rest => if isBreak c then some rest else none

end CloudCensus.Yaml
