import CloudCensus.Text.Digits
import CloudCensus.Yaml.Line

/-!
Scalars in quotes.

Both kinds fold their lines.  In single quotes a quote is written twice; in double quotes a backslash
escapes characters, and a line break so that nothing replaces it.
-/

namespace CloudCensus.Yaml

inductive Piece where
  | plain (c : Char)
  /-- A character that takes no part in folding. -/
  | escaped (c : Char)
  | joint
  deriving DecidableEq, Repr

namespace Piece

def endsLine : Piece → Bool
  | plain c => isBreak c
  | escaped _ => false
  | joint => true

def beginMarker : List Piece → Bool
  | plain a :: plain b :: plain c :: plain d :: _ => isDocumentMarker [a, b, c, d]
  | _ => false

def holdMarker : List Piece → Bool
  | [] => false
  | p :: ps => (p.endsLine && beginMarker ps) || holdMarker ps

/-- The gap after a joint keeps its line breaks alone. -/
def foldAfter (joined : Bool) (gap : List Char) : List Char :=
  if joined then gap.filter isBreak else foldGap gap

/-- The text of the pieces after a gap, which is given in reverse. -/
def fold (joined : Bool) (gap : List Char) : List Piece → List Char
  | [] => foldAfter joined gap.reverse
  | plain c :: ps =>
    if isGap c then fold joined (c :: gap) ps else foldAfter joined gap.reverse ++ c :: fold false [] ps
  | escaped c :: ps => foldAfter joined gap.reverse ++ c :: fold false [] ps
  | joint :: ps => foldAfter joined gap.reverse ++ fold true [] ps

def text? (ps : List Piece) : Option String :=
  if holdMarker ps then none else some (String.ofList (fold false [] ps))

end Piece

def singleQuoted : List Char → Option (List Piece × List Char)
  | '\'' :: '\'' :: rest => (singleQuoted rest).map fun (ps, rest) => (.plain '\'' :: ps, rest)
  | '\'' :: rest => some ([], rest)
  | c :: rest => (singleQuoted rest).map fun (ps, rest) => (.plain c :: ps, rest)
  | [] => none

def simpleEscapes : List (Char × Char) :=
  [('0', '\x00'), ('a', '\x07'), ('b', '\x08'), ('t', '\t'), ('\t', '\t'), ('n', '\n'), ('v', '\x0b'),
    ('f', '\x0c'), ('r', '\r'), ('e', '\x1b'), (' ', ' '), ('"', '"'), ('/', '/'), ('\\', '\\'),
    ('N', '\u0085'), ('_', '\u00a0'), ('L', '\u2028'), ('P', '\u2029')]

def numericEscapes : List (Char × Nat) := [('x', 2), ('u', 4), ('U', 8)]

def numericEscape? (width : Nat) (cs : List Char) : Option (Piece × List Char) := do
  if cs.length < width then none
  else
    let code ← numeral? 16 (cs.take width)
    if code.isValidChar then some (.escaped (Char.ofNat code), cs.drop width) else none

def escape? : List Char → Option (Piece × List Char)
  | [] => none
  | c :: rest =>
    if isBreak c then some (.joint, rest)
    else
      match simpleEscapes.lookup c with
      | some d => some (.escaped d, rest)
      | none => (numericEscapes.lookup c).bind fun width => numericEscape? width rest

def doubleQuoted (cs : List Char) : Option (List Piece × List Char) :=
  match cs with
  | [] => none
  | '"' :: rest => some ([], rest)
  | '\\' :: rest =>
    match escape? rest with
    | none => none
    | some (p, more) =>
      if more.length ≤ rest.length then (doubleQuoted more).map fun (ps, rest) => (p :: ps, rest)
      else none
  | c :: rest => (doubleQuoted rest).map fun (ps, rest) => (.plain c :: ps, rest)
termination_by cs.length
decreasing_by all_goals (simp; try omega)

end CloudCensus.Yaml
