import CloudCensus.Yaml.Block
import CloudCensus.Yaml.Plain
import CloudCensus.Yaml.Quoted
import CloudCensus.Yaml.Token

/-!
The tokens of a text.

Where a token begins that may turn out to be a key, its place is noted; a colon later on the same
line puts the key's tokens in at that place.  Block collections open where a column passes the margin
and close where the margin falls back.
-/

namespace CloudCensus.Yaml

structure Cursor where
  rest : List Char
  /-- How many bytes of UTF-8 stand before it. -/
  index : Nat
  line : Nat
  column : Nat

namespace Cursor

def next (c : Cursor) : Cursor :=
  match c.rest with
  | [] => c
  | x :: rest =>
    let index := c.index + x.utf8Size
    if isBreak x then ⟨rest, index, c.line + 1, 0⟩ else ⟨rest, index, c.line, c.column + 1⟩

def skip : Nat → Cursor → Cursor
  | 0, c => c
  | n + 1, c => skip n c.next

def goTo (c : Cursor) (rest : List Char) : Cursor := c.skip (c.rest.length - rest.length)

theorem length_next_rest {c : Cursor} {x : Char} {rest : List Char} (h : c.rest = x :: rest) :
    c.next.rest.length < c.rest.length := by
  unfold next
  rw [h]
  by_cases hx : isBreak x <;> simp [hx]

/-- Skips gaps and comments up to a token.  The first part tells whether a key may begin there, which
line breaks allow outside of flow brackets; tabs count as gaps where no key may begin. -/
def toToken (inFlow keyAllowed inComment : Bool) (c : Cursor) : Bool × Cursor :=
  match _ : c.rest with
  | [] => (keyAllowed, c)
  | x :: _ =>
    if isBreak x then toToken inFlow (keyAllowed || !inFlow) false c.next
    else if inComment || x = ' ' || (x = '\t' && (inFlow || !keyAllowed)) ||
        (x = '\ufeff' && c.column = 0) then
      toToken inFlow keyAllowed inComment c.next
    else if x = '#' then toToken inFlow keyAllowed true c.next
    else (keyAllowed, c)
termination_by c.rest.length
decreasing_by all_goals exact length_next_rest ‹_›

end Cursor

structure KeyPlace where
  tokens : Nat
  index : Nat
  line : Nat
  column : Nat
  required : Bool

/-- How many bytes of UTF-8 a key may have. -/
def keyLimit : Nat := 1024

structure Lexer where
  cursor : Cursor
  /-- The least column inside of the innermost block, zero outside of all blocks. -/
  margin : Nat
  margins : List Nat
  keyAllowed : Bool
  keyPlace : Option KeyPlace
  /-- The key places around the open flow brackets. -/
  outer : List (Option KeyPlace)
  tokens : Array Token

namespace Lexer

def ofText (text : List Char) : Lexer :=
  ⟨⟨text, 0, 0, 0⟩, 0, [], true, none, [], #[]⟩

def inFlow (s : Lexer) : Bool := !s.outer.isEmpty

def push (s : Lexer) (t : Token) : Lexer := { s with tokens := s.tokens.push t }

def advance (n : Nat) (s : Lexer) : Lexer := { s with cursor := s.cursor.skip n }

def goTo (s : Lexer) (rest : List Char) : Lexer := { s with cursor := s.cursor.goTo rest }

def allowKey (allowed : Bool) (s : Lexer) : Lexer := { s with keyAllowed := allowed }

def isStale (s : Lexer) (k : KeyPlace) : Bool :=
  k.line < s.cursor.line || k.index + keyLimit < s.cursor.index

/-- Gives up the key places that are stale; a required key may not be given up. -/
def dropStale? (s : Lexer) : Option Lexer :=
  let stale (k : Option KeyPlace) : Bool := k.any s.isStale
  let keep (k : Option KeyPlace) : Option KeyPlace := if stale k then none else k
  if (s.keyPlace :: s.outer).any fun k => stale k && k.any (·.required) then none
  else some { s with keyPlace := keep s.keyPlace, outer := s.outer.map keep }

def dropKey? (s : Lexer) : Option Lexer :=
  if s.keyPlace.any (·.required) then none else some { s with keyPlace := none }

def noteKey? (s : Lexer) : Option Lexer :=
  if s.keyAllowed then
    s.dropKey?.map fun t =>
      let c := t.cursor
      let place : KeyPlace :=
        ⟨t.tokens.size, c.index, c.line, c.column, !t.inFlow && t.margin = c.column + 1⟩
      { t with keyPlace := some place }
  else some s

def openBlock (t : Token) (column place : Nat) (s : Lexer) : Lexer :=
  if s.inFlow || column < s.margin then s
  else
    { s with
      margin := column + 1, margins := s.margin :: s.margins,
      tokens := s.tokens.insertIdxIfInBounds place t }

def closeBlocksFrom (tokens : Array Token) (limit margin : Nat) : List Nat → Nat × List Nat × Array Token
  | [] => (margin, [], tokens)
  | m :: ms =>
    if limit < margin then closeBlocksFrom (tokens.push .blockEnd) limit m ms else (margin, m :: ms, tokens)

def closeBlocks (limit : Nat) (s : Lexer) : Lexer :=
  if s.inFlow then s
  else
    let (margin, margins, tokens) := closeBlocksFrom s.tokens limit s.margin s.margins
    { s with margin := margin, margins := margins, tokens := tokens }

def leaveBlocks? (s : Lexer) : Option Lexer :=
  (s.closeBlocks 0).dropKey?.map (allowKey false)

def documentMarker? (t : Token) (s : Lexer) : Option Lexer :=
  s.leaveBlocks?.map fun s => (s.push t).advance 3

def flowOpening? (t : Token) (s : Lexer) : Option Lexer :=
  s.noteKey?.map fun s =>
    let s := { s with outer := s.keyPlace :: s.outer, keyPlace := none, keyAllowed := true }
    (s.push t).advance 1

def flowClosing? (t : Token) (s : Lexer) : Option Lexer :=
  s.dropKey?.map fun s =>
    let s := match s.outer with
      | k :: outer => { s with keyPlace := k, outer := outer }
      | [] => s
    ((s.allowKey false).push t).advance 1

def flowComma? (s : Lexer) : Option Lexer :=
  s.dropKey?.map fun s => ((s.allowKey true).push .flowEntry).advance 1

/-- Outside of flow brackets an indicator stands only where a key may begin, and may open a block. -/
def indicator? (t : Token) (s : Lexer) : Option Lexer :=
  if s.inFlow then some s
  else if s.keyAllowed then some (s.openBlock t s.cursor.column s.tokens.size)
  else none

def blockEntry? (s : Lexer) : Option Lexer := do
  let s ← (← s.indicator? .blockSequence).dropKey?
  return ((s.allowKey true).push .entry).advance 1

def explicitKey? (s : Lexer) : Option Lexer := do
  let s ← (← s.indicator? .blockMapping).dropKey?
  return ((s.allowKey !s.inFlow).push .key).advance 1

/-- A colon makes a key of what stands at the key place. -/
def colon? (s : Lexer) : Option Lexer :=
  match s.keyPlace with
  | some k =>
    let s := { s with tokens := s.tokens.insertIdxIfInBounds k.tokens .key, keyPlace := none }
    some ((((s.openBlock .blockMapping k.column k.tokens).allowKey false).push .value).advance 1)
  | none =>
    (s.indicator? .blockMapping).map fun s => ((s.allowKey !s.inFlow).push .value).advance 1

def keyStart? (read : List Char → Option (Token × List Char)) (s : Lexer) : Option Lexer := do
  let s ← s.noteKey?
  let (t, rest) ← read s.cursor.rest
  return ((s.allowKey false).push t).goTo rest

def named? (token : String → Token) (cs : List Char) : Option (Token × List Char) :=
  (anchorName? (cs.drop 1)).map fun (name, rest) => (token name, rest)

def quoted? (pieces : List Char → Option (List Piece × List Char)) (cs : List Char) :
    Option (Token × List Char) := do
  let (ps, rest) ← pieces (cs.drop 1)
  return (.scalar .quoted (← Piece.text? ps), rest)

def plainScalar? (s : Lexer) : Option Lexer := do
  let s ← s.noteKey?
  let p ← plain? s.inFlow s.margin s.cursor.column s.cursor.rest
  return ((s.allowKey p.endsLine).push (.scalar .plain (String.ofList p.text))).goTo p.rest

def blockScalar? (style : Style) (s : Lexer) : Option Lexer := do
  let s ← s.dropKey?
  let (text, rest) ← block? (style = .folded) s.margin (s.cursor.rest.drop 1)
  return ((s.allowKey true).push (.scalar style (String.ofList text))).goTo rest

def directiveLine? (s : Lexer) : Option Lexer := do
  let s ← s.leaveBlocks?
  let (t, rest) ← directive? (s.cursor.rest.drop 1)
  return (s.push t).goTo rest

def indicators : List Char :=
  ['-', '?', ':', ',', '[', ']', '\x7b', '\x7d', '#', '&', '*', '!', '|', '>', '\'', '"', '%', '@', '\x60']

def beginsPlain (inFlow : Bool) (c : Char) (rest : List Char) : Bool :=
  !(isGap c || indicators.contains c) || (c = '-' && !endsWord rest) ||
    (!inFlow && (c = '?' || c = ':') && !endsWord rest)

def token? (s : Lexer) (c : Char) (rest : List Char) : Option Lexer :=
  let atLineStart := s.cursor.column = 0
  let stands := s.inFlow || endsWord rest
  if atLineStart && c = '%' then s.directiveLine?
  else if atLineStart && isMarker '-' (c :: rest) then s.documentMarker? .documentStart
  else if atLineStart && isMarker '.' (c :: rest) then s.documentMarker? .documentEnd
  else if c = '[' then s.flowOpening? .flowSequence
  else if c = '\x7b' then s.flowOpening? .flowMapping
  else if c = ']' then s.flowClosing? .flowSequenceEnd
  else if c = '\x7d' then s.flowClosing? .flowMappingEnd
  else if c = ',' then s.flowComma?
  else if c = '-' && endsWord rest then s.blockEntry?
  else if c = '?' && stands then s.explicitKey?
  else if c = ':' && stands then s.colon?
  else if c = '*' then s.keyStart? (named? .reference)
  else if c = '&' then s.keyStart? (named? .anchor)
  else if c = '!' then s.keyStart? (tag? s.inFlow)
  else if c = '|' && !s.inFlow then s.blockScalar? .literal
  else if c = '>' && !s.inFlow then s.blockScalar? .folded
  else if c = '\'' then s.keyStart? (quoted? singleQuoted)
  else if c = '"' then s.keyStart? (quoted? doubleQuoted)
  else if beginsPlain s.inFlow c rest then s.plainScalar?
  else none

def approach? (s : Lexer) : Option Lexer :=
  let (keyAllowed, cursor) := s.cursor.toToken s.inFlow s.keyAllowed false
  (dropStale? { s with keyAllowed := keyAllowed, cursor := cursor }).map fun s =>
    s.closeBlocks (s.cursor.column + 1)

def run (s : Lexer) : Option (List Token) :=
  match s.approach? with
  | none => none
  | some t =>
    match t.cursor.rest with
    | [] => t.leaveBlocks?.map (·.tokens.toList)
    | c :: rest =>
      match t.token? c rest with
      | none => none
      | some u => if u.cursor.rest.length < s.cursor.rest.length then run u else none
termination_by s.cursor.rest.length

end Lexer

def Token.ofText? (text : String) : Option (List Token) :=
  if text.toList.all isAdmitted then (Lexer.ofText (unifyBreaks text.toList)).run else none

end CloudCensus.Yaml
