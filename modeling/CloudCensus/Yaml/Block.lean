import CloudCensus.Text.Digits
import CloudCensus.Yaml.Line

/-!
Scalars of whole lines: literal ones keep their line breaks, folded ones join lines.

The lines begin at a column that the header fixes, or else the first lines.
-/

namespace CloudCensus.Yaml

inductive Chomping where
  | clip
  | strip
  | keep
  deriving DecidableEq, Repr

structure BlockHeader where
  chomping : Chomping
  indentation : Option Nat

def chomping? : List Char → Option (Chomping × List Char)
  | '+' :: rest => some (.keep, rest)
  | '-' :: rest => some (.strip, rest)
  | _ => none

def indentation? : List Char → Option (Nat × List Char)
  | c :: rest => (digit? c).map (·, rest)
  | [] => none

namespace BlockHeader

def indicators (cs : List Char) : BlockHeader × List Char :=
  match chomping? cs with
  | some (chomping, rest) =>
    match indentation? rest with
    | some (n, rest) => (⟨chomping, some n⟩, rest)
    | none => (⟨chomping, none⟩, rest)
  | none =>
    match indentation? cs with
    | none => (⟨.clip, none⟩, cs)
    | some (n, rest) =>
      match chomping? rest with
      | some (chomping, rest) => (⟨chomping, some n⟩, rest)
      | none => (⟨.clip, some n⟩, rest)

/-- The header after its first indicator; an indentation of zero is refused. -/
def read? (cs : List Char) : Option (BlockHeader × List Char) :=
  let (header, rest) := indicators cs
  if header.indentation = some 0 then none else (restOfLine? rest).map (header, ·)

end BlockHeader

structure EmptyLines where
  breaks : List Char
  widest : Nat
  column : Nat
  rest : List Char

/-- Skips indentation and empty lines; spaces at the limit are text, and a tab before it is refused. -/
def emptyLines (limit : Option Nat) (column : Nat) : List Char → Option EmptyLines
  | [] => some ⟨[], column, column, []⟩
  | c :: rest =>
    if isBreak c then
      (emptyLines limit 0 rest).map fun l =>
        { l with breaks := c :: l.breaks, widest := max column l.widest }
    else if limit.all (column < ·) && c = ' ' then emptyLines limit (column + 1) rest
    else if limit.all (column < ·) && c = '\t' then none
    else some ⟨[], column, column, c :: rest⟩

structure BlockLine where
  text : List Char
  ending : List Char
  after : List Char

namespace BlockLine

def isIndented (l : BlockLine) : Bool := l.text.head?.any isSpaceOrTab

def between (folded : Bool) (above below : BlockLine) : List Char :=
  if folded && above.ending = ['\n'] && !above.isIndented && !below.isIndented then
    if above.after.isEmpty then [' '] else above.after
  else above.ending ++ above.after

def tail (chomping : Chomping) (last : BlockLine) : List Char :=
  match chomping with
  | .strip => []
  | .clip => last.ending
  | .keep => last.ending ++ last.after

def join (folded : Bool) (chomping : Chomping) (above : BlockLine) : List BlockLine → List Char
  | [] => above.tail chomping
  | below :: more => between folded above below ++ below.text ++ join folded chomping below more

def collect (indent column : Nat) (cs : List Char) : Option (List BlockLine × List Char) :=
  if column ≠ indent || cs.isEmpty then some ([], cs)
  else
    let text := cs.takeWhile (!isBreak ·)
    let ending := (cs.drop text.length).take 1
    match emptyLines (some indent) 0 (cs.drop (text.length + 1)) with
    | none => none
    | some next =>
      if next.rest.length < cs.length then
        (collect indent next.column next.rest).map fun (lines, rest) =>
          (⟨text, ending, next.breaks⟩ :: lines, rest)
      else none
termination_by cs.length

end BlockLine

def block? (folded : Bool) (margin : Nat) (cs : List Char) : Option (List Char × List Char) := do
  let (header, rest) ← BlockHeader.read? cs
  let limit := header.indentation.map (margin - 1 + ·)
  let leading ← emptyLines limit 0 rest
  let indent := limit.getD (max 1 (max margin leading.widest))
  let (lines, rest) ← BlockLine.collect indent leading.column leading.rest
  return (BlockLine.join folded header.chomping ⟨[], [], leading.breaks⟩ lines, rest)

end CloudCensus.Yaml
