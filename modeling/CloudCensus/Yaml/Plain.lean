import CloudCensus.Yaml.Line

namespace CloudCensus.Yaml

structure PlainScalar where
  text : List Char
  endsLine : Bool
  rest : List Char

def isFlowIndicator (c : Char) : Bool := c = ',' || c = '[' || c = ']' || c = '\x7b' || c = '\x7d'

def isStrayColon : List Char → Bool
  | ':' :: c :: _ => isFlowIndicator c || c = '?'
  | _ => false

def endsPlainWord (inFlow : Bool) : List Char → Bool
  | [] => true
  | c :: rest => (c = ':' && endsWord rest) || (inFlow && isFlowIndicator c)

/-- Where no further word of a plain scalar begins. -/
def endsPlain (inFlow : Bool) (margin column : Nat) (cs : List Char) : Bool :=
  (!inFlow && column < margin) || (column = 0 && isDocumentMarker cs) || cs.head? = some '#'

/-- Reads on after a gap, which is given in reverse.  A tab before the margin is refused. -/
def plainFrom (inFlow : Bool) (margin column : Nat) (gap : List Char) :
    List Char → Option PlainScalar
  | [] => some ⟨[], gap.any isBreak, []⟩
  | c :: rest =>
    if isBreak c then plainFrom inFlow margin 0 (c :: gap) rest
    else if isSpaceOrTab c then
      if c = '\t' && column < margin && gap.any isBreak then none
      else plainFrom inFlow margin (column + 1) (c :: gap) rest
    else if (!gap.isEmpty && endsPlain inFlow margin column (c :: rest)) then
      some ⟨[], gap.any isBreak, c :: rest⟩
    else if inFlow && isStrayColon (c :: rest) then none
    else if endsPlainWord inFlow (c :: rest) then some ⟨[], gap.any isBreak, c :: rest⟩
    else
      (plainFrom inFlow margin (column + 1) [] rest).map fun p =>
        { p with text := foldGap gap.reverse ++ c :: p.text }

def plain? (inFlow : Bool) (margin column : Nat) (cs : List Char) : Option PlainScalar :=
  plainFrom inFlow margin column [] cs

end CloudCensus.Yaml
