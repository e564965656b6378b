import CloudCensus.Number.Binary64
import CloudCensus.Wire.Tree
import CloudCensus.Yaml.Lexer
import CloudCensus.Yaml.Node

/-!
YAML documents as trees for typed reading.

The type that is wanted decides what a scalar means: any scalar is a text, while numbers and the
absence of a value are read from plain scalars only.
-/

namespace CloudCensus.Yaml

namespace Schema

def tag (name : String) : String := "tag:yaml.org,2002:" ++ name

def isNull (text : String) : Bool := ["~", "null", "Null", "NULL"].contains text

def bases : List (Char × Nat) := [('x', 16), ('o', 8), ('b', 2)]

def unsigned (cs : List Char) : List Char :=
  match cs with
  | '+' :: rest => rest
  | cs => cs

/-- A natural number in base ten without superfluous zeros, or in another base. -/
def natural? (text : String) : Option Nat :=
  match unsigned text.toList with
  | ['0'] => some 0
  | '0' :: c :: digits => (bases.lookup c).bind (numeral? · digits)
  | digits => numeral? 10 digits

def exponent? (cs : List Char) : Option Int :=
  match cs with
  | [] => some 0
  | 'e' :: '-' :: digits | 'E' :: '-' :: digits => (numeral? 10 digits).map fun n => -(n : Int)
  | 'e' :: digits | 'E' :: digits => (numeral? 10 (unsigned digits)).map fun n => (n : Int)
  | _ => none

def decimal? (negative : Bool) (cs : List Char) : Option Binary64 :=
  let (whole, rest) := takeDigits cs
  let (fraction, rest) := match rest with
    | '.' :: rest => takeDigits rest
    | rest => ([], rest)
  let digits := whole ++ fraction
  if digits.isEmpty then none
  else
    (exponent? rest).map fun e =>
      .ofDecimalText negative (ofDigits 10 digits) digits.length (e - fraction.length)

def real? (text : String) : Option Binary64 :=
  if [".inf", ".Inf", ".INF", "+.inf", "+.Inf", "+.INF"].contains text then some (.infinite false)
  else if ["-.inf", "-.Inf", "-.INF"].contains text then some (.infinite true)
  else if [".nan", ".NaN", ".NAN"].contains text then some .nan
  else
    let value := match text.toList with
      | '-' :: rest => decimal? true rest
      | cs => decimal? false (unsigned cs)
    value.bind fun x => if x.isFinite then some x else none

end Schema

structure Place where
  /-- The anchored nodes of the document by their numbers, the last one first. -/
  anchored : List (Nat × Node)
  node : Node

namespace Place

def ofText? (text : String) : Option Place := do
  let root ← Node.ofTokens? (← Token.ofText? text)
  return ⟨(root.nodes.filterMap fun n => n.anchor?.map (·, n)).reverse, root⟩

def move (p : Place) (n : Node) : Place := { p with node := n }

def content (p : Place) : Node :=
  match p.node with
  | .reference n => (p.anchored.lookup n).getD p.node
  | n => n

def text? (p : Place) : Option String :=
  match p.content with
  | .scalar _ _ _ s => some s
  | _ => none

/-- The text of a scalar that may be a number: a plain one, or a literal one with the number's tag. -/
def numberText? (tag : String) (p : Place) : Option String :=
  match p.content with
  | .scalar _ _ .plain s => some s
  | .scalar _ (some t) .literal s => if t = tag then some s else none
  | _ => none

/-- Whether a plain scalar without text stands here, which is also an empty collection. -/
def isAbsent (p : Place) : Bool :=
  match p.content with
  | .scalar _ _ .plain "" => true
  | _ => false

def list? (p : Place) : Option (List Place) :=
  match p.content with
  | .sequence _ xs => some (xs.map p.move)
  | _ => if p.isAbsent then some [] else none

def entries? (p : Place) : Option (List (String × Place)) :=
  match p.content with
  | .mapping _ ps => ps.mapM fun (k, v) => (p.move k).text?.map (·, p.move v)
  | _ => if p.isAbsent then some [] else none

/-- A plain scalar stands for nothing if it is empty or one of the names of null; under the tag of
null it has to be such a name. -/
def option? (p : Place) : Option (Option Place) :=
  match p.content with
  | .scalar _ none .plain s => some (if s.isEmpty || Schema.isNull s then none else some p)
  | .scalar _ (some t) .plain s =>
    if t = Schema.tag "null" then (if Schema.isNull s then some none else none) else some (some p)
  | _ => some (some p)

end Place

instance : WireTree Place where
  text? := Place.text?
  natural? p := (p.numberText? (Schema.tag "int")).bind Schema.natural?
  real? p := (p.numberText? (Schema.tag "float")).bind Schema.real?
  list? := Place.list?
  entries? := Place.entries?
  positions? _ := none
  option? := Place.option?

end CloudCensus.Yaml
