import CloudCensus.Json.Written

namespace CloudCensus

class WireTree (N : Type) where
  text? : N → Option String
  natural? : N → Option Nat
  real? : N → Option Binary64
  list? : N → Option (List N)
  /-- The entries of a node with named parts, in order and with repetitions. -/
  entries? : N → Option (List (String × N))
  /-- The parts of a node that may stand for a record by their positions. -/
  positions? : N → Option (List N)
  /-- An optional part: `some none` where the node stands for nothing. -/
  option? : N → Option (Option N)

namespace WireTree

variable {N : Type} [WireTree N]

def fields? (names : List String) (node : N) : Option (List (String × N)) :=
  match entries? node with
  | some es =>
    if names.all fun name => (es.filter (·.1 = name)).length ≤ 1 then
      some (es.filter (·.1 ∈ names))
    else none
  | none =>
    match positions? node with
    | some xs => if xs.length ≤ names.length then some (names.zip xs) else none
    | none => none

def required {α : Type} (fields : List (String × N)) (name : String) (read : N → Option α) : Option α :=
  match List.lookup name fields with
  | some node => read node
  | none => none

def defaulted {α : Type} (fields : List (String × N)) (name : String) (read : N → Option α) (value : α) : Option α :=
  match List.lookup name fields with
  | some node => read node
  | none => some value

/-- A part that may be missing or stand for nothing. -/
def optional {α : Type} (fields : List (String × N)) (name : String) (read : N → Option α) : Option (Option α) :=
  match List.lookup name fields with
  | some node =>
    match option? node with
    | some (some node) => (read node).map some
    | some none => some none
    | none => none
  | none => some none

def listOf? {α : Type} (read : N → Option α) (node : N) : Option (List α) :=
  (list? node).bind fun xs => xs.mapM read

def word? (bits : Nat) (node : N) : Option Nat :=
  (natural? node).bind fun n => if n < twoTo bits then some n else none

end WireTree

namespace Json

def text? : Json → Option String
  | .text s => some s
  | _ => none

def natural? : Json → Option Nat
  | .integer n => if 0 ≤ n then some n.toNat else none
  | _ => none

def real? : Json → Option Binary64
  | .integer n => some (Binary64.ofRatio (n < 0) n.natAbs 1)
  | .real x => some x
  | _ => none

def list? : Json → Option (List Json)
  | .list xs => some xs
  | _ => none

def record? : Json → Option (Members Json)
  | .record ms => some ms
  | _ => none

def bool? : Json → Option Bool
  | .bool b => some b
  | _ => none

end Json

instance : WireTree Json where
  text? := Json.text?
  natural? := Json.natural?
  real? := Json.real?
  list? := Json.list?
  entries? := Json.record?
  positions? := Json.list?
  option?
    | .null => some none
    | x => some (some x)

namespace Written

def text? : Written → Option String
  | .text s => s
  | _ => none

def number? : Written → Option Json
  | .number t => t.value?
  | _ => none

def list? : Written → Option (List Written)
  | .list xs => some xs
  | _ => none

def record? : Written → Option (List (String × Written))
  | .record ms => ms.mapM fun (key, x) => key.map (·, x)
  | _ => none

end Written

instance : WireTree Written where
  text? := Written.text?
  natural? w := w.number?.bind Json.natural?
  real? w := w.number?.bind Json.real?
  list? := Written.list?
  entries? := Written.record?
  positions? := Written.list?
  option?
    | .null => some none
    | x => some (some x)

end CloudCensus
