import CloudCensus.Yaml.Token

namespace CloudCensus.Yaml

/-- A node.  Anchored nodes bear numbers, by which aliases name them. -/
inductive Node where
  | reference (anchor : Nat)
  | scalar (anchor : Option Nat) (tag : Option String) (style : Style) (text : String)
  | sequence (anchor : Option Nat) (items : List Node)
  | mapping (anchor : Option Nat) (pairs : List (Node × Node))
  deriving Repr, Inhabited

namespace Node

def absent : Node := .scalar none none .plain ""

def anchor? : Node → Option Nat
  | reference _ => none
  | scalar a _ _ _ => a
  | sequence a _ => a
  | mapping a _ => a

mutual

def nodes : Node → List Node
  | reference n => [reference n]
  | scalar a t s text => [scalar a t s text]
  | sequence a xs => sequence a xs :: nodesOfItems xs
  | mapping a ps => mapping a ps :: nodesOfPairs ps

def nodesOfItems : List Node → List Node
  | [] => []
  | x :: xs => nodes x ++ nodesOfItems xs

def nodesOfPairs : List (Node × Node) → List Node
  | [] => []
  | (k, v) :: ps => nodes k ++ nodes v ++ nodesOfPairs ps

end

end Node

structure Progress where
  tokens : List Token
  handles : List (String × String)
  /-- The names of anchors with the numbers of the latest nodes that bear them. -/
  anchors : List (String × Nat)

abbrev Reading := StateT Progress Option

namespace Reading

def peek : Reading (Option Token) := do return (← get).tokens.head?

def skip : Reading Unit := modify fun p => { p with tokens := p.tokens.drop 1 }

def fail {α : Type} : Reading α := fun _ => none

def expect (t : Token) : Reading Unit := do
  if (← peek) = some t then skip else fail

/-- Numbers an anchor by the names before it.  A name that comes again counts once, so its new number
is also that of the next new name. -/
def anchorNumber (name : String) : Reading Nat := do
  let p ← get
  let n := p.anchors.length
  set { p with anchors := (name, n) :: p.anchors.filter (·.1 ≠ name) }
  return n

def anchored (name : String) : Reading Nat := do
  match (← get).anchors.lookup name with
  | some n => return n
  | none => fail

def expandTag (handle text : String) : Reading String := do
  if handle.isEmpty then return text
  else
    match (← get).handles.lookup handle with
    | some lead => return lead ++ text
    | none => fail

def properties : Reading (Option Nat × Option String) := do
  match ← peek with
  | some (.anchor name) =>
    skip
    let tag ← match ← peek with
      | some (.tag handle text) => skip; pure (some (handle, text))
      | _ => pure none
    let tag ← tag.mapM fun (handle, text) => expandTag handle text
    return (some (← anchorNumber name), tag)
  | some (.tag handle text) =>
    skip
    let name ← match ← peek with
      | some (.anchor name) => skip; pure (some name)
      | _ => pure none
    let tag ← expandTag handle text
    return (← name.mapM anchorNumber, some tag)
  | _ => return (none, none)

def bare (anchor : Option Nat) (tag : Option String) : Reading Node := do
  if anchor.isSome || tag.isSome then return .scalar anchor tag .plain "" else fail

def comes (ts : List Token) : Reading Bool := do
  return (← peek).any (ts.contains ·)

mutual

/-- A node.  Block collections count where `inBlock` holds, and entries without a margin of their own
where `indentless` does. -/
def node (fuel : Nat) (inBlock indentless : Bool) : Reading Node :=
  match fuel with
  | 0 => fail
  | fuel + 1 => do
    match ← peek with
    | some (.reference name) => skip; return .reference (← anchored name)
    | _ =>
      let (anchor, tag) ← properties
      match ← peek with
      | some .entry => if indentless then return .sequence anchor (← entries fuel) else bare anchor tag
      | some (.scalar style text) =>
        skip
        return .scalar anchor (if tag = some "!" then none else tag) style text
      | some .flowSequence => skip; return .sequence anchor (← flowItems fuel true)
      | some .flowMapping => skip; return .mapping anchor (← flowPairs fuel true)
      | some .blockSequence =>
        if inBlock then do skip; return .sequence anchor (← blockItems fuel) else bare anchor tag
      | some .blockMapping =>
        if inBlock then do skip; return .mapping anchor (← blockPairs fuel) else bare anchor tag
      | _ => bare anchor tag

def nodeUnless (fuel : Nat) (ends : List Token) (inBlock indentless : Bool) : Reading Node :=
  match fuel with
  | 0 => fail
  | fuel + 1 => do if ← comes ends then return .absent else node fuel inBlock indentless

def blockItems (fuel : Nat) : Reading (List Node) :=
  match fuel with
  | 0 => fail
  | fuel + 1 => do
    match ← peek with
    | some .entry =>
      skip
      let x ← nodeUnless fuel [.entry, .blockEnd] true false
      return x :: (← blockItems fuel)
    | some .blockEnd => skip; return []
    | _ => fail

/-- The elements of a block sequence that ends with its last entry. -/
def entries (fuel : Nat) : Reading (List Node) :=
  match fuel with
  | 0 => fail
  | fuel + 1 => do
    match ← peek with
    | some .entry =>
      skip
      let x ← nodeUnless fuel [.entry, .key, .value, .blockEnd] true false
      return x :: (← entries fuel)
    | _ => return []

def blockPairs (fuel : Nat) : Reading (List (Node × Node)) :=
  match fuel with
  | 0 => fail
  | fuel + 1 => do
    match ← peek with
    | some .key =>
      skip
      let k ← nodeUnless fuel [.key, .value, .blockEnd] true true
      let v ← match ← peek with
        | some .value => skip; nodeUnless fuel [.key, .value, .blockEnd] true true
        | _ => pure .absent
      return (k, v) :: (← blockPairs fuel)
    | some .blockEnd => skip; return []
    | _ => fail

def flowItems (fuel : Nat) (first : Bool) : Reading (List Node) :=
  match fuel with
  | 0 => fail
  | fuel + 1 => do
    if ← comes [.flowSequenceEnd] then do skip; return []
    else
      if !first then expect .flowEntry
      match ← peek with
      | some .key => skip; return (← flowPair fuel) :: (← flowItems fuel false)
      | some .flowSequenceEnd => skip; return []
      | _ =>
        let x ← node fuel false false
        return x :: (← flowItems fuel false)

/-- A mapping of one pair in a flow sequence, after its key token.  The token after an omitted key is
passed over. -/
def flowPair (fuel : Nat) : Reading Node :=
  match fuel with
  | 0 => fail
  | fuel + 1 => do
    let k ← if ← comes [.value, .flowEntry, .flowSequenceEnd] then do skip; pure .absent
      else node fuel false false
    let v ← match ← peek with
      | some .value => skip; nodeUnless fuel [.flowEntry, .flowSequenceEnd] false false
      | _ => pure .absent
    return .mapping none [(k, v)]

def flowPairs (fuel : Nat) (first : Bool) : Reading (List (Node × Node)) :=
  match fuel with
  | 0 => fail
  | fuel + 1 => do
    if ← comes [.flowMappingEnd] then do skip; return []
    else
      if !first then expect .flowEntry
      match ← peek with
      | some .key =>
        skip
        let k ← nodeUnless fuel [.value, .flowEntry, .flowMappingEnd] false false
        let v ← match ← peek with
          | some .value => skip; nodeUnless fuel [.flowEntry, .flowMappingEnd] false false
          | _ => pure .absent
        return (k, v) :: (← flowPairs fuel false)
      | some .flowMappingEnd => skip; return []
      | _ =>
        let k ← node fuel false false
        return (k, .absent) :: (← flowPairs fuel false)

end

def standardHandles : List (String × String) := [("!", "!"), ("!!", "tag:yaml.org,2002:")]

/-- The directives before a document; each may be given once, and the version is 1.1 or 1.2. -/
def directives (versioned : Bool) (handles : List (String × String)) :
    List Token → Option (List (String × String) × List Token)
  | .version major minor :: rest =>
    if versioned || major ≠ 1 || !(minor = 1 || minor = 2) then none
    else directives true handles rest
  | .tagHandle handle lead :: rest =>
    if (handles.lookup handle).isSome then none
    else directives versioned ((handle, lead) :: handles) rest
  | rest => some (handles, rest)

def content (fuel : Nat) : Reading Node := do
  match ← peek with
  | none | some .documentStart | some .documentEnd | some (.version ..) | some (.tagHandle ..) =>
    return .absent
  | _ => node fuel true false

def document (tokens : List Token) : Option Node := do
  let fuel := 4 * tokens.length + 4
  let (handles, rest) ← directives false [] tokens
  let progress : Progress := ⟨rest, handles ++ standardHandles, []⟩
  let (root, last) ← match tokens with
    | [] => none
    | .version .. :: _ | .tagHandle .. :: _ | .documentStart :: _ =>
      (do expect .documentStart; content fuel : Reading Node).run progress
    | _ => (node fuel true false).run progress
  if last.tokens.all (· = .documentEnd) then some root else none

end Reading

def Node.ofTokens? (tokens : List Token) : Option Node := Reading.document tokens

end CloudCensus.Yaml
