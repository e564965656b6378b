import CloudCensus.Asset.Basic

/-!
The pool in which observations of the two listings wait for one another.

An asset leaves the pool once each of its facets is there or can no longer come.  The pool looks only
at the touched asset when an observation arrives, and at all of them when a side closes.
-/

namespace CloudCensus

structure Pool where
  /-- Absorbed observations of names that have not left yet, the first seen first. -/
  pending : List Asset
  emitted : List String
  resourcesClosed : Bool
  policiesClosed : Bool
  deriving Repr, Inhabited

namespace Pool

def empty : Pool := ⟨[], [], false, false⟩

def isClosed (p : Pool) : Facet → Bool
  | .resource => p.resourcesClosed
  | .policy => p.policiesClosed

def bothClosed (p : Pool) : Bool := p.resourcesClosed && p.policiesClosed

/-- Whether every facet of an asset is there or can no longer come. -/
def isReady (p : Pool) (a : Asset) : Bool :=
  (a.has .resource || p.resourcesClosed) && (a.has .policy || p.policiesClosed)

def find? (p : Pool) (name : String) : Option Asset := p.pending.find? (·.name = name)

def absorbed (p : Pool) (a : Asset) : Asset :=
  match p.find? a.name with
  | some known => known.absorb a
  | none => a

/-- Puts an absorbed asset in the place of its name, or at the end. -/
def put (a : Asset) : List Asset → List Asset
  | [] => [a]
  | b :: rest => if b.name = a.name then a :: rest else b :: put a rest

def without (name : String) (as : List Asset) : List Asset := as.filter (·.name ≠ name)

def observe (p : Pool) (a : Asset) : List Asset × Pool :=
  if a.name ∈ p.emitted then ([], p)
  else
    let merged := p.absorbed a
    if p.isReady merged then
      ([merged], { p with pending := without merged.name p.pending, emitted := p.emitted ++ [merged.name] })
    else ([], { p with pending := put merged p.pending })

def drain (p : Pool) : List Asset × Pool :=
  let ready := p.pending.filter p.isReady
  (ready, { p with
    pending := p.pending.filter fun a => !p.isReady a
    emitted := p.emitted ++ ready.map (·.name) })

def markClosed (p : Pool) : Facet → Pool
  | .resource => { p with resourcesClosed := true }
  | .policy => { p with policiesClosed := true }

def close (p : Pool) (side : Facet) : List Asset × Pool := (p.markClosed side).drain

end Pool
end CloudCensus
