import CloudCensus.Failure
import CloudCensus.Ledger

/-!
One listing, from the answers of an inventory into a queue.

A listing that breaks puts its failure into the queue before it ends, so a broken listing can be told
from a finished one.
-/

namespace CloudCensus

/-- What an inventory answers when it is asked for the next asset; after the last item it has none. -/
inductive Item where
  /-- An asset; the run may be cancelled while it is returned. -/
  | asset (a : Asset) (fires : Bool)
  | failure (e : Failure)
  | crash
  deriving Repr, Inhabited

abbrev Inventory := Request → List Item

def Failure.crashed : Failure := .because .internal .foreign

structure Produced where
  /-- The number of assets handed over. -/
  outcome : Outcome Nat
  queue : List (Outcome Asset)
  fired : Bool
  ledger : Ledger
  read : Nat

namespace Produced

def after (a : Asset) (p : Produced) : Produced :=
  { p with queue := .ok a :: p.queue, read := p.read + 1 }

end Produced

/-- Hands over the items of a listing; `count` assets have been handed over already.  `kept` says
whether the queue still has a receiver. -/
def produceFrom (request : Request) (kept fired : Bool) : List Item → Nat → Produced
  | items, count =>
    if fired then ⟨.error .cancelled, [], true, [], 0⟩
    else
      match items with
      | [] => ⟨.ok count, [], false, [(.assetsListed request.facet, count)], 0⟩
      | .asset a fires :: rest =>
        if fires then ⟨.error .cancelled, [], true, [], 1⟩
        else if kept then (produceFrom request kept fired rest (count + 1)).after a
        else ⟨.ok count, [], false, [(.assetsListed request.facet, count)], 1⟩
      | .failure .cancelled :: _ => ⟨.error .cancelled, [], false, [], 1⟩
      | .failure e :: _ =>
        let broken := Failure.listing request e
        ⟨.error broken, if kept then [.error broken] else [], false,
          Ledger.one (.streamErrors request.facet e.label), 1⟩
      | .crash :: _ => ⟨.error .crashed, [], false, [], 1⟩

def produce (request : Request) (items : List Item) (kept fired : Bool) : Produced :=
  produceFrom request kept fired items 0

/-- The outcome of a pipeline whose stages are all done: cancelled if the run was, otherwise the first
failure. -/
def settle (fired : Bool) (results : List (Outcome Unit)) : Outcome Unit :=
  if fired then .error .cancelled
  else
    match results.find? fun r => match r with | .error _ => true | .ok _ => false with
    | some r => r
    | none => .ok ()

def Outcome.bare {α : Type} : Outcome α → Outcome Unit
  | .ok _ => .ok ()
  | .error e => .error e

/-- The assets in front of the first failure of a queue. -/
def received (queue : List (Outcome Asset)) : List Asset :=
  match queue with
  | .ok a :: rest => a :: received rest
  | _ => []

structure Collected where
  result : Outcome (List Asset)
  fired : Bool
  ledger : Ledger

def collect (request : Request) (items : List Item) (fired : Bool) : Collected :=
  let p := produce request items true fired
  let result := match settle p.fired [p.outcome.bare] with
    | .ok () => .ok (received p.queue)
    | .error e => .error e
  ⟨result, p.fired, p.ledger⟩

end CloudCensus
