import CloudCensus.Asset.Kind
import CloudCensus.Hierarchy
import CloudCensus.Listing.Produce

/-!
The policies of the folders and organizations that contain a project.

The policies of an ancestor are listed once and remembered.  An ancestor whose listing fails adds
nothing and is listed anew the next time; a list cut short by a cancellation is never remembered.
-/

namespace CloudCensus

structure Sources where
  scope : Scope
  directory : Directory
  inventory : Inventory

structure Walk where
  accounts : Accounts
  memo : Memo (List Placed)
  requests : List Request

namespace Walk

def start : Walk := ⟨.start, .empty "ancestor_policies", []⟩

def fired (w : Walk) : Bool := w.accounts.fired

def ledger (w : Walk) : Ledger := w.accounts.ledger

/-- The walk of a call that is cancelled from the start or not, with its counters at zero. -/
def begin (w : Walk) (cancelled : Bool) : Walk :=
  { w with accounts := { w.accounts with fired := cancelled, ledger := [] } }

def noting (w : Walk) (requests : List Request) (fired : Bool) (ledger : Ledger) : Walk :=
  { w with
    accounts := { w.accounts with fired := fired, ledger := w.accounts.ledger ++ ledger }
    requests := w.requests ++ requests }

def tally (w : Walk) (l : Ledger) : Walk :=
  { w with accounts := { w.accounts with ledger := w.accounts.ledger ++ l } }

def place (src : Sources) (w : Walk) (a : Asset) : Placed × Walk :=
  let (account, accounts) := Accounts.resolve src.scope src.directory a.ancestors w.accounts
  (⟨a, account⟩, { w with accounts := accounts })

def placeAll (src : Sources) (w : Walk) : List Asset → List Placed × Walk
  | [] => ([], w)
  | a :: rest =>
    let (p, w) := place src w a
    let (ps, w) := placeAll src w rest
    (p :: ps, w)

def kindOf? (ancestor : String) : Option String :=
  match cutAt '/' ancestor.toList with
  | some (kind, _) =>
    if kind = "folders".toList then some Kind.folder
    else if kind = "organizations".toList then some Kind.organization
    else none
  | none => none

def requestFor (ancestor kind : String) : Request := ⟨ancestor, [kind], .policy⟩

inductive Plan where
  | unsupported
  | known (policies : List Placed)
  | listing (ancestor : String) (produced : Produced)

def plan (src : Sources) (w : Walk) (ancestor : String) : Plan × Walk :=
  match kindOf? ancestor with
  | none => (.unsupported, w)
  | some kind =>
    let w := w.tally (w.memo.tally ancestor)
    match w.memo.find? ancestor with
    | some policies => (.known policies, w)
    | none =>
      let request := requestFor ancestor kind
      let p := produce request (src.inventory request) true w.fired
      (.listing ancestor p, w.noting [request] p.fired p.ledger)

def planAll (src : Sources) (w : Walk) : List String → List Plan × Walk
  | [] => ([], w)
  | a :: rest =>
    let (p, w) := plan src w a
    let (ps, w) := planAll src w rest
    (p :: ps, w)

/-- The policies of one ancestor.  A complete list is remembered unless the run is cancelled by then. -/
def carryOut (src : Sources) (w : Walk) : Plan → List Placed × Walk
  | .unsupported => ([], w)
  | .known policies => (policies, w)
  | .listing ancestor p =>
    match settle w.fired [p.outcome.bare] with
    | .error _ => ([], w)
    | .ok () =>
      let (policies, w) := placeAll src w (received p.queue)
      if w.fired then ([], w) else (policies, { w with memo := w.memo.insert ancestor policies })

def carryOutAll (src : Sources) (w : Walk) : List Plan → List Placed × Walk
  | [] => ([], w)
  | p :: rest =>
    let (here, w) := carryOut src w p
    let (there, w) := carryOutAll src w rest
    (here ++ there, w)

/-- The policies of some ancestors in their order.  The listings of all ancestors that are not known are
made before the first of them is used. -/
def policiesFor (src : Sources) (w : Walk) (ancestors : List String) : List Placed × Walk :=
  let (plans, w) := planAll src w ancestors
  carryOutAll src w plans

/-- Forgets the ancestors, but not the accounts. -/
def clearPolicies (w : Walk) : Walk := { w with memo := w.memo.clear }

def clear (w : Walk) : Walk := { w.clearPolicies with accounts := w.accounts.clear }

/-- The walk with which a run begins that finds both memos as others left them. -/
def resume (w : Walk) (cancelled : Bool) : Walk := ⟨.resume w.accounts.memo cancelled, w.memo, []⟩

inductive Call where
  /-- Asks for the policies of some ancestors, in a run that is cancelled from the start or not and
  finds the sources as they answer then. -/
  | visit (src : Sources) (ancestors : List String) (cancelled : Bool)
  | clearPolicies
  | clear

structure Reply where
  policies : List Placed
  fired : Bool
  requests : List Request
  lookUps : List (Level × String)
  ledger : Ledger

def reply (policies : List Placed) (w : Walk) : Reply :=
  ⟨policies, w.fired, w.requests, w.accounts.lookUps, w.ledger⟩

def step (w : Walk) : Call → Reply × Walk
  | .visit src ancestors cancelled =>
    let (policies, w) := policiesFor src (w.resume cancelled) ancestors
    (reply policies w, w)
  | .clearPolicies =>
    let w := (w.resume false).clearPolicies
    (reply [] w, w)
  | .clear =>
    let w := (w.resume false).clear
    (reply [] w, w)

def run (w : Walk) (calls : List Call) : List Reply × Walk := Steps.run step w calls

end Walk
end CloudCensus
