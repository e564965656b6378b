import CloudCensus.Memo
import CloudCensus.Scope
import CloudCensus.Steps

/-!
The accounts of ancestor chains.

A chain lists the scopes that contain an asset, the nearest first.  Its account has the identifiers
of its project and organization and their display names, which a directory looks up.  Accounts are
remembered by the pair of identifiers, but not when a cancellation may have cut a look-up short.
-/

namespace CloudCensus

/-- The project that a chain begins with, or the empty text. -/
def projectId (chain : List String) : String :=
  ((chain.head?.bind (afterLead? "projects/")).getD "")

/-- The organization that a chain ends with, or the empty text. -/
def organizationId (chain : List String) : String :=
  ((chain.getLast?.bind (afterLead? "organizations/")).getD "")

structure LookUp where
  answer : Outcome String
  fires : Bool

/-- Answers look-ups of resource names; the last argument says whether the run is cancelled. -/
abbrev Directory := Level → String → Bool → LookUp

structure Accounts where
  memo : Memo Account
  fired : Bool
  ledger : Ledger
  lookUps : List (Level × String)

namespace Accounts

def start : Accounts := ⟨.empty "account_metadata", false, [], []⟩

def resourceName : Level → String → String
  | .project, id => "projects/" ++ id
  | .organization, id => "organizations/" ++ id

/-- Looks up a display name; a failure is counted and leaves the name empty. -/
def displayName (directory : Directory) (level : Level) (id : String) (s : Accounts) : String × Accounts :=
  let name := resourceName level id
  let found := directory level name s.fired
  let s := { s with fired := s.fired || found.fires, lookUps := s.lookUps ++ [(level, name)] }
  match found.answer with
  | .ok text => (text, s)
  | .error _ => ("", { s with ledger := s.ledger ++ Ledger.one (.lookupFailures level) })

/-- Looks up both names of a pair of identifiers, the organization first and only within an
organization's scope.  Where the run is cancelled the account is an error, so that it is not kept. -/
def lookUp (scope : Scope) (directory : Directory) (project organization : String) (s : Accounts) :
    Except Account Account × Accounts :=
  let (organizationName, s) :=
    if scope.isOrganization && !organization.isEmpty then displayName directory .organization organization s
    else ("", s)
  let (name, s) := if project.isEmpty then ("", s) else displayName directory .project project s
  let account : Account := ⟨project, name, organization, organizationName⟩
  (if s.fired then .error account else .ok account, s)

def memoKey (project organization : String) : String := project ++ "/" ++ organization

def resolve (scope : Scope) (directory : Directory) (chain : List String) (s : Accounts) : Account × Accounts :=
  let project := projectId chain
  let organization := organizationId chain
  let key := memoKey project organization
  let s := { s with ledger := s.ledger ++ s.memo.tally key }
  let r := s.memo.getOrCompute key (lookUp scope directory project organization) s
  let account := match r.value with
    | .ok a => a
    | .error a => a
  (account, { r.state with memo := r.memo })

/-- The account of a chain without any memory, for a run that is not cancelled. -/
def direct (scope : Scope) (directory : Directory) (chain : List String) : Account :=
  let named (level : Level) (id : String) : String :=
    match (directory level (resourceName level id) false).answer with
    | .ok text => text
    | .error _ => ""
  let project := projectId chain
  let organization := organizationId chain
  { id := project
    name := if project.isEmpty then "" else named .project project
    organization := organization
    organizationName :=
      if scope.isOrganization && !organization.isEmpty then named .organization organization else "" }

def clear (s : Accounts) : Accounts := { s with memo := s.memo.clear }

def resume (memo : Memo Account) (cancelled : Bool) : Accounts := ⟨memo, cancelled, [], []⟩

inductive Call where
  /-- Asks for the account of a chain, in a run that is cancelled from the start or not and finds the
  directory as it answers then. -/
  | resolve (directory : Directory) (chain : List String) (cancelled : Bool)
  | clear

structure Reply where
  account : Option Account
  fired : Bool
  lookUps : List (Level × String)
  ledger : Ledger

def step (scope : Scope) (memo : Memo Account) : Call → Reply × Memo Account
  | .resolve directory chain cancelled =>
    let (account, s) := resolve scope directory chain (resume memo cancelled)
    (⟨some account, s.fired, s.lookUps, s.ledger⟩, s.memo)
  | .clear =>
    let s := clear (resume memo false)
    (⟨none, s.fired, s.lookUps, s.ledger⟩, s.memo)

def run (scope : Scope) (memo : Memo Account) (calls : List Call) : List Reply × Memo Account :=
  Steps.run (step scope) memo calls

end Accounts
end CloudCensus
