import CloudCensus.Json.Value
import CloudCensus.Time.Instant

/-!
Assets and the accounts they belong to.

A listing observes an asset with at most one of its two facets, the resource or the access policy.
Observations of one name are absorbed into one another until both facets are there.
-/

namespace CloudCensus

inductive Facet where
  | resource
  | policy
  deriving DecidableEq, Repr, Inhabited

namespace Facet

def label : Facet → String
  | resource => "RESOURCE"
  | policy => "IAM_POLICY"

def other : Facet → Facet
  | resource => policy
  | policy => resource

end Facet

structure Resource where
  version : Option String
  parent : Option String
  location : Option String
  data : Members Json
  deriving Repr, Inhabited

namespace Resource

def empty : Resource := ⟨none, none, none, []⟩

end Resource

structure Asset where
  name : String
  kind : String
  /-- The containing scopes, the nearest first. -/
  ancestors : List String
  resource : Option Resource
  policy : Option Json
  updated : Option Instant
  deriving Repr, Inhabited

namespace Asset

def has (a : Asset) : Facet → Bool
  | .resource => a.resource.isSome
  | .policy => a.policy.isSome

/-- The observation of a later report of the same asset: its facets replace those there, and type,
ancestors and time only fill in or move forward. -/
def absorb (a b : Asset) : Asset where
  name := a.name
  kind := if a.kind.isEmpty then b.kind else a.kind
  ancestors := if a.ancestors.isEmpty then b.ancestors else a.ancestors
  resource := b.resource.or a.resource
  policy := b.policy.or a.policy
  updated := Instant.latest a.updated b.updated

end Asset

/-- The project and organization of an asset; a name that could not be found is empty. -/
structure Account where
  id : String
  name : String
  organization : String
  organizationName : String
  deriving DecidableEq, Repr, Inhabited

namespace Account

def empty : Account := ⟨"", "", "", ""⟩

end Account

structure Placed where
  asset : Asset
  account : Account
  deriving Repr, Inhabited

namespace Placed

def field? (p : Placed) (key : String) : Option Json :=
  p.asset.resource.bind fun r => Members.get? key r.data

/-- Sets a field of the resource payload; an asset without a resource gets an empty one first. -/
def setField (p : Placed) (key : String) (value : Json) : Placed :=
  let r := p.asset.resource.getD Resource.empty
  let r := { r with data := Members.insert key value r.data }
  { p with asset := { p.asset with resource := some r } }

end Placed

end CloudCensus
