import CloudCensus.Asset.Basic
import CloudCensus.Time.Rfc3339
import CloudCensus.Wire.Tree

/-!
The wire form of assets and accounts.

Empty options are left out when writing.  Reading knows its keys, wants only a name, and takes
`null` for an absent option.
-/

namespace CloudCensus

class PayloadTree (N : Type) extends WireTree N where
  payload? : N → Option Json

instance : PayloadTree Json where
  payload? := some

instance : PayloadTree Written where
  payload? := Written.value?

open WireTree

namespace Facet

/-- The facet with a label, written alone or as the one key of a record with nothing in it. -/
def ofJson? : Json → Option Facet
  | .text s => ofLabel? s
  | .record [(key, .null)] => ofLabel? key
  | _ => none
where
  ofLabel? (s : String) : Option Facet :=
    if s = Facet.resource.label then some .resource
    else if s = Facet.policy.label then some .policy
    else none

end Facet

namespace Resource

def keys : List String := ["version", "parent", "location", "data"]

def decode? {N : Type} [PayloadTree N] (node : N) : Option Resource := do
  let fields ← fields? keys node
  let version ← optional fields "version" text?
  let parent ← optional fields "parent" text?
  let location ← optional fields "location" text?
  let data ← defaulted fields "data" (fun n => (PayloadTree.payload? n).bind Json.record?) []
  return ⟨version, parent, location, data⟩

def encode (r : Resource) : Json :=
  Json.ofOptions [
    ("version", r.version.map .text), ("parent", r.parent.map .text),
    ("location", r.location.map .text), ("data", some (.record r.data))]

end Resource

namespace Asset

def keys : List String := ["name", "assetType", "ancestors", "resource", "iamPolicy", "updateTime"]

def decode? {N : Type} [PayloadTree N] (node : N) : Option Asset := do
  let fields ← fields? keys node
  let name ← required fields "name" text?
  let kind ← defaulted fields "assetType" text? ""
  let ancestors ← defaulted fields "ancestors" (listOf? text?) []
  let resource ← optional fields "resource" Resource.decode?
  let policy ← optional fields "iamPolicy" PayloadTree.payload?
  let updated ← optional fields "updateTime" (fun n => (text? n).bind Rfc3339.parse?)
  return ⟨name, kind, ancestors, resource, policy, updated⟩

def entries (a : Asset) : List (String × Option Json) := [
  ("name", some (.text a.name)), ("assetType", some (.text a.kind)),
  ("ancestors", some (Json.texts a.ancestors)), ("resource", a.resource.map Resource.encode),
  ("iamPolicy", a.policy), ("updateTime", a.updated.map fun t => .text (Rfc3339.render t))]

def encode (a : Asset) : Json := Json.ofOptions a.entries

def ofText? (text : String) : Option Asset := (Written.ofText? text).bind decode?

end Asset

namespace Account

def keys : List String := ["accountId", "accountName", "organisationId", "organizationName"]

def decode? {N : Type} [WireTree N] (node : N) : Option Account := do
  let fields ← fields? keys node
  let id ← defaulted fields "accountId" text? ""
  let name ← defaulted fields "accountName" text? ""
  let organization ← defaulted fields "organisationId" text? ""
  let organizationName ← defaulted fields "organizationName" text? ""
  return ⟨id, name, organization, organizationName⟩

def encode (a : Account) : Json :=
  Json.ofEntries [
    ("accountId", .text a.id), ("accountName", .text a.name),
    ("organisationId", .text a.organization), ("organizationName", .text a.organizationName)]

end Account

namespace Placed

def encode (p : Placed) : Json :=
  Json.ofOptions (p.asset.entries ++ [("cloudAccount", some p.account.encode)])

end Placed

end CloudCensus
