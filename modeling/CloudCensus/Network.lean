import CloudCensus.Asset.Basic
import CloudCensus.Text.Cut
import CloudCensus.Wire.Tree

/-!
Networks and the DNS policies attached to them.

A policy names its networks by URL.  A network gets the logging flag of the first policy with a URL
that ends in the network's identifier.
-/

namespace CloudCensus

structure DnsPolicy where
  networks : List String
  logging : Bool
  deriving DecidableEq, Repr, Inhabited

namespace DnsPolicy

def url? : Json → Option String
  | .record ms => (Members.get? "networkUrl" ms).bind Json.text?
  | _ => none

/-- What is malformed or missing counts as no network and no logging. -/
def ofAsset (a : Asset) : DnsPolicy :=
  let data := (a.resource.map (·.data)).getD []
  { networks := (((Members.get? "networks" data).bind Json.list?).getD []).filterMap url?
    logging := ((Members.get? "enableLogging" data).bind Json.bool?).getD false }

def attaches (p : DnsPolicy) (network : String) : Bool := p.networks.any (endsIn network)

def indexFor? (policies : List DnsPolicy) (network : String) : Option Nat :=
  policies.findIdx? (·.attaches network)

def findFor? (policies : List DnsPolicy) (network : String) : Option DnsPolicy :=
  policies.find? (·.attaches network)

end DnsPolicy

/-- The asset name without the service it begins with. -/
def networkId (name : String) : String :=
  (afterLead? "//compute.googleapis.com" name).getD name

def dnsLoggingField : String := "enabledDnsLogging"

def annotateNetworks (networks : List Placed) (policies : List DnsPolicy) : List Placed :=
  networks.map fun n =>
    match DnsPolicy.findFor? policies (networkId n.asset.name) with
    | some p => n.setField dnsLoggingField (.bool p.logging)
    | none => n

end CloudCensus
