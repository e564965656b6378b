import CloudCensus.Asset.Basic
import CloudCensus.Number.Natural

namespace CloudCensus

inductive Level where
  | project
  | organization
  deriving DecidableEq, Repr, Inhabited

def Level.label : Level → String
  | .project => "project"
  | .organization => "organization"

inductive Counter where
  | assetsListed (facet : Facet)
  | streamErrors (facet : Facet) (kind : String)
  | retries (method : String)
  | limiterWaits (method : String)
  | memoHits (cache : String)
  | memoMisses (cache : String)
  | lookupFailures (level : Level)
  deriving DecidableEq, Repr, Inhabited

namespace Counter

def name : Counter → String
  | assetsListed _ => "pw_inventory_assets_listed_total"
  | streamErrors _ _ => "pw_inventory_stream_errors_total"
  | retries _ => "pw_inventory_retries_total"
  | limiterWaits _ => "pw_inventory_rate_limiter_waits_total"
  | memoHits _ => "pw_inventory_memo_hits_total"
  | memoMisses _ => "pw_inventory_memo_misses_total"
  | lookupFailures _ => "pw_inventory_lookup_failures_total"

def labels : Counter → List (String × String)
  | assetsListed f => [("content_type", f.label)]
  | streamErrors f kind => [("content_type", f.label), ("kind", kind)]
  | retries m => [("method", m)]
  | limiterWaits m => [("method", m)]
  | memoHits c => [("cache", c)]
  | memoMisses c => [("cache", c)]
  | lookupFailures l => [("lookup", l.label)]

def render (c : Counter) : String :=
  c.name ++ "\x7b" ++ ",".intercalate (c.labels.map fun (k, v) => k ++ "=" ++ v) ++ "\x7d"

end Counter

/-- Increments in the order in which they were made. -/
abbrev Ledger := List (Counter × Nat)

namespace Ledger

def one (c : Counter) : Ledger := [(c, 1)]

def count (l : Ledger) (c : Counter) : Nat :=
  total (l.map fun (d, n) => if d = c then n else 0)

def totals (l : Ledger) : List (Counter × Nat) :=
  ((l.map (·.1)).eraseDups.map fun c => (c, l.count c)).filter fun (_, n) => 0 < n

end Ledger
end CloudCensus
