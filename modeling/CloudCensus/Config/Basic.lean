import CloudCensus.Asset.Kind
import CloudCensus.Limiter
import CloudCensus.Retry
import CloudCensus.Scope

namespace CloudCensus

structure MonitoringKinds where
  logMetrics : List String
  alerts : List String
  deriving DecidableEq, Repr

def MonitoringKinds.standard : MonitoringKinds := ⟨[Kind.logMetric], [Kind.alertPolicy]⟩

structure QuotaEntry where
  requests : Nat
  periodSeconds : Nat
  burst : Nat
  deriving DecidableEq, Repr

def QuotaEntry.quota (q : QuotaEntry) : Quota := ⟨q.requests, .ofSeconds q.periodSeconds, q.burst⟩

structure RetryEntry where
  initialMillis : Nat
  longestMillis : Nat
  multiplier : Binary64
  attempts : Nat
  deriving DecidableEq, Repr

namespace RetryEntry

def standard : RetryEntry := ⟨1000, 60000, .ofDecimal false 12 (-1), 10⟩

def policy (r : RetryEntry) : RetryPolicy :=
  ⟨.ofMillis r.initialMillis, .ofMillis r.longestMillis, r.multiplier, r.attempts⟩

end RetryEntry

structure Endpoints where
  assets : String
  resourceManager : String
  timeoutSeconds : Nat
  deriving DecidableEq, Repr

namespace Endpoints

def standard : Endpoints :=
  ⟨"https://cloudasset.googleapis.com", "https://cloudresourcemanager.googleapis.com", 30⟩

def timeout (e : Endpoints) : Duration := .ofSeconds e.timeoutSeconds

end Endpoints

structure Config where
  scope : Scope
  /-- The types of a listing by type when the caller names none. -/
  kinds : List String
  /-- The types of a listing by project when the caller names none. -/
  projectKinds : List String
  monitoring : MonitoringKinds
  /-- The quotas by method, each method once. -/
  quotas : List (String × QuotaEntry)
  retry : RetryEntry
  capacity : Nat
  endpoints : Endpoints
  token : Option String
  deriving DecidableEq, Repr

namespace Config

def standardKinds : List String :=
  [Kind.instanceVm, Kind.firewall, Kind.network, Kind.bucket, Kind.serviceAccount,
    Kind.serviceAccountKey, Kind.cluster]

def standardProjectKinds : List String := [Kind.instanceVm, Kind.subnetwork, Kind.bucket]

def standardQuotas : List (String × QuotaEntry) := [(Method.listAssets, ⟨100, 60, 1⟩)]

def standardCapacity : Nat := 64

def ofScope (scope : Scope) : Config where
  scope := scope
  kinds := standardKinds
  projectKinds := standardProjectKinds
  monitoring := .standard
  quotas := standardQuotas
  retry := .standard
  capacity := standardCapacity
  endpoints := .standard
  token := none

def limiter (c : Config) : Except (String × QuotaProblem) Limiter :=
  Limiter.ofQuotas (c.quotas.map fun (method, q) => (method, q.quota))

end Config
end CloudCensus
