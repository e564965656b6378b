import CloudCensus.Config.Basic
import CloudCensus.Json.Value
import CloudCensus.Wire.Tree

/-!
Configurations as trees of a notation, and written as JSON.

Missing sections and values take their defaults; unknown keys are ignored.  The access token is never
written.
-/

namespace CloudCensus

open WireTree

namespace MonitoringKinds

def keys : List String := ["log_metrics", "alerts"]

def decode? {N : Type} [WireTree N] (node : N) : Option MonitoringKinds := do
  let fields ← fields? keys node
  let logMetrics ← defaulted fields "log_metrics" (listOf? text?) standard.logMetrics
  let alerts ← defaulted fields "alerts" (listOf? text?) standard.alerts
  return ⟨logMetrics, alerts⟩

def encode (m : MonitoringKinds) : Json :=
  Json.ofEntries [("log_metrics", Json.texts m.logMetrics), ("alerts", Json.texts m.alerts)]

end MonitoringKinds

namespace QuotaEntry

def keys : List String := ["requests", "period_secs", "burst"]

def decode? {N : Type} [WireTree N] (node : N) : Option QuotaEntry := do
  let fields ← fields? keys node
  let requests ← required fields "requests" (word? 32)
  let periodSeconds ← required fields "period_secs" (word? 64)
  let burst ← defaulted fields "burst" (word? 32) 1
  return ⟨requests, periodSeconds, burst⟩

/-- The quotas by method; of two entries for one method the later counts. -/
def decodeTable? {N : Type} [WireTree N] (node : N) : Option (List (String × QuotaEntry)) := do
  let entries ← (← entries? node).mapM fun (method, n) => (decode? n).map (method, ·)
  return Members.ofEntries entries

def encode (q : QuotaEntry) : Json :=
  Json.ofEntries [
    ("requests", .natural q.requests), ("period_secs", .natural q.periodSeconds),
    ("burst", .natural q.burst)]

end QuotaEntry

namespace RetryEntry

def keys : List String := ["initial_backoff_ms", "max_backoff_ms", "multiplier", "max_attempts"]

def decode? {N : Type} [WireTree N] (node : N) : Option RetryEntry := do
  let fields ← fields? keys node
  let initialMillis ← defaulted fields "initial_backoff_ms" (word? 64) standard.initialMillis
  let longestMillis ← defaulted fields "max_backoff_ms" (word? 64) standard.longestMillis
  let multiplier ← defaulted fields "multiplier" real? standard.multiplier
  let attempts ← defaulted fields "max_attempts" (word? 32) standard.attempts
  return ⟨initialMillis, longestMillis, multiplier, attempts⟩

/-- A multiplier that is no number of JSON is written as `null`. -/
def encode (r : RetryEntry) : Json :=
  Json.ofEntries [
    ("initial_backoff_ms", .natural r.initialMillis), ("max_backoff_ms", .natural r.longestMillis),
    ("multiplier", if r.multiplier.isFinite then .real r.multiplier else .null),
    ("max_attempts", .natural r.attempts)]

end RetryEntry

namespace Endpoints

def keys : List String := ["asset_api", "resource_manager_api", "timeout_secs"]

def decode? {N : Type} [WireTree N] (node : N) : Option Endpoints := do
  let fields ← fields? keys node
  let assets ← defaulted fields "asset_api" text? standard.assets
  let resourceManager ← defaulted fields "resource_manager_api" text? standard.resourceManager
  let timeoutSeconds ← defaulted fields "timeout_secs" (word? 64) standard.timeoutSeconds
  return ⟨assets, resourceManager, timeoutSeconds⟩

def encode (e : Endpoints) : Json :=
  Json.ofEntries [
    ("asset_api", .text e.assets), ("resource_manager_api", .text e.resourceManager),
    ("timeout_secs", .natural e.timeoutSeconds)]

end Endpoints

namespace Config

def keys : List String :=
  ["scope", "asset_types", "project_asset_types", "monitoring", "quotas", "retry", "channel_capacity",
    "endpoints", "access_token"]

def decodeScope? {N : Type} [WireTree N] (node : N) : Option Scope :=
  (text? node).bind fun s => (Scope.parse s).toOption

def decode? {N : Type} [WireTree N] (node : N) : Option Config := do
  let fields ← fields? keys node
  let scope ← required fields "scope" decodeScope?
  let base := ofScope scope
  let kinds ← defaulted fields "asset_types" (listOf? text?) base.kinds
  let projectKinds ← defaulted fields "project_asset_types" (listOf? text?) base.projectKinds
  let monitoring ← defaulted fields "monitoring" MonitoringKinds.decode? base.monitoring
  let quotas ← defaulted fields "quotas" QuotaEntry.decodeTable? base.quotas
  let retry ← defaulted fields "retry" RetryEntry.decode? base.retry
  let capacity ← defaulted fields "channel_capacity" (word? 64) base.capacity
  let endpoints ← defaulted fields "endpoints" Endpoints.decode? base.endpoints
  let token ← optional fields "access_token" text?
  return ⟨scope, kinds, projectKinds, monitoring, quotas, retry, capacity, endpoints, token⟩

def encode (c : Config) : Json :=
  Json.ofEntries [
    ("scope", .text c.scope.render), ("asset_types", Json.texts c.kinds),
    ("project_asset_types", Json.texts c.projectKinds), ("monitoring", c.monitoring.encode),
    ("quotas", Json.ofEntries (c.quotas.map fun (method, q) => (method, q.encode))),
    ("retry", c.retry.encode), ("channel_capacity", .natural c.capacity),
    ("endpoints", c.endpoints.encode)]

end Config
end CloudCensus
