import CloudCensus.Config.Basic
import CloudCensus.Number.Shortest

/-!
Texts that show a configuration or a client for diagnosis.

An access token is never shown: only whether there is one.
-/

namespace CloudCensus.Describe

def record (name : String) (fields : List (String × String)) : String :=
  name ++ " \x7b " ++ ", ".intercalate (fields.map fun (k, v) => k ++ ": " ++ v) ++ " \x7d"

def table (entries : List (String × String)) : String :=
  "\x7b" ++ ", ".intercalate (entries.map fun (k, v) => quoted k ++ ": " ++ v) ++ "\x7d"

def optional : Option String → String
  | none => "None"
  | some text => "Some(" ++ text ++ ")"

def hidden : String := "[REDACTED]"

def token (t : Option String) : String := optional (t.map fun _ => "AccessToken(" ++ hidden ++ ")")

/-- A count of units with as many places as it needs; `width` places make a whole unit. -/
def amount (nanos width : Nat) (unit : String) : String :=
  let places := (List.replicate width '0' ++ Nat.toDigits 10 (nanos % tenTo width)).reverse.take width
  let places := (places.dropWhile (· = '0')).reverse
  toString (nanos / tenTo width) ++ (if places.isEmpty then "" else "." ++ String.ofList places) ++ unit

/-- A span in the greatest unit of which there is at least one. -/
def duration (d : Duration) : String :=
  if tenTo 9 ≤ d.nanos then amount d.nanos 9 "s"
  else if tenTo 6 ≤ d.nanos then amount d.nanos 6 "ms"
  else if tenTo 3 ≤ d.nanos then amount d.nanos 3 "µs"
  else amount d.nanos 0 "ns"

def monitoring (m : MonitoringKinds) : String :=
  record "MonitoringTypes" [("log_metrics", quotedList m.logMetrics), ("alerts", quotedList m.alerts)]

def quotaEntry (q : QuotaEntry) : String :=
  record "QuotaConfig" [
    ("requests", toString q.requests), ("period_secs", toString q.periodSeconds),
    ("burst", toString q.burst)]

def retryEntry (r : RetryEntry) : String :=
  record "RetryConfig" [
    ("initial_backoff_ms", toString r.initialMillis), ("max_backoff_ms", toString r.longestMillis),
    ("multiplier", r.multiplier.marked), ("max_attempts", toString r.attempts)]

def endpoints (e : Endpoints) : String :=
  record "EndpointsConfig" [
    ("asset_api", quoted e.assets), ("resource_manager_api", quoted e.resourceManager),
    ("timeout_secs", toString e.timeoutSeconds)]

def config (c : Config) : String :=
  record "InventoryConfig" [
    ("scope", c.scope.termText), ("asset_types", quotedList c.kinds),
    ("project_asset_types", quotedList c.projectKinds), ("monitoring", monitoring c.monitoring),
    ("quotas", table (c.quotas.map fun (method, q) => (method, quotaEntry q))),
    ("retry", retryEntry c.retry), ("channel_capacity", toString c.capacity),
    ("endpoints", endpoints c.endpoints), ("access_token", token c.token)]

def limiter (l : Limiter) : String :=
  record "MethodRateLimiter" [("methods", quotedList (l.permits.map (·.1)))]

def policy (p : RetryPolicy) : String :=
  record "RetryPolicy" [
    ("initial_backoff", duration p.initial), ("max_backoff", duration p.longest),
    ("multiplier", p.multiplier.marked), ("max_attempts", toString p.attempts)]

def client (l : Limiter) (p : RetryPolicy) (t : Option String) : String :=
  record "HttpClient" [
    ("limiter", limiter l), ("retry", policy p), ("token", optional (t.map fun _ => quoted hidden))]

/-- The census of a configuration; its queues hold at least one asset. -/
def provider (c : Config) : String :=
  record "Provider" [
    ("scope", c.scope.termText), ("asset_types", quotedList c.kinds),
    ("monitoring", monitoring c.monitoring), ("channel_capacity", toString (max 1 c.capacity))]

end CloudCensus.Describe
