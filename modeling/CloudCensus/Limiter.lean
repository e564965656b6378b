import CloudCensus.Ledger
import CloudCensus.Time.Duration

/-!
Quotas of API methods, and the limiter that holds calls to them.

A method with a quota may be called a number of times back to back; each such call takes a permit.
The limiter here is looked at while no time passes, so no permit comes back.
-/

namespace CloudCensus

namespace Method

def listAssets : String := "/google.cloud.asset.v1.AssetService/ListAssets"
def getProject : String := "/google.cloud.resourcemanager.v3.Projects/GetProject"
def getOrganization : String := "/google.cloud.resourcemanager.v3.Organizations/GetOrganization"

end Method

/-- A number of requests per period, of which `burst` may be made back to back. -/
structure Quota where
  requests : Nat
  period : Duration
  burst : Nat
  deriving DecidableEq, Repr, Inhabited

inductive QuotaProblem where
  | noRequests
  | noBurst
  | noPeriod
  deriving DecidableEq, Repr

def QuotaProblem.text : QuotaProblem → String
  | .noRequests => "requests must be > 0"
  | .noBurst => "burst must be > 0"
  | .noPeriod => "period must be > 0"

namespace Quota

/-- The time after which a permit comes back; one without requests has none. -/
def interval (q : Quota) : Duration := ⟨q.period.nanos / q.requests⟩

def problem? (q : Quota) : Option QuotaProblem :=
  if q.requests = 0 then some .noRequests
  else if q.burst = 0 then some .noBurst
  else if q.interval.nanos = 0 then some .noPeriod
  else none

end Quota

structure Limiter where
  permits : List (String × Nat)
  deriving DecidableEq, Repr

namespace Limiter

def unlimited : Limiter := ⟨[]⟩

/-- The limiter of a quota table, or the first method whose quota cannot be kept. -/
def ofQuotas : List (String × Quota) → Except (String × QuotaProblem) Limiter
  | [] => .ok unlimited
  | (method, q) :: rest =>
    match q.problem? with
    | some problem => .error (method, problem)
    | none =>
      match ofQuotas rest with
      | .ok l => .ok ⟨(method, q.burst) :: l.permits⟩
      | .error e => .error e

def standard : Limiter := ⟨[(Method.listAssets, 1)]⟩

def isThrottled (l : Limiter) (method : String) : Bool := (List.lookup method l.permits).isSome

def take (l : Limiter) (method : String) : Limiter :=
  ⟨l.permits.map fun (m, n) => if m = method then (m, n - 1) else (m, n)⟩

inductive Wait where
  | ready
  | blocked
  deriving DecidableEq, Repr

structure Waited where
  answer : Wait
  limiter : Limiter
  ledger : Ledger

/-- Asks for a call to a method.  A permit that is there is taken even by a cancelled run; without one a
cancelled run goes ahead and any other has to wait.  A method without a quota is never held and not
counted. -/
def wait (l : Limiter) (method : String) (fired : Bool) : Waited :=
  match List.lookup method l.permits with
  | none => ⟨.ready, l, []⟩
  | some 0 => ⟨if fired then .ready else .blocked, l, Ledger.one (.limiterWaits method)⟩
  | some (_ + 1) => ⟨.ready, l.take method, Ledger.one (.limiterWaits method)⟩

def waits (l : Limiter) : List (String × Bool) → List Waited
  | [] => []
  | (method, fired) :: rest =>
    let w := l.wait method fired
    w :: waits w.limiter rest

end Limiter
end CloudCensus
