import CloudCensus.Config.Basic
import CloudCensus.Number.Shortest

namespace CloudCensus

inductive ValueProblem where
  | noCapacity
  | noAttempts
  | badMultiplier (value : Binary64)
  | pausesOutOfOrder
  | noTimeout
  | badScope (e : Scope.ParseError)
  | stated (text : String)
  deriving DecidableEq, Repr

def ValueProblem.text : ValueProblem → String
  | .noCapacity => "channel_capacity must be > 0"
  | .noAttempts => "retry.max_attempts must be >= 1"
  | .badMultiplier x => "retry.multiplier must be >= 1.0, got " ++ x.plain
  | .pausesOutOfOrder => "retry.initial_backoff_ms must not exceed retry.max_backoff_ms"
  | .noTimeout => "endpoints.timeout_secs must be > 0"
  | .badScope e => e.failure.message.getD ""
  | .stated text => text

inductive ConfigError where
  | unreadable
  | malformed
  | badQuota (method : String) (problem : QuotaProblem)
  | badValue (problem : ValueProblem)
  deriving DecidableEq, Repr

namespace ConfigError

/-- The message, where all of it is worded here. -/
def message : ConfigError → Option String
  | unreadable => none
  | malformed => none
  | badQuota method problem => some ("Invalid quota for method '" ++ method ++ "': " ++ problem.text)
  | badValue problem => some ("Invalid configuration value: " ++ problem.text)

def failure (e : ConfigError) : Failure :=
  .because .badConfiguration (match e.message with
    | some text => .stated text
    | none => .foreign)

end ConfigError

namespace Config

def valueProblem? (c : Config) : Option ValueProblem :=
  if c.capacity = 0 then some .noCapacity
  else if c.retry.attempts = 0 then some .noAttempts
  else if !c.retry.multiplier.isFinite || c.retry.multiplier.lt .one then
    some (.badMultiplier c.retry.multiplier)
  else if c.retry.longestMillis < c.retry.initialMillis then some .pausesOutOfOrder
  else if c.endpoints.timeoutSeconds = 0 then some .noTimeout
  else none

/-- Checks the values, then whether every quota can be kept. -/
def check (c : Config) : Except ConfigError Unit :=
  match c.valueProblem? with
  | some problem => .error (.badValue problem)
  | none =>
    match c.limiter with
    | .ok _ => .ok ()
    | .error (method, problem) => .error (.badQuota method problem)

end Config
end CloudCensus
