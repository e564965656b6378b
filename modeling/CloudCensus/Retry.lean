import CloudCensus.Failure
import CloudCensus.Ledger
import CloudCensus.Time.Duration

/-!
Repeating a call that fails for a passing reason.

The pause grows by a constant factor from attempt to attempt up to a limit.  A run ends at the first
success, at the first failure that is not passing, or when the attempts are used up; between attempts
it can be cancelled.
-/

namespace CloudCensus

structure RetryPolicy where
  initial : Duration
  longest : Duration
  multiplier : Binary64
  /-- All attempts, the first one included; none counts as one. -/
  attempts : Nat
  deriving DecidableEq, Repr, Inhabited

namespace RetryPolicy

def standard : RetryPolicy :=
  ⟨.ofSeconds 1, .ofSeconds 60, .ofDecimal false 12 (-1), 10⟩

def once : RetryPolicy := { standard with attempts := 1 }

def greatestPower : Nat := twoTo 31 - 1

/-- The pause after the failed attempt with the index `attempt`, counted from zero. -/
def backoff (p : RetryPolicy) (attempt : Nat) : Duration :=
  let length := p.initial.seconds.mul (p.multiplier.power (min attempt greatestPower))
  if !length.isFinite || p.longest.seconds.le length then p.longest
  else if length.le (.zero false) then .zero
  else .nearest length

def ceiling (p : RetryPolicy) : Nat := max 1 p.attempts

/-- The pause before the next attempt, or `none` if the failure is final. -/
def pauseAfter (p : RetryPolicy) (e : Failure) (attempt : Nat) : Option Duration :=
  if e.isTransient && attempt + 1 < p.ceiling then some (p.backoff attempt) else none

/-- A call that can be repeated.  Calls are counted from one. -/
structure Caller (σ α : Type) where
  call : Nat → σ → Outcome α × σ
  wait : Nat → σ → σ
  fired : σ → Bool

structure Run (σ α : Type) where
  result : Outcome α
  state : σ
  calls : Nat
  /-- The pauses that were begun. -/
  retries : Nat
  /-- The pauses that came to their end. -/
  pauses : List Duration

/-- Makes call number `n` and those after it; `more` bounds how many calls may follow. -/
def runFrom {σ α : Type} (p : RetryPolicy) (c : Caller σ α) : Nat → Nat → σ → Run σ α
  | more, n, s =>
    if c.fired s then ⟨.error .cancelled, s, 0, 0, []⟩
    else
      match c.call n s with
      | (.ok v, s) => ⟨.ok v, s, 1, 0, []⟩
      | (.error e, s) =>
        match p.pauseAfter e (n - 1), more with
        | none, _ => ⟨.error e, s, 1, 0, []⟩
        | some _, 0 => ⟨.error e, s, 1, 0, []⟩
        | some pause, more + 1 =>
          if c.fired s then ⟨.error .cancelled, s, 1, 1, []⟩
          else
            let s := c.wait n s
            if c.fired s then ⟨.error .cancelled, s, 1, 1, []⟩
            else
              let r := runFrom p c more (n + 1) s
              ⟨r.result, r.state, r.calls + 1, r.retries + 1, pause :: r.pauses⟩

def run {σ α : Type} (p : RetryPolicy) (c : Caller σ α) (s : σ) : Run σ α :=
  runFrom p c (p.ceiling - 1) 1 s

inductive Firing where
  | never
  | beforeRun
  | inCall (n : Nat)
  | inPause (n : Nat)
  deriving DecidableEq, Repr

/-- The caller whose call number `n` answers `script n`; the state says whether it is cancelled. -/
def scripted {α : Type} (script : Nat → Outcome α) (firing : Firing) : Caller Bool α where
  call n s := (script n, s || firing = .inCall n)
  wait n s := s || firing = .inPause n
  fired s := s

def runScript {α : Type} (p : RetryPolicy) (script : Nat → Outcome α) (firing : Firing) : Run Bool α :=
  p.run (scripted script firing) (firing = .beforeRun)

def Run.ledger {σ α : Type} (r : Run σ α) (method : String) : Ledger := [(.retries method, r.retries)]

/-- The time a run spends in pauses on a clock of whole milliseconds. -/
def Run.elapsedMillis {σ α : Type} (r : Run σ α) : Nat := total (r.pauses.map Duration.ceilMillis)

end RetryPolicy
end CloudCensus
