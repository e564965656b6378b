import CloudCensus.Failure
import CloudCensus.Merge.Pool

/-!
The merger of the resource listing and the policy listing of one query.

It is fed one event at a time and ends at the first failure, cancellation, close of the second side,
or emission that nobody receives any more.  Whatever is still pending then is discarded.
-/

namespace CloudCensus

structure Merger where
  pool : Pool
  outputKept : Bool
  result : Option (Outcome Unit)

namespace Merger

def start : Merger := ⟨.empty, true, none⟩

inductive Event where
  | observe (side : Facet) (a : Asset)
  | fail (side : Facet) (e : Failure)
  | close (side : Facet)
  | cancel
  | dropOutput

structure Reply where
  /-- Whether what was sent was taken, for an event that sends something. -/
  delivered : Option Bool
  emitted : List Asset

def quiet : Reply := ⟨none, []⟩

def ended (m : Merger) : Bool := m.result.isSome

def emit (m : Merger) (out : List Asset) (pool : Pool) : List Asset × Merger :=
  if !out.isEmpty && !m.outputKept then ([], { m with pool := pool, result := some (.ok ()) })
  else (out, { m with pool := pool, result := if pool.bothClosed then some (.ok ()) else none })

def step (m : Merger) : Event → Reply × Merger
  | .observe side a =>
    if m.ended || m.pool.isClosed side then (⟨some false, []⟩, m)
    else
      let (out, pool) := m.pool.observe a
      let (out, m) := m.emit out pool
      (⟨some true, out⟩, m)
  | .fail side e =>
    if m.ended || m.pool.isClosed side then (⟨some false, []⟩, m)
    else (⟨some true, []⟩, { m with result := some (.error e) })
  | .close side =>
    if m.ended || m.pool.isClosed side then (quiet, m)
    else
      let (out, pool) := m.pool.close side
      let (out, m) := m.emit out pool
      (⟨none, out⟩, m)
  | .cancel => (quiet, if m.ended then m else { m with result := some (.error .cancelled) })
  | .dropOutput => (quiet, { m with outputKept := false })

def run (m : Merger) : List Event → List Reply × Merger
  | [] => ([], m)
  | e :: rest =>
    let (reply, m) := m.step e
    let (replies, m) := run m rest
    (reply :: replies, m)

def emissions (m : Merger) (events : List Event) : List Asset :=
  (m.run events).1.flatMap (·.emitted)

end Merger
end CloudCensus
