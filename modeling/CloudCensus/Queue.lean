namespace CloudCensus

structure Queue (α : Type) where
  capacity : Nat
  items : List α
  fired : Bool
  senderGone : Bool
  receiverGone : Bool
  deriving Repr

namespace Queue

variable {α : Type}

/-- An empty queue holds at least one value. -/
def empty (capacity : Nat) : Queue α := ⟨max 1 capacity, [], false, false, false⟩

inductive Step (α : Type) where
  | send (value : α)
  | receive
  | cancel
  | dropSender
  | dropReceiver
  deriving Repr

inductive Answer (α : Type) where
  | sent (accepted : Bool)
  /-- The value received, or `none` at the end. -/
  | received (value : Option α)
  /-- The step would have to wait and is given up. -/
  | blocked
  | closed
  | done
  deriving Repr

/-- Cancellation comes first at either end; then a missing partner; then the bounds. -/
def step (q : Queue α) : Step α → Answer α × Queue α
  | .send v =>
    if q.senderGone then (.closed, q)
    else if q.fired || q.receiverGone then (.sent false, q)
    else if q.items.length < q.capacity then (.sent true, { q with items := q.items ++ [v] })
    else (.blocked, q)
  | .receive =>
    if q.receiverGone then (.closed, q)
    else if q.fired then (.received none, q)
    else
      match q.items with
      | v :: rest => (.received (some v), { q with items := rest })
      | [] => if q.senderGone then (.received none, q) else (.blocked, q)
  | .cancel => (.done, { q with fired := true })
  | .dropSender => (.done, { q with senderGone := true })
  | .dropReceiver => (.done, { q with receiverGone := true, items := [] })

def run (q : Queue α) : List (Step α) → List (Answer α) × Queue α
  | [] => ([], q)
  | s :: rest =>
    let (a, q) := step q s
    let (as, q) := run q rest
    (a :: as, q)

end Queue
end CloudCensus
