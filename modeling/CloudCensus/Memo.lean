import CloudCensus.Ledger

namespace CloudCensus

structure Memo (α : Type) where
  name : String
  entries : List (String × α)
  deriving Repr

namespace Memo

variable {α ε σ : Type}

def empty (name : String) : Memo α := ⟨name, []⟩

def find? (m : Memo α) (key : String) : Option α := List.lookup key m.entries

/-- The last value stored for a key counts. -/
def insert (m : Memo α) (key : String) (value : α) : Memo α :=
  { m with entries := (key, value) :: m.entries.filter (·.1 ≠ key) }

def clear (m : Memo α) : Memo α := { m with entries := [] }

def size (m : Memo α) : Nat := m.entries.length

def tally (m : Memo α) (key : String) : Ledger :=
  Ledger.one (if (m.find? key).isSome then .memoHits m.name else .memoMisses m.name)

structure Answer (ε σ α : Type) where
  value : Except ε α
  memo : Memo α
  state : σ
  ran : Bool

/-- The stored value, or the one that `compute` makes from the state and that is then stored. -/
def getOrCompute (m : Memo α) (key : String) (compute : σ → Except ε α × σ) (s : σ) : Answer ε σ α :=
  match m.find? key with
  | some v => ⟨.ok v, m, s, false⟩
  | none =>
    match compute s with
    | (.ok v, s) => ⟨.ok v, m.insert key v, s, true⟩
    | (.error e, s) => ⟨.error e, m, s, true⟩

inductive Step (ε α : Type) where
  | get (key : String)
  /-- Asks for a key whose computation would have the given result. -/
  | compute (key : String) (result : Except ε α)
  | clear
  deriving Repr

inductive Reply (ε α : Type) where
  | found (value : Option α)
  | computed (value : Except ε α) (ran : Bool)
  | cleared
  deriving Repr

def step (m : Memo α) : Step ε α → Reply ε α × Ledger × Memo α
  | .get key => (.found (m.find? key), m.tally key, m)
  | .compute key result =>
    let r := m.getOrCompute key (fun () => (result, ())) ()
    (.computed r.value r.ran, m.tally key, r.memo)
  | .clear => (.cleared, [], m.clear)

def run (m : Memo α) : List (Step ε α) → List (Reply ε α × Ledger) × Memo α
  | [] => ([], m)
  | s :: rest =>
    let (reply, ledger, m) := m.step s
    let (replies, m) := run m rest
    ((reply, ledger) :: replies, m)

end Memo
end CloudCensus
