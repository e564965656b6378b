import CloudCensus.Number.Binary64

/-!
JSON values.

The members of a record are kept in increasing order of their keys, each key once, so that two
records with the same members are the same value.
-/

namespace CloudCensus

abbrev Members (α : Type) := List (String × α)

namespace Members

variable {α : Type}

def get? (key : String) (ms : Members α) : Option α := List.lookup key ms

def insert (key : String) (value : α) : Members α → Members α
  | [] => [(key, value)]
  | (k, v) :: rest =>
    if key = k then (key, value) :: rest
    else if key < k then (key, value) :: (k, v) :: rest
    else (k, v) :: insert key value rest

/-- The sorted members of a list of entries; of entries with one key the last counts. -/
def ofEntries (entries : List (String × α)) : Members α :=
  entries.foldl (fun ms e => insert e.1 e.2 ms) []

end Members

inductive Json where
  | null
  | bool (value : Bool)
  | integer (value : Int)
  | real (value : Binary64)
  | text (value : String)
  | list (elements : List Json)
  | record (members : List (String × Json))
  deriving Repr, Inhabited

namespace Json

/-- A record with the given entries, of which `none` leaves its key out. -/
def ofOptions (entries : List (String × Option Json)) : Json :=
  .record (Members.ofEntries (entries.filterMap fun e => e.2.map (e.1, ·)))

def ofEntries (entries : List (String × Json)) : Json := .record (Members.ofEntries entries)

def natural (n : Nat) : Json := .integer n

def texts (ss : List String) : Json := .list (ss.map .text)

end Json
end CloudCensus
