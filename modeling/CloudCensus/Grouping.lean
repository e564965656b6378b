import CloudCensus.Asset.Basic

/-!
Assets grouped by project.

Assets without a project are shared: they stand at the end of every group and form none of their own.
-/

namespace CloudCensus

structure Group where
  account : Account
  assets : List Placed
  deriving Repr, Inhabited

namespace Group

def insertId (id : String) : List String → List String
  | [] => [id]
  | other :: rest =>
    if id = other then other :: rest
    else if id < other then id :: other :: rest
    else other :: insertId id rest

/-- The projects of a list of assets, each once, in increasing order. -/
def projectIds (assets : List Placed) : List String :=
  assets.foldl (fun ids a => if a.account.id.isEmpty then ids else insertId a.account.id ids) []

def own (id : String) (assets : List Placed) : List Placed := assets.filter (·.account.id = id)

def shared (assets : List Placed) : List Placed := assets.filter (·.account.id.isEmpty)

/-- One group per project; its account is that of the project's first asset. -/
def byProject (assets : List Placed) : List Group :=
  (projectIds assets).filterMap fun id =>
    match own id assets with
    | [] => none
    | first :: rest => some ⟨first.account, first :: rest ++ shared assets⟩

end Group
end CloudCensus
