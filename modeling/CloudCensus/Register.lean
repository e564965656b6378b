import CloudCensus.Hierarchy

namespace CloudCensus

structure Register where
  projects : List (String × String)
  organizations : List (String × String)
  deniesProjects : Bool
  deniesOrganizations : Bool
  cancelsOn : Option String

namespace Register

def table (r : Register) : Level → List (String × String)
  | .project => r.projects
  | .organization => r.organizations

def denies (r : Register) : Level → Bool
  | .project => r.deniesProjects
  | .organization => r.deniesOrganizations

/-- A cancelled look-up is cut short; a denied one fails even for a known name. -/
def answer (r : Register) (level : Level) (name : String) (fired : Bool) : Outcome String :=
  if fired then .error .cancelled
  else if r.denies level then .error (.because .permissionDenied (.stated ("Lookup of " ++ name ++ " denied")))
  else
    match (r.table level).lookup name with
    | some display => .ok display
    | none => .error (.because .notFound (.stated name))

def directory (r : Register) : Directory := fun level name fired =>
  let fires := r.cancelsOn = some name
  ⟨r.answer level name (fired || fires), fires⟩

end Register
end CloudCensus
