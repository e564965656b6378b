import CloudCensus.Failure
import CloudCensus.Text.Cut

namespace CloudCensus

inductive Scope where
  | project (id : String)
  | organization (id : String)
  deriving DecidableEq, Repr, Inhabited

namespace Scope

def id : Scope → String
  | project id => id
  | organization id => id

def isOrganization : Scope → Bool
  | project _ => false
  | organization _ => true

def render : Scope → String
  | project id => "projects/" ++ id
  | organization id => "organizations/" ++ id

def termText : Scope → String
  | project id => "Project(" ++ quoted id ++ ")"
  | organization id => "Organization(" ++ quoted id ++ ")"

inductive ParseError where
  | noSlash (text : String)
  | badIdentifier (text : String)
  | unknownKind (kind : String)
  deriving DecidableEq, Repr

namespace ParseError

def text : ParseError → String
  | noSlash s => "Invalid scope '" ++ s ++ "': expected projects/<id> or organizations/<id>"
  | badIdentifier s => "Invalid scope '" ++ s ++ "': identifier must be a single path segment"
  | unknownKind k => "Invalid scope kind '" ++ k ++ "': expected projects or organizations"

def failure (e : ParseError) : Failure := .because .badConfiguration (.stated e.text)

end ParseError

/-- Reads a resource name; a bad identifier is reported before an unknown kind. -/
def parse (text : String) : Except ParseError Scope :=
  match cutAt '/' text.toList with
  | none => .error (.noSlash text)
  | some (kind, id) =>
    if id.isEmpty || id.contains '/' then .error (.badIdentifier text)
    else if kind = "projects".toList then .ok (.project (String.ofList id))
    else if kind = "organizations".toList then .ok (.organization (String.ofList id))
    else .error (.unknownKind (String.ofList kind))

end Scope
end CloudCensus
