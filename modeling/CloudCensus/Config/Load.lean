import CloudCensus.Config.Check
import CloudCensus.Config.Codec
import CloudCensus.Text.Utf8
import CloudCensus.Yaml.Document

namespace CloudCensus

structure Overrides where
  scope : Option String
  token : Option String
  deriving DecidableEq, Repr

namespace Overrides

def scopeVariable : String := "PW_INVENTORY_SCOPE"

def tokenVariable : String := "PW_ACCESS_TOKEN"

/-- What the environment sets.  A variable whose value is not Unicode counts as absent. -/
def ofEnvironment (lookUp : String → Option String) : Overrides :=
  ⟨lookUp scopeVariable, lookUp tokenVariable⟩

end Overrides

namespace Config

def overrideScope (c : Config) : Option String → Except ConfigError Unit × Config
  | none => (.ok (), c)
  | some text =>
    match Scope.parse text with
    | .ok scope => (.ok (), { c with scope := scope })
    | .error e => (.error (.badValue (.badScope e)), c)

/-- Replaces the token by one that is not empty. -/
def overrideToken (c : Config) : Option String → Config
  | none => c
  | some token => if token.isEmpty then c else { c with token := some token }

/-- Replaces the scope in place and then the token, unless the scope is refused. -/
def override (c : Config) (o : Overrides) : Except ConfigError Unit × Config :=
  match c.overrideScope o.scope with
  | (.ok (), c) => (.ok (), c.overrideToken o.token)
  | (.error e, c) => (.error e, c)

def overriddenBy (c : Config) (o : Overrides) : Except ConfigError Config :=
  match c.override o with
  | (.ok (), later) => .ok later
  | (.error e, _) => .error e

def parse (text : String) : Except ConfigError Config :=
  match (Yaml.Place.ofText? text).bind decode? with
  | some c => .ok c
  | none => .error .malformed

def checked (c : Config) : Except ConfigError Config := do
  c.check
  return c

def ofText (text : String) : Except ConfigError Config := do (← parse text).checked

def resolved (c : Config) (o : Overrides) : Except ConfigError Config := do
  (← c.overriddenBy o).checked

/-- The configuration in a file; `none` stands for a file that is not there. -/
def ofFile (bytes : Option (List Nat)) (o : Overrides) : Except ConfigError Config := do
  let text ← match bytes.bind Utf8.text? with
    | some text => .ok text
    | none => .error .unreadable
  (← parse text).resolved o

end Config
end CloudCensus
