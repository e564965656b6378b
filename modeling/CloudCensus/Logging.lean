import CloudCensus.Text.Blank
import CloudCensus.Text.Digits

namespace CloudCensus.Logging

inductive Format where
  | pretty
  | compact
  | json
  deriving DecidableEq, Repr

inductive Level where
  | error
  | warn
  | info
  | debug
  | trace
  deriving DecidableEq, Repr

inductive Error where
  | badLevel (text : String)
  | badFormat (text : String)
  | taken
  deriving DecidableEq, Repr

def Error.message : Error → String
  | .badLevel text => "Invalid log level: " ++ text
  | .badFormat text => "Invalid log format: " ++ text
  | .taken => "Failed to install subscriber: a global default trace dispatcher has already been set"

def Format.name : Format → String
  | .pretty => "Pretty"
  | .compact => "Compact"
  | .json => "Json"

def Level.name : Level → String
  | .error => "ERROR"
  | .warn => "WARN"
  | .info => "INFO"
  | .debug => "DEBUG"
  | .trace => "TRACE"

def asciiLower (s : String) : String := String.ofList (s.toList.map Char.toLower)

/-- Reads a format without regard to white space around it or to the case of ASCII letters. -/
def Format.parse (text : String) : Except Error Format :=
  let name := asciiLower (trimBlank text)
  if name = "pretty" ∨ name = "text" then .ok .pretty
  else if name = "compact" then .ok .compact
  else if name = "json" then .ok .json
  else .error (.badFormat name)

def Level.all : List Level := [.error, .warn, .info, .debug, .trace]

/-- The number that decimal digits, perhaps after a plus sign, stand for. -/
def levelNumber? (cs : List Char) : Option Nat :=
  let ds := match cs with
    | '+' :: rest => rest
    | rest => rest
  numeral? 10 ds

def Level.parse (text : String) : Except Error Level :=
  let trimmed := trimBlank text
  let found := match levelNumber? trimmed.toList with
    | some n => if n = 0 then none else all[n - 1]?
    | none => all.find? fun l => asciiLower l.name = asciiLower trimmed
  match found with
  | some l => .ok l
  | none => .error (.badLevel text)

structure Config where
  level : Level
  format : Format
  includeLocation : Bool
  includeTarget : Bool
  deriving DecidableEq, Repr

def standard : Config := ⟨.info, .pretty, true, true⟩

def production : Config := ⟨.info, .json, false, true⟩

/-- The defaults with the level and format that an environment names; the level is read first. -/
def ofEnvironment (lookUp : String → Option String) : Except Error Config := do
  let level ← match lookUp "PW_LOG_LEVEL" with
    | some text => Level.parse text
    | none => .ok standard.level
  let format ← match lookUp "PW_LOG_FORMAT" with
    | some text => Format.parse text
    | none => .ok standard.format
  return { standard with level := level, format := format }

def install (installed : Bool) (c : Config) : Except Error Config :=
  if installed then .error .taken else .ok c

end CloudCensus.Logging
