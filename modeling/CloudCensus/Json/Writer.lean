import CloudCensus.Json.Value
import CloudCensus.Number.Shortest
import CloudCensus.Text.Quoted

namespace CloudCensus.Json

def escapeChar (c : Char) : String :=
  if c = '"' then "\\\""
  else if c = '\\' then "\\\\"
  else if c = '\x08' then "\\b"
  else if c = '\x0c' then "\\f"
  else if c = '\n' then "\\n"
  else if c = '\r' then "\\r"
  else if c = '\t' then "\\t"
  else if c.toNat < 0x10 then "\\u000" ++ hexadecimal c.toNat
  else if c.toNat < 0x20 then "\\u00" ++ hexadecimal c.toNat
  else c.toString

def stringText (s : String) : String :=
  "\"" ++ String.join (s.toList.map escapeChar) ++ "\""

mutual

def compact : Json → String
  | .null => "null"
  | .bool b => if b then "true" else "false"
  | .integer n => toString n
  | .real x => x.marked
  | .text s => stringText s
  | .list xs => "[" ++ ",".intercalate (compactAll xs) ++ "]"
  | .record ms => "\x7b" ++ ",".intercalate (compactMembers ms) ++ "\x7d"

def compactAll : List Json → List String
  | [] => []
  | x :: xs => compact x :: compactAll xs

def compactMembers : List (String × Json) → List String
  | [] => []
  | (key, x) :: ms => (stringText key ++ ":" ++ compact x) :: compactMembers ms

end

end CloudCensus.Json
