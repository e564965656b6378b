import CloudCensus.Json.Number
import CloudCensus.Text.Digits

/-!
JSON texts, read strictly and without interpreting what nobody asks for.

A `Written` tree keeps what a text says: members in their order with every repetition, numbers as
digits, and marks for strings and containers that cannot become values.  A part that is never
looked at may therefore hold a lone surrogate, a number out of range or too many levels.
-/

namespace CloudCensus

inductive Written where
  | null
  | bool (value : Bool)
  | number (text : NumberText)
  /-- A string, or `none` where an escape names half of a surrogate pair. -/
  | text (value : Option String)
  | list (elements : List Written)
  | record (members : List (Option String × Written))
  /-- A container inside as many containers as a value may have. -/
  | buried
  deriving Repr, Inhabited

namespace Written

def levels : Nat := 127

def isSpace (c : Char) : Bool := c = ' ' || c = '\n' || c = '\t' || c = '\r'

def skipSpace (cs : List Char) : List Char := cs.dropWhile isSpace

def hexQuad? (a b c d : Char) : Option Nat := do
  return (← hexDigit? a) * 4096 + (← hexDigit? b) * 256 + (← hexDigit? c) * 16 + (← hexDigit? d)

def exponentPart (cs : List Char) : Option (Option (Bool × List Nat) × List Char) :=
  match cs with
  | 'e' :: rest | 'E' :: rest =>
    let (negative, rest) := match rest with
      | '+' :: rest => (false, rest)
      | '-' :: rest => (true, rest)
      | rest => (false, rest)
    match takeDigits rest with
    | ([], _) => none
    | (ds, rest) => some (some (negative, ds), rest)
  | rest => some (none, rest)

def fractionPart (cs : List Char) : Option (List Nat × List Char) :=
  match cs with
  | '.' :: rest =>
    match takeDigits rest with
    | ([], _) => none
    | (ds, rest) => some (ds, rest)
  | rest => some ([], rest)

/-- A number after its sign; no digit may follow a leading zero. -/
def numberPart (negative : Bool) (cs : List Char) : Option (NumberText × List Char) := do
  let (whole, rest) ← match takeDigits cs with
    | ([], _) => none
    | (0 :: _ :: _, _) => none
    | (ds, rest) => some (ds, rest)
  let (fraction, rest) ← fractionPart rest
  let (exponent, rest) ← exponentPart rest
  return (⟨negative, whole, fraction, exponent⟩, rest)

def isLeading (n : Nat) : Bool := 0xd800 ≤ n && n ≤ 0xdbff

def isTrailing (n : Nat) : Bool := 0xdc00 ≤ n && n ≤ 0xdfff

def simpleEscape? : Char → Option Char
  | '"' => some '"'
  | '\\' => some '\\'
  | '/' => some '/'
  | 'b' => some '\x08'
  | 'f' => some '\x0c'
  | 'n' => some '\n'
  | 'r' => some '\r'
  | 't' => some '\t'
  | _ => none

inductive Piece where
  | plain (c : Char)
  | unit (n : Nat)
  deriving DecidableEq, Repr

def piecesPart : List Char → Option (List Piece × List Char)
  | [] => none
  | '"' :: rest => some ([], rest)
  | '\\' :: 'u' :: a :: b :: c :: d :: rest => do
    let n ← hexQuad? a b c d
    let (ps, rest) ← piecesPart rest
    return (.unit n :: ps, rest)
  | '\\' :: c :: rest => do
    let e ← simpleEscape? c
    let (ps, rest) ← piecesPart rest
    return (.plain e :: ps, rest)
  | c :: rest =>
    if c.toNat < 0x20 then none
    else do
      let (ps, rest) ← piecesPart rest
      return (.plain c :: ps, rest)

/-- The characters of the pieces; half of a surrogate pair is none. -/
def join? : List Piece → Option (List Char)
  | [] => some []
  | .plain c :: ps => (join? ps).map (c :: ·)
  | .unit n :: .unit m :: ps =>
    if isLeading n then
      if isTrailing m then
        (join? ps).map (Char.ofNat (0x10000 + (n - 0xd800) * 1024 + (m - 0xdc00)) :: ·)
      else none
    else if isTrailing n then none
    else (join? (.unit m :: ps)).map (Char.ofNat n :: ·)
  | .unit n :: ps =>
    if isLeading n || isTrailing n then none else (join? ps).map (Char.ofNat n :: ·)

def stringPart (cs : List Char) : Option (Option String × List Char) :=
  (piecesPart cs).map fun (ps, rest) => ((join? ps).map String.ofList, rest)

def literalPart (name : List Char) (result : Written) (cs : List Char) : Option (Written × List Char) :=
  if name.isPrefixOf cs then some (result, cs.drop name.length) else none

mutual

/-- A value with `room` more containers allowed, read in at most `fuel` nested steps. -/
def valuePart : Nat → Nat → List Char → Option (Written × List Char)
  | 0, _, _ => none
  | fuel + 1, room, cs =>
    match skipSpace cs with
    | [] => none
    | 'n' :: rest => literalPart "ull".toList .null rest
    | 't' :: rest => literalPart "rue".toList (.bool true) rest
    | 'f' :: rest => literalPart "alse".toList (.bool false) rest
    | '"' :: rest => (stringPart rest).map fun (s, rest) => (.text s, rest)
    | '-' :: rest => (numberPart true rest).map fun (n, rest) => (.number n, rest)
    | '[' :: rest =>
      match skipSpace rest with
      | ']' :: rest => some (if room = 0 then .buried else .list [], rest)
      | rest => (elementsPart fuel (room - 1) rest).map fun (xs, rest) =>
          (if room = 0 then .buried else .list xs, rest)
    | '\x7b' :: rest =>
      match skipSpace rest with
      | '\x7d' :: rest => some (if room = 0 then .buried else .record [], rest)
      | rest => (membersPart fuel (room - 1) rest).map fun (ms, rest) =>
          (if room = 0 then .buried else .record ms, rest)
    | rest => (numberPart false rest).map fun (n, rest) => (.number n, rest)

def elementsPart : Nat → Nat → List Char → Option (List Written × List Char)
  | 0, _, _ => none
  | fuel + 1, room, cs =>
    match valuePart fuel room cs with
    | none => none
    | some (x, rest) =>
      match skipSpace rest with
      | ']' :: rest => some ([x], rest)
      | ',' :: rest => (elementsPart fuel room rest).map fun (xs, rest) => (x :: xs, rest)
      | _ => none

def membersPart : Nat → Nat → List Char → Option (List (Option String × Written) × List Char)
  | 0, _, _ => none
  | fuel + 1, room, cs =>
    match skipSpace cs with
    | '"' :: rest =>
      match stringPart rest with
      | none => none
      | some (key, rest) =>
        match skipSpace rest with
        | ':' :: rest =>
          match valuePart fuel room rest with
          | none => none
          | some (x, rest) =>
            match skipSpace rest with
            | '\x7d' :: rest => some ([(key, x)], rest)
            | ',' :: rest =>
              (membersPart fuel room rest).map fun (ms, rest) => ((key, x) :: ms, rest)
            | _ => none
        | _ => none
    | _ => none

end

def ofText? (text : String) : Option Written :=
  let cs := text.toList
  match valuePart (2 * cs.length + 2) levels cs with
  | some (w, rest) => if (skipSpace rest).isEmpty then some w else none
  | none => none

mutual

/-- The value of a part, if all of it can be a value; of members with one key the last counts. -/
def value? : Written → Option Json
  | .null => some .null
  | .bool b => some (.bool b)
  | .number t => t.value?
  | .text s => s.map .text
  | .list xs => (values? xs).map .list
  | .record ms => (entries? ms).map Json.ofEntries
  | .buried => none

def values? : List Written → Option (List Json)
  | [] => some []
  | x :: xs => do return (← value? x) :: (← values? xs)

def entries? : List (Option String × Written) → Option (List (String × Json))
  | [] => some []
  | (key, x) :: ms => do return (← key, ← value? x) :: (← entries? ms)

end

end Written

def Json.ofText? (text : String) : Option Json := do (← Written.ofText? text).value?

end CloudCensus
