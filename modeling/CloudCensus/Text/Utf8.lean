/-!
Decoding of bytes as UTF-8, strictly or with replacement characters.

The decoder splits the bytes into characters and ill-formed pieces.  An ill-formed piece is as long
as it can be while it still begins some character, and at least one byte.
-/

namespace CloudCensus.Utf8

structure Lead where
  more : Nat
  /-- The range of the byte after the first. -/
  low : Nat
  high : Nat
  /-- The bits of the character that the first byte holds. -/
  bits : Nat

def lead? (b : Nat) : Option Lead :=
  if 0xc2 ≤ b ∧ b ≤ 0xdf then some ⟨1, 0x80, 0xbf, b - 0xc0⟩
  else if b = 0xe0 then some ⟨2, 0xa0, 0xbf, 0⟩
  else if b = 0xed then some ⟨2, 0x80, 0x9f, 0xd⟩
  else if 0xe1 ≤ b ∧ b ≤ 0xef then some ⟨2, 0x80, 0xbf, b - 0xe0⟩
  else if b = 0xf0 then some ⟨3, 0x90, 0xbf, 0⟩
  else if 0xf1 ≤ b ∧ b ≤ 0xf3 then some ⟨3, 0x80, 0xbf, b - 0xf0⟩
  else if b = 0xf4 then some ⟨3, 0x80, 0x8f, 4⟩
  else none

/-- Reads the remaining bytes of a character; the bytes of a broken one are dropped up to the break. -/
def follow : Nat → Nat → Nat → Nat → List Nat → Option Nat × List Nat
  | 0, _, _, bits, bytes => (some bits, bytes)
  | _ + 1, _, _, _, [] => (none, [])
  | more + 1, low, high, bits, b :: bytes =>
    if low ≤ b ∧ b ≤ high then follow more 0x80 0xbf (bits * 64 + b % 64) bytes
    else (none, b :: bytes)

/-- The first character, or `none` for an ill-formed piece, and the bytes after it. -/
def next (b : Nat) (bytes : List Nat) : Option Char × List Nat :=
  if b < 0x80 then (some (Char.ofNat b), bytes)
  else
    match lead? b with
    | none => (none, bytes)
    | some l =>
      let (code, rest) := follow l.more l.low l.high l.bits bytes
      (code.map Char.ofNat, rest)

def pieces : Nat → List Nat → List (Option Char)
  | 0, _ => []
  | _, [] => []
  | fuel + 1, b :: bytes =>
    let (c, rest) := next b bytes
    c :: pieces fuel rest

def decode (bytes : List Nat) : List (Option Char) := pieces bytes.length bytes

def text? (bytes : List Nat) : Option String :=
  ((decode bytes).mapM id).map String.ofList

def lossyText (bytes : List Nat) : String :=
  String.ofList ((decode bytes).map (·.getD (Char.ofNat 0xfffd)))

def encodeChar (c : Char) : List Nat :=
  let n := c.toNat
  if n < 0x80 then [n]
  else if n < 0x800 then [0xc0 + n / 64, 0x80 + n % 64]
  else if n < 0x10000 then [0xe0 + n / 4096, 0x80 + n / 64 % 64, 0x80 + n % 64]
  else [0xf0 + n / 262144, 0x80 + n / 4096 % 64, 0x80 + n / 64 % 64, 0x80 + n % 64]

def encode (s : String) : List Nat := s.toList.flatMap encodeChar

end CloudCensus.Utf8
