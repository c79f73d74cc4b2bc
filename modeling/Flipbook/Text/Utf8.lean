/-!
Bytes as text. Each maximal part of the bytes that is no UTF-8 becomes one replacement character,
and every line ends in a line feed alone.
-/
namespace Flipbook.Text

def replacement : Char := '\ufffd'

/-- A character of several bytes in progress. -/
structure Partial where
  /-- The bits so far. -/
  bits : Nat
  /-- The number of bytes still due. -/
  due : Nat
  /-- The least and the greatest value of the next byte. -/
  low : Nat := 0x80
  high : Nat := 0xBF
deriving DecidableEq, Repr

/-- What a byte between two characters is. -/
inductive FirstByte where
  | char (c : Char)
  | opens (p : Partial)
  | invalid
deriving DecidableEq, Repr

/-- The bounds after the first byte rule out overlong forms, surrogates and values above the last
code point. -/
def firstByte (b : Nat) : FirstByte :=
  if b < 0x80 then .char (Char.ofNat b)
  else if b < 0xC2 then .invalid
  else if b < 0xE0 then .opens { bits := b - 0xC0, due := 1 }
  else if b = 0xE0 then .opens { bits := 0, due := 2, low := 0xA0 }
  else if b = 0xED then .opens { bits := 0xD, due := 2, high := 0x9F }
  else if b < 0xF0 then .opens { bits := b - 0xE0, due := 2 }
  else if b = 0xF0 then .opens { bits := 0, due := 3, low := 0x90 }
  else if b < 0xF4 then .opens { bits := b - 0xF0, due := 3 }
  else if b = 0xF4 then .opens { bits := 4, due := 3, high := 0x8F }
  else .invalid

/-- A decoder: the characters so far, the last first, and the one in progress. -/
structure Utf8 where
  chars : List Char := []
  pending : Option Partial := none

namespace Utf8

def push (u : Utf8) (c : Char) : Utf8 := ⟨c :: u.chars, none⟩

/-- A byte where no character is in progress. -/
def start (u : Utf8) (b : Nat) : Utf8 :=
  match firstByte b with
  | .char c => u.push c
  | .opens p => { u with pending := some p }
  | .invalid => u.push replacement

/-- The next byte. One that cannot go on with the character in progress ends it and starts anew. -/
def step (u : Utf8) (byte : UInt8) : Utf8 :=
  let b := byte.toNat
  match u.pending with
  | none => u.start b
  | some p =>
    if p.low ≤ b && b ≤ p.high then
      let bits := p.bits * 64 + b % 64
      if p.due = 1 then u.push (Char.ofNat bits)
      else { u with pending := some { bits, due := p.due - 1 } }
    else (u.push replacement).start b

/-- The characters after the last byte. -/
def finish (u : Utf8) : List Char :=
  (if u.pending.isSome then replacement :: u.chars else u.chars).reverse

end Utf8

def decodeUtf8 (bytes : List UInt8) : List Char := (bytes.foldl Utf8.step {}).finish

/-- A character of a text whose line ends are being unified: whether a carriage return came just
before, and the characters so far, the last first. -/
def unifyStep (s : Bool × List Char) (c : Char) : Bool × List Char :=
  if c = '\r' then (true, '\n' :: s.2)
  else if c = '\n' && s.1 then (false, s.2)
  else (false, c :: s.2)

/-- Ends every line in a line feed instead of a carriage return, or of both. -/
def unifyLines (cs : List Char) : List Char := (cs.foldl unifyStep (false, [])).2.reverse

/-- The text of a file. -/
def ofBytes (bytes : List UInt8) : String := String.ofList (unifyLines (decodeUtf8 bytes))

end Flipbook.Text
