import Flipbook.Script.Block
import Flipbook.Text.Slice

/-!
Places in the lines of a script. A cursor may stand before the first line, in a gap where nothing
can be read; there a look at the next line fails, while at the end it finds that no line is left.
-/
namespace Flipbook.Script

/-- The lines to come, and the number of the next place, counted from one. -/
structure Cursor where
  rest : List String
  line : Int := 1
  /-- How many places stand before the first of the lines. -/
  gap : Nat := 0
deriving DecidableEq, Repr

/-- Why no line can be read at a place. -/
inductive CursorFault where
  | noLine
  /-- The index of the place has more than 64 bits. -/
  | farIndex
deriving DecidableEq, Repr

def CursorFault.message : CursorFault → String
  | noLine => "list index out of range"
  | farIndex => "cannot fit 'int' into an index-sized integer"

/-- The indices that a list may have: the signed integers of 64 bits. -/
def isListIndex (i : Int) : Bool := -(Nat.pow 2 63 : Nat) ≤ i && i < (Nat.pow 2 63 : Nat)

namespace Cursor

/-- The cursor at an index of some lines. A negative index counts from the end; the last line is
then followed by all lines. -/
def ofIndex (lines : List String) (i : Int) : Cursor :=
  let rest := lines.drop (Text.place lines.length i)
  if i < 0 then ⟨rest ++ lines, i + 1, i.natAbs - lines.length⟩ else ⟨rest, i + 1, 0⟩

/-- The cursor `n` places further on; beyond the last line only the number grows. -/
def advance (c : Cursor) (n : Nat) : Cursor :=
  ⟨c.rest.drop (n - c.gap), c.line + n, c.gap - n⟩

/-- Whether no line is left. -/
def isAtEnd (c : Cursor) : Bool := c.gap == 0 && c.rest.isEmpty

/-- Why the line at a cursor cannot be read, if that is so. -/
def fault (c : Cursor) : CursorFault := if isListIndex (c.line - 1) then .noLine else .farIndex

/-- The next line, if one is left. -/
def peek (c : Cursor) : Except CursorFault (Option String) :=
  if c.gap = 0 then .ok c.rest.head? else .error c.fault

/-- A reader of blocks at the cursor. -/
def blocks {κ : Type} (c : Cursor) (specs : List (BlockSpec κ)) :
    Except CursorFault (BlockReader κ) :=
  if c.gap = 0 then .ok { specs, rest := c.rest, line := c.line } else .error c.fault

theorem ofIndex_natCast (lines : List String) (n : Nat) :
    ofIndex lines n = ⟨lines.drop n, n + 1, 0⟩ := by
  have h : ¬ (n : Int) < 0 := by omega
  simp [ofIndex, h, Text.place_natCast]

theorem ofIndex_advance (lines : List String) (i n : Nat) :
    (ofIndex lines i).advance n = ofIndex lines (i + n : Nat) := by
  have hline : (i : Int) + 1 + n = (i + n : Nat) + 1 := by omega
  rw [ofIndex_natCast, ofIndex_natCast, advance]
  simp only [List.drop_drop, Nat.sub_zero, Nat.zero_sub, hline]

end Cursor

end Flipbook.Script
