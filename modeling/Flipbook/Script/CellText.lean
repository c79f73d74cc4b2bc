import Flipbook.Text.Blank

/-!
Rows of cell texts. A quote opens a text that runs to the next quote of the row; elsewhere, and if
no quote follows, a text runs to the next blank.
-/
namespace Flipbook.Script

open Text

def isQuote (c : Char) : Bool := c == '"'

/-- The texts of a row, in order. -/
def scanCells : List Char → List String
  | [] => []
  | c :: cs =>
    if isBlank c then scanCells cs
    else if isQuote c && cs.any isQuote then
      String.ofList (cs.takeWhile (!isQuote ·)) :: scanCells (cs.dropWhile (!isQuote ·)).tail
    else
      String.ofList (c :: cs.takeWhile (!isBlank ·)) :: scanCells (cs.dropWhile (!isBlank ·))
termination_by cs => cs.length
decreasing_by
  · simp
  · have := (cs.dropWhile_sublist (!isQuote ·)).length_le
    simp only [List.length_tail, List.length_cons]
    omega
  · have := (cs.dropWhile_sublist (!isBlank ·)).length_le
    simp only [List.length_cons]
    omega

/-- The first texts of a row, at most `limit`. -/
def cellTexts (line : String) (limit : Nat) : List String := (scanCells line.toList).take limit

/-- A cell text as a row holds it: quoted if it is empty or has a blank. -/
def cellToken (text : String) : String :=
  if text.isEmpty || text.toList.any isBlank then "\"" ++ text ++ "\"" else text

end Flipbook.Script
