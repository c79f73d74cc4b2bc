import Flipbook.Script.Block
import Flipbook.Script.CellText
import Flipbook.Script.Outcome

/-!
Grids. A header gives the size and three colours; blocks in any order, each as often as it occurs,
overwrite colours, texts and walls and add polylines.
-/
namespace Flipbook.Script

open Text

structure GridHeader where
  height : Nat
  width : Nat
  borderColor : String
  textColor : String
  defaultColor : String
  bounds : Option (Rect Binary64)
deriving DecidableEq

/-- The header of a grid of at most `maxCells` cells. -/
def readGridHeader (maxCells : Int) (text : String) : Except HeaderFault GridHeader := do
  let (bounds, params) ← splitHeader text Kind.grid.keyword
  match params with
  | [height, width, borderColor, textColor, defaultColor] =>
    match Numeral.readInt? height, Numeral.readInt? width with
    | some h, some w =>
      if h ≤ 0 || w ≤ 0 then throw (.gridSizeSign h w)
      else if maxCells < h * w then throw (.gridTooLarge h w maxCells)
      else return ⟨h.toNat, w.toNat, borderColor, textColor, defaultColor, bounds⟩
    | _, _ => throw (.gridSizeText height width)
  | _ => throw (.gridArity params.length)

/-- The blocks of a grid. -/
inductive GridBlock where
  | colors | colorPositions | texts | polylines | wallVertical | wallHorizontal
deriving DecidableEq, Repr

def GridBlock.name : GridBlock → String
  | colors => "CELL_COLORS"
  | colorPositions => "CELL_COLORS_POS"
  | texts => "CELL_TEXT"
  | polylines => "LINES"
  | wallVertical => "WALL_VERTICAL"
  | wallHorizontal => "WALL_HORIZONTAL"

namespace GridHeader

/-- The number of rows of a block; none if a count line gives it. -/
def rows (h : GridHeader) : GridBlock → Option Int
  | .colors | .texts | .wallVertical => some h.height
  | .wallHorizontal => some (h.height + 1)
  | .colorPositions | .polylines => none

def specs (h : GridHeader) : List (BlockSpec GridBlock) :=
  [.colors, .colorPositions, .texts, .polylines, .wallVertical, .wallHorizontal].map fun b =>
    ⟨b, b.name, h.rows b⟩

/-- The grid before its first block: default colours, no texts, all walls. -/
def blank (h : GridHeader) : Grid Binary64 where
  height := h.height
  width := h.width
  borderColor := h.borderColor
  textColor := h.textColor
  defaultColor := h.defaultColor
  colors := List.replicate h.height (List.replicate h.width h.defaultColor)
  texts := List.replicate h.height (List.replicate h.width "")
  wallVertical := List.replicate h.height (allWalls (h.width + 1))
  wallHorizontal := List.replicate (h.height + 1) (allWalls h.width)
  bounds := h.bounds

end GridHeader

/-- A list whose first members are replaced by others, as far as both reach. -/
def overlay {β : Type} (new old : List β) : List β :=
  new.take old.length ++ old.drop new.length

/-- The cells that a row of pairs names, row and column, up to `count` pairs; pairs that are not
two integers name none. -/
def readPositions : Nat → List String → List (Int × Int)
  | count + 1, r :: c :: more =>
    match Numeral.readInt? r, Numeral.readInt? c with
    | some r, some c => (r, c) :: readPositions count more
    | _, _ => readPositions count more
  | _, _ => []

/-- Colours one cell; a position outside the table colours none. -/
def paint (color : String) (table : List (List String)) (cell : Int × Int) :
    List (List String) :=
  if 0 ≤ cell.1 && 0 ≤ cell.2 then
    table.modify cell.1.toNat fun row => row.set cell.2.toNat color
  else table

/-- A colour or polyline row: its first word, its count, and the words after them. -/
def countedRow? (row : List String) : Option (String × Int × List String) :=
  match row with
  | color :: count :: rest => (Numeral.readInt? count).map fun n => (color, n, rest)
  | _ => none

/-- The flags of a wall row, at most `expected`, and the report if there are fewer. -/
def readFlags (b : GridBlock) (text : String) (expected : Nat) (line : Int) :
    String × List Report :=
  let flags := trimBoth isBlank text.toList
  let reports := if flags.length < expected then
    [⟨line, .wallFlags b.name flags.length expected⟩] else []
  (String.ofList (flags.take expected), reports)

/-- Writes row `i` of a block into a grid of width `w`. -/
def gridRow (w : Nat) (g : Grid Binary64) (b : GridBlock) (i : Nat) (text : String) (line : Int) :
    Grid Binary64 × List Report :=
  match b with
  | .colors => ({ g with colors := g.colors.modify i (overlay (words text)) }, [])
  | .colorPositions =>
    match countedRow? (words text) with
    | some (color, n, rest) =>
      ({ g with colors := (readPositions n.toNat rest).foldl (paint color) g.colors }, [])
    | none => (g, [⟨line, .colorPositionsEntry (trim text)⟩])
  | .texts => ({ g with texts := g.texts.modify i (overlay (cellTexts text w)) }, [])
  | .polylines =>
    match countedRow? (words text) with
    | some (color, n, rest) =>
      let points := (numericGroups rest 0 n 2).filterMap fun
        | [x, y] => some ⟨x, y⟩
        | _ => none
      if points.isEmpty then (g, [])
      else ({ g with polylines := g.polylines ++ [⟨color, points⟩] }, [])
    | none => (g, [⟨line, .polylineEntry (trim text)⟩])
  | .wallVertical =>
    let (flags, reports) := readFlags b text (w + 1) line
    ({ g with wallVertical := g.wallVertical.set i flags }, reports)
  | .wallHorizontal =>
    let (flags, reports) := readFlags b text w line
    ({ g with wallHorizontal := g.wallHorizontal.set i flags }, reports)

/-- Reads a grid whose header stands in `call` and whose blocks start at line `line`. -/
def readGrid (maxCells : Int) (call : Call) (rest : List String) (line : Int) : Outcome :=
  match readGridHeader maxCells call.text with
  | .error fault => call.refuse fault
  | .ok h =>
    let reader := ({ specs := h.specs, rest, line } : BlockReader GridBlock).run
    let (grid, reports) := replay (gridRow h.width) h.blank reader.events.toList
    { taken := reader.taken.toList, reports, action := .draw (.grid grid) }

end Flipbook.Script
