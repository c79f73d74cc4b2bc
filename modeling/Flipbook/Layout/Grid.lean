import Flipbook.Config
import Flipbook.Geometry.Scale
import Flipbook.Text.Slice

/-!
Grids in pixels: cells, walls between them, and polylines through their middles. A grid with a side
that is beyond all doubles has no cells.
-/
namespace Flipbook.Layout

open Flipbook.Geometry

variable {α : Type} [Scalar α]

structure Cell (α : Type) where
  row : Nat
  col : Nat
  rect : Rect α
  fill : String
  /-- The text as drawn. -/
  text : String
  tooltip : String
deriving DecidableEq

structure Stroke (α : Type) where
  color : String
  points : List (Point α)
  width : α
  vertexRadius : α
deriving DecidableEq

structure GridLayout (α : Type) where
  bounds : Rect α
  cellWidth : α
  cellHeight : α
  fontSize : α
  borderColor : String
  textColor : String
  wallWidth : α
  cells : List (Cell α)
  walls : List (Segment α)
  polylines : List (Stroke α)
deriving DecidableEq

/-- The rectangle of a cell of a grid with `h` rows and `w` columns. -/
def cellRect (bounds : Rect α) (h w row col : Int) : Except Fault (Rect α) := do
  let cellWidth ← divide bounds.width (w : α)
  let cellHeight ← divide bounds.height (h : α)
  let left := bounds.left + (col : α) * cellWidth
  let top := bounds.top + (row : α) * cellHeight
  return ⟨left, top, left + cellWidth, top + cellHeight⟩

/-- A cell text as drawn: a long one is cut and ends in the ellipsis. -/
def displayText (text : String) (cfg : Config α) : String :=
  if cfg.truncateLength < text.length then
    String.ofList (Text.upTo cfg.truncateLength text.toList) ++ cfg.ellipsis
  else text

/-- The length of the longest drawn text of a table. -/
def longestText (texts : List (List String)) (cfg : Config α) : Nat :=
  (texts.flatten.map fun text => (displayText text cfg).length).foldl max 0

/-- The font size of all cells of a grid, chosen for its longest text. -/
def fontSize (texts : List (List String)) (cellWidth cellHeight : α) (cfg : Config α) : α :=
  let n := longestText texts cfg
  let size :=
    if n ≤ 4 then
      Scalar.least (cellHeight * 0.7) (cellWidth / (((max n 1 : Nat) : Int) : α) * 1.2)
    else Scalar.least (cellHeight * 0.6) (cellWidth / 5.5)
  Scalar.least size cfg.maxFontSize

/-- The rows of a wall table; a table without rows has all walls, a missing row none. -/
def wallRows (rows : List String) (count length : Int) : List String :=
  if rows.isEmpty then
    List.replicate count.toNat (allWalls length.toNat)
  else (List.range count.toNat).map fun i => rows[i]?.getD ""

/-- The places of a wall table, row and column, where a wall stands. -/
def wallPlaces (rows : List String) (count length : Int) : List (Nat × Nat) :=
  (wallRows rows count length).zipIdx.flatMap fun (flags, i) =>
    (Text.upTo length flags.toList).zipIdx.filterMap fun (flag, j) =>
      if flag = wallMark then some (i, j) else none

/-- The walls of a grid: the vertical ones row by row, then the horizontal ones. -/
def gridWalls (g : Grid α) (bounds : Rect α) : Except Fault (List (Segment α)) := do
  let xs ← edges bounds.left bounds.right g.width
  let ys ← edges bounds.top bounds.bottom g.height
  let vertical ← (wallPlaces g.wallVertical g.height (g.width + 1)).mapM fun (i, j) => do
    let x ← edge xs j
    return ⟨⟨x, ← edge ys i⟩, ⟨x, ← edge ys (i + 1)⟩⟩
  let horizontal ← (wallPlaces g.wallHorizontal (g.height + 1) g.width).mapM fun (i, j) => do
    let left ← edge xs j
    let y ← edge ys i
    return ⟨⟨left, y⟩, ⟨← edge xs (j + 1), y⟩⟩
  return vertical ++ horizontal

/-- The cells of a grid, row by row. -/
def cellPlaces (h w : Nat) : List (Nat × Nat) :=
  (List.range h).flatMap fun row => (List.range w).map fun col => (row, col)

def tooltip (row col : Nat) (text : String) : String :=
  s!"({row}, {col})" ++ if text.isEmpty then "" else ": " ++ text

/-- One cell of a grid. Where a table has no entry, the cell has the default colour or no text. -/
def gridCell (g : Grid α) (bounds : Rect α) (cfg : Config α) (row col : Nat) :
    Except Fault (Cell α) := do
  let fill := (g.colors[row]?.bind (·[col]?)).getD g.defaultColor
  let text := (g.texts[row]?.bind (·[col]?)).getD ""
  return ⟨row, col, ← cellRect bounds g.height g.width row col, fill, displayText text cfg,
    tooltip row col text⟩

/-- Lays out a grid over a rectangle. Polylines of fewer than two points are not drawn. -/
def layoutGrid (g : Grid α) (bounds : Rect α) (cfg : Config α) : Except Fault (GridLayout α) := do
  let cellWidth ← divide bounds.width (g.width : α)
  let cellHeight ← divide bounds.height (g.height : α)
  let cells ← (cellPlaces g.height.toNat g.width.toNat).mapM fun (row, col) =>
    gridCell g bounds cfg row col
  let radius := Scalar.least cellWidth cellHeight * cfg.vertexRadiusRatio
  let polylines ← (g.polylines.filter fun l => 2 ≤ l.points.length).mapM fun l => do
    let points ← mapPoints (center bounds g.height g.width) l.points
    return (⟨l.color, points, cfg.polylineWidth, radius⟩ : Stroke α)
  return {
    bounds, cellWidth, cellHeight
    fontSize := fontSize g.texts cellWidth cellHeight cfg
    borderColor := g.borderColor
    textColor := g.textColor
    wallWidth := cfg.wallWidth
    cells
    walls := ← gridWalls g bounds
    polylines }

/-! ## Checks -/

def checkedCellRect (bounds : Rect Binary64) (h w row col : Int) :
    Except Fault (Rect Binary64) := do
  requireCells h w
  let _ ← double col
  let _ ← double row
  cellRect bounds h w row col

def checkedWalls (g : Grid Binary64) (bounds : Rect Binary64) :
    Except Fault (List (Segment Binary64)) := do
  requireCells g.height g.width
  gridWalls g bounds

def checkedGrid (g : Grid Binary64) (bounds : Rect Binary64) (cfg : Config Binary64) :
    Except Fault (GridLayout Binary64) := do
  requireCells g.height g.width
  layoutGrid g bounds cfg

end Flipbook.Layout
