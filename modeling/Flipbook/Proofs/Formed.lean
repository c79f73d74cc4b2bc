import Mathlib
import Flipbook.Proofs.CellRows
import Flipbook.Proofs.Headers
import Flipbook.Proofs.WrittenBlocks

/-!
Well-formed commands: what reading a script guarantees of every command that it draws, and what a
written command needs to be read back. Grids need more, since reading lets them hold colours, texts
and walls that no script can hold in the places where writing puts them.
-/
namespace Flipbook

variable {α : Type}

def Point.numbers (p : Point α) : List α := [p.x, p.y]

def Circle.numbers (c : Circle α) : List α := [c.center.x, c.center.y, c.radius]

def Segment.numbers (s : Segment α) : List α := [s.a.x, s.a.y, s.b.x, s.b.y]

end Flipbook

namespace Flipbook.Script

open Text

/-! ## Groups and planes -/

/-- A group of a row: its colours, which open no script line, and the numbers of its members. -/
structure GroupFormed (colors : List String) (runs : List (List Binary64)) : Prop where
  isToken : ∀ c ∈ colors, IsToken c
  plain : ¬ OpenScript colors
  ne_nil : runs ≠ []
  isCount : IsCount runs.length
  isFinite : ∀ run ∈ runs, ∀ x ∈ run, x.isFinite = true

def BoundsFormed (bounds : Option (Rect Binary64)) : Prop :=
  ∀ r ∈ bounds, ∀ x ∈ r.sides, x.isFinite = true

/-- A number that may be the size of a picture. -/
def SizeFormed (x : Binary64) : Prop := x.isFinite = true ∧ 0 < x

structure PlaneFormed (p : Plane Binary64) : Prop where
  height : SizeFormed p.height
  width : SizeFormed p.width
  bounds : BoundsFormed p.bounds
  circles : ∀ g ∈ p.circleGroups,
    GroupFormed [g.lineColor, g.fillColor] (g.circles.map Circle.numbers)
  lines : ∀ g ∈ p.lineGroups, GroupFormed [g.color] (g.segments.map Segment.numbers) ∧
    g.width.isFinite = true
  polygons : ∀ g ∈ p.polygonGroups,
    GroupFormed [g.lineColor, g.fillColor] (g.vertices.map Point.numbers)

/-- Whether counts can state how many groups of each kind a plane has. -/
structure PlaneCounts (p : Plane Binary64) : Prop where
  circles : IsCount p.circleGroups.length
  lines : IsCount p.lineGroups.length
  polygons : IsCount p.polygonGroups.length

/-! ## Bar graphs and texts -/

structure BarGraphFormed (b : BarGraph Binary64) : Prop where
  fillColor : IsToken b.fillColor
  low : b.low.isFinite = true
  high : b.high.isFinite = true
  order : ¬ b.high ≤ b.low
  isCount : IsCount b.bars.length
  bars : ∀ bar ∈ b.bars, IsToken bar.label ∧ bar.value.isFinite = true

/-- A text that stands on a line behind a keyword. -/
def TextFormed (text : String) : Prop := trim text = text ∧ '\n' ∉ text.toList

/-! ## Grids -/

/-- A table of texts of this height and width. -/
structure TableFormed (height width : Nat) (rows : List (List String)) : Prop where
  length_eq : rows.length = height
  row_length : ∀ row ∈ rows, row.length = width

/-- Rows of flags: this many, none longer than `width`, none that starts with a blank. -/
structure WallsFormed (count width : Nat) (rows : List String) : Prop where
  length_eq : rows.length = count
  length_le : ∀ s ∈ rows, s.toList.length ≤ width
  first : ∀ s ∈ rows, ∀ c ∈ s.toList.head?, isBlank c = false
  line : ∀ s ∈ rows, '\n' ∉ s.toList

structure GridFormed (maxCells : Int) (g : Grid Binary64) : Prop where
  height_pos : 0 < g.height
  width_pos : 0 < g.width
  height_isCount : IsCount g.height.toNat
  width_isCount : IsCount g.width.toNat
  cells_le : g.height * g.width ≤ maxCells
  borderColor : IsToken g.borderColor
  textColor : IsToken g.textColor
  defaultColor : IsToken g.defaultColor
  bounds : BoundsFormed g.bounds
  colors : TableFormed g.height.toNat g.width.toNat g.colors
  isToken : ∀ row ∈ g.colors, ∀ color ∈ row, IsToken color
  texts : TableFormed g.height.toNat g.width.toNat g.texts
  line : ∀ row ∈ g.texts, ∀ text ∈ row, '\n' ∉ text.toList
  polylines : ∀ l ∈ g.polylines, GroupFormed [l.color] (l.points.map Point.numbers)
  wallVertical : WallsFormed g.height.toNat (g.width.toNat + 1) g.wallVertical
  wallHorizontal : WallsFormed (g.height.toNat + 1) g.width.toNat g.wallHorizontal

/-- Whether counts can state how many coloured cells and polylines a grid has. -/
structure GridCounts (g : Grid Binary64) : Prop where
  colors : IsCount (colourGroups g).length
  cells : ∀ group ∈ colourGroups g, IsCount group.2.length
  polylines : IsCount g.polylines.length

/-- No colour of a cell, but for the default, opens a script line. -/
def ColorsPlain (g : Grid Binary64) : Prop :=
  ∀ row ∈ g.colors, ∀ color ∈ row, color ≠ g.defaultColor → isScript color = false

/-- The texts of each row can be told from one another, and no row is a script line. -/
def TextsPlain (g : Grid Binary64) : Prop :=
  ∀ row ∈ g.texts, Legible (dropTrailingEmpty row) ∧ isScript (cellRow row) = false

/-- No row of flags is a script line or ends in a blank. -/
def WallsPlain (rows : List String) : Prop := ∀ s ∈ rows, isScript s = false ∧ trimEnd s = s

/-- Whether a grid can be told from its lines. -/
structure GridPlain (g : Grid Binary64) : Prop where
  colors : ColorsPlain g
  texts : TextsPlain g
  wallHorizontal : WallsPlain g.wallHorizontal
  wallVertical : WallsPlain g.wallVertical

/-! ## Commands -/

/-- A command as reading a script yields it; grids have at most `maxCells` cells. -/
def Formed (maxCells : Int) : Command Binary64 → Prop
  | .canvas c => SizeFormed c.height ∧ SizeFormed c.width
  | .grid g => GridFormed maxCells g
  | .plane p => PlaneFormed p
  | .barGraph b => BarGraphFormed b
  | .textArea text => TextFormed text
  | .score text => TextFormed text
  | .debug => True

/-- Whether counts can state the lengths of a command's lists of groups. -/
def Counts : Command Binary64 → Prop
  | .grid g => GridCounts g
  | .plane p => PlaneCounts p
  | _ => True

/-- Whether a command, if it is a grid, can be told from its lines. -/
def PlainLines : Command Binary64 → Prop
  | .grid g => GridPlain g
  | _ => True

/-! ## Commands as written -/

/-- The parts of a command's script line after the mark of the mode. -/
def headerParts : Command Binary64 → List String
  | .grid g => [headed Kind.grid.keyword g.bounds, toString g.height, toString g.width,
      g.borderColor, g.textColor, g.defaultColor]
  | .plane p => [headed Kind.plane.keyword p.bounds, numbers [p.height, p.width]]
  | .barGraph b => [Kind.barGraph.keyword, b.fillColor, numbers [b.low, b.high]]
  | .canvas c => [Kind.canvas.keyword, numbers [c.height, c.width]]
  | .textArea text => [Kind.textArea.keyword, text]
  | .score text => [Kind.score.keyword, text]
  | .debug => [Kind.debug.keyword]

/-- The command text of a command. -/
def headerText (c : Command Binary64) : String := trim (spaced (headerParts c))

/-- The lines of a command after its script line. -/
def bodyLines (c : Command Binary64) : List String :=
  ((commandLines defaultMode c).drop 1).map trimEnd

/-- Only the script line names the mode. -/
theorem commandLines_eq (mode : String) (c : Command Binary64) :
    (commandLines mode c).map trimEnd =
      trimEnd (spaced (modeMark mode :: headerParts c)) :: bodyLines c := by
  cases c <;> rfl

theorem trimEnd_token {s : String} (h : IsToken s) : trimEnd s = s :=
  trimEnd_eq_self fun c hc => h.2 c (List.mem_of_getLast? hc)

/-- A block with a count line, as a written block. -/
theorem map_trimEnd_countedBlock {κ : Type} {name : String} (h : IsToken name) (key : κ)
    (rows : List String) : (countedBlock name rows).map trimEnd =
      (⟨⟨key, name, none⟩, rows.map trimEnd⟩ : WrittenBlock κ).lines := by
  have hcount : trimEnd (toString rows.length) = toString rows.length :=
    trimEnd_token (Numeral.isNumeral_toString (rows.length : Int)).isToken
  unfold countedBlock WrittenBlock.lines
  cases rows with
  | nil => rfl
  | cons row rows =>
    rw [if_neg (by simp), if_neg (by simp), List.map_cons, List.map_cons, trimEnd_token h, hcount]
    simp [WrittenBlock.head]

end Flipbook.Script
