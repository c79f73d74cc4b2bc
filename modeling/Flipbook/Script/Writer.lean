import Flipbook.Script.CellText
import Flipbook.Script.Cursor
import Flipbook.Script.Grid
import Flipbook.Script.Plane

/-!
Commands as script text. Headers carry the mode; block lines are bare. A grid's blocks are left out
where they would say nothing new. To see whether its walls do, they are compared with all walls, and
so its sides must be lengths that a list may have.
-/
namespace Flipbook.Script

open Text

/-- The start of every script line of a mode. -/
def modeMark (mode : String) : String := if mode = defaultMode then "$v" else "$v(" ++ mode ++ ")"

def spaced (parts : List String) : String := " ".intercalate parts

def numbers (xs : List Binary64) : String := spaced (xs.map Numeral.scriptText)

def boundsSuffix (bounds : Option (Rect Binary64)) : String := (bounds.map boundsText).getD ""

/-- The cells of another colour than the default, row by row. -/
def colouredCells (g : Grid Binary64) : List (String × Nat × Nat) :=
  g.colors.zipIdx.flatMap fun (row, r) =>
    row.zipIdx.filterMap fun (color, c) =>
      if color = g.defaultColor then none else some (color, r, c)

/-- The coloured cells of each colour, the colours in order of first appearance. -/
def colourGroups (g : Grid Binary64) : List (String × List (Nat × Nat)) :=
  let cells := colouredCells g
  (cells.map Prod.fst).eraseDups.map fun color =>
    (color, (cells.filter fun cell => cell.1 == color).map Prod.snd)

/-- A block with a count line; no line at all if it has no row. -/
def countedBlock (name : String) (rows : List String) : List String :=
  if rows.isEmpty then [] else name :: toString rows.length :: rows

/-- A list without its trailing empty texts. -/
def dropTrailingEmpty (row : List String) : List String :=
  (row.reverse.dropWhile (·.isEmpty)).reverse

/-- A row of cell texts as the text block holds it. -/
def cellRow (row : List String) : String := spaced ((dropTrailingEmpty row).map cellToken)

/-- The text block of a grid, if any cell has a text. -/
def textBlock (g : Grid Binary64) : List String :=
  if g.texts.all fun row => row.all (·.isEmpty) then []
  else
    GridBlock.texts.name ::
      (List.range g.height.toNat).map fun r => cellRow (g.texts[r]?.getD [])

/-- A wall block, unless it is empty or holds all walls. -/
def wallBlock (b : GridBlock) (rows : List String) (count length : Nat) : List String :=
  if rows.isEmpty || rows = List.replicate count (allWalls length) then [] else b.name :: rows

def gridLines (mode : String) (g : Grid Binary64) : List String :=
  let header := spaced [modeMark mode, Kind.grid.keyword ++ boundsSuffix g.bounds,
    toString g.height, toString g.width, g.borderColor, g.textColor, g.defaultColor]
  let colourRows := (colourGroups g).map fun (color, cells) =>
    spaced [color, toString cells.length,
      spaced (cells.map fun (r, c) => spaced [toString r, toString c])]
  let polylineRows := g.polylines.map fun l =>
    spaced [l.color, toString l.points.length, spaced (l.points.map fun p => numbers [p.x, p.y])]
  header :: (countedBlock GridBlock.colorPositions.name colourRows ++ textBlock g ++
    countedBlock GridBlock.polylines.name polylineRows ++
    wallBlock .wallHorizontal g.wallHorizontal (g.height + 1).toNat g.width.toNat ++
    wallBlock .wallVertical g.wallVertical g.height.toNat (g.width + 1).toNat)

def planeLines (mode : String) (p : Plane Binary64) : List String :=
  let header := spaced [modeMark mode, Kind.plane.keyword ++ boundsSuffix p.bounds,
    numbers [p.height, p.width]]
  let circleRows := p.circleGroups.map fun group =>
    spaced [group.lineColor, group.fillColor, toString group.circles.length,
      spaced (group.circles.map fun c => numbers [c.center.x, c.center.y, c.radius])]
  let lineRows := p.lineGroups.map fun group =>
    let width := if group.width.numEq 1.0 then [] else [Numeral.scriptText group.width]
    spaced ([group.color] ++ width ++ [toString group.segments.length,
      spaced (group.segments.map fun s => numbers [s.a.x, s.a.y, s.b.x, s.b.y])])
  let polygonRows := p.polygonGroups.map fun group =>
    spaced [group.lineColor, group.fillColor, toString group.vertices.length,
      spaced (group.vertices.map fun v => numbers [v.x, v.y])]
  header :: (countedBlock PlaneBlock.circles.name circleRows ++
    countedBlock PlaneBlock.lines.name lineRows ++
    countedBlock PlaneBlock.polygons.name polygonRows)

/-- The lines of a command in a mode. -/
def commandLines (mode : String) (c : Command Binary64) : List String :=
  let header (params : List String) := spaced (modeMark mode :: c.kind.keyword :: params)
  match c with
  | .grid g => gridLines mode g
  | .plane p => planeLines mode p
  | .barGraph b =>
    [header [b.fillColor, numbers [b.low, b.high]],
      spaced [toString b.bars.length,
        spaced (b.bars.map fun bar => spaced [bar.label, Numeral.scriptText bar.value])]]
  | .canvas c => [header [numbers [c.height, c.width]]]
  | .textArea text => [header [text]]
  | .score text => [header [text]]
  | .debug => [header []]

/-- The script text of a command. No line ends in a blank. -/
def writeCommand (mode : String) (c : Command Binary64) : String :=
  unlines ((commandLines mode c).map trimEnd)

/-- The script text of a frame: its commands and the line that commits them. -/
def writeFrame {ε : Type} (mode : String) (f : Frame Binary64 ε) : String :=
  String.join (f.commands.map (writeCommand mode)) ++ spaced [modeMark mode, "COMMIT"] ++ "\n"

/-- The script text of all frames, mode by mode. -/
def write {ε : Type} (reel : Reel Binary64 ε) : String :=
  String.join (reel.map fun (mode, frames) => String.join (frames.map (writeFrame mode)))

/-! ## Checks -/

/-- Why a command has no script text. -/
inductive WriteFault where
  /-- A row or a column of walls is longer than a list may be. -/
  | endless
deriving DecidableEq, Repr

def WriteFault.message : WriteFault → String
  | endless => CursorFault.farIndex.message

/-- Whether all walls of a command make a list. -/
def wallsFit : Command Binary64 → Bool
  | .grid g => [g.width, g.height + 1, g.width + 1, g.height].all isListIndex
  | _ => true

/-- Checks that some commands can be written. -/
def requireWalls (cs : List (Command Binary64)) : Except WriteFault Unit :=
  if cs.all wallsFit then .ok () else .error .endless

def checkedWriteCommand (mode : String) (c : Command Binary64) : Except WriteFault String := do
  requireWalls [c]
  return writeCommand mode c

def checkedWriteFrame {ε : Type} (mode : String) (f : Frame Binary64 ε) :
    Except WriteFault String := do
  requireWalls f.commands
  return writeFrame mode f

def checkedWrite {ε : Type} (reel : Reel Binary64 ε) : Except WriteFault String := do
  requireWalls (reel.flatMap fun (_, frames) => frames.flatMap (·.commands))
  return write reel

end Flipbook.Script
