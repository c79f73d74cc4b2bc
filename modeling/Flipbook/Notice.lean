import Flipbook.Command
import Flipbook.Number.Numeral

/-!
Diagnostics as causes, and the one text of each. A report points at a line; the other notices
concern a frame as a whole.
-/
namespace Flipbook

/-- Why a header is refused. Texts are quoted as they stand in the script. -/
inductive HeaderFault where
  | unclosedBounds (keyword : String)
  | badBounds (keyword inner : String)
  | gridArity (found : Nat)
  | gridSizeText (height width : String)
  | gridSizeSign (height width : Int)
  | gridTooLarge (height width limit : Int)
  | planeArity (found : Nat)
  | planeSize (height width : String)
  | barGraphArity (found : Nat)
  | barGraphRangeText (low high : String)
  | barGraphRangeOrder (low high : String)
  | canvasArity (found : Nat)
  | canvasSize (sizes : String)
deriving DecidableEq, Repr

def HeaderFault.message : HeaderFault → String
  | unclosedBounds keyword => s!"{keyword} bounds are missing a closing ')'"
  | badBounds keyword inner =>
    s!"{keyword} bounds must be four numbers (left, top, right, bottom), got '({inner})'"
  | gridArity n =>
    s!"GRID expects 5 parameters (H W borderColor textColor defaultCellColor), got {n}"
  | gridSizeText h w => s!"GRID size must be integers, got H='{h}' W='{w}'"
  | gridSizeSign h w => s!"GRID size must be positive, got {h}x{w}"
  | gridTooLarge h w limit => s!"GRID size {h}x{w} exceeds the limit of {limit} cells"
  | planeArity n => s!"2D_PLANE expects 2 parameters (H W), got {n}"
  | planeSize h w => s!"2D_PLANE size must be positive numbers, got H='{h}' W='{w}'"
  | barGraphArity n => s!"BAR_GRAPH expects 3 parameters (fillColor yMin yMax), got {n}"
  | barGraphRangeText low high => s!"BAR_GRAPH range must be numbers, got '{low}' '{high}'"
  | barGraphRangeOrder low high => s!"BAR_GRAPH yMin must be less than yMax, got {low} >= {high}"
  | canvasArity n => s!"CANVAS expects 2 parameters (H W), got {n}"
  | canvasSize sizes => s!"CANVAS size must be positive numbers, got '{sizes}'"

/-- What can be wrong at a line. -/
inductive Problem where
  | unknownCommand (word : String)
  | header (fault : HeaderFault)
  | countMissing (block : String)
  | countInvalid (block line : String)
  | rowsMissing (block : String) (expected : Int) (found : Nat)
  | colorPositionsEntry (line : String)
  | polylineEntry (line : String)
  | wallFlags (block : String) (found expected : Nat)
  | groupCount (block line : String)
  | barDataMissing
  | barDataCount (line : String)
  | barDataEnded (found : Nat) (expected : Int)
  | barValue (value label : String)
  | other (text : String)
deriving DecidableEq, Repr

def Problem.message : Problem → String
  | unknownCommand word => s!"Unknown command '{word}'"
  | header fault => fault.message
  | countMissing name => s!"{name} is missing its count line"
  | countInvalid name line => s!"Invalid {name} count '{line}'"
  | rowsMissing name expected found => s!"{name} expected {expected} line(s) but found {found}"
  | colorPositionsEntry line =>
    s!"CELL_COLORS_POS entry must be 'color count r c ...', got '{line}'"
  | polylineEntry line => s!"LINES entry must be 'color count x y ...', got '{line}'"
  | wallFlags name found expected => s!"{name} row has {found} flags, expected {expected}"
  | groupCount name line => s!"{name} entry is missing its count, got '{line}'"
  | barDataMissing => "BAR_GRAPH is missing its data line"
  | barDataCount line => s!"BAR_GRAPH data must start with an item count, got '{line}'"
  | barDataEnded found expected => s!"BAR_GRAPH data ended after {found} of {expected} items"
  | barValue value label => s!"BAR_GRAPH value '{value}' for '{label}' is not a number"
  | other text => text

/-- A problem at a line of the script, counted from one. -/
structure Report where
  line : Int
  problem : Problem
deriving DecidableEq, Repr

def Report.message (r : Report) : String := s!"Line {r.line}: {r.problem.message}"

/-- A spatial command of a frame: its kind, its place among the spatial commands, counted from one,
and its rectangle. -/
structure Placed where
  kind : Kind
  place : Nat
  rect : Rect Binary64
deriving DecidableEq

/-- A diagnostic of a frame. -/
inductive Notice where
  | report (r : Report)
  /-- The commands of one spatial kind were dropped in favour of the other. -/
  | conflict (kept dropped : Kind) (count : Nat)
  | overlap (first second : Placed)
deriving DecidableEq

/-- The four sides of a rectangle as a script writes them. -/
def boundsText (r : Rect Binary64) : String :=
  "(" ++ ", ".intercalate (r.sides.map Numeral.scriptText) ++ ")"

def Placed.text (p : Placed) : String := s!"{p.kind.keyword} #{p.place} at {boundsText p.rect}"

def Notice.message : Notice → String
  | report r => r.message
  | conflict kept dropped n =>
    let plural := if n = 1 then "" else "s"
    s!"Frame contains both GRID and 2D_PLANE; keeping {kept.keyword} " ++
      s!"(dropped {n} {dropped.keyword} command{plural})"
  | overlap a b => s!"Overlap between {a.text} and {b.text}"

end Flipbook
