import Flipbook.Geometry.Rect

/-! Draw commands: what one frame shows. -/
namespace Flipbook

variable {α β : Type}

/-- A line through cell middles; `(x, y)` is `(column, row)`. -/
structure Polyline (α : Type) where
  color : String
  points : List (Point α)
deriving DecidableEq, Repr

/-- The mark of a wall in a row of flags. -/
def wallMark : Char := 'Y'

/-- A row of flags with every wall. -/
def allWalls (n : Nat) : String := String.ofList (List.replicate n wallMark)

/-- A grid of coloured and lettered cells. Row `i` of `wallVertical` holds the walls left of each
column of row `i` and the last one's right wall, row `i` of `wallHorizontal` those above row `i`. -/
structure Grid (α : Type) where
  height : Int
  width : Int
  borderColor : String
  textColor : String
  defaultColor : String
  colors : List (List String) := []
  texts : List (List String) := []
  polylines : List (Polyline α) := []
  wallVertical : List String := []
  wallHorizontal : List String := []
  bounds : Option (Rect α) := none
deriving DecidableEq, Repr

structure Circle (α : Type) where
  center : Point α
  radius : α
deriving DecidableEq, Repr

structure CircleGroup (α : Type) where
  lineColor : String
  fillColor : String
  circles : List (Circle α) := []
deriving DecidableEq, Repr

structure Segment (α : Type) where
  a : Point α
  b : Point α
deriving DecidableEq, Repr

structure LineGroup (α : Type) where
  color : String
  width : α
  segments : List (Segment α) := []
deriving DecidableEq, Repr

structure PolygonGroup (α : Type) where
  lineColor : String
  fillColor : String
  vertices : List (Point α) := []
deriving DecidableEq, Repr

/-- A continuous plane with circles, segments and polygons. -/
structure Plane (α : Type) where
  height : α
  width : α
  circleGroups : List (CircleGroup α) := []
  lineGroups : List (LineGroup α) := []
  polygonGroups : List (PolygonGroup α) := []
  bounds : Option (Rect α) := none
deriving DecidableEq, Repr

structure Bar (α : Type) where
  label : String
  value : α
deriving DecidableEq, Repr

/-- Bars between a lowest and a highest value. -/
structure BarGraph (α : Type) where
  fillColor : String
  low : α
  high : α
  bars : List (Bar α) := []
deriving DecidableEq, Repr

/-- The nominal size of the picture. -/
structure Canvas (α : Type) where
  height : α
  width : α
deriving DecidableEq, Repr

inductive Command (α : Type) where
  | canvas (canvas : Canvas α)
  | grid (grid : Grid α)
  | plane (plane : Plane α)
  | barGraph (graph : BarGraph α)
  | textArea (text : String)
  | score (text : String)
  | debug
deriving DecidableEq, Repr

/-- The kinds of draw commands. -/
inductive Kind where
  | canvas | grid | plane | barGraph | textArea | score | debug
deriving DecidableEq, Repr

namespace Kind

/-- The word that opens a command of this kind. -/
def keyword : Kind → String
  | canvas => "CANVAS"
  | grid => "GRID"
  | plane => "2D_PLANE"
  | barGraph => "BAR_GRAPH"
  | textArea => "TEXTAREA"
  | score => "SCORE"
  | debug => "DEBUG"

def all : List Kind := [canvas, grid, plane, barGraph, textArea, score, debug]

/-- Whether commands of this kind occupy a rectangle of the canvas. -/
def isSpatial : Kind → Bool
  | grid | plane => true
  | _ => false

/-- Whether commands of this kind go on in the lines after their own. -/
def goesOn : Kind → Bool
  | grid | plane | barGraph => true
  | _ => false

end Kind

namespace Command

def kind : Command α → Kind
  | canvas _ => .canvas
  | grid _ => .grid
  | plane _ => .plane
  | barGraph _ => .barGraph
  | textArea _ => .textArea
  | score _ => .score
  | debug => .debug

def isSpatial (c : Command α) : Bool := c.kind.isSpatial

/-- The rectangle that a command asks for. -/
def bounds? : Command α → Option (Rect α)
  | grid g => g.bounds
  | plane p => p.bounds
  | _ => none

def canvas? : Command α → Option (Canvas α)
  | canvas c => some c
  | _ => none

end Command

/-! ## The same picture over other numbers -/

def Polyline.map (f : α → β) (l : Polyline α) : Polyline β :=
  { color := l.color, points := l.points.map (·.map f) }

def Grid.map (f : α → β) (g : Grid α) : Grid β :=
  { g with polylines := g.polylines.map (·.map f), bounds := g.bounds.map (·.map f) }

def Circle.map (f : α → β) (c : Circle α) : Circle β := ⟨c.center.map f, f c.radius⟩

def CircleGroup.map (f : α → β) (g : CircleGroup α) : CircleGroup β :=
  { g with circles := g.circles.map (·.map f) }

def Segment.map (f : α → β) (s : Segment α) : Segment β := ⟨s.a.map f, s.b.map f⟩

def LineGroup.map (f : α → β) (g : LineGroup α) : LineGroup β :=
  { color := g.color, width := f g.width, segments := g.segments.map (·.map f) }

def PolygonGroup.map (f : α → β) (g : PolygonGroup α) : PolygonGroup β :=
  { g with vertices := g.vertices.map (·.map f) }

def Plane.map (f : α → β) (p : Plane α) : Plane β where
  height := f p.height
  width := f p.width
  circleGroups := p.circleGroups.map (·.map f)
  lineGroups := p.lineGroups.map (·.map f)
  polygonGroups := p.polygonGroups.map (·.map f)
  bounds := p.bounds.map (·.map f)

def Bar.map (f : α → β) (b : Bar α) : Bar β := ⟨b.label, f b.value⟩

def BarGraph.map (f : α → β) (g : BarGraph α) : BarGraph β where
  fillColor := g.fillColor
  low := f g.low
  high := f g.high
  bars := g.bars.map (·.map f)

def Canvas.map (f : α → β) (c : Canvas α) : Canvas β := ⟨f c.height, f c.width⟩

def Command.map (f : α → β) : Command α → Command β
  | .canvas c => .canvas (c.map f)
  | .grid g => .grid (g.map f)
  | .plane p => .plane (p.map f)
  | .barGraph g => .barGraph (g.map f)
  | .textArea text => .textArea text
  | .score text => .score text
  | .debug => .debug

/-- The first canvas among some commands. -/
def findCanvas (cs : List (Command α)) : Option (Canvas α) := cs.findSome? Command.canvas?

end Flipbook
