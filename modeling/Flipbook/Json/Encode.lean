import Flipbook.Json.Key
import Flipbook.Layout.Frame

/-! Frames and their layouts as JSON values. A field is written under its key's first spelling. -/
namespace Flipbook.Json

def ofTexts (ts : List String) : Json := .list (ts.map .text)

def ofTextTable (rows : List (List String)) : Json := .list (rows.map ofTexts)

def ofList {τ : Type} (f : τ → Json) (xs : List τ) : Json := .list (xs.map f)

def ofOption {τ : Type} (f : τ → Json) (x : Option τ) : Json := (x.map f).getD .null

/-- An object of keyed fields. -/
def ofFields (fs : List (Key × Json)) : Json := .object (fs.map fun (k, v) => (k.written, v))

def ofRect (r : Rect Binary64) : Json :=
  ofFields [(Key.left, .real r.left), (Key.top, .real r.top), (Key.right, .real r.right),
    (Key.bottom, .real r.bottom)]

def ofPoint (p : Point Binary64) : Json := ofFields [(Key.x, .real p.x), (Key.y, .real p.y)]

def ofPolyline (l : Polyline Binary64) : Json :=
  ofFields [(Key.color, .text l.color), (Key.points, ofList ofPoint l.points)]

def ofCircle (c : Circle Binary64) : Json :=
  ofFields [(Key.x, .real c.center.x), (Key.y, .real c.center.y), (Key.r, .real c.radius)]

def ofCircleGroup (g : CircleGroup Binary64) : Json :=
  ofFields [(Key.lineColor, .text g.lineColor), (Key.fillColor, .text g.fillColor),
    (Key.circles, ofList ofCircle g.circles)]

def ofSegment (s : Segment Binary64) : Json :=
  ofFields [(Key.ax, .real s.a.x), (Key.ay, .real s.a.y), (Key.bx, .real s.b.x),
    (Key.bY, .real s.b.y)]

def ofLineGroup (g : LineGroup Binary64) : Json :=
  ofFields [(Key.color, .text g.color), (Key.lineWidth, .real g.width),
    (Key.lines, ofList ofSegment g.segments)]

def ofPolygonGroup (g : PolygonGroup Binary64) : Json :=
  ofFields [(Key.lineColor, .text g.lineColor), (Key.fillColor, .text g.fillColor),
    (Key.polygon, ofFields [(Key.points, ofList ofPoint g.vertices)])]

def ofBar (b : Bar Binary64) : Json :=
  ofFields [(Key.label, .text b.label), (Key.value, .real b.value)]

/-- The fields of a command after its type. -/
def commandFields : Command Binary64 → List (Key × Json)
  | .canvas c => [(Key.height, .real c.height), (Key.width, .real c.width)]
  | .grid g =>
    [(Key.height, .integer g.height), (Key.width, .integer g.width),
      (Key.borderColor, .text g.borderColor), (Key.textColor, .text g.textColor),
      (Key.defaultColor, .text g.defaultColor), (Key.gridColors, ofTextTable g.colors),
      (Key.gridTexts, ofTextTable g.texts), (Key.gridLines, ofList ofPolyline g.polylines),
      (Key.wallVertical, ofTexts g.wallVertical), (Key.wallHorizontal, ofTexts g.wallHorizontal),
      (Key.bounds, ofOption ofRect g.bounds)]
  | .plane p =>
    [(Key.height, .real p.height), (Key.width, .real p.width),
      (Key.circleGroups, ofList ofCircleGroup p.circleGroups),
      (Key.lineGroups, ofList ofLineGroup p.lineGroups),
      (Key.polygonGroups, ofList ofPolygonGroup p.polygonGroups),
      (Key.bounds, ofOption ofRect p.bounds)]
  | .barGraph b =>
    [(Key.fillColor, .text b.fillColor), (Key.yMin, .real b.low), (Key.yMax, .real b.high),
      (Key.items, ofList ofBar b.bars)]
  | .textArea s => [(Key.text, .text s)]
  | .score s => [(Key.score, .text s)]
  | .debug => []

def ofCommand (c : Command Binary64) : Json :=
  ofFields ((Key.type, .text c.kind.keyword) :: commandFields c)

def ofFrame (f : Frame Binary64 String) : Json :=
  ofFields [(Key.commands, ofList ofCommand f.commands), (Key.rawText, .text f.rawText),
    (Key.showDebug, .bool f.showDebug), (Key.errors, ofTexts f.errors)]

/-- All frames, by mode. -/
def ofReel (reel : Reel Binary64 String) : Json :=
  .object (reel.map fun (mode, frames) => (mode, ofList ofFrame frames))

open Layout

def ofPair (p : Point Binary64) : Json := .list [.real p.x, .real p.y]

def ofLineSegment (s : Segment Binary64) : Json :=
  .object [("x1", .real s.a.x), ("y1", .real s.a.y), ("x2", .real s.b.x), ("y2", .real s.b.y)]

def ofCell (c : Cell Binary64) : Json :=
  .object [("row", .integer c.row), ("col", .integer c.col), ("rect", ofRect c.rect),
    ("fill", .text c.fill), ("text", .text c.text), ("tooltip", .text c.tooltip)]

def ofStroke (s : Stroke Binary64) : Json :=
  .object [("color", .text s.color), ("points", ofList ofPair s.points),
    ("strokeWidth", .real s.width), ("vertexRadius", .real s.vertexRadius)]

def ofGridLayout (g : GridLayout Binary64) : Json :=
  .object [("kind", .text Kind.grid.keyword), ("bounds", ofRect g.bounds),
    ("cellWidth", .real g.cellWidth), ("cellHeight", .real g.cellHeight),
    ("fontSize", .real g.fontSize), ("borderColor", .text g.borderColor),
    ("textColor", .text g.textColor), ("wallWidth", .real g.wallWidth),
    ("cells", ofList ofCell g.cells), ("walls", ofList ofLineSegment g.walls),
    ("polylines", ofList ofStroke g.polylines)]

def ofDisc (d : Disc Binary64) : Json :=
  .object [("cx", .real d.center.x), ("cy", .real d.center.y), ("r", .real d.radius),
    ("stroke", .text d.stroke), ("fill", .text d.fill)]

def ofDrawnSegment (s : DrawnSegment Binary64) : Json :=
  .object [("segment", ofLineSegment s.segment), ("color", .text s.color),
    ("strokeWidth", .real s.width)]

def ofDrawnPolygon (p : DrawnPolygon Binary64) : Json :=
  .object [("points", ofList ofPair p.points), ("stroke", .text p.stroke), ("fill", .text p.fill)]

def ofPlaneLayout (p : PlaneLayout Binary64) : Json :=
  .object [("kind", .text Kind.plane.keyword), ("bounds", ofRect p.bounds),
    ("circles", ofList ofDisc p.circles), ("lines", ofList ofDrawnSegment p.segments),
    ("polygons", ofList ofDrawnPolygon p.polygons)]

def ofBarBox (b : BarBox Binary64) : Json :=
  .object [("label", .text b.label), ("value", .real b.value), ("rect", ofRect b.rect),
    ("fill", .text b.fill)]

def ofBarGraphLayout (b : BarGraphLayout Binary64) : Json :=
  .object [("bounds", ofRect b.bounds), ("yMin", .real b.low), ("yMax", .real b.high),
    ("bars", ofList ofBarBox b.bars)]

def ofItem : Item Binary64 → Json
  | .grid g => ofGridLayout g
  | .plane p => ofPlaneLayout p

def ofFrameLayout (f : FrameLayout Binary64 String) : Json :=
  .object [("canvasWidth", .real f.canvasWidth), ("canvasHeight", .real f.canvasHeight),
    ("items", ofList ofItem f.items), ("barGraphs", ofList ofBarGraphLayout f.barGraphs),
    ("texts", ofTexts f.texts), ("score", ofOption .text f.score),
    ("debugText", ofOption .text f.debugText), ("errors", ofTexts f.errors)]

end Flipbook.Json
