import Flipbook.Geometry.Rect
import Flipbook.Command

/-! Drawing constants, and the settings of the surroundings that some of them come from. -/
namespace Flipbook

variable {α : Type} [Scalar α]

structure Settings (α : Type) [Scalar α] where
  canvasWidth : α := 800.0
  canvasHeight : α := 800.0
  maxGridCells : Int := 1000000

structure Config (α : Type) [Scalar α] where
  /-- The canvas of a frame that names none. -/
  canvasWidth : α := 800.0
  canvasHeight : α := 800.0
  /-- Larger grids are refused. -/
  maxGridCells : Int := 1000000
  /-- Longer cell texts are cut to this length and end in the ellipsis. -/
  truncateLength : Int := 5
  ellipsis : String := "..."
  maxFontSize : α := 30.0
  wallWidth : α := 2.0
  polylineWidth : α := 3.0
  /-- The radius of a polyline's vertices, as a part of the lesser cell side. -/
  vertexRadiusRatio : α := 0.05
  barGraphWidth : α := 350.0
  barGraphHeight : α := 200.0
  barGraphGap : α := 10.0

def Config.ofSettings (s : Settings α) : Config α where
  canvasWidth := s.canvasWidth
  canvasHeight := s.canvasHeight
  maxGridCells := s.maxGridCells

/-- The width and the height of a frame's canvas. -/
def canvasSize (canvas : Option (Canvas α)) (cfg : Config α) : α × α :=
  match canvas with
  | some c => (c.width, c.height)
  | none => (cfg.canvasWidth, cfg.canvasHeight)

/-- The rectangle of a command: the one it asks for, else all of the canvas. -/
def resolveBounds (asked : Option (Rect α)) (canvas : Option (Canvas α)) (cfg : Config α) :
    Rect α :=
  match asked with
  | some r => r
  | none => ⟨0, 0, (canvasSize canvas cfg).1, (canvasSize canvas cfg).2⟩

end Flipbook
