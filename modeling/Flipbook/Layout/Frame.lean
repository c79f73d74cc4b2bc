import Flipbook.Frame
import Flipbook.Layout.BarGraph
import Flipbook.Layout.Grid
import Flipbook.Layout.Plane

/-! Frames in pixels: all that a renderer needs to draw one frame. -/
namespace Flipbook.Layout

open Flipbook.Geometry

variable {α ε : Type} [Scalar α]

/-- A spatial command in pixels. -/
inductive Item (α : Type) where
  | grid (layout : GridLayout α)
  | plane (layout : PlaneLayout α)
deriving DecidableEq

structure FrameLayout (α ε : Type) where
  canvasWidth : α
  canvasHeight : α
  items : List (Item α)
  barGraphs : List (BarGraphLayout α)
  texts : List String
  score : Option String
  debugText : Option String
  errors : List ε
deriving DecidableEq

def Item.kind : Item α → Kind
  | grid _ => .grid
  | plane _ => .plane

def Item.bounds : Item α → Rect α
  | grid g => g.bounds
  | plane p => p.bounds

/-- The layout of a command, if it is spatial. -/
def layoutItem? (canvas : Option (Canvas α)) (cfg : Config α) :
    Command α → Option (Except Fault (Item α))
  | .grid g => some ((layoutGrid g (resolveBounds g.bounds canvas cfg) cfg).map .grid)
  | .plane p => some ((layoutPlane p (resolveBounds p.bounds canvas cfg)).map .plane)
  | _ => none

def barGraph? : Command α → Option (BarGraph α)
  | .barGraph g => some g
  | _ => none

def textArea? : Command α → Option String
  | .textArea text => some text
  | _ => none

def score? : Command α → Option String
  | .score text => some text
  | _ => none

/-- The layout of a frame from those of its spatial commands. Of several scores the last one
counts. -/
def layoutAround (items : List (Except Fault (Item α))) (f : Frame α ε) (cfg : Config α) :
    Except Fault (FrameLayout α ε) := do
  let canvas := findCanvas f.commands
  let items ← items.mapM id
  let barGraphs ← (f.commands.filterMap barGraph?).zipIdx.mapM fun (g, n) =>
    layoutBarGraph g (panel cfg n)
  return {
    canvasWidth := (canvasSize canvas cfg).1
    canvasHeight := (canvasSize canvas cfg).2
    items, barGraphs
    texts := f.commands.filterMap textArea?
    score := (f.commands.filterMap score?).getLast?
    debugText := if f.showDebug then some f.rawText else none
    errors := f.errors }

/-- Lays out a frame. -/
def layoutFrame (f : Frame α ε) (cfg : Config α) : Except Fault (FrameLayout α ε) :=
  layoutAround (f.commands.filterMap (layoutItem? (findCanvas f.commands) cfg)) f cfg

/-! ## Checks -/

def checkedItem? (canvas : Option (Canvas Binary64)) (cfg : Config Binary64) :
    Command Binary64 → Option (Except Fault (Item Binary64))
  | .grid g => some ((checkedGrid g (resolveBounds g.bounds canvas cfg) cfg).map .grid)
  | c => layoutItem? canvas cfg c

/-- Lays out a frame whose grids are checked, each in its turn. -/
def checkedFrame (f : Frame Binary64 ε) (cfg : Config Binary64) :
    Except Fault (FrameLayout Binary64 ε) :=
  layoutAround (f.commands.filterMap (checkedItem? (findCanvas f.commands) cfg)) f cfg

end Flipbook.Layout
