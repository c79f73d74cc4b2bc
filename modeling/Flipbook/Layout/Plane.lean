import Flipbook.Config
import Flipbook.Geometry.Scale

/-! Planes in pixels: every point goes through one map; radii scale with the width alone. -/
namespace Flipbook.Layout

open Flipbook.Geometry

variable {α : Type} [Scalar α]

structure Disc (α : Type) where
  center : Point α
  radius : α
  stroke : String
  fill : String
deriving DecidableEq

structure DrawnSegment (α : Type) where
  segment : Segment α
  color : String
  width : α
deriving DecidableEq

structure DrawnPolygon (α : Type) where
  points : List (Point α)
  stroke : String
  fill : String
deriving DecidableEq

structure PlaneLayout (α : Type) where
  bounds : Rect α
  circles : List (Disc α)
  segments : List (DrawnSegment α)
  polygons : List (DrawnPolygon α)
deriving DecidableEq

/-- A point of a plane of height `h` and width `w`, in the rectangle that shows the plane. -/
def planePoint (bounds : Rect α) (h w : α) (p : Point α) : Except Fault (Point α) :=
  (scale bounds w h).map fun f => f p

/-- A length of a plane of width `w`, in the rectangle that shows the plane. -/
def planeRadius (bounds : Rect α) (w r : α) : Except Fault α := divide (r * bounds.width) w

/-- Lays out a plane over a rectangle. Polygons of fewer than three points are not drawn. -/
def layoutPlane (p : Plane α) (bounds : Rect α) : Except Fault (PlaneLayout α) := do
  let toPixels := scale bounds p.width p.height
  let circles ← p.circleGroups.mapM fun group => do
    let centers ← mapPoints toPixels (group.circles.map (·.center))
    (group.circles.zip centers).mapM fun (c, center) => do
      return (⟨center, ← planeRadius bounds p.width c.radius, group.lineColor,
        group.fillColor⟩ : Disc α)
  let segments ← p.lineGroups.mapM fun group =>
    group.segments.mapM fun s => do
      let f ← toPixels
      return (⟨⟨f s.a, f s.b⟩, group.color, group.width⟩ : DrawnSegment α)
  let polygons ← (p.polygonGroups.filter fun group => 3 ≤ group.vertices.length).mapM
    fun group => do
      let points ← mapPoints toPixels group.vertices
      return (⟨points, group.lineColor, group.fillColor⟩ : DrawnPolygon α)
  return ⟨bounds, circles.flatten, segments.flatten, polygons⟩

end Flipbook.Layout
