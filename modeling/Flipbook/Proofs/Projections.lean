import Mathlib
import Flipbook.Proofs.Lists
import Flipbook.Proofs.Tilings

/-!
Planes point by point. A plane is drawn in batches, group by group; each point of it is where the
map of a single point takes it, with the colours of its own group. Over the rationals this map is
affine: it takes the plane onto the rectangle that shows it, corner to corner.
-/
namespace Flipbook.Layout

open Flipbook.Geometry

variable {α : Type} [Scalar α] {p : Plane α} {bounds : Rect α} {box : Rect ℚ} {h w : ℚ}

/-! ## Groups and their members -/

/-- A circle of a group as it is drawn: its centre and its radius by themselves. -/
structure DrawsCircle (p : Plane α) (bounds : Rect α) (c : CircleGroup α × Circle α)
    (d : Disc α) : Prop where
  center : planePoint bounds p.height p.width c.2.center = .ok d.center
  radius : planeRadius bounds p.width c.2.radius = .ok d.radius
  stroke : d.stroke = c.1.lineColor
  fill : d.fill = c.1.fillColor

/-- A segment of a group as it is drawn: both ends by themselves. -/
structure DrawsSegment (p : Plane α) (bounds : Rect α) (s : LineGroup α × Segment α)
    (d : DrawnSegment α) : Prop where
  a : planePoint bounds p.height p.width s.2.a = .ok d.segment.a
  b : planePoint bounds p.height p.width s.2.b = .ok d.segment.b
  color : d.color = s.1.color
  width : d.width = s.1.width

/-- A polygon as it is drawn: each vertex by itself. -/
structure DrawsPolygon (p : Plane α) (bounds : Rect α) (g : PolygonGroup α)
    (d : DrawnPolygon α) : Prop where
  points : List.Forall₂ (fun v q => planePoint bounds p.height p.width v = .ok q) g.vertices
    d.points
  stroke : d.stroke = g.lineColor
  fill : d.fill = g.fillColor

/-- A layout of a plane point by point: the members of all groups in their order, and of the
polygons those that have three points at least. -/
structure DrawsPlane (p : Plane α) (bounds : Rect α) (l : PlaneLayout α) : Prop where
  bounds_eq : l.bounds = bounds
  circles : List.Forall₂ (DrawsCircle p bounds)
    (p.circleGroups.flatMap fun g => g.circles.map fun c => (g, c)) l.circles
  segments : List.Forall₂ (DrawsSegment p bounds)
    (p.lineGroups.flatMap fun g => g.segments.map fun s => (g, s)) l.segments
  polygons : List.Forall₂ (DrawsPolygon p bounds)
    (p.polygonGroups.filter fun g => 3 ≤ g.vertices.length) l.polygons

theorem planePoint_eq (hw : Scalar.isZero p.width = false) (hh : Scalar.isZero p.height = false)
    (bounds : Rect α) (q : Point α) :
    planePoint bounds p.height p.width q = .ok (scaled bounds p.width p.height q) := by
  rw [planePoint, scale_eq bounds hw hh]
  rfl

theorem drawsPlane_planePicture (hw : Scalar.isZero p.width = false)
    (hh : Scalar.isZero p.height = false) (bounds : Rect α) :
    DrawsPlane p bounds (planePicture p bounds) := by
  have hpoint := planePoint_eq hw hh bounds
  refine ⟨rfl, forall₂_members (fun g c => ?_) _, forall₂_members (fun g s => ?_) _, ?_⟩
  · exact ⟨hpoint _, divide_eq _ hw, rfl, rfl⟩
  · exact ⟨hpoint _, hpoint _, rfl, rfl⟩
  · rw [planePicture, List.forall₂_map_right_iff, List.forall₂_same]
    refine fun g _ => ⟨?_, rfl, rfl⟩
    rw [polygonPicture, List.forall₂_map_right_iff, List.forall₂_same]
    exact fun v _ => hpoint v

/-! ## The map of a single point -/

/-- The point halfway between two points. -/
def halfway (a b : Point ℚ) : Point ℚ := ⟨(a.x + b.x) / 2, (a.y + b.y) / 2⟩

/-- A map of a plane of height `h` and width `w` onto a rectangle: corner to corner, halfway points
to halfway points, and no point of the plane to one outside of the rectangle. -/
structure Projects (box : Rect ℚ) (h w : ℚ) (φ : Point ℚ → Point ℚ) : Prop where
  upperLeft : φ ⟨0, 0⟩ = ⟨box.left, box.top⟩
  lowerRight : φ ⟨w, h⟩ = ⟨box.right, box.bottom⟩
  halfway : ∀ a b, φ (halfway a b) = Layout.halfway (φ a) (φ b)
  inside : box.left ≤ box.right → box.top ≤ box.bottom →
    ∀ q, 0 ≤ q.x → q.x ≤ w → 0 ≤ q.y → q.y ≤ h →
      (box.left ≤ (φ q).x ∧ (φ q).x ≤ box.right) ∧ box.top ≤ (φ q).y ∧ (φ q).y ≤ box.bottom

/-- One coordinate of the map. -/
theorem scaled_bounds {start stop size v : ℚ} (hsize : 0 < size) (h : start ≤ stop) (hv : 0 ≤ v)
    (hle : v ≤ size) :
    start ≤ v * ((stop - start) / size) + start ∧ v * ((stop - start) / size) + start ≤ stop := by
  have hstep : 0 ≤ (stop - start) / size := div_nonneg (sub_nonneg.mpr h) hsize.le
  have hlow : 0 ≤ v * ((stop - start) / size) := mul_nonneg hv hstep
  have hhigh : v * ((stop - start) / size) ≤ stop - start := by
    calc v * ((stop - start) / size) ≤ size * ((stop - start) / size) :=
          mul_le_mul_of_nonneg_right hle hstep
      _ = stop - start := mul_div_cancel₀ _ hsize.ne'
  constructor
  · linarith
  · linarith

theorem projects_scaled (hh : 0 < h) (hw : 0 < w) (box : Rect ℚ) :
    Projects box h w (scaled box w h) where
  upperLeft := by simp [scaled]
  lowerRight := by
    have hfar {start stop size : ℚ} (hsize : 0 < size) :
        size * ((stop - start) / size) + start = stop := by
      rw [mul_div_cancel₀ _ hsize.ne', sub_add_cancel]
    exact congrArg₂ Point.mk (hfar hw) (hfar hh)
  halfway := by
    intro a b
    simp only [scaled, Layout.halfway, Point.mk.injEq]
    constructor
    · ring
    · ring
  inside := by
    intro hx hy q hq hqw hq' hqh
    exact ⟨scaled_bounds hw hx hq hqw, scaled_bounds hh hy hq' hqh⟩

/-- A plane is drawn point by point, each of its points where the map of a single point takes it;
and this map, taken exactly, is affine and keeps to the rectangle. -/
theorem plane_drawn_pointwise {p : Plane Binary64} (hh : 0 < p.height) (hw : 0 < p.width)
    (bounds : Rect Binary64) :
    (∃ l, layoutPlane p bounds = .ok l ∧ DrawsPlane p bounds l) ∧
    ∀ (box : Rect ℚ) (h w : ℚ), 0 < h → 0 < w →
      ∃ φ, (∀ q, planePoint box h w q = .ok (φ q)) ∧ Projects box h w φ := by
  have hwidth := Binary64.isZero_of_pos hw
  have hheight := Binary64.isZero_of_pos hh
  refine ⟨⟨_, layoutPlane_eq hwidth hheight bounds,
    drawsPlane_planePicture hwidth hheight bounds⟩, fun box h w hh hw => ?_⟩
  refine ⟨scaled box w h, fun q => ?_, projects_scaled hh hw box⟩
  rw [planePoint, scale_eq box (Scalar.isZero_eq_false hw.ne') (Scalar.isZero_eq_false hh.ne')]
  rfl

/-- A plane wider than high, with an empty group, a circle in its middle and a polygon of two
points. -/
def widePlane : Plane Binary64 where
  height := 2.0
  width := 4.0
  circleGroups := [⟨"red", "none", []⟩, ⟨"blue", "white", [⟨⟨2.0, 1.0⟩, 0.5⟩]⟩]
  polygonGroups := [⟨"red", "none", [⟨0, 0⟩, ⟨4.0, 2.0⟩]⟩]

def wideBounds : Rect Binary64 := ⟨10.0, 20.0, 90.0, 40.0⟩

theorem plane_drawn_pointwise_wide :
    0 < widePlane.height ∧ 0 < widePlane.width ∧
    (∃ l, layoutPlane widePlane wideBounds = .ok l ∧ DrawsPlane widePlane wideBounds l ∧
      l.circles = [⟨⟨50.0, 30.0⟩, 10.0, "blue", "white"⟩] ∧ l.polygons = []) ∧
    ∃ φ : Point ℚ → Point ℚ, (∀ q, planePoint ⟨10, 20, 90, 40⟩ 2 4 q = .ok (φ q)) ∧
      φ ⟨4, 2⟩ = ⟨90, 40⟩ := by
  have hh : 0 < widePlane.height := by decide +kernel
  have hw : 0 < widePlane.width := by decide +kernel
  have hcircles : (layoutPlane widePlane wideBounds).map (fun l => (l.circles, l.polygons)) =
      .ok ([⟨⟨50.0, 30.0⟩, 10.0, "blue", "white"⟩], []) := by
    decide +kernel
  obtain ⟨⟨l, hl, hdraws⟩, hmap⟩ := plane_drawn_pointwise hh hw wideBounds
  obtain ⟨φ, hφ, hprojects⟩ := hmap ⟨10, 20, 90, 40⟩ 2 4 (by norm_num) (by norm_num)
  rw [hl] at hcircles
  obtain ⟨hdiscs, hpolygons⟩ := Prod.mk.inj (Except.ok.inj hcircles)
  exact ⟨hh, hw, ⟨l, hl, hdraws, hdiscs, hpolygons⟩, φ, hφ, hprojects.lowerRight⟩

end Flipbook.Layout
