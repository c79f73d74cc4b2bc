import Mathlib
import Flipbook.Layout.Frame
import Flipbook.Proofs.Lists

/-!
Layouts without a fault. Every layout has a formula for each of its members; where no side is
divided into zero parts, the layout comes to these members and to no fault. This holds over any
scalars in which a positive number of parts is not zero.
-/
namespace Flipbook

variable {α β ε : Type} [Scalar α]

/-- Whether a positive number of parts is never zero as a scalar. -/
def Scalar.CountsParts (α : Type) [Scalar α] : Prop :=
  ∀ n : Int, 1 ≤ n → Scalar.isZero (n : α) = false

namespace Geometry

variable {start stop x y w h : α} {n rows cols : Int} {m k : Nat} {r : Rect α}

theorem divide_eq (x : α) (hy : Scalar.isZero y = false) : divide x y = .ok (x / y) := by
  rw [divide, hy]
  rfl

/-- Border `k` of `n` equal cells between `start` and `stop`. -/
def border (start stop : α) (n : Int) (k : Nat) : α :=
  start + ((k : Int) : α) * ((stop - start) / (n : α))

theorem edges_eq (start stop : α) (hn : Scalar.isZero (n : α) = false) :
    edges start stop n = .ok ((Array.range (n + 1).toNat).map (border start stop n)) := by
  rw [edges, divide_eq _ hn]
  rfl

theorem edge_eq {f : Nat → β} (hk : k < m) : edge ((Array.range m).map f) k = .ok (f k) := by
  have hget : ((Array.range m).map f)[k]? = some (f k) := by simp [hk]
  rw [edge, hget]

/-- The point of a rectangle that shows a point of a plane of this width and height. -/
def scaled (r : Rect α) (w h : α) (p : Point α) : Point α :=
  ⟨p.x * (r.width / w) + r.left, p.y * (r.height / h) + r.top⟩

theorem scale_eq (r : Rect α) (hw : Scalar.isZero w = false) (hh : Scalar.isZero h = false) :
    scale r w h = .ok (scaled r w h) := by
  rw [scale, divide_eq _ hw, ok_bind, divide_eq _ hh]
  rfl

/-- The point of a rectangle that shows a point of a grid. -/
def centered (r : Rect α) (rows cols : Int) (p : Point α) : Point α :=
  ⟨p.x * (r.width / (cols : α)) + r.width / (cols : α) / ((2 : Int) : α) + r.left,
    p.y * (r.height / (rows : α)) + r.height / (rows : α) / ((2 : Int) : α) + r.top⟩

theorem center_eq (r : Rect α) (hrows : Scalar.isZero (rows : α) = false)
    (hcols : Scalar.isZero (cols : α) = false) :
    center r rows cols = .ok (centered r rows cols) := by
  rw [center, divide_eq _ hcols, ok_bind, divide_eq _ hrows]
  rfl

theorem mapPoints_ok (f : Point β → Point β) (ps : List (Point β)) :
    mapPoints (.ok f) ps = .ok (ps.map f) := by
  cases ps <;> rfl

end Geometry

namespace Layout

open Flipbook.Geometry

variable {g : Grid α} {p : Plane α} {b : BarGraph α} {c : Command α} {cs : List (Command α)}
  {bounds : Rect α} {canvas : Option (Canvas α)} {cfg : Config α} {f : Frame α ε}
  {flags : List String} {count length h w row col : Int} {i j : Nat}

/-! ## Grids -/

/-- The rectangle of a cell. -/
def cellBox (bounds : Rect α) (h w row col : Int) : Rect α :=
  let left := bounds.left + (col : α) * (bounds.width / (w : α))
  let top := bounds.top + (row : α) * (bounds.height / (h : α))
  ⟨left, top, left + bounds.width / (w : α), top + bounds.height / (h : α)⟩

theorem cellRect_eq (bounds : Rect α) (hh : Scalar.isZero (h : α) = false)
    (hw : Scalar.isZero (w : α) = false) (row col : Int) :
    cellRect bounds h w row col = .ok (cellBox bounds h w row col) := by
  rw [cellRect, divide_eq _ hw, ok_bind, divide_eq _ hh]
  rfl

theorem length_wallRows (rows : List String) (count length : Int) :
    (wallRows rows count length).length = count.toNat := by
  unfold wallRows
  split <;> simp

/-- Walls stand at places of their table only. -/
theorem mem_wallPlaces {rows : List String} (hlength : 0 ≤ length)
    (h : (i, j) ∈ wallPlaces rows count length) : i < count.toNat ∧ j < length.toNat := by
  obtain ⟨n, rfl⟩ := Int.eq_ofNat_of_zero_le hlength
  obtain ⟨⟨text, k⟩, hrow, hflag⟩ := List.mem_flatMap.mp h
  obtain ⟨⟨flag, l⟩, hmem, heq⟩ := List.mem_filterMap.mp hflag
  dsimp only at hmem heq
  split at heq
  · obtain ⟨rfl, rfl⟩ := Prod.mk.inj (Option.some.inj heq)
    have hi := (List.mem_zipIdx hrow).2.1
    have hj := (List.mem_zipIdx hmem).2.1
    rw [length_wallRows] at hi
    rw [Text.upTo_natCast, List.length_take] at hj
    omega
  · cases heq

/-- The wall left of column `j` in row `i`. -/
def verticalWall (g : Grid α) (bounds : Rect α) (i j : Nat) : Segment α :=
  let x := border bounds.left bounds.right g.width j
  ⟨⟨x, border bounds.top bounds.bottom g.height i⟩,
    ⟨x, border bounds.top bounds.bottom g.height (i + 1)⟩⟩

/-- The wall above row `i` in column `j`. -/
def horizontalWall (g : Grid α) (bounds : Rect α) (i j : Nat) : Segment α :=
  let y := border bounds.top bounds.bottom g.height i
  ⟨⟨border bounds.left bounds.right g.width j, y⟩,
    ⟨border bounds.left bounds.right g.width (j + 1), y⟩⟩

def wallSegments (g : Grid α) (bounds : Rect α) : List (Segment α) :=
  (wallPlaces g.wallVertical g.height (g.width + 1)).map
      (fun p => verticalWall g bounds p.1 p.2) ++
    (wallPlaces g.wallHorizontal (g.height + 1) g.width).map
      (fun p => horizontalWall g bounds p.1 p.2)

/-- No wall asks for an edge that a grid does not have. -/
theorem gridWalls_eq (hα : Scalar.CountsParts α) (hh : 1 ≤ g.height) (hw : 1 ≤ g.width)
    (bounds : Rect α) : gridWalls g bounds = .ok (wallSegments g bounds) := by
  -- A wall runs from one edge to the next, so it needs an edge more than its place says.
  have hvertical (p : Nat × Nat) (hp : p ∈ wallPlaces g.wallVertical g.height (g.width + 1)) :
      p.1 + 1 < (g.height + 1).toNat ∧ p.2 < (g.width + 1).toNat := by
    have hplace := mem_wallPlaces (by omega) hp
    omega
  have hhorizontal (p : Nat × Nat)
      (hp : p ∈ wallPlaces g.wallHorizontal (g.height + 1) g.width) :
      p.1 < (g.height + 1).toNat ∧ p.2 + 1 < (g.width + 1).toNat := by
    have hplace := mem_wallPlaces (by omega) hp
    omega
  unfold gridWalls
  rw [edges_eq _ _ (hα g.width hw), ok_bind, edges_eq _ _ (hα g.height hh), ok_bind,
    mapM_eq_map (g := fun p => verticalWall g bounds p.1 p.2), ok_bind,
    mapM_eq_map (g := fun p => horizontalWall g bounds p.1 p.2), ok_bind]
  · rfl
  · intro p hp
    obtain ⟨hrow, hcol⟩ := hhorizontal p hp
    dsimp only
    rw [edge_eq (Nat.lt_of_succ_lt hcol), ok_bind, edge_eq hrow, ok_bind, edge_eq hcol]
    rfl
  · intro p hp
    obtain ⟨hrow, hcol⟩ := hvertical p hp
    dsimp only
    rw [edge_eq hcol, ok_bind, edge_eq (Nat.lt_of_succ_lt hrow), ok_bind, edge_eq hrow]
    rfl

/-- One cell of a grid as it is drawn. -/
def cellPicture (g : Grid α) (bounds : Rect α) (cfg : Config α) (row col : Nat) : Cell α :=
  let text := (g.texts[row]?.bind (·[col]?)).getD ""
  { row, col
    rect := cellBox bounds g.height g.width row col
    fill := (g.colors[row]?.bind (·[col]?)).getD g.defaultColor
    text := displayText text cfg
    tooltip := tooltip row col text }

theorem gridCell_eq (hh : Scalar.isZero (g.height : α) = false)
    (hw : Scalar.isZero (g.width : α) = false) (bounds : Rect α) (cfg : Config α)
    (row col : Nat) : gridCell g bounds cfg row col = .ok (cellPicture g bounds cfg row col) := by
  rw [gridCell, cellRect_eq bounds hh hw]
  rfl

def strokePicture (g : Grid α) (bounds : Rect α) (cfg : Config α) (l : Polyline α) : Stroke α where
  color := l.color
  points := l.points.map (centered bounds g.height g.width)
  width := cfg.polylineWidth
  vertexRadius :=
    Scalar.least (bounds.width / (g.width : α)) (bounds.height / (g.height : α)) *
      cfg.vertexRadiusRatio

/-- A grid as it is drawn. -/
def gridPicture (g : Grid α) (bounds : Rect α) (cfg : Config α) : GridLayout α where
  bounds := bounds
  cellWidth := bounds.width / (g.width : α)
  cellHeight := bounds.height / (g.height : α)
  fontSize := fontSize g.texts (bounds.width / (g.width : α)) (bounds.height / (g.height : α)) cfg
  borderColor := g.borderColor
  textColor := g.textColor
  wallWidth := cfg.wallWidth
  cells := (cellPlaces g.height.toNat g.width.toNat).map
    fun p => cellPicture g bounds cfg p.1 p.2
  walls := wallSegments g bounds
  polylines := (g.polylines.filter fun l => 2 ≤ l.points.length).map (strokePicture g bounds cfg)

theorem layoutGrid_eq (hα : Scalar.CountsParts α) (hh : 1 ≤ g.height) (hw : 1 ≤ g.width)
    (bounds : Rect α) (cfg : Config α) :
    layoutGrid g bounds cfg = .ok (gridPicture g bounds cfg) := by
  have hheight := hα g.height hh
  have hwidth := hα g.width hw
  unfold layoutGrid
  rw [divide_eq _ hwidth, ok_bind, divide_eq _ hheight, ok_bind,
    mapM_eq_map (g := fun p => cellPicture g bounds cfg p.1 p.2), ok_bind,
    center_eq bounds hheight hwidth]
  dsimp only
  rw [mapM_eq_map (g := strokePicture g bounds cfg), ok_bind,
    gridWalls_eq hα hh hw]
  · rfl
  · intro l _
    rw [mapPoints_ok]
    rfl
  · exact fun p _ => gridCell_eq hheight hwidth bounds cfg p.1 p.2

/-! ## Planes -/

def discPicture (p : Plane α) (bounds : Rect α) (group : CircleGroup α) (c : Circle α) :
    Disc α where
  center := scaled bounds p.width p.height c.center
  radius := c.radius * bounds.width / p.width
  stroke := group.lineColor
  fill := group.fillColor

def segmentPicture (p : Plane α) (bounds : Rect α) (group : LineGroup α) (s : Segment α) :
    DrawnSegment α where
  segment := ⟨scaled bounds p.width p.height s.a, scaled bounds p.width p.height s.b⟩
  color := group.color
  width := group.width

def polygonPicture (p : Plane α) (bounds : Rect α) (group : PolygonGroup α) :
    DrawnPolygon α where
  points := group.vertices.map (scaled bounds p.width p.height)
  stroke := group.lineColor
  fill := group.fillColor

/-- A plane as it is drawn. -/
def planePicture (p : Plane α) (bounds : Rect α) : PlaneLayout α where
  bounds := bounds
  circles := p.circleGroups.flatMap fun group => group.circles.map (discPicture p bounds group)
  segments := p.lineGroups.flatMap fun group => group.segments.map (segmentPicture p bounds group)
  polygons := (p.polygonGroups.filter fun group => 3 ≤ group.vertices.length).map
    (polygonPicture p bounds)

/-- Without a circle the map of a plane is not asked for, and its circles come to none. -/
theorem mapM_discs (hw : Scalar.isZero p.width = false) (bounds : Rect α)
    (group : CircleGroup α) (centers : List (Point α))
    (hcenters : centers = (group.circles.map (·.center)).map (scaled bounds p.width p.height)) :
    ((group.circles.zip centers).mapM fun (c, center) => do
      return (⟨center, ← planeRadius bounds p.width c.radius, group.lineColor,
        group.fillColor⟩ : Disc α)) = .ok (group.circles.map (discPicture p bounds group)) := by
  have hzip : group.circles.zip centers =
      group.circles.map fun c => (c, scaled bounds p.width p.height c.center) := by
    have hself : group.circles = group.circles.map fun c => c := (List.map_id' _).symm
    rw [hcenters, List.map_map]
    conv_lhs => rw [hself, List.map_map]
    exact List.zip_map'
  rw [hzip, List.mapM_map]
  refine mapM_eq_map fun c _ => ?_
  dsimp only [Function.comp_apply]
  rw [planeRadius, divide_eq _ hw]
  rfl

theorem layoutPlane_eq (hw : Scalar.isZero p.width = false) (hh : Scalar.isZero p.height = false)
    (bounds : Rect α) : layoutPlane p bounds = .ok (planePicture p bounds) := by
  unfold layoutPlane
  rw [scale_eq bounds hw hh]
  dsimp only
  rw [mapM_eq_map (g := fun group => group.circles.map (discPicture p bounds group)), ok_bind,
    mapM_eq_map (g := fun group => group.segments.map (segmentPicture p bounds group)), ok_bind,
    mapM_eq_map (g := polygonPicture p bounds), ok_bind]
  · rfl
  · intro group _
    rw [mapPoints_ok]
    rfl
  · intro group _
    exact mapM_eq_map fun s _ => rfl
  · intro group _
    rw [mapPoints_ok, ok_bind]
    exact mapM_discs hw bounds group _ rfl

/-! ## Bar graphs -/

/-- Bar `k` of a graph as it is drawn. -/
def barPicture (b : BarGraph α) (bounds : Rect α) (bar : Bar α) (k : Nat) : BarBox α where
  label := bar.label
  value := bar.value
  rect := ⟨border bounds.left bounds.right b.bars.length k,
    bounds.bottom - barFraction b bar.value * bounds.height,
    border bounds.left bounds.right b.bars.length (k + 1), bounds.bottom⟩
  fill := b.fillColor

/-- A bar graph as it is drawn. -/
def barGraphPicture (b : BarGraph α) (bounds : Rect α) : BarGraphLayout α where
  bounds := bounds
  low := b.low
  high := b.high
  bars := b.bars.zipIdx.map fun p => barPicture b bounds p.1 p.2

theorem layoutBarGraph_eq (hα : Scalar.CountsParts α) (b : BarGraph α) (bounds : Rect α) :
    layoutBarGraph b bounds = .ok (barGraphPicture b bounds) := by
  unfold layoutBarGraph
  cases hbars : b.bars with
  | nil => simp [barGraphPicture, hbars, pure, Except.pure]
  | cons bar bars =>
    have hsome : b.bars.isEmpty = false := by rw [hbars]; rfl
    have hcount : (1 : Int) ≤ b.bars.length := by rw [hbars, List.length_cons]; omega
    rw [← hbars, hsome, if_neg Bool.false_ne_true, edges_eq _ _ (hα _ hcount), ok_bind,
      mapM_eq_map (g := fun p => barPicture b bounds p.1 p.2), ok_bind]
    · rfl
    · intro p hp
      have hk := (List.mem_zipIdx hp).2.1
      dsimp only
      rw [edge_eq (by omega), ok_bind, edge_eq (by omega)]
      rfl

/-! ## Frames -/

/-- Whether a command can be laid out: no side of it is divided into zero parts. -/
def Drawable : Command α → Prop
  | .grid g => 1 ≤ g.height ∧ 1 ≤ g.width
  | .plane p => Scalar.isZero p.width = false ∧ Scalar.isZero p.height = false
  | .barGraph _ | .canvas _ | .textArea _ | .score _ | .debug => True

/-- A spatial command as it is drawn. -/
def itemPicture? (canvas : Option (Canvas α)) (cfg : Config α) : Command α → Option (Item α)
  | .grid g => some (.grid (gridPicture g (resolveBounds g.bounds canvas cfg) cfg))
  | .plane p => some (.plane (planePicture p (resolveBounds p.bounds canvas cfg)))
  | _ => none

theorem layoutItem?_eq (hα : Scalar.CountsParts α) (hc : Drawable c) (canvas : Option (Canvas α))
    (cfg : Config α) : layoutItem? canvas cfg c = (itemPicture? canvas cfg c).map .ok := by
  cases c with
  | grid g => rw [layoutItem?, layoutGrid_eq hα hc.1 hc.2]; rfl
  | plane p => rw [layoutItem?, layoutPlane_eq hc.1 hc.2]; rfl
  | _ => rfl

/-- A frame as it is drawn. -/
def framePicture (f : Frame α ε) (cfg : Config α) : FrameLayout α ε where
  canvasWidth := (canvasSize (findCanvas f.commands) cfg).1
  canvasHeight := (canvasSize (findCanvas f.commands) cfg).2
  items := f.commands.filterMap (itemPicture? (findCanvas f.commands) cfg)
  barGraphs := (f.commands.filterMap barGraph?).zipIdx.map
    fun p => barGraphPicture p.1 (panel cfg p.2)
  texts := f.commands.filterMap textArea?
  score := (f.commands.filterMap score?).getLast?
  debugText := if f.showDebug then some f.rawText else none
  errors := f.errors

theorem layoutAround_eq (hα : Scalar.CountsParts α) (items : List (Item α)) (f : Frame α ε)
    (cfg : Config α) :
    layoutAround (items.map .ok) f cfg = .ok { framePicture f cfg with items } := by
  have hgraphs : (f.commands.filterMap barGraph?).zipIdx.mapM
      (fun p => layoutBarGraph p.1 (panel cfg p.2)) = .ok ((f.commands.filterMap
        barGraph?).zipIdx.map fun p => barGraphPicture p.1 (panel cfg p.2)) :=
    mapM_eq_map fun p _ => layoutBarGraph_eq hα p.1 (panel cfg p.2)
  unfold layoutAround
  dsimp only
  rw [mapM_ok, ok_bind, hgraphs]
  rfl

/-- A frame of commands that can be laid out has a layout. -/
theorem layoutFrame_eq (hα : Scalar.CountsParts α) (hf : ∀ c ∈ f.commands, Drawable c)
    (cfg : Config α) : layoutFrame f cfg = .ok (framePicture f cfg) := by
  have hitems : f.commands.filterMap (layoutItem? (findCanvas f.commands) cfg) =
      (f.commands.filterMap (itemPicture? (findCanvas f.commands) cfg)).map .ok := by
    rw [List.map_filterMap]
    exact List.filterMap_congr fun c hc => layoutItem?_eq hα (hf c hc) _ cfg
  rw [layoutFrame, hitems, layoutAround_eq hα]
  rfl

end Layout

end Flipbook
