import Mathlib
import Flipbook.Number.Exact
import Flipbook.Proofs.Walls

/-!
Exact geometry of grids. Over the rationals the cells of a grid tile the rectangle that shows it,
the edges of a grid are the borders of its cells, its walls are their sides, and a point of a
polyline is in the middle of its cell.
-/
namespace Flipbook

theorem Scalar.countsParts_rat : Scalar.CountsParts ℚ := by
  intro n hn
  have hne : ((n : Int) : ℚ) ≠ 0 := by exact_mod_cast (show n ≠ 0 by omega)
  exact Scalar.isZero_eq_false hne

namespace Geometry

variable {start stop x : ℚ} {n k m : Nat}

/-! ## Equal parts of a span -/

theorem border_rat (start stop : ℚ) (n k : Nat) :
    border start stop n k = start + k * ((stop - start) / n) := by
  change start + ((k : Int) : ℚ) * ((stop - start) / ((n : Int) : ℚ)) = _
  push_cast
  rfl

theorem border_zero (start stop : ℚ) (n : Nat) : border start stop n 0 = start := by
  rw [border_rat, Nat.cast_zero, zero_mul, add_zero]

theorem border_last (start stop : ℚ) (hn : 0 < n) : border start stop n n = stop := by
  have hne : (n : ℚ) ≠ 0 := by exact_mod_cast hn.ne'
  rw [border_rat, mul_div_cancel₀ _ hne, add_sub_cancel]

theorem border_succ (start stop : ℚ) (n k : Nat) :
    border start stop n (k + 1) = border start stop n k + (stop - start) / n := by
  rw [border_rat, border_rat]
  push_cast
  ring

theorem border_le (h : start ≤ stop) (hkm : k ≤ m) :
    border start stop n k ≤ border start stop n m := by
  have hstep : 0 ≤ (stop - start) / n := div_nonneg (sub_nonneg.mpr h) (Nat.cast_nonneg n)
  have hcast : (k : ℚ) ≤ m := by exact_mod_cast hkm
  rw [border_rat, border_rat]
  gcongr

/-- Every point of a span is in one of its parts. -/
theorem exists_part (hn : 0 < n) (h : start < stop) (hstart : start ≤ x) (hstop : x < stop) :
    ∃ k < n, border start stop n k ≤ x ∧ x < border start stop n (k + 1) := by
  have hcount : (0 : ℚ) < n := by exact_mod_cast hn
  have hstep : 0 < (stop - start) / n := div_pos (sub_pos.mpr h) hcount
  -- The part is found by the whole number of steps from the start.
  have hsteps : 0 ≤ (x - start) / ((stop - start) / n) :=
    div_nonneg (sub_nonneg.mpr hstart) hstep.le
  have hlow := (le_div_iff₀ hstep).mp (Nat.floor_le hsteps)
  have hhigh := (div_lt_iff₀ hstep).mp (Nat.lt_floor_add_one ((x - start) / ((stop - start) / n)))
  generalize ⌊(x - start) / ((stop - start) / n)⌋₊ = k at hlow hhigh
  have hfrom : border start stop n k ≤ x := by
    rw [border_rat]
    linarith
  refine ⟨k, ?_, hfrom, ?_⟩
  · by_contra hk
    have hlast := border_le (n := n) h.le (not_lt.mp hk)
    rw [border_last start stop hn] at hlast
    exact absurd (hlast.trans hfrom) (not_le.mpr hstop)
  · rw [border_rat]
    push_cast
    linarith

/-- No point is in two parts of a span. -/
theorem part_unique (h : start ≤ stop)
    (hk : border start stop n k ≤ x ∧ x < border start stop n (k + 1))
    (hm : border start stop n m ≤ x ∧ x < border start stop n (m + 1)) : k = m := by
  have hle {k m : Nat} (hk : x < border start stop n (k + 1)) (hm : border start stop n m ≤ x) :
      m ≤ k := by
    by_contra hlt
    exact absurd ((border_le h (not_le.mp hlt)).trans hm) (not_le.mpr hk)
  exact Nat.le_antisymm (hle hm.2 hk.1) (hle hk.2 hm.1)

end Geometry

/-! ## Rectangles and their parts -/

namespace Rect

/-- Whether a point is in a rectangle, the left and the upper side included. -/
def Holds (r : Rect ℚ) (p : Point ℚ) : Prop :=
  (r.left ≤ p.x ∧ p.x < r.right) ∧ r.top ≤ p.y ∧ p.y < r.bottom

def middle (r : Rect ℚ) : Point ℚ := ⟨(r.left + r.right) / 2, (r.top + r.bottom) / 2⟩

def leftSide (r : Rect ℚ) : Segment ℚ := ⟨⟨r.left, r.top⟩, ⟨r.left, r.bottom⟩⟩

def rightSide (r : Rect ℚ) : Segment ℚ := ⟨⟨r.right, r.top⟩, ⟨r.right, r.bottom⟩⟩

def upperSide (r : Rect ℚ) : Segment ℚ := ⟨⟨r.left, r.top⟩, ⟨r.right, r.top⟩⟩

def lowerSide (r : Rect ℚ) : Segment ℚ := ⟨⟨r.left, r.bottom⟩, ⟨r.right, r.bottom⟩⟩

theorem overlaps_eq_false_iff {a b : Rect ℚ} : a.overlaps b = false ↔
    a.right ≤ b.left ∨ b.right ≤ a.left ∨ a.bottom ≤ b.top ∨ b.bottom ≤ a.top := by
  simp only [overlaps, Bool.not_eq_false', Bool.or_eq_true, decide_eq_true_eq, or_assoc]

end Rect

namespace Layout

open Flipbook.Geometry

variable {bounds : Rect ℚ} {g : Grid ℚ} {h w : Nat}

/-- Boxes in `h` rows and `w` columns that tile a rectangle: every point of it is in one box, no box
reaches out of it or into another, and the outer boxes end where it ends. -/
structure Tiles (bounds : Rect ℚ) (h w : Nat) (box : Nat → Nat → Rect ℚ) : Prop where
  covered : ∀ p, bounds.Holds p → ∃! q : Nat × Nat, q.1 < h ∧ q.2 < w ∧ (box q.1 q.2).Holds p
  inside : ∀ i j, i < h → j < w → ∀ p, (box i j).Holds p → bounds.Holds p
  apart : ∀ i j k l, i < h → j < w → k < h → l < w → (i, j) ≠ (k, l) →
    (box i j).overlaps (box k l) = false
  outer_columns : ∀ i < h, (box i 0).left = bounds.left ∧ (box i (w - 1)).right = bounds.right
  outer_rows : ∀ j < w, (box 0 j).top = bounds.top ∧ (box (h - 1) j).bottom = bounds.bottom

/-- Edges across and down, one more than there are boxes, that are the borders of all boxes. -/
structure Borders (h w : Nat) (box : Nat → Nat → Rect ℚ) (xs ys : Array ℚ) : Prop where
  size_across : xs.size = w + 1
  size_down : ys.size = h + 1
  left : ∀ i j, i < h → j < w → xs[j]? = some (box i j).left
  right : ∀ i j, i < h → j < w → xs[j + 1]? = some (box i j).right
  top : ∀ i j, i < h → j < w → ys[i]? = some (box i j).top
  bottom : ∀ i j, i < h → j < w → ys[i + 1]? = some (box i j).bottom

/-- The places of walls along the boxes: a vertical wall is the whole side of the box behind it, and
of the one before it, and a horizontal wall of those below and above. -/
structure WallsAlong (g : Grid ℚ) (bounds : Rect ℚ) (h w : Nat) (box : Nat → Nat → Rect ℚ) :
    Prop where
  left : ∀ i j, i < h → j < w → verticalWall g bounds i j = (box i j).leftSide
  right : ∀ i j, i < h → j < w → verticalWall g bounds i (j + 1) = (box i j).rightSide
  upper : ∀ i j, i < h → j < w → horizontalWall g bounds i j = (box i j).upperSide
  lower : ∀ i j, i < h → j < w → horizontalWall g bounds (i + 1) j = (box i j).lowerSide

/-! ## Cells -/

/-- The box between two borders across and two borders down. -/
def borderBox (bounds : Rect ℚ) (h w i j : Nat) : Rect ℚ :=
  ⟨border bounds.left bounds.right w j, border bounds.top bounds.bottom h i,
    border bounds.left bounds.right w (j + 1), border bounds.top bounds.bottom h (i + 1)⟩

theorem cellBox_eq_borderBox (bounds : Rect ℚ) (h w i j : Nat) :
    cellBox bounds h w i j = borderBox bounds h w i j := by
  unfold borderBox
  rw [border_succ, border_succ]
  rfl

theorem tiles_borderBox (hh : 0 < h) (hw : 0 < w) (hx : bounds.left < bounds.right)
    (hy : bounds.top < bounds.bottom) : Tiles bounds h w (borderBox bounds h w) where
  covered := by
    rintro p ⟨⟨hleft, hright⟩, htop, hbottom⟩
    obtain ⟨j, hj, hcol⟩ := exists_part hw hx hleft hright
    obtain ⟨i, hi, hrow⟩ := exists_part hh hy htop hbottom
    refine ⟨(i, j), ⟨hi, hj, hcol, hrow⟩, ?_⟩
    rintro ⟨k, l⟩ ⟨-, -, hcol', hrow'⟩
    exact Prod.ext (part_unique hy.le hrow' hrow) (part_unique hx.le hcol' hcol)
  inside := by
    rintro i j hi hj p ⟨⟨hleft, hright⟩, htop, hbottom⟩
    have hcol := border_le (n := w) hx.le (show j + 1 ≤ w from hj)
    have hrow := border_le (n := h) hy.le (show i + 1 ≤ h from hi)
    have hcol' := border_le (n := w) hx.le (Nat.zero_le j)
    have hrow' := border_le (n := h) hy.le (Nat.zero_le i)
    rw [border_last _ _ hw] at hcol
    rw [border_last _ _ hh] at hrow
    rw [border_zero] at hcol' hrow'
    exact ⟨⟨hcol'.trans hleft, hright.trans_le hcol⟩, hrow'.trans htop, hbottom.trans_le hrow⟩
  apart := by
    intro i j k l _ _ _ _ hne
    rw [Rect.overlaps_eq_false_iff]
    rcases Nat.lt_trichotomy j l with hjl | rfl | hlj
    · exact .inl (border_le hx.le hjl)
    · rcases Nat.lt_trichotomy i k with hik | rfl | hki
      · exact .inr (.inr (.inl (border_le hy.le hik)))
      · exact absurd rfl hne
      · exact .inr (.inr (.inr (border_le hy.le hki)))
    · exact .inr (.inl (border_le hx.le hlj))
  outer_columns := by
    intro i _
    refine ⟨border_zero _ _ w, ?_⟩
    unfold borderBox
    rw [Nat.sub_add_cancel hw]
    exact border_last _ _ hw
  outer_rows := by
    intro j _
    refine ⟨border_zero _ _ h, ?_⟩
    unfold borderBox
    rw [Nat.sub_add_cancel hh]
    exact border_last _ _ hh

theorem borders_borderBox (bounds : Rect ℚ) (h w : Nat) : Borders h w (borderBox bounds h w)
    ((Array.range (w + 1)).map (border bounds.left bounds.right w))
    ((Array.range (h + 1)).map (border bounds.top bounds.bottom h)) := by
  have hget {start stop : ℚ} {n m k : Nat} (hk : k < m) :
      ((Array.range m).map (border start stop n))[k]? = some (border start stop n k) := by
    simp [hk]
  refine ⟨by simp, by simp, ?_, ?_, ?_, ?_⟩
  all_goals
    intro i j hi hj
    exact hget (by omega)

theorem wallsAlong_borderBox (hh : g.height = h) (hw : g.width = w) (bounds : Rect ℚ) :
    WallsAlong g bounds h w (borderBox bounds h w) := by
  constructor
  all_goals
    intro i j _ _
    simp only [verticalWall, horizontalWall, hh, hw]
    rfl

/-- The middle of a cell is where a point with its column and its row is drawn. -/
theorem centered_eq_middle (bounds : Rect ℚ) (h w i j : Nat) :
    centered bounds h w ⟨j, i⟩ = (borderBox bounds h w i j).middle := by
  have hhalf (start stop : ℚ) (n k : Nat) :
      (k : ℚ) * ((stop - start) / n) + (stop - start) / n / 2 + start =
        (border start stop n k + border start stop n (k + 1)) / 2 := by
    rw [border_succ, border_rat]
    ring
  exact congrArg₂ Point.mk (hhalf bounds.left bounds.right w j) (hhalf bounds.top bounds.bottom h i)

/-- The cells of a grid tile its bounds. The edges that are computed for all of them are their
borders, the walls are drawn along their sides, and the points of polylines in their middles. -/
theorem grid_tiles (hh : 1 ≤ g.height) (hw : 1 ≤ g.width) (hx : bounds.left < bounds.right)
    (hy : bounds.top < bounds.bottom) :
    let h := g.height.toNat
    let w := g.width.toNat
    ∃ box : Nat → Nat → Rect ℚ,
      (∀ i j : Nat, i < h → j < w → cellRect bounds g.height g.width i j = .ok (box i j)) ∧
      Tiles bounds h w box ∧
      (∃ xs ys, edges bounds.left bounds.right g.width = .ok xs ∧
        edges bounds.top bounds.bottom g.height = .ok ys ∧ Borders h w box xs ys) ∧
      gridWalls g bounds = .ok (flaggedWalls g bounds) ∧ WallsAlong g bounds h w box ∧
      ∀ ps : List (Nat × Nat), (∀ p ∈ ps, p.1 < h ∧ p.2 < w) →
        mapPoints (center bounds g.height g.width) (ps.map fun p => ⟨p.2, p.1⟩) =
          .ok (ps.map fun p => (box p.1 p.2).middle) := by
  intro h w
  have hheight : g.height = h := (Int.toNat_of_nonneg (by omega)).symm
  have hwidth : g.width = w := (Int.toNat_of_nonneg (by omega)).symm
  have hrows := Scalar.countsParts_rat _ hh
  have hcols := Scalar.countsParts_rat _ hw
  have hnextRow : (g.height + 1).toNat = h + 1 := by omega
  have hnextCol : (g.width + 1).toNat = w + 1 := by omega
  refine ⟨borderBox bounds h w, ?_, tiles_borderBox (by omega) (by omega) hx hy, ?_, ?_,
    wallsAlong_borderBox hheight hwidth bounds, ?_⟩
  · intro i j _ _
    rw [cellRect_eq bounds hrows hcols, hheight, hwidth, cellBox_eq_borderBox]
  · refine ⟨_, _, edges_eq _ _ hcols, edges_eq _ _ hrows, ?_⟩
    rw [hnextRow, hnextCol, hheight, hwidth]
    exact borders_borderBox bounds h w
  · exact gridWalls_flagged Scalar.countsParts_rat hh hw bounds
  · intro ps _
    rw [center_eq bounds hrows hcols, mapPoints_ok, List.map_map, hheight, hwidth]
    exact congrArg _ (List.map_congr_left fun p _ => centered_eq_middle bounds h w p.1 p.2)

/-- Two rows of three cells, away from the origin. -/
def sixCells : Grid ℚ where
  height := 2
  width := 3
  borderColor := "black"
  textColor := "black"
  defaultColor := "white"

def sixBounds : Rect ℚ := ⟨10, 20, 70, 40⟩

/-- A point where four cells meet is in one of them only. -/
theorem grid_tiles_sixCells :
    1 ≤ sixCells.height ∧ 1 ≤ sixCells.width ∧ sixBounds.left < sixBounds.right ∧
    sixBounds.top < sixBounds.bottom ∧ sixBounds.Holds ⟨50, 30⟩ ∧
    (∃! q : Nat × Nat, q.1 < 2 ∧ q.2 < 3 ∧
      ∃ r, cellRect sixBounds 2 3 q.1 q.2 = .ok r ∧ r.Holds ⟨50, 30⟩) ∧
    mapPoints (center sixBounds 2 3) [⟨2, 1⟩] = .ok [⟨60, 35⟩] := by
  have hh : 1 ≤ sixCells.height := by decide
  have hw : 1 ≤ sixCells.width := by decide
  have hx : sixBounds.left < sixBounds.right := by decide +kernel
  have hy : sixBounds.top < sixBounds.bottom := by decide +kernel
  have hin : sixBounds.Holds ⟨50, 30⟩ := by
    unfold Rect.Holds sixBounds
    norm_num
  obtain ⟨box, hcells, htiles, -, -, -, hmiddle⟩ := grid_tiles hh hw hx hy
  obtain ⟨q, ⟨hrow, hcol, hq⟩, hunique⟩ := htiles.covered ⟨50, 30⟩ hin
  refine ⟨hh, hw, hx, hy, hin, ⟨q, ⟨hrow, hcol, _, hcells q.1 q.2 hrow hcol, hq⟩, ?_⟩, ?_⟩
  · rintro p ⟨hi, hj, r, hr, hp⟩
    refine hunique p ⟨hi, hj, ?_⟩
    rwa [Except.ok.inj ((hcells p.1 p.2 hi hj).symm.trans hr)]
  · have hlast : cellRect sixBounds 2 3 1 2 = .ok ⟨50, 30, 70, 40⟩ := by decide +kernel
    have hbox : box 1 2 = ⟨50, 30, 70, 40⟩ :=
      Except.ok.inj ((hcells 1 2 (by decide) (by decide)).symm.trans hlast)
    have hcenter : (box 1 2).middle = ⟨60, 35⟩ := by
      rw [hbox, Rect.middle]
      norm_num
    have hpoint : mapPoints (center sixBounds 2 3) [⟨(2 : Nat), (1 : Nat)⟩] =
        .ok [(box 1 2).middle] := hmiddle [(1, 2)] (by decide)
    simpa [hcenter] using hpoint

end Layout

end Flipbook
