import Mathlib
import Flipbook.Proofs.Lists
import Flipbook.Proofs.Pictures

/-!
Walls and their flags. The walls of a grid are those whose flags are set, row by row, and they run
along the cells: each from one corner of the grid to the next, and a corner is where a cell starts.
-/
namespace Flipbook.Layout

open Flipbook.Geometry

variable {α : Type} [Scalar α] {g : Grid α} {n : Nat}

/-! ## Flags -/

/-- Whether a wall stands in a place of a table of flags, row and column. Without a row all do. -/
def HasWall (rows : List String) (p : Nat × Nat) : Prop :=
  rows = [] ∨ (rows[p.1]?.bind fun flags => flags.toList[p.2]?) = some wallMark

instance (rows : List String) : DecidablePred (HasWall rows) :=
  fun _ => inferInstanceAs (Decidable (_ ∨ _))

/-- The flags of row `i`, whether the table holds that row or not. -/
def flagsAt (rows : List String) (length : Int) (i : Nat) : String :=
  if rows.isEmpty then allWalls length.toNat else rows[i]?.getD ""

theorem wallRows_eq (rows : List String) (count length : Int) :
    wallRows rows count length = (List.range count.toNat).map (flagsAt rows length) := by
  unfold wallRows flagsAt
  split
  · rw [List.map_const', List.length_range]
  · rfl

theorem hasWall_iff (rows : List String) (i : Nat) {j : Nat} (hj : j < n) :
    HasWall rows (i, j) ↔ (flagsAt rows n i).toList[j]? = some wallMark := by
  unfold HasWall flagsAt
  cases rows with
  | nil => simp [allWalls, hj]
  | cons row rows =>
    simp only [reduceCtorEq, false_or, List.isEmpty_cons, Bool.false_eq_true, if_false]
    cases (row :: rows)[i]? with
    | none => simp
    | some flags => rfl

/-- The walls of a table stand in those of its places, row by row, whose flags are set. -/
theorem wallPlaces_eq (rows : List String) (count : Int) (n : Nat) :
    wallPlaces rows count n = (cellPlaces count.toNat n).filter (HasWall rows) := by
  have hzip (m : Nat) : ((List.range m).map (flagsAt rows n)).zipIdx =
      (List.range m).map fun i => (flagsAt rows n i, i) := by
    induction m with
    | zero => rfl
    | succ m ih => simp [List.range_succ, List.zipIdx_append, ih]
  unfold wallPlaces cellPlaces
  rw [wallRows_eq, hzip, List.flatMap_map, List.filter_flatMap]
  refine List.flatMap_congr fun i _ => ?_
  dsimp only
  rw [Text.upTo_natCast, filterMap_zipIdx_take, List.filter_map]
  refine congrArg _ (List.filter_congr fun j hj => ?_)
  exact decide_eq_decide.mpr (hasWall_iff rows i (List.mem_range.mp hj)).symm

/-! ## Corners -/

/-- The point where column `j` and row `i` start; the last corners stand behind the last cells. -/
def corner (g : Grid α) (bounds : Rect α) (i j : Nat) : Point α :=
  ⟨border bounds.left bounds.right g.width j, border bounds.top bounds.bottom g.height i⟩

/-- The walls whose flags are set: first the vertical ones, row by row, then the horizontal ones. -/
def flaggedWalls (g : Grid α) (bounds : Rect α) : List (Segment α) :=
  ((cellPlaces g.height.toNat (g.width + 1).toNat).filter (HasWall g.wallVertical)).map
      (fun p => verticalWall g bounds p.1 p.2) ++
    ((cellPlaces (g.height + 1).toNat g.width.toNat).filter (HasWall g.wallHorizontal)).map
      (fun p => horizontalWall g bounds p.1 p.2)

theorem gridWalls_flagged (hα : Scalar.CountsParts α) (hh : 1 ≤ g.height) (hw : 1 ≤ g.width)
    (bounds : Rect α) : gridWalls g bounds = .ok (flaggedWalls g bounds) := by
  obtain ⟨w, hwidth⟩ := Int.eq_ofNat_of_zero_le (show 0 ≤ g.width by omega)
  have hnext : g.width + 1 = (w + 1 : Nat) := by omega
  have hvertical : wallPlaces g.wallVertical g.height (g.width + 1) =
      (cellPlaces g.height.toNat (g.width + 1).toNat).filter (HasWall g.wallVertical) := by
    rw [hnext, wallPlaces_eq, Int.toNat_natCast]
  have hhorizontal : wallPlaces g.wallHorizontal (g.height + 1) g.width =
      (cellPlaces (g.height + 1).toNat g.width.toNat).filter (HasWall g.wallHorizontal) := by
    rw [hwidth, wallPlaces_eq, Int.toNat_natCast]
  rw [gridWalls_eq hα hh hw, wallSegments, hvertical, hhorizontal, flaggedWalls]

/-- The walls of a grid are those whose flags are set: first the vertical ones, row by row, then the
horizontal ones, and no others. They run from corner to corner, and in the corner of a row and a
column starts, to the very number, the rectangle of their cell. -/
theorem gridWalls_follow_flags {g : Grid Binary64} (hh : 1 ≤ g.height) (hw : 1 ≤ g.width)
    (bounds : Rect Binary64) :
    gridWalls g bounds = .ok
      (((cellPlaces g.height.toNat (g.width + 1).toNat).filter (HasWall g.wallVertical)).map
          (fun p => ⟨corner g bounds p.1 p.2, corner g bounds (p.1 + 1) p.2⟩) ++
        ((cellPlaces (g.height + 1).toNat g.width.toNat).filter (HasWall g.wallHorizontal)).map
          (fun p => ⟨corner g bounds p.1 p.2, corner g bounds p.1 (p.2 + 1)⟩)) ∧
    ∀ i j : Nat, i < g.height → j < g.width → ∃ r,
      cellRect bounds g.height g.width i j = .ok r ∧ corner g bounds i j = ⟨r.left, r.top⟩ := by
  refine ⟨gridWalls_flagged countsParts_binary64 hh hw bounds, fun i j _ _ => ?_⟩
  exact ⟨_, cellRect_eq bounds (countsParts_binary64 _ hh) (countsParts_binary64 _ hw) i j, rfl⟩

/-- Two cells, one above the other. Of the vertical walls one row has too many flags and the other
none, and nothing is said of the horizontal ones. -/
def twoCells : Grid Binary64 where
  height := 2
  width := 1
  borderColor := "black"
  textColor := "black"
  defaultColor := "white"
  wallVertical := ["NYY"]

def twoBounds : Rect Binary64 := ⟨5.0, 10.0, 25.0, 50.0⟩

theorem gridWalls_follow_flags_twoCells :
    1 ≤ twoCells.height ∧ 1 ≤ twoCells.width ∧
    gridWalls twoCells twoBounds = .ok
      [⟨⟨25.0, 10.0⟩, ⟨25.0, 30.0⟩⟩, ⟨⟨5.0, 10.0⟩, ⟨25.0, 10.0⟩⟩, ⟨⟨5.0, 30.0⟩, ⟨25.0, 30.0⟩⟩,
        ⟨⟨5.0, 50.0⟩, ⟨25.0, 50.0⟩⟩] ∧
    ∃ r, cellRect twoBounds 2 1 1 0 = .ok r ∧ r.left = 5.0 ∧ r.top = 30.0 := by
  have hh : 1 ≤ twoCells.height := by decide
  have hw : 1 ≤ twoCells.width := by decide
  obtain ⟨hwalls, hcells⟩ := gridWalls_follow_flags hh hw twoBounds
  obtain ⟨r, hr, hcorner⟩ := hcells 1 0 (by decide) (by decide)
  have hlower : corner twoCells twoBounds 1 0 = ⟨5.0, 30.0⟩ := by decide +kernel
  obtain ⟨hleft, htop⟩ := Point.mk.inj (hcorner.symm.trans hlower)
  exact ⟨hh, hw, hwalls.trans (by decide +kernel), r, hr, hleft, htop⟩

end Flipbook.Layout
