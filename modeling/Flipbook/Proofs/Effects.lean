import Mathlib
import Flipbook.Proofs.Formed
import Flipbook.Script.Grid
import Flipbook.Script.Plane

/-!
What a row of a block does. `GridEffect` and `PlaneEffect` say once what can come of a row: it changes
one part of a picture, or none, and it is reported or not. Whatever all rows keep is shown by cases
on them.
-/
namespace Flipbook

variable {run : List Binary64}

/-! ## Members of groups -/

def Point.ofNumbers? : List Binary64 → Option (Point Binary64)
  | [x, y] => some ⟨x, y⟩
  | _ => none

def Circle.ofNumbers? : List Binary64 → Option (Circle Binary64)
  | [x, y, r] => some ⟨⟨x, y⟩, r⟩
  | _ => none

def Segment.ofNumbers? : List Binary64 → Option (Segment Binary64)
  | [x₁, y₁, x₂, y₂] => some ⟨⟨x₁, y₁⟩, ⟨x₂, y₂⟩⟩
  | _ => none

theorem Point.numbers_of_ofNumbers? {p : Point Binary64} (h : ofNumbers? run = some p) :
    p.numbers = run := by
  unfold ofNumbers? at h
  split at h
  · obtain rfl := Option.some.inj h
    rfl
  · cases h

theorem Circle.numbers_of_ofNumbers? {c : Circle Binary64} (h : ofNumbers? run = some c) :
    c.numbers = run := by
  unfold ofNumbers? at h
  split at h
  · obtain rfl := Option.some.inj h
    rfl
  · cases h

theorem Segment.numbers_of_ofNumbers? {s : Segment Binary64} (h : ofNumbers? run = some s) :
    s.numbers = run := by
  unfold ofNumbers? at h
  split at h
  · obtain rfl := Option.some.inj h
    rfl
  · cases h

end Flipbook

namespace Flipbook.Script

open Text

variable {row : List String} {color : String} {n : Int}

theorem countedRow?_some {more : List String} (h : countedRow? row = some (color, n, more)) :
    ∃ count, row = [color] ++ count :: more ∧ Numeral.readInt? count = some n := by
  unfold countedRow? at h
  split at h
  next c count rest =>
    obtain ⟨m, hm, heq⟩ := Option.map_eq_some_iff.mp h
    obtain ⟨rfl, rfl, rfl⟩ : c = color ∧ m = n ∧ rest = more := by simpa using heq
    exact ⟨count, rfl, hm⟩
  next => cases h

/-! ## Grids -/

/-- What row `i` of a block can do to a grid of width `w`, and the reports on it. -/
inductive GridEffect (w : Nat) (g : Grid Binary64) (i : Nat) (text : String) (line : Int) :
    GridBlock → Grid Binary64 × List Report → Prop
  | colors : GridEffect w g i text line .colors
      ({ g with colors := g.colors.modify i (overlay (words text)) }, [])
  | places (color : String) (n : Int) (more : List String)
    (hrow : countedRow? (words text) = some (color, n, more)) :
    GridEffect w g i text line .colorPositions
      ({ g with colors := (readPositions n.toNat more).foldl (paint color) g.colors }, [])
  | noPlaces (hrow : countedRow? (words text) = none) :
    GridEffect w g i text line .colorPositions (g, [⟨line, .colorPositionsEntry (trim text)⟩])
  | texts : GridEffect w g i text line .texts
      ({ g with texts := g.texts.modify i (overlay (cellTexts text w)) }, [])
  | polyline (color : String) (n : Int) (more : List String) (points : List (Point Binary64))
    (hrow : countedRow? (words text) = some (color, n, more))
    (hpoints : (numericGroups more 0 n 2).filterMap Point.ofNumbers? = points)
    (hne : points ≠ []) : GridEffect w g i text line .polylines
      ({ g with polylines := g.polylines ++ [⟨color, points⟩] }, [])
  | noPoint (color : String) (n : Int) (more : List String)
    (hrow : countedRow? (words text) = some (color, n, more))
    (hpoints : (numericGroups more 0 n 2).filterMap Point.ofNumbers? = []) :
    GridEffect w g i text line .polylines (g, [])
  | noPolyline (hrow : countedRow? (words text) = none) :
    GridEffect w g i text line .polylines (g, [⟨line, .polylineEntry (trim text)⟩])
  | wallVertical (flags : String) (reports : List Report)
    (hflags : readFlags .wallVertical text (w + 1) line = (flags, reports)) :
    GridEffect w g i text line .wallVertical
      ({ g with wallVertical := g.wallVertical.set i flags }, reports)
  | wallHorizontal (flags : String) (reports : List Report)
    (hflags : readFlags .wallHorizontal text w line = (flags, reports)) :
    GridEffect w g i text line .wallHorizontal
      ({ g with wallHorizontal := g.wallHorizontal.set i flags }, reports)

theorem gridEffect_gridRow (w : Nat) (g : Grid Binary64) (b : GridBlock) (i : Nat) (text : String)
    (line : Int) : GridEffect w g i text line b (gridRow w g b i text line) := by
  unfold gridRow
  cases b with
  | colors => exact .colors
  | colorPositions =>
    cases hrow : countedRow? (words text) with
    | none => exact .noPlaces hrow
    | some row => exact .places row.1 row.2.1 row.2.2 hrow
  | texts => exact .texts
  | polylines =>
    cases hrow : countedRow? (words text) with
    | none => exact .noPolyline hrow
    | some row =>
      dsimp only
      split
      next hpoints => exact .noPoint row.1 row.2.1 row.2.2 hrow (List.isEmpty_iff.mp hpoints)
      next hpoints =>
        exact .polyline row.1 row.2.1 row.2.2 _ hrow rfl (mt List.isEmpty_iff.mpr hpoints)
  | wallVertical => exact .wallVertical _ _ rfl
  | wallHorizontal => exact .wallHorizontal _ _ rfl

/-- What a row of block `b` leaves in a grid as it is: what the header gave it, and every part but
that of the block. -/
structure GridKeeps (b : GridBlock) (g g' : Grid Binary64) : Prop where
  height : g'.height = g.height
  width : g'.width = g.width
  borderColor : g'.borderColor = g.borderColor
  textColor : g'.textColor = g.textColor
  defaultColor : g'.defaultColor = g.defaultColor
  bounds : g'.bounds = g.bounds
  colors : b ≠ .colors ∧ b ≠ .colorPositions → g'.colors = g.colors
  texts : b ≠ .texts → g'.texts = g.texts
  polylines : b ≠ .polylines → g'.polylines = g.polylines
  wallVertical : b ≠ .wallVertical → g'.wallVertical = g.wallVertical
  wallHorizontal : b ≠ .wallHorizontal → g'.wallHorizontal = g.wallHorizontal

theorem gridKeeps_gridRow (w : Nat) (g : Grid Binary64) (b : GridBlock) (i : Nat) (text : String)
    (line : Int) : GridKeeps b g (gridRow w g b i text line).1 := by
  have heffect := gridEffect_gridRow w g b i text line
  generalize gridRow w g b i text line = r at heffect ⊢
  cases heffect
  all_goals
    constructor
    all_goals simp

/-! ## Planes -/

/-- The count of a group, as the row of the group tells it. -/
def groupCount? (row : List String) : PlaneBlock → Option Int
  | .lines => (lineForm? row).map (·.count)
  | .circles | .polygons => row[2]?.bind Numeral.readInt?

/-- What a row of a block can do to a plane, and the reports on it. -/
inductive PlaneEffect (p : Plane Binary64) (text : String) (line : Int) :
    PlaneBlock → Plane Binary64 × List Report → Prop
  | circles (lineColor fillColor count : String) (more : List String) (n : Int)
    (circles : List (Circle Binary64))
    (hwords : words text = [lineColor, fillColor] ++ count :: more)
    (hn : Numeral.readInt? count = some n)
    (hcircles : (numericGroups more 0 n 3).filterMap Circle.ofNumbers? = circles)
    (hne : circles ≠ []) : PlaneEffect p text line .circles
      ({ p with circleGroups := p.circleGroups ++ [⟨lineColor, fillColor, circles⟩] }, [])
  | lines (f : LineForm) (segments : List (Segment Binary64))
    (hform : lineForm? (words text) = some f)
    (hsegments : (numericGroups (words text) f.start f.count 4).filterMap Segment.ofNumbers? =
      segments)
    (hne : segments ≠ []) : PlaneEffect p text line .lines
      ({ p with
        lineGroups := p.lineGroups ++ [⟨(words text).headD "", f.width, segments⟩] }, [])
  | polygons (lineColor fillColor count : String) (more : List String) (n : Int)
    (vertices : List (Point Binary64))
    (hwords : words text = [lineColor, fillColor] ++ count :: more)
    (hn : Numeral.readInt? count = some n)
    (hvertices : (numericGroups more 0 n 2).filterMap Point.ofNumbers? = vertices)
    (hne : vertices ≠ []) : PlaneEffect p text line .polygons
      ({ p with polygonGroups := p.polygonGroups ++ [⟨lineColor, fillColor, vertices⟩] }, [])
  | noMember (b : PlaneBlock) (n : Int) (hn : groupCount? (words text) b = some n) :
    PlaneEffect p text line b (p, [])
  | noCount (b : PlaneBlock) (hn : groupCount? (words text) b = none) :
    PlaneEffect p text line b (p, [⟨line, .groupCount b.name (trim text)⟩])

theorem groupCount?_of_words {lineColor fillColor count : String} {more : List String}
    (hwords : row = lineColor :: fillColor :: count :: more) {b : PlaneBlock} (hb : b ≠ .lines) :
    groupCount? row b = Numeral.readInt? count := by
  subst hwords
  cases b with
  | lines => exact absurd rfl hb
  | circles | polygons => rfl

theorem groupCount?_of_short
    (h : ∀ lineColor fillColor count more, row ≠ lineColor :: fillColor :: count :: more)
    {b : PlaneBlock} (hb : b ≠ .lines) : groupCount? row b = none := by
  have hnone : row[2]? = none := by
    rcases row with _ | ⟨lineColor, _ | ⟨fillColor, _ | ⟨count, more⟩⟩⟩
    · rfl
    · rfl
    · rfl
    · exact absurd rfl (h lineColor fillColor count more)
  cases b with
  | lines => exact absurd rfl hb
  | circles | polygons =>
    rw [groupCount?, hnone]
    rfl

theorem planeEffect_planeRow (p : Plane Binary64) (b : PlaneBlock) (i : Nat) (text : String)
    (line : Int) : PlaneEffect p text line b (planeRow p b i text line) := by
  unfold planeRow
  cases b with
  | circles =>
    dsimp only
    split
    next lineColor fillColor count more hwords =>
      have hcount := groupCount?_of_words hwords (b := .circles) (by decide)
      cases hn : Numeral.readInt? count with
      | none => exact .noCount .circles (hcount.trans hn)
      | some n =>
        dsimp only
        split
        next => exact .noMember .circles n (hcount.trans hn)
        next hne =>
          exact .circles lineColor fillColor count more n _ hwords hn rfl
            (mt List.isEmpty_iff.mpr hne)
    next hshort => exact .noCount .circles (groupCount?_of_short hshort (by decide))
  | lines =>
    dsimp only
    split
    next f hform =>
      split
      next => exact .noMember .lines f.count (by rw [groupCount?, hform, Option.map_some])
      next hne => exact .lines f _ hform rfl (mt List.isEmpty_iff.mpr hne)
    next hform => exact .noCount .lines (by rw [groupCount?, hform, Option.map_none])
  | polygons =>
    dsimp only
    split
    next lineColor fillColor count more hwords =>
      have hcount := groupCount?_of_words hwords (b := .polygons) (by decide)
      cases hn : Numeral.readInt? count with
      | none => exact .noCount .polygons (hcount.trans hn)
      | some n =>
        dsimp only
        split
        next => exact .noMember .polygons n (hcount.trans hn)
        next hne =>
          exact .polygons lineColor fillColor count more n _ hwords hn rfl
            (mt List.isEmpty_iff.mpr hne)
    next hshort => exact .noCount .polygons (groupCount?_of_short hshort (by decide))

/-- A row of a block leaves the size and the bounds of a plane as they are. -/
theorem planeRow_header (p : Plane Binary64) (b : PlaneBlock) (i : Nat) (text : String)
    (line : Int) : (planeRow p b i text line).1.height = p.height ∧
      (planeRow p b i text line).1.width = p.width ∧
      (planeRow p b i text line).1.bounds = p.bounds := by
  have heffect := planeEffect_planeRow p b i text line
  generalize planeRow p b i text line = r at heffect ⊢
  cases heffect
  all_goals exact ⟨rfl, rfl, rfl⟩

end Flipbook.Script
