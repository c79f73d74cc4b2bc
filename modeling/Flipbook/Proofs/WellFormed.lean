import Mathlib
import Flipbook.Proofs.Drawn
import Flipbook.Proofs.Passages
import Flipbook.Proofs.Writes

/-!
What a picture may rely on: the frames of a script have tables of the announced sizes, finite
numbers, colours and labels of one word, and one spatial kind at most; and no row of a grid was
written outside of its tables.
-/
namespace Flipbook

variable {α : Type}

/-- Of two finite numbers the second is the greater if it is not below the first. -/
theorem Binary64.lt_of_not_le {x y : Binary64} (hx : x.isFinite = true) (hy : y.isFinite = true)
    (h : ¬ y ≤ x) : x < y := by
  cases x with
  | finite s a =>
    cases y with
    | finite t b =>
      have hle : ble (finite t b) (finite s a) = false := Bool.eq_false_iff.mpr h
      show blt (finite s a) (finite t b) = true
      simp [blt, hle]
    | nan => cases hy
    | infinite t => cases hy
  | nan => cases hx
  | infinite s => cases hx

/-- All numbers of a command. -/
def Command.numbers : Command α → List α
  | .canvas c => [c.height, c.width]
  | .grid g =>
    g.polylines.flatMap (·.points.flatMap Point.numbers) ++ g.bounds.toList.flatMap Rect.sides
  | .plane p =>
    [p.height, p.width] ++ p.circleGroups.flatMap (·.circles.flatMap Circle.numbers) ++
      p.lineGroups.flatMap (fun g => g.width :: g.segments.flatMap Segment.numbers) ++
      p.polygonGroups.flatMap (·.vertices.flatMap Point.numbers) ++
      p.bounds.toList.flatMap Rect.sides
  | .barGraph b => b.low :: b.high :: b.bars.map (·.value)
  | .textArea _ | .score _ | .debug => []

/-- All colours and labels of a command. -/
def Command.names : Command α → List String
  | .grid g =>
    [g.borderColor, g.textColor, g.defaultColor] ++ g.colors.flatten ++ g.polylines.map (·.color)
  | .plane p =>
    p.circleGroups.flatMap (fun g => [g.lineColor, g.fillColor]) ++ p.lineGroups.map (·.color) ++
      p.polygonGroups.flatMap (fun g => [g.lineColor, g.fillColor])
  | .barGraph b => b.fillColor :: b.bars.map (·.label)
  | .canvas _ | .textArea _ | .score _ | .debug => []

/-- A grid of at least one cell and at most `maxCells`, with tables of its size. -/
structure Grid.Sized (maxCells : Int) (g : Grid α) : Prop where
  height : 1 ≤ g.height
  width : 1 ≤ g.width
  cells : g.height * g.width ≤ maxCells
  colors : g.colors.length = g.height ∧ ∀ row ∈ g.colors, row.length = g.width
  texts : g.texts.length = g.height ∧ ∀ row ∈ g.texts, row.length = g.width
  wallVertical : g.wallVertical.length = g.height ∧
    ∀ flags ∈ g.wallVertical, flags.length ≤ g.width + 1
  wallHorizontal : g.wallHorizontal.length = g.height + 1 ∧
    ∀ flags ∈ g.wallHorizontal, flags.length ≤ g.width
  polylines : ∀ l ∈ g.polylines, l.points ≠ []

/-- A plane with a size, and without empty groups. -/
structure Plane.Sized (p : Plane Binary64) : Prop where
  height : 0 < p.height
  width : 0 < p.width
  circles : ∀ g ∈ p.circleGroups, g.circles ≠ []
  lines : ∀ g ∈ p.lineGroups, g.segments ≠ []
  polygons : ∀ g ∈ p.polygonGroups, g.vertices ≠ []

/-- The sizes and orders that a command has to keep, by its kind. -/
def Command.Sized (maxCells : Int) : Command Binary64 → Prop
  | .canvas c => 0 < c.height ∧ 0 < c.width
  | .grid g => g.Sized maxCells
  | .plane p => p.Sized
  | .barGraph b => b.low < b.high
  | .textArea text | .score text => Text.trim text = text
  | .debug => True

/-- A command that can be drawn without further checks. -/
structure Command.WellFormed (maxCells : Int) (c : Command Binary64) : Prop where
  sized : c.Sized maxCells
  finite : ∀ x ∈ c.numbers, x.isFinite = true
  tokens : ∀ s ∈ c.names, Text.IsToken s

end Flipbook

namespace Flipbook.Script

open Text

variable {cfg : Config Binary64} {maxCells : Int} {g : Grid Binary64} {p : Plane Binary64}
  {c : Command Binary64} {f : Frame Binary64 Notice} {text m : String}

/-! ## Commands -/

theorem sized_of_gridFormed (h : GridFormed maxCells g) : g.Sized maxCells := by
  have hheight := h.height_pos
  have hwidth := h.width_pos
  have hrows : (g.height.toNat : Int) = g.height := Int.toNat_of_nonneg hheight.le
  have hcolumns : (g.width.toNat : Int) = g.width := Int.toNat_of_nonneg hwidth.le
  have htable {table : List (List String)}
      (ht : TableFormed g.height.toNat g.width.toNat table) :
      (table.length : Int) = g.height ∧ ∀ row ∈ table, (row.length : Int) = g.width := by
    refine ⟨by rw [ht.length_eq, hrows], fun row hrow => ?_⟩
    rw [ht.row_length row hrow, hcolumns]
  have hwalls {count width : Nat} {rows : List String} (hw : WallsFormed count width rows) :
      rows.length = count ∧ ∀ flags ∈ rows, flags.length ≤ width :=
    ⟨hw.length_eq, fun flags hflags => hw.length_le flags hflags⟩
  exact {
    height := hheight
    width := hwidth
    cells := h.cells_le
    colors := htable h.colors
    texts := htable h.texts
    wallVertical := by
      obtain ⟨hlength, hflags⟩ := hwalls h.wallVertical
      refine ⟨by omega, fun flags hmem => ?_⟩
      have hle := hflags flags hmem
      omega
    wallHorizontal := by
      obtain ⟨hlength, hflags⟩ := hwalls h.wallHorizontal
      refine ⟨by omega, fun flags hmem => ?_⟩
      have hle := hflags flags hmem
      omega
    polylines := fun l hl => by simpa using (h.polylines l hl).ne_nil }

theorem sized_of_planeFormed (h : PlaneFormed p) : p.Sized where
  height := h.height.2
  width := h.width.2
  circles := fun g hg => by simpa using (h.circles g hg).ne_nil
  lines := fun g hg => by simpa using (h.lines g hg).1.ne_nil
  polygons := fun g hg => by simpa using (h.polygons g hg).ne_nil

/-- The numbers of a group's members. -/
theorem GroupFormed.finite {τ : Type} {colors : List String} {numbers : τ → List Binary64}
    {members : List τ} (h : GroupFormed colors (members.map numbers)) :
    ∀ x ∈ members.flatMap numbers, x.isFinite = true := by
  intro x hx
  obtain ⟨member, hmember, hx⟩ := List.mem_flatMap.mp hx
  exact h.isFinite _ (List.mem_map.mpr ⟨member, hmember, rfl⟩) x hx

theorem BoundsFormed.finite {bounds : Option (Rect Binary64)} (h : BoundsFormed bounds) :
    ∀ x ∈ bounds.toList.flatMap Rect.sides, x.isFinite = true := by
  intro x hx
  obtain ⟨r, hr, hx⟩ := List.mem_flatMap.mp hx
  exact h r (Option.mem_toList.mp hr) x hx

theorem wellFormed_grid (h : GridFormed maxCells g) : (Command.grid g).WellFormed maxCells where
  sized := sized_of_gridFormed h
  finite := by
    intro x hx
    rcases List.mem_append.mp hx with hx | hx
    · obtain ⟨l, hl, hx⟩ := List.mem_flatMap.mp hx
      exact (h.polylines l hl).finite x hx
    · exact h.bounds.finite x hx
  tokens := by
    intro s hs
    simp only [Command.names, List.mem_append, List.mem_cons, List.not_mem_nil, or_false,
      List.mem_flatten, List.mem_map] at hs
    rcases hs with ((rfl | rfl | rfl) | ⟨row, hrow, hs⟩) | ⟨l, hl, rfl⟩
    · exact h.borderColor
    · exact h.textColor
    · exact h.defaultColor
    · exact h.isToken row hrow s hs
    · exact (h.polylines l hl).isToken _ List.mem_cons_self

theorem wellFormed_plane (h : PlaneFormed p) : (Command.plane p).WellFormed maxCells where
  sized := sized_of_planeFormed h
  finite := by
    intro x hx
    simp only [Command.numbers, List.mem_append, List.mem_cons, List.not_mem_nil, or_false] at hx
    rcases hx with ((((rfl | rfl) | hx) | hx) | hx) | hx
    · exact h.height.1
    · exact h.width.1
    · obtain ⟨g, hg, hx⟩ := List.mem_flatMap.mp hx
      exact (h.circles g hg).finite x hx
    · obtain ⟨g, hg, hx⟩ := List.mem_flatMap.mp hx
      obtain ⟨hgroup, hwidth⟩ := h.lines g hg
      rcases List.mem_cons.mp hx with rfl | hx
      · exact hwidth
      · exact hgroup.finite x hx
    · obtain ⟨g, hg, hx⟩ := List.mem_flatMap.mp hx
      exact (h.polygons g hg).finite x hx
    · exact h.bounds.finite x hx
  tokens := by
    intro s hs
    simp only [Command.names, List.mem_append, List.mem_flatMap, List.mem_map] at hs
    rcases hs with (⟨g, hg, hs⟩ | ⟨g, hg, rfl⟩) | ⟨g, hg, hs⟩
    · exact (h.circles g hg).isToken s hs
    · exact (h.lines g hg).1.isToken _ List.mem_cons_self
    · exact (h.polygons g hg).isToken s hs

theorem wellFormed_barGraph {b : BarGraph Binary64} (h : BarGraphFormed b) :
    (Command.barGraph b).WellFormed maxCells where
  sized := Binary64.lt_of_not_le h.low h.high h.order
  finite := by
    intro x hx
    simp only [Command.numbers, List.mem_cons, List.mem_map] at hx
    rcases hx with rfl | rfl | ⟨bar, hbar, rfl⟩
    · exact h.low
    · exact h.high
    · exact (h.bars bar hbar).2
  tokens := by
    intro s hs
    simp only [Command.names, List.mem_cons, List.mem_map] at hs
    rcases hs with rfl | ⟨bar, hbar, rfl⟩
    · exact h.fillColor
    · exact (h.bars bar hbar).1

theorem wellFormed_of_formed (h : Formed maxCells c) : c.WellFormed maxCells := by
  cases c with
  | canvas c =>
    obtain ⟨⟨hheight, hhigh⟩, hwidth, hwide⟩ := h
    exact ⟨⟨hhigh, hwide⟩, by simp [Command.numbers, hheight, hwidth], by simp [Command.names]⟩
  | grid g => exact wellFormed_grid h
  | plane p => exact wellFormed_plane h
  | barGraph b => exact wellFormed_barGraph h
  | textArea text => exact ⟨h.1, by simp [Command.numbers], by simp [Command.names]⟩
  | score text => exact ⟨h.1, by simp [Command.numbers], by simp [Command.names]⟩
  | debug => exact ⟨trivial, by simp [Command.numbers], by simp [Command.names]⟩

/-! ## Frames -/

theorem showDebug_iff (hf : f ∈ (parse cfg text).frames m) :
    f.showDebug = true ↔ .debug ∈ f.commands := by
  rw [frames_eq] at hf
  obtain ⟨p, -, rfl⟩ := List.mem_map.mp hf
  have hdebug (c : Command Binary64) : (c.kind == .debug) = true ↔ c = .debug := by
    cases c <;> simp [Command.kind]
  simp only [passageFrame, Track.frameOf, List.any_eq_true, hdebug]
  simp

/-- Every frame of a script holds well-formed commands, not grids and planes at once, and shows the
debug view exactly if one of them asks for it. Reading a grid never writes a row or a column that
its tables do not have. -/
theorem frames_well_formed (cfg : Config Binary64) (text : String) :
    (∀ m, ∀ f ∈ (parse cfg text).frames m,
      (∀ c ∈ f.commands, c.WellFormed cfg.maxGridCells) ∧
      ¬ Mixed f.commands ∧
      (f.showDebug = true ↔ .debug ∈ f.commands)) ∧
    ∀ call rest line, readGrid? cfg.maxGridCells call rest line =
      some (readGrid cfg.maxGridCells call rest line) := by
  refine ⟨fun m f hf => ?_, readGrid?_eq cfg.maxGridCells⟩
  obtain ⟨-, hformed⟩ := formed_of_mem_parse hf
  exact ⟨fun c hc => wellFormed_of_formed (hformed.commands c hc), hformed.spatial,
    showDebug_iff hf⟩

/-- A grid with a row that is too long, a place outside of the grid and a plane beside it. -/
def crowdedText : String :=
  "$v GRID 1 2 black black white\nCELL_COLORS\nred red red\nCELL_COLORS_POS\n1\n" ++
    "blue 2 0 1 0 2\n$v 2D_PLANE 1 1\n$v DEBUG\n$v COMMIT"

def crowdedFrame : Frame Binary64 Notice where
  commands := [.grid
    { height := 1, width := 2, borderColor := "black", textColor := "black"
      defaultColor := "white", colors := [["red", "blue"]], texts := [["", ""]]
      wallVertical := ["YYY"], wallHorizontal := ["YY", "YY"] }, .debug]
  rawText := crowdedText ++ "\n"
  errors := [.conflict .grid .plane 1]
  showDebug := true

theorem frames_well_formed_crowded :
    crowdedFrame ∈ (parse { maxGridCells := 2 } crowdedText).frames defaultMode ∧
      (∀ c ∈ crowdedFrame.commands, c.WellFormed 2) ∧
      ¬ Mixed crowdedFrame.commands ∧
      (crowdedFrame.showDebug = true ↔ .debug ∈ crowdedFrame.commands) :=
  have h : crowdedFrame ∈ (parse { maxGridCells := 2 } crowdedText).frames defaultMode := by
    decide +kernel
  ⟨h, (frames_well_formed { maxGridCells := 2 } crowdedText).1 defaultMode crowdedFrame h⟩

end Flipbook.Script
