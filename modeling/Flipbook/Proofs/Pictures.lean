import Mathlib
import Flipbook.Proofs.Drawn
import Flipbook.Proofs.Layouts
import Flipbook.Proofs.Ordering
import Flipbook.Proofs.Passages
import Flipbook.Proofs.Tables
import Flipbook.Proofs.Values

/-!
Pictures of scripts. Every frame of a script has a layout that shows all of it, and the rectangles
whose overlaps the frame reports are those at which its items are drawn.
-/
namespace Flipbook

/-- The pairs of a numbered list are those of a lower and a higher number, in the order of the
list. -/
theorem filterMap_pairs_zipIdx {β γ : Type} (f : (β × Nat) × (β × Nat) → Option γ) (xs : List β)
    (n : Nat) : (pairs (xs.zipIdx n)).filterMap f =
      (xs.zipIdx n).flatMap fun p => (xs.zipIdx n).filterMap fun q =>
        if p.2 < q.2 then f (p, q) else none := by
  induction xs generalizing n with
  | nil => rfl
  | cons x xs ih =>
    -- The first number is below all others: its pairs are with all of them, and no pair ends in it.
    have hlow (q : β × Nat) (hq : q ∈ xs.zipIdx (n + 1)) : n < q.2 := (List.mem_zipIdx hq).1
    have hfirst : (xs.zipIdx (n + 1)).filterMap (fun q => f ((x, n), q)) =
        ((x, n) :: xs.zipIdx (n + 1)).filterMap fun q =>
          if n < q.2 then f ((x, n), q) else none := by
      rw [List.filterMap_cons, if_neg (lt_irrefl n)]
      exact List.filterMap_congr fun q hq => (if_pos (hlow q hq)).symm
    have hlater : ((xs.zipIdx (n + 1)).flatMap fun p => (xs.zipIdx (n + 1)).filterMap fun q =>
          if p.2 < q.2 then f (p, q) else none) =
        (xs.zipIdx (n + 1)).flatMap fun p => ((x, n) :: xs.zipIdx (n + 1)).filterMap fun q =>
          if p.2 < q.2 then f (p, q) else none := by
      refine List.flatMap_congr fun p hp => ?_
      rw [List.filterMap_cons, if_neg (hlow p hp).not_gt]
    rw [List.zipIdx_cons, pairs, List.filterMap_append, List.filterMap_map, ih, hlater,
      List.flatMap_cons]
    exact congrArg (· ++ _) hfirst

namespace Layout

open Flipbook.Script

variable {α ε : Type} [Scalar α] {maxCells : Int} {h w i j : Nat} {text m : String}
  {canvas : Option (Canvas Binary64)} {cfg : Config Binary64} {g : Grid Binary64}
  {c : Command Binary64} {cs : List (Command Binary64)} {items : List (Item Binary64)}
  {f : Frame Binary64 Notice}

/-! ## Cells row by row -/

theorem length_cellPlaces (h w : Nat) : (cellPlaces h w).length = h * w := by
  simp [cellPlaces, List.length_flatMap]

theorem getElem?_cellPlaces (hi : i < h) (hj : j < w) :
    (cellPlaces h w)[i * w + j]? = some (i, j) := by
  induction h with
  | zero => exact absurd hi (Nat.not_lt_zero i)
  | succ h ih =>
    have hsplit : cellPlaces (h + 1) w =
        cellPlaces h w ++ (List.range w).map fun col => (h, col) := by
      simp [cellPlaces, List.range_succ]
    rw [hsplit]
    rcases Nat.lt_succ_iff_lt_or_eq.mp hi with hi | rfl
    · have hrows : i * w + j < h * w := by
        calc i * w + j < i * w + w := Nat.add_lt_add_left hj _
          _ = (i + 1) * w := (Nat.succ_mul i w).symm
          _ ≤ h * w := Nat.mul_le_mul_right w hi
      rw [List.getElem?_append_left (by rwa [length_cellPlaces]), ih hi]
    · rw [List.getElem?_append_right (by rw [length_cellPlaces]; exact Nat.le_add_right _ _),
        length_cellPlaces, Nat.add_sub_cancel_left, List.getElem?_map, List.getElem?_range hj]
      rfl

/-! ## What a layout shows -/

/-- A cell that shows the entries of a grid in a row and a column. -/
structure CellShows (g : Grid α) (cfg : Config α) (row col : Nat) (x : Cell α) : Prop where
  row_eq : x.row = row
  col_eq : x.col = col
  fill : cell g.colors row col = some x.fill
  text : (cell g.texts row col).map (displayText · cfg) = some x.text

/-- Cells that show all of a grid, row by row. -/
structure CellsShow (g : Grid α) (cfg : Config α) (xs : List (Cell α)) : Prop where
  length_eq : xs.length = g.height * g.width
  cell : ∀ i j : Nat, i < g.height → j < g.width →
    ∃ x, xs[i * g.width.toNat + j]? = some x ∧ CellShows g cfg i j x

/-- An item that shows a spatial command. -/
structure Shows (canvas : Option (Canvas α)) (cfg : Config α) (c : Command α) (item : Item α) :
    Prop where
  kind : item.kind = c.kind
  bounds : item.bounds = resolveBounds c.bounds? canvas cfg
  cells : ∀ g l, c = .grid g → item = .grid l → CellsShow g cfg l.cells

/-- A panel that shows a bar graph, one bar for each of its bars. -/
structure Charts (b : BarGraph α) (l : BarGraphLayout α) : Prop where
  low : l.low = b.low
  high : l.high = b.high
  bars : l.bars.map (fun x => (⟨x.label, x.value⟩ : Bar α)) = b.bars

/-- A layout that shows all of a frame, and the script lines if the frame asks for them. -/
structure Depicts (cfg : Config α) (f : Frame α ε) (l : FrameLayout α ε) : Prop where
  items : List.Forall₂ (Shows (findCanvas f.commands) cfg)
    (f.commands.filter Command.isSpatial) l.items
  barGraphs : List.Forall₂ Charts (f.commands.filterMap barGraph?) l.barGraphs
  texts : l.texts = f.commands.filterMap textArea?
  score : l.score = (f.commands.filterMap score?).getLast?
  debugText : l.debugText = if f.showDebug then some f.rawText else none

theorem cellShows_cellPicture (hg : GridFormed maxCells g) (bounds : Rect Binary64)
    (cfg : Config Binary64) (hi : i < g.height) (hj : j < g.width) :
    CellShows g cfg i j (cellPicture g bounds cfg i j) := by
  obtain ⟨color, hcolor⟩ := cell_isSome hg.colors (r := i) (c := j) (by omega) (by omega)
  obtain ⟨text, htext⟩ := cell_isSome hg.texts (r := i) (c := j) (by omega) (by omega)
  refine ⟨rfl, rfl, ?_, ?_⟩
  · rw [hcolor]
    exact congrArg some (congrArg (Option.getD · g.defaultColor) hcolor).symm
  · rw [htext]
    exact congrArg (fun t => some (displayText t cfg))
      (congrArg (Option.getD · "") htext).symm

theorem cellsShow_gridPicture (hg : GridFormed maxCells g) (bounds : Rect Binary64)
    (cfg : Config Binary64) : CellsShow g cfg (gridPicture g bounds cfg).cells where
  length_eq := by
    have hheight := hg.height_pos
    have hwidth := hg.width_pos
    rw [gridPicture, List.length_map, length_cellPlaces, Int.natCast_mul,
      Int.toNat_of_nonneg (by omega), Int.toNat_of_nonneg (by omega)]
  cell := by
    intro i j hi hj
    refine ⟨_, ?_, cellShows_cellPicture hg bounds cfg hi hj⟩
    rw [gridPicture, List.getElem?_map, getElem?_cellPlaces (by omega) (by omega)]
    rfl

/-- A command that is not spatial has no item, and the item of any other shows it. -/
theorem itemPicture?_spec (hc : Formed maxCells c) (canvas : Option (Canvas Binary64))
    (cfg : Config Binary64) :
    (c.isSpatial = false ∧ itemPicture? canvas cfg c = none) ∨
      ∃ item, c.isSpatial = true ∧ itemPicture? canvas cfg c = some item ∧
        Shows canvas cfg c item := by
  cases c with
  | grid g =>
    refine .inr ⟨_, rfl, rfl, rfl, rfl, ?_⟩
    rintro _ _ ⟨⟩ ⟨⟩
    exact cellsShow_gridPicture hc _ cfg
  | plane p => exact .inr ⟨_, rfl, rfl, rfl, rfl, fun _ _ h => nomatch h⟩
  | _ => exact .inl ⟨rfl, rfl⟩

theorem shows_items (hcs : ∀ c ∈ cs, Formed maxCells c) (canvas : Option (Canvas Binary64))
    (cfg : Config Binary64) : List.Forall₂ (Shows canvas cfg) (cs.filter Command.isSpatial)
      (cs.filterMap (itemPicture? canvas cfg)) := by
  induction cs with
  | nil => exact .nil
  | cons c cs ih =>
    obtain ⟨hc, hcs⟩ := List.forall_mem_cons.mp hcs
    rcases itemPicture?_spec hc canvas cfg with ⟨hspatial, hnone⟩ | ⟨item, hspatial, hsome, hshows⟩
    · rw [List.filter_cons_of_neg (by simp [hspatial]), List.filterMap_cons_none hnone]
      exact ih hcs
    · rw [List.filter_cons_of_pos hspatial, List.filterMap_cons_some hsome]
      exact .cons hshows (ih hcs)

theorem charts_barGraphPicture (b : BarGraph α) (bounds : Rect α) :
    Charts b (barGraphPicture b bounds) := by
  refine ⟨rfl, rfl, ?_⟩
  rw [barGraphPicture, List.map_map]
  exact List.zipIdx_map_fst 0 b.bars

theorem charts_barGraphs (panels : Nat → Rect α) (bs : List (BarGraph α)) :
    List.Forall₂ Charts bs (bs.zipIdx.map fun p => barGraphPicture p.1 (panels p.2)) := by
  have hfst : bs = bs.zipIdx.map Prod.fst := (List.zipIdx_map_fst 0 bs).symm
  conv_lhs => rw [hfst]
  rw [List.forall₂_map_left_iff, List.forall₂_map_right_iff, List.forall₂_same]
  exact fun p _ => charts_barGraphPicture p.1 (panels p.2)

theorem depicts_framePicture (hf : ∀ c ∈ f.commands, Formed maxCells c) (cfg : Config Binary64) :
    Depicts cfg f (framePicture f cfg) where
  items := shows_items hf _ cfg
  barGraphs := charts_barGraphs (panel cfg) _
  texts := rfl
  score := rfl
  debugText := rfl

/-! ## Frames of scripts -/

theorem countsParts_binary64 : Scalar.CountsParts Binary64 :=
  fun _ hn => Binary64.isZero_of_pos (Binary64.ofInt_pos hn)

theorem drawable_of_formed (hc : Formed maxCells c) : Drawable c := by
  cases c with
  | grid g => exact ⟨hc.height_pos, hc.width_pos⟩
  | plane p => exact ⟨Binary64.isZero_of_pos hc.width.2, Binary64.isZero_of_pos hc.height.2⟩
  | _ => trivial

theorem layoutFrame_of_mem_parse (hf : f ∈ (parse cfg text).frames m) :
    layoutFrame f cfg = .ok (framePicture f cfg) ∧ Depicts cfg f (framePicture f cfg) := by
  obtain ⟨-, hformed⟩ := formed_of_mem_parse hf
  exact ⟨layoutFrame_eq countsParts_binary64
    (fun c hc => drawable_of_formed (hformed.commands c hc)) cfg,
    depicts_framePicture hformed.commands cfg⟩

/-- Every frame of a script can be laid out, without a fault, and its layout shows all of it. -/
theorem frames_laid_out (hf : f ∈ (parse cfg text).frames m) :
    ∃ layout, layoutFrame f cfg = .ok layout ∧ Depicts cfg f layout :=
  ⟨framePicture f cfg, layoutFrame_of_mem_parse hf⟩

/-- A canvas behind a grid, a plane that is dropped, and a grid on top of the first. -/
def galleryText : String :=
  "$v GRID 1 1 a b c\nCELL_TEXT\nabcdefg\n$v ZOOM\n$v 2D_PLANE 1 1\n$v CANVAS 30 40\n" ++
    "$v BAR_GRAPH red 0 9\n1 ada 4\n$v SCORE 1\n$v GRID(1,1,2,2) 1 1 a b c\n$v SCORE 2"

def galleryFrame : Frame Binary64 Notice where
  commands := [
    .grid
      { height := 1, width := 1, borderColor := "a", textColor := "b", defaultColor := "c"
        colors := [["c"]], texts := [["abcdefg"]]
        wallVertical := ["YY"], wallHorizontal := ["Y", "Y"] },
    .canvas ⟨30.0, 40.0⟩,
    .barGraph { fillColor := "red", low := 0, high := 9.0, bars := [⟨"ada", 4.0⟩] },
    .score "1",
    .grid
      { height := 1, width := 1, borderColor := "a", textColor := "b", defaultColor := "c"
        colors := [["c"]], texts := [[""]]
        wallVertical := ["YY"], wallHorizontal := ["Y", "Y"]
        bounds := some ⟨1.0, 1.0, 2.0, 2.0⟩ },
    .score "2"]
  rawText := galleryText ++ "\n"
  errors := [.report ⟨4, .unknownCommand "ZOOM"⟩, .conflict .grid .plane 1,
    .overlap ⟨.grid, 1, ⟨0, 0, 40.0, 30.0⟩⟩ ⟨.grid, 2, ⟨1.0, 1.0, 2.0, 2.0⟩⟩]

theorem getElem?_gallery :
    ((parse {} galleryText).frames defaultMode)[0]? = some galleryFrame := by
  decide +kernel

theorem frames_laid_out_gallery : galleryFrame ∈ (parse {} galleryText).frames defaultMode ∧
    ∃ layout, layoutFrame galleryFrame {} = .ok layout ∧ Depicts {} galleryFrame layout :=
  have h := List.mem_of_getElem? getElem?_gallery
  ⟨h, frames_laid_out h⟩

/-! ## Overlaps -/

/-- An item as overlaps name it, with its place among the items. -/
def Item.placed (item : Item Binary64) (place : Nat) : Placed := ⟨item.kind, place, item.bounds⟩

/-- The kind, the place and the rectangle of an item. -/
def Item.caption (item : Item Binary64) (place : Nat) : String :=
  s!"{item.kind.keyword} #{place} at {boundsText item.bounds}"

/-- A line for each two items whose rectangles overlap, the earlier one first, in the order of their
places, which are counted from one. -/
def overlapLines (items : List (Item Binary64)) : List String :=
  (items.zipIdx 1).flatMap fun (a, i) => (items.zipIdx 1).filterMap fun (b, j) =>
    if i < j ∧ a.bounds.overlaps b.bounds then
      some s!"Overlap between {a.caption i} and {b.caption j}"
    else none

theorem map_placed_zipIdx (h : List.Forall₂ (Shows canvas cfg) cs items) (n : Nat) :
    (cs.zipIdx n).map (fun p =>
        (⟨p.1.kind, p.2 + 1, resolveBounds p.1.bounds? canvas cfg⟩ : Placed)) =
      (items.zipIdx (n + 1)).map fun p => p.1.placed p.2 := by
  induction h generalizing n with
  | nil => rfl
  | cons hshows _ ih =>
    rw [List.zipIdx_cons, List.zipIdx_cons, List.map_cons, List.map_cons, ih, Item.placed,
      hshows.kind, hshows.bounds]

/-- The rectangles that are checked for overlaps are those of the items. -/
theorem placements_eq
    (h : List.Forall₂ (Shows (findCanvas cs) cfg) (cs.filter Command.isSpatial) items) :
    placements cs cfg = (items.zipIdx 1).map fun p => p.1.placed p.2 :=
  map_placed_zipIdx h 0

theorem overlapTexts_placements
    (h : List.Forall₂ (Shows (findCanvas cs) cfg) (cs.filter Command.isSpatial) items) :
    overlapTexts (placements cs cfg) = overlapLines items := by
  unfold overlapTexts overlapLines
  rw [placements_eq h, pairs_map, List.filterMap_map, filterMap_pairs_zipIdx]
  refine List.flatMap_congr fun p _ => List.filterMap_congr fun q _ => ?_
  exact (ite_and _ _ _ _).symm

theorem message_errors_passageFrame (cfg : Config Binary64) (p : List Statement) :
    (passageFrame cfg p).errors.map Notice.message =
      (reported p).map Report.message ++
        ((resolveExclusivity (drawn p)).2.map Notice.message).toList ++
          overlapTexts (placements (passageFrame cfg p).commands cfg) := by
  rw [← message_overlapNotices, errors_passageFrame, commitNotices, ← List.append_assoc,
    List.map_append, List.map_append, List.map_map, Option.toList_map]
  rfl

/-- The errors of a frame in words: the reports of its passage, a notice at most that commands were
dropped, and a line for each two items of its layout that overlap. -/
theorem errors_laid_out {k : Nat} (hf : ((parse cfg text).frames m)[k]? = some f) :
    ∃ layout passage, ∃ conflict : Option Notice,
      layoutFrame f cfg = .ok layout ∧
      (passages (statementsOf cfg.maxGridCells text m)).groups[k]? = some passage ∧
      (∀ n ∈ conflict, ∃ kept dropped count, n = .conflict kept dropped count) ∧
      f.errors.map Notice.message = (reported passage).map Report.message ++
        (conflict.map Notice.message).toList ++ overlapLines layout.items := by
  obtain ⟨hlayout, hdepicts⟩ := layoutFrame_of_mem_parse (List.mem_of_getElem? hf)
  rw [frames_eq, List.getElem?_map] at hf
  obtain ⟨passage, hpassage, rfl⟩ := Option.map_eq_some_iff.mp hf
  refine ⟨_, passage, (resolveExclusivity (drawn passage)).2, hlayout, hpassage,
    fun n hn => conflict_of_mem hn, ?_⟩
  rw [message_errors_passageFrame, overlapTexts_placements hdepicts.items]

theorem errors_laid_out_gallery :
    ((parse {} galleryText).frames defaultMode)[0]? = some galleryFrame ∧
    ∃ layout passage, ∃ conflict : Option Notice,
      layoutFrame galleryFrame {} = .ok layout ∧
      (passages (statementsOf 1000000 galleryText defaultMode)).groups[0]? = some passage ∧
      (∀ n ∈ conflict, ∃ kept dropped count, n = .conflict kept dropped count) ∧
      galleryFrame.errors.map Notice.message = (reported passage).map Report.message ++
        (conflict.map Notice.message).toList ++ overlapLines layout.items :=
  ⟨getElem?_gallery, errors_laid_out getElem?_gallery⟩

end Layout

end Flipbook
