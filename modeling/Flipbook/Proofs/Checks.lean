import Mathlib
import Flipbook.Proofs.Listings
import Flipbook.Proofs.Overflows
import Flipbook.Proofs.Pictures

/-!
Checks of sizes. What is laid out behind a check is laid out as it is without one, unless a side is
too large for doubles: then that is its fault. The frames of a script pass the checks of layouts and
of writing where the number of cells of a grid is limited by an integer that is not as large as that.
-/
namespace Flipbook.Geometry

open Binary64

variable {τ : Type} {n rows cols : Int} {x : Except Fault τ}

theorem double_of_reaches (h : Reaches n) : double n = .ok (n : Binary64) := by
  rw [double, ofInt?_of_reaches h]

theorem double_of_not_reaches (h : ¬ Reaches n) : double n = .error .tooLarge := by
  rw [double, ofInt?_of_not_reaches h]

theorem divide_zero (x : Binary64) : divide x ((0 : Int) : Binary64) = .error .divisionByZero := rfl

theorem requireParts_zero : requireParts 0 = .error .divisionByZero := by
  have hzero : Reaches 0 := ⟨by positivity⟩
  rw [requireParts, double_of_reaches hzero]
  rfl

theorem requireParts_of_reaches (h : Reaches n) (hn : n ≠ 0) : requireParts n = .ok () := by
  rw [requireParts, double_of_reaches h, ok_bind, isZero_ofInt hn]
  rfl

theorem requireParts_of_not_reaches (h : ¬ Reaches n) : requireParts n = .error .tooLarge := by
  rw [requireParts, double_of_not_reaches h]
  rfl

/-- Whether nothing is refused for the number of its rows or columns: without a column, the number
of rows is not asked for. -/
def CellsReach (rows cols : Int) : Prop := Reaches cols ∧ (cols = 0 ∨ Reaches rows)

instance (rows cols : Int) : Decidable (CellsReach rows cols) :=
  inferInstanceAs (Decidable (_ ∧ _))

/-- What stands behind a check of rows and columns is refused for their numbers or done as it is, if
it finds the fault of having no columns or no rows by itself. -/
theorem requireCells_bind (hcols : cols = 0 → x = .error .divisionByZero)
    (hrows : cols ≠ 0 → rows = 0 → x = .error .divisionByZero) :
    (requireCells rows cols >>= fun _ => x) =
      if CellsReach rows cols then x else .error .tooLarge := by
  rw [requireCells]
  by_cases hwide : Reaches cols
  · rcases eq_or_ne cols 0 with rfl | hcols₀
    · rw [requireParts_zero, if_pos ⟨hwide, .inl rfl⟩, hcols rfl]
      rfl
    · rw [requireParts_of_reaches hwide hcols₀, ok_bind]
      by_cases hhigh : Reaches rows
      · rw [if_pos ⟨hwide, .inr hhigh⟩]
        rcases eq_or_ne rows 0 with rfl | hrows₀
        · rw [requireParts_zero, hrows hcols₀ rfl]
          rfl
        · rw [requireParts_of_reaches hhigh hrows₀, ok_bind]
      · rw [requireParts_of_not_reaches hhigh, if_neg fun h => h.2.elim hcols₀ hhigh]
        rfl
  · rw [requireParts_of_not_reaches hwide, if_neg fun h => hwide h.1]
    rfl

theorem checkedEdges_eq (start stop : Binary64) (n : Int) :
    checkedEdges start stop n = if Reaches n then edges start stop n else .error .tooLarge := by
  rw [checkedEdges]
  by_cases h : Reaches n
  · rw [if_pos h]
    rcases eq_or_ne n 0 with rfl | hn
    · rw [requireParts_zero, edges, divide_zero]
      rfl
    · rw [requireParts_of_reaches h hn, ok_bind]
  · rw [if_neg h, requireParts_of_not_reaches h]
    rfl

theorem checkedCenter_eq (r : Rect Binary64) (rows cols : Int) :
    checkedCenter r rows cols =
      if CellsReach rows cols then center r rows cols else .error .tooLarge := by
  refine requireCells_bind ?_ fun hcols => ?_
  · rintro rfl
    rfl
  · rintro rfl
    rw [center, divide_eq _ (isZero_ofInt hcols), ok_bind, divide_zero]
    rfl

end Flipbook.Geometry

namespace Flipbook.Layout

open Binary64 Flipbook.Geometry

variable {ε : Type} {c : Command Binary64} {f : Frame Binary64 ε}

theorem checkedCellRect_eq {row col : Int} (hrow : Reaches row) (hcol : Reaches col)
    (bounds : Rect Binary64) (h w : Int) : checkedCellRect bounds h w row col =
      if CellsReach h w then cellRect bounds h w row col else .error .tooLarge := by
  rw [checkedCellRect, double_of_reaches hrow, double_of_reaches hcol]
  refine requireCells_bind ?_ fun hw => ?_
  · rintro rfl
    rfl
  · rintro rfl
    rw [ok_bind, ok_bind, cellRect, divide_eq _ (isZero_ofInt hw), ok_bind, divide_zero]
    rfl

/-- A grid is laid out as it is without a check, or one of its sides is too large. -/
theorem checkedGrid_eq (g : Grid Binary64) (bounds : Rect Binary64) (cfg : Config Binary64) :
    checkedGrid g bounds cfg =
      if CellsReach g.height g.width then layoutGrid g bounds cfg else .error .tooLarge := by
  refine requireCells_bind (fun hw => ?_) fun hw hh => ?_
  · rw [layoutGrid, hw, divide_zero]
    rfl
  · rw [layoutGrid, divide_eq _ (isZero_ofInt hw), ok_bind, hh, divide_zero]
    rfl

theorem checkedWalls_eq (g : Grid Binary64) (bounds : Rect Binary64) :
    checkedWalls g bounds =
      if CellsReach g.height g.width then gridWalls g bounds else .error .tooLarge := by
  refine requireCells_bind (fun hw => ?_) fun hw hh => ?_
  · rw [gridWalls, hw, edges, divide_zero]
    rfl
  · rw [gridWalls, edges_eq _ _ (isZero_ofInt hw), ok_bind, hh, edges, divide_zero]
    rfl

/-- Whether no side of a command is too large for doubles. -/
def SidesReach : Command Binary64 → Prop
  | .grid g => Reaches g.height ∧ Reaches g.width
  | _ => True

theorem checkedItem?_eq (hc : SidesReach c) (canvas : Option (Canvas Binary64))
    (cfg : Config Binary64) : checkedItem? canvas cfg c = layoutItem? canvas cfg c := by
  cases c with
  | grid g => rw [checkedItem?, checkedGrid_eq, if_pos ⟨hc.2, .inr hc.1⟩]; rfl
  | _ => rfl

theorem checkedItem?_tooLarge (hc : Drawable c) (hsides : ¬ SidesReach c)
    (canvas : Option (Canvas Binary64)) (cfg : Config Binary64) :
    checkedItem? canvas cfg c = some (.error .tooLarge) := by
  cases c with
  | grid g =>
    have hpos : g.width ≠ 0 := Int.ne_of_gt hc.2
    have hlarge : ¬ CellsReach g.height g.width :=
      fun h => hsides ⟨h.2.resolve_left hpos, h.1⟩
    rw [checkedItem?, checkedGrid_eq, if_neg hlarge]
    rfl
  | _ => exact absurd trivial hsides

/-- A frame none of whose grids is too large is laid out as it is without a check. -/
theorem checkedFrame_eq (hf : ∀ c ∈ f.commands, SidesReach c) (cfg : Config Binary64) :
    checkedFrame f cfg = layoutFrame f cfg := by
  have hitems : f.commands.filterMap (checkedItem? (findCanvas f.commands) cfg) =
      f.commands.filterMap (layoutItem? (findCanvas f.commands) cfg) :=
    List.filterMap_congr fun c hc => checkedItem?_eq (hf c hc) _ cfg
  rw [checkedFrame, hitems, layoutFrame]

/-- A frame with a grid that is too large has no layout, and nothing else is found at fault. -/
theorem checkedFrame_tooLarge (hf : ∀ c ∈ f.commands, Drawable c) (hc : c ∈ f.commands)
    (hsides : ¬ SidesReach c) (cfg : Config Binary64) :
    checkedFrame f cfg = .error .tooLarge := by
  have honly : ∀ d, .error d ∈ f.commands.filterMap (checkedItem? (findCanvas f.commands) cfg) →
      d = .tooLarge := by
    intro d hd
    obtain ⟨b, hb, hitem⟩ := List.mem_filterMap.mp hd
    by_cases hreach : SidesReach b
    · rw [checkedItem?_eq hreach, layoutItem?_eq countsParts_binary64 (hf b hb)] at hitem
      obtain ⟨item, -, hok⟩ := Option.map_eq_some_iff.mp hitem
      cases hok
    · rw [checkedItem?_tooLarge (hf b hb) hreach] at hitem
      cases hitem
      rfl
  have hmem := List.mem_filterMap.mpr ⟨c, hc, checkedItem?_tooLarge (hf c hc) hsides
    (findCanvas f.commands) cfg⟩
  rw [checkedFrame, layoutAround, mapM_error honly hmem]
  rfl

/-! ## Frames of scripts -/

section

open Flipbook.Script

variable {cfg : Config Binary64} {maxCells : Int} {text m : String}

/-- No side of a grid is larger than its number of cells. -/
theorem sides_le_of_formed {g : Grid Binary64} (hg : GridFormed maxCells g) :
    g.height ≤ maxCells ∧ g.width ≤ maxCells :=
  ⟨(le_mul_of_one_le_right hg.height_pos.le hg.width_pos).trans hg.cells_le,
    (le_mul_of_one_le_left hg.width_pos.le hg.height_pos).trans hg.cells_le⟩

theorem sidesReach_of_formed (hcells : Reaches maxCells) (hc : Formed maxCells c) :
    SidesReach c := by
  cases c with
  | grid g =>
    obtain ⟨hheight, hwidth⟩ := sides_le_of_formed hc
    exact ⟨reaches_of_le hc.height_pos.le hheight hcells,
      reaches_of_le hc.width_pos.le hwidth hcells⟩
  | _ => trivial

/-- A frame has its layout, or a grid of it is too large and that is all its fault. -/
theorem checkedFrame_of_formed (hf : ∀ c ∈ f.commands, Formed maxCells c) (cfg : Config Binary64) :
    ((∀ c ∈ f.commands, SidesReach c) → checkedFrame f cfg = .ok (framePicture f cfg)) ∧
      ∀ c ∈ f.commands, ¬ SidesReach c → checkedFrame f cfg = .error .tooLarge := by
  have hdraw : ∀ c ∈ f.commands, Drawable c := fun c hc => drawable_of_formed (hf c hc)
  refine ⟨fun hsides => ?_, fun c hc hsides => checkedFrame_tooLarge hdraw hc hsides cfg⟩
  rw [checkedFrame_eq hsides, layoutFrame_eq countsParts_binary64 hdraw]

/-- Where the number of cells of a grid is limited by an integer that has a double, every frame of a
script passes the checks, and its layout shows all of it. -/
theorem checked_frames_laid_out {f : Frame Binary64 Notice} (hcells : Reaches cfg.maxGridCells)
    (hf : f ∈ (parse cfg text).frames m) :
    ∃ layout, checkedFrame f cfg = .ok layout ∧ Depicts cfg f layout := by
  obtain ⟨-, hformed⟩ := formed_of_mem_parse hf
  have hchecked := (checkedFrame_of_formed hformed.commands cfg).1 fun c hc =>
    sidesReach_of_formed hcells (hformed.commands c hc)
  exact ⟨framePicture f cfg, hchecked, (layoutFrame_of_mem_parse hf).2⟩

end

end Flipbook.Layout

namespace Flipbook.CommandLine

open Flipbook.Script

variable {σ τ : Type} {xs : List τ} {x : τ} {i : Int}

theorem frameAt?_map (g : τ → σ) (xs : List τ) (i : Int) :
    frameAt? (xs.map g) i = (frameAt? xs i).map g := by
  unfold frameAt?
  split
  · rw [List.getElem?_map]
  · rw [List.length_map]
    split
    · rw [List.getElem?_map]
    · rfl

theorem mem_of_frameAt? (h : frameAt? xs i = some x) : x ∈ xs := by
  unfold frameAt? at h
  split at h
  · exact List.mem_of_getElem? h
  · split at h
    · exact List.mem_of_getElem? h
    · cases h

/-- The layout of a frame is printed whenever there is such a frame. -/
theorem status_report_layout {cfg : Config Binary64} (hcells : Binary64.Reaches cfg.maxGridCells)
    (mode index text : String) : (report (.layout mode index) cfg text).status = 0 ↔
      ((Numeral.readInt? index).bind (frameAt? ((parse cfg text).frames mode))).isSome = true := by
  have hfound : (Numeral.readInt? index).bind (frameAt? ((parse cfg text).inWords.frames mode)) =
      ((Numeral.readInt? index).bind (frameAt? ((parse cfg text).frames mode))).map
        Frame.inWords := by
    rw [Reel.frames_inWords, Option.map_bind]
    exact Option.bind_congr fun i _ => frameAt?_map _ _ i
  unfold report
  simp only [hfound]
  cases hframe : (Numeral.readInt? index).bind (frameAt? ((parse cfg text).frames mode)) with
  | none => simp
  | some f =>
    obtain ⟨i, -, hf⟩ := Option.bind_eq_some_iff.mp hframe
    obtain ⟨-, hformed⟩ := formed_of_mem_parse (mem_of_frameAt? hf)
    have hchecked : Layout.checkedFrame f.inWords cfg = .ok (Layout.framePicture f.inWords cfg) :=
      (Layout.checkedFrame_of_formed (f := f.inWords) hformed.commands cfg).1 fun c hc =>
        Layout.sidesReach_of_formed hcells (hformed.commands c hc)
    simp [hchecked]

end Flipbook.CommandLine

namespace Flipbook.Script

open Layout

variable {cfg : Config Binary64} {maxCells : Int} {text m : String} {c : Command Binary64}
  {cs : List (Command Binary64)}

theorem requireWalls_eq (h : ∀ c ∈ cs, wallsFit c = true) : requireWalls cs = .ok () :=
  if_pos (List.all_eq_true.mpr h)

theorem wallsFit_of_formed (hcells : maxCells < 2 ^ 63 - 1) (hc : Formed maxCells c) :
    wallsFit c = true := by
  cases c with
  | grid g =>
    obtain ⟨hheight, hwidth⟩ := sides_le_of_formed hc
    have hheight' := hc.height_pos
    have hwidth' := hc.width_pos
    simp only [wallsFit, List.all_cons, isListIndex, Nat.pow_eq, Nat.reducePow, Nat.cast_ofNat,
      Int.reduceNeg, List.all_nil, Bool.and_true, Bool.and_eq_true, decide_eq_true_eq]
    omega
  | _ => rfl

theorem checkedWriteFrame_of_mem_parse (hcells : cfg.maxGridCells < 2 ^ 63 - 1)
    {f : Frame Binary64 Notice} (hf : f ∈ (parse cfg text).frames m) (mode : String) :
    checkedWriteFrame mode f = .ok (writeFrame mode f) := by
  obtain ⟨-, hformed⟩ := formed_of_mem_parse hf
  rw [checkedWriteFrame,
    requireWalls_eq fun c hc => wallsFit_of_formed hcells (hformed.commands c hc)]
  rfl

/-- Every script can be written back, as it is without a check, where the number of cells of a grid
is limited to less than the longest list has. -/
theorem checkedWrite_parse (hcells : cfg.maxGridCells < 2 ^ 63 - 1) (text : String) :
    checkedWrite (parse cfg text) = .ok (write (parse cfg text)) := by
  have hfit : ∀ c ∈ (parse cfg text).flatMap fun p => p.2.flatMap (·.commands),
      wallsFit c = true := by
    intro c hc
    obtain ⟨p, hp, f, hf, hdrawn⟩ : ∃ p ∈ parse cfg text, ∃ f ∈ p.2, c ∈ f.commands := by
      simpa only [List.mem_flatMap] using hc
    rw [← Reel.frames_of_mem (nodup_modes cfg text) hp] at hf
    obtain ⟨-, hformed⟩ := formed_of_mem_parse hf
    exact wallsFit_of_formed hcells (hformed.commands c hdrawn)
  rw [checkedWrite, requireWalls_eq hfit]
  rfl

end Flipbook.Script
