import Mathlib
import Flipbook.Proofs.Coverage
import Flipbook.Proofs.Drawn
import Flipbook.Proofs.Lists

/-!
How much of a script a grid can hold. Every coloured cell and every polyline takes a character of a
line that was read as a row, so a grid has no more of them than the script has characters.
-/
namespace Flipbook.Script

open Text

variable {β κ : Type} {cfg : Config Binary64} {maxCells number line : Int} {text m : String}
  {rest ls ms : List String} {call : Call} {g : Grid Binary64} {f : Frame Binary64 Notice}

/-! ## Lengths of texts -/

/-- The characters of some lines. -/
def extent (ls : List String) : Nat := (ls.map String.length).sum

theorem extent_le_of_sublist (h : ls.Sublist ms) : extent ls ≤ extent ms :=
  (h.map String.length).sum_le_sum fun _ _ => Nat.zero_le _

theorem flatten_cut_sublist (p : Char → Bool) (cs : List Char) :
    (cut p cs).flatten.Sublist cs := by
  induction cs with
  | nil => exact List.Sublist.refl _
  | cons c cs ih =>
    rw [cut_eq_splitOnP] at ih ⊢
    rw [List.splitOnP_cons_eq_if_modifyHead]
    split
    · exact ih.cons c
    · obtain ⟨piece, pieces, hpieces⟩ := List.exists_cons_of_ne_nil (List.splitOnP_ne_nil p cs)
      rw [hpieces] at ih ⊢
      exact ih.cons_cons c

/-- The lines of a text are no longer than the text. -/
theorem extent_lines_le (text : String) : extent (lines text) ≤ text.length := by
  unfold lines splitAt
  split
  · exact Nat.zero_le _
  · have hpieces := (flatten_cut_sublist (· == '\n') text.toList).length_le
    rw [List.length_flatten, String.length_toList] at hpieces
    rw [extent, List.map_map]
    simpa [Function.comp_def] using hpieces

/-- A text has no more words than characters. -/
theorem length_words_le (s : String) : (words s).length ≤ s.length := by
  have hne : ∀ piece ∈ wordChars s.toList, piece ≠ [] := by
    intro piece hpiece
    simpa using (List.mem_filter.mp hpiece).2
  have hflatten : (wordChars s.toList).flatten = (cut isBlank s.toList).flatten :=
    List.flatten_filter_not_isEmpty
  calc (words s).length = (wordChars s.toList).length := by rw [words, List.length_map, wordChars]
    _ ≤ (cut isBlank s.toList).flatten.length := by
      rw [← hflatten]
      exact length_le_flatten hne
    _ ≤ s.length := by
      rw [← String.length_toList]
      exact (flatten_cut_sublist isBlank s.toList).length_le

/-! ## Coloured cells -/

variable {d color : String} {table : List (List String)}

/-- The number of cells of a table that differ from `d`. -/
def coloured (d : String) (table : List (List String)) : Nat :=
  (table.map (·.countP (· ≠ d))).sum

theorem coloured_cons (d : String) (row : List String) (table : List (List String)) :
    coloured d (row :: table) = row.countP (· ≠ d) + coloured d table := by
  rw [coloured, List.map_cons, List.sum_cons, coloured]

theorem length_colouredCells (g : Grid Binary64) :
    (colouredCells g).length = coloured g.defaultColor g.colors := by
  have hrow (row : List String) (r k : Nat) : ((row.zipIdx k).filterMap fun cell =>
      if cell.1 = g.defaultColor then none else some (cell.1, r, cell.2)).length =
        row.countP (· ≠ g.defaultColor) := by
    induction row generalizing k with
    | nil => rfl
    | cons color row ih =>
      rw [List.zipIdx_cons, List.filterMap_cons, List.countP_cons]
      by_cases hc : color = g.defaultColor
      · simp only [if_pos hc, ih]
        simp [hc]
      · simp only [if_neg hc, List.length_cons, ih]
        simp [hc]
  have htable (table : List (List String)) (k : Nat) : ((table.zipIdx k).flatMap fun line =>
      line.1.zipIdx.filterMap fun cell =>
        if cell.1 = g.defaultColor then none else some (cell.1, line.2, cell.2)).length =
          coloured g.defaultColor table := by
    induction table generalizing k with
    | nil => rfl
    | cons row table ih =>
      rw [List.zipIdx_cons, List.flatMap_cons, List.length_append, ih, coloured_cons]
      exact congrArg (· + coloured g.defaultColor table) (hrow row k 0)
  exact htable g.colors 0

/-- Rewriting one row adds at most the cells that it adds to the row. -/
theorem coloured_modify_le {f : List String → List String} {k : Nat}
    (h : ∀ row, (f row).countP (· ≠ d) ≤ row.countP (· ≠ d) + k) (table : List (List String))
    (i : Nat) : coloured d (table.modify i f) ≤ coloured d table + k := by
  induction table generalizing i with
  | nil => simp [coloured]
  | cons row table ih =>
    cases i with
    | zero =>
      have hrow := h row
      rw [List.modify_zero_cons, coloured_cons, coloured_cons]
      omega
    | succ i =>
      have hlater := ih i
      rw [List.modify_succ_cons, coloured_cons, coloured_cons]
      omega

theorem countP_overlay_le (p : String → Bool) (new old : List String) :
    (overlay new old).countP p ≤ old.countP p + new.length := by
  have hnew := (new.take old.length).countP_le_length (p := p)
  have hlength := (new.take_sublist old.length).length_le
  have hold := (old.drop_sublist new.length).countP_le (p := p)
  rw [overlay, List.countP_append]
  omega

/-- Painting adds at most the cells that are painted. -/
theorem coloured_foldl_paint_le (d color : String) (cells : List (Int × Int))
    (table : List (List String)) :
    coloured d (cells.foldl (paint color) table) ≤ coloured d table + cells.length := by
  induction cells generalizing table with
  | nil => exact le_refl _
  | cons cell cells ih =>
    have hfirst : coloured d (paint color table cell) ≤ coloured d table + 1 := by
      unfold paint
      split
      · exact coloured_modify_le (fun row => countP_set_le _ row _ color) table _
      · exact Nat.le_succ _
    have hlater := ih (paint color table cell)
    rw [List.foldl_cons, List.length_cons]
    omega

theorem length_readPositions_le (n : Nat) (row : List String) :
    (readPositions n row).length ≤ row.length := by
  fun_induction readPositions n row with
  | case1 n r c more a b ha hb ih =>
    simp only [List.length_cons]
    omega
  | case2 n r c more h ih =>
    simp only [List.length_cons]
    omega
  | case3 => exact Nat.zero_le _

/-! ## Grids -/

/-- The number of entries of a grid that a count line has to tell. -/
def filled (g : Grid Binary64) : Nat := coloured g.defaultColor g.colors + g.polylines.length

theorem filled_blank (h : GridHeader) : filled h.blank = 0 := by
  simp [filled, coloured, GridHeader.blank]

/-- A row adds no more entries to a grid than it has characters. -/
theorem filled_gridRow_le (w : Nat) (g : Grid Binary64) (b : GridBlock) (i : Nat) (text : String)
    (line : Int) : filled (gridRow w g b i text line).1 ≤ filled g + text.length := by
  have hsame : filled g ≤ filled g + text.length := Nat.le_add_right _ _
  have hwords := length_words_le text
  have heffect := gridEffect_gridRow w g b i text line
  generalize gridRow w g b i text line = r at heffect ⊢
  cases heffect with
  | colors =>
    have hrow := coloured_modify_le (fun row => countP_overlay_le (· ≠ g.defaultColor) (words text) row)
      g.colors i
    simp only [filled]
    omega
  | places color n more hrow =>
    obtain ⟨count, hsplit, -⟩ := countedRow?_some hrow
    have hcells := length_readPositions_le n.toNat more
    have hpaint := coloured_foldl_paint_le g.defaultColor color (readPositions n.toNat more) g.colors
    rw [hsplit, List.length_append, List.length_cons, List.length_cons] at hwords
    simp only [filled]
    omega
  | polyline color n more points hrow =>
    obtain ⟨count, hsplit, -⟩ := countedRow?_some hrow
    rw [hsplit, List.length_append, List.length_cons] at hwords
    simp only [filled, List.length_append, List.length_singleton]
    omega
  | texts | wallVertical | wallHorizontal | noPlaces | noPoint | noPolyline => exact hsame

/-- What no row adds to by more than its length grows by no more than the length of the rows. -/
theorem replay_le {row : β → κ → Nat → String → Int → β × List Report} {μ : β → Nat}
    (h : ∀ x key i text line, μ (row x key i text line).1 ≤ μ x + text.length) (x : β)
    (evs : List (BlockEvent κ)) :
    μ (replay row x evs).1 ≤ μ x + extent (BlockReader.rowTexts evs) := by
  induction evs generalizing x with
  | nil => exact Nat.le_add_right _ _
  | cons e evs ih =>
    cases e with
    | row key i text line =>
      have hfirst := h x key i text line
      have hlater := ih (row x key i text line).1
      have hextent : extent (BlockReader.rowTexts (.row key i text line :: evs)) =
          text.length + extent (BlockReader.rowTexts evs) := by
        simp [extent, BlockReader.rowTexts]
      rw [replay_row, hextent]
      dsimp only
      omega
    | problem p =>
      rw [replay_problem]
      exact ih x

theorem filled_readGrid_le (h : (readGrid maxCells call rest line).action = .draw (.grid g)) :
    filled g ≤ extent rest := by
  unfold readGrid at h
  split at h
  next => cases h
  next header _ =>
    obtain rfl := Command.grid.inj (Action.draw.inj h)
    obtain ⟨ls, evs, hreads⟩ := BlockReader.reads_run
      (r := { specs := header.specs, rest, line }) (plainNames_gridSpecs header)
    have hevents : ({ specs := header.specs, rest, line } : BlockReader GridBlock).run.events.toList =
        evs := by
      rw [hreads.events_eq]
      rfl
    have hrest : rest = ls ++ _ := hreads.rest_eq
    rw [hevents]
    calc filled (replay (gridRow header.width) header.blank evs).1
        ≤ filled header.blank + extent (BlockReader.rowTexts evs) :=
          replay_le (filled_gridRow_le header.width) _ _
      _ = extent (BlockReader.rowTexts evs) := by rw [filled_blank, Nat.zero_add]
      _ ≤ extent ls := extent_le_of_sublist hreads.rows
      _ ≤ extent rest := extent_le_of_sublist (hrest ▸ List.sublist_append_left _ _)

theorem filled_perform_le
    (h : (perform maxCells text number rest line).action = .draw (.grid g)) :
    filled g ≤ extent rest := by
  have hperforms := performs_perform maxCells text number rest line
  generalize perform maxCells text number rest line = o at h hperforms
  cases hperforms with
  | grid call hcall => exact filled_readGrid_le h
  | canvas call hcall =>
    unfold readCanvas at h
    split at h
    · split at h <;> cases h
    · cases h
  | barGraph call hcall =>
    unfold readBarGraph at h
    split at h
    · cases h
    · dsimp only at h
      split at h <;> cases h
  | plane call hcall =>
    unfold readPlane at h
    split at h <;> cases h
  | _ => cases h

/-- A grid of a script has no more entries than the script has characters. -/
theorem filled_le_of_mem_parse (hf : f ∈ (parse cfg text).frames m) (hg : .grid g ∈ f.commands) :
    filled g ≤ text.length := by
  have hdrawn : ∀ st ∈ statements cfg.maxGridCells text, ∀ c, st.outcome.action = .draw c →
      ∀ g, c = .grid g → filled g ≤ text.length := by
    rintro st hst _ hc g rfl
    have houtcome := outcome_of_mem_statementsFrom cfg.maxGridCells 1 (lines text) [] rfl st hst
    rw [houtcome] at hc
    calc filled g ≤ extent ((lines text).drop st.line) := filled_perform_le hc
      _ ≤ extent (lines text) := extent_le_of_sublist (List.drop_sublist _ _)
      _ ≤ text.length := extent_lines_le text
  exact (frameOf_of_mem_parse hf hdrawn).commands _ hg g rfl

theorem gridCounts_of_filled (h : IsCount (filled g)) : GridCounts g := by
  have hcells : (colouredCells g).length ≤ filled g := by
    rw [length_colouredCells]
    exact Nat.le_add_right _ _
  have hcolors : ((colouredCells g).map Prod.fst).eraseDups.length ≤ (colouredCells g).length := by
    have hlength := length_eraseDups_le ((colouredCells g).map Prod.fst)
    rwa [List.length_map] at hlength
  refine ⟨?_, fun group hgroup => ?_, (Nat.le_add_left _ _).trans_lt h⟩
  · rw [colourGroups, List.length_map]
    exact (hcolors.trans hcells).trans_lt h
  · obtain ⟨color, -, rfl⟩ := List.mem_map.mp hgroup
    rw [List.length_map]
    exact ((List.length_filter_le _ _).trans hcells).trans_lt h

end Flipbook.Script
