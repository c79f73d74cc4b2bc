import Mathlib
import Flipbook.Proofs.Dispatch
import Flipbook.Proofs.Drawn
import Flipbook.Proofs.Lists
import Flipbook.Proofs.Turns

/-!
Writes into the tables of a grid. Rows are written cell by cell here, and a write where the table
has no such row or column fails. No row of a script makes one fail: a reader counts the rows of a
block up to the height of its table, and a row gives no more cells than the table is wide.
-/
namespace Flipbook.Script

open Text

variable {β κ : Type} {rows : κ → Option Int} {maxCells line : Int} {h w i c : Nat}
  {table : List (List String)} {ss ls : List String} {color s : String} {g : Grid Binary64}

/-! ## Rows that a reader counts -/

/-- The index of a row is below the number of rows of its block, if that is fixed. -/
def RowInside (rows : κ → Option Int) : BlockEvent κ → Prop
  | .row key i _ _ => ∀ n ∈ rows key, (i : Int) < n
  | .problem _ => True

namespace BlockReader

variable {r t : BlockReader κ}

/-- A reader that counts the rows of its blocks: `rows` are the numbers that are fixed. -/
structure Counting (rows : κ → Option Int) (r : BlockReader κ) : Prop where
  specs : ∀ b ∈ r.specs, b.rows = rows b.key ∧ ∀ n ∈ b.rows, 0 ≤ n
  active : ∀ b ∈ r.active, b.rows = rows b.key
  inCount : r.phase = .count → r.consumed = 0 ∧ ∀ b ∈ r.active, b.rows = none
  inRows : r.phase = .rows → r.consumed < r.expected ∧ ∀ b ∈ r.active, ∀ n ∈ b.rows, r.expected = n
  events : ∀ e ∈ r.events.toList, RowInside rows e

/-- A block that begins with no row read has its rows before it. -/
theorem Counting.beginRows {n : Int} (hspecs : ∀ b ∈ r.specs, b.rows = rows b.key ∧
      ∀ n ∈ b.rows, 0 ≤ n) (hactive : ∀ b ∈ r.active, b.rows = rows b.key)
    (hevents : ∀ e ∈ r.events.toList, RowInside rows e) (hzero : r.consumed = 0) (hn : 0 ≤ n)
    (hfixed : ∀ b ∈ r.active, ∀ k ∈ b.rows, n = k) : Counting rows (r.beginRows n) where
  specs := hspecs
  active := hactive
  inCount := by
    intro hp
    simp only [BlockReader.beginRows] at hp
    split at hp <;> cases hp
  inRows := by
    intro hp
    have hne : n ≠ 0 := by
      rintro rfl
      simp [BlockReader.beginRows] at hp
    refine ⟨?_, hfixed⟩
    change (r.consumed : Int) < n
    omega
  events := hevents

theorem Turn.counting (ht : Turn r t) (h : Counting rows r) : Counting rows t := by
  obtain ⟨hspecs, hactive, hcount, hrows, hevents⟩ := h
  cases ht with
  | blank line more hphase hrest hb =>
    exact ⟨hspecs, hactive, by simp [take, hphase], by simp [take, hphase], hevents⟩
  | block b line more hphase hrest hb hs =>
    obtain ⟨word, -, hspec⟩ := Option.bind_eq_some_iff.mp hs
    obtain ⟨hrow, hpos⟩ := hspecs b (mem_specs_of_spec? hspec).1
    unfold openBlock
    cases hfixed : b.rows with
    | none => exact ⟨hspecs, by simpa using hrow, by simp [hfixed], by simp, hevents⟩
    | some n =>
      exact .beginRows hspecs (by simpa using hrow) hevents rfl (hpos n (by simp [hfixed]))
        (by simp [hfixed])
  | last hphase hrest => exact ⟨hspecs, hactive, by simp, by simp, hevents⟩
  | noCount b hphase ha hstop =>
    exact ⟨hspecs, hactive, by simp, by simp, forall_mem_push hevents trivial⟩
  | count b line more n hphase ha hrest hl hn =>
    obtain ⟨hzero, hnone⟩ := hcount hphase
    refine .beginRows hspecs hactive hevents hzero (le_max_right n 0) fun b hb k hk => ?_
    rw [hnone b hb] at hk
    cases hk
  | badCount b line more hphase ha hrest hl hn =>
    exact ⟨hspecs, hactive, by simp, by simp, forall_mem_push hevents trivial⟩
  | noRow b hphase ha hstop =>
    exact ⟨hspecs, hactive, by simp [endRows], by simp [endRows],
      forall_mem_push hevents trivial⟩
  | row b line more hphase ha hrest hl =>
    obtain ⟨hlt, hfixed⟩ := hrows hphase
    refine ⟨hspecs, hactive, ?_, ?_, forall_mem_push hevents fun n hn => ?_⟩
    · intro hp
      dsimp only at hp
      split at hp <;> cases hp
    · intro hp
      refine ⟨?_, hfixed⟩
      dsimp only [take] at hp ⊢
      split at hp
      · cases hp
      · omega
    · have hexpected := hfixed b ha n (by rwa [hactive b ha])
      rwa [hexpected] at hlt
  | lost hphase ha => exact ⟨hspecs, hactive, by simp, by simp, hevents⟩

/-- Every row that a run yields is inside its block. -/
theorem rowInside_of_mem_run {specs : List (BlockSpec κ)}
    (hspecs : ∀ b ∈ specs, b.rows = rows b.key ∧ ∀ n ∈ b.rows, 0 ≤ n) {rest : List String}
    {e : BlockEvent κ} (he : e ∈ ({ specs, rest, line } : BlockReader κ).run.events.toList) :
    RowInside rows e := by
  have hrun : Counting rows ({ specs, rest, line } : BlockReader κ).run :=
    run_keeps (fun _ _ ht => ht.counting)
      ⟨hspecs, by simp, by simp, by simp, by simp⟩
  exact hrun.events e he

end BlockReader

/-! ## Checked writes -/

/-- Writes one cell of a table, if it has that cell. -/
def writeCell? (table : List (List String)) (r c : Nat) (s : String) :
    Option (List (List String)) :=
  if (cell table r c).isSome then some (table.modify r fun row => row.set c s) else none

/-- Writes texts into a row of a table, one cell after the other, the first in column `c`. -/
def writeCells? (r : Nat) (table : List (List String)) :
    (c : Nat) → List String → Option (List (List String))
  | _, [] => some table
  | c, s :: ss => (writeCell? table r c s).bind fun t => writeCells? r t (c + 1) ss

/-- Colours a cell that a script names, unless the table has no such cell. -/
def paint? (h w : Nat) (color : String) (table : List (List String)) (p : Int × Int) :
    Option (List (List String)) :=
  if 0 ≤ p.1 && p.1 < h && 0 ≤ p.2 && p.2 < w then
    writeCell? table p.1.toNat p.2.toNat color
  else some table

/-- Replaces a row of flags, if there is that row. -/
def writeFlags? (flags : List String) (i : Nat) (s : String) : Option (List String) :=
  if i < flags.length then some (flags.set i s) else none

/-- Writes row `i` of a block into a grid of `h` rows and `w` columns. -/
def gridRow? (h w : Nat) (g : Grid Binary64) (b : GridBlock) (i : Nat) (text : String)
    (line : Int) : Option (Grid Binary64 × List Report) :=
  match b with
  | .colors =>
    (writeCells? i g.colors 0 ((words text).take w)).map fun t => ({ g with colors := t }, [])
  | .colorPositions =>
    match countedRow? (words text) with
    | some (color, n, rest) =>
      ((readPositions n.toNat rest).foldlM (paint? h w color) g.colors).map fun t =>
        ({ g with colors := t }, [])
    | none => some (g, [⟨line, .colorPositionsEntry (trim text)⟩])
  | .texts =>
    (writeCells? i g.texts 0 (cellTexts text w)).map fun t => ({ g with texts := t }, [])
  | .polylines => some (gridRow w g .polylines i text line)
  | .wallVertical =>
    let (flags, reports) := readFlags .wallVertical text (w + 1) line
    (writeFlags? g.wallVertical i flags).map fun rows => ({ g with wallVertical := rows }, reports)
  | .wallHorizontal =>
    let (flags, reports) := readFlags .wallHorizontal text w line
    (writeFlags? g.wallHorizontal i flags).map fun rows =>
      ({ g with wallHorizontal := rows }, reports)

/-- Replays events by rows that may fail. -/
def replay? (row : β → κ → Nat → String → Int → Option (β × List Report)) (x : β) :
    List (BlockEvent κ) → Option (β × List Report)
  | [] => some (x, [])
  | .row key i text line :: evs =>
    (row x key i text line).bind fun y =>
      (replay? row y.1 evs).map fun z => (z.1, y.2 ++ z.2)
  | .problem p :: evs => (replay? row x evs).map fun y => (y.1, p :: y.2)

/-- Reads a grid with all writes checked; none if one of them fails. -/
def readGrid? (maxCells : Int) (call : Call) (rest : List String) (line : Int) : Option Outcome :=
  match readGridHeader maxCells call.text with
  | .error fault => some (call.refuse fault)
  | .ok h =>
    let reader := ({ specs := h.specs, rest, line } : BlockReader GridBlock).run
    (replay? (gridRow? h.height h.width) h.blank reader.events.toList).map
      fun (grid, reports) =>
        { taken := reader.taken.toList, reports, action := .draw (.grid grid) }

/-! ## No write fails -/

theorem writeCell?_eq (ht : TableFormed h w table) (hi : i < h) (hc : c < w) (s : String) :
    writeCell? table i c s = some (table.modify i fun row => row.set c s) := by
  obtain ⟨old, hold⟩ := cell_isSome ht hi hc
  rw [writeCell?, hold]
  rfl

theorem tableFormed_set (ht : TableFormed h w table) (i c : Nat) (s : String) :
    TableFormed h w (table.modify i fun row => row.set c s) :=
  tableFormed_modify ht (fun _ => List.length_set) i

/-- Texts that fit into a row are written over its cells. -/
theorem writeCells?_eq (ht : TableFormed h w table) (hi : i < h) (hfit : c + ss.length ≤ w) :
    writeCells? i table c ss =
      some (table.modify i fun row => row.take c ++ ss ++ row.drop (c + ss.length)) := by
  induction ss generalizing table c with
  | nil =>
    have hfixed : ∀ row ∈ table, row.take c ++ [] ++ row.drop (c + 0) = row := by simp
    exact congrArg some (modify_eq_of_fixed hfixed i).symm
  | cons s ss ih =>
    rw [List.length_cons] at hfit
    have hc : c < w := by omega
    have hcell : ∀ row ∈ table, (row.set c s).take (c + 1) ++ ss ++
        (row.set c s).drop (c + 1 + ss.length) =
          row.take c ++ s :: ss ++ row.drop (c + (ss.length + 1)) := by
      intro row hrow
      have hlength := ht.row_length row hrow
      have htake : (row.set c s).take (c + 1) = row.take c ++ [s] := by
        rw [List.take_succ_eq_append_getElem (by simp; omega), List.take_set_of_le (le_refl c)]
        simp
      have hdrop : (row.set c s).drop (c + 1 + ss.length) = row.drop (c + (ss.length + 1)) := by
        rw [List.drop_set_of_lt (by omega)]
        congr 1
        omega
      rw [htake, hdrop]
      simp
    rw [writeCells?, writeCell?_eq ht hi hc, Option.bind_some,
      ih (tableFormed_set ht i c s) (by omega), List.modify_modify_eq]
    exact congrArg some (modify_congr hcell i)

/-- A row of texts is written cell by cell as far as the table is wide. -/
theorem writeCells?_row (ht : TableFormed h w table) (hi : i < h) (ss : List String) :
    writeCells? i table 0 (ss.take w) = some (table.modify i (overlay ss)) := by
  rw [writeCells?_eq ht hi (by simp)]
  refine congrArg some (modify_congr (fun row hrow => ?_) i)
  have hlength := ht.row_length row hrow
  rw [overlay, hlength, List.take_zero, List.nil_append, Nat.zero_add, List.length_take]
  rcases Nat.le_total w ss.length with hle | hle
  · rw [Nat.min_eq_left hle, List.drop_of_length_le hlength.le,
      List.drop_of_length_le (hlength.le.trans hle)]
  · rw [Nat.min_eq_right hle]

theorem paint_outside (ht : TableFormed h w table) (color : String) {p : Int × Int}
    (hp : ¬ (0 ≤ p.1 ∧ p.1 < h ∧ 0 ≤ p.2 ∧ p.2 < w)) : paint color table p = table := by
  unfold paint
  split
  next hnat =>
    simp only [Bool.and_eq_true, decide_eq_true_eq] at hnat
    by_cases hrow : p.1 < h
    · refine modify_eq_of_fixed (fun row hmem => ?_) _
      have hlength := ht.row_length row hmem
      exact List.set_eq_of_length_le (by omega)
    · have hlength := ht.length_eq
      exact List.modify_eq_self (by omega)
  next => rfl

theorem paint?_eq (ht : TableFormed h w table) (color : String) (p : Int × Int) :
    paint? h w color table p = some (paint color table p) := by
  unfold paint?
  split
  next hin =>
    simp only [Bool.and_eq_true, decide_eq_true_eq] at hin
    rw [writeCell?_eq ht (by omega) (by omega), paint, if_pos (by simp; omega)]
  next hout =>
    simp only [Bool.and_eq_true, decide_eq_true_eq, and_assoc] at hout
    rw [paint_outside ht color hout]

theorem foldlM_paint? (ht : TableFormed h w table) (color : String) (ps : List (Int × Int)) :
    ps.foldlM (paint? h w color) table = some (ps.foldl (paint color) table) := by
  induction ps generalizing table with
  | nil => rfl
  | cons p ps ih =>
    rw [List.foldlM_cons, paint?_eq ht]
    exact ih (tableFormed_paint ht color p)

/-- A grid whose tables have room for `h` rows and `w` columns. -/
structure Allocated (h w : Nat) (g : Grid Binary64) : Prop where
  colors : TableFormed h w g.colors
  texts : TableFormed h w g.texts
  wallVertical : g.wallVertical.length = h
  wallHorizontal : g.wallHorizontal.length = h + 1

theorem allocated_blank (h : GridHeader) : Allocated h.height h.width h.blank where
  colors := tableFormed_replicate h.height h.width _
  texts := tableFormed_replicate h.height h.width _
  wallVertical := List.length_replicate
  wallHorizontal := List.length_replicate

theorem allocated_row (hg : Allocated h w g) (b : GridBlock) (i : Nat) (text : String)
    (line : Int) : Allocated h w (gridRow w g b i text line).1 := by
  have heffect := gridEffect_gridRow w g b i text line
  generalize gridRow w g b i text line = r at heffect ⊢
  cases heffect with
  | colors => exact { hg with colors := tableFormed_modify hg.colors (length_overlay _) i }
  | places => exact { hg with colors := tableFormed_foldl_paint hg.colors _ _ }
  | texts => exact { hg with texts := tableFormed_modify hg.texts (length_overlay _) i }
  | polyline => exact { hg with }
  | wallVertical => exact { hg with wallVertical := List.length_set.trans hg.wallVertical }
  | wallHorizontal => exact { hg with wallHorizontal := List.length_set.trans hg.wallHorizontal }
  | noPlaces | noPoint | noPolyline => exact hg

/-- A row whose index is inside its block is written without a failure. -/
theorem gridRow?_eq {header : GridHeader} (hg : Allocated header.height header.width g)
    {b : GridBlock} {i : Nat} (hi : ∀ n ∈ header.rows b, (i : Int) < n) (text : String)
    (line : Int) : gridRow? header.height header.width g b i text line =
      some (gridRow header.width g b i text line) := by
  unfold gridRow? gridRow
  cases b with
  | colors =>
    have hrow : i < header.height := by simpa [GridHeader.rows] using hi
    dsimp only
    rw [writeCells?_row hg.colors hrow]
    rfl
  | colorPositions =>
    dsimp only
    cases countedRow? (words text) with
    | none => rfl
    | some row =>
      dsimp only
      rw [foldlM_paint? hg.colors]
      rfl
  | texts =>
    have hrow : i < header.height := by simpa [GridHeader.rows] using hi
    have htake : (cellTexts text header.width).take header.width = cellTexts text header.width := by
      rw [cellTexts, List.take_take, Nat.min_self]
    have hwrite := writeCells?_row hg.texts hrow (cellTexts text header.width)
    rw [htake] at hwrite
    dsimp only
    rw [hwrite]
    rfl
  | polylines => rfl
  | wallVertical =>
    have hrow : i < header.height := by simpa [GridHeader.rows] using hi
    dsimp only
    rw [writeFlags?, if_pos (hg.wallVertical ▸ hrow)]
    rfl
  | wallHorizontal =>
    have hrow : i < header.height + 1 := by
      have hlt : (i : Int) < header.height + 1 := hi _ rfl
      omega
    dsimp only
    rw [writeFlags?, if_pos (hg.wallHorizontal ▸ hrow)]
    rfl

/-- A replay by rows that do not fail where something holds that they keep. -/
theorem replay?_eq {row? : β → κ → Nat → String → Int → Option (β × List Report)}
    {row : β → κ → Nat → String → Int → β × List Report} {P : β → Prop} {x : β}
    {evs : List (BlockEvent κ)}
    (hrow : ∀ y key i text line, .row key i text line ∈ evs → P y →
      row? y key i text line = some (row y key i text line) ∧ P (row y key i text line).1)
    (hx : P x) : replay? row? x evs = some (replay row x evs) := by
  induction evs generalizing x with
  | nil => rfl
  | cons e evs ih =>
    have hlater := fun y key i text line he =>
      hrow y key i text line (List.mem_cons_of_mem e he)
    cases e with
    | row key i text line =>
      obtain ⟨hfirst, hkept⟩ := hrow x key i text line List.mem_cons_self hx
      rw [replay?, hfirst, replay_row, Option.bind_some, ih hlater hkept]
      rfl
    | problem p =>
      rw [replay?, replay_problem_cons, ih hlater hx]
      rfl

/-- No write of a grid's rows is outside of its tables, whatever lines follow its header. -/
theorem readGrid?_eq (maxCells : Int) (call : Call) (rest : List String) (line : Int) :
    readGrid? maxCells call rest line = some (readGrid maxCells call rest line) := by
  unfold readGrid? readGrid
  cases readGridHeader maxCells call.text with
  | error fault => rfl
  | ok header =>
    have hspecs : ∀ b ∈ header.specs, b.rows = header.rows b.key ∧ ∀ n ∈ b.rows, 0 ≤ n := by
      intro b hb
      obtain ⟨key, -, rfl⟩ := List.mem_map.mp hb
      refine ⟨rfl, fun n hn => ?_⟩
      cases key <;> simp [GridHeader.rows] at hn <;> omega
    have hreplay : replay? (gridRow? header.height header.width) header.blank
        ({ specs := header.specs, rest, line } : BlockReader GridBlock).run.events.toList =
          some (replay (gridRow header.width) header.blank
            ({ specs := header.specs, rest, line } : BlockReader GridBlock).run.events.toList) := by
      refine replay?_eq (fun g b i text n he hg => ?_) (allocated_blank header)
      have hi := BlockReader.rowInside_of_mem_run hspecs he
      exact ⟨gridRow?_eq hg hi text n, allocated_row hg b i text n⟩
    dsimp only
    rw [hreplay]
    rfl

end Flipbook.Script
