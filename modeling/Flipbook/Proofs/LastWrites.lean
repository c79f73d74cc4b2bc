import Mathlib
import Flipbook.Proofs.FoundBlocks
import Flipbook.Proofs.GridBlocks
import Flipbook.Proofs.Lists
import Flipbook.Proofs.Refusals
import Flipbook.Proofs.Writes

/-!
Grids as their rows leave them. Whatever blocks follow a header, in any order and as often as they
occur, a place of a grid holds what was written there last, or what the header gives it; polylines
are added in order; and a wall row is reported exactly if it is short.
-/
namespace Flipbook.Script

open Text

/-! ## Last writes -/

section

variable {π : Type} [DecidableEq π] {p : π}

/-- What was written last in a place, if anything was. -/
def lastWrite? (ws : List (π × String)) (p : π) : Option String :=
  (ws.filter fun x => x.1 = p).getLast?.map Prod.snd

theorem lastWrite?_nil (p : π) : lastWrite? [] p = none := rfl

theorem lastWrite?_append (ws vs : List (π × String)) (p : π) :
    lastWrite? (ws ++ vs) p = (lastWrite? vs p).or (lastWrite? ws p) := by
  unfold lastWrite?
  rw [List.filter_append, List.getLast?_append, Option.map_or]

theorem lastWrite?_cons (x : π × String) (ws : List (π × String)) (p : π) :
    lastWrite? (x :: ws) p = (lastWrite? ws p).or (if x.1 = p then some x.2 else none) := by
  rw [← List.singleton_append, lastWrite?_append]
  unfold lastWrite?
  by_cases h : x.1 = p <;> simp [h]

/-- One text in several places. -/
theorem lastWrite?_map (ps : List π) (s : String) (p : π) :
    lastWrite? (ps.map (·, s)) p = if p ∈ ps then some s else none := by
  induction ps with
  | nil => rfl
  | cons q ps ih =>
    rw [List.map_cons, lastWrite?_cons, ih]
    by_cases hps : p ∈ ps
    · simp [hps]
    · by_cases hq : q = p
      · simp [hps, hq]
      · simp [hps, hq, Ne.symm hq]

/-- A place of a value that is changed row by row holds what is written there last, if every row
writes what it is said to write and the value keeps what the rows need for it. -/
theorem replay_lastWrite {β κ : Type} {row : β → κ → Nat → String → Int → β × List Report}
    (view : β → Option String) {writes : BlockEvent κ → List (π × String)} {P : β → Prop}
    (hproblem : ∀ r, writes (.problem r) = [])
    (hkeep : ∀ y key i text line, P y → P (row y key i text line).1)
    (hrow : ∀ y key i text line, P y → view (row y key i text line).1 =
      (lastWrite? (writes (.row key i text line)) p).or (view y))
    (evs : List (BlockEvent κ)) {x : β} (hx : P x) :
    view (replay row x evs).1 = (lastWrite? (evs.flatMap writes) p).or (view x) := by
  induction evs generalizing x with
  | nil => rfl
  | cons e evs ih =>
    rw [List.flatMap_cons, lastWrite?_append, Option.or_assoc]
    cases e with
    | row key i text line =>
      rw [replay_row, ih (hkeep x key i text line hx), hrow x key i text line hx]
    | problem r =>
      rw [replay_problem, ih hx, hproblem, lastWrite?_nil, Option.none_or]

end

/-! ## What rows write -/

/-- Texts side by side, from the first column of row `i` on. -/
def rowWrites (i : Nat) (ss : List String) : List ((Nat × Nat) × String) :=
  ss.zipIdx.map fun p => ((i, p.2), p.1)

/-- The place in a table of `h` rows and `w` columns that two words name. -/
def placeIn? (h w : Nat) (p : String × String) : Option (Nat × Nat) :=
  match Numeral.readInt? p.1, Numeral.readInt? p.2 with
  | some r, some c => if 0 ≤ r ∧ r < h ∧ 0 ≤ c ∧ c < w then some (r.toNat, c.toNat) else none
  | _, _ => none

/-- The pairs of words behind a count, as many as it says; a word that is no count says none. -/
def countedPairs (count : String) (more : List String) : List (String × String) :=
  (wordPairs more).take ((Numeral.readInt? count).getD 0).toNat

/-- The cells that a row colours in a grid of `h` rows and `w` columns. -/
def colorWrites (h w : Nat) : BlockEvent GridBlock → List ((Nat × Nat) × String)
  | .row .colors i text _ => rowWrites i ((words text).take w)
  | .row .colorPositions _ text _ =>
    match words text with
    | color :: count :: more => ((countedPairs count more).filterMap (placeIn? h w)).map (·, color)
    | _ => []
  | _ => []

/-- The cells that a row letters in a grid of `w` columns. -/
def textWrites (w : Nat) : BlockEvent GridBlock → List ((Nat × Nat) × String)
  | .row .texts i text _ => rowWrites i (cellTexts text w)
  | _ => []

/-- The row of `n` flags that a row of block `b` writes. -/
def flagWrites (b : GridBlock) (n : Nat) : BlockEvent GridBlock → List (Nat × String)
  | .row key i text _ => if key = b then [(i, String.ofList ((trim text).toList.take n))] else []
  | .problem _ => []

def point? (p : String × String) : Option (Point Binary64) :=
  match Numeral.readFinite? p.1, Numeral.readFinite? p.2 with
  | some x, some y => some ⟨x, y⟩
  | _, _ => none

/-- The polyline that a row adds: there is none without a point. -/
def polyline? : BlockEvent GridBlock → Option (Polyline Binary64)
  | .row .polylines _ text _ =>
    match words text with
    | color :: count :: more =>
      let points := (countedPairs count more).filterMap point?
      if points = [] then none else some ⟨color, points⟩
    | _ => none
  | _ => none

/-- How many flags a row of a block should have, if it is a row of flags. -/
def flagCount? (w : Nat) : GridBlock → Option Nat
  | .wallVertical => some (w + 1)
  | .wallHorizontal => some w
  | _ => none

/-- The report on a row of flags that is too short. -/
def shortRow? (w : Nat) : BlockEvent GridBlock → Option Report
  | .row b _ text line => (flagCount? w b).bind fun n =>
    let found := (trim text).length
    if found < n then some ⟨line, .wallFlags b.name found n⟩ else none
  | .problem _ => none

/-- Whether a report is on a row of flags. -/
def isShortRow : Report → Bool
  | ⟨_, .wallFlags ..⟩ => true
  | _ => false

/-- A table of `h` rows and `w` columns by its entries. -/
def tabulate (h w : Nat) (entry : Nat × Nat → String) : List (List String) :=
  (List.range h).map fun r => (List.range w).map fun c => entry (r, c)

/-- The grid that a header and the rows behind it describe. -/
def lastWritten (h : GridHeader) (evs : List (BlockEvent GridBlock)) : Grid Binary64 :=
  let color := lastWrite? (evs.flatMap (colorWrites h.height h.width))
  let text := lastWrite? (evs.flatMap (textWrites h.width))
  let vertical := lastWrite? (evs.flatMap (flagWrites .wallVertical (h.width + 1)))
  let horizontal := lastWrite? (evs.flatMap (flagWrites .wallHorizontal h.width))
  { height := h.height
    width := h.width
    borderColor := h.borderColor
    textColor := h.textColor
    defaultColor := h.defaultColor
    colors := tabulate h.height h.width fun p => (color p).getD h.defaultColor
    texts := tabulate h.height h.width fun p => (text p).getD ""
    polylines := evs.filterMap polyline?
    wallVertical := (List.range h.height).map fun i => (vertical i).getD (allWalls (h.width + 1))
    wallHorizontal := (List.range (h.height + 1)).map fun i =>
      (horizontal i).getD (allWalls h.width)
    bounds := h.bounds }

variable {h w r c : Nat} {g : Grid Binary64} {table : List (List String)} {more : List String}
  {line : Int}

/-! ## Tables -/

theorem lastWrite?_rowWrites (i : Nat) (ss : List String) (r c : Nat) :
    lastWrite? (rowWrites i ss) (r, c) = if r = i then ss[c]? else none := by
  have hfrom (n : Nat) : lastWrite? ((ss.zipIdx n).map fun p => ((i, p.2), p.1)) (r, c) =
      if r = i ∧ n ≤ c then ss[c - n]? else none := by
    induction ss generalizing n with
    | nil => simp [lastWrite?_nil]
    | cons s ss ih =>
      rw [List.zipIdx_cons, List.map_cons, lastWrite?_cons, ih]
      by_cases hr : r = i
      · subst hr
        rcases Nat.lt_trichotomy c n with hlt | rfl | hgt
        · simp [hlt.ne', Nat.not_le.mpr hlt, Nat.not_le.mpr (Nat.lt_succ_of_lt hlt)]
        · simp
        · obtain ⟨k, rfl⟩ := Nat.exists_eq_add_of_lt hgt
          have hsub : n + k + 1 - n = k + 1 := by omega
          have hsub' : n + k + 1 - (n + 1) = k := by omega
          have hlater : n + 1 ≤ n + k + 1 := by omega
          simp [hsub, hsub', hlater, hgt.le, hgt.ne]
      · simp [hr, Ne.symm hr]
  have hzero := hfrom 0
  simpa [rowWrites] using hzero

theorem getElem?_overlay {new old : List String} (hc : c < old.length) :
    (overlay new old)[c]? = new[c]?.or old[c]? := by
  unfold overlay
  rcases Nat.lt_or_ge c new.length with hlt | hge
  · rw [List.getElem?_append_left (by rw [List.length_take]; omega), List.getElem?_take_of_lt hc,
      List.getElem?_eq_getElem hlt, Option.some_or]
  · rw [List.take_of_length_le (by omega), List.getElem?_append_right hge, List.getElem?_drop,
      Nat.add_sub_cancel' hge, List.getElem?_eq_none hge, Option.none_or]

/-- A row that is overwritten from its first column on. -/
theorem cell_overlay (ht : TableFormed h w table) (hr : r < h) (hc : c < w) (i : Nat)
    (ss : List String) : cell (table.modify i (overlay ss)) r c =
      (lastWrite? (rowWrites i (ss.take w)) (r, c)).or (cell table r c) := by
  have hlt : r < table.length := by rwa [ht.length_eq]
  have hrow := ht.row_length _ (List.getElem_mem hlt)
  unfold cell
  rw [lastWrite?_rowWrites, List.getElem?_take_of_lt hc, List.getElem?_modify,
    List.getElem?_eq_getElem hlt]
  by_cases hi : i = r
  · subst hi
    have hover : (overlay ss table[i])[c]? = ss[c]?.or table[i][c]? :=
      getElem?_overlay (hrow ▸ hc)
    simp [hover]
  · simp [hi, Ne.symm hi]

theorem tableFormed_tabulate (h w : Nat) (entry : Nat × Nat → String) :
    TableFormed h w (tabulate h w entry) where
  length_eq := by simp [tabulate]
  row_length := by
    intro row hrow
    obtain ⟨r, -, rfl⟩ := List.mem_map.mp hrow
    simp

theorem eq_tabulate {entry : Nat × Nat → String} (ht : TableFormed h w table)
    (hcell : ∀ r c, r < h → c < w → cell table r c = some (entry (r, c))) :
    table = tabulate h w entry := by
  refine table_ext ht (tableFormed_tabulate h w entry) fun r c => ?_
  by_cases hrc : r < h ∧ c < w
  · rw [hcell r c hrc.1 hrc.2]
    simp [cell, tabulate, hrc]
  · rw [cell_eq_none ht hrc, cell_eq_none (tableFormed_tabulate h w entry) hrc]

/-! ## Cells that are named -/

theorem placeIn?_eq_some_iff {p : String × String} : placeIn? h w p = some (r, c) ↔
    (r < h ∧ c < w) ∧
      Numeral.readInt? p.1 = some (r : Int) ∧ Numeral.readInt? p.2 = some (c : Int) := by
  unfold placeIn?
  cases hr : Numeral.readInt? p.1 with
  | none => simp
  | some x =>
    cases hc : Numeral.readInt? p.2 with
    | none => simp
    | some y =>
      dsimp only
      split
      next hin =>
        simp only [Option.some.injEq, Prod.mk.injEq]
        omega
      next hout =>
        simp only [Option.some.injEq, reduceCtorEq, false_iff]
        omega

theorem mem_readPositions {n : Nat} {x y : Int} : (x, y) ∈ readPositions n more ↔
    ∃ p ∈ (wordPairs more).take n,
      Numeral.readInt? p.1 = some x ∧ Numeral.readInt? p.2 = some y := by
  induction n generalizing more with
  | zero => simp [readPositions]
  | succ n ih =>
    rcases more with _ | ⟨a, _ | ⟨b, more⟩⟩
    · simp [readPositions, wordPairs]
    · simp [readPositions, wordPairs]
    · rw [wordPairs, List.take_succ_cons, List.exists_mem_cons_iff, ← ih, readPositions]
      cases Numeral.readInt? a with
      | none => simp
      | some r =>
        cases Numeral.readInt? b with
        | none => simp
        | some c => simp [eq_comm]

theorem cell_paint_place (ht : TableFormed h w table) (hr : r < h) (hc : c < w) (color : String)
    (p : Int × Int) : cell (paint color table p) r c =
      if p = ((r : Int), (c : Int)) then some color else cell table r c := by
  obtain ⟨s, hs⟩ := cell_isSome ht hr hc
  obtain ⟨x, y⟩ := p
  by_cases hnat : 0 ≤ x ∧ 0 ≤ y
  · obtain ⟨i, rfl⟩ := Int.eq_ofNat_of_zero_le hnat.1
    obtain ⟨j, rfl⟩ := Int.eq_ofNat_of_zero_le hnat.2
    rw [cell_paint color table (i, j), hs]
    simp [eq_comm]
  · have hne : ¬ (x, y) = ((r : Int), (c : Int)) := by
      rw [Prod.mk.injEq]
      omega
    have hsame : paint color table (x, y) = table := if_neg (by simpa using hnat)
    rw [if_neg hne, hsame]

theorem cell_foldl_paint_places (ht : TableFormed h w table) (hr : r < h) (hc : c < w)
    (color : String) (ps : List (Int × Int)) : cell (ps.foldl (paint color) table) r c =
      if ((r : Int), (c : Int)) ∈ ps then some color else cell table r c := by
  induction ps generalizing table with
  | nil => simp
  | cons p ps ih =>
    rw [List.foldl_cons, ih (tableFormed_paint ht color p), cell_paint_place ht hr hc]
    by_cases hps : ((r : Int), (c : Int)) ∈ ps
    · simp [hps]
    · simp [hps, eq_comm]

/-- A row of pairs colours the cells that it names. -/
theorem cell_counted (ht : TableFormed h w table) (hr : r < h) (hc : c < w) (color count : String)
    (more : List String) {n : Int} (hn : Numeral.readInt? count = some n) :
    cell ((readPositions n.toNat more).foldl (paint color) table) r c =
      (lastWrite? (((countedPairs count more).filterMap (placeIn? h w)).map (·, color)) (r, c)).or
        (cell table r c) := by
  have hmem : ((r : Int), (c : Int)) ∈ readPositions n.toNat more ↔
      (r, c) ∈ (countedPairs count more).filterMap (placeIn? h w) := by
    simp only [mem_readPositions, List.mem_filterMap, placeIn?_eq_some_iff, countedPairs, hn,
      Option.getD_some, hr, hc, true_and]
  rw [cell_foldl_paint_places ht hr hc, lastWrite?_map]
  by_cases hin : ((r : Int), (c : Int)) ∈ readPositions n.toNat more
  · rw [if_pos hin, if_pos (hmem.mp hin), Option.some_or]
  · rw [if_neg hin, if_neg (mt hmem.mpr hin), Option.none_or]

/-! ## Rows -/

/-- A row without a count names no pairs. -/
theorem countedPairs_of_not_counted {row : List String} (h : countedRow? row = none)
    {color count : String} (hrow : row = color :: count :: more) : countedPairs count more = [] := by
  subst hrow
  have hnone : Numeral.readInt? count = none := Option.map_eq_none_iff.mp h
  rw [countedPairs, hnone]
  exact List.take_zero

theorem colors_row (hg : TableFormed h w g.colors) (hr : r < h) (hc : c < w) (b : GridBlock)
    (i : Nat) (text : String) (line : Int) : cell (gridRow w g b i text line).1.colors r c =
      (lastWrite? (colorWrites h w (.row b i text line)) (r, c)).or (cell g.colors r c) := by
  have heffect := gridEffect_gridRow w g b i text line
  generalize gridRow w g b i text line = x at heffect ⊢
  cases heffect with
  | colors => exact cell_overlay hg hr hc i (words text)
  | places color n more hrow =>
    obtain ⟨count, hwords, hn⟩ := countedRow?_some hrow
    rw [colorWrites, hwords]
    exact cell_counted hg hr hc color count more hn
  | noPlaces hrow =>
    have hnone : colorWrites h w (.row .colorPositions i text line) = [] := by
      unfold colorWrites
      dsimp only
      split
      next color count more hwords =>
        rw [countedPairs_of_not_counted hrow hwords]
        rfl
      next => rfl
    rw [hnone]
    rfl
  | texts | polyline | noPoint | noPolyline | wallVertical | wallHorizontal => rfl

theorem texts_row (hg : TableFormed h w g.texts) (hr : r < h) (hc : c < w) (b : GridBlock)
    (i : Nat) (text : String) (line : Int) : cell (gridRow w g b i text line).1.texts r c =
      (lastWrite? (textWrites w (.row b i text line)) (r, c)).or (cell g.texts r c) := by
  cases b with
  | texts =>
    have htake : (cellTexts text w).take w = cellTexts text w :=
      List.take_of_length_le (List.length_take_le _ _)
    have hover := cell_overlay hg hr hc i (cellTexts text w)
    rwa [htake] at hover
  | colors | colorPositions | polylines | wallVertical | wallHorizontal =>
    rw [(gridKeeps_gridRow w g _ i text line).texts (by simp)]
    rfl

/-- A row of flags that is replaced. -/
theorem getElem?_set_flags {flags : List String} {k : Nat} (hk : k < flags.length) (b : GridBlock)
    (n i : Nat) (text : String) (line : Int) :
    (flags.set i (readFlags b text n line).1)[k]? =
      (lastWrite? (flagWrites b n (.row b i text line)) k).or flags[k]? := by
  have hwrites : flagWrites b n (.row b i text line) =
      [i].map (·, (readFlags b text n line).1) := by
    simp [flagWrites, readFlags, trim]
  rw [hwrites, lastWrite?_map]
  by_cases hi : i = k
  · simp [hi, hk]
  · simp [hi, Ne.symm hi]

theorem lastWrite?_flagWrites_of_ne {b key : GridBlock} (hkey : key ≠ b) (n i k : Nat)
    (text : String) (line : Int) : lastWrite? (flagWrites b n (.row key i text line)) k = none := by
  rw [flagWrites, if_neg hkey, lastWrite?_nil]

theorem wallVertical_row {k : Nat} (hk : k < g.wallVertical.length) (b : GridBlock) (i : Nat)
    (text : String) (line : Int) : (gridRow w g b i text line).1.wallVertical[k]? =
      (lastWrite? (flagWrites .wallVertical (w + 1) (.row b i text line)) k).or
        g.wallVertical[k]? := by
  by_cases hb : b = .wallVertical
  · subst hb
    exact getElem?_set_flags hk .wallVertical (w + 1) i text line
  · rw [(gridKeeps_gridRow w g b i text line).wallVertical hb, lastWrite?_flagWrites_of_ne hb,
      Option.none_or]

theorem wallHorizontal_row {k : Nat} (hk : k < g.wallHorizontal.length) (b : GridBlock) (i : Nat)
    (text : String) (line : Int) : (gridRow w g b i text line).1.wallHorizontal[k]? =
      (lastWrite? (flagWrites .wallHorizontal w (.row b i text line)) k).or
        g.wallHorizontal[k]? := by
  by_cases hb : b = .wallHorizontal
  · subst hb
    exact getElem?_set_flags hk .wallHorizontal w i text line
  · rw [(gridKeeps_gridRow w g b i text line).wallHorizontal hb, lastWrite?_flagWrites_of_ne hb,
      Option.none_or]

/-- Runs of two numbers are pairs of words that are numbers. -/
theorem filterMap_readRuns {make : List Binary64 → Option (Point Binary64)}
    (hmake : ∀ x y, make [x, y] = some ⟨x, y⟩) (row : List String) (k start : Nat) :
    (readRuns row (2 : Nat) k start).filterMap make =
      ((wordPairs (row.drop start)).take k).filterMap point? := by
  induction k generalizing start with
  | zero => simp [readRuns]
  | succ k ih =>
    have hnext : row.drop (start + 2) = (row.drop start).drop 2 := (List.drop_drop ..).symm
    have hlater := ih (start + 2)
    rw [hnext, Int.natCast_add] at hlater
    rw [readRuns]
    dsimp only
    rw [slice_natCast]
    generalize row.drop start = rest at hlater ⊢
    rcases rest with _ | ⟨a, _ | ⟨b, more⟩⟩
    · simp [wordPairs]
    · simp [wordPairs]
    · have hrun : (a :: b :: more).take 2 = [a, b] := rfl
      have hpairs : (wordPairs (a :: b :: more)).take (k + 1) =
          (a, b) :: (wordPairs more).take k := rfl
      rw [hrun, hpairs]
      cases ha : Numeral.readFinite? a with
      | none => simpa [ha, point?] using hlater
      | some x =>
        cases hb : Numeral.readFinite? b with
        | none => simpa [ha, hb, point?] using hlater
        | some y => simpa [ha, hb, point?, hmake] using hlater

/-- A counted row adds its points, if there are any. -/
theorem polyline?_of_counted {text color : String} {n : Int}
    (hrow : countedRow? (words text) = some (color, n, more)) (i : Nat) (line : Int) :
    polyline? (.row .polylines i text line) =
      if (numericGroups more 0 n 2).filterMap Point.ofNumbers? = [] then none
      else some ⟨color, (numericGroups more 0 n 2).filterMap Point.ofNumbers?⟩ := by
  obtain ⟨count, hwords, hn⟩ := countedRow?_some hrow
  have hruns : numericGroups more 0 n 2 = readRuns more (2 : Nat) n.toNat (0 : Nat) := rfl
  have hpoints : (countedPairs count more).filterMap point? =
      ((wordPairs more).take n.toNat).filterMap point? := by rw [countedPairs, hn, Option.getD_some]
  rw [hruns, filterMap_readRuns (fun _ _ => rfl), List.drop_zero, ← hpoints, polyline?, hwords]
  rfl

theorem polylines_row (b : GridBlock) (i : Nat) (text : String) (line : Int) :
    (gridRow w g b i text line).1.polylines =
      g.polylines ++ (polyline? (.row b i text line)).toList := by
  have heffect := gridEffect_gridRow w g b i text line
  generalize gridRow w g b i text line = x at heffect ⊢
  cases heffect with
  | polyline color n more points hrow hpoints hne =>
    rw [polyline?_of_counted hrow, hpoints, if_neg hne]
    rfl
  | noPoint color n more hrow hpoints =>
    rw [polyline?_of_counted hrow, if_pos hpoints]
    exact (List.append_nil _).symm
  | noPolyline hrow =>
    have hnone : polyline? (.row .polylines i text line) = none := by
      unfold polyline?
      dsimp only
      split
      next color count more hwords =>
        rw [countedPairs_of_not_counted hrow hwords]
        rfl
      next => rfl
    rw [hnone]
    exact (List.append_nil _).symm
  | colors | places | noPlaces | texts | wallVertical | wallHorizontal =>
    exact (List.append_nil _).symm

/-- A row of flags is reported if it is short. -/
theorem shortRow_readFlags {b : GridBlock} {n : Nat} (hb : flagCount? w b = some n) (i : Nat)
    (text : String) (line : Int) : (readFlags b text n line).2.filter isShortRow =
      (shortRow? w (.row b i text line)).toList := by
  rw [shortRow?, hb]
  simp only [readFlags, Option.bind_some, trim, String.length_ofList]
  split <;> rfl

theorem reports_row (w : Nat) (g : Grid Binary64) (b : GridBlock) (i : Nat) (text : String)
    (line : Int) : (gridRow w g b i text line).2.filter isShortRow =
      (shortRow? w (.row b i text line)).toList := by
  have heffect := gridEffect_gridRow w g b i text line
  generalize gridRow w g b i text line = x at heffect ⊢
  cases heffect with
  | wallVertical flags reports hflags =>
    rw [← shortRow_readFlags (b := .wallVertical) rfl, hflags]
  | wallHorizontal flags reports hflags =>
    rw [← shortRow_readFlags (b := .wallHorizontal) rfl, hflags]
  | colors | places | noPlaces | texts | polyline | noPoint | noPolyline => rfl

/-! ## All rows -/

theorem polylines_replay (g : Grid Binary64) (w : Nat) (evs : List (BlockEvent GridBlock)) :
    (replay (gridRow w) g evs).1.polylines = g.polylines ++ evs.filterMap polyline? := by
  induction evs generalizing g with
  | nil => exact (List.append_nil _).symm
  | cons e evs ih =>
    cases e with
    | row b i text line =>
      rw [replay_row, ih, polylines_row, List.append_assoc, List.filterMap_cons]
      cases polyline? (.row b i text line) <;> rfl
    | problem p =>
      rw [replay_problem, ih]
      rfl

/-- The rows of a grid are reported where they are short, if nothing else that is read is reported
in the same way. -/
theorem shortRows_replay (g : Grid Binary64) (w : Nat) {evs : List (BlockEvent GridBlock)}
    (hevs : ∀ p, .problem p ∈ evs → isShortRow p = false) :
    (replay (gridRow w) g evs).2.filter isShortRow = evs.filterMap (shortRow? w) := by
  induction evs generalizing g with
  | nil => rfl
  | cons e evs ih =>
    have hlater := fun p hp => hevs p (List.mem_cons_of_mem e hp)
    cases e with
    | row b i text line =>
      rw [replay_row, List.filter_append, reports_row, ih _ hlater, List.filterMap_cons]
      cases shortRow? w (.row b i text line) <;> rfl
    | problem p =>
      have hp := hevs p List.mem_cons_self
      rw [replay_problem_cons, List.filter_cons_of_neg (by simp [hp]), ih _ hlater]
      rfl

section

variable {κ : Type} {b : FoundBlock κ} {found : List (FoundBlock κ)} {p : Report}

theorem isShortRow_of_mem_report? (hp : p ∈ b.report? line) : isShortRow p = false := by
  unfold FoundBlock.report? at hp
  split at hp
  next =>
    obtain ⟨-, hp⟩ := Option.ite_none_right_eq_some.mp hp
    obtain rfl := Option.some.inj hp
    rfl
  next =>
    obtain rfl := Option.mem_some_iff.mp hp
    rfl
  next =>
    obtain rfl := Option.mem_some_iff.mp hp
    rfl

theorem problem_notMem_rowEvents (key : κ) (k : Nat) (n : Int) (rows : List String) :
    .problem p ∉ rowEvents key k n rows := by
  induction rows generalizing k n with
  | nil => simp [rowEvents]
  | cons row rows ih => simp [rowEvents, ih]

/-- A reader reports blocks that are cut short, and never the rows themselves. -/
theorem isShortRow_of_mem_foundEvents (hp : .problem p ∈ foundEvents line found) :
    isShortRow p = false := by
  induction found generalizing line with
  | nil => cases hp
  | cons b found ih =>
    rcases List.mem_append.mp hp with hp | hp
    · rcases List.mem_append.mp hp with hp | hp
      · exact absurd hp (problem_notMem_rowEvents _ _ _ _)
      · obtain ⟨q, hq, heq⟩ := List.mem_map.mp hp
        obtain rfl := BlockEvent.problem.inj heq
        exact isShortRow_of_mem_report? (Option.mem_toList.mp hq)
    · exact ih hp

end

/-- A place of a grid holds what its rows write there last, or what it holds in a blank grid. -/
theorem replay_blank {π : Type} [DecidableEq π] {p : π} {d : String} {header : GridHeader}
    (view : Grid Binary64 → Option String)
    {writes : BlockEvent GridBlock → List (π × String)} (hproblem : ∀ r, writes (.problem r) = [])
    (hrow : ∀ y b i text line, Allocated header.height header.width y →
      view (gridRow header.width y b i text line).1 =
        (lastWrite? (writes (.row b i text line)) p).or (view y))
    (hview : view header.blank = some d) (evs : List (BlockEvent GridBlock)) :
    view (replay (gridRow header.width) header.blank evs).1 =
      some ((lastWrite? (evs.flatMap writes) p).getD d) := by
  rw [replay_lastWrite view hproblem (fun _ b i text line hy => allocated_row hy b i text line)
    hrow evs (allocated_blank header), hview, Option.or_some]

/-- What the rows behind a header make of its blank grid. -/
theorem replay_gridRow (h : GridHeader) (evs : List (BlockEvent GridBlock)) :
    (replay (gridRow h.width) h.blank evs).1 = lastWritten h evs := by
  have hgrid : Allocated h.height h.width (replay (gridRow h.width) h.blank evs).1 :=
    replay_keeps (fun _ b i text line _ hy => allocated_row hy b i text line) (allocated_blank h)
  obtain ⟨hheight, hwidth, hborder, htext, hdefault, hbounds⟩ :
      (Header.grid h).Describes (.grid (replay (gridRow h.width) h.blank evs).1) :=
    replay_keeps (P := fun g => (Header.grid h).Describes (.grid g))
      (fun g b i row n _ hg => describes_gridRow hg h.width b i row n)
      ⟨rfl, rfl, rfl, rfl, rfl, rfl⟩
  have hcolors : (replay (gridRow h.width) h.blank evs).1.colors =
      (lastWritten h evs).colors := by
    dsimp only [lastWritten]
    refine eq_tabulate hgrid.colors fun r c hr hc => ?_
    exact replay_blank (fun g => cell g.colors r c) (fun _ => rfl)
      (fun y b i text line hy => colors_row hy.colors hr hc b i text line)
      (cell_replicate _ hr hc) evs
  have htexts : (replay (gridRow h.width) h.blank evs).1.texts = (lastWritten h evs).texts := by
    dsimp only [lastWritten]
    refine eq_tabulate hgrid.texts fun r c hr hc => ?_
    exact replay_blank (fun g => cell g.texts r c) (fun _ => rfl)
      (fun y b i text line hy => texts_row hy.texts hr hc b i text line)
      (cell_replicate _ hr hc) evs
  have hvertical : (replay (gridRow h.width) h.blank evs).1.wallVertical =
      (lastWritten h evs).wallVertical := by
    refine eq_map_range hgrid.wallVertical fun k hk => ?_
    exact replay_blank (fun g => g.wallVertical[k]?) (fun _ => rfl)
      (fun y b i text line hy => wallVertical_row (hy.wallVertical ▸ hk) b i text line)
      (List.getElem?_replicate_of_lt hk) evs
  have hhorizontal : (replay (gridRow h.width) h.blank evs).1.wallHorizontal =
      (lastWritten h evs).wallHorizontal := by
    refine eq_map_range hgrid.wallHorizontal fun k hk => ?_
    exact replay_blank (fun g => g.wallHorizontal[k]?) (fun _ => rfl)
      (fun y b i text line hy => wallHorizontal_row (hy.wallHorizontal ▸ hk) b i text line)
      (List.getElem?_replicate_of_lt hk) evs
  have hpolylines : (replay (gridRow h.width) h.blank evs).1.polylines =
      (lastWritten h evs).polylines := polylines_replay h.blank h.width evs
  generalize (replay (gridRow h.width) h.blank evs).1 = g at *
  cases g
  dsimp only at *
  subst hheight hwidth hborder htext hdefault hbounds
  subst hcolors htexts hvertical hhorizontal hpolylines
  rfl

/-! ## Grids -/

/-- Behind a header a grid is what its blocks write last, in one polyline for each row that gives a
point, and one report for each row of walls with fewer flags than it should have. -/
theorem readGrid_lastWritten {maxCells : Int} {call : Call} {h : GridHeader}
    (hread : readGridHeader maxCells call.text = .ok h) (rest : List String) (line : Int) :
    ∃ found tail left, Finds h.specs rest found tail left ∧
      let evs := foundEvents line found
      let o := readGrid maxCells call rest line
      o.action = .draw (.grid (lastWritten h evs)) ∧
        o.reports.filter isShortRow = evs.filterMap (shortRow? h.width) := by
  have hnat : ∀ s ∈ h.specs, ∀ n ∈ s.rows, 0 ≤ n := by
    intro s hs n hn
    obtain ⟨key, -, rfl⟩ := List.mem_map.mp hs
    cases key <;> simp [GridHeader.rows] at hn <;> omega
  let r : BlockReader GridBlock := { specs := h.specs, rest, line }
  obtain ⟨found, tail, t, ht, hdone, -, hfinds⟩ :=
    BlockReader.reads_blocks (r := r) rfl (plainNames_gridSpecs h).markFree hnat
  obtain rfl : r.run = t := ht.run_eq.trans (BlockReader.run_of_done hdone)
  have hevents : r.run.events.toList = foundEvents line found := ht.events_eq
  refine ⟨found, tail, r.run.rest, hfinds, ?_, ?_⟩
  · unfold readGrid
    rw [hread]
    dsimp only
    rw [hevents, replay_gridRow]
  · unfold readGrid
    rw [hread]
    dsimp only
    rw [hevents]
    exact shortRows_replay h.blank h.width fun p hp => isShortRow_of_mem_foundEvents hp

/-- Of the pairs one is no pair of numbers, one is outside, and one is beyond the count; the second
block of colours ends after its first row. -/
theorem readGrid_lastWritten_overwritten :
    let call : Call := ⟨"GRID", "GRID 2 2 b t w", 1, ["2", "2", "b", "t", "w"]⟩
    let h : GridHeader := ⟨2, 2, "b", "t", "w", none⟩
    let rest := ["CELL_COLORS", "r g u", "y", "CELL_COLORS_POS", "2", "k 4 0 1 x 0 -1 0 1 1 0 0",
      "m 9 1 1 5", "WALL_VERTICAL", " YNYY", "N", "CELL_COLORS", "q"]
    readGridHeader 100 call.text = .ok h ∧ ∃ found tail left, Finds h.specs rest found tail left ∧
      lastWritten h (foundEvents 2 found) =
        { h.blank with colors := [["q", "k"], ["y", "m"]], wallVertical := ["YNY", "N"] } ∧
      (foundEvents 2 found).filterMap (shortRow? 2) = [⟨11, .wallFlags "WALL_VERTICAL" 1 3⟩] := by
  intro call h rest
  have hread : readGridHeader 100 call.text = .ok h := by decide +kernel
  obtain ⟨found, tail, left, hfinds, hdrawn, hreports⟩ := readGrid_lastWritten hread rest 2
  have hgrid : (readGrid 100 call rest 2).action = .draw (.grid
      { h.blank with colors := [["q", "k"], ["y", "m"]], wallVertical := ["YNY", "N"] }) := by
    decide +kernel
  have hshort : (readGrid 100 call rest 2).reports.filter isShortRow =
      [⟨11, .wallFlags "WALL_VERTICAL" 1 3⟩] := by decide +kernel
  refine ⟨hread, found, tail, left, hfinds, ?_, hreports.symm.trans hshort⟩
  exact Command.grid.inj (Action.draw.inj (hdrawn.symm.trans hgrid))

end Flipbook.Script
