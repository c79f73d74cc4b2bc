import Mathlib
import Flipbook.Proofs.Effects
import Flipbook.Proofs.Grids
import Flipbook.Proofs.Lists

/-!
Whole grids. Reading a written grid gives the grid back, numbers of one value being one number, if
and only if it can be told from its lines; in that case exactly its lines are taken.
-/
namespace Flipbook.Script

open Text

variable {g x : Grid Binary64} {maxCells : Int} {line : Int} {rest : List String}

/-! ## The blocks of a grid -/

/-- The header that a grid is read under. -/
def gridHeader (g : Grid Binary64) : GridHeader where
  height := g.height.toNat
  width := g.width.toNat
  borderColor := g.borderColor
  textColor := g.textColor
  defaultColor := g.defaultColor
  bounds := g.bounds.map (·.map Binary64.foldZero)

def gridSpec (g : Grid Binary64) (b : GridBlock) : BlockSpec GridBlock :=
  ⟨b, b.name, (gridHeader g).rows b⟩

/-- The rows of texts that are written: none if no cell has a text. -/
def writtenTexts (g : Grid Binary64) : List (List String) :=
  if g.texts.all fun row => row.all (·.isEmpty) then [] else g.texts

/-- The rows of flags that are written: none if all of them hold every wall. -/
def writtenWalls (rows : List String) (count length : Nat) : List String :=
  if rows.isEmpty || rows = List.replicate count (allWalls length) then [] else rows

def colorsBlock (g : Grid Binary64) : WrittenBlock GridBlock :=
  ⟨gridSpec g .colorPositions, ((colourGroups g).map colorText).map trimEnd⟩

def textsBlock (g : Grid Binary64) : WrittenBlock GridBlock :=
  ⟨gridSpec g .texts, ((writtenTexts g).map cellRow).map trimEnd⟩

def polylinesBlock (g : Grid Binary64) : WrittenBlock GridBlock :=
  ⟨gridSpec g .polylines, (g.polylines.map polylineText).map trimEnd⟩

def wallHorizontalBlock (g : Grid Binary64) : WrittenBlock GridBlock :=
  ⟨gridSpec g .wallHorizontal,
    (writtenWalls g.wallHorizontal (g.height + 1).toNat g.width.toNat).map trimEnd⟩

def wallVerticalBlock (g : Grid Binary64) : WrittenBlock GridBlock :=
  ⟨gridSpec g .wallVertical,
    (writtenWalls g.wallVertical g.height.toNat (g.width + 1).toNat).map trimEnd⟩

def gridBlocks (g : Grid Binary64) : List (WrittenBlock GridBlock) :=
  [colorsBlock g, textsBlock g, polylinesBlock g, wallHorizontalBlock g, wallVerticalBlock g]

theorem isToken_gridName (b : GridBlock) : IsToken b.name := by
  cases b <;> decide

/-- A block whose number of rows is fixed, as a written block. -/
theorem map_trimEnd_fixedBlock {κ : Type} {name : String} (h : IsToken name) (key : κ) (n : Int)
    (rows : List String) : (if rows = [] then [] else name :: rows).map trimEnd =
      (⟨⟨key, name, some n⟩, rows.map trimEnd⟩ : WrittenBlock κ).lines := by
  unfold WrittenBlock.lines
  cases rows with
  | nil => rfl
  | cons row rows => simp [WrittenBlock.head, trimEnd_token h]

theorem textBlock_eq (hf : GridFormed maxCells g) :
    textBlock g = if (writtenTexts g).map cellRow = [] then []
      else GridBlock.texts.name :: (writtenTexts g).map cellRow := by
  have hrows : (List.range g.height.toNat).map (fun r => cellRow (g.texts[r]?.getD [])) =
      g.texts.map cellRow := by
    refine List.ext_getElem (by simp [hf.texts.length_eq]) fun r hr hr' => ?_
    have hlt : r < g.texts.length := by simpa using hr'
    simp [List.getElem?_eq_getElem hlt]
  have hne : g.texts ≠ [] := by
    intro hnil
    have hlen := hf.texts.length_eq
    have hpos := hf.height_pos
    rw [hnil, List.length_nil] at hlen
    omega
  unfold textBlock writtenTexts
  split
  · rfl
  · rw [hrows, if_neg (by simpa using hne)]

theorem wallBlock_eq (b : GridBlock) (rows : List String) (count length : Nat) :
    wallBlock b rows count length = if writtenWalls rows count length = [] then []
      else b.name :: writtenWalls rows count length := by
  unfold wallBlock writtenWalls
  split
  · rfl
  next h =>
    have hne : rows ≠ [] := by
      rintro rfl
      exact h rfl
    rw [if_neg hne]

theorem bodyLines_grid (hf : GridFormed maxCells g) :
    bodyLines (.grid g) = (gridBlocks g).flatMap (·.lines) := by
  have hbody : bodyLines (.grid g) =
      (countedBlock GridBlock.colorPositions.name ((colourGroups g).map colorText) ++
        textBlock g ++ countedBlock GridBlock.polylines.name (g.polylines.map polylineText) ++
        wallBlock .wallHorizontal g.wallHorizontal (g.height + 1).toNat g.width.toNat ++
        wallBlock .wallVertical g.wallVertical g.height.toNat (g.width + 1).toNat).map trimEnd :=
    rfl
  rw [hbody, textBlock_eq hf, wallBlock_eq, wallBlock_eq, List.map_append, List.map_append,
    List.map_append, List.map_append,
    map_trimEnd_countedBlock (isToken_gridName .colorPositions) GridBlock.colorPositions,
    map_trimEnd_countedBlock (isToken_gridName .polylines) GridBlock.polylines,
    map_trimEnd_fixedBlock (isToken_gridName .texts) GridBlock.texts g.height.toNat,
    map_trimEnd_fixedBlock (isToken_gridName .wallHorizontal) GridBlock.wallHorizontal
      (g.height.toNat + 1),
    map_trimEnd_fixedBlock (isToken_gridName .wallVertical) GridBlock.wallVertical
      g.height.toNat]
  simp only [gridBlocks, List.flatMap_cons, List.flatMap_nil, List.append_nil, List.append_assoc]
  rfl

theorem length_writtenTexts (hne : writtenTexts g ≠ []) :
    (writtenTexts g).length = g.texts.length := by
  unfold writtenTexts at hne ⊢
  split
  next h => exact absurd (if_pos h) hne
  next => rfl

theorem length_writtenWalls {rows : List String} {count length : Nat}
    (hne : writtenWalls rows count length ≠ []) :
    (writtenWalls rows count length).length = rows.length := by
  unfold writtenWalls at hne ⊢
  split
  next h => exact absurd (if_pos h) hne
  next => rfl

theorem fits_gridBlocks (hf : GridFormed maxCells g) (hc : GridCounts g) :
    ∀ b ∈ gridBlocks g, b.Fits (gridHeader g).specs := by
  have hspec (k : GridBlock) (r : BlockReader GridBlock) (hr : r.specs = (gridHeader g).specs) :
      r.spec? k.name = some (gridSpec g k) := by
    rw [BlockReader.spec?, hr]
    cases k <;> rfl
  intro b hb
  simp only [gridBlocks, List.mem_cons, List.not_mem_nil, or_false] at hb
  rcases hb with rfl | rfl | rfl | rfl | rfl
  · refine ⟨isToken_gridName .colorPositions, hspec .colorPositions, ?_, ?_⟩
    · intro n hn
      cases hn
    · intro _
      simpa [colorsBlock] using hc.colors
  · refine ⟨isToken_gridName .texts, hspec .texts, ?_, ?_⟩
    · intro n hn hne
      have hlen := length_writtenTexts (g := g) (by simpa [textsBlock] using hne)
      obtain rfl : (g.height.toNat : Int) = n := Option.some.inj hn
      simp [textsBlock, hlen, hf.texts.length_eq]
    · intro hn
      cases hn
  · refine ⟨isToken_gridName .polylines, hspec .polylines, ?_, ?_⟩
    · intro n hn
      cases hn
    · intro _
      simpa [polylinesBlock] using hc.polylines
  · refine ⟨isToken_gridName .wallHorizontal, hspec .wallHorizontal, ?_, ?_⟩
    · intro n hn hne
      have hlen := length_writtenWalls (by simpa [wallHorizontalBlock] using hne)
      obtain rfl : (g.height.toNat : Int) + 1 = n := Option.some.inj hn
      simp [wallHorizontalBlock, hlen, hf.wallHorizontal.length_eq]
    · intro hn
      cases hn
  · refine ⟨isToken_gridName .wallVertical, hspec .wallVertical, ?_, ?_⟩
    · intro n hn hne
      have hlen := length_writtenWalls (by simpa [wallVerticalBlock] using hne)
      obtain rfl : (g.height.toNat : Int) = n := Option.some.inj hn
      simp [wallVerticalBlock, hlen, hf.wallVertical.length_eq]
    · intro hn
      cases hn

/-! ## Reading the blocks back -/

/-- The rows of a block that are read: those before the first that is a script line. -/
theorem takeWhile_rows {τ : Type} (write : τ → String) (xs : List τ) :
    ((xs.map write).map trimEnd).takeWhile (!isScript ·) =
      ((xs.takeWhile fun x => !isScript (trimEnd (write x))).map write).map trimEnd := by
  simp only [List.map_map, List.takeWhile_map, Function.comp_def]

theorem isCount_of_lt {m n : Nat} (h : m < n) (hn : IsCount n) : IsCount m := h.trans hn

theorem isToken_colourGroup (hf : GridFormed maxCells g) {group : String × List (Nat × Nat)}
    (h : group ∈ colourGroups g) : IsToken group.1 := by
  obtain ⟨p, hp⟩ := List.exists_mem_of_ne_nil _ (colourGroup_ne_nil h)
  obtain ⟨row, hrow, hs⟩ := Option.bind_eq_some_iff.mp (cell_of_mem_colourGroup h hp)
  exact hf.isToken row (List.mem_of_getElem? hrow) _ (List.mem_of_getElem? hs)

/-- The cells that a written row of colours names are all counted. -/
theorem isCount_of_mem_colourGroup (hf : GridFormed maxCells g)
    {group : String × List (Nat × Nat)} (h : group ∈ colourGroups g) :
    ∀ p ∈ group.2, IsCount p.1 ∧ IsCount p.2 := by
  intro p hp
  have hinside : p.1 < g.height.toNat ∧ p.2 < g.width.toNat := by
    by_contra hout
    have hcell := cell_of_mem_colourGroup h hp
    rw [cell_eq_none hf.colors hout] at hcell
    cases hcell
  exact ⟨isCount_of_lt hinside.1 hf.height_isCount, isCount_of_lt hinside.2 hf.width_isCount⟩

theorem replay_colorPositions (hf : GridFormed maxCells g) (hc : GridCounts g)
    {groups : List (String × List (Nat × Nat))} (hsub : ∀ group ∈ groups, group ∈ colourGroups g)
    (w : Nat) (x : Grid Binary64) (line : Int) :
    (replay (gridRow w) x (rowEvents .colorPositions 0 line
        ((groups.map colorText).map trimEnd))).1 =
      { x with colors := paintGroups groups x.colors } := by
  have hpaint : groups.zipIdx.foldl (fun t p => (places p.1.2).foldl (paint p.1.1) t) x.colors =
      paintGroups groups x.colors := by
    conv_rhs => rw [paintGroups, ← List.zipIdx_map_fst 0 groups, List.foldl_map]
  rw [List.map_map, ← hpaint]
  exact replay_rows_part (fun t => { x with colors := t })
    (fun t _ group => (places group.2).foldl (paint group.1) t)
    (fun group h _ _ _ => gridRow_colorPositions (isToken_colourGroup hf (hsub group h))
      (hc.cells group (hsub group h)) (isCount_of_mem_colourGroup hf (hsub group h)))
    x.colors 0 line

theorem replay_polylines {ls : List (Polyline Binary64)}
    (h : ∀ l ∈ ls, GroupFormed [l.color] (l.points.map Point.numbers)) (w : Nat)
    (x : Grid Binary64) (line : Int) :
    replay (gridRow w) x (rowEvents .polylines 0 line ((ls.map polylineText).map trimEnd)) =
      ({ x with polylines := x.polylines ++ ls.map (·.map Binary64.foldZero) }, []) := by
  rw [List.map_map]
  exact replay_rows_append (fun ls => { x with polylines := ls })
    (fun l hl _ _ _ => gridRow_polylines (h l hl)) x.polylines 0 line

/-! ### When each block is read back -/

theorem plain_colourGroups_iff : (∀ group ∈ colourGroups g, (!isScript group.1) = true) ↔
    ColorsPlain g := by
  constructor
  · intro h row hrow color hcolor hne
    obtain ⟨r, hr⟩ := List.getElem?_of_mem hrow
    obtain ⟨c, hc⟩ := List.getElem?_of_mem hcolor
    have hcell : cell g.colors r c = some color := by rw [cell, hr, Option.bind_some, hc]
    obtain ⟨group, hgroup, rfl, -⟩ := exists_mem_colourGroups (mem_colouredCells.mpr ⟨hcell, hne⟩)
    simpa using h group hgroup
  · intro h group hgroup
    obtain ⟨p, hp⟩ := List.exists_mem_of_ne_nil _ (colourGroup_ne_nil hgroup)
    obtain ⟨hcell, hne⟩ := mem_colouredCells.mp ((mem_colourGroups hgroup p).mp hp)
    obtain ⟨row, hrow, hcolor⟩ := Option.bind_eq_some_iff.mp hcell
    simpa using h row (List.mem_of_getElem? hrow) _ (List.mem_of_getElem? hcolor) hne

theorem dropTrailingEmpty_replicate (n : Nat) : dropTrailingEmpty (List.replicate n "") = [] := by
  simp [dropTrailingEmpty]

theorem cellRow_replicate (n : Nat) : cellRow (List.replicate n "") = "" := by
  rw [cellRow, dropTrailingEmpty_replicate]
  rfl

theorem isScript_empty : isScript "" = false := by
  rw [isScript_eq_false_iff, words_empty]
  exact id

theorem writtenTexts_eq (hf : GridFormed maxCells g) : writtenTexts g = g.texts ∨
    writtenTexts g = [] ∧
      g.texts = List.replicate g.texts.length (List.replicate g.width.toNat "") := by
  unfold writtenTexts
  split
  next h =>
    refine .inr ⟨rfl, List.eq_replicate_of_mem fun row hrow => ?_⟩
    have hempty : ∀ s ∈ row, s = "" := by simpa using List.all_eq_true.mp h row hrow
    rw [← hf.texts.row_length row hrow]
    exact List.eq_replicate_of_mem hempty
  next => exact .inl rfl

theorem trimEnd_allWalls (n : Nat) : trimEnd (allWalls n) = allWalls n := by
  have hlast : ∀ c ∈ (allWalls n).toList.getLast?, isBlank c = false := by
    intro c hc
    rw [allWalls, String.toList_ofList] at hc
    rw [List.eq_of_mem_replicate (List.mem_of_getLast? hc)]
    rfl
  exact trimEnd_eq_self hlast

theorem isScript_allWalls (n : Nat) : isScript (allWalls n) = false := by
  rw [isScript_eq_false_iff]
  refine not_openScript_of_head fun u hu hdollar => ?_
  have hmem := (isToken_of_mem_words (List.mem_of_head? hu)).2 '$' (List.mem_of_head? hdollar)
  rw [allWalls, String.toList_ofList] at hmem
  exact absurd (List.eq_of_mem_replicate hmem) (by decide)

theorem writtenWalls_eq {rows : List String} {count width : Nat} (h : rows.length = count) :
    writtenWalls rows count width = rows ∨ writtenWalls rows count width = [] ∧
      rows = List.replicate rows.length (allWalls width) := by
  unfold writtenWalls
  split
  next hor =>
    refine .inr ⟨rfl, ?_⟩
    rw [Bool.or_eq_true, List.isEmpty_iff, decide_eq_true_eq] at hor
    rcases hor with rfl | hor
    · rfl
    · rw [h]
      exact hor
  next => exact .inl rfl

/-! ## Whole grids -/

theorem plain_rows {τ : Type} {write : τ → String} {xs : List τ} {b : WrittenBlock GridBlock}
    (hb : b.rows = (xs.map write).map trimEnd)
    (h : ∀ x ∈ xs, isScript (trimEnd (write x)) = false) : b.Plain := by
  intro l hl
  rw [hb] at hl
  obtain ⟨s, hs, rfl⟩ := List.mem_map.mp hl
  obtain ⟨x, hx, rfl⟩ := List.mem_map.mp hs
  exact h x hx

theorem mem_writtenTexts {row : List String} (h : row ∈ writtenTexts g) : row ∈ g.texts := by
  unfold writtenTexts at h
  split at h
  · simp at h
  · exact h

theorem mem_writtenWalls {rows : List String} {count length : Nat} {s : String}
    (h : s ∈ writtenWalls rows count length) : s ∈ rows := by
  unfold writtenWalls at h
  split at h
  · simp at h
  · exact h

/-- What comes of a grid when some blocks are read into it. -/
def readBlocks (w : Nat) (x : Grid Binary64) (line : Int) (bs : List (WrittenBlock GridBlock)) :
    Grid Binary64 :=
  (replay (gridRow w) x (blockEvents line (readable bs))).1

variable (bs : List (WrittenBlock GridBlock))

theorem plain_colorsBlock (hf : GridFormed maxCells g) (h : ColorsPlain g) :
    (colorsBlock g).Plain := by
  refine plain_rows rfl fun group hgroup => ?_
  rw [isScript_colorText (isToken_colourGroup hf hgroup)]
  simpa using plain_colourGroups_iff.mpr h group hgroup

theorem plain_textsBlock (h : TextsPlain g) : (textsBlock g).Plain := by
  refine plain_rows rfl fun row hrow => ?_
  rw [isScript_trimEnd]
  exact (h row (mem_writtenTexts hrow)).2

theorem plain_polylinesBlock (hf : GridFormed maxCells g) : (polylinesBlock g).Plain := by
  refine plain_rows rfl fun l hl => ?_
  rw [polylineText_eq]
  exact isScript_colorRow (hf.polylines l hl) (by simp)

theorem readBlocks_colors (hf : GridFormed maxCells g) (hc : GridCounts g)
    (hx : x.colors = (gridHeader g).blank.colors)
    (hbs : ∀ c ∈ bs, c.spec.key ≠ .colors ∧ c.spec.key ≠ .colorPositions) (line : Int) :
    (ColorsPlain g → ∃ n, readBlocks g.width.toNat x line (colorsBlock g :: bs) =
        readBlocks g.width.toNat { x with colors := g.colors } n bs) ∧
      ((readBlocks g.width.toNat x line (colorsBlock g :: bs)).colors = g.colors →
        ColorsPlain g) := by
  have hscript : ∀ group ∈ colourGroups g, isScript (trimEnd (colorText group)) =
      isScript group.1 := fun group hgroup => isScript_colorText (isToken_colourGroup hf hgroup)
  have hrows : (colorsBlock g).rows.takeWhile (!isScript ·) =
      (((colourGroups g).takeWhile fun group => !isScript group.1).map colorText).map trimEnd := by
    rw [colorsBlock, takeWhile_rows,
      takeWhile_congr fun group hgroup => congrArg (!·) (hscript group hgroup)]
  have hiff := (paintGroups_eq_iff hf.colors fun color => !isScript color).trans
    plain_colourGroups_iff
  have hread (line : Int) : (replay (gridRow g.width.toNat) x (rowEvents .colorPositions 0 line
      ((colorsBlock g).rows.takeWhile (!isScript ·)))).1 = { x with
        colors := paintGroups ((colourGroups g).takeWhile fun group => !isScript group.1)
          x.colors } := by
    rw [hrows]
    exact replay_colorPositions hf hc (fun group h => (List.takeWhile_prefix _).subset h) _ x line
  rw [hx] at hread
  exact replay_readable_cons Grid.colors (fun t => { x with colors := t }) (fun _ => rfl)
    (fun c hc x i text line => (gridKeeps_gridRow _ x c.spec.key i text line).colors (hbs c hc))
    hread hiff (plain_colorsBlock hf) line

/-- A table that is written row by row, or not at all if it is blank, is read back if and only if no
row is a script line and each row is made from a blank one again. -/
theorem readBlocks_table {τ : Type} (field : Grid Binary64 → List τ)
    (put : List τ → Grid Binary64) (hput : ∀ t, field (put t) = t) (write : τ → String)
    (change : τ → τ → τ) {xs ys : List τ} {z : τ} {w : Nat} {b : WrittenBlock GridBlock}
    (hx : x = put (List.replicate xs.length z))
    (hys : ys = xs ∨ ys = [] ∧ xs = List.replicate xs.length z) (hb : b.rows = ys.map write)
    (hblank : isScript (write z) = false ∧ change z z = z)
    (hrow : ∀ a ∈ xs, ∀ t i line,
      (gridRow w (put t) b.spec.key i (write a) line).1 = put (t.modify i (change a)))
    (hrest : ∀ c ∈ bs, ∀ x i text line, field (gridRow w x c.spec.key i text line).1 = field x)
    (line : Int) :
    ((∀ a ∈ xs, isScript (write a) = false ∧ change a z = a) →
        ∃ n, readBlocks w x line (b :: bs) = readBlocks w (put xs) n bs) ∧
      (field (readBlocks w x line (b :: bs)) = xs →
        ∀ a ∈ xs, isScript (write a) = false ∧ change a z = a) := by
  have hsub : ys.Sublist xs := by
    rcases hys with rfl | ⟨rfl, -⟩
    · exact List.Sublist.refl _
    · exact List.nil_sublist _
  have hread : ys.takeWhile (fun a => !isScript (write a)) ⊆ xs :=
    fun _ ha => hsub.subset ((List.takeWhile_sublist _).subset ha)
  have hlen : (ys.takeWhile fun a => !isScript (write a)).length ≤ xs.length :=
    (List.takeWhile_sublist _).length_le.trans hsub.length_le
  have hfilled (line : Int) : (replay (gridRow w) x (rowEvents b.spec.key 0 line
      (b.rows.takeWhile (!isScript ·)))).1 =
        put ((ys.takeWhile fun a => !isScript (write a)).map (change · z) ++
          List.replicate (xs.length - (ys.takeWhile fun a => !isScript (write a)).length) z) := by
    rw [hb, List.takeWhile_map, hx, ← foldl_modify_replicate change _ z _ hlen]
    exact replay_rows_part put (fun t i a => t.modify i (change a))
      (fun a ha => hrow a (hread ha)) _ 0 line
  have hback := fill_eq_iff (q := fun a => !isScript (write a)) (f := (change · z))
    (by rw [hblank.1]; rfl) hblank.2 hys
  simp only [Bool.not_eq_true'] at hback
  refine replay_readable_cons field put hput hrest hfilled hback (fun h l hl => ?_) line
  rw [hb] at hl
  obtain ⟨a, ha, rfl⟩ := List.mem_map.mp hl
  exact (h a (hsub.subset ha)).1

theorem readBlocks_texts (hf : GridFormed maxCells g)
    (hx : x.texts = (gridHeader g).blank.texts) (hbs : ∀ c ∈ bs, c.spec.key ≠ .texts)
    (line : Int) :
    (TextsPlain g → ∃ n, readBlocks g.width.toNat x line (textsBlock g :: bs) =
        readBlocks g.width.toNat { x with texts := g.texts } n bs) ∧
      ((readBlocks g.width.toNat x line (textsBlock g :: bs)).texts = g.texts →
        TextsPlain g) := by
  have hblank : x = { x with
      texts := List.replicate g.texts.length (List.replicate g.width.toNat "") } := by
    rw [hf.texts.length_eq]
    exact congrArg (fun t => { x with texts := t }) hx
  have hempty : overlay (cellTexts (cellRow (List.replicate g.width.toNat "")) g.width.toNat)
      (List.replicate g.width.toNat "") = List.replicate g.width.toNat "" := by
    rw [overlay_cellTexts_iff List.length_replicate, dropTrailingEmpty_replicate]
    trivial
  have htable := readBlocks_table bs Grid.texts (fun t => { x with texts := t }) (fun _ => rfl)
    (fun row => trimEnd (cellRow row)) (fun row => overlay (cellTexts (cellRow row) g.width.toNat))
    hblank (writtenTexts_eq hf) List.map_map
    (b := textsBlock g) ⟨by rw [cellRow_replicate]; decide, hempty⟩ (fun row _ _ _ _ => gridRow_texts row)
    (fun c hc x i text line => (gridKeeps_gridRow _ x c.spec.key i text line).texts (hbs c hc)) line
  have hplain : (∀ row ∈ g.texts, isScript (trimEnd (cellRow row)) = false ∧
      overlay (cellTexts (cellRow row) g.width.toNat) (List.replicate g.width.toNat "") = row) ↔
        TextsPlain g := by
    refine forall₂_congr fun row hrow => ?_
    rw [overlay_cellTexts_iff (hf.texts.row_length row hrow), isScript_trimEnd, and_comm]
  rw [hplain] at htable
  exact htable

theorem readBlocks_polylines (hf : GridFormed maxCells g) (hx : x.polylines = [])
    (hbs : ∀ c ∈ bs, c.spec.key ≠ .polylines) (line : Int) :
    ∃ n, readBlocks g.width.toNat x line (polylinesBlock g :: bs) = readBlocks g.width.toNat
      { x with polylines := (g.map Binary64.foldZero).polylines } n bs := by
  have hplain : (polylinesBlock g).Plain := plain_polylinesBlock hf
  have htake : (polylinesBlock g).rows.takeWhile (!isScript ·) = (polylinesBlock g).rows :=
    List.takeWhile_eq_self_iff.mpr (List.all_eq_true.mp ((polylinesBlock g).plain_iff.mp hplain))
  have hread (line : Int) : (replay (gridRow g.width.toNat) x (rowEvents .polylines 0 line
      ((polylinesBlock g).rows.takeWhile (!isScript ·)))).1 =
        { x with polylines := (g.map Binary64.foldZero).polylines } := by
    have hreplay := replay_polylines hf.polylines g.width.toNat x line
    rw [hx] at hreplay
    rw [htake]
    exact congrArg Prod.fst hreplay
  exact (replay_readable_cons (p := True) Grid.polylines (fun t => { x with polylines := t })
    (fun _ => rfl)
    (fun c hc x i text line => (gridKeeps_gridRow _ x c.spec.key i text line).polylines (hbs c hc))
    hread ⟨fun _ => trivial, fun _ => rfl⟩ (fun _ => hplain) line).1 trivial

theorem plain_walls {rows : List String} {count n : Nat} {b : WrittenBlock GridBlock}
    (hb : b.rows = (writtenWalls rows count n).map trimEnd) (h : WallsPlain rows) : b.Plain := by
  intro l hl
  rw [hb] at hl
  obtain ⟨s, hs, rfl⟩ := List.mem_map.mp hl
  rw [isScript_trimEnd]
  exact (h s (mem_writtenWalls hs)).1

/-- Rows of flags of either kind. -/
theorem readBlocks_walls (field : Grid Binary64 → List String)
    (put : List String → Grid Binary64) (hput : ∀ t, field (put t) = t) {rows : List String}
    {count width w : Nat} {b : WrittenBlock GridBlock} (hwalls : WallsFormed count width rows)
    (hx : x = put (List.replicate count (allWalls width)))
    (hb : b.rows = (writtenWalls rows count width).map trimEnd)
    (hrow : ∀ s, s.toList.length ≤ width → (∀ c ∈ s.toList.head?, isBlank c = false) →
      ∀ t i line, (gridRow w (put t) b.spec.key i (trimEnd s) line).1 =
        put (t.modify i fun _ => trimEnd s))
    (hrest : ∀ c ∈ bs, ∀ x i text line, field (gridRow w x c.spec.key i text line).1 = field x)
    (line : Int) :
    (WallsPlain rows → ∃ n, readBlocks w x line (b :: bs) = readBlocks w (put rows) n bs) ∧
      (field (readBlocks w x line (b :: bs)) = rows → WallsPlain rows) := by
  have hblank : isScript (trimEnd (allWalls width)) = false ∧
      trimEnd (allWalls width) = allWalls width := by
    rw [trimEnd_allWalls, isScript_allWalls]
    exact ⟨rfl, rfl⟩
  rw [← hwalls.length_eq] at hx
  have htable := readBlocks_table bs field put hput trimEnd (fun s _ => trimEnd s) hx
    (writtenWalls_eq hwalls.length_eq) hb hblank
    (fun s hs => hrow s (hwalls.length_le s hs) (hwalls.first s hs)) hrest line
  simp only [isScript_trimEnd] at htable
  exact htable

theorem readBlocks_wallHorizontal (hf : GridFormed maxCells g)
    (hx : x.wallHorizontal = (gridHeader g).blank.wallHorizontal)
    (hbs : ∀ c ∈ bs, c.spec.key ≠ .wallHorizontal) (line : Int) :
    (WallsPlain g.wallHorizontal → ∃ n,
      readBlocks g.width.toNat x line (wallHorizontalBlock g :: bs) =
        readBlocks g.width.toNat { x with wallHorizontal := g.wallHorizontal } n bs) ∧
      ((readBlocks g.width.toNat x line (wallHorizontalBlock g :: bs)).wallHorizontal =
        g.wallHorizontal → WallsPlain g.wallHorizontal) := by
  have hcount : (g.height + 1).toNat = g.height.toNat + 1 := by
    have hpos := hf.height_pos
    omega
  refine readBlocks_walls bs Grid.wallHorizontal (fun t => { x with wallHorizontal := t })
    (fun _ => rfl) hf.wallHorizontal (congrArg (fun t => { x with wallHorizontal := t }) hx) ?_
    (fun s hlength hfirst _ _ _ => gridRow_wallHorizontal hlength hfirst)
    (fun c hc x i text line =>
      (gridKeeps_gridRow _ x c.spec.key i text line).wallHorizontal (hbs c hc)) line
  rw [wallHorizontalBlock, hcount]

theorem readBlocks_wallVertical (hf : GridFormed maxCells g)
    (hx : x.wallVertical = (gridHeader g).blank.wallVertical)
    (hbs : ∀ c ∈ bs, c.spec.key ≠ .wallVertical) (line : Int) :
    (WallsPlain g.wallVertical → ∃ n,
      readBlocks g.width.toNat x line (wallVerticalBlock g :: bs) =
        readBlocks g.width.toNat { x with wallVertical := g.wallVertical } n bs) ∧
      ((readBlocks g.width.toNat x line (wallVerticalBlock g :: bs)).wallVertical =
        g.wallVertical → WallsPlain g.wallVertical) := by
  have hcount : (g.width + 1).toNat = g.width.toNat + 1 := by
    have hpos := hf.width_pos
    omega
  refine readBlocks_walls bs Grid.wallVertical (fun t => { x with wallVertical := t })
    (fun _ => rfl) hf.wallVertical (congrArg (fun t => { x with wallVertical := t }) hx) ?_
    (fun s hlength hfirst _ _ _ => gridRow_wallVertical hlength hfirst)
    (fun c hc x i text line =>
      (gridKeeps_gridRow _ x c.spec.key i text line).wallVertical (hbs c hc)) line
  rw [wallVerticalBlock, hcount]

/-- Reading the blocks of a grid gives it back if it can be told from its lines, and something else
if it cannot. -/
theorem readBlocks_gridBlocks (hf : GridFormed maxCells g) (hc : GridCounts g) (line : Int) :
    (GridPlain g → readBlocks g.width.toNat (gridHeader g).blank line (gridBlocks g) =
        g.map Binary64.foldZero) ∧
      ((readBlocks g.width.toNat (gridHeader g).blank line (gridBlocks g)).map Binary64.foldZero =
        g.map Binary64.foldZero → GridPlain g) := by
  set x := (gridHeader g).blank with hx
  set x₁ := { x with colors := g.colors }
  set x₂ := { x₁ with texts := g.texts }
  set x₃ := { x₂ with polylines := (g.map Binary64.foldZero).polylines }
  set x₄ := { x₃ with wallHorizontal := g.wallHorizontal }
  have hlast : { x₄ with wallVertical := g.wallVertical } = g.map Binary64.foldZero := by
    have hheight : (g.height.toNat : Int) = g.height := Int.toNat_of_nonneg hf.height_pos.le
    have hwidth : (g.width.toNat : Int) = g.width := Int.toNat_of_nonneg hf.width_pos.le
    simp [x₄, x₃, x₂, x₁, x, GridHeader.blank, gridHeader, Grid.map, hheight, hwidth]
  obtain ⟨hcolors, hcolors'⟩ := readBlocks_colors (x := x)
    [textsBlock g, polylinesBlock g, wallHorizontalBlock g, wallVerticalBlock g] hf hc rfl
    (by simp [textsBlock, polylinesBlock, wallHorizontalBlock, wallVerticalBlock, gridSpec]) line
  have htexts := readBlocks_texts (x := x₁)
    [polylinesBlock g, wallHorizontalBlock g, wallVerticalBlock g] hf rfl
    (by simp [polylinesBlock, wallHorizontalBlock, wallVerticalBlock, gridSpec])
  have hpolylines := readBlocks_polylines (x := x₂) [wallHorizontalBlock g, wallVerticalBlock g] hf
    rfl (by simp [wallHorizontalBlock, wallVerticalBlock, gridSpec])
  have hhorizontal := readBlocks_wallHorizontal (x := x₃) [wallVerticalBlock g] hf rfl
    (by simp [wallVerticalBlock, gridSpec])
  have hvertical := readBlocks_wallVertical (x := x₄) [] hf rfl (by simp)
  constructor
  · intro hp
    obtain ⟨n₁, h₁⟩ := hcolors hp.colors
    obtain ⟨n₂, h₂⟩ := (htexts n₁).1 hp.texts
    obtain ⟨n₃, h₃⟩ := hpolylines n₂
    obtain ⟨n₄, h₄⟩ := (hhorizontal n₃).1 hp.wallHorizontal
    obtain ⟨_, h₅⟩ := (hvertical n₄).1 hp.wallVertical
    exact h₁.trans (h₂.trans (h₃.trans (h₄.trans (h₅.trans hlast))))
  · intro h
    -- No part that tells two grids apart has a number in it.
    have hfield {β : Type} (field : Grid Binary64 → β)
        (hnumbers : ∀ z, field (z.map Binary64.foldZero) = field z) {y : Grid Binary64}
        (hy : readBlocks g.width.toNat x line (gridBlocks g) = y) : field y = field g := by
      rw [← hnumbers y, ← hy, h, hnumbers]
    have hplain := hcolors' (hfield Grid.colors (fun _ => rfl) rfl)
    obtain ⟨n₁, h₁⟩ := hcolors hplain
    have hplain₂ := (htexts n₁).2 (hfield Grid.texts (fun _ => rfl) h₁)
    obtain ⟨n₂, h₂⟩ := (htexts n₁).1 hplain₂
    obtain ⟨n₃, h₃⟩ := hpolylines n₂
    have hread := h₁.trans (h₂.trans h₃)
    have hplain₃ := (hhorizontal n₃).2 (hfield Grid.wallHorizontal (fun _ => rfl) hread)
    obtain ⟨n₄, h₄⟩ := (hhorizontal n₃).1 hplain₃
    have hplain₄ := (hvertical n₄).2 (hfield Grid.wallVertical (fun _ => rfl) (hread.trans h₄))
    exact ⟨hplain, hplain₂, hplain₃, hplain₄⟩

theorem plain_gridBlocks (hf : GridFormed maxCells g) (hp : GridPlain g) :
    ∀ b ∈ gridBlocks g, b.Plain := by
  intro b hb
  simp only [gridBlocks, List.mem_cons, List.not_mem_nil, or_false] at hb
  rcases hb with rfl | rfl | rfl | rfl | rfl
  · exact plain_colorsBlock hf hp.colors
  · exact plain_textsBlock hp.texts
  · exact plain_polylinesBlock hf
  · exact plain_walls rfl hp.wallHorizontal
  · exact plain_walls rfl hp.wallVertical

/-! ## Reading a written grid -/

theorem readGridHeader_written (hf : GridFormed maxCells g) :
    readGridHeader maxCells (headerText (.grid g)) = .ok (gridHeader g) := by
  have hheight : g.height = g.height.toNat := (Int.toNat_of_nonneg hf.height_pos.le).symm
  have hwidth : g.width = g.width.toNat := (Int.toNat_of_nonneg hf.width_pos.le).symm
  have hreadHeight : Numeral.readInt? (toString g.height) = some g.height := by
    rw [hheight]
    exact Numeral.readInt?_toString_natCast hf.height_isCount
  have hreadWidth : Numeral.readInt? (toString g.width) = some g.width := by
    rw [hwidth]
    exact Numeral.readInt?_toString_natCast hf.width_isCount
  have hwords : [toString g.height, toString g.width, g.borderColor, g.textColor,
      g.defaultColor].flatMap words = [toString g.height, toString g.width, g.borderColor,
        g.textColor, g.defaultColor] := by
    simp only [List.flatMap_cons, List.flatMap_nil, words_token hf.borderColor,
      words_token hf.textColor, words_token hf.defaultColor,
      Numeral.words_numeral (Numeral.isNumeral_toString g.height),
      Numeral.words_numeral (Numeral.isNumeral_toString g.width), List.cons_append, List.nil_append]
  have hsplit := splitHeader_written (isKeyword .grid) hf.bounds
    [toString g.height, toString g.width, g.borderColor, g.textColor, g.defaultColor]
  have hsign : (decide (g.height ≤ 0) || decide (g.width ≤ 0)) = false := by
    simp [hf.height_pos, hf.width_pos]
  rw [hwords] at hsplit
  unfold readGridHeader headerText headerParts
  rw [hsplit]
  simp only [bind, Except.bind, hreadHeight, hreadWidth, hsign, if_neg hf.cells_le.not_gt]
  rfl

/-- A written grid is drawn again if it can be told from its lines, and another grid if it cannot. -/
theorem action_readGrid_written (hf : GridFormed maxCells g) (hc : GridCounts g) (call : Call)
    (htext : call.text = headerText (.grid g)) (hstop : BlockReader.AtStop rest) (line : Int) :
    ∃ drawn, (readGrid maxCells call (bodyLines (.grid g) ++ rest) line).action =
        .draw (.grid drawn) ∧
      (GridPlain g → drawn = g.map Binary64.foldZero) ∧
      (drawn.map Binary64.foldZero = g.map Binary64.foldZero → GridPlain g) := by
  obtain ⟨ps, hevents, hproblems⟩ := BlockReader.events_run_written
    (r := { specs := (gridHeader g).specs, rest := (gridBlocks g).flatMap (·.lines) ++ rest, line })
    rfl (fits_gridBlocks hf hc) (plainNames_gridSpecs _) rfl hstop
  refine ⟨readBlocks g.width.toNat (gridHeader g).blank line (gridBlocks g), ?_,
    readBlocks_gridBlocks hf hc line⟩
  rw [bodyLines_grid hf]
  unfold readGrid
  rw [htext, readGridHeader_written hf]
  dsimp only
  rw [hevents, List.nil_append, replay_append, replay_problems hproblems]
  rfl

/-- Of a grid that can be told from its lines, all lines are taken and no other. -/
theorem taken_readGrid_written (hf : GridFormed maxCells g) (hc : GridCounts g) (hp : GridPlain g)
    (call : Call) (htext : call.text = headerText (.grid g)) (hstop : BlockReader.AtStop rest)
    (line : Int) : (readGrid maxCells call (bodyLines (.grid g) ++ rest) line).taken =
      bodyLines (.grid g) := by
  obtain ⟨htaken, -⟩ := BlockReader.run_written
    (r := { specs := (gridHeader g).specs, rest := (gridBlocks g).flatMap (·.lines) ++ rest, line })
    rfl (fits_gridBlocks hf hc) (plainNames_gridSpecs _) rfl (plain_gridBlocks hf hp) hstop
  rw [bodyLines_grid hf]
  unfold readGrid
  rw [htext, readGridHeader_written hf]
  dsimp only
  rw [htaken]
  rfl

end Flipbook.Script
