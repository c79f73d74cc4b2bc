import Mathlib
import Flipbook.Proofs.GridBlocks

/-!
Lines of written commands. None of them holds a line break, so that a script is cut where it was
joined.
-/
namespace Flipbook.Script

open Text

variable {s mode name : String} {parts rows : List String} {colors front : List String}
  {runs : List (List Binary64)} {g : Grid Binary64} {p : Plane Binary64} {maxCells : Int}
  {c : Command Binary64}

/-- Whether a text holds no line break. -/
def OneLine (s : String) : Prop := '\n' ∉ s.toList

instance (s : String) : Decidable (OneLine s) := inferInstanceAs (Decidable ('\n' ∉ s.toList))

theorem oneLine_token (h : IsToken s) : OneLine s := by
  intro hmem
  have hblank := h.2 '\n' hmem
  revert hblank
  decide

theorem oneLine_numeral (n : Int) : OneLine (toString n) :=
  oneLine_token (Numeral.isNumeral_toString n).isToken

@[simp] theorem oneLine_append {s t : String} : OneLine (s ++ t) ↔ OneLine s ∧ OneLine t := by
  simp only [OneLine, String.toList_append, List.mem_append, not_or]

theorem oneLine_intercalate {sep : String} (hsep : OneLine sep) (h : ∀ s ∈ parts, OneLine s) :
    OneLine (sep.intercalate parts) := by
  induction parts with
  | nil => simp [OneLine]
  | cons s parts ih =>
    obtain ⟨hs, hlater⟩ := List.forall_mem_cons.mp h
    by_cases hne : parts = []
    · rwa [hne, String.intercalate_singleton]
    · rw [String.intercalate_cons_of_ne_nil hne, oneLine_append, oneLine_append]
      exact ⟨⟨hs, hsep⟩, ih hlater⟩

theorem oneLine_spaced (h : ∀ s ∈ parts, OneLine s) : OneLine (spaced parts) :=
  oneLine_intercalate (by decide) h

theorem oneLine_trimEnd (h : OneLine s) : OneLine (trimEnd s) := by
  intro hmem
  rw [trimEnd, String.toList_ofList] at hmem
  exact h ((prefix_trimRight isBlank s.toList).subset hmem)

theorem oneLine_scriptText (x : Binary64) : OneLine (Numeral.scriptText x) := by
  cases h : x.isFinite with
  | true => exact oneLine_token (Numeral.readFinite?_scriptText h).1.isToken
  | false =>
    cases x with
    | nan => decide
    | infinite negative => cases negative <;> decide
    | finite => cases h

theorem oneLine_numbers (xs : List Binary64) : OneLine (numbers xs) := by
  refine oneLine_spaced fun s hs => ?_
  obtain ⟨x, -, rfl⟩ := List.mem_map.mp hs
  exact oneLine_scriptText x

/-! ## Headers -/

theorem oneLine_modeMark (hm : IsModeName mode) : OneLine (modeMark mode) := by
  unfold OneLine
  rw [toList_modeMark]
  split
  · decide
  · simp [hm.2.2]

theorem oneLine_headed {key : String} {bounds : Option (Rect Binary64)} (hk : IsKeyword key)
    (hb : BoundsFormed bounds) : OneLine (headed key bounds) := by
  have hkey := oneLine_token hk.1
  unfold OneLine at *
  rw [toList_headed]
  cases bounds with
  | none => simpa using hkey
  | some r =>
    have hinner := not_mem_boundsInner (hb r rfl) (c := '\n') (by decide) (by decide)
    simp [hkey, hinner]

theorem oneLine_headerParts (hf : Formed maxCells c) : ∀ s ∈ headerParts c, OneLine s := by
  have hkey (k : Kind) : OneLine k.keyword := oneLine_token (isKeyword k).1
  cases c with
  | canvas c =>
    simpa [headerParts, oneLine_numbers] using hkey .canvas
  | grid g =>
    have hhead := oneLine_headed (isKeyword .grid) hf.bounds
    have hheight := oneLine_numeral g.height
    have hwidth := oneLine_numeral g.width
    have hborder := oneLine_token hf.borderColor
    have htext := oneLine_token hf.textColor
    have hdefault := oneLine_token hf.defaultColor
    simpa [headerParts, hborder, htext, hdefault] using ⟨hhead, hheight, hwidth⟩
  | plane p =>
    have hhead := oneLine_headed (isKeyword .plane) hf.bounds
    simpa [headerParts, oneLine_numbers] using hhead
  | barGraph b =>
    have hfill := oneLine_token hf.fillColor
    simpa [headerParts, oneLine_numbers, hfill] using hkey .barGraph
  | textArea text => simpa [headerParts, show OneLine text from hf.2] using hkey .textArea
  | score text => simpa [headerParts, show OneLine text from hf.2] using hkey .score
  | debug => simpa [headerParts] using hkey .debug

/-! ## Rows -/

theorem oneLine_groupRow (hf : ∀ s ∈ front, OneLine s) (runs : List (List Binary64)) :
    OneLine (groupRow front runs) := by
  have hruns : OneLine (spaced (runs.map numbers)) := by
    refine oneLine_spaced fun s hs => ?_
    obtain ⟨run, -, rfl⟩ := List.mem_map.mp hs
    exact oneLine_numbers run
  refine oneLine_spaced fun s hs => ?_
  simp only [List.mem_append, List.mem_cons, List.not_mem_nil, or_false] at hs
  rcases hs with hs | rfl | rfl
  · exact hf s hs
  · exact oneLine_numeral (runs.length : Int)
  · exact hruns

theorem oneLine_colorRow (h : GroupFormed colors runs) : OneLine (groupRow colors runs) :=
  oneLine_groupRow (fun s hs => oneLine_token (h.isToken s hs)) runs

theorem oneLine_lineText {l : LineGroup Binary64}
    (h : GroupFormed [l.color] (l.segments.map Segment.numbers)) : OneLine (lineText l) := by
  rw [lineText_eq]
  refine oneLine_groupRow (fun s hs => ?_) _
  rw [lineFront, List.mem_append] at hs
  rcases hs with hs | hs
  · exact oneLine_token (h.isToken s hs)
  · split at hs
    · simp at hs
    · obtain rfl := List.mem_singleton.mp hs
      exact oneLine_scriptText l.width

theorem oneLine_colorText {group : String × List (Nat × Nat)} (h : IsToken group.1) :
    OneLine (colorText group) := by
  have hplaces : OneLine (spaced (group.2.map fun p => spaced (placeTexts p))) := by
    refine oneLine_spaced fun s hs => ?_
    obtain ⟨p, -, rfl⟩ := List.mem_map.mp hs
    have hr := oneLine_numeral (p.1 : Int)
    have hc := oneLine_numeral (p.2 : Int)
    exact oneLine_spaced (by simpa [placeTexts] using ⟨hr, hc⟩)
  have hcount := oneLine_numeral (group.2.length : Int)
  exact oneLine_spaced (by simpa using ⟨oneLine_token h, hcount, hplaces⟩)

theorem oneLine_cellRow {row : List String} (h : ∀ t ∈ row, OneLine t) : OneLine (cellRow row) := by
  refine oneLine_spaced fun s hs => ?_
  obtain ⟨t, ht, rfl⟩ := List.mem_map.mp hs
  have hmem := (prefix_dropTrailingEmpty row).subset ht
  have hline := h t hmem
  unfold OneLine at *
  rw [toList_cellToken]
  split <;> simp [hline]

/-! ## Commands -/

theorem oneLine_blocks {κ : Type} {bs : List (WrittenBlock κ)}
    (h : ∀ b ∈ bs, OneLine b.spec.name ∧ ∀ s ∈ b.rows, OneLine s) :
    ∀ s ∈ bs.flatMap (·.lines), OneLine s := by
  intro s hs
  obtain ⟨b, hb, hs⟩ := List.mem_flatMap.mp hs
  obtain ⟨hname, hrows⟩ := h b hb
  unfold WrittenBlock.lines at hs
  split at hs
  · simp at hs
  · rw [List.mem_append] at hs
    rcases hs with hs | hs
    · unfold WrittenBlock.head at hs
      have hcount := oneLine_numeral (b.rows.length : Int)
      split at hs <;> simp only [List.mem_cons, List.not_mem_nil, or_false] at hs
      · rcases hs with rfl | rfl
        · exact hname
        · exact hcount
      · exact hs ▸ hname
    · exact hrows s hs

theorem oneLine_rows {τ : Type} {write : τ → String} {xs : List τ} {rows : List String}
    (hrows : rows = (xs.map write).map trimEnd) (h : ∀ x ∈ xs, OneLine (write x)) :
    ∀ s ∈ rows, OneLine s := by
  intro s hs
  rw [hrows] at hs
  obtain ⟨t, ht, rfl⟩ := List.mem_map.mp hs
  obtain ⟨x, hx, rfl⟩ := List.mem_map.mp ht
  exact oneLine_trimEnd (h x hx)

theorem oneLine_planeLines {p : Plane Binary64} (hp : PlaneFormed p) :
    ∀ s ∈ bodyLines (.plane p), OneLine s := by
  rw [bodyLines_plane]
  refine oneLine_blocks fun b hb => ?_
  simp only [planeBlocks, List.mem_cons, List.not_mem_nil, or_false] at hb
  rcases hb with rfl | rfl | rfl
  · refine ⟨oneLine_token (isToken_planeName .circles), oneLine_rows rfl fun g hg => ?_⟩
    rw [circleText_eq]
    exact oneLine_colorRow (hp.circles g hg)
  · refine ⟨oneLine_token (isToken_planeName .lines), oneLine_rows rfl fun g hg => ?_⟩
    exact oneLine_lineText (hp.lines g hg).1
  · refine ⟨oneLine_token (isToken_planeName .polygons), oneLine_rows rfl fun g hg => ?_⟩
    rw [polygonText_eq]
    exact oneLine_colorRow (hp.polygons g hg)

theorem oneLine_gridLines {g : Grid Binary64} (hg : GridFormed maxCells g) :
    ∀ s ∈ bodyLines (.grid g), OneLine s := by
  rw [bodyLines_grid hg]
  refine oneLine_blocks fun b hb => ?_
  simp only [gridBlocks, List.mem_cons, List.not_mem_nil, or_false] at hb
  rcases hb with rfl | rfl | rfl | rfl | rfl
  · refine ⟨oneLine_token (isToken_gridName .colorPositions), oneLine_rows rfl fun group h => ?_⟩
    exact oneLine_colorText (isToken_colourGroup hg h)
  · refine ⟨oneLine_token (isToken_gridName .texts), oneLine_rows rfl fun row hrow => ?_⟩
    exact oneLine_cellRow (hg.line row (mem_writtenTexts hrow))
  · refine ⟨oneLine_token (isToken_gridName .polylines), oneLine_rows rfl fun l hl => ?_⟩
    rw [polylineText_eq]
    exact oneLine_colorRow (hg.polylines l hl)
  · refine ⟨oneLine_token (isToken_gridName .wallHorizontal), fun s hs => ?_⟩
    obtain ⟨t, ht, rfl⟩ := List.mem_map.mp hs
    exact oneLine_trimEnd (hg.wallHorizontal.line t (mem_writtenWalls ht))
  · refine ⟨oneLine_token (isToken_gridName .wallVertical), fun s hs => ?_⟩
    obtain ⟨t, ht, rfl⟩ := List.mem_map.mp hs
    exact oneLine_trimEnd (hg.wallVertical.line t (mem_writtenWalls ht))

theorem oneLine_dataLine {b : BarGraph Binary64} (hb : BarGraphFormed b) :
    ∀ s ∈ bodyLines (.barGraph b), OneLine s := by
  intro s hs
  obtain rfl := List.mem_singleton.mp hs
  have hcount := oneLine_numeral (b.bars.length : Int)
  have hbars : OneLine (spaced (b.bars.map fun bar =>
      spaced [bar.label, Numeral.scriptText bar.value])) := by
    refine oneLine_spaced fun s hs => ?_
    obtain ⟨bar, hbar, rfl⟩ := List.mem_map.mp hs
    have hlabel := oneLine_token (hb.bars bar hbar).1
    have hvalue := oneLine_scriptText bar.value
    exact oneLine_spaced (by simpa using ⟨hlabel, hvalue⟩)
  exact oneLine_trimEnd (oneLine_spaced (by simpa using ⟨hcount, hbars⟩))

theorem oneLine_bodyLines (hf : Formed maxCells c) : ∀ s ∈ bodyLines c, OneLine s := by
  cases c with
  | plane p => exact oneLine_planeLines hf
  | grid g => exact oneLine_gridLines hf
  | barGraph b => exact oneLine_dataLine hf
  | _ =>
    intro s hs
    exact absurd hs List.not_mem_nil

/-- No line of a written command holds a line break. -/
theorem oneLine_commandLines (hm : IsModeName mode) (hf : Formed maxCells c) :
    ∀ s ∈ (commandLines mode c).map trimEnd, OneLine s := by
  intro s hs
  rw [commandLines_eq, List.mem_cons] at hs
  rcases hs with rfl | hs
  · refine oneLine_trimEnd (oneLine_spaced fun s hs => ?_)
    rcases List.mem_cons.mp hs with rfl | hs
    · exact oneLine_modeMark hm
    · exact oneLine_headerParts hf s hs
  · exact oneLine_bodyLines hf s hs

end Flipbook.Script
