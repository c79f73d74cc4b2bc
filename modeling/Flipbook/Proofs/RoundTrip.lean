import Mathlib
import Flipbook.Proofs.Lists
import Flipbook.Proofs.Scripts
import Flipbook.Proofs.Values

/-!
Scripts as a format of frames. Writing the frames of some modes and reading the script gives every
mode its frames back, numbers of one value being one number.
-/
namespace Flipbook.Script

open Text

variable {ε : Type} {cfg : Config Binary64} {maxCells : Int} {g : Grid Binary64}
  {c : Command Binary64} {cs : List (Command Binary64)} {color : String} {colors : List String}
  {runs : List (List Binary64)} {reel : Reel Binary64 ε}

/-! ## What a script can represent -/

/-- A text that does not start as a script line does. -/
def Unmarked (s : String) : Prop := ¬ ['$', 'v'] <+: s.toList

instance (s : String) : Decidable (Unmarked s) := inferInstanceAs (Decidable (¬ _))

/-- A group whose row starts with `color`, followed by more colours and the numbers. -/
structure GroupShown (color : String) (colors : List String) (runs : List (List Binary64)) :
    Prop where
  isToken : ∀ s ∈ color :: colors, IsToken s
  unmarked : Unmarked color
  ne_nil : runs ≠ []
  isCount : IsCount runs.length
  isFinite : ∀ run ∈ runs, ∀ x ∈ run, x.isFinite = true

structure PlaneShown (p : Plane Binary64) : Prop where
  height : SizeFormed p.height
  width : SizeFormed p.width
  bounds : BoundsFormed p.bounds
  circles : ∀ g ∈ p.circleGroups,
    GroupShown g.lineColor [g.fillColor] (g.circles.map Circle.numbers)
  lines : ∀ g ∈ p.lineGroups, GroupShown g.color [] (g.segments.map Segment.numbers) ∧
    g.width.isFinite = true
  polygons : ∀ g ∈ p.polygonGroups,
    GroupShown g.lineColor [g.fillColor] (g.vertices.map Point.numbers)
  counts : PlaneCounts p

structure BarGraphShown (b : BarGraph Binary64) : Prop where
  fillColor : IsToken b.fillColor
  low : b.low.isFinite = true
  high : b.high.isFinite = true
  order : b.low < b.high
  isCount : IsCount b.bars.length
  bars : ∀ bar ∈ b.bars, IsToken bar.label ∧ bar.value.isFinite = true

/-- Rows of flags: this many, none longer than `width`, each without margins on a line of its own. -/
structure WallsShown (count width : Nat) (rows : List String) : Prop where
  length_eq : rows.length = count
  length_le : ∀ s ∈ rows, s.toList.length ≤ width
  trim_eq : ∀ s ∈ rows, trim s = s
  line : ∀ s ∈ rows, '\n' ∉ s.toList
  unmarked : ∀ s ∈ rows, Unmarked s

structure GridShown (maxCells : Int) (g : Grid Binary64) : Prop where
  height_pos : 1 ≤ g.height
  width_pos : 1 ≤ g.width
  height_isCount : IsCount g.height.toNat
  width_isCount : IsCount g.width.toNat
  cells_le : g.height * g.width ≤ maxCells
  borderColor : IsToken g.borderColor
  textColor : IsToken g.textColor
  defaultColor : IsToken g.defaultColor
  bounds : BoundsFormed g.bounds
  colors : TableFormed g.height.toNat g.width.toNat g.colors
  isToken : ∀ row ∈ g.colors, ∀ color ∈ row, IsToken color
  unmarked : ∀ row ∈ g.colors, ∀ color ∈ row, color ≠ g.defaultColor → Unmarked color
  texts : TableFormed g.height.toNat g.width.toNat g.texts
  bare : ∀ row ∈ g.texts, ∀ text ∈ row, '"' ∉ text.toList ∧ '\n' ∉ text.toList
  first : ∀ row ∈ g.texts, ∀ text ∈ row.head?, Unmarked text
  polylines : ∀ l ∈ g.polylines, GroupShown l.color [] (l.points.map Point.numbers)
  wallVertical : WallsShown g.height.toNat (g.width.toNat + 1) g.wallVertical
  wallHorizontal : WallsShown (g.height.toNat + 1) g.width.toNat g.wallHorizontal
  counts : GridCounts g

/-- A command that a script can represent; grids have at most `maxCells` cells. -/
def Shown (maxCells : Int) : Command Binary64 → Prop
  | .canvas c => SizeFormed c.height ∧ SizeFormed c.width
  | .grid g => GridShown maxCells g
  | .plane p => PlaneShown p
  | .barGraph b => BarGraphShown b
  | .textArea text => TextFormed text
  | .score text => TextFormed text
  | .debug => True

/-- Frames of some modes that a script can represent. -/
structure ReelShown (maxCells : Int) (reel : Reel Binary64 ε) : Prop where
  nodup : (reel.map Prod.fst).Nodup
  mode : ∀ p ∈ reel, IsModeName p.1
  frames : ∀ p ∈ reel, p.1 ≠ defaultMode → p.2 ≠ []
  commands : ∀ p ∈ reel, ∀ f ∈ p.2, f.commands ≠ []
  spatial : ∀ p ∈ reel, ∀ f ∈ p.2, ¬ Mixed f.commands
  shown : ∀ p ∈ reel, ∀ f ∈ p.2, ∀ c ∈ f.commands, Shown maxCells c

/-! ## Shown commands can be told from their lines -/

theorem Unmarked.not_openScript {w : String} (h : Unmarked w) (ws : List String) :
    ¬ OpenScript (w :: ws) := fun hopen => h hopen.1

theorem Unmarked.isScript {s : String} (h : Unmarked s)
    (hfirst : ∀ c ∈ s.toList.head?, isBlank c = false) : isScript s = false := by
  rw [← Bool.not_eq_true]
  intro hs
  have hopen := (routeChars_isSome _).mp hs
  rw [trimBoth_eq_trimRight hfirst] at hopen
  exact h (hopen.1.trans (prefix_trimRight isBlank s.toList))

/-- A row of texts starts as its first text does, or with a quote. -/
theorem isScript_cellRow {row : List String} (h : ∀ t ∈ row.head?, Unmarked t) :
    isScript (cellRow row) = false := by
  cases hts : dropTrailingEmpty row with
  | nil =>
    have hempty : cellRow row = "" := by
      rw [cellRow, hts]
      rfl
    rw [hempty]
    exact isScript_empty
  | cons t ts =>
    have hrow : (cellRow row).toList = (cellToken t).toList ++ afterChars ts := by
      rw [toList_cellRow, hts, rowChars_cons]
    have ht : Unmarked t := by
      obtain ⟨more, hmore⟩ := prefix_dropTrailingEmpty row
      rw [hts] at hmore
      exact h t (by rw [← hmore]; rfl)
    have hafter : ∀ c ∈ (afterChars ts).head?, isBlank c = true := by
      intro c hc
      unfold afterChars at hc
      split at hc
      · cases hc
      · obtain rfl : ' ' = c := by simpa using hc
        rfl
    have hquotes := toList_cellToken t
    by_cases hq : needsQuotes t = true
    · rw [if_pos hq] at hquotes
      rw [hquotes] at hrow
      refine Unmarked.isScript (fun hmark => ?_) fun c hc => ?_
      · obtain ⟨more, hmore⟩ := hmark
        rw [hrow] at hmore
        cases hmore
      · rw [hrow] at hc
        obtain rfl : '"' = c := by simpa using hc
        rfl
    · rw [if_neg hq] at hquotes
      rw [hquotes] at hrow
      have htoken := isToken_of_needsQuotes (by simpa using hq)
      have hne : t.toList ≠ [] := by simpa using htoken.1
      refine Unmarked.isScript (fun hmark => ?_) fun c hc => ?_
      · rw [hrow] at hmark
        exact ht ((prefix_word (isBlank_of_mem_mark 2) hafter).mp hmark)
      · rw [hrow, List.head?_append_of_ne_nil _ hne] at hc
        exact htoken.2 c (List.mem_of_head? hc)

theorem GroupShown.formed (h : GroupShown color colors runs) : GroupFormed (color :: colors) runs :=
  ⟨h.isToken, h.unmarked.not_openScript colors, h.ne_nil, h.isCount, h.isFinite⟩

theorem PlaneShown.formed {p : Plane Binary64} (h : PlaneShown p) : PlaneFormed p where
  height := h.height
  width := h.width
  bounds := h.bounds
  circles := fun g hg => (h.circles g hg).formed
  lines := fun g hg => ⟨(h.lines g hg).1.formed, (h.lines g hg).2⟩
  polygons := fun g hg => (h.polygons g hg).formed

theorem BarGraphShown.formed {b : BarGraph Binary64} (h : BarGraphShown b) : BarGraphFormed b where
  fillColor := h.fillColor
  low := h.low
  high := h.high
  order := Binary64.not_le_of_lt h.order
  isCount := h.isCount
  bars := h.bars

theorem WallsShown.formed {count width : Nat} {rows : List String}
    (h : WallsShown count width rows) : WallsFormed count width rows := by
  refine ⟨h.length_eq, h.length_le, fun s hs => ?_, h.line⟩
  exact (margins_of_trim_eq (h.trim_eq s hs)).1

theorem WallsShown.plain {count width : Nat} {rows : List String}
    (h : WallsShown count width rows) : WallsPlain rows := by
  intro s hs
  obtain ⟨hfirst, hend⟩ := margins_of_trim_eq (h.trim_eq s hs)
  exact ⟨(h.unmarked s hs).isScript hfirst, hend⟩

theorem GridShown.formed (h : GridShown maxCells g) : GridFormed maxCells g where
  height_pos := by have hpos := h.height_pos; omega
  width_pos := by have hpos := h.width_pos; omega
  height_isCount := h.height_isCount
  width_isCount := h.width_isCount
  cells_le := h.cells_le
  borderColor := h.borderColor
  textColor := h.textColor
  defaultColor := h.defaultColor
  bounds := h.bounds
  colors := h.colors
  isToken := h.isToken
  texts := h.texts
  line := fun row hrow text htext => (h.bare row hrow text htext).2
  polylines := fun l hl => (h.polylines l hl).formed
  wallVertical := h.wallVertical.formed
  wallHorizontal := h.wallHorizontal.formed

theorem GridShown.plain (h : GridShown maxCells g) : GridPlain g where
  colors := fun row hrow color hcolor hne => by
    have htoken := h.isToken row hrow color hcolor
    exact (h.unmarked row hrow color hcolor hne).isScript
      fun c hc => htoken.2 c (List.mem_of_head? hc)
  texts := fun row hrow => by
    refine ⟨legible_of_no_quotes fun t ht => ?_, isScript_cellRow (h.first row hrow)⟩
    exact (h.bare row hrow t ((prefix_dropTrailingEmpty row).subset ht)).1
  wallHorizontal := h.wallHorizontal.plain
  wallVertical := h.wallVertical.plain

theorem Shown.formed (h : Shown maxCells c) : Formed maxCells c ∧ Counts c ∧ PlainLines c := by
  cases c with
  | grid g => exact ⟨GridShown.formed h, h.counts, h.plain⟩
  | plane p => exact ⟨PlaneShown.formed h, h.counts, trivial⟩
  | barGraph b => exact ⟨BarGraphShown.formed h, trivial, trivial⟩
  | _ => exact ⟨h, trivial, trivial⟩

/-! ## Reading what was written -/

theorem recoverable_entries (h : ReelShown maxCells reel) :
    ∀ e ∈ entries reel, Recoverable maxCells e := by
  intro e he
  obtain ⟨p, hp, he⟩ := List.mem_flatMap.mp he
  obtain ⟨f, hf, rfl⟩ := List.mem_map.mp he
  have hshown := h.shown p hp f hf
  exact ⟨h.mode p hp, h.commands p hp f hf, fun c hc => (hshown c hc).formed.1,
    fun c hc => (hshown c hc).formed.2.1, fun c hc => (hshown c hc).formed.2.2⟩

theorem entries_cons (p : String × List (Frame Binary64 ε)) (reel : Reel Binary64 ε) :
    entries (p :: reel) = p.2.map (fun f => (p.1, f.commands)) ++ entries reel := by
  simp [entries]

theorem fst_mem_of_mem_entries {e : String × List (Command Binary64)} (h : e ∈ entries reel) :
    e.1 ∈ reel.map Prod.fst := by
  obtain ⟨p, hp, he⟩ := List.mem_flatMap.mp h
  obtain ⟨f, -, rfl⟩ := List.mem_map.mp he
  exact List.mem_map.mpr ⟨p, hp, rfl⟩

/-- The frames that are written under a mode are those of the mode. -/
theorem entries_filter (h : (reel.map Prod.fst).Nodup) (m : String) :
    ((entries reel).filter (·.1 == m)).map Prod.snd = (reel.frames m).map (·.commands) := by
  induction reel with
  | nil => rfl
  | cons p reel ih =>
    rw [List.map_cons, List.nodup_cons] at h
    rw [entries_cons, List.filter_append, List.map_append, ih h.2]
    by_cases hm : m = p.1
    · subst hm
      have hnone : reel.lookup p.1 = none := by
        refine List.lookup_eq_none_iff.mpr fun q hq => ?_
        rw [bne_iff_ne]
        exact fun heq => h.1 (heq ▸ List.mem_map.mpr ⟨q, hq, rfl⟩)
      have hlater : Reel.frames reel p.1 = [] := by
        rw [Reel.frames, hnone]
        rfl
      have hhere : Reel.frames (p :: reel) p.1 = p.2 := by
        rw [Reel.frames, List.lookup_cons, beq_self_eq_true]
        rfl
      rw [hlater, hhere]
      simp [List.filter_map, Function.comp_def]
    · have hhere : Reel.frames (p :: reel) m = Reel.frames reel m := by
        rw [Reel.frames, List.lookup_cons, beq_false_of_ne hm]
        rfl
      rw [hhere]
      simp [List.filter_map, Function.comp_def, Ne.symm hm]

/-- The modes that are written are those of the reel, each at its first frame. -/
theorem eraseDups_entries (hnodup : (reel.map Prod.fst).Nodup)
    (hframes : ∀ p ∈ reel, p.1 ≠ defaultMode → p.2 ≠ []) :
    (defaultMode :: (entries reel).map Prod.fst).eraseDups =
      defaultMode :: (reel.map Prod.fst).filter (· ≠ defaultMode) := by
  rw [List.eraseDups_cons]
  refine congrArg (defaultMode :: ·) ?_
  induction reel with
  | nil => rfl
  | cons p reel ih =>
    rw [List.map_cons, List.nodup_cons] at hnodup
    have hlater := ih hnodup.2 fun q hq => hframes q (List.mem_cons_of_mem _ hq)
    have hkeys : (p.2.map fun f => (p.1, f.commands)).map Prod.fst =
        List.replicate p.2.length p.1 := by simp [Function.comp_def]
    rw [entries_cons, List.map_append, hkeys, List.filter_append, List.map_cons]
    by_cases hp : p.1 = defaultMode
    · rw [List.filter_replicate_of_neg (by simp [hp]), List.nil_append, hlater,
        List.filter_cons_of_neg (by simp [hp])]
    · have hne := List.length_pos_iff.mpr (hframes p List.mem_cons_self hp)
      have habsent : p.1 ∉ ((entries reel).map Prod.fst).filter fun m => !m == defaultMode := by
        intro hmem
        obtain ⟨e, he, hfst⟩ := List.mem_map.mp (List.mem_filter.mp hmem).1
        exact hnodup.1 (hfst ▸ fst_mem_of_mem_entries he)
      rw [List.filter_replicate_of_pos (by simp [hp]), List.filter_cons_of_pos (by simp [hp]),
        ← hlater]
      exact eraseDups_replicate_append hne habsent

theorem pictures_eq (frames : List (Frame Binary64 ε)) : Reel.pictures frames =
    (frames.map (·.commands)).map (List.map (·.map Binary64.foldZero)) := by
  rw [List.map_map]
  rfl

/-- Whatever frames a script can represent, writing them and reading the script gives the modes
back, the default mode first, and to each mode its frames, command by command. -/
theorem parse_write (cfg : Config Binary64) (reel : Reel Binary64 ε)
    (h : ReelShown cfg.maxGridCells reel) :
    (parse cfg (write reel)).map Prod.fst =
        defaultMode :: (reel.map Prod.fst).filter (· ≠ defaultMode) ∧
      ∀ m, Reel.pictures ((parse cfg (write reel)).frames m) = Reel.pictures (reel.frames m) := by
  obtain ⟨hmodes, hframes⟩ := parse_entries (recoverable_entries h)
  rw [← write_eq] at hmodes hframes
  refine ⟨hmodes.trans (eraseDups_entries h.nodup h.frames), fun m => ?_⟩
  have hread : ∀ e ∈ (entries reel).filter (·.1 == m),
      (readCommands e.2).map (·.map Binary64.foldZero) = e.2.map (·.map Binary64.foldZero) := by
    intro e he
    obtain ⟨p, hp, he⟩ := List.mem_flatMap.mp (List.mem_filter.mp he).1
    obtain ⟨f, hf, rfl⟩ := List.mem_map.mp he
    rw [readCommands, resolveExclusivity_of_not_mixed (mt mixed_map.mp (h.spatial p hp f hf)),
      List.map_map]
    exact List.map_congr_left fun c _ => c.foldZero_foldZero
  rw [pictures_eq, pictures_eq, hframes m, ← entries_filter h.nodup, List.map_map, List.map_map]
  exact List.map_congr_left hread

/-- A grid of one cell, with a colour and a text. -/
def oneCell : Grid Binary64 where
  height := 1
  width := 1
  borderColor := "black"
  textColor := "black"
  defaultColor := "white"
  colors := [["red"]]
  texts := [["go on"]]
  polylines := [⟨"blue", [⟨0, 0⟩, ⟨1.5, -2.0⟩]⟩]
  wallVertical := ["YN"]
  wallHorizontal := ["Y", ""]
  bounds := none

theorem gridShown_oneCell : GridShown 1 oneCell where
  height_pos := by decide
  width_pos := by decide
  height_isCount := isCount_of_lt_ten (by decide)
  width_isCount := isCount_of_lt_ten (by decide)
  cells_le := by decide
  borderColor := by decide
  textColor := by decide
  defaultColor := by decide
  bounds := by simp [BoundsFormed, oneCell]
  colors := ⟨by decide, by decide⟩
  isToken := by decide
  unmarked := by decide
  texts := ⟨by decide, by decide⟩
  bare := by decide
  first := by decide
  polylines := by
    intro l hl
    obtain rfl := List.mem_singleton.mp hl
    exact ⟨by decide, by decide, by decide, isCount_of_lt_ten (by decide), by decide +kernel⟩
  wallVertical := ⟨by decide, by decide, by decide, by decide, by decide⟩
  wallHorizontal := ⟨by decide, by decide, by decide, by decide, by decide⟩
  counts := by
    have hgroups : colourGroups oneCell = [("red", [(0, 0)])] := by decide
    refine ⟨?_, fun group hg => ?_, isCount_of_lt_ten (by decide)⟩
    · rw [hgroups]
      exact isCount_of_lt_ten (by decide)
    · rw [hgroups, List.mem_singleton] at hg
      rw [hg]
      exact isCount_of_lt_ten (by decide)

/-- Two modes: a frame with a grid, and one with a text. -/
def twoModes : Reel Binary64 Notice :=
  [(defaultMode, [{ commands := [.canvas ⟨2.0, 3.0⟩, .grid oneCell] }]),
    ("at night", [{ commands := [.score "10 : 7"] }, { commands := [.debug] }])]

theorem reelShown_twoModes : ReelShown 1 twoModes where
  nodup := by decide
  mode := by decide
  frames := by simp [twoModes]
  commands := by simp [twoModes]
  spatial := by simp [twoModes, Mixed, Command.kind]
  shown := by
    have hcanvas : SizeFormed (2.0 : Binary64) ∧ SizeFormed (3.0 : Binary64) := by
      unfold SizeFormed
      decide +kernel
    have hscore : TextFormed "10 : 7" := by
      unfold TextFormed
      decide
    simpa [twoModes, Shown] using ⟨⟨hcanvas, gridShown_oneCell⟩, hscore⟩

theorem parse_write_twoModes :
    ReelShown 1 twoModes ∧
      (parse { maxGridCells := 1 } (write twoModes)).map Prod.fst = [defaultMode, "at night"] ∧
      Reel.pictures ((parse { maxGridCells := 1 } (write twoModes)).frames "at night") =
        [[.score "10 : 7"], [.debug]] := by
  obtain ⟨hmodes, hframes⟩ := parse_write { maxGridCells := 1 } twoModes reelShown_twoModes
  refine ⟨reelShown_twoModes, hmodes.trans (by decide), (hframes "at night").trans ?_⟩
  rfl

end Flipbook.Script
