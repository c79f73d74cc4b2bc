import Mathlib
import Flipbook.Proofs.Formed
import Flipbook.Proofs.LineForms

/-!
Planes that were written are read back: each row of a block as its group, each block as the list of
its groups, and the header as the size and the bounds.
-/
namespace Flipbook.Script

open Text

variable {colors front : List String} {runs : List (List Binary64)} {k : Nat}
  {p q : Plane Binary64} {i : Nat} {line : Int}

/-! ## Rows of groups -/

/-- A row of words, the number of runs, and the runs. -/
def groupRow (front : List String) (runs : List (List Binary64)) : String :=
  spaced (front ++ [toString runs.length, spaced (runs.map numbers)])

theorem words_groupRow (hf : ∀ s ∈ front, IsToken s)
    (hfin : ∀ run ∈ runs, ∀ x ∈ run, x.isFinite = true) :
    words (groupRow front runs) =
      front ++ toString runs.length :: runs.flatMap (·.map Numeral.scriptText) := by
  have hcount := Numeral.words_toString_natCast runs.length
  have hruns : words (spaced (runs.map numbers)) = runs.flatMap (·.map Numeral.scriptText) :=
    words_spaced_map fun run hrun => words_numbers (hfin run hrun)
  have hfront := words_spaced_tokens hf
  rw [words_spaced] at hfront
  rw [groupRow, words_spaced, List.flatMap_append, hfront, List.flatMap_cons, List.flatMap_cons,
    hcount, hruns]
  simp

theorem isNumeral_runs (hfin : ∀ run ∈ runs, ∀ x ∈ run, x.isFinite = true) :
    ∀ s ∈ runs.flatMap (·.map Numeral.scriptText), Numeral.IsNumeral s := by
  intro s hs
  obtain ⟨run, hrun, hs⟩ := List.mem_flatMap.mp hs
  exact isNumeral_of_mem_numbers (hfin run hrun) s hs

/-- A row of a group is no script line: its numbers hold no parenthesis. -/
theorem isScript_groupRow (extra : List String) (h : GroupFormed colors runs) (hne : colors ≠ [])
    (hextra : ∀ s ∈ extra, Numeral.IsNumeral s) :
    isScript (trimEnd (groupRow (colors ++ extra) runs)) = false := by
  have hf : ∀ s ∈ colors ++ extra, IsToken s := by
    intro s hs
    rcases List.mem_append.mp hs with hs | hs
    · exact h.isToken s hs
    · exact (hextra s hs).isToken
  rw [isScript_eq_false_iff, words_trimEnd, words_groupRow hf h.isFinite, List.append_assoc]
  refine fun hopen => h.plain (hopen.of_append hne fun s hs => ?_)
  have hnumeral : Numeral.IsNumeral s := by
    rcases List.mem_append.mp hs with hs | hs
    · exact hextra s hs
    · rcases List.mem_cons.mp hs with rfl | hs
      · exact Numeral.isNumeral_toString (runs.length : Int)
      · exact isNumeral_runs h.isFinite s hs
  exact hnumeral.not_mem (by decide)

theorem isScript_colorRow (h : GroupFormed colors runs) (hne : colors ≠ []) :
    isScript (trimEnd (groupRow colors runs)) = false := by
  have hrow := isScript_groupRow [] h hne (by simp)
  rwa [List.append_nil] at hrow

/-- The runs of a row are read back after the words before them. -/
theorem numericGroups_runs (runs : List (List Binary64)) (hlen : ∀ run ∈ runs, run.length = k)
    (hfin : ∀ run ∈ runs, ∀ x ∈ run, x.isFinite = true) :
    numericGroups (runs.flatMap (·.map Numeral.scriptText)) 0 runs.length k =
      runs.map (·.map Binary64.foldZero) :=
  numericGroups_written [] hlen hfin

/-! ## The rows of each block -/

def circleText (g : CircleGroup Binary64) : String :=
  spaced [g.lineColor, g.fillColor, toString g.circles.length,
    spaced (g.circles.map fun c => numbers [c.center.x, c.center.y, c.radius])]

/-- The words of a segment row before its count: the width is left out if it is one. -/
def lineFront (g : LineGroup Binary64) : List String :=
  [g.color] ++ if g.width.numEq 1.0 then [] else [Numeral.scriptText g.width]

def lineText (g : LineGroup Binary64) : String :=
  spaced (lineFront g ++ [toString g.segments.length,
    spaced (g.segments.map fun s => numbers [s.a.x, s.a.y, s.b.x, s.b.y])])

def polygonText (g : PolygonGroup Binary64) : String :=
  spaced [g.lineColor, g.fillColor, toString g.vertices.length,
    spaced (g.vertices.map fun v => numbers [v.x, v.y])]

theorem circleText_eq (g : CircleGroup Binary64) :
    circleText g = groupRow [g.lineColor, g.fillColor] (g.circles.map Circle.numbers) := by
  rw [groupRow, List.length_map, List.map_map]
  rfl

theorem lineText_eq (g : LineGroup Binary64) :
    lineText g = groupRow (lineFront g) (g.segments.map Segment.numbers) := by
  rw [groupRow, List.length_map, List.map_map]
  rfl

theorem polygonText_eq (g : PolygonGroup Binary64) :
    polygonText g = groupRow [g.lineColor, g.fillColor] (g.vertices.map Point.numbers) := by
  rw [groupRow, List.length_map, List.map_map]
  rfl

theorem planeRow_circles {g : CircleGroup Binary64}
    (h : GroupFormed [g.lineColor, g.fillColor] (g.circles.map Circle.numbers)) :
    planeRow p .circles i (trimEnd (circleText g)) line =
      ({ p with circleGroups := p.circleGroups ++ [g.map Binary64.foldZero] }, []) := by
  have hcount := Numeral.readInt?_toString_natCast h.isCount
  have hruns := numericGroups_runs (k := 3) (g.circles.map Circle.numbers)
    (by simp [Circle.numbers]) h.isFinite
  have hne : g.circles ≠ [] := by simpa using h.ne_nil
  unfold planeRow
  rw [words_trimEnd, circleText_eq, words_groupRow h.isToken h.isFinite]
  simp only [List.cons_append, List.nil_append, hcount]
  have hk : ((3 : Nat) : Int) = 3 := rfl
  rw [hk] at hruns
  rw [hruns]
  simp [Circle.numbers, Function.comp_def, hne, CircleGroup.map, Circle.map, Point.map]

theorem planeRow_polygons {g : PolygonGroup Binary64}
    (h : GroupFormed [g.lineColor, g.fillColor] (g.vertices.map Point.numbers)) :
    planeRow p .polygons i (trimEnd (polygonText g)) line =
      ({ p with polygonGroups := p.polygonGroups ++ [g.map Binary64.foldZero] }, []) := by
  have hcount := Numeral.readInt?_toString_natCast h.isCount
  have hruns := numericGroups_runs (k := 2) (g.vertices.map Point.numbers)
    (by simp [Point.numbers]) h.isFinite
  have hne : g.vertices ≠ [] := by simpa using h.ne_nil
  unfold planeRow
  rw [words_trimEnd, polygonText_eq, words_groupRow h.isToken h.isFinite]
  simp only [List.cons_append, List.nil_append, hcount]
  have hk : ((2 : Nat) : Int) = 2 := rfl
  rw [hk] at hruns
  rw [hruns]
  simp [Point.numbers, Function.comp_def, hne, PolygonGroup.map, Point.map]

/-! ### Segments -/

theorem one_foldZero : (1.0 : Binary64).foldZero = ((1 : Int) : Binary64) := by decide +kernel

/-- A width that is left out is one. -/
theorem foldZero_of_numEq_one {x : Binary64} (hx : x.isFinite = true) (h : x.numEq 1.0 = true) :
    x.foldZero = ((1 : Int) : Binary64) := by
  obtain ⟨t, y, hy⟩ : ∃ t y, (1.0 : Binary64) = .finite t y := by
    cases hone : (1.0 : Binary64) with
    | finite t y => exact ⟨t, y, rfl⟩
    | nan => exact absurd hone (by decide +kernel)
    | infinite t => cases t <;> exact absurd hone (by decide +kernel)
  rw [← one_foldZero]
  cases x with
  | finite s m =>
    rw [hy] at h ⊢
    exact Binary64.foldZero_eq_of_numEq h
  | _ => cases hx

theorem length_runs (runs : List (List Binary64)) (hlen : ∀ run ∈ runs, run.length = k) :
    (runs.flatMap (·.map Numeral.scriptText)).length = k * runs.length := by
  induction runs with
  | nil => simp
  | cons run runs ih =>
    rw [List.flatMap_cons, List.length_append, List.length_map, hlen run List.mem_cons_self,
      ih fun r hr => hlen r (List.mem_cons_of_mem _ hr), List.length_cons, Nat.mul_succ,
      Nat.add_comm]

theorem isToken_lineFront {g : LineGroup Binary64}
    (h : GroupFormed [g.color] (g.segments.map Segment.numbers)) (hw : g.width.isFinite = true) :
    ∀ s ∈ lineFront g, IsToken s := by
  intro s hs
  rcases List.mem_cons.mp hs with rfl | hs
  · exact h.isToken g.color List.mem_cons_self
  · split at hs
    · simp at hs
    · rw [List.mem_singleton.mp hs]
      exact (Numeral.readFinite?_scriptText hw).1.isToken

/-- A written row of segments is read in the form that it was written in. -/
theorem lineForm?_written {g : LineGroup Binary64}
    (h : GroupFormed [g.color] (g.segments.map Segment.numbers)) (hw : g.width.isFinite = true) :
    lineForm? (words (trimEnd (lineText g))) =
      some ⟨g.width.foldZero, g.segments.length, (lineFront g).length + 1⟩ := by
  have hcount := Numeral.readInt?_toString_natCast h.isCount
  have hlen := length_runs (k := 4) (g.segments.map Segment.numbers)
    (by simp [Segment.numbers])
  have hwidth := Numeral.readFinite?_scriptText hw
  rw [List.length_map] at hcount hlen
  have hfront := isToken_lineFront h hw
  rw [words_trimEnd, lineText_eq, words_groupRow hfront h.isFinite, List.length_map]
  generalize toString g.segments.length = count at hcount
  generalize (g.segments.map Segment.numbers).flatMap (·.map Numeral.scriptText) = texts at hlen
  unfold lineFront
  cases hone : g.width.numEq 1.0 with
  | true =>
    have hform : InShortForm (g.color :: count :: texts) g.segments.length :=
      ⟨by simpa using hcount, by simp [hlen]; omega⟩
    simp only [if_true, List.cons_append, List.nil_append]
    rw [lineForm?_of_short hform, foldZero_of_numEq_one hw hone]
    rfl
  | false =>
    have hform : InWideForm (g.color :: Numeral.scriptText g.width :: count :: texts)
        g.width.foldZero g.segments.length :=
      ⟨by simpa using hwidth.2, by simpa using hcount, by simp [hlen]; omega⟩
    simp only [Bool.false_eq_true, if_false, List.cons_append, List.nil_append]
    exact lineForm?_of_wide hform

theorem planeRow_lines {g : LineGroup Binary64}
    (h : GroupFormed [g.color] (g.segments.map Segment.numbers)) (hw : g.width.isFinite = true) :
    planeRow p .lines i (trimEnd (lineText g)) line =
      ({ p with lineGroups := p.lineGroups ++ [g.map Binary64.foldZero] }, []) := by
  have hform := lineForm?_written h hw
  have hfront : ∀ s ∈ lineFront g, IsToken s := isToken_lineFront h hw
  have hlen : ∀ run ∈ g.segments.map Segment.numbers, run.length = 4 := by simp [Segment.numbers]
  have hruns := numericGroups_written (lineFront g ++ [toString g.segments.length]) hlen h.isFinite
  have hne : g.segments ≠ [] := by simpa using h.ne_nil
  have hwords : words (trimEnd (lineText g)) = lineFront g ++ [toString g.segments.length] ++
      (g.segments.map Segment.numbers).flatMap (·.map Numeral.scriptText) := by
    rw [words_trimEnd, lineText_eq, words_groupRow hfront h.isFinite, List.length_map]
    simp
  have hhead : (words (trimEnd (lineText g))).headD "" = g.color := by
    rw [hwords]
    rfl
  have hstart : (lineFront g ++ [toString g.segments.length]).length = (lineFront g).length + 1 := by
    simp
  have hk : ((4 : Nat) : Int) = 4 := rfl
  rw [← hwords, hstart, List.length_map, hk] at hruns
  unfold planeRow
  simp only [hform, hhead, hruns]
  simp [Segment.numbers, Function.comp_def, hne, LineGroup.map, Segment.map, Point.map]

/-! ## The blocks of a plane -/

def planeBlocks (p : Plane Binary64) : List (WrittenBlock PlaneBlock) :=
  [⟨⟨.circles, PlaneBlock.circles.name, none⟩, (p.circleGroups.map circleText).map trimEnd⟩,
    ⟨⟨.lines, PlaneBlock.lines.name, none⟩, (p.lineGroups.map lineText).map trimEnd⟩,
    ⟨⟨.polygons, PlaneBlock.polygons.name, none⟩, (p.polygonGroups.map polygonText).map trimEnd⟩]

theorem isToken_planeName (b : PlaneBlock) : IsToken b.name := by
  cases b <;> decide

theorem bodyLines_plane (p : Plane Binary64) :
    bodyLines (.plane p) = (planeBlocks p).flatMap (·.lines) := by
  have hbody : bodyLines (.plane p) =
      (countedBlock PlaneBlock.circles.name (p.circleGroups.map circleText) ++
        countedBlock PlaneBlock.lines.name (p.lineGroups.map lineText) ++
        countedBlock PlaneBlock.polygons.name (p.polygonGroups.map polygonText)).map trimEnd := rfl
  rw [hbody, List.map_append, List.map_append,
    map_trimEnd_countedBlock (isToken_planeName .circles) PlaneBlock.circles,
    map_trimEnd_countedBlock (isToken_planeName .lines) PlaneBlock.lines,
    map_trimEnd_countedBlock (isToken_planeName .polygons) PlaneBlock.polygons]
  simp [planeBlocks]

theorem fits_planeBlocks (hc : PlaneCounts p) : ∀ b ∈ planeBlocks p, b.Fits planeSpecs := by
  intro b hb
  have hspec (k : PlaneBlock) (r : BlockReader PlaneBlock) (hr : r.specs = planeSpecs) :
      r.spec? k.name = some ⟨k, k.name, none⟩ := by
    rw [BlockReader.spec?, hr]
    cases k <;> rfl
  simp only [planeBlocks, List.mem_cons, List.not_mem_nil, or_false] at hb
  rcases hb with rfl | rfl | rfl
  · exact ⟨isToken_planeName .circles, hspec .circles, by simp, fun _ => by simpa using hc.circles⟩
  · exact ⟨isToken_planeName .lines, hspec .lines, by simp, fun _ => by simpa using hc.lines⟩
  · exact ⟨isToken_planeName .polygons, hspec .polygons, by simp, fun _ => by simpa using hc.polygons⟩

theorem plain_planeBlocks (hf : PlaneFormed p) : ∀ b ∈ planeBlocks p, b.Plain := by
  intro b hb l hl
  simp only [planeBlocks, List.mem_cons, List.not_mem_nil, or_false] at hb
  rcases hb with rfl | rfl | rfl
  · obtain ⟨s, hs, rfl⟩ := List.mem_map.mp hl
    obtain ⟨g, hg, rfl⟩ := List.mem_map.mp hs
    rw [circleText_eq]
    exact isScript_colorRow (hf.circles g hg) (by simp)
  · obtain ⟨s, hs, rfl⟩ := List.mem_map.mp hl
    obtain ⟨g, hg, rfl⟩ := List.mem_map.mp hs
    obtain ⟨hgroup, hwidth⟩ := hf.lines g hg
    rw [lineText_eq]
    refine isScript_groupRow _ hgroup (by simp) fun s hs => ?_
    split at hs
    · simp at hs
    · rw [List.mem_singleton.mp hs]
      exact (Numeral.readFinite?_scriptText hwidth).1
  · obtain ⟨s, hs, rfl⟩ := List.mem_map.mp hl
    obtain ⟨g, hg, rfl⟩ := List.mem_map.mp hs
    rw [polygonText_eq]
    exact isScript_colorRow (hf.polygons g hg) (by simp)

theorem replay_planeBlocks (hf : PlaneFormed p) (hq : q.circleGroups = [] ∧ q.lineGroups = [] ∧
    q.polygonGroups = []) (line : Int) :
    replay planeRow q (blockEvents line (planeBlocks p)) =
      ({ q with
        circleGroups := (p.map Binary64.foldZero).circleGroups
        lineGroups := (p.map Binary64.foldZero).lineGroups
        polygonGroups := (p.map Binary64.foldZero).polygonGroups }, []) := by
  have hcircles (q : Plane Binary64) (line : Int) :
      replay planeRow q (rowEvents .circles 0 line ((p.circleGroups.map circleText).map trimEnd)) =
        ({ q with circleGroups := q.circleGroups ++ p.circleGroups.map (·.map Binary64.foldZero) },
          []) := by
    rw [List.map_map]
    exact replay_rows_append (fun gs => { q with circleGroups := gs })
      (fun g hg _ _ _ => planeRow_circles (hf.circles g hg)) q.circleGroups 0 line
  have hlines (q : Plane Binary64) (line : Int) :
      replay planeRow q (rowEvents .lines 0 line ((p.lineGroups.map lineText).map trimEnd)) =
        ({ q with lineGroups := q.lineGroups ++ p.lineGroups.map (·.map Binary64.foldZero) },
          []) := by
    rw [List.map_map]
    exact replay_rows_append (fun gs => { q with lineGroups := gs })
      (fun g hg _ _ _ => planeRow_lines (hf.lines g hg).1 (hf.lines g hg).2) q.lineGroups 0 line
  have hpolygons (q : Plane Binary64) (line : Int) :
      replay planeRow q (rowEvents .polygons 0 line ((p.polygonGroups.map polygonText).map trimEnd)) =
        ({ q with polygonGroups := q.polygonGroups ++ p.polygonGroups.map (·.map Binary64.foldZero) },
          []) := by
    rw [List.map_map]
    exact replay_rows_append (fun gs => { q with polygonGroups := gs })
      (fun g hg _ _ _ => planeRow_polygons (hf.polygons g hg)) q.polygonGroups 0 line
  simp only [planeBlocks, blockEvents, List.append_nil, replay_append, hcircles, hlines, hpolygons]
  simp [hq, Plane.map]

/-! ## Whole planes -/

theorem readPositive?_scriptText {x : Binary64} (h : SizeFormed x) :
    readPositive? (Numeral.scriptText x) = some x.foldZero := by
  have hpos : 0 < x.foldZero := by
    rw [Binary64.foldZero_of_pos h.2]
    exact h.2
  rw [readPositive?, (Numeral.readFinite?_scriptText h.1).2, Option.filter_some,
    if_pos (decide_eq_true hpos)]

theorem readPlaneHeader_written (hf : PlaneFormed p) : readPlaneHeader (headerText (.plane p)) =
    .ok ⟨p.height.foldZero, p.width.foldZero, p.bounds.map (·.map Binary64.foldZero)⟩ := by
  have hsplit := splitHeader_written (isKeyword .plane) hf.bounds [numbers [p.height, p.width]]
  have hwords : [numbers [p.height, p.width]].flatMap words =
      [Numeral.scriptText p.height, Numeral.scriptText p.width] := by
    rw [List.flatMap_singleton, words_numbers (by simp [hf.height.1, hf.width.1])]
    rfl
  rw [hwords] at hsplit
  unfold readPlaneHeader headerText headerParts
  rw [hsplit]
  simp only [bind, Except.bind, readPositive?_scriptText hf.height,
    readPositive?_scriptText hf.width]
  rfl

/-- A written plane is read back, and its lines are taken. -/
theorem readPlane_written (hf : PlaneFormed p) (hc : PlaneCounts p) (call : Call)
    (htext : call.text = headerText (.plane p)) {rest : List String}
    (hstop : BlockReader.AtStop rest) (line : Int) :
    readPlane call (bodyLines (.plane p) ++ rest) line =
      { taken := bodyLines (.plane p), action := .draw ((Command.plane p).map Binary64.foldZero) } := by
  rw [bodyLines_plane]
  obtain ⟨htaken, hevents⟩ := BlockReader.run_written
    (r := { specs := planeSpecs, rest := (planeBlocks p).flatMap (·.lines) ++ rest, line })
    rfl (fits_planeBlocks hc) plainNames_planeSpecs rfl (plain_planeBlocks hf) hstop
  have hreplay := replay_planeBlocks hf (q := PlaneHeader.blank
    ⟨p.height.foldZero, p.width.foldZero, p.bounds.map (·.map Binary64.foldZero)⟩)
    ⟨rfl, rfl, rfl⟩ line
  unfold readPlane
  rw [htext, readPlaneHeader_written hf]
  dsimp only
  rw [htaken, hevents]
  simp only [List.nil_append, hreplay]
  rfl

end Flipbook.Script
