import Mathlib
import Flipbook.Proofs.Commands
import Flipbook.Proofs.Tables

/-!
The rows of written grids. Each block changes one part of a grid; it gives that part back if and only
if none of its rows is a script line and each row can be told from what it was written from.
-/
namespace Flipbook.Script

open Text

variable {g x : Grid Binary64} {maxCells : Int} {color : String} {i w height width : Nat}
  {line : Int} {rows : List String} {s : String}

theorem isScript_trimEnd (s : String) : isScript (trimEnd s) = isScript s := by
  rw [Bool.eq_iff_iff, isScript_iff, isScript_iff, words_trimEnd]

/-! ## Coloured cells -/

/-- The row of a group of cells. -/
def colorText (group : String × List (Nat × Nat)) : String :=
  spaced [group.1, toString group.2.length,
    spaced (group.2.map fun (r, c) => spaced [toString r, toString c])]

theorem isNumeral_placeTexts (p : Nat × Nat) : ∀ s ∈ placeTexts p, Numeral.IsNumeral s := by
  intro s hs
  simp only [placeTexts, List.mem_cons, List.not_mem_nil, or_false] at hs
  rcases hs with rfl | rfl
  · exact Numeral.isNumeral_toString (p.1 : Int)
  · exact Numeral.isNumeral_toString (p.2 : Int)

theorem words_colorText {group : String × List (Nat × Nat)} (h : IsToken group.1) :
    words (trimEnd (colorText group)) =
      group.1 :: toString group.2.length :: group.2.flatMap placeTexts := by
  have hcount := Numeral.words_toString_natCast group.2.length
  have hplaces : words (spaced (group.2.map fun (r, c) => spaced [toString r, toString c])) =
      group.2.flatMap placeTexts :=
    words_spaced_map fun p _ =>
      words_spaced_tokens fun s hs => (isNumeral_placeTexts p s hs).isToken
  rw [words_trimEnd, colorText, words_spaced, List.flatMap_cons, List.flatMap_cons,
    List.flatMap_singleton, words_token h, hcount, hplaces]
  rfl

/-- Whether the row of a group is a script line depends on its colour only. -/
theorem isScript_colorText {group : String × List (Nat × Nat)} (h : IsToken group.1) :
    isScript (trimEnd (colorText group)) = isScript group.1 := by
  rw [Bool.eq_iff_iff, isScript_iff, isScript_iff, words_colorText h, words_token h]
  constructor
  · intro hopen
    refine OpenScript.of_append (show OpenScript ([group.1] ++ _) from hopen) (by simp) fun s hs => ?_
    have hnumeral : Numeral.IsNumeral s := by
      rcases List.mem_cons.mp hs with rfl | hs
      · exact Numeral.isNumeral_toString (group.2.length : Int)
      · obtain ⟨p, -, hs⟩ := List.mem_flatMap.mp hs
        exact isNumeral_placeTexts p s hs
    exact hnumeral.not_mem (by decide)
  · intro hopen
    exact hopen.append _

theorem gridRow_colorPositions {group : String × List (Nat × Nat)} (h : IsToken group.1)
    (hlength : IsCount group.2.length) (hplaces : ∀ p ∈ group.2, IsCount p.1 ∧ IsCount p.2) :
    (gridRow w x .colorPositions i (trimEnd (colorText group)) line).1 =
      { x with colors := (places group.2).foldl (paint group.1) x.colors } := by
  unfold gridRow countedRow?
  rw [words_colorText h]
  dsimp only
  rw [Numeral.readInt?_toString_natCast hlength, Option.map_some]
  dsimp only
  rw [Int.toNat_natCast, readPositions_written hplaces]
  rfl

/-! ## Polylines -/

def polylineText (l : Polyline Binary64) : String :=
  spaced [l.color, toString l.points.length, spaced (l.points.map fun p => numbers [p.x, p.y])]

theorem polylineText_eq (l : Polyline Binary64) :
    polylineText l = groupRow [l.color] (l.points.map Point.numbers) := by
  rw [groupRow, List.length_map, List.map_map]
  rfl

theorem gridRow_polylines {l : Polyline Binary64}
    (h : GroupFormed [l.color] (l.points.map Point.numbers)) :
    gridRow w x .polylines i (trimEnd (polylineText l)) line =
      ({ x with polylines := x.polylines ++ [l.map Binary64.foldZero] }, []) := by
  have hcount := Numeral.readInt?_toString_natCast h.isCount
  have hruns := numericGroups_runs (k := 2) (l.points.map Point.numbers)
    (by simp [Point.numbers]) h.isFinite
  have hk : ((2 : Nat) : Int) = 2 := rfl
  have hne : l.points ≠ [] := by simpa using h.ne_nil
  rw [hk] at hruns
  unfold gridRow countedRow?
  rw [words_trimEnd, polylineText_eq, words_groupRow h.isToken h.isFinite]
  simp only [List.cons_append, List.nil_append, hcount, Option.map_some, hruns]
  simp [Point.numbers, Function.comp_def, hne, Polyline.map, Point.map]

/-! ## Texts and walls -/

theorem gridRow_texts (row : List String) :
    (gridRow w x .texts i (trimEnd (cellRow row)) line).1 =
      { x with texts := x.texts.modify i (overlay (cellTexts (cellRow row) w)) } := by
  rw [trimEnd_cellRow]
  rfl

/-- A row of flags that starts with no blank is read without its trailing blanks. -/
theorem readFlags_written (b : GridBlock) (hlength : s.toList.length ≤ w)
    (hfirst : ∀ c ∈ s.toList.head?, isBlank c = false) (line : Int) :
    (readFlags b (trimEnd s) w line).1 = trimEnd s := by
  have hflags : trimBoth isBlank (trimEnd s).toList = (trimEnd s).toList := by
    rw [trimEnd, String.toList_ofList, trimBoth_trimRight, trimBoth_eq_trimRight hfirst]
  have hle : (trimEnd s).toList.length ≤ w := by
    rw [trimEnd, String.toList_ofList]
    exact (prefix_trimRight isBlank s.toList).length_le.trans hlength
  unfold readFlags
  dsimp only
  rw [hflags, List.take_of_length_le hle, String.ofList_toList]

theorem gridRow_wallVertical (hlength : s.toList.length ≤ w + 1)
    (hfirst : ∀ c ∈ s.toList.head?, isBlank c = false) :
    (gridRow w x .wallVertical i (trimEnd s) line).1 =
      { x with wallVertical := x.wallVertical.modify i fun _ => trimEnd s } := by
  have hflags := readFlags_written .wallVertical hlength hfirst line
  unfold gridRow
  dsimp only
  rw [hflags, List.set_eq_modify]

theorem gridRow_wallHorizontal (hlength : s.toList.length ≤ w)
    (hfirst : ∀ c ∈ s.toList.head?, isBlank c = false) :
    (gridRow w x .wallHorizontal i (trimEnd s) line).1 =
      { x with wallHorizontal := x.wallHorizontal.modify i fun _ => trimEnd s } := by
  have hflags := readFlags_written .wallHorizontal hlength hfirst line
  unfold gridRow
  dsimp only
  rw [hflags, List.set_eq_modify]

end Flipbook.Script
