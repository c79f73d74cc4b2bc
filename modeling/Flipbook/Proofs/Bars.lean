import Mathlib
import Flipbook.Proofs.Words
import Flipbook.Script.BarGraph

/-!
Bars as a data line gives them. Of the pairs of words behind a count, as many as it says are read:
each is a bar or a report, whatever the others are, and a last report says how many were missing.
-/
namespace Flipbook.Script

open Text

variable {left found k : Nat} {row : List String} {line expected : Int}

/-- The bar of a pair, if its value is a finite number. -/
def pairBar? (p : String × String) : Option (Bar Binary64) :=
  (Numeral.readFinite? p.2).map fun x => ⟨p.1, x⟩

/-- The pairs whose values are no finite numbers. -/
def badPairs (ps : List (String × String)) : List (String × String) :=
  ps.filter fun p => (Numeral.readFinite? p.2).isNone

/-- The report of pairs that are missing, if any are. -/
def endReports (line expected : Int) (left pairs found : Nat) : List Report :=
  if pairs < left then [⟨line, .barDataEnded found expected⟩] else []

/-- Every pair that is read is a bar or is reported, in its turn. -/
theorem readPairs_eq (line expected : Int) (left found : Nat) (row : List String) :
    readPairs line expected left found row =
      (((wordPairs row).take left).filterMap pairBar?,
        (badPairs ((wordPairs row).take left)).map (fun p => ⟨line, .barValue p.2 p.1⟩) ++
          endReports line expected left (wordPairs row).length
            (found + (wordPairs row).length)) := by
  induction left generalizing found row with
  | zero => simp [readPairs, badPairs, endReports]
  | succ left ih =>
    rcases row with _ | ⟨label, _ | ⟨value, more⟩⟩
    · simp [readPairs, wordPairs, badPairs, endReports]
    · simp [readPairs, wordPairs, badPairs, endReports]
    · have hend : endReports line expected (left + 1) ((wordPairs more).length + 1)
          (found + ((wordPairs more).length + 1)) =
          endReports line expected left (wordPairs more).length
            (found + 1 + (wordPairs more).length) := by
        simp only [endReports, Nat.add_lt_add_iff_right, Nat.add_assoc, Nat.add_comm 1]
      rw [readPairs, ih, wordPairs, List.take_succ_cons, List.length_cons, hend]
      cases hvalue : Numeral.readFinite? value with
      | some x => simp [badPairs, pairBar?, hvalue]
      | none => simp [badPairs, pairBar?, hvalue]

/-- Every bar of a data line is accounted for. Behind a count `n` the first `n` pairs of words are
read, or all of them if there are fewer: those with a number are the bars, in order, and the others
are reported, in order, before a last report if there are fewer pairs than `n`. Without a count
there is no bar and one report. -/
theorem bars_accounted_for (text : String) (line : Int) :
    (∀ count row n, words text = count :: row → Numeral.readInt? count = some n →
      let pairs := (wordPairs row).take n.toNat
      let found := row.length / 2
      (readBars text line).1 = pairs.filterMap pairBar? ∧
      (readBars text line).2.map (fun p => (p.line, p.problem.message)) =
        (badPairs pairs).map (fun p =>
          (line, s!"BAR_GRAPH value '{p.2}' for '{p.1}' is not a number")) ++
        if found < n then [(line, s!"BAR_GRAPH data ended after {found} of {n} items")] else []) ∧
    ((words text).head?.bind Numeral.readInt? = none →
      readBars text line = ([], [⟨line, .barDataCount (trim text)⟩])) := by
  constructor
  · intro count row n hwords hcount pairs found
    have hread : readBars text line = readPairs line n n.toNat 0 row := by
      rw [readBars, hwords]
      simp only [hcount]
    have hfew : found < n.toNat ↔ (found : Int) < n := by omega
    rw [hread, readPairs_eq, length_wordPairs, Nat.zero_add]
    refine ⟨rfl, ?_⟩
    rw [List.map_append, List.map_map, endReports]
    refine congrArg₂ (· ++ ·) rfl ?_
    by_cases h : found < n.toNat
    · rw [if_pos h, if_pos (hfew.mp h)]
      rfl
    · rw [if_neg h, if_neg (mt hfew.mpr h)]
      rfl
  · intro hnone
    unfold readBars
    cases hwords : words text with
    | nil => rfl
    | cons count row =>
      have hcount : Numeral.readInt? count = none := by simpa [hwords] using hnone
      simp only [hcount]

/-- A count beyond the pairs, a value that is none, an infinite one, and a label without a value. -/
def raggedData : String := "9 ada 1 bob x cy inf dan 2.5 eve"

theorem bars_accounted_for_ragged :
    words raggedData = "9" :: ["ada", "1", "bob", "x", "cy", "inf", "dan", "2.5", "eve"] ∧
    Numeral.readInt? "9" = some 9 ∧
    (readBars raggedData 7).1 = [⟨"ada", 1.0⟩, ⟨"dan", 2.5⟩] ∧
    (readBars raggedData 7).2.map (fun p => (p.line, p.problem.message)) =
      [(7, "BAR_GRAPH value 'x' for 'bob' is not a number"),
        (7, "BAR_GRAPH value 'inf' for 'cy' is not a number"),
        (7, "BAR_GRAPH data ended after 4 of 9 items")] ∧
    (words "many ada 1").head?.bind Numeral.readInt? = none ∧
    readBars "many ada 1" 7 = ([], [⟨7, .barDataCount "many ada 1"⟩]) := by
  have hwords : words raggedData =
      "9" :: ["ada", "1", "bob", "x", "cy", "inf", "dan", "2.5", "eve"] := by
    decide +kernel
  have hcount : Numeral.readInt? "9" = some 9 := by decide +kernel
  obtain ⟨hbars, hreports⟩ := (bars_accounted_for raggedData 7).1 _ _ _ hwords hcount
  have hnone : (words "many ada 1").head?.bind Numeral.readInt? = none := by decide +kernel
  have htrim : trim "many ada 1" = "many ada 1" := by decide +kernel
  have hmissing := (bars_accounted_for "many ada 1" 7).2 hnone
  rw [htrim] at hmissing
  exact ⟨hwords, hcount, hbars.trans (by decide +kernel), hreports.trans (by decide +kernel),
    hnone, hmissing⟩

end Flipbook.Script
