import Mathlib
import Flipbook.Proofs.Numerals
import Flipbook.Proofs.Routing
import Flipbook.Script.BarGraph

/-!
Rows of numbers. The words of a written row are the texts of its numbers, and the readers of runs,
places and pairs give back what the row was written from.
-/
namespace Flipbook.Script

open Text

variable {τ : Type} {xs : List Binary64} {parts : List String} {k : Nat}

/-! ## Words of written rows -/

theorem words_spaced (parts : List String) : words (spaced parts) = parts.flatMap words :=
  words_intercalate parts

theorem words_spaced_tokens (h : ∀ s ∈ parts, IsToken s) : words (spaced parts) = parts := by
  rw [words_spaced]
  induction parts with
  | nil => rfl
  | cons s parts ih =>
    rw [List.flatMap_cons, words_token (h s List.mem_cons_self), List.singleton_append,
      ih fun t ht => h t (List.mem_cons_of_mem _ ht)]

theorem words_numbers (h : ∀ x ∈ xs, x.isFinite = true) :
    words (numbers xs) = xs.map Numeral.scriptText := by
  refine words_spaced_tokens fun s hs => ?_
  obtain ⟨x, hx, rfl⟩ := List.mem_map.mp hs
  exact (Numeral.readFinite?_scriptText (h x hx)).1.isToken

theorem isNumeral_of_mem_numbers (h : ∀ x ∈ xs, x.isFinite = true) :
    ∀ s ∈ xs.map Numeral.scriptText, Numeral.IsNumeral s := by
  intro s hs
  obtain ⟨x, hx, rfl⟩ := List.mem_map.mp hs
  exact (Numeral.readFinite?_scriptText (h x hx)).1

/-- The words of a row of parts that are rows themselves. -/
theorem words_spaced_map {write : τ → String} {texts : τ → List String} {ys : List τ}
    (h : ∀ y ∈ ys, words (write y) = texts y) :
    words (spaced (ys.map write)) = ys.flatMap texts := by
  rw [words_spaced, List.flatMap_map]
  exact List.flatMap_congr h

theorem mapM_readFinite? (h : ∀ x ∈ xs, x.isFinite = true) :
    (xs.map Numeral.scriptText).mapM Numeral.readFinite? = some (xs.map Binary64.foldZero) := by
  induction xs with
  | nil => rfl
  | cons x xs ih =>
    rw [List.map_cons, List.mapM_cons, (Numeral.readFinite?_scriptText (h x List.mem_cons_self)).2,
      ih fun y hy => h y (List.mem_cons_of_mem _ hy)]
    rfl

/-! ## Runs, places and pairs -/

/-- Runs of numbers that stand one after the other are read back, after any words before them. -/
theorem readRuns_written {runs : List (List Binary64)} (pre : List String)
    (hlen : ∀ run ∈ runs, run.length = k)
    (hfin : ∀ run ∈ runs, ∀ x ∈ run, x.isFinite = true) :
    readRuns (pre ++ runs.flatMap (·.map Numeral.scriptText)) k runs.length pre.length =
      runs.map (·.map Binary64.foldZero) := by
  induction runs generalizing pre with
  | nil => rfl
  | cons run runs ih =>
    have hrun : run.length = k := hlen run List.mem_cons_self
    have hslice : slice (pre.length : Int) (pre.length + k : Int)
        (pre ++ (run :: runs).flatMap (·.map Numeral.scriptText)) =
          run.map Numeral.scriptText := by
      rw [slice_natCast, List.drop_left, List.flatMap_cons, List.take_left' (by simpa using hrun)]
    have hmapM := mapM_readFinite? (hfin run List.mem_cons_self)
    have hlater := ih (pre ++ run.map Numeral.scriptText)
      (fun r hr => hlen r (List.mem_cons_of_mem _ hr))
      (fun r hr => hfin r (List.mem_cons_of_mem _ hr))
    have hstart : ((pre ++ run.map Numeral.scriptText).length : Int) = pre.length + k := by
      rw [List.length_append, List.length_map, hrun, Int.natCast_add]
    rw [hstart, List.append_assoc] at hlater
    have hshort : ¬ (((run.map Numeral.scriptText).length : Int) < k) := by
      rw [List.length_map, hrun]
      omega
    rw [List.length_cons, readRuns]
    dsimp only
    rw [hslice, if_neg hshort, hmapM, List.flatMap_cons, hlater, List.map_cons]

theorem numericGroups_written {runs : List (List Binary64)} (pre : List String)
    (hlen : ∀ run ∈ runs, run.length = k)
    (hfin : ∀ run ∈ runs, ∀ x ∈ run, x.isFinite = true) :
    numericGroups (pre ++ runs.flatMap (·.map Numeral.scriptText)) pre.length runs.length k =
      runs.map (·.map Binary64.foldZero) := by
  rw [numericGroups, Int.toNat_natCast]
  exact readRuns_written pre hlen hfin

/-- The texts of a place in a table. -/
def placeTexts (p : Nat × Nat) : List String := [toString p.1, toString p.2]

theorem readPositions_written {cells : List (Nat × Nat)}
    (h : ∀ p ∈ cells, p.1 < 10 ^ Numeral.maxDigits ∧ p.2 < 10 ^ Numeral.maxDigits) :
    readPositions cells.length (cells.flatMap placeTexts) =
      cells.map fun p => ((p.1 : Int), (p.2 : Int)) := by
  induction cells with
  | nil => rfl
  | cons p cells ih =>
    obtain ⟨hr, hc⟩ := h p List.mem_cons_self
    rw [List.length_cons, List.flatMap_cons, placeTexts, List.cons_append, List.cons_append,
      List.nil_append, readPositions, Numeral.readInt?_toString_natCast hr,
      Numeral.readInt?_toString_natCast hc, ih fun q hq => h q (List.mem_cons_of_mem _ hq),
      List.map_cons]

/-- The texts of a bar. -/
def barTexts (b : Bar Binary64) : List String := [b.label, Numeral.scriptText b.value]

theorem readPairs_written {bars : List (Bar Binary64)} (h : ∀ b ∈ bars, b.value.isFinite = true)
    (line expected : Int) (found : Nat) :
    readPairs line expected bars.length found (bars.flatMap barTexts) =
      (bars.map (·.map Binary64.foldZero), []) := by
  induction bars generalizing found with
  | nil => rfl
  | cons b bars ih =>
    have hb := (Numeral.readFinite?_scriptText (h b List.mem_cons_self)).2
    rw [List.length_cons, List.flatMap_cons, barTexts, List.cons_append, List.cons_append,
      List.nil_append, readPairs, ih fun c hc => h c (List.mem_cons_of_mem _ hc), hb]
    rfl

end Flipbook.Script
