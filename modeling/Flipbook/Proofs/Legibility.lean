import Mathlib
import Flipbook.Proofs.CellRows
import Flipbook.Proofs.Readings

/-!
Texts that were read from a row are legible when they are written again, although writing them adds
and removes quotes: a text that was read between quotes holds none, and a bare text that starts with
a quote is read only where no other quote follows.
-/
namespace Flipbook.Script

open Text

variable {cs : List Char} {t : String} {ts us : List String}

/-! ## Parts of legible rows -/

/-- Fewer texts behind a text hide it less. -/
theorem LegibleBefore.of_initial (h : us <+: ts) (ht : LegibleBefore t ts) :
    LegibleBefore t us := by
  unfold LegibleBefore at ht ⊢
  split
  next hn => rwa [if_pos hn] at ht
  next hn =>
    rw [if_neg hn] at ht
    intro hq
    obtain ⟨htail, hlater⟩ := ht hq
    exact ⟨htail, fun u hu => hlater u (h.subset hu)⟩

theorem Legible.of_initial (h : us <+: ts) (hts : Legible ts) : Legible us := by
  induction ts generalizing us with
  | nil =>
    rw [List.prefix_nil.mp h]
    trivial
  | cons t ts ih =>
    cases us with
    | nil => trivial
    | cons u us =>
      obtain ⟨rfl, hus⟩ := List.cons_prefix_cons.mp h
      exact ⟨hts.1.of_initial hus, ih hus hts.2⟩

/-! ## Texts as they are read -/

theorem needsQuotes_bare {c : Char} (hb : isBlank c = false) (cs : List Char) :
    needsQuotes (String.ofList (c :: cs.takeWhile (!isBlank ·))) = false := by
  have hrest : ∀ d ∈ cs.takeWhile (!isBlank ·), isBlank d = false := by
    intro d hd
    simpa using List.mem_takeWhile_imp hd
  rw [needsQuotes, Bool.or_eq_false_iff]
  constructor
  · simp
  · rw [String.toList_ofList, List.any_eq_false]
    intro d hd
    rcases List.mem_cons.mp hd with rfl | hd
    · simp [hb]
    · simp [hrest d hd]

/-- Where no quote follows, every text is read bare, and it is written as it was read. -/
theorem cellToken_of_no_quote (hq : '"' ∉ cs) (h : t ∈ scanCells cs) : cellToken t = t := by
  have hbare : needsQuotes t = false := by
    fun_induction scanCells cs with
    | case1 => cases h
    | case2 c cs hb ih => exact ih (fun hmem => hq (List.mem_cons_of_mem c hmem)) h
    | case3 c cs hb hc ih =>
      rw [Bool.and_eq_true] at hc
      obtain rfl : c = '"' := by simpa [isQuote] using hc.1
      exact absurd List.mem_cons_self hq
    | case4 c cs hb hc ih =>
      rcases List.mem_cons.mp h with rfl | h
      · exact needsQuotes_bare (by simpa using hb) cs
      · refine ih (fun hmem => hq (List.mem_cons_of_mem c ?_)) h
        exact (List.dropWhile_suffix _).subset hmem
  rw [← String.toList_inj, toList_cellToken, hbare]
  rfl

/-- A text between quotes holds no quote, so it is legible before any other texts. -/
theorem legibleBefore_quoted (cs : List Char) (ts : List String) :
    LegibleBefore (String.ofList (cs.takeWhile (!isQuote ·))) ts := by
  have hnone := quote_notMem_takeWhile cs
  unfold LegibleBefore
  split
  · exact hnone
  · exact fun hq => absurd (List.mem_of_head? hq) hnone

/-- A bare text that starts with a quote is the last to hold one, also when it is written. -/
theorem legibleBefore_bare {c : Char} (hb : isBlank c = false) (hq : c = '"' → '"' ∉ cs) :
    LegibleBefore (String.ofList (c :: cs.takeWhile (!isBlank ·)))
      (scanCells (cs.dropWhile (!isBlank ·))) := by
  unfold LegibleBefore
  rw [needsQuotes_bare hb, if_neg Bool.false_ne_true, String.toList_ofList]
  intro hfirst
  have hnone := hq (by simpa using hfirst)
  have hlater : '"' ∉ cs.dropWhile (!isBlank ·) :=
    fun hmem => hnone ((List.dropWhile_suffix _).subset hmem)
  refine ⟨fun hmem => hnone ((List.takeWhile_prefix _).subset hmem), fun u hu hmem => ?_⟩
  rw [cellToken_of_no_quote hlater hu] at hmem
  exact hlater (mem_of_mem_scanCells _ hu _ hmem)

/-- All texts that are read from some characters can be told apart when they are written. -/
theorem legible_scanCells (cs : List Char) : Legible (scanCells cs) := by
  fun_induction scanCells cs with
  | case1 => trivial
  | case2 c cs hb ih => exact ih
  | case3 c cs hb hq ih => exact ⟨legibleBefore_quoted cs _, ih⟩
  | case4 c cs hb hq ih =>
    refine ⟨legibleBefore_bare (by simpa using hb) ?_, ih⟩
    rintro rfl hmem
    exact hq (by simpa [isQuote] using hmem)

/-! ## Rows that are written again -/

/-- The texts of any row, less the empty ones at its end, are read back from the row they are
written to. -/
theorem cellTexts_rewritten (line : String) (w : Nat) :
    let kept := dropTrailingEmpty (cellTexts line w)
    cellTexts (spaced (kept.map cellToken)) w = kept := by
  intro kept
  have hkept : kept <+: scanCells line.toList :=
    (prefix_dropTrailingEmpty _).trans (List.take_prefix w _)
  have hscan : scanCells (spaced (kept.map cellToken)).toList = kept :=
    scanCells_rowChars ((legible_scanCells line.toList).of_initial hkept)
  have hlength : kept.length ≤ w :=
    (prefix_dropTrailingEmpty _).length_le.trans (List.length_take_le w _)
  rw [cellTexts, hscan, List.take_of_length_le hlength]

/-- Quotes are taken away, and put around a text that is empty: neither changes what is read. -/
example : cellTexts "\"a\"\"\" b\"c \"x y \" \"\" \"" 9 = ["a", "", "b\"c", "x y ", "", "\""] ∧
    spaced (["a", "", "b\"c", "x y ", "", "\""].map cellToken) = "a \"\" b\"c \"x y \" \"\" \"" :=
  by decide +kernel

end Flipbook.Script
