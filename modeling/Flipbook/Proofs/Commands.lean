import Mathlib
import Flipbook.Proofs.Planes

/-!
Written commands other than grids are read back, whatever reading them back is interleaved with: a
command takes its own lines and draws itself, and it reports nothing.
-/
namespace Flipbook.Script

open Text

variable {key text : String} {params rest : List String} {maxCells number line : Int}
  {e : Entry Meaning} {bounds : Option (Rect Binary64)} {b : BarGraph Binary64}
  {c : Command Binary64}

/-! ## Dispatch -/

theorem perform_of_words {word : String} (hk : IsKeyword key) (hget : vocabulary.get? key = some e)
    (hwords : words text = word :: params) (hkey : beforeParen word = key) :
    perform maxCells text number rest line =
      e.meaning maxCells ⟨key, text, number, params⟩ rest line := by
  rw [perform, resolve_of_words hwords hkey hk.1.1 hget]

/-- A written header with bounds is dispatched to the command of its keyword. -/
theorem perform_headed (hk : IsKeyword key) (hget : vocabulary.get? key = some e)
    (hb : BoundsFormed bounds) (params : List String) (maxCells number : Int)
    (rest : List String) (line : Int) :
    ∃ ps, perform maxCells (trim (spaced (headed key bounds :: params))) number rest line =
      e.meaning maxCells ⟨key, trim (spaced (headed key bounds :: params)), number, ps⟩ rest
        line := by
  obtain ⟨word, more, hwords, hkey⟩ := words_headed hk hb params
  exact ⟨more, perform_of_words hk hget hwords hkey⟩

/-- A written command line without bounds is dispatched with the words after the keyword. -/
theorem perform_keyword (hk : IsKeyword key) (hget : vocabulary.get? key = some e)
    (params : List String) :
    perform maxCells (trim (spaced (key :: params))) number rest line =
      e.meaning maxCells ⟨key, trim (spaced (key :: params)), number, params.flatMap words⟩ rest
        line := by
  refine perform_of_words hk hget ?_ (beforeParen_keyword hk)
  rw [words_trim, words_spaced, List.flatMap_cons, words_token hk.1, List.singleton_append]

/-! ## Canvases, texts and bar graphs -/

theorem readCanvas_written {c : Canvas Binary64} (h : SizeFormed c.height) (w : SizeFormed c.width)
    {call : Call} (hparams : call.params = [numbers [c.height, c.width]].flatMap words) :
    readCanvas call = { action := .draw ((Command.canvas c).map Binary64.foldZero) } := by
  have hwords : call.params = [Numeral.scriptText c.height, Numeral.scriptText c.width] := by
    rw [hparams, List.flatMap_singleton, words_numbers (by simp [h.1, w.1])]
    rfl
  unfold readCanvas
  rw [hwords]
  simp only [readPositive?_scriptText h, readPositive?_scriptText w]
  rfl

/-- The text behind a keyword is read back without its margins. -/
theorem textAfter_written (hk : IsKeyword key) (h : trim text = text) :
    textAfter (trim (spaced [key, text])) key = text := by
  obtain ⟨rest, hchars, -, -, htrim⟩ := toList_header hk.1.1
    (fun c hc => hk.1.2 c (List.mem_of_head? hc)) (fun c hc => hk.1.2 c (List.mem_of_getLast? hc))
    [text]
  have hne : key.toList ≠ [] := by simpa using hk.1.1
  have hfind : find? key.toList (key.toList ++ rest) = some 0 := by
    obtain ⟨d, ds, hd⟩ := List.exists_cons_of_ne_nil hne
    have hprefix : key.toList.isPrefixOf (d :: (ds ++ rest)) = true := by
      rw [List.isPrefixOf_iff_prefix, hd]
      exact List.prefix_append (d :: ds) rest
    conv_lhs => arg 2; rw [hd, List.cons_append]
    rw [find?, if_pos hprefix]
  have hspaced : spaced [text] = text := String.intercalate_singleton
  unfold textAfter
  rw [hchars, hfind]
  dsimp only
  rw [Nat.zero_add, ← String.length_toList, List.drop_left, htrim, hspaced]
  exact h

theorem readBars_written (hf : BarGraphFormed b) (line : Int) :
    readBars (trimEnd (spaced [toString b.bars.length,
        spaced (b.bars.map fun bar => spaced [bar.label, Numeral.scriptText bar.value])])) line =
      (b.bars.map (·.map Binary64.foldZero), []) := by
  have hbars : words (spaced (b.bars.map fun bar =>
      spaced [bar.label, Numeral.scriptText bar.value])) = b.bars.flatMap barTexts := by
    refine words_spaced_map fun bar hbar => ?_
    obtain ⟨hlabel, hvalue⟩ := hf.bars bar hbar
    refine words_spaced_tokens ?_
    simp only [List.mem_cons, List.not_mem_nil, or_false, forall_eq_or_imp, forall_eq]
    exact ⟨hlabel, (Numeral.readFinite?_scriptText hvalue).1.isToken⟩
  have hcount := Numeral.words_toString_natCast b.bars.length
  have hread := Numeral.readInt?_toString_natCast hf.isCount
  have hpairs := readPairs_written (fun bar hbar => (hf.bars bar hbar).2) line b.bars.length 0
  unfold readBars
  rw [words_trimEnd, words_spaced, List.flatMap_cons, List.flatMap_singleton, hcount, hbars]
  simp only [List.singleton_append, hread, Int.toNat_natCast, hpairs]

theorem isScript_dataLine (n : Nat) (row : String) :
    isScript (trimEnd (spaced [toString n, row])) = false := by
  rw [isScript_eq_false_iff, words_trimEnd, words_spaced, List.flatMap_cons,
    Numeral.words_toString_natCast]
  exact not_openScript_toString n _

theorem readBarGraph_written (hf : BarGraphFormed b) {call : Call}
    (hparams : call.params = [b.fillColor, numbers [b.low, b.high]].flatMap words)
    (rest : List String) (line : Int) :
    readBarGraph call (bodyLines (.barGraph b) ++ rest) line =
      { taken := bodyLines (.barGraph b)
        action := .draw ((Command.barGraph b).map Binary64.foldZero) } := by
  have hbody : bodyLines (.barGraph b) = [trimEnd (spaced [toString b.bars.length,
      spaced (b.bars.map fun bar => spaced [bar.label, Numeral.scriptText bar.value])])] := rfl
  have hwords : call.params =
      [b.fillColor, Numeral.scriptText b.low, Numeral.scriptText b.high] := by
    rw [hparams, List.flatMap_cons, List.flatMap_singleton, words_token hf.fillColor,
      words_numbers (by simp [hf.low, hf.high])]
    rfl
  have hheader : readBarGraphHeader call.params =
      .ok ⟨b.fillColor, b.low.foldZero, b.high.foldZero⟩ := by
    unfold readBarGraphHeader
    rw [hwords]
    simp only [(Numeral.readFinite?_scriptText hf.low).2, (Numeral.readFinite?_scriptText hf.high).2]
    rw [if_neg fun h => hf.order (Binary64.foldZero_le_iff.mp h)]
  unfold readBarGraph
  rw [hheader, hbody]
  simp only [List.singleton_append, List.head?_cons, Option.filter_some, isScript_dataLine,
    Bool.not_false, if_true, readBars_written hf]
  rfl

/-! ## All commands but grids -/

/-- A written command takes its own lines, draws itself and reports nothing. -/
theorem perform_written (hf : Formed maxCells c) (hc : Counts c) (hg : c.kind ≠ .grid)
    (hstop : BlockReader.AtStop rest) (number line : Int) :
    perform maxCells (headerText c) number (bodyLines c ++ rest) line =
      { taken := bodyLines c, action := .draw (c.map Binary64.foldZero) } := by
  cases c with
  | grid g => exact absurd rfl hg
  | canvas c =>
    have htext : headerText (.canvas c) =
        trim (spaced (Kind.canvas.keyword :: [numbers [c.height, c.width]])) := rfl
    rw [htext, perform_keyword (isKeyword .canvas) rfl]
    dsimp only
    exact readCanvas_written hf.1 hf.2 rfl
  | plane p =>
    obtain ⟨ps, hperform⟩ := perform_headed (isKeyword .plane) rfl hf.bounds
      [numbers [p.height, p.width]] maxCells number (bodyLines (.plane p) ++ rest) line
    have hread := readPlane_written hf hc ⟨Kind.plane.keyword, headerText (.plane p), number, ps⟩
      rfl hstop line
    have htext : headerText (.plane p) =
        trim (spaced (headed Kind.plane.keyword p.bounds :: [numbers [p.height, p.width]])) := rfl
    rw [htext, hperform, ← htext]
    dsimp only
    exact hread
  | barGraph b =>
    have htext : headerText (.barGraph b) = trim (spaced
        (Kind.barGraph.keyword :: [b.fillColor, numbers [b.low, b.high]])) := rfl
    rw [htext, perform_keyword (isKeyword .barGraph) rfl]
    dsimp only
    exact readBarGraph_written hf rfl rest line
  | textArea text =>
    have htext : headerText (.textArea text) = trim (spaced (Kind.textArea.keyword :: [text])) := rfl
    rw [htext, perform_keyword (isKeyword .textArea) rfl]
    dsimp only
    rw [textAfter_written (isKeyword .textArea) hf.1]
    rfl
  | score text =>
    have htext : headerText (.score text) = trim (spaced (Kind.score.keyword :: [text])) := rfl
    rw [htext, perform_keyword (isKeyword .score) rfl]
    dsimp only
    rw [textAfter_written (isKeyword .score) hf.1]
    rfl
  | debug => exact perform_keyword (isKeyword .debug) rfl _

/-- The line that commits a frame. -/
theorem perform_commit (maxCells number : Int) (rest : List String) (line : Int) :
    perform maxCells (trim (spaced ["COMMIT"])) number rest line = { action := .commit } := by
  have hk : IsKeyword "COMMIT" := by decide
  exact perform_keyword hk rfl []

end Flipbook.Script
