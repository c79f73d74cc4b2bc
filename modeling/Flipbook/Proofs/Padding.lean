import Mathlib
import Flipbook.Proofs.CellRows
import Flipbook.Proofs.Dispatch
import Flipbook.Proofs.Lists
import Flipbook.Proofs.Passages
import Flipbook.Proofs.Turns

/-!
Padded lines. Blanks around the lines of a script do not matter: every line is read as if it were
trimmed. So scripts whose lines differ in outer blanks only show the same frames, but for the texts
that these keep of their lines.
-/
namespace Flipbook

variable {α ε : Type}

/-- A frame without the text of its lines. -/
def Frame.textless (f : Frame α ε) : Frame α ε := { f with rawText := "" }

namespace Script

open Text

variable {κ : Type} {cs a b : List Char} {l l' text : String} {ls ls' : List String}

/-! ## Trimmed lines -/

/-- Whether a line is another one between blanks, none of them a line feed. -/
def Padded (l l' : String) : Prop :=
  ∃ front back : List Char, l'.toList = front ++ l.toList ++ back ∧
    ∀ c ∈ front ++ back, isBlank c = true ∧ c ≠ '\n'

/-- What trimming takes away are blanks at both ends. -/
theorem exists_margins (cs : List Char) : ∃ front back, cs = front ++ trimBoth isBlank cs ++ back ∧
    ∀ c ∈ front ++ back, isBlank c = true := by
  obtain ⟨back, hback, hblank⟩ := exists_trimRight_append isBlank (trimLeft isBlank cs)
  refine ⟨cs.takeWhile isBlank, back, ?_, fun c hc => ?_⟩
  · rw [List.append_assoc, trimBoth, ← hback]
    exact List.takeWhile_append_dropWhile.symm
  · rcases List.mem_append.mp hc with hc | hc
    · exact List.mem_takeWhile_imp hc
    · exact hblank c hc

theorem trimBoth_between (ha : ∀ c ∈ a, isBlank c = true) (hb : ∀ c ∈ b, isBlank c = true) :
    trimBoth isBlank (a ++ cs ++ b) = trimBoth isBlank cs := by
  rw [List.append_assoc, trimBoth, trimLeft_append_of_all ha, ← trimLeft_trimRight,
    trimRight_append_of_all hb, trimLeft_trimRight, trimBoth]

theorem Padded.trim_eq (h : Padded l l') : trim l' = trim l := by
  obtain ⟨front, back, hchars, hblank⟩ := h
  rw [trim, hchars, trimBoth_between, trim]
  · exact fun c hc => (hblank c (List.mem_append_left back hc)).1
  · exact fun c hc => (hblank c (List.mem_append_right front hc)).1

theorem Padded.not_mem (h : Padded l l') (hl : '\n' ∉ l.toList) : '\n' ∉ l'.toList := by
  obtain ⟨front, back, hchars, hblank⟩ := h
  rw [hchars]
  simp only [List.mem_append, not_or]
  refine ⟨⟨fun hc => ?_, hl⟩, fun hc => ?_⟩
  · exact (hblank '\n' (List.mem_append_left back hc)).2 rfl
  · exact (hblank '\n' (List.mem_append_right front hc)).2 rfl

@[simp] theorem trim_trim (s : String) : trim (trim s) = trim s := by
  rw [trim, trim, String.toList_ofList, trimBoth_trimBoth]

@[simp] theorem route_trim (s : String) : route (trim s) = route s := by
  rw [route, route, trim, String.toList_ofList, trimBoth_trimBoth]

@[simp] theorem isScript_trim (s : String) : isScript (trim s) = isScript s := by
  rw [isScript, isScript, route_trim]

@[simp] theorem isBlankLine_trim (s : String) : isBlankLine (trim s) = isBlankLine s := by
  obtain ⟨front, back, hchars, hblank⟩ := exists_margins s.toList
  have hmargins : (front ++ back).all isBlank = true := List.all_eq_true.mpr hblank
  rw [List.all_append, Bool.and_eq_true] at hmargins
  rw [isBlankLine, isBlankLine, trim, String.toList_ofList]
  conv_rhs => rw [hchars]
  rw [List.all_append, List.all_append, hmargins.1, hmargins.2, Bool.true_and, Bool.and_true]

/-! ## Rows -/

theorem scanCells_append_left (ha : ∀ c ∈ a, isBlank c = true) (cs : List Char) :
    scanCells (a ++ cs) = scanCells cs := by
  induction a with
  | nil => rfl
  | cons c a ih =>
    obtain ⟨hc, ha⟩ := List.forall_mem_cons.mp ha
    rw [List.cons_append, scanCells_blank hc, ih ha]

/-- Blanks behind a row change none of its texts: no blank is a quote. -/
theorem scanCells_append_right (hb : ∀ c ∈ b, isBlank c = true) (cs : List Char) :
    scanCells (cs ++ b) = scanCells cs := by
  have hquote : b.any isQuote = false := by
    rw [List.any_eq_false]
    intro c hc hq
    have hblank := hb c hc
    rw [beq_iff_eq.mp hq] at hblank
    revert hblank
    decide
  have hnone : b.takeWhile (!isBlank ·) = [] := by
    cases b with
    | nil => rfl
    | cons c b => simp [hb c List.mem_cons_self]
  fun_induction scanCells cs with
  | case1 =>
    have hleft := scanCells_append_left hb []
    rwa [List.append_nil, scanCells] at hleft
  | case2 c cs hc ih => rw [List.cons_append, scanCells_blank hc, ih]
  | case3 c cs hc hq ih =>
    -- the quote that ends the text stands in `cs`
    have hany := hq
    rw [Bool.and_eq_true] at hany
    have hne : cs.dropWhile (!isQuote ·) ≠ [] := by
      intro hnil
      obtain ⟨d, hd, hdq⟩ := List.any_eq_true.mp hany.2
      simpa [hdq] using List.dropWhile_eq_nil_iff.mp hnil d hd
    obtain ⟨htake, hdrop⟩ := span_append (b := b) (.inl hne)
    have hq' : (isQuote c && (cs ++ b).any isQuote) = true := by
      rw [List.any_append, hquote, Bool.or_false, hq]
    rw [List.cons_append, scanCells, if_neg hc, if_pos hq', htake, hdrop,
      List.tail_append_of_ne_nil hne, ih]
  | case4 c cs hc hq ih =>
    obtain ⟨htake, hdrop⟩ := span_append (a := cs) (.inr hnone)
    have hq' : ¬ (isQuote c && (cs ++ b).any isQuote) = true := by
      rwa [List.any_append, hquote, Bool.or_false]
    rw [List.cons_append, scanCells, if_neg hc, if_neg hq', htake, hdrop, ih]

@[simp] theorem cellTexts_trim (s : String) (limit : Nat) :
    cellTexts (trim s) limit = cellTexts s limit := by
  obtain ⟨front, back, hchars, hblank⟩ := exists_margins s.toList
  rw [cellTexts, cellTexts, trim, String.toList_ofList]
  conv_rhs => rw [hchars, List.append_assoc]
  rw [scanCells_append_left fun c hc => hblank c (List.mem_append_left back hc),
    scanCells_append_right fun c hc => hblank c (List.mem_append_right front hc)]

theorem gridRow_trim (w : Nat) (g : Grid Binary64) (b : GridBlock) (i : Nat) (s : String)
    (line : Int) : gridRow w g b i (trim s) line = gridRow w g b i s line := by
  cases b <;> simp only [gridRow, readFlags, words_trim, trim_trim, cellTexts_trim]
  · simp [trim, trimBoth_trimBoth]
  · simp [trim, trimBoth_trimBoth]

theorem planeRow_trim (p : Plane Binary64) (b : PlaneBlock) (i : Nat) (s : String) (line : Int) :
    planeRow p b i (trim s) line = planeRow p b i s line := by
  cases b <;> simp only [planeRow, words_trim, trim_trim]

theorem readBars_trim (s : String) (line : Int) : readBars (trim s) line = readBars s line := by
  simp only [readBars, words_trim, trim_trim]

/-! ## Readers -/

/-- An event whose row is trimmed. -/
def BlockEvent.trimmed : BlockEvent κ → BlockEvent κ
  | .row key i text line => .row key i (trim text) line
  | .problem p => .problem p

theorem replay_trimmed {β : Type} {row : β → κ → Nat → String → Int → β × List Report}
    (h : ∀ x key i text line, row x key i (trim text) line = row x key i text line) (x : β)
    (evs : List (BlockEvent κ)) : replay row x (evs.map (·.trimmed)) = replay row x evs := by
  rw [replay, replay, List.foldl_map]
  refine List.foldl_ext _ _ _ fun y e _ => ?_
  cases e with
  | row key i text line => simp only [BlockEvent.trimmed, h]
  | problem p => rfl

namespace BlockReader

variable {r t : BlockReader κ}

/-- A reader of trimmed lines. -/
def trimmed (r : BlockReader κ) : BlockReader κ :=
  { r with
    rest := r.rest.map trim
    taken := r.taken.map trim
    events := r.events.map (·.trimmed) }

theorem take_trimmed (r : BlockReader κ) (n : Nat) : r.trimmed.take n = (r.take n).trimmed := by
  simp [take, trimmed, List.map_drop, List.map_take]

theorem openBlock_trimmed (r : BlockReader κ) (b : BlockSpec κ) :
    r.trimmed.openBlock b = (r.openBlock b).trimmed := by
  have htake := take_trimmed r 1
  unfold openBlock
  rw [htake]
  cases b.rows <;> rfl

theorem atStop_trimmed (h : AtStop r.rest) : AtStop r.trimmed.rest := by
  intro l hl
  rw [trimmed, List.head?_map, Option.mem_def, Option.map_eq_some_iff] at hl
  obtain ⟨l, hl, rfl⟩ := hl
  rw [isScript_trim]
  exact h l hl

/-- A reader turns in the same way on trimmed lines. -/
theorem Turn.trimmed (ht : Turn r t) : Turn r.trimmed t.trimmed := by
  have hrest {l : String} {more : List String} (h : r.rest = l :: more) :
      r.trimmed.rest = trim l :: more.map trim := by rw [BlockReader.trimmed, h, List.map_cons]
  cases ht with
  | blank l more h hl hb =>
    rw [← take_trimmed]
    exact .blank (trim l) (more.map trim) h (hrest hl) (by rwa [isBlankLine_trim])
  | block b l more h hl hb hs =>
    rw [← openBlock_trimmed]
    exact .block b (trim l) (more.map trim) h (hrest hl) (by rwa [isBlankLine_trim])
      (by rwa [words_trim])
  | last h hl =>
    refine Turn.last (r := r.trimmed) h fun line hline => ?_
    rw [BlockReader.trimmed, List.head?_map, Option.mem_def, Option.map_eq_some_iff] at hline
    obtain ⟨l, hhead, rfl⟩ := hline
    rw [isBlankLine_trim, words_trim]
    exact hl l hhead
  | noCount b h ha hl =>
    convert Turn.noCount (r := r.trimmed) b h ha (atStop_trimmed hl) using 1
    simp [BlockReader.trimmed, report, BlockEvent.trimmed]
  | count b l more n h ha hl hplain hn =>
    have hturn := Turn.count (r := r.trimmed) b (trim l) (more.map trim) n h ha (hrest hl)
      (by rwa [isScript_trim]) (by rwa [words_trim])
    rwa [take_trimmed] at hturn
  | badCount b l more h ha hl hplain hn =>
    convert Turn.badCount (r := r.trimmed) b (trim l) (more.map trim) h ha (hrest hl)
      (by rwa [isScript_trim]) (by rwa [words_trim]) using 1
    rw [take_trimmed, trim_trim]
    simp [BlockReader.trimmed, report, BlockEvent.trimmed, take]
  | noRow b h ha hl =>
    convert Turn.noRow (r := r.trimmed) b h ha (atStop_trimmed hl) using 1
    simp [BlockReader.trimmed, endRows, report, BlockEvent.trimmed]
  | row b l more h ha hl hplain =>
    convert Turn.row (r := r.trimmed) b (trim l) (more.map trim) h ha (hrest hl)
      (by rwa [isScript_trim]) using 1
    rw [take_trimmed]
    simp [BlockReader.trimmed, BlockEvent.trimmed, take]
  | lost h ha => exact Turn.lost (r := r.trimmed) h ha

theorem run_trimmed (r : BlockReader κ) : r.trimmed.run = r.run.trimmed := by
  induction r using turn_induction with
  | hdone r hr =>
    rw [run_of_done hr]
    exact run_of_done hr
  | hturn r t ht ih => rw [ht.run_eq, ht.trimmed.run_eq, ih]

/-- A reader that starts on trimmed lines. -/
theorem run_map_trim (specs : List (BlockSpec κ)) (rest : List String) (line : Int) :
    ({ specs, rest := rest.map trim, line } : BlockReader κ).run =
      ({ specs, rest, line } : BlockReader κ).run.trimmed := by
  rw [← run_trimmed]
  simp [trimmed]

end BlockReader

/-! ## Commands and statements -/

/-- An outcome whose lines are trimmed. -/
def Outcome.trimmed (o : Outcome) : Outcome := { o with taken := o.taken.map trim }

/-- A statement whose lines are trimmed. -/
def Statement.trimmed (st : Statement) : Statement :=
  { st with source := trim st.source, outcome := st.outcome.trimmed }

theorem readCanvas_trimmed (call : Call) : (readCanvas call).trimmed = readCanvas call := by
  unfold readCanvas
  split
  · split <;> rfl
  · rfl

theorem readBarGraph_trimmed (call : Call) (rest : List String) (line : Int) :
    readBarGraph call (rest.map trim) line = (readBarGraph call rest line).trimmed := by
  unfold readBarGraph
  cases readBarGraphHeader call.params with
  | error fault => rfl
  | ok h =>
    cases rest with
    | nil => rfl
    | cons l rest =>
      cases hl : isScript l with
      | true => simp [hl, Outcome.trimmed, Option.filter_some]
      | false => simp [hl, Outcome.trimmed, Option.filter_some, readBars_trim]

theorem readGrid_trimmed (maxCells : Int) (call : Call) (rest : List String) (line : Int) :
    readGrid maxCells call (rest.map trim) line = (readGrid maxCells call rest line).trimmed := by
  unfold readGrid
  cases readGridHeader maxCells call.text with
  | error fault => rfl
  | ok h =>
    have hreplay := replay_trimmed (gridRow_trim h.width) h.blank
      ({ specs := h.specs, rest, line } : BlockReader GridBlock).run.events.toList
    simp only [BlockReader.run_map_trim, BlockReader.trimmed, Array.toList_map, hreplay,
      Outcome.trimmed]

theorem readPlane_trimmed (call : Call) (rest : List String) (line : Int) :
    readPlane call (rest.map trim) line = (readPlane call rest line).trimmed := by
  unfold readPlane
  cases readPlaneHeader call.text with
  | error fault => rfl
  | ok h =>
    have hreplay := replay_trimmed planeRow_trim h.blank
      ({ specs := planeSpecs, rest, line } : BlockReader PlaneBlock).run.events.toList
    simp only [BlockReader.run_map_trim, BlockReader.trimmed, Array.toList_map, hreplay,
      Outcome.trimmed]

/-- A command yields the same before trimmed lines, and takes as many of them. -/
theorem perform_trimmed (maxCells : Int) (text : String) (number : Int) (rest : List String)
    (line : Int) : perform maxCells text number (rest.map trim) line =
      (perform maxCells text number rest line).trimmed := by
  unfold perform
  cases h : vocabulary.resolve text number with
  | blank => rfl
  | unknown word => rfl
  | call e call =>
    have hmem := (resolve_call h).1
    simp only [vocabulary, List.mem_cons, List.not_mem_nil, or_false] at hmem
    rcases hmem with rfl | rfl | rfl | rfl | rfl | rfl | rfl | rfl
    · exact readBarGraph_trimmed call rest line
    · rfl
    · rfl
    · rfl
    · rfl
    · exact (readCanvas_trimmed call).symm
    · exact readGrid_trimmed maxCells call rest line
    · exact readPlane_trimmed call rest line

theorem statementsFrom_trimmed (maxCells : Int) (line : Nat) (ls : List String) :
    statementsFrom maxCells line (ls.map trim) =
      (statementsFrom maxCells line ls).map (·.trimmed) := by
  fun_induction statementsFrom maxCells line ls with
  | case1 line => rw [List.map_nil, statementsFrom, List.map_nil]
  | case2 line source rest h ih =>
    have hnone : statementAt? maxCells (trim source) line (rest.map trim) = none := by
      simpa [statementAt?] using h
    rw [List.map_cons, statementsFrom, hnone]
    exact ih
  | case3 line source rest s h n ih =>
    have hsome : statementAt? maxCells (trim source) line (rest.map trim) = some s.trimmed := by
      obtain ⟨r, hr, rfl⟩ := Option.map_eq_some_iff.mp h
      rw [statementAt?, route_trim, hr, Option.map_some, perform_trimmed]
      rfl
    have hn : s.trimmed.outcome.taken.length = n := List.length_map _
    rw [List.map_cons, statementsFrom, hsome]
    dsimp only
    rw [hn, ← List.map_drop, ih, List.map_cons]

/-! ## Frames -/

theorem drawn_trimmed (sts : List Statement) : drawn (sts.map (·.trimmed)) = drawn sts := by
  rw [drawn, List.filterMap_map]
  rfl

theorem reported_trimmed (sts : List Statement) :
    reported (sts.map (·.trimmed)) = reported sts := by
  rw [reported, List.flatMap_map]
  rfl

theorem closes_trimmed (pending : List Statement) (st : Statement) :
    closes (pending.map (·.trimmed)) st.trimmed = closes pending st := by
  rw [closes, drawn_trimmed]
  rfl

theorem textless_trimmed (cfg : Config Binary64) (p : List Statement) :
    (passageFrame cfg (p.map (·.trimmed))).textless = (passageFrame cfg p).textless := by
  rw [passageFrame, drawn_trimmed, reported_trimmed]
  rfl

theorem passagesFrom_trimmed (pending sts : List Statement) :
    passagesFrom (pending.map (·.trimmed)) (sts.map (·.trimmed)) =
      { groups := (passagesFrom pending sts).groups.map (·.map (·.trimmed))
        rest := (passagesFrom pending sts).rest.map (·.trimmed) } := by
  induction sts generalizing pending with
  | nil => rfl
  | cons st sts ih =>
    have hconcat : (pending ++ [st]).map (·.trimmed) = pending.map (·.trimmed) ++ [st.trimmed] :=
      List.map_append
    have hcloses := closes_trimmed pending st
    rw [List.map_cons]
    cases h : closes pending st with
    | true =>
      have hlater := ih []
      rw [List.map_nil] at hlater
      rw [passagesFrom_cons_of_closes (hcloses.trans h), passagesFrom_cons_of_closes h, hlater,
        List.map_cons, hconcat]
    | false =>
      rw [passagesFrom_cons_of_not_closes (hcloses.trans h), passagesFrom_cons_of_not_closes h,
        ← hconcat, ih]

theorem comeToNothing_trimmed (sts : List Statement) :
    comeToNothing (sts.map (·.trimmed)) = comeToNothing sts := by
  rw [comeToNothing, comeToNothing, drawn_trimmed, reported_trimmed]

theorem groups_trimmed (sts : List Statement) :
    (passages (sts.map (·.trimmed))).groups = (passages sts).groups.map (·.map (·.trimmed)) := by
  have hfrom := passagesFrom_trimmed [] sts
  rw [List.map_nil] at hfrom
  have hrest := comeToNothing_trimmed (passagesFrom [] sts).rest
  cases h : comeToNothing (passagesFrom [] sts).rest with
  | true =>
    rw [passages_of_nothing h, passages_of_nothing (by rw [hfrom]; exact hrest.trans h), hfrom]
  | false =>
    rw [passages_of_pending h, passages_of_pending (by rw [hfrom]; exact hrest.trans h), hfrom]
    simp

/-- The frames of trimmed statements differ from those of the statements in their texts only. -/
theorem textless_frames (cfg : Config Binary64) (text m : String) :
    ((parse cfg text).frames m).map Frame.textless =
      (passages ((statementsOf cfg.maxGridCells text m).map (·.trimmed))).groups.map
        fun p => (passageFrame cfg p).textless := by
  rw [frames_eq, groups_trimmed, List.map_map, List.map_map]
  exact List.map_congr_left fun p _ => (textless_trimmed cfg p).symm

theorem statements_trimmed (maxCells : Int) (text : String) :
    (statements maxCells text).map (·.trimmed) =
      statementsFrom maxCells 1 ((lines text).map trim) :=
  (statementsFrom_trimmed maxCells 1 (lines text)).symm

theorem filter_trimmed (sts : List Statement) (m : String) :
    (sts.filter (·.routed.mode == m)).map (·.trimmed) =
      (sts.map (·.trimmed)).filter (·.routed.mode == m) := by
  rw [List.filter_map]
  rfl

/-! ## Padded scripts -/

theorem lines_ne_empty_line (text : String) : lines text ≠ [""] := by
  unfold lines splitAt
  split
  next => simp
  next hne =>
    rw [String.isEmpty_iff] at hne
    obtain ⟨c, cs, hchars⟩ := List.exists_cons_of_ne_nil (mt String.toList_eq_nil_iff.mp hne)
    rw [hchars, cut, List.foldr_cons, cutStep]
    split <;> simp

theorem not_mem_padded (h : List.Forall₂ Padded ls ls') (hls : ∀ l ∈ ls, '\n' ∉ l.toList) :
    ∀ l ∈ ls', '\n' ∉ l.toList := by
  induction h with
  | nil => exact hls
  | cons hl _ ih =>
    obtain ⟨hfirst, hlater⟩ := List.forall_mem_cons.mp hls
    exact List.forall_mem_cons.mpr ⟨hl.not_mem hfirst, ih hlater⟩

/-- Padded lines, joined to a script, are its lines. -/
theorem lines_padded (h : List.Forall₂ Padded (lines text) ls) :
    lines ("\n".intercalate ls) = ls := by
  refine lines_intercalate (fun hone => ?_) (not_mem_padded h fun l => not_mem_of_mem_lines)
  rw [hone, List.forall₂_cons_right_iff] at h
  obtain ⟨l, rest, ⟨front, back, hchars, -⟩, hnil, hlines⟩ := h
  have hl : l = "" := by
    have hempty : front ++ l.toList ++ back = [] := hchars.symm
    rw [List.append_eq_nil_iff, List.append_eq_nil_iff, String.toList_eq_nil_iff] at hempty
    exact hempty.1.2
  rw [List.forall₂_nil_right_iff.mp hnil, hl] at hlines
  exact lines_ne_empty_line text hlines

theorem map_trim_padded (h : List.Forall₂ Padded ls ls') : ls'.map trim = ls.map trim := by
  induction h with
  | nil => rfl
  | cons hl _ ih => rw [List.map_cons, List.map_cons, hl.trim_eq, ih]

/-- Blanks around the lines of a script, such as carriage returns at their ends, do not matter. With
any others in their place the modes are the same and so are their frames, but for the texts. -/
theorem padding_ignored (cfg : Config Binary64) (h : List.Forall₂ Padded (lines text) ls) :
    (parse cfg ("\n".intercalate ls)).map Prod.fst = (parse cfg text).map Prod.fst ∧
      ∀ m, ((parse cfg ("\n".intercalate ls)).frames m).map Frame.textless =
        ((parse cfg text).frames m).map Frame.textless := by
  have hsts : (statements cfg.maxGridCells ("\n".intercalate ls)).map (·.trimmed) =
      (statements cfg.maxGridCells text).map (·.trimmed) := by
    rw [statements_trimmed, statements_trimmed, lines_padded h, map_trim_padded h]
  constructor
  · have hmodes := congrArg (List.map (·.routed.mode)) hsts
    rw [List.map_map, List.map_map] at hmodes
    rw [modes_parse, modes_parse]
    exact congrArg (fun ms => (defaultMode :: ms).eraseDups) hmodes
  · intro m
    rw [textless_frames, textless_frames, statementsOf, statementsOf, filter_trimmed,
      filter_trimmed, hsts]

/-- A line that ends in a carriage return. -/
theorem padded_return (l : String) : Padded l (l ++ "\r") := by
  refine ⟨[], ['\r'], by simp, fun c hc => ?_⟩
  obtain rfl := List.mem_singleton.mp hc
  exact ⟨rfl, by decide⟩

/-- A grid whose rows hold blanks and quotes. -/
def blankedText : String :=
  "$v GRID 1 2 red red red\nCELL_TEXT\n\"a b\" \"\nWALL_VERTICAL\nY N\nLINES\n$v COMMIT"

theorem padding_ignored_returns :
    List.Forall₂ Padded (lines blankedText) ((lines blankedText).map (· ++ "\r")) ∧
      ((parse {} ("\n".intercalate ((lines blankedText).map (· ++ "\r")))).frames
          defaultMode).map Frame.textless =
        ((parse {} blankedText).frames defaultMode).map Frame.textless := by
  have hpadded : List.Forall₂ Padded (lines blankedText)
      ((lines blankedText).map (· ++ "\r")) := by
    rw [List.forall₂_map_right_iff, List.forall₂_same]
    exact fun l _ => padded_return l
  exact ⟨hpadded, (padding_ignored {} hpadded).2 defaultMode⟩

end Script

end Flipbook
