import Mathlib
import Flipbook.Proofs.Drawn
import Flipbook.Proofs.Passages
import Flipbook.Proofs.Extracts

/-!
Messages. A message is made of fixed words, of numbers and of texts that it quotes. What is quoted
stands on one line of the script, so the message of every diagnostic is one line.
-/
namespace Flipbook

/-- The texts that a fault quotes. -/
def HeaderFault.quoted : HeaderFault → List String
  | unclosedBounds keyword => [keyword]
  | badBounds keyword inner => [keyword, inner]
  | gridSizeText height width | planeSize height width => [height, width]
  | barGraphRangeText low high | barGraphRangeOrder low high => [low, high]
  | canvasSize sizes => [sizes]
  | gridArity _ | gridSizeSign _ _ | gridTooLarge _ _ _ | planeArity _ | barGraphArity _
  | canvasArity _ => []

/-- The texts that a problem quotes. -/
def Problem.quoted : Problem → List String
  | unknownCommand word => [word]
  | header fault => fault.quoted
  | countMissing block | rowsMissing block _ _ | wallFlags block _ _ => [block]
  | countInvalid block line | groupCount block line => [block, line]
  | colorPositionsEntry line | polylineEntry line | barDataCount line => [line]
  | barValue value label => [value, label]
  | barDataMissing | barDataEnded _ _ => []
  | other text => [text]

end Flipbook

namespace Flipbook.Script

open Text

variable {κ β : Type} {s t text key m : String} {n : Nat} {fault : HeaderFault} {problem : Problem}
  {p : Report} {r u : BlockReader κ} {maxCells number line : Int} {rest params : List String}
  {call : Call} {cfg : Config Binary64}

/-! ## Messages -/

theorem oneLine_natural (n : Nat) : OneLine (toString n) := by
  rw [← Numeral.toString_natCast]
  exact oneLine_numeral n

/-- A text of given characters: the literals are such texts. -/
theorem oneLine_ofList {cs : List Char} (h : '\n' ∉ cs) : OneLine (String.ofList cs) := by
  rwa [OneLine, String.toList_ofList]

theorem toString_text (s : String) : toString s = s := rfl

theorem oneLine_faultMessage (h : ∀ s ∈ fault.quoted, OneLine s) : OneLine fault.message := by
  unfold HeaderFault.quoted at h
  unfold HeaderFault.message
  cases fault <;>
    simp only [List.forall_mem_cons, toString_text, oneLine_append, oneLine_natural,
      oneLine_numeral, and_true] at h ⊢ <;>
    and_intros <;> first | simp only [h] | exact oneLine_ofList (by decide)

/-- The message of a problem is one line if all that it quotes is. -/
theorem oneLine_problemMessage (h : ∀ s ∈ problem.quoted, OneLine s) :
    OneLine problem.message := by
  unfold Problem.quoted at h
  unfold Problem.message
  cases problem with
  | header fault => exact oneLine_faultMessage h
  | _ =>
    simp only [List.forall_mem_cons, toString_text, oneLine_append, oneLine_natural,
      oneLine_numeral, and_true] at h ⊢
    and_intros <;> first | simp only [h] | exact oneLine_ofList (by decide)

/-- A report all of whose quoted texts are single lines. -/
def QuotesLines (p : Report) : Prop := ∀ s ∈ p.problem.quoted, OneLine s

theorem oneLine_report (h : QuotesLines p) : OneLine p.message := by
  have hproblem := oneLine_problemMessage h
  unfold Report.message
  simp only [toString_text, oneLine_append, oneLine_numeral, hproblem, and_true]
  exact ⟨oneLine_ofList (by decide), oneLine_ofList (by decide)⟩

/-! ## Parts of lines -/

theorem oneLine_word (h : t ∈ words s) : OneLine t := oneLine_token (isToken_of_mem_words h).1

theorem oneLine_trim (h : OneLine s) : OneLine (trim s) := by
  intro hmem
  rw [trim, String.toList_ofList] at hmem
  exact h (mem_of_mem_trimBoth hmem)

theorem oneLine_keyword (k : Kind) : OneLine k.keyword := oneLine_token (isKeyword k).1

/-! ## Blocks -/

/-- A block event whose texts are single lines. -/
def BlockEvent.OnLines : BlockEvent κ → Prop
  | .row _ _ text _ => OneLine text
  | .problem p => QuotesLines p

namespace BlockReader

/-- A reader whose texts are single lines: the names of its blocks, the lines to come and those of
the events. -/
structure OnLines (r : BlockReader κ) : Prop where
  rest : ∀ l ∈ r.rest, OneLine l
  specs : ∀ b ∈ r.specs, OneLine b.name
  active : ∀ b ∈ r.active, OneLine b.name
  events : ∀ e ∈ r.events.toList, e.OnLines

theorem Turn.onLines (ht : Turn r u) (h : r.OnLines) : u.OnLines := by
  obtain ⟨hrest, hspecs, hactive, hevents⟩ := h
  have hlater : ∀ l ∈ r.rest.drop 1, OneLine l := fun l hl => hrest l (List.mem_of_mem_drop hl)
  have hnext {line : String} {more : List String} (hl : r.rest = line :: more) : OneLine line :=
    hrest line (by simp [hl])
  cases ht with
  | blank line more hphase hl hb => exact ⟨hlater, hspecs, hactive, hevents⟩
  | block b line more hphase hl hb hs =>
    obtain ⟨name, -, hname⟩ := Option.bind_eq_some_iff.mp hs
    have hb := hspecs b (mem_specs_of_spec? hname).1
    unfold openBlock
    cases b.rows <;> exact ⟨hlater, hspecs, by simpa [take, beginRows] using hb, hevents⟩
  | last hphase hl => exact ⟨hrest, hspecs, hactive, hevents⟩
  | noCount b hphase ha hstop =>
    have hquoted : QuotesLines ⟨r.nameLine, .countMissing b.name⟩ := by
      simpa [QuotesLines, Problem.quoted] using hactive b ha
    exact ⟨hrest, hspecs, hactive, forall_mem_push hevents hquoted⟩
  | count b line more n hphase ha hl hplain hn => exact ⟨hlater, hspecs, hactive, hevents⟩
  | badCount b line more hphase ha hl hplain hn =>
    have hquoted : QuotesLines ⟨r.line, .countInvalid b.name (trim line)⟩ := by
      simpa [QuotesLines, Problem.quoted] using ⟨hactive b ha, oneLine_trim (hnext hl)⟩
    exact ⟨hlater, hspecs, hactive, forall_mem_push hevents hquoted⟩
  | noRow b hphase ha hstop =>
    have hquoted : QuotesLines ⟨r.nameLine, .rowsMissing b.name r.expected r.consumed⟩ := by
      simpa [QuotesLines, Problem.quoted] using hactive b ha
    exact ⟨hrest, hspecs, hactive, forall_mem_push hevents hquoted⟩
  | row b line more hphase ha hl hplain =>
    exact ⟨hlater, hspecs, hactive, forall_mem_push hevents (hnext hl)⟩
  | lost hphase ha => exact ⟨hrest, hspecs, hactive, hevents⟩

theorem onLines_run {specs : List (BlockSpec κ)} (hspecs : ∀ b ∈ specs, OneLine b.name)
    (hrest : ∀ l ∈ rest, OneLine l) (line : Int) :
    ({ specs, rest, line } : BlockReader κ).run.OnLines :=
  run_keeps (fun _ _ ht => ht.onLines) ⟨hrest, hspecs, by simp, by simp⟩

end BlockReader

/-- What the rows of a reader report quotes single lines if each row does for itself. -/
theorem quotesLines_replay {row : β → κ → Nat → String → Int → β × List Report} {x : β}
    (hrow : ∀ y key i text line, OneLine text → ∀ p ∈ (row y key i text line).2, QuotesLines p)
    (hr : r.OnLines) : ∀ p ∈ (replay row x r.events.toList).2, QuotesLines p :=
  forall_mem_replay (fun y key i text line he => hrow y key i text line (hr.events _ he))
    fun _ he => hr.events _ he

theorem quotesLines_readFlags (b : GridBlock) (text : String) (expected : Nat) (line : Int) :
    ∀ p ∈ (readFlags b text expected line).2, QuotesLines p := by
  have hname : OneLine b.name := oneLine_token (isToken_gridName b)
  unfold readFlags
  dsimp only
  split
  · simpa [QuotesLines, Problem.quoted] using hname
  · simp

theorem quotesLines_gridRow (w : Nat) (g : Grid Binary64) (b : GridBlock) (i : Nat)
    (text : String) (line : Int) (htext : OneLine text) :
    ∀ p ∈ (gridRow w g b i text line).2, QuotesLines p := by
  have htrim := oneLine_trim htext
  have heffect := gridEffect_gridRow w g b i text line
  generalize gridRow w g b i text line = r at heffect ⊢
  cases heffect with
  | colors | places | texts | polyline | noPoint => simp
  | noPlaces | noPolyline => simpa [QuotesLines, Problem.quoted] using htrim
  | wallVertical flags reports hflags =>
    have hquotes := quotesLines_readFlags .wallVertical text (w + 1) line
    rwa [hflags] at hquotes
  | wallHorizontal flags reports hflags =>
    have hquotes := quotesLines_readFlags .wallHorizontal text w line
    rwa [hflags] at hquotes

theorem quotesLines_planeRow (p : Plane Binary64) (b : PlaneBlock) (i : Nat) (text : String)
    (line : Int) (htext : OneLine text) :
    ∀ q ∈ (planeRow p b i text line).2, QuotesLines q := by
  have heffect := planeEffect_planeRow p b i text line
  generalize planeRow p b i text line = r at heffect ⊢
  cases heffect with
  | circles | lines | polygons | noMember => simp
  | noCount =>
    simpa [QuotesLines, Problem.quoted] using
      ⟨oneLine_token (isToken_planeName b), oneLine_trim htext⟩

/-! ## Bars -/

theorem quotesLines_readPairs (line n : Int) (k found : Nat) (row : List String)
    (hrow : ∀ s ∈ row, OneLine s) : ∀ p ∈ (readPairs line n k found row).2, QuotesLines p := by
  induction k generalizing found row with
  | zero => simp [readPairs]
  | succ k ih =>
    rcases row with _ | ⟨label, _ | ⟨value, more⟩⟩
    · simp [readPairs, QuotesLines, Problem.quoted]
    · simp [readPairs, QuotesLines, Problem.quoted]
    · have hlater := ih (found + 1) more fun s hs => hrow s (by simp [hs])
      unfold readPairs
      dsimp only
      split
      · exact hlater
      · refine List.forall_mem_cons.mpr ⟨?_, hlater⟩
        simpa [QuotesLines, Problem.quoted] using ⟨hrow value (by simp), hrow label (by simp)⟩

theorem quotesLines_readBars (htext : OneLine text) (line : Int) :
    ∀ p ∈ (readBars text line).2, QuotesLines p := by
  have hcount : ∀ p ∈ [(⟨line, .barDataCount (trim text)⟩ : Report)], QuotesLines p := by
    simpa [QuotesLines, Problem.quoted] using oneLine_trim htext
  unfold readBars
  split
  next => exact hcount
  next count row hwords =>
    split
    next n _ =>
      refine quotesLines_readPairs line n n.toNat 0 row fun s hs => ?_
      exact oneLine_word (hwords ▸ List.mem_cons_of_mem count hs)
    next => exact hcount

/-! ## Headers -/

theorem quoted_splitHeader (hkey : OneLine key) (htext : OneLine text)
    (h : splitHeader text key = .error fault) : ∀ s ∈ fault.quoted, OneLine s := by
  unfold splitHeader at h
  split at h
  next cs hcs =>
    dsimp only at h
    have hinner : OneLine (String.ofList (cs.takeWhile (· != ')'))) := by
      refine oneLine_ofList fun hmem => htext ?_
      have hafter : '\n' ∈ afterKeyword key.toList text.toList := by
        rw [hcs]
        exact List.mem_cons_of_mem _ ((List.takeWhile_prefix _).subset hmem)
      unfold afterKeyword at hafter
      split at hafter
      · exact List.mem_of_mem_drop hafter
      · exact hafter
    split at h
    · cases h
      simpa [HeaderFault.quoted] using hkey
    · split at h
      · cases h
      · cases h
        simpa [HeaderFault.quoted] using ⟨hkey, hinner⟩
  next => cases h

/-- What a header with bounds quotes, if what it does with its parameters quotes no more than
them. -/
theorem quoted_header {η : Type} {next : Option (Rect Binary64) × List String → Except HeaderFault η}
    (hkey : OneLine key) (htext : OneLine text)
    (hnext : ∀ bounds params, (∀ s ∈ params, OneLine s) → next (bounds, params) = .error fault →
      ∀ s ∈ fault.quoted, OneLine s)
    (h : splitHeader text key >>= next = .error fault) : ∀ s ∈ fault.quoted, OneLine s := by
  cases hsplit : splitHeader text key with
  | error e =>
    rw [hsplit] at h
    cases h
    exact quoted_splitHeader hkey htext hsplit
  | ok parts =>
    obtain ⟨bounds, params⟩ := parts
    rw [hsplit] at h
    exact hnext bounds params (fun s hs => oneLine_token ((splitHeader_bounds hsplit).2 s hs)) h

theorem quoted_readGridHeader (htext : OneLine text)
    (h : readGridHeader maxCells text = .error fault) : ∀ s ∈ fault.quoted, OneLine s := by
  unfold readGridHeader at h
  refine quoted_header (oneLine_keyword .grid) htext (fun bounds params hparams h => ?_) h
  dsimp only at h
  split at h
  next height width borderColor textColor defaultColor =>
    split at h
    · split at h
      · cases h
        simp [HeaderFault.quoted]
      · split at h
        · cases h
          simp [HeaderFault.quoted]
        · cases h
    · cases h
      simpa [HeaderFault.quoted] using ⟨hparams height (by simp), hparams width (by simp)⟩
  next =>
    cases h
    simp [HeaderFault.quoted]

theorem quoted_readPlaneHeader (htext : OneLine text) (h : readPlaneHeader text = .error fault) :
    ∀ s ∈ fault.quoted, OneLine s := by
  unfold readPlaneHeader at h
  refine quoted_header (oneLine_keyword .plane) htext (fun bounds params hparams h => ?_) h
  dsimp only at h
  split at h
  next height width =>
    split at h
    · cases h
    · cases h
      simpa [HeaderFault.quoted] using ⟨hparams height (by simp), hparams width (by simp)⟩
  next =>
    cases h
    simp [HeaderFault.quoted]

theorem quoted_readBarGraphHeader (hparams : ∀ s ∈ params, OneLine s)
    (h : readBarGraphHeader params = .error fault) : ∀ s ∈ fault.quoted, OneLine s := by
  unfold readBarGraphHeader at h
  split at h
  next fillColor low high =>
    have hrange : OneLine low ∧ OneLine high := ⟨hparams low (by simp), hparams high (by simp)⟩
    split at h
    · split at h
      · cases h
        simpa [HeaderFault.quoted] using hrange
      · cases h
    · cases h
      simpa [HeaderFault.quoted] using hrange
  next =>
    cases h
    simp [HeaderFault.quoted]

/-! ## Commands -/

theorem quotesLines_refuse (h : ∀ s ∈ fault.quoted, OneLine s) :
    ∀ p ∈ (call.refuse fault).reports, QuotesLines p := by
  intro p hp
  obtain rfl := List.mem_singleton.mp hp
  exact h

theorem quotesLines_readCanvas (hparams : ∀ s ∈ call.params, OneLine s) :
    ∀ p ∈ (readCanvas call).reports, QuotesLines p := by
  unfold readCanvas
  split
  · split
    · simp [Outcome.draw]
    · have hsizes : OneLine (" ".intercalate call.params) := oneLine_spaced hparams
      exact quotesLines_refuse (by simpa [HeaderFault.quoted] using hsizes)
  · exact quotesLines_refuse (by simp [HeaderFault.quoted])

theorem quotesLines_readBarGraph (hparams : ∀ s ∈ call.params, OneLine s)
    (hrest : ∀ l ∈ rest, OneLine l) (line : Int) :
    ∀ p ∈ (readBarGraph call rest line).reports, QuotesLines p := by
  unfold readBarGraph
  split
  next hread => exact quotesLines_refuse (quoted_readBarGraphHeader hparams hread)
  next =>
    dsimp only
    split
    next => simp [QuotesLines, Problem.quoted]
    next data hdata =>
      have hmem := List.mem_of_head? (Option.filter_eq_some_iff.mp hdata).1
      exact quotesLines_readBars (hrest data hmem) line

theorem quotesLines_readGrid (htext : OneLine call.text) (hrest : ∀ l ∈ rest, OneLine l)
    (maxCells line : Int) : ∀ p ∈ (readGrid maxCells call rest line).reports, QuotesLines p := by
  unfold readGrid
  split
  next hread => exact quotesLines_refuse (quoted_readGridHeader htext hread)
  next h _ =>
    refine quotesLines_replay (quotesLines_gridRow h.width) ?_
    refine BlockReader.onLines_run (fun b hb => ?_) hrest line
    obtain ⟨key, -, rfl⟩ := List.mem_map.mp hb
    exact oneLine_token (isToken_gridName key)

theorem quotesLines_readPlane (htext : OneLine call.text) (hrest : ∀ l ∈ rest, OneLine l)
    (line : Int) : ∀ p ∈ (readPlane call rest line).reports, QuotesLines p := by
  unfold readPlane
  split
  next hread => exact quotesLines_refuse (quoted_readPlaneHeader htext hread)
  next =>
    refine quotesLines_replay quotesLines_planeRow ?_
    refine BlockReader.onLines_run (fun b hb => ?_) hrest line
    obtain ⟨key, -, rfl⟩ := List.mem_map.mp hb
    exact oneLine_token (isToken_planeName key)

theorem resolve_unknown {η : Type} {v : Vocabulary η} {word : String}
    (h : v.resolve text number = .unknown word) : word ∈ words text := by
  unfold Vocabulary.resolve at h
  split at h
  next => cases h
  next first params hwords =>
    dsimp only at h
    split at h
    next => cases h
    next =>
      split at h
      · cases h
        exact hwords ▸ List.mem_cons_self
      · cases h

/-- A command on one line, before lines that are single ones, quotes no more than parts of these. -/
theorem quotesLines_perform (htext : OneLine text) (hrest : ∀ l ∈ rest, OneLine l)
    (maxCells number line : Int) :
    ∀ p ∈ (perform maxCells text number rest line).reports, QuotesLines p := by
  -- Which word is unknown is settled by the choice of the command, so this is where to look.
  unfold perform
  cases h : vocabulary.resolve text number with
  | blank => simp
  | unknown word =>
    simpa [QuotesLines, Problem.quoted] using oneLine_word (resolve_unknown h)
  | call e call =>
    obtain ⟨hmem, hcall⟩ := resolve_call h
    obtain ⟨word, hwords, -⟩ := hcall.words_eq
    have hparams (s : String) (hs : s ∈ call.params) : OneLine s :=
      oneLine_word (hwords ▸ List.mem_cons_of_mem word hs)
    rw [← hcall.text_eq] at htext
    simp only [vocabulary, List.mem_cons, List.not_mem_nil, or_false] at hmem
    rcases hmem with rfl | rfl | rfl | rfl | rfl | rfl | rfl | rfl
    · exact quotesLines_readBarGraph hparams hrest line
    · simp
    · simp [Outcome.draw]
    · simp [Outcome.draw]
    · simp [Outcome.draw]
    · exact quotesLines_readCanvas hparams
    · exact quotesLines_readGrid htext hrest maxCells line
    · exact quotesLines_readPlane htext hrest line

/-! ## Frames -/

/-- What a statement reports is settled by its own lines, and quotes no more than parts of them. -/
theorem IsStatement.quotesLines {st : Statement} (h : IsStatement maxCells st)
    (hlines : ∀ l ∈ st.lines, OneLine l) : ∀ p ∈ st.outcome.reports, QuotesLines p := by
  obtain ⟨hsource, htaken⟩ := List.forall_mem_cons.mp hlines
  -- It yields the same at the end of a script, where no lines but its own can be quoted.
  have hstop : BlockReader.AtStop [] := by simp [BlockReader.AtStop]
  have hperform := h.perform_eq hstop st.line
  rw [Int.sub_self, Outcome.moved_zero, List.append_nil] at hperform
  rw [← hperform]
  exact quotesLines_perform (route_bounds h.route_eq hsource).2 htaken _ _ _

theorem quotesLines_reported {p : List Statement}
    (h : ∀ st ∈ p, st ∈ statementsOf maxCells text m) : ∀ q ∈ reported p, QuotesLines q := by
  intro q hq
  obtain ⟨st, hst, hq⟩ := List.mem_flatMap.mp hq
  have hmem := h st hst
  exact (isStatement_of_mem_statementsOf hmem).1.quotesLines (not_mem_lines_of_mem hmem) q hq

theorem oneLine_boundsText (r : Rect Binary64) : OneLine (boundsText r) := by
  have hsides : OneLine (", ".intercalate (r.sides.map Numeral.scriptText)) := by
    refine oneLine_intercalate (by decide) fun s hs => ?_
    obtain ⟨x, -, rfl⟩ := List.mem_map.mp hs
    exact oneLine_scriptText x
  simp only [boundsText, oneLine_append, hsides, and_true]
  exact ⟨by decide, by decide⟩

theorem oneLine_placed (p : Placed) : OneLine p.text := by
  simp only [Placed.text, toString_text, oneLine_append, oneLine_keyword, oneLine_natural,
    oneLine_boundsText, and_true, true_and]
  exact ⟨oneLine_ofList (by decide), oneLine_ofList (by decide)⟩

/-- What is said of a frame as a whole is one line. -/
theorem oneLine_of_mem_commitNotices {cs : List (Command Binary64)} {n : Notice}
    (h : n ∈ commitNotices cfg cs) : OneLine n.message := by
  rcases List.mem_append.mp h with h | h
  · obtain ⟨kept, dropped, count, rfl⟩ := conflict_of_mem (Option.mem_toList.mp h)
    have hplural : OneLine (if count = 1 then "" else "s") := by split <;> decide
    unfold Notice.message
    simp only [toString_text, oneLine_append, oneLine_keyword, oneLine_natural, hplural,
      and_true]
    and_intros <;> exact oneLine_ofList (by decide)
  · obtain ⟨⟨a, b⟩, -, hn⟩ := List.mem_filterMap.mp h
    dsimp only at hn
    split at hn
    · obtain rfl := Option.some.inj hn
      unfold Notice.message
      simp only [toString_text, oneLine_append, oneLine_placed, and_true]
      exact ⟨oneLine_ofList (by decide), oneLine_ofList (by decide)⟩
    · cases hn

/-- The message of every diagnostic of a script is one line. -/
theorem oneLine_of_mem_parse {f : Frame Binary64 Notice} {n : Notice}
    (hf : f ∈ (parse cfg text).frames m) (hn : n ∈ f.errors) : OneLine n.message := by
  rw [frames_eq] at hf
  obtain ⟨g, hg, rfl⟩ := List.mem_map.mp hf
  rw [errors_passageFrame] at hn
  rcases List.mem_append.mp hn with hn | hn
  · obtain ⟨p, hp, rfl⟩ := List.mem_map.mp hn
    exact oneLine_report (quotesLines_reported (fun st hst => mem_of_mem_groups hg hst) p hp)
  · exact oneLine_of_mem_commitNotices hn

end Flipbook.Script
