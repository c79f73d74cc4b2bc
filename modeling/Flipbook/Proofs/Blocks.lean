import Mathlib
import Flipbook.Proofs.Routing
import Flipbook.Script.Block

/-!
What a reader of blocks takes and yields on its way. Whatever it meets, it takes plain lines only,
in order and without a gap; a block that is written in full is taken as a whole, row by row.
-/
namespace Flipbook.Script.BlockReader

open Text

variable {κ : Type} {r s t : BlockReader κ} {ls ms rows more : List String}
  {evs fvs : List (BlockEvent κ)} {b : BlockSpec κ}

/-- The names of blocks are no marks of script lines. -/
def PlainNames (specs : List (BlockSpec κ)) : Prop := ∀ b ∈ specs, b.name.toList.head? ≠ some '$'

/-- No name of a block starts like a script line. -/
def MarkFree (specs : List (BlockSpec κ)) : Prop := ∀ b ∈ specs, ¬ ['$', 'v'] <+: b.name.toList

instance (specs : List (BlockSpec κ)) : Decidable (MarkFree specs) :=
  inferInstanceAs (Decidable (∀ b ∈ specs, _))

theorem PlainNames.markFree {specs : List (BlockSpec κ)} (h : PlainNames specs) :
    MarkFree specs := by
  rintro b hb ⟨rest, hrest⟩
  apply h b hb
  rw [← hrest]
  rfl

/-- The lines that were read as rows, in order. -/
def rowTexts (evs : List (BlockEvent κ)) : List String :=
  evs.filterMap fun
    | .row _ _ text _ => some text
    | .problem _ => none

theorem rowTexts_append (evs fvs : List (BlockEvent κ)) :
    rowTexts (evs ++ fvs) = rowTexts evs ++ rowTexts fvs := List.filterMap_append

theorem mem_rowTexts {key : κ} {i : Nat} {text : String} {line : Int}
    (h : .row key i text line ∈ evs) : text ∈ rowTexts evs :=
  List.mem_filterMap.mpr ⟨_, h, rfl⟩

/-- From `r` the reader comes to `t`; in between it takes the lines `ls` and yields `evs`. -/
structure Reads (r : BlockReader κ) (ls : List String) (evs : List (BlockEvent κ))
    (t : BlockReader κ) : Prop where
  run_eq : r.run = t.run
  specs_eq : t.specs = r.specs
  rest_eq : r.rest = ls ++ t.rest
  line_eq : t.line = r.line + ls.length
  taken_eq : t.taken.toList = r.taken.toList ++ ls
  events_eq : t.events.toList = r.events.toList ++ evs
  plain : ∀ l ∈ ls, isScript l = false
  rows : (rowTexts evs).Sublist ls

namespace Reads

theorem refl (r : BlockReader κ) : Reads r [] [] r where
  run_eq := rfl
  specs_eq := rfl
  rest_eq := rfl
  line_eq := by simp
  taken_eq := by simp
  events_eq := by simp
  plain := by simp
  rows := List.Sublist.refl []

theorem trans (h : Reads r ls evs s) (h' : Reads s ms fvs t) :
    Reads r (ls ++ ms) (evs ++ fvs) t where
  run_eq := h.run_eq.trans h'.run_eq
  specs_eq := h'.specs_eq.trans h.specs_eq
  rest_eq := by rw [h.rest_eq, h'.rest_eq, List.append_assoc]
  line_eq := by
    rw [h'.line_eq, h.line_eq, List.length_append]
    omega
  taken_eq := by rw [h'.taken_eq, h.taken_eq, List.append_assoc]
  events_eq := by rw [h'.events_eq, h.events_eq, List.append_assoc]
  plain := by
    intro l hl
    rcases List.mem_append.mp hl with hl | hl
    · exact h.plain l hl
    · exact h'.plain l hl
  rows := by
    rw [rowTexts_append]
    exact h.rows.append h'.rows

end Reads

theorem run_of_done (h : r.phase = .done) : r.run = r := by
  rw [run, dif_pos h]

theorem run_of_ne_done (h : r.phase ≠ .done) : r.run = r.step.run := by
  rw [run, dif_neg h]

theorem step_name (h : r.phase = .name) : r.step = r.readName := by
  simp only [step, h]

theorem step_count (h : r.phase = .count) (ha : r.active = some b) : r.step = r.readCount b := by
  simp only [step, h, ha]

theorem step_rows (h : r.phase = .rows) (ha : r.active = some b) : r.step = r.readRow b := by
  simp only [step, h, ha]

theorem run_name (h : r.phase = .name) : r.run = r.readName.run := by
  rw [run_of_ne_done (by simp [h]), step_name h]

theorem run_count (h : r.phase = .count) (ha : r.active = some b) :
    r.run = (r.readCount b).run := by
  rw [run_of_ne_done (by simp [h]), step_count h ha]

theorem run_rows (h : r.phase = .rows) (ha : r.active = some b) : r.run = (r.readRow b).run := by
  rw [run_of_ne_done (by simp [h]), step_rows h ha]

/-! ## Any lines at all -/

theorem mem_specs_of_spec? {name : String} (h : r.spec? name = some b) :
    b ∈ r.specs ∧ b.name = name := by
  have hmem := List.mem_of_find?_eq_some h
  have hname := List.find?_some h
  exact ⟨List.mem_reverse.mp hmem, by simpa using hname⟩

theorem words_of_isBlankLine {line : String} (h : isBlankLine line = true) : words line = [] := by
  have hall : ∀ c ∈ line.toList, isBlank c = true := by simpa [isBlankLine] using h
  rw [← String.ofList_toList (s := line), words_ofList, wordChars_of_all hall, List.map_nil]

theorem isScript_of_isBlankLine {line : String} (h : isBlankLine line = true) :
    isScript line = false := by
  rw [isScript_eq_false_iff, words_of_isBlankLine h]
  exact id

/-- A line that names a block is plain. -/
theorem isScript_of_spec? {line : String} (hm : MarkFree r.specs)
    (h : (words line).head?.bind r.spec? = some b) : isScript line = false := by
  rw [isScript_eq_false_iff]
  obtain ⟨w, hw, hb⟩ := Option.bind_eq_some_iff.mp h
  obtain ⟨hmem, rfl⟩ := mem_specs_of_spec? hb
  obtain ⟨ws, hws⟩ := List.head?_eq_some_iff.mp hw
  rw [hws]
  rintro ⟨hmark, -⟩
  exact hm b hmem hmark

/-- A script line is not blank. -/
theorem isBlankLine_of_isScript {line : String} (h : isScript line = true) :
    isBlankLine line = false := by
  by_contra hb
  rw [isScript_of_isBlankLine (by simpa using hb)] at h
  cases h

/-- A script line names no block. -/
theorem spec?_of_isScript {line : String} (hm : MarkFree r.specs) (h : isScript line = true) :
    (words line).head?.bind r.spec? = none := by
  cases hs : (words line).head?.bind r.spec? with
  | none => rfl
  | some b =>
    rw [isScript_of_spec? hm hs] at h
    cases h

theorem take_append (h : r.rest = ls ++ more) : r.take ls.length =
    { r with rest := more, line := r.line + ls.length, taken := r.taken ++ ls.toArray } := by
  simp [take, h]

theorem take_cons {line : String} (h : r.rest = line :: more) : r.take 1 =
    { r with rest := more, line := r.line + 1, taken := r.taken ++ #[line] } :=
  take_append (show r.rest = [line] ++ more from h)

theorem take_take (r : BlockReader κ) (m n : Nat) : (r.take m).take n = r.take (m + n) := by
  have hline : r.line + m + n = r.line + (m + n : Nat) := by omega
  have htaken : r.taken ++ (r.rest.take m).toArray ++ ((r.rest.drop m).take n).toArray =
      r.taken ++ (r.rest.take (m + n)).toArray := by
    apply Array.ext'
    simp [List.take_add]
  simp only [take, List.drop_drop, hline, htaken]

theorem readName_nil (h : r.rest = []) : r.readName = { r with phase := .done } := by
  simp [readName, take, h]

theorem readName_cons {line : String} (h : r.rest = line :: more)
    (hb : isBlankLine line = false) : r.readName =
      match (words line).head?.bind r.spec? with
      | some b => r.openBlock b
      | none => { r with phase := .done } := by
  have htake : r.take 0 = r := by simp [take]
  have hskip : r.rest.takeWhile isBlankLine = [] := by simp [h, hb]
  unfold readName
  rw [hskip, List.length_nil, htake]
  cases hs : (words line).head?.bind r.spec? with
  | none => simp only [h, List.head?_cons, Option.bind_some, hs]
  | some b => simp only [h, List.head?_cons, Option.bind_some, hs]

theorem reads_openBlock {line : String} (hrun : r.run = (r.openBlock b).run)
    (h : r.rest = line :: more) (hl : isScript line = false) :
    Reads r [line] [] (r.openBlock b) := by
  have htake := take_cons h
  refine ⟨hrun, ?_, ?_, ?_, ?_, ?_, by simpa using hl, List.nil_sublist _⟩
  all_goals
    unfold openBlock
    rw [htake]
    cases b.rows <;> simp [beginRows, h]

/-- A line that names a block is taken and opens it. -/
theorem reads_named {line : String} (hm : MarkFree r.specs) (h : r.phase = .name)
    (hrest : r.rest = line :: more) (hb : isBlankLine line = false)
    (hs : (words line).head?.bind r.spec? = some b) : Reads r [line] [] (r.openBlock b) := by
  have hname := readName_cons hrest hb
  rw [hs] at hname
  have hrun := run_name h
  rw [hname] at hrun
  exact reads_openBlock hrun hrest (isScript_of_spec? hm hs)

/-- Blank lines before the name of a block are taken all at once, or one by one. -/
theorem readName_take_one {line : String} (h : r.rest = line :: more)
    (hb : isBlankLine line = true) : (r.take 1).readName = r.readName := by
  have hskip : (r.rest.takeWhile isBlankLine).length =
      1 + ((r.take 1).rest.takeWhile isBlankLine).length := by
    simp [take, h, hb, Nat.add_comm]
  simp only [readName, take_take, hskip]

theorem reads_blank {line : String} (hp : r.phase = .name) (h : r.rest = line :: more)
    (hb : isBlankLine line = true) : Reads r [line] [] (r.take 1) := by
  have htake := take_cons h
  have hread := readName_take_one h hb
  have hrun : r.run = (r.take 1).run := by
    have hp' : (r.take 1).phase = .name := hp
    rw [run_name hp, ← hread, ← run_name hp']
  refine ⟨hrun, ?_, ?_, ?_, ?_, ?_, ?_, List.nil_sublist _⟩
  all_goals simp [htake, h, isScript_of_isBlankLine hb]

theorem reads_readName (hp : PlainNames r.specs) (h : r.phase = .name) :
    ∃ ls evs, Reads r ls evs r.readName := by
  have hrun := run_name h
  generalize hrest : r.rest = rest
  induction rest generalizing r with
  | nil =>
    rw [readName_nil hrest] at hrun ⊢
    exact ⟨[], [], { Reads.refl r with run_eq := hrun }⟩
  | cons line rest ih =>
    cases hb : isBlankLine line with
    | true =>
      have hfirst := reads_blank h hrest hb
      have hlater : (r.take 1).readName = r.readName := readName_take_one hrest hb
      have hphase : (r.take 1).phase = .name := h
      obtain ⟨ls, evs, hr⟩ := ih (r := r.take 1) hp hphase (run_name hphase)
        (by simp [take, hrest])
      rw [hlater] at hr
      exact ⟨_, _, hfirst.trans hr⟩
    | false =>
      have hname := readName_cons hrest hb
      cases hs : (words line).head?.bind r.spec? with
      | none =>
        simp only [hs] at hname
        rw [hname] at hrun ⊢
        exact ⟨[], [], { Reads.refl r with run_eq := hrun }⟩
      | some b =>
        simp only [hs] at hname
        rw [hname]
        exact ⟨_, _, reads_named hp.markFree h hrest hb hs⟩

/-! ### Counts and rows -/

/-- No plain line comes next: a script line does, or none. -/
def AtStop (lines : List String) : Prop := ∀ l ∈ lines.head?, isScript l = true

theorem atStop_or_plain (lines : List String) :
    AtStop lines ∨ ∃ line more, lines = line :: more ∧ isScript line = false := by
  cases lines with
  | nil => exact .inl (by simp [AtStop])
  | cons line more =>
    cases h : isScript line with
    | true => exact .inl (by simp [AtStop, h])
    | false => exact .inr ⟨line, more, rfl, h⟩

/-- Where no plain line comes next, a reader that waits for a name ends. -/
theorem readName_of_stop (hm : MarkFree r.specs) (hstop : AtStop r.rest) :
    r.readName = { r with phase := .done } := by
  cases hrest : r.rest with
  | nil => rw [readName_nil hrest, hrest]
  | cons line more =>
    have hl : isScript line = true := hstop line (by rw [hrest]; rfl)
    rw [readName_cons hrest (isBlankLine_of_isScript hl), spec?_of_isScript hm hl, hrest]

theorem readCount_stop (h : AtStop r.rest) (b : BlockSpec κ) : r.readCount b =
    { r.report r.nameLine (.countMissing b.name) with phase := .name } := by
  unfold readCount
  cases hr : r.rest with
  | nil => rfl
  | cons line more =>
    have hl : isScript line = true := h line (by rw [hr]; rfl)
    simp only [List.head?_cons, hl, if_true]

theorem readCount_plain {line : String} (h : r.rest = line :: more) (hl : isScript line = false)
    (b : BlockSpec κ) : r.readCount b =
      match (words line).head?.bind Numeral.readInt? with
      | some n => (r.take 1).beginRows (max n 0)
      | none => { (r.take 1).report r.line (.countInvalid b.name (trim line)) with
          phase := .name } := by
  unfold readCount
  cases hn : (words line).head?.bind Numeral.readInt? with
  | none => simp only [h, List.head?_cons, hl, if_false, Bool.false_eq_true, hn]
  | some n => simp only [h, List.head?_cons, hl, if_false, Bool.false_eq_true, hn]

theorem readRow_stop (h : AtStop r.rest) (b : BlockSpec κ) : r.readRow b = r.endRows b := by
  unfold readRow
  cases hr : r.rest with
  | nil => rfl
  | cons line more =>
    have hl : isScript line = true := h line (by rw [hr]; rfl)
    simp only [List.head?_cons, hl, if_true]

theorem readRow_plain {line : String} (h : r.rest = line :: more) (hl : isScript line = false)
    (b : BlockSpec κ) : r.readRow b = { r.take 1 with
      events := r.events.push (.row b.key r.consumed line r.line)
      consumed := r.consumed + 1
      phase := if r.expected ≤ (r.consumed + 1 : Nat) then .name else .rows } := by
  unfold readRow
  simp only [h, List.head?_cons, hl, if_false, Bool.false_eq_true]

/-- A step that takes no line can only report. -/
theorem reads_stay (hrun : r.run = t.run) (hspecs : t.specs = r.specs) (hrest : t.rest = r.rest)
    (hline : t.line = r.line) (htaken : t.taken = r.taken)
    (hevents : t.events.toList = r.events.toList ++ evs)
    (hrows : rowTexts evs = []) : Reads r [] evs t where
  run_eq := hrun
  specs_eq := hspecs
  rest_eq := hrest.symm
  line_eq := by rw [hline, List.length_nil, Int.natCast_zero, Int.add_zero]
  taken_eq := by rw [htaken, List.append_nil]
  events_eq := hevents
  plain := by simp
  rows := by rw [hrows]

/-- Where no plain line comes next, a reader of rows reports that its block is cut short. -/
theorem reads_endRows (h : r.phase = .rows) (ha : r.active = some b) (hstop : AtStop r.rest) :
    Reads r [] [.problem ⟨r.nameLine, .rowsMissing b.name r.expected r.consumed⟩] (r.endRows b) := by
  have hrun := run_rows h ha
  rw [readRow_stop hstop] at hrun
  exact reads_stay hrun rfl rfl rfl rfl (Array.toList_push ..) rfl

theorem reads_line {line : String} (hrun : r.run = t.run) (h : r.rest = line :: more)
    (hl : isScript line = false) (hspecs : t.specs = r.specs) (hrest : t.rest = more)
    (hline : t.line = r.line + 1) (htaken : t.taken = r.taken ++ #[line])
    (hevents : t.events.toList = r.events.toList ++ evs)
    (hrows : (rowTexts evs).Sublist [line]) : Reads r [line] evs t where
  run_eq := hrun
  specs_eq := hspecs
  rest_eq := by rw [h, hrest]; rfl
  line_eq := by rw [hline]; rfl
  taken_eq := by rw [htaken, Array.toList_append]
  events_eq := hevents
  plain := by simpa using hl
  rows := hrows

/-- Where no plain line comes next, a reader of a count reports that it is missing. -/
theorem reads_count_missing (h : r.phase = .count) (ha : r.active = some b)
    (hstop : AtStop r.rest) : Reads r [] [.problem ⟨r.nameLine, .countMissing b.name⟩]
      { r.report r.nameLine (.countMissing b.name) with phase := .name } := by
  have hrun := run_count h ha
  rw [readCount_stop hstop] at hrun
  exact reads_stay hrun rfl rfl rfl rfl (Array.toList_push ..) rfl

/-- A line without a number is taken as the count, and reported. -/
theorem reads_count_invalid {line : String} (h : r.phase = .count) (ha : r.active = some b)
    (hrest : r.rest = line :: more) (hl : isScript line = false)
    (hn : (words line).head?.bind Numeral.readInt? = none) :
    Reads r [line] [.problem ⟨r.line, .countInvalid b.name (trim line)⟩]
      { (r.take 1).report r.line (.countInvalid b.name (trim line)) with phase := .name } := by
  have hrun := run_count h ha
  rw [readCount_plain hrest hl, hn] at hrun
  rw [take_cons hrest] at hrun ⊢
  exact reads_line hrun hrest hl rfl rfl rfl rfl (Array.toList_push ..) (List.nil_sublist _)

/-- A number sets how many rows are waited for. -/
theorem reads_count_given {line : String} {n : Int} (h : r.phase = .count) (ha : r.active = some b)
    (hrest : r.rest = line :: more) (hl : isScript line = false)
    (hn : (words line).head?.bind Numeral.readInt? = some n) :
    Reads r [line] [] ((r.take 1).beginRows (max n 0)) := by
  have hrun := run_count h ha
  rw [readCount_plain hrest hl, hn] at hrun
  rw [take_cons hrest] at hrun ⊢
  exact reads_line hrun hrest hl rfl rfl rfl rfl (List.append_nil _).symm (List.nil_sublist _)

theorem reads_readCount (h : r.phase = .count) (ha : r.active = some b) :
    ∃ ls evs, Reads r ls evs (r.readCount b) := by
  rcases atStop_or_plain r.rest with hstop | ⟨line, more, hrest, hl⟩
  · rw [readCount_stop hstop]
    exact ⟨_, _, reads_count_missing h ha hstop⟩
  · rw [readCount_plain hrest hl]
    cases hn : (words line).head?.bind Numeral.readInt? with
    | none => exact ⟨_, _, reads_count_invalid h ha hrest hl hn⟩
    | some n => exact ⟨_, _, reads_count_given h ha hrest hl hn⟩

theorem reads_readRow (h : r.phase = .rows) (ha : r.active = some b) :
    ∃ ls evs, Reads r ls evs (r.readRow b) := by
  rcases atStop_or_plain r.rest with hstop | ⟨line, more, hrest, hl⟩
  · rw [readRow_stop hstop]
    exact ⟨_, _, reads_endRows h ha hstop⟩
  · have hrun := run_rows h ha
    have hrow := readRow_plain hrest hl b
    rw [take_cons hrest] at hrow
    rw [hrow] at hrun ⊢
    exact ⟨_, _, reads_line hrun hrest hl rfl rfl rfl rfl (Array.toList_push ..)
      (List.Sublist.refl _)⟩

/-- Whatever a reader waits for, its next step takes the next lines, and plain ones only. -/
theorem reads_step (hp : PlainNames r.specs) (h : r.phase ≠ .done) :
    ∃ ls evs, Reads r ls evs r.step := by
  cases hphase : r.phase with
  | done => exact absurd hphase h
  | name =>
    rw [step_name hphase]
    exact reads_readName hp hphase
  | count =>
    cases ha : r.active with
    | some b =>
      rw [step_count hphase ha]
      exact reads_readCount hphase ha
    | none =>
      have hstep : r.step = { r with phase := .done } := by simp only [step, hphase, ha]
      refine ⟨[], [], reads_stay (run_of_ne_done h) ?_ ?_ ?_ ?_ ?_ rfl⟩
      all_goals simp [hstep]
  | rows =>
    cases ha : r.active with
    | some b =>
      rw [step_rows hphase ha]
      exact reads_readRow hphase ha
    | none =>
      have hstep : r.step = { r with phase := .done } := by simp only [step, hphase, ha]
      refine ⟨[], [], reads_stay (run_of_ne_done h) ?_ ?_ ?_ ?_ ?_ rfl⟩
      all_goals simp [hstep]

/-- A whole run takes the next lines, none of them a script line, and its rows are among them. -/
theorem reads_run (hp : PlainNames r.specs) : ∃ ls evs, Reads r ls evs r.run := by
  fun_induction run r with
  | case1 r h => exact ⟨[], [], Reads.refl r⟩
  | case2 r h ih =>
    obtain ⟨ls, evs, hstep⟩ := reads_step hp h
    obtain ⟨ms, fvs, hrun⟩ := ih (hstep.specs_eq ▸ hp)
    exact ⟨_, _, hstep.trans hrun⟩

end Flipbook.Script.BlockReader
