import Mathlib
import Flipbook.Proofs.Blocks
import Flipbook.Proofs.Numerals

/-!
Blocks as they are written. A reader takes them one by one and yields their rows in order; a row that
is a script line ends the reading there, and all rows before it were yielded.
-/
namespace Flipbook.Script

open Text

variable {κ β : Type}

/-- A block as it is written: its name, the number of its rows where a count line gives it, and its
rows. -/
structure WrittenBlock (κ : Type) where
  spec : BlockSpec κ
  rows : List String

/-- A number of rows or members that a count can state. -/
def IsCount (n : Nat) : Prop := n < 10 ^ Numeral.maxDigits

theorem isCount_of_lt_ten {n : Nat} (h : n < 10) : IsCount n :=
  h.trans_le (Nat.le_self_pow (by decide) 10)

/-- A count opens no script line. -/
theorem not_openScript_toString (n : Nat) (ws : List String) : ¬ OpenScript (toString n :: ws) := by
  refine not_openScript_of_head fun u hu hdollar => ?_
  obtain rfl : toString n = u := by simpa using hu
  exact (Numeral.isNumeral_toString (n : Int)).not_mem (by decide) (List.mem_of_head? hdollar)

namespace WrittenBlock

/-- The lines before the rows. -/
def head (b : WrittenBlock κ) : List String :=
  match b.spec.rows with
  | none => [b.spec.name, toString b.rows.length]
  | some _ => [b.spec.name]

/-- The lines of a block; no line at all if it has no row. -/
def lines (b : WrittenBlock κ) : List String := if b.rows = [] then [] else b.head ++ b.rows

/-- Whether blocks of these kinds are read with as many rows as the block has. -/
structure Fits (specs : List (BlockSpec κ)) (b : WrittenBlock κ) : Prop where
  isToken : IsToken b.spec.name
  spec?_eq : ∀ r : BlockReader κ, r.specs = specs → r.spec? b.spec.name = some b.spec
  rows_eq : ∀ n, b.spec.rows = some n → b.rows ≠ [] → n = b.rows.length
  isCount : b.spec.rows = none → IsCount b.rows.length

/-- Whether no row is a script line. -/
def Plain (b : WrittenBlock κ) : Prop := ∀ l ∈ b.rows, isScript l = false

theorem plain_iff (b : WrittenBlock κ) : b.Plain ↔ b.rows.all (!isScript ·) = true := by
  simp [Plain]

end WrittenBlock

/-- The events of some rows, the first of them row `i` of its block and on line `line`. -/
def rowEvents (key : κ) (i : Nat) (line : Int) : List String → List (BlockEvent κ)
  | [] => []
  | text :: rows => .row key i text line :: rowEvents key (i + 1) (line + 1) rows

theorem rowEvents_append (key : κ) (i : Nat) (line : Int) (rows more : List String) :
    rowEvents key i line (rows ++ more) =
      rowEvents key i line rows ++ rowEvents key (i + rows.length) (line + rows.length) more := by
  induction rows generalizing i line with
  | nil => simp [rowEvents]
  | cons text rows ih =>
    have hi : i + 1 + rows.length = i + (text :: rows).length := by
      rw [List.length_cons]
      omega
    have hline : line + 1 + rows.length = line + (text :: rows).length := by
      rw [List.length_cons]
      omega
    rw [List.cons_append, rowEvents, ih, hi, hline]
    rfl

/-- The events of written blocks, the first line of which is line `line`. -/
def blockEvents (line : Int) : List (WrittenBlock κ) → List (BlockEvent κ)
  | [] => []
  | b :: bs =>
    rowEvents b.spec.key 0 (line + b.head.length) b.rows ++
      blockEvents (line + b.lines.length) bs

/-- What is read of written blocks: all rows before the first that is a script line. -/
def readable : List (WrittenBlock κ) → List (WrittenBlock κ)
  | [] => []
  | b :: bs =>
    if b.rows.all (!isScript ·) then b :: readable bs
    else [{ b with rows := b.rows.takeWhile (!isScript ·) }]

namespace BlockReader

variable {r s t : BlockReader κ} {ls rows more : List String} {b : WrittenBlock κ}
  {bs : List (WrittenBlock κ)} {text : String}

/-- The lines that a reader has still to read after some of them. -/
theorem Reads.rest_of_append {evs : List (BlockEvent κ)} (h : Reads r ls evs t)
    (hrest : r.rest = ls ++ more) : t.rest = more :=
  List.append_cancel_left (h.rest_eq.symm.trans hrest)

/-! ## One block -/

/-- A plain line where a row is due is taken as that row. -/
theorem reads_row (h : r.phase = .rows) (ha : r.active = some b.spec)
    (hrest : r.rest = text :: more) (hp : isScript text = false) :
    ∃ t, Reads r [text] [.row b.spec.key r.consumed text r.line] t ∧ t.active = r.active ∧
      t.consumed = r.consumed + 1 ∧ t.expected = r.expected ∧
      (t.phase = if r.expected ≤ (r.consumed + 1 : Nat) then .name else .rows) ∧
      t.nameLine = r.nameLine ∧ t.seen = r.seen := by
  have hrun := run_rows h ha
  have hrow := readRow_plain hrest hp b.spec
  rw [take_cons hrest] at hrow
  rw [hrow] at hrun
  exact ⟨_, reads_line hrun hrest hp rfl rfl rfl rfl (Array.toList_push ..)
    (List.Sublist.refl _), rfl, rfl, rfl, rfl, rfl, rfl⟩

/-- Rows that are not the last ones are taken, and further rows are waited for. -/
theorem reads_rows_part (h : r.phase = .rows) (ha : r.active = some b.spec)
    (hrest : r.rest = rows ++ more) (hp : ∀ l ∈ rows, isScript l = false)
    (hlt : ((r.consumed + rows.length : Nat) : Int) < r.expected) :
    ∃ t, Reads r rows (rowEvents b.spec.key r.consumed r.line rows) t ∧ t.phase = .rows ∧
      t.active = some b.spec ∧ t.consumed = r.consumed + rows.length ∧
      t.expected = r.expected := by
  induction rows generalizing r with
  | nil => exact ⟨r, Reads.refl r, h, ha, rfl, rfl⟩
  | cons text rows ih =>
    obtain ⟨s, hs, hactive, hconsumed, hexpected, hphase, -⟩ :=
      reads_row (b := b) h ha hrest (hp text List.mem_cons_self)
    rw [List.length_cons] at hlt
    have hgo : ¬ r.expected ≤ (r.consumed + 1 : Nat) := by omega
    rw [if_neg hgo] at hphase
    obtain ⟨t, ht, hphase', hactive', hconsumed', hexpected'⟩ :=
      ih hphase (hactive.trans ha) (hs.rest_of_append hrest)
        (fun l hl => hp l (List.mem_cons_of_mem _ hl)) (by rw [hconsumed, hexpected]; omega)
    have hline : s.line = r.line + 1 := hs.line_eq
    rw [hconsumed, hline] at ht
    refine ⟨t, hs.trans ht, hphase', hactive', ?_, hexpected'.trans hexpected⟩
    rw [hconsumed', hconsumed, List.length_cons]
    omega

/-- All rows of a block are taken. -/
theorem reads_rows (h : r.phase = .rows) (ha : r.active = some b.spec)
    (hrest : r.rest = rows ++ more) (hp : ∀ l ∈ rows, isScript l = false) (hne : rows ≠ [])
    (heq : r.expected = (r.consumed + rows.length : Nat)) :
    ∃ t, Reads r rows (rowEvents b.spec.key r.consumed r.line rows) t ∧ t.phase = .name := by
  obtain ⟨first, last, rfl⟩ : ∃ first last, rows = first ++ [last] :=
    ⟨rows.dropLast, rows.getLast hne, (List.dropLast_append_getLast hne).symm⟩
  rw [List.append_assoc] at hrest
  rw [List.length_append, List.length_singleton] at heq
  obtain ⟨s, hs, hphase, hactive, hconsumed, hexpected⟩ := reads_rows_part h ha hrest
    (fun l hl => hp l (List.mem_append_left _ hl)) (by rw [heq]; omega)
  obtain ⟨t, ht, -, -, -, hdone, -⟩ := reads_row (b := b) hphase hactive
    (hs.rest_of_append hrest) (hp last (by simp))
  rw [if_pos (by rw [hexpected, hconsumed, heq]; omega)] at hdone
  refine ⟨t, ?_, hdone⟩
  rw [rowEvents_append]
  have hlast := hs.trans ht
  rw [hconsumed, hs.line_eq] at hlast
  exact hlast

/-- A script line among the rows of a block ends it. -/
theorem reads_rows_stop (h : r.phase = .rows) (ha : r.active = some b.spec)
    (hrest : r.rest = rows ++ text :: more) (hp : ∀ l ∈ rows, isScript l = false)
    (hs : isScript text = true) (hlt : ((r.consumed + rows.length : Nat) : Int) < r.expected) :
    ∃ t p, Reads r rows (rowEvents b.spec.key r.consumed r.line rows ++ [.problem p]) t ∧
      t.phase = .name ∧ t.rest = text :: more := by
  obtain ⟨t, ht, hphase, hactive, -, -⟩ := reads_rows_part h ha hrest hp hlt
  have hstop : AtStop t.rest := by
    rw [ht.rest_of_append hrest]
    intro l hl
    obtain rfl : text = l := by simpa using hl
    exact hs
  have hend := ht.trans (reads_endRows hphase hactive hstop)
  rw [List.append_nil] at hend
  exact ⟨_, _, hend, rfl, ht.rest_of_append hrest⟩

theorem isBlankLine_token (h : IsToken text) : isBlankLine text = false := by
  have hne : text.toList ≠ [] := by simpa using h.1
  obtain ⟨c, cs, hcs⟩ := List.exists_cons_of_ne_nil hne
  have hc := h.2 c (by rw [hcs]; exact List.mem_cons_self)
  rw [isBlankLine, hcs, List.all_cons, hc, Bool.false_and]

/-- The lines before the rows are taken, and all rows of the block are waited for. -/
theorem reads_head (h : r.phase = .name) (hf : b.Fits r.specs) (hplain : PlainNames r.specs)
    (hrest : r.rest = b.head ++ more) (hne : b.rows ≠ []) :
    ∃ t, Reads r b.head [] t ∧ t.phase = .rows ∧ t.active = some b.spec ∧ t.consumed = 0 ∧
      t.expected = b.rows.length := by
  have hpos : 0 < b.rows.length := List.length_pos_iff.mpr hne
  have hspec : (words b.spec.name).head?.bind r.spec? = some b.spec := by
    rw [words_token hf.isToken]
    exact hf.spec?_eq r rfl
  have hopen {more : List String} (hr : r.rest = b.spec.name :: more) :
      Reads r [b.spec.name] [] (r.openBlock b.spec) :=
    reads_named hplain.markFree h hr (isBlankLine_token hf.isToken) hspec
  unfold WrittenBlock.head at hrest ⊢
  cases hn : b.spec.rows with
  | some n =>
    rw [hn] at hrest
    have hcount : n = b.rows.length := hf.rows_eq n hn hne
    have hn₀ : n ≠ 0 := by omega
    refine ⟨_, hopen hrest, ?_⟩
    simp only [openBlock, hn, beginRows, if_neg hn₀]
    exact ⟨trivial, trivial, trivial, hcount⟩
  | none =>
    rw [hn] at hrest
    have hs := hopen hrest
    have hnext := hs.rest_of_append (show r.rest = [b.spec.name] ++ _ from hrest)
    have hopened : (r.openBlock b.spec).phase = .count ∧
        (r.openBlock b.spec).active = some b.spec ∧ (r.openBlock b.spec).consumed = 0 := by
      simp [openBlock, hn]
    generalize r.openBlock b.spec = s at hs hnext hopened
    obtain ⟨hphase, hactive, hconsumed⟩ := hopened
    have hwords := Numeral.words_toString_natCast b.rows.length
    have hl : isScript (toString b.rows.length) = false := by
      rw [isScript_eq_false_iff, hwords]
      exact not_openScript_toString _ _
    have hread : (words (toString b.rows.length)).head?.bind Numeral.readInt? =
        some (b.rows.length : Int) := by
      rw [hwords]
      exact Numeral.readInt?_toString_natCast (hf.isCount hn)
    have hmax : max (b.rows.length : Int) 0 = b.rows.length := by omega
    have hlen₀ : (b.rows.length : Int) ≠ 0 := by omega
    have hgiven := reads_count_given hphase hactive hnext hl hread
    rw [hmax] at hgiven
    exact ⟨_, hs.trans hgiven, if_neg hlen₀, hactive, hconsumed, rfl⟩

theorem reads_block (h : r.phase = .name) (hf : b.Fits r.specs) (hplain : PlainNames r.specs)
    (hrest : r.rest = b.lines ++ more) (hp : b.Plain) :
    ∃ t, Reads r b.lines (rowEvents b.spec.key 0 (r.line + b.head.length) b.rows) t ∧
      t.phase = .name := by
  by_cases hne : b.rows = []
  · rw [WrittenBlock.lines, if_pos hne, hne]
    exact ⟨r, Reads.refl r, h⟩
  · rw [WrittenBlock.lines, if_neg hne] at hrest ⊢
    rw [List.append_assoc] at hrest
    obtain ⟨s, hs, hphase, hactive, hconsumed, hexpected⟩ := reads_head h hf hplain hrest hne
    obtain ⟨t, ht, hdone⟩ := reads_rows hphase hactive (hs.rest_of_append hrest) hp hne
      (by rw [hexpected, hconsumed, Nat.zero_add])
    rw [hconsumed, hs.line_eq] at ht
    exact ⟨t, hs.trans ht, hdone⟩

/-- Of a block with a script line among its rows, the rows before that line are read. -/
theorem reads_block_stop (h : r.phase = .name) (hf : b.Fits r.specs)
    (hplain : PlainNames r.specs) (hrest : r.rest = b.lines ++ more) (hp : ¬ b.Plain) :
    ∃ t ls p, Reads r ls (rowEvents b.spec.key 0 (r.line + b.head.length)
        (b.rows.takeWhile (!isScript ·)) ++ [.problem p]) t ∧
      t.phase = .name ∧ AtStop t.rest := by
  have hsplit : b.rows = b.rows.takeWhile (!isScript ·) ++ b.rows.dropWhile (!isScript ·) :=
    List.takeWhile_append_dropWhile.symm
  have hplain' : ∀ l ∈ b.rows.takeWhile (!isScript ·), isScript l = false := by
    intro l hl
    simpa using List.mem_takeWhile_imp hl
  have hhead := List.head?_dropWhile_not (!isScript ·) b.rows
  cases hdrop : b.rows.dropWhile (!isScript ·) with
  | nil =>
    rw [hdrop, List.append_nil] at hsplit
    rw [← hsplit] at hplain'
    exact absurd hplain' hp
  | cons text later =>
    rw [hdrop] at hsplit hhead
    have hs : isScript text = true := by simpa using hhead
    have hne : b.rows ≠ [] := by
      rw [hsplit]
      simp
    rw [WrittenBlock.lines, if_neg hne, List.append_assoc] at hrest
    obtain ⟨s, hs', hphase, hactive, hconsumed, hexpected⟩ := reads_head h hf hplain hrest hne
    have hnext := hs'.rest_of_append hrest
    have hlen := congrArg List.length hsplit
    rw [List.length_append, List.length_cons] at hlen
    rw [hsplit, List.append_assoc, List.cons_append] at hnext
    obtain ⟨t, p, ht, hdone, hrest'⟩ := reads_rows_stop hphase hactive hnext hplain' hs
      (by rw [hexpected, hconsumed]; omega)
    rw [hconsumed, hs'.line_eq] at ht
    refine ⟨t, _, p, hs'.trans ht, hdone, ?_⟩
    rw [hrest']
    intro l hl
    obtain rfl : text = l := by simpa using hl
    exact hs

/-! ## All blocks -/

/-- A reader that waits for a name ends where no plain line comes next. -/
theorem run_of_stop (h : r.phase = .name) (hplain : PlainNames r.specs) (hstop : AtStop r.rest) :
    r.run = { r with phase := .done } := by
  rw [run_name h, readName_of_stop hplain.markFree hstop, run_of_done rfl]

/-- Blocks without script lines are taken as a whole. -/
theorem reads_written (h : r.phase = .name) (hf : ∀ b ∈ bs, b.Fits r.specs)
    (hplain : PlainNames r.specs) (hrest : r.rest = bs.flatMap (·.lines) ++ more)
    (hp : ∀ b ∈ bs, b.Plain) :
    ∃ t, Reads r (bs.flatMap (·.lines)) (blockEvents r.line bs) t ∧ t.phase = .name := by
  induction bs generalizing r with
  | nil => exact ⟨r, Reads.refl r, h⟩
  | cons b bs ih =>
    rw [List.flatMap_cons, List.append_assoc] at hrest
    obtain ⟨s, hs, hphase⟩ := reads_block h (hf b List.mem_cons_self) hplain hrest
      (hp b List.mem_cons_self)
    obtain ⟨t, ht, hdone⟩ := ih hphase
      (fun c hc => hs.specs_eq ▸ hf c (List.mem_cons_of_mem _ hc)) (hs.specs_eq ▸ hplain)
      (hs.rest_of_append hrest) (fun c hc => hp c (List.mem_cons_of_mem _ hc))
    rw [hs.line_eq] at ht
    exact ⟨t, hs.trans ht, hdone⟩

theorem run_written (h : r.phase = .name) (hf : ∀ b ∈ bs, b.Fits r.specs)
    (hplain : PlainNames r.specs) (hrest : r.rest = bs.flatMap (·.lines) ++ more)
    (hp : ∀ b ∈ bs, b.Plain) (hstop : AtStop more) :
    r.run.taken.toList = r.taken.toList ++ bs.flatMap (·.lines) ∧
      r.run.events.toList = r.events.toList ++ blockEvents r.line bs := by
  obtain ⟨t, ht, hphase⟩ := reads_written h hf hplain hrest hp
  have hend := run_of_stop hphase (ht.specs_eq ▸ hplain) (by rwa [ht.rest_of_append hrest])
  rw [ht.run_eq, hend]
  exact ⟨ht.taken_eq, ht.events_eq⟩

/-- Whatever the rows are, those before the first script line are read, and nothing else is. -/
theorem events_run_written (h : r.phase = .name) (hf : ∀ b ∈ bs, b.Fits r.specs)
    (hplain : PlainNames r.specs) (hrest : r.rest = bs.flatMap (·.lines) ++ more)
    (hstop : AtStop more) :
    ∃ ps, r.run.events.toList = r.events.toList ++ blockEvents r.line (readable bs) ++ ps ∧
      ∀ e ∈ ps, ∃ p, e = .problem p := by
  induction bs generalizing r with
  | nil =>
    rw [run_of_stop h hplain (hrest ▸ hstop)]
    exact ⟨[], by simp [readable, blockEvents], by simp⟩
  | cons b bs ih =>
    rw [List.flatMap_cons, List.append_assoc] at hrest
    by_cases hp : b.rows.all (!isScript ·) = true
    · rw [readable, if_pos hp]
      obtain ⟨s, hs, hphase⟩ := reads_block h (hf b List.mem_cons_self) hplain hrest
        (b.plain_iff.mpr hp)
      obtain ⟨ps, hps, hproblem⟩ := ih hphase
        (fun c hc => hs.specs_eq ▸ hf c (List.mem_cons_of_mem _ hc)) (hs.specs_eq ▸ hplain)
        (hs.rest_of_append hrest)
      refine ⟨ps, ?_, hproblem⟩
      rw [hs.run_eq, hps, hs.events_eq, hs.line_eq, blockEvents]
      simp only [List.append_assoc]
    · rw [readable, if_neg hp]
      obtain ⟨t, ls, p, ht, hphase, hstop'⟩ := reads_block_stop h (hf b List.mem_cons_self) hplain
        hrest (mt b.plain_iff.mp hp)
      refine ⟨[.problem p], ?_, by simp⟩
      have hhead : ({ b with rows := b.rows.takeWhile (!isScript ·) } : WrittenBlock κ).head.length =
          b.head.length := by
        unfold WrittenBlock.head
        dsimp only
        cases b.spec.rows <;> rfl
      rw [ht.run_eq, run_of_stop hphase (ht.specs_eq ▸ hplain) hstop', blockEvents, blockEvents,
        hhead]
      simpa using ht.events_eq

end BlockReader

/-! ## Replaying rows -/

section

variable {row : β → κ → Nat → String → Int → β × List Report} {x y : β} {key : κ} {i : Nat}
  {line : Int} {text : String} {evs fvs : List (BlockEvent κ)} {τ : Type} {xs : List τ}
  {write : τ → String}

/-- One event of a replay. -/
def replayStep (row : β → κ → Nat → String → Int → β × List Report) (p : β × List Report) :
    BlockEvent κ → β × List Report
  | .row key i text line => ((row p.1 key i text line).1, p.2 ++ (row p.1 key i text line).2)
  | .problem report => (p.1, p.2 ++ [report])

theorem replay_eq_foldl (row : β → κ → Nat → String → Int → β × List Report) (x : β)
    (evs : List (BlockEvent κ)) : replay row x evs = evs.foldl (replayStep row) (x, []) := rfl

/-- Reports that are there already stay in front. -/
theorem foldl_replayStep (row : β → κ → Nat → String → Int → β × List Report) (x : β)
    (rs : List Report) (evs : List (BlockEvent κ)) : evs.foldl (replayStep row) (x, rs) =
      ((replay row x evs).1, rs ++ (replay row x evs).2) := by
  rw [replay_eq_foldl]
  induction evs generalizing x rs with
  | nil => simp
  | cons e evs ih =>
    rw [List.foldl_cons, List.foldl_cons]
    cases e with
    | row key index text line =>
      simp only [replayStep]
      rw [ih, ih _ ([] ++ _), List.nil_append, List.append_assoc]
    | problem p =>
      simp only [replayStep]
      rw [ih, ih _ ([] ++ _), List.nil_append, List.append_assoc]

theorem replay_row : replay row x (.row key i text line :: evs) =
    ((replay row (row x key i text line).1 evs).1,
      (row x key i text line).2 ++ (replay row (row x key i text line).1 evs).2) := by
  rw [replay_eq_foldl, List.foldl_cons]
  exact foldl_replayStep row _ _ evs

theorem replay_problem_cons (p : Report) : replay row x (.problem p :: evs) =
    ((replay row x evs).1, p :: (replay row x evs).2) := by
  rw [replay_eq_foldl, List.foldl_cons]
  exact foldl_replayStep row _ _ evs

theorem replay_problem (p : Report) :
    (replay row x (.problem p :: evs)).1 = (replay row x evs).1 := by
  rw [replay_problem_cons]

theorem replay_append (row : β → κ → Nat → String → Int → β × List Report) (x : β)
    (evs fvs : List (BlockEvent κ)) : replay row x (evs ++ fvs) =
      ((replay row (replay row x evs).1 fvs).1,
        (replay row x evs).2 ++ (replay row (replay row x evs).1 fvs).2) := by
  rw [replay_eq_foldl, List.foldl_append]
  exact foldl_replayStep row _ _ fvs

/-- Problems of the reader change nothing but the reports. -/
theorem replay_problems (h : ∀ e ∈ evs, ∃ p, e = .problem p) : (replay row x evs).1 = x := by
  induction evs generalizing x with
  | nil => rfl
  | cons e evs ih =>
    obtain ⟨p, rfl⟩ := h e List.mem_cons_self
    rw [replay_problem]
    exact ih fun e he => h e (List.mem_cons_of_mem _ he)

/-- Rows that change one part of a state: it is enough to follow that part. -/
theorem replay_rows_part {γ : Type} (put : γ → β) (change : γ → Nat → τ → γ)
    (h : ∀ x ∈ xs, ∀ t i line, (row (put t) key i (write x) line).1 = put (change t i x))
    (t : γ) (i : Nat) (line : Int) :
    (replay row (put t) (rowEvents key i line (xs.map write))).1 =
      put ((xs.zipIdx i).foldl (fun t p => change t p.2 p.1) t) := by
  induction xs generalizing t i line with
  | nil => rfl
  | cons x xs ih =>
    rw [List.map_cons, rowEvents, replay_row, List.zipIdx_cons, List.foldl_cons,
      h x List.mem_cons_self]
    exact ih (fun z hz => h z (List.mem_cons_of_mem _ hz)) _ _ _

/-- Rows that each add a member to a list of a state, and report nothing. -/
theorem replay_rows_append {γ : Type} (put : List γ → β) {member : τ → γ}
    (h : ∀ x ∈ xs, ∀ t i line, row (put t) key i (write x) line = (put (t ++ [member x]), []))
    (t : List γ) (i : Nat) (line : Int) :
    replay row (put t) (rowEvents key i line (xs.map write)) =
      (put (t ++ xs.map member), []) := by
  induction xs generalizing t i line with
  | nil => rw [List.map_nil, List.map_nil, List.append_nil]; rfl
  | cons x xs ih =>
    rw [List.map_cons, rowEvents, replay_row, h x List.mem_cons_self,
      ih fun z hz => h z (List.mem_cons_of_mem _ hz)]
    simp

/-- What no row of some blocks changes stays as it is. -/
theorem replay_blocks_field {γ : Type} {field : β → γ} {bs : List (WrittenBlock κ)}
    (h : ∀ b ∈ bs, ∀ x i text line, field (row x b.spec.key i text line).1 = field x) (x : β)
    (line : Int) : field (replay row x (blockEvents line bs)).1 = field x := by
  have hrows {key : κ} (hkey : ∀ x i text line, field (row x key i text line).1 = field x) (x : β)
      (i : Nat) (line : Int) (rows : List String) :
      field (replay row x (rowEvents key i line rows)).1 = field x := by
    induction rows generalizing x i line with
    | nil => rfl
    | cons text rows ih =>
      rw [rowEvents, replay_row]
      exact (ih _ _ _).trans (hkey x i text line)
  induction bs generalizing x line with
  | nil => rfl
  | cons b bs ih =>
    rw [blockEvents, replay_append]
    exact (ih (fun c hc => h c (List.mem_cons_of_mem _ hc)) _ _).trans
      (hrows (h b List.mem_cons_self) _ _ _ _)

theorem mem_readable {b : WrittenBlock κ} {bs : List (WrittenBlock κ)} (h : b ∈ readable bs) :
    ∃ c ∈ bs, b.spec = c.spec := by
  induction bs with
  | nil => simp [readable] at h
  | cons c bs ih =>
    rw [readable] at h
    split at h
    · rcases List.mem_cons.mp h with rfl | h
      · exact ⟨b, List.mem_cons_self, rfl⟩
      · obtain ⟨d, hd, hspec⟩ := ih h
        exact ⟨d, List.mem_cons_of_mem _ hd, hspec⟩
    · rw [List.mem_singleton.mp h]
      exact ⟨c, List.mem_cons_self, rfl⟩

/-- The first of some blocks alone decides about a part that the others leave as it is: if that
becomes what it should be, all of the block was read, and the others are read after it. -/
theorem replay_readable_cons {γ : Type} (field : β → γ) (put : γ → β)
    (hput : ∀ t, field (put t) = t) {t goal : γ} {p : Prop} {b : WrittenBlock κ} {bs : List (WrittenBlock κ)}
    (hrest : ∀ c ∈ bs, ∀ x i text line, field (row x c.spec.key i text line).1 = field x)
    (hread : ∀ line, (replay row x (rowEvents b.spec.key 0 line
      (b.rows.takeWhile (!isScript ·)))).1 = put t)
    (hgoal : t = goal ↔ p) (hplain : p → b.Plain) (line : Int) :
    (p → ∃ n, (replay row x (blockEvents line (readable (b :: bs)))).1 =
        (replay row (put goal) (blockEvents n (readable bs))).1) ∧
      (field (replay row x (blockEvents line (readable (b :: bs)))).1 = goal → p) := by
  by_cases hb : b.rows.all (!isScript ·) = true
  · have htake : b.rows.takeWhile (!isScript ·) = b.rows :=
      List.takeWhile_eq_self_iff.mpr (List.all_eq_true.mp hb)
    have hcons : (replay row x (blockEvents line (readable (b :: bs)))).1 =
        (replay row (put t) (blockEvents (line + b.lines.length) (readable bs))).1 := by
      have hrows := hread (line + b.head.length)
      rw [htake] at hrows
      rw [readable, if_pos hb, blockEvents, replay_append]
      dsimp only
      rw [hrows]
    have hkeep : ∀ c ∈ readable bs, ∀ x i text line,
        field (row x c.spec.key i text line).1 = field x := by
      intro c hc
      obtain ⟨d, hd, hspec⟩ := mem_readable hc
      rw [hspec]
      exact hrest d hd
    have hfield := (replay_blocks_field hkeep (put t) (line + b.lines.length)).trans (hput t)
    refine ⟨fun hp => ⟨_, (hgoal.mpr hp) ▸ hcons⟩, fun h => hgoal.mp ?_⟩
    rwa [hcons, hfield] at h
  · refine ⟨fun hp => absurd (b.plain_iff.mp (hplain hp)) hb, fun h => hgoal.mp ?_⟩
    rw [readable, if_neg hb, blockEvents, blockEvents, List.append_nil] at h
    rw [← h]
    exact ((congrArg field (hread _)).trans (hput t)).symm

end

end Flipbook.Script
