import Mathlib
import Flipbook.Proofs.FoundBlocks
import Flipbook.Proofs.Dispatch
import Flipbook.Proofs.Sessions
import Flipbook.Script.Context

/-!
Reading comes to an end. A step of a reader takes a line, unless a block is cut short there; then the
next step is the last. So the lines that a run takes bound its steps, and no number in a script does.
A turn of the reading of a whole script passes its line and the lines of its blocks, and no more than
there are.
-/
namespace Flipbook.Script

open Text

namespace BlockReader

variable {κ : Type} {r : BlockReader κ}

/-- A reader of a count or of rows has a block in progress. -/
def Busy (r : BlockReader κ) : Prop :=
  r.phase = .count ∨ r.phase = .rows → r.active.isSome = true

theorem size_take {n : Nat} (h : n ≤ r.rest.length) :
    (r.take n).taken.size = r.taken.size + n := by
  simp [take, h]

theorem openBlock_eqs (r : BlockReader κ) (b : BlockSpec κ) :
    (r.openBlock b).specs = r.specs ∧ (r.openBlock b).active = some b ∧
      (r.openBlock b).taken = (r.take 1).taken := by
  unfold openBlock
  cases b.rows <;> exact ⟨rfl, rfl, rfl⟩

/-- A reader of names takes a line, or it is done. -/
theorem readName_advances (r : BlockReader κ) : r.readName.specs = r.specs ∧ r.readName.Busy ∧
    (r.taken.size < r.readName.taken.size ∨ r.readName = { r with phase := .done }) := by
  have hle : (r.rest.takeWhile isBlankLine).length ≤ r.rest.length :=
    (List.takeWhile_prefix _).length_le
  have hskip := size_take hle
  unfold readName
  generalize (r.rest.takeWhile isBlankLine).length = n at hle hskip
  dsimp only
  cases hs : ((r.take n).rest.head?.bind fun line => (words line).head?).bind (r.take n).spec? with
  | some b =>
    obtain ⟨hspecs, hactive, htaken⟩ := openBlock_eqs (r.take n) b
    obtain ⟨w, hw, -⟩ := Option.bind_eq_some_iff.mp hs
    obtain ⟨line, hline, -⟩ := Option.bind_eq_some_iff.mp hw
    have hpos := List.length_pos_of_mem (List.mem_of_head? hline)
    refine ⟨hspecs, fun _ => by rw [hactive]; rfl, .inl ?_⟩
    rw [htaken, size_take hpos, hskip]
    omega
  | none =>
    refine ⟨rfl, by simp [Busy], ?_⟩
    by_cases hn : n = 0
    · subst hn
      exact .inr (by simp [take])
    · exact .inl (by dsimp only; omega)

/-- A step takes a line, or the next step ends the reading and takes none either. -/
structure Advances (r t : BlockReader κ) : Prop where
  specs : t.specs = r.specs
  busy : t.Busy
  taken : r.taken.size < t.taken.size ∨
    t.taken = r.taken ∧ t.step.phase = .done ∧ t.step.taken = r.taken

/-- A report on a block that is cut short takes no line, but then a script line comes next, or
none. -/
theorem advances_of_stop (hm : MarkFree r.specs) (hstop : AtStop r.rest) (line : Int)
    (p : Problem) : Advances r { r.report line p with phase := .name } where
  specs := rfl
  busy := by simp [Busy]
  taken := by
    have hstep := (step_name rfl).trans
      (readName_of_stop (r := { r.report line p with phase := .name }) hm hstop)
    exact .inr ⟨rfl, by rw [hstep], by rw [hstep]; rfl⟩

theorem step_advances (hm : MarkFree r.specs) (hb : r.Busy) (h : r.phase ≠ .done) :
    Advances r r.step := by
  cases hphase : r.phase with
  | done => exact absurd hphase h
  | name =>
    rw [step_name hphase]
    obtain ⟨hspecs, hbusy, htaken | hdone⟩ := readName_advances r
    · exact ⟨hspecs, hbusy, .inl htaken⟩
    · refine ⟨hspecs, hbusy, .inr ?_⟩
      rw [hdone]
      exact ⟨rfl, rfl, rfl⟩
  | count =>
    obtain ⟨b, ha⟩ := Option.isSome_iff_exists.mp (hb (.inl hphase))
    rw [step_count hphase ha]
    rcases atStop_or_plain r.rest with hstop | ⟨line, more, hrest, hl⟩
    · rw [readCount_stop hstop]
      exact advances_of_stop hm hstop _ _
    · have htake : r.taken.size < (r.take 1).taken.size := by simp [take_cons hrest]
      rw [readCount_plain hrest hl]
      cases (words line).head?.bind Numeral.readInt? with
      | none => exact ⟨rfl, by simp [Busy], .inl htake⟩
      | some n => exact ⟨rfl, fun _ => by simp [beginRows, take, ha], .inl htake⟩
  | rows =>
    obtain ⟨b, ha⟩ := Option.isSome_iff_exists.mp (hb (.inr hphase))
    rw [step_rows hphase ha]
    rcases atStop_or_plain r.rest with hstop | ⟨line, more, hrest, hl⟩
    · rw [readRow_stop hstop]
      exact advances_of_stop hm hstop _ _
    · have htake : r.taken.size < (r.take 1).taken.size := by simp [take_cons hrest]
      rw [readRow_plain hrest hl]
      exact ⟨rfl, fun _ => by simp [take, ha], .inl htake⟩

theorem step_of_done (h : r.phase = .done) : r.step = r := by
  simp only [step, h]

/-- After any number of steps a reader of a count or of rows has a block in progress. -/
theorem busy_iterate (hm : MarkFree r.specs) (hb : r.Busy) (k : Nat) :
    (step^[k] r).specs = r.specs ∧ (step^[k] r).Busy := by
  induction k with
  | zero => exact ⟨rfl, hb⟩
  | succ k ih =>
    obtain ⟨hspecs, hbusy⟩ := ih
    rw [Function.iterate_succ_apply']
    by_cases h : (step^[k] r).phase = .done
    · rw [step_of_done h]
      exact ⟨hspecs, hbusy⟩
    · have hstep := step_advances (hspecs ▸ hm) hbusy h
      exact ⟨hstep.specs.trans hspecs, hstep.busy⟩

/-- The steps of a run: a step that takes no line is the last or the last but one, and there are at
most two more steps than lines taken. -/
theorem run_iterate (hm : MarkFree r.specs) (hb : r.Busy) : ∃ n, step^[n] r = r.run ∧
    r.run.phase = .done ∧ (∀ k < n, (step^[k] r).phase ≠ .done) ∧
    (∀ k, k + 1 < n → (step^[k + 1] r).taken = (step^[k] r).taken → k + 2 = n) ∧
    n + r.taken.size ≤ r.run.taken.size + 2 := by
  fun_induction run r with
  | case1 r h => exact ⟨0, rfl, h, by simp, by simp, by omega⟩
  | case2 r h ih =>
    have hstep := step_advances hm hb h
    obtain ⟨n, hrun, hdone, hlive, hidle, hsize⟩ := ih (hstep.specs ▸ hm) hstep.busy
    have hshort (hnone : r.step.taken = r.taken) : n ≤ 1 ∧ r.step.run.taken = r.taken := by
      rcases hstep.taken with htake | ⟨-, hend, hnext⟩
      · rw [hnone] at htake
        exact absurd htake (lt_irrefl _)
      · have hn : n ≤ 1 := by
          by_contra hn
          exact hlive 1 (by omega) hend
        refine ⟨hn, ?_⟩
        rw [← hrun]
        rcases Nat.le_one_iff_eq_zero_or_eq_one.mp hn with rfl | rfl
        · exact hnone
        · exact hnext
    refine ⟨n + 1, hrun, hdone, ?_, ?_, ?_⟩
    · intro k hk
      cases k with
      | zero => exact h
      | succ k => exact hlive k (by omega)
    · intro k hk hsame
      cases k with
      | zero =>
        obtain ⟨hn, -⟩ := hshort hsame
        omega
      | succ k =>
        have hlast := hidle k (by omega) hsame
        omega
    · rcases hstep.taken with htake | ⟨hnone, -⟩
      · omega
      · obtain ⟨hn, htaken⟩ := hshort hnone
        rw [htaken]
        omega

end BlockReader

/-! ## The turns of a script -/

namespace Context

variable {cfg : Config Binary64} {lines rest : List String} {source : String} {i : Nat}

/-- What is done with the next line: a plain line is passed over, a script line goes into its mode
and its command is run. -/
def turn (cfg : Config Binary64) (c : Context) : Except CursorFault Context := do
  match ← c.cursor.peek with
  | none => return c
  | some line =>
    match route line with
    | none => return c.skip
    | some r =>
      let (_, d) ← c.take r.mode
      d.dispatch cfg r.mode r.remainder c.cursor.line

/-- From `c` reading goes on to `d`, as a line is left. -/
def Goes (cfg : Config Binary64) (c d : Context) : Prop :=
  c.cursor.isAtEnd = false ∧ c.turn cfg = .ok d

/-- The turns of a script, one after the other. -/
def Reaches (cfg : Config Binary64) : Context → Context → Prop := Relation.ReflTransGen (Goes cfg)

theorem isAtEnd_ofIndex (lines : List String) (i : Nat) :
    (Cursor.ofIndex lines i).isAtEnd = true ↔ lines.length ≤ i := by
  rw [Cursor.ofIndex_natCast]
  simp [Cursor.isAtEnd]

theorem peek_ofIndex (hrest : lines.drop i = source :: rest) :
    (Cursor.ofIndex lines i).peek = .ok (some source) := by
  rw [Cursor.ofIndex_natCast, hrest]
  rfl

theorem turn_eq (cfg : Config Binary64) {c : Context} (h : c.cursor.peek = .ok (some source)) :
    c.turn cfg = match route source with
      | none => .ok c.skip
      | some r => c.take r.mode >>= fun p =>
          p.2.dispatch cfg r.mode r.remainder c.cursor.line := by
  unfold turn
  rw [h]
  change (match route source with | none => _ | some r => _) = _
  cases route source <;> rfl

/-- A plain line is passed over. -/
theorem turn_plain (hrest : lines.drop i = source :: rest)
    (hplain : statementAt? cfg.maxGridCells source (i + 1) rest = none) (s : Session) :
    turn cfg ⟨.ofIndex lines i, s⟩ = .ok ⟨.ofIndex lines (i + 1 : Nat), s⟩ := by
  have hroute : route source = none := Option.map_eq_none_iff.mp hplain
  rw [turn_eq cfg (peek_ofIndex hrest), hroute, ← Cursor.ofIndex_advance]
  rfl

/-- A statement is passed over as a whole. -/
theorem turn_statement {st : Statement} (hrest : lines.drop i = source :: rest)
    (hst : statementAt? cfg.maxGridCells source (i + 1) rest = some st) (s : Session) :
    turn cfg ⟨.ofIndex lines i, s⟩ =
      .ok ⟨.ofIndex lines (i + 1 + st.outcome.taken.length : Nat), s.apply cfg st⟩ := by
  obtain ⟨r, hroute, rfl⟩ := Option.map_eq_some_iff.mp hst
  have hnext : Cursor.ofIndex lines (i + 1 : Nat) = ⟨rest, (i + 1 : Nat) + 1, 0⟩ := by
    rw [Cursor.ofIndex_natCast, ← List.drop_drop, hrest, List.drop_one, List.tail_cons]
  have hline : (Cursor.ofIndex lines i).line = (i + 1 : Nat) := by
    rw [Cursor.ofIndex_natCast]
    rfl
  have htake : take ⟨.ofIndex lines i, s⟩ r.mode =
      .ok (source, ⟨.ofIndex lines (i + 1 : Nat), s.update r.mode (·.record [source])⟩) := by
    unfold take
    rw [peek_ofIndex hrest, ← Cursor.ofIndex_advance]
    rfl
  have hdispatch := dispatch_eq cfg
    (c := ⟨.ofIndex lines (i + 1 : Nat), s.update r.mode (·.record [source])⟩) (by rw [hnext])
    r.mode r.remainder (i + 1 : Nat)
  dsimp only [update] at hdispatch
  rw [Cursor.ofIndex_advance, Session.update_update, hnext] at hdispatch
  rw [turn_eq cfg (peek_ofIndex hrest), hroute]
  dsimp only
  rw [htake, hline, hnext]
  exact hdispatch

/-- A turn goes forward, not beyond the last line, and what is then left does to the session what
was left before. -/
theorem turn_advances (cfg : Config Binary64) (hi : i < lines.length) (s : Session) :
    ∃ (j : Nat) (s' : Session), i < j ∧ j ≤ lines.length ∧
      turn cfg ⟨.ofIndex lines i, s⟩ = .ok ⟨.ofIndex lines j, s'⟩ ∧
      s'.applyAll cfg (statementsFrom cfg.maxGridCells (j + 1) (lines.drop j)) =
        s.applyAll cfg (statementsFrom cfg.maxGridCells (i + 1) (lines.drop i)) := by
  have hrest : lines.drop i = lines[i] :: lines.drop (i + 1) := List.drop_eq_getElem_cons hi
  rw [hrest, statementsFrom]
  cases hst : statementAt? cfg.maxGridCells lines[i] (i + 1) (lines.drop (i + 1)) with
  | none => exact ⟨i + 1, s, by omega, hi, turn_plain hrest hst s, rfl⟩
  | some st =>
    obtain ⟨r, hroute, hr⟩ := Option.map_eq_some_iff.mp hst
    obtain ⟨⟨more, hmore⟩, -⟩ := takes_perform cfg.maxGridCells r.remainder (i + 1 : Nat)
      (lines.drop (i + 1)) ((i + 1 : Nat) + 1)
    have hlen := congrArg List.length hmore
    rw [List.length_append, List.length_drop] at hlen
    have htaken : st.outcome.taken.length ≤ lines.length - (i + 1) := by
      rw [← hlen, ← hr]
      exact Nat.le_add_right _ _
    refine ⟨i + 1 + st.outcome.taken.length, s.apply cfg st, by omega, by omega,
      turn_statement hrest hst s, ?_⟩
    have hline : i + 1 + st.outcome.taken.length + 1 = i + 1 + 1 + st.outcome.taken.length := by
      omega
    rw [hline, ← List.drop_drop]
    rfl

/-- Wherever reading comes to is a place in the lines, and what is left there does to the session what
all was to do. -/
theorem reaches_keeps {c : Context} {s : Session}
    (h : Reaches cfg ⟨.ofIndex lines (0 : Nat), s⟩ c) : ∃ i ≤ lines.length,
      c.cursor = .ofIndex lines i ∧
      c.session.applyAll cfg (statementsFrom cfg.maxGridCells (i + 1) (lines.drop i)) =
        s.applyAll cfg (statementsFrom cfg.maxGridCells 1 lines) := by
  induction h with
  | refl => exact ⟨0, Nat.zero_le _, rfl, rfl⟩
  | @tail c d _ hgo ih =>
    obtain ⟨i, -, hcursor, hsame⟩ := ih
    obtain ⟨hleft, hturn⟩ := hgo
    obtain ⟨cursor, session⟩ := c
    dsimp only at hcursor
    subst hcursor
    have hi : i < lines.length := by
      by_contra hi
      rw [(isAtEnd_ofIndex lines i).mpr (by omega)] at hleft
      cases hleft
    obtain ⟨j, s', -, hj, hnext, hkeep⟩ := turn_advances cfg hi session
    obtain rfl := Except.ok.inj (hturn.symm.trans hnext)
    exact ⟨j, hj, rfl, hkeep.trans hsame⟩

/-- From any place reading goes on to the end of the lines. -/
theorem reaches_end (cfg : Config Binary64) (hi : i ≤ lines.length) (s : Session) :
    ∃ s', Reaches cfg ⟨.ofIndex lines i, s⟩ ⟨.ofIndex lines lines.length, s'⟩ := by
  induction hlen : lines.length - i using Nat.strongRecOn generalizing i s with
  | ind n ih =>
    subst hlen
    rcases Nat.lt_or_eq_of_le hi with hlt | rfl
    · obtain ⟨j, s', hij, hj, hturn, -⟩ := turn_advances cfg hlt s
      obtain ⟨t, ht⟩ := ih (lines.length - j) (by omega) hj s' rfl
      have hleft : (Cursor.ofIndex lines i).isAtEnd = false := by
        rw [Bool.eq_false_iff, ne_eq, isAtEnd_ofIndex]
        omega
      exact ⟨t, .head ⟨hleft, hturn⟩ ht⟩
    · exact ⟨s, .refl⟩

/-- Wherever reading comes to, the end of the lines is reached, or the next turn goes forward. -/
theorem turn_of_reaches {c : Context} {s : Session}
    (h : Reaches cfg ⟨.ofIndex lines (0 : Nat), s⟩ c) : ∃ j ≤ lines.length,
      c.cursor = .ofIndex lines j ∧ (c.cursor.isAtEnd = true → j = lines.length) ∧
      (c.cursor.isAtEnd = false → ∃ d, c.turn cfg = .ok d ∧
        ∃ j' ≤ lines.length, j < j' ∧ d.cursor = .ofIndex lines j') := by
  obtain ⟨j, hj, hcursor, -⟩ := reaches_keeps h
  refine ⟨j, hj, hcursor, ?_, ?_⟩
  · rw [hcursor, isAtEnd_ofIndex]
    exact Nat.le_antisymm hj
  · rw [hcursor, Bool.eq_false_iff, ne_eq, isAtEnd_ofIndex]
    intro hlt
    obtain ⟨j', s', hless, hle, hturn, -⟩ := turn_advances cfg (Nat.lt_of_not_le hlt) c.session
    rw [← hcursor] at hturn
    exact ⟨_, hturn, j', hle, hless, rfl⟩

/-- At the end of its lines a script has been read. -/
theorem reaches_parse (cfg : Config Binary64) (text : String) :
    ∃ c, Reaches cfg { cursor := .ofIndex (Text.lines text) (0 : Nat) } c ∧
      c.cursor = .ofIndex (Text.lines text) (Text.lines text).length ∧
      (c.session.close cfg).reel = parse cfg text := by
  obtain ⟨s, hs⟩ := reaches_end cfg (Nat.zero_le (Text.lines text).length) {}
  refine ⟨_, hs, rfl, ?_⟩
  obtain ⟨j, hj, hcursor, hkeep⟩ := reaches_keeps hs
  have hend : (Cursor.ofIndex (Text.lines text) j).isAtEnd = true := by
    rw [← hcursor, isAtEnd_ofIndex]
  obtain rfl : j = (Text.lines text).length := Nat.le_antisymm hj ((isAtEnd_ofIndex _ j).mp hend)
  rw [List.drop_length, statementsFrom] at hkeep
  rw [parse, statements]
  exact congrArg (fun s : Session => (s.close cfg).reel) hkeep

end Context

/-- Reading always comes to an end. A reader of blocks is done after at most two more steps than it
takes lines, as a step that takes none is the last or the last but one; while it reads a count or rows,
it has a block in progress. Each turn of the reading of a script goes forward and not beyond the last
line; reading stops exactly at the end of the lines, and has then read the script. -/
theorem reading_ends {κ : Type} (specs : List (BlockSpec κ)) (hm : BlockReader.MarkFree specs)
    (blockLines : List String) (i : Nat) (cfg : Config Binary64) (text : String) :
    let r : BlockReader κ := { specs, rest := blockLines.drop i, line := i + 1 }
    let ls := lines text
    let start : Context := { cursor := .ofIndex ls (0 : Nat) }
    (∃ n, BlockReader.step^[n] r = r.run ∧ r.run.phase = .done ∧
      n ≤ r.run.taken.toList.length + 2 ∧
      (∀ k < n, (BlockReader.step^[k] r).phase ≠ .done) ∧
      ∀ k, k + 1 < n → (BlockReader.step^[k + 1] r).taken = (BlockReader.step^[k] r).taken →
        k + 2 = n) ∧
    (∀ k, (BlockReader.step^[k] r).phase = .count ∨ (BlockReader.step^[k] r).phase = .rows →
      (BlockReader.step^[k] r).active.isSome = true) ∧
    (∀ c, start.Reaches cfg c → ∃ j ≤ ls.length, c.cursor = .ofIndex ls j ∧
      (c.cursor.isAtEnd = true → j = ls.length) ∧
      (c.cursor.isAtEnd = false → ∃ d, c.turn cfg = .ok d ∧
        ∃ j' ≤ ls.length, j < j' ∧ d.cursor = .ofIndex ls j')) ∧
    ∃ c, start.Reaches cfg c ∧ c.cursor = .ofIndex ls ls.length ∧
      (c.session.close cfg).reel = parse cfg text := by
  intro r ls start
  have hbusy : r.Busy := by simp [BlockReader.Busy, r]
  obtain ⟨n, hrun, hdone, hlive, hidle, hsize⟩ := BlockReader.run_iterate hm hbusy
  refine ⟨⟨n, hrun, hdone, hsize, hlive, hidle⟩, ?_, ?_, Context.reaches_parse cfg text⟩
  · intro k
    exact (BlockReader.busy_iterate hm hbusy k).2
  · intro c hc
    exact Context.turn_of_reaches hc

theorem reading_ends_short_block :
    let r : BlockReader Nat :=
      { specs := twoSpecs, rest := ["LINES", "2", "red"].drop 0, line := (0 : Nat) + 1 }
    let text := "$v DEBUG\n\n$v COMMIT"
    let start : Context := { cursor := .ofIndex (lines text) (0 : Nat) }
    (∃ n, BlockReader.step^[n] r = r.run ∧ r.run.phase = .done ∧
      n ≤ r.run.taken.toList.length + 2) ∧
    ∃ c, start.Reaches {} c ∧ c.cursor = .ofIndex (lines text) (3 : Nat) ∧
      (c.session.close {}).reel = parse {} text := by
  intro r text start
  have hlen : (lines text).length = 3 := by decide +kernel
  obtain ⟨⟨n, hrun, hdone, hsize, -⟩, -, -, c, hc, hcursor, hreel⟩ :=
    reading_ends twoSpecs (by decide) ["LINES", "2", "red"] 0 {} text
  exact ⟨⟨n, hrun, hdone, hsize⟩, c, hc, hlen ▸ hcursor, hreel⟩

/-- The bound on the steps is met: the fourth of five takes no line, nor does the last. -/
example :
    let r : BlockReader Nat :=
      { specs := [⟨0, "LINES", none⟩], rest := ["LINES", "2", "red"], line := 1 }
    (BlockReader.step^[4] r).phase = .name ∧ (BlockReader.step^[5] r).phase = .done ∧
      (BlockReader.step^[5] r).taken = #["LINES", "2", "red"] := by decide +kernel

end Flipbook.Script
