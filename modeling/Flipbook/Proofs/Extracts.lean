import Mathlib
import Flipbook.Proofs.Frames
import Flipbook.Proofs.Passages
import Flipbook.Proofs.Relocation

/-!
Extracts. Statements that consist of the same lines yield the same, wherever they stand. So the
lines of some statements, read without the rest of their script, are the lines of just such
statements again.
-/
namespace Flipbook.Script

open Text

variable {maxCells : Int} {st st' : Statement} {sts ts : List Statement} {ls ms : List String}
  {text m n : String} {line : Nat}

/-! ## Statements of scripts -/

/-- A statement that a script can have: a script line and what its command yields there. -/
structure IsStatement (maxCells : Int) (st : Statement) : Prop where
  route_eq : route st.source = some st.routed
  outcome_eq : ∃ rest, st.outcome =
    perform maxCells st.routed.remainder st.line rest (st.line + 1)

namespace IsStatement

theorem isScript (h : IsStatement maxCells st) : isScript st.source = true := by
  rw [Script.isScript, h.route_eq]
  rfl

theorem plain (h : IsStatement maxCells st) :
    ∀ l ∈ st.outcome.taken, Script.isScript l = false := by
  obtain ⟨rest, houtcome⟩ := h.outcome_eq
  rw [houtcome]
  exact (takes_perform maxCells st.routed.remainder st.line rest (st.line + 1)).2

/-- Every report of a statement points at one of its lines. -/
theorem exists_line (h : IsStatement maxCells st) {p : Report} (hp : p ∈ st.outcome.reports) :
    ∃ i < st.lines.length, p.line = st.line + (i : Nat) := by
  obtain ⟨rest, houtcome⟩ := h.outcome_eq
  have hlines : st.lines.length = 1 + st.outcome.taken.length := by
    simp [Statement.lines, Nat.add_comm]
  rw [houtcome] at hp hlines
  rcases pointsInto_perform hp with hown | ⟨hlow, hhigh⟩
  · exact ⟨0, by omega, by omega⟩
  · exact ⟨(p.line - st.line).toNat, by omega, by omega⟩

end IsStatement

/-- The lines of a statement with their numbers. -/
def Statement.numbered (st : Statement) : List (String × Nat) := st.lines.zipIdx st.line

/-- The lines that go into the frames of a mode, with their numbers: its script lines, and the plain
lines that their commands take. -/
def consumed (maxCells : Int) (text m : String) : List (String × Nat) :=
  (statementsOf maxCells text m).flatMap (·.numbered)

theorem map_fst_numbered (sts : List Statement) :
    (sts.flatMap (·.numbered)).map Prod.fst = linesOf sts := by
  rw [List.map_flatMap, linesOf]
  exact List.flatMap_congr fun st _ => List.zipIdx_map_fst st.line st.lines

theorem statementAt?_eq_some {source : String} {rest : List String}
    (h : statementAt? maxCells source line rest = some st) : IsStatement maxCells st ∧
      st.line = line ∧ source :: rest = st.lines ++ rest.drop st.outcome.taken.length ∧
        line + 1 + st.outcome.taken.length = line + st.lines.length := by
  obtain ⟨r, hr, hst⟩ := Option.map_eq_some_iff.mp h
  have houtcome : st.outcome = perform maxCells r.remainder line rest (line + 1) := by rw [← hst]
  obtain ⟨⟨more, hmore⟩, -⟩ := takes_perform maxCells r.remainder line rest (line + 1)
  rw [← houtcome] at hmore
  refine ⟨?_, by rw [← hst], ?_, ?_⟩
  · rw [← hst]
    exact ⟨hr, rest, rfl⟩
  · rw [← hmore, List.drop_left, Statement.lines, List.cons_append, ← hst]
  · rw [Statement.lines, List.length_cons]
    omega

/-- Reading lines, one line that is passed over or one statement at a time. -/
theorem statements_induction (maxCells : Int) {P : Nat → List String → Prop}
    (nil : ∀ line, P line [])
    (plain : ∀ line source rest, statementsFrom maxCells line (source :: rest) =
      statementsFrom maxCells (line + 1) rest → P (line + 1) rest → P line (source :: rest))
    (statement : ∀ st more, IsStatement maxCells st →
      statementsFrom maxCells st.line (st.lines ++ more) =
        st :: statementsFrom maxCells (st.line + st.lines.length) more →
      P (st.line + st.lines.length) more → P st.line (st.lines ++ more))
    (line : Nat) (ls : List String) : P line ls := by
  fun_induction statementsFrom maxCells line ls with
  | case1 line => exact nil line
  | case2 line source rest h ih =>
    exact plain line source rest (by rw [statementsFrom, h]) ih
  | case3 line source rest s h n ih =>
    have hsts : statementsFrom maxCells line (source :: rest) =
        s :: statementsFrom maxCells (line + 1 + n) (rest.drop n) := by rw [statementsFrom, h]
    obtain ⟨hst, rfl, hlines, hnext⟩ := statementAt?_eq_some h
    rw [hnext] at hsts ih
    rw [hlines] at hsts ⊢
    exact statement s _ hst hsts ih

theorem isStatement_of_mem (maxCells : Int) (line : Nat) (ls : List String) :
    ∀ st ∈ statementsFrom maxCells line ls, IsStatement maxCells st := by
  induction line, ls using statements_induction maxCells with
  | nil line => simp [statementsFrom]
  | plain line source rest hsts ih => rwa [hsts]
  | statement st more hst hsts ih =>
    rw [hsts]
    exact List.forall_mem_cons.mpr ⟨hst, ih⟩

/-- Statements consist of lines of their script, in order and each once. -/
theorem numbered_sublist (maxCells : Int) (line : Nat) (ls : List String) :
    ((statementsFrom maxCells line ls).flatMap (·.numbered)).Sublist (ls.zipIdx line) := by
  induction line, ls using statements_induction maxCells with
  | nil line => simp [statementsFrom]
  | plain line source rest hsts ih =>
    rw [hsts]
    exact ih.cons _
  | statement st more hst hsts ih =>
    rw [hsts, List.flatMap_cons, List.zipIdx_append]
    exact (List.Sublist.refl _).append ih

theorem isStatement_of_mem_statementsOf (h : st ∈ statementsOf maxCells text m) :
    IsStatement maxCells st ∧ st.routed.mode = m := by
  obtain ⟨hmem, hmode⟩ := List.mem_filter.mp h
  exact ⟨isStatement_of_mem maxCells 1 (lines text) st hmem, by simpa using hmode⟩

/-- No line of a statement holds a line feed. -/
theorem not_mem_lines_of_mem (h : st ∈ statementsOf maxCells text m) :
    ∀ l ∈ st.lines, '\n' ∉ l.toList := by
  intro l hl
  have hmem := (List.mem_filter.mp h).1
  have hlines : (linesOf (statements maxCells text)).Sublist (lines text) := by
    have hsub := (numbered_sublist maxCells 1 (lines text)).map Prod.fst
    rwa [map_fst_numbered, List.zipIdx_map_fst] at hsub
  exact not_mem_of_mem_lines (hlines.subset (List.mem_flatMap.mpr ⟨st, hmem, hl⟩))

/-! ## Copies -/

/-- One statement is a copy of another: it consists of the same lines and yields the same, with its
reports as much further down as its line. -/
structure Statement.Copy (st st' : Statement) : Prop where
  source_eq : st'.source = st.source
  routed_eq : st'.routed = st.routed
  outcome_eq : st'.outcome = st.outcome.moved (st'.line - st.line)

theorem Statement.Copy.lines_eq (h : st.Copy st') : st'.lines = st.lines := by
  rw [Statement.lines, Statement.lines, h.source_eq, h.outcome_eq]
  rfl

/-- What a statement yields on another line and before other statements. -/
theorem IsStatement.perform_eq (h : IsStatement maxCells st) (hstop : BlockReader.AtStop ms)
    (line : Nat) : perform maxCells st.routed.remainder line (st.outcome.taken ++ ms) (line + 1) =
      st.outcome.moved (line - st.line) := by
  obtain ⟨rest, houtcome⟩ := h.outcome_eq
  have hmoved := perform_moved hstop maxCells st.routed.remainder st.line rest (st.line + 1)
    (line - st.line)
  have hnumber : (st.line : Int) + (line - st.line) = line := by omega
  have hnext : (st.line : Int) + 1 + (line - st.line) = line + 1 := by omega
  rw [hnumber, hnext] at hmoved
  rw [houtcome, hmoved]

theorem copy_of_lines (h : IsStatement maxCells st) (h' : IsStatement maxCells st')
    (hsource : st'.source = st.source) (htaken : st'.outcome.taken = st.outcome.taken) :
    st.Copy st' := by
  have hrouted : st'.routed = st.routed := by
    have hroute := h'.route_eq
    rw [hsource, h.route_eq] at hroute
    exact (Option.some.inj hroute).symm
  have hstop : BlockReader.AtStop [] := by simp [BlockReader.AtStop]
  have hcopy := h.perform_eq hstop st'.line
  have hself := h'.perform_eq hstop st'.line
  rw [Int.sub_self, Outcome.moved_zero, htaken, hrouted, hcopy] at hself
  exact ⟨hsource, hrouted, hself.symm⟩

/-- After the lines of a statement comes a script line or nothing. -/
theorem atStop_linesOf (h : ∀ st ∈ sts, IsStatement maxCells st) :
    BlockReader.AtStop (linesOf sts) := by
  cases sts with
  | nil => simp [BlockReader.AtStop, linesOf]
  | cons st sts =>
    intro l hl
    obtain rfl := Option.some.inj hl
    exact (h st List.mem_cons_self).isScript

theorem takeWhile_plain (hplain : ∀ l ∈ ls, isScript l = false) (hstop : BlockReader.AtStop ms) :
    (ls ++ ms).takeWhile (!isScript ·) = ls := by
  have hnone : ms.takeWhile (!isScript ·) = [] := by
    cases ms with
    | nil => rfl
    | cons l ms => simp [hstop l rfl]
  rw [List.takeWhile_append_of_pos (by simpa using hplain), hnone, List.append_nil]

/-- Lines are cut into statements in one way only. -/
theorem copies_of_lines (h : ∀ st ∈ sts, IsStatement maxCells st)
    (h' : ∀ st ∈ ts, IsStatement maxCells st) (hlines : linesOf sts = linesOf ts) :
    List.Forall₂ Statement.Copy sts ts := by
  induction sts generalizing ts with
  | nil =>
    cases ts with
    | nil => exact .nil
    | cons st' ts => cases hlines
  | cons st sts ih =>
    cases ts with
    | nil => cases hlines
    | cons st' ts =>
      obtain ⟨hst, hsts⟩ := List.forall_mem_cons.mp h
      obtain ⟨hst', hts⟩ := List.forall_mem_cons.mp h'
      obtain ⟨hsource, hrest⟩ : st.source = st'.source ∧
          st.outcome.taken ++ linesOf sts = st'.outcome.taken ++ linesOf ts :=
        List.cons.inj hlines
      have htaken : st.outcome.taken = st'.outcome.taken := by
        have hcut := congrArg (List.takeWhile (!isScript ·)) hrest
        rwa [takeWhile_plain hst.plain (atStop_linesOf hsts),
          takeWhile_plain hst'.plain (atStop_linesOf hts)] at hcut
      rw [htaken] at hrest
      exact .cons (copy_of_lines hst hst' hsource.symm htaken.symm)
        (ih hsts hts (List.append_cancel_left hrest))

/-- The lines of some statements are those of copies of them. -/
theorem statementsFrom_linesOf (h : ∀ st ∈ sts, IsStatement maxCells st) (line : Nat) :
    List.Forall₂ Statement.Copy sts (statementsFrom maxCells line (linesOf sts)) := by
  induction sts generalizing line with
  | nil =>
    rw [linesOf, List.flatMap_nil, statementsFrom]
    exact .nil
  | cons st sts ih =>
    obtain ⟨hst, hsts⟩ := List.forall_mem_cons.mp h
    have hperform := hst.perform_eq (atStop_linesOf hsts) line
    have hlines : linesOf (st :: sts) = st.source :: (st.outcome.taken ++ linesOf sts) := rfl
    have htaken : (st.outcome.moved (line - st.line)).taken = st.outcome.taken := rfl
    rw [hlines, statementsFrom_cons hst.route_eq hperform, htaken, List.drop_left]
    exact .cons ⟨rfl, rfl, rfl⟩ (ih hsts _)

theorem linesOf_copies (h : List.Forall₂ Statement.Copy sts ts) : linesOf ts = linesOf sts := by
  induction h with
  | nil => rfl
  | cons hst _ ih =>
    rw [linesOf, linesOf, List.flatMap_cons, List.flatMap_cons, hst.lines_eq]
    exact congrArg _ ih

theorem mode_copies (h : List.Forall₂ Statement.Copy sts ts)
    (hmode : ∀ st ∈ sts, st.routed.mode = m) : ∀ st ∈ ts, st.routed.mode = m := by
  induction h with
  | nil => simp
  | cons hst _ ih =>
    obtain ⟨hfirst, hlater⟩ := List.forall_mem_cons.mp hmode
    exact List.forall_mem_cons.mpr ⟨hst.routed_eq ▸ hfirst, ih hlater⟩

/-! ## Extracts -/

/-- Some statements of a mode, as a text of their own. -/
def extract (sts : List Statement) : String := "\n".intercalate (linesOf sts)

/-- An extract has copies of its statements and no others; all of its lines are consumed. -/
theorem statements_extract (h : ∀ st ∈ sts, st ∈ statementsOf maxCells text m) :
    List.Forall₂ Statement.Copy sts (statementsOf maxCells (extract sts) m) ∧
      consumed maxCells (extract sts) m = (linesOf sts).zipIdx 1 ∧
      ∀ n ≠ m, statementsOf maxCells (extract sts) n = [] := by
  have hst : ∀ st ∈ sts, IsStatement maxCells st := fun st hmem =>
    (isStatement_of_mem_statementsOf (h st hmem)).1
  have hlines : lines (extract sts) = linesOf sts := by
    refine lines_intercalate (fun hone => ?_) fun l hl => ?_
    · have hempty := atStop_linesOf hst "" (by rw [hone]; rfl)
      revert hempty
      decide
    · obtain ⟨st, hmem, hl⟩ := List.mem_flatMap.mp hl
      exact not_mem_lines_of_mem (h st hmem) l hl
  have hcopies := statementsFrom_linesOf hst 1
  rw [← hlines, ← statements] at hcopies
  have hmode := mode_copies hcopies fun st hmem =>
    (isStatement_of_mem_statementsOf (h st hmem)).2
  have hall : statementsOf maxCells (extract sts) m = statements maxCells (extract sts) :=
    List.filter_eq_self.mpr fun st hmem => by simp [hmode st hmem]
  refine ⟨hall ▸ hcopies, ?_, fun n hn => ?_⟩
  · have hsub := numbered_sublist maxCells 1 (lines (extract sts))
    rw [consumed, hall]
    rw [← statements, hlines] at hsub
    refine hsub.eq_of_length ?_
    have hlength := congrArg List.length (map_fst_numbered (statements maxCells (extract sts)))
    rw [List.length_map, linesOf_copies hcopies] at hlength
    rw [hlength, List.length_zipIdx]
  · refine List.filter_eq_nil_iff.mpr fun st hmem => ?_
    simp [hmode st hmem, Ne.symm hn]

end Flipbook.Script
