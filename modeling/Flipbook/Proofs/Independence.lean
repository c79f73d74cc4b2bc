import Mathlib
import Flipbook.Proofs.Extracts

/-!
Modes do not interfere. What a mode shows depends on the lines that it consumes and on nothing else
of a script: not on other modes, nor on where its lines stand. A single frame depends on the lines
of its own text only, so this text replays it.
-/
namespace Flipbook

variable {α : Type} {ρ σ : Int → Int → Prop}

/-- Reports of one problem, at related lines. -/
structure Report.Alike (ρ : Int → Int → Prop) (p q : Report) : Prop where
  line : ρ p.line q.line
  problem_eq : p.problem = q.problem

/-- Notices that differ in the line of a report at most. -/
inductive Notice.Alike (ρ : Int → Int → Prop) : Notice → Notice → Prop
  | report {p q : Report} (h : p.Alike ρ q) : Alike ρ (.report p) (.report q)
  | same {n : Notice} (h : n.report? = none) : Alike ρ n n

/-- Frames that differ in the lines of their reports at most. -/
structure Frame.Alike (ρ : Int → Int → Prop) (f g : Frame α Notice) : Prop where
  commands_eq : f.commands = g.commands
  rawText_eq : f.rawText = g.rawText
  showDebug_eq : f.showDebug = g.showDebug
  errors : List.Forall₂ (Notice.Alike ρ) f.errors g.errors

/-- A notice without the number of its line. -/
def Notice.unnumbered : Notice → Notice
  | .report p => .report { p with line := 0 }
  | .conflict kept dropped n => .conflict kept dropped n
  | .overlap a b => .overlap a b

theorem Notice.Alike.unnumbered_eq {n n' : Notice} (h : n.Alike ρ n') :
    n.unnumbered = n'.unnumbered := by
  cases h with
  | report h => simp [unnumbered, h.problem_eq]
  | same => rfl

theorem Frame.Alike.unnumbered_eq {f g : Frame α Notice} (h : f.Alike ρ g) :
    f.mapErrors Notice.unnumbered = g.mapErrors Notice.unnumbered := by
  have herrors : f.errors.map Notice.unnumbered = g.errors.map Notice.unnumbered := by
    have hmap := h.errors.imp fun _ _ hn => hn.unnumbered_eq
    rw [← List.forall₂_eq_eq_eq, List.forall₂_map_left_iff, List.forall₂_map_right_iff]
    exact hmap
  simp [mapErrors, h.commands_eq, h.rawText_eq, h.showDebug_eq, herrors]

end Flipbook

namespace Flipbook.Script

variable {cfg : Config Binary64} {maxCells : Int} {st st' : Statement}
  {sts ts p q pending pending' : List Statement} {ρ σ : Int → Int → Prop} {text t₁ t₂ m : String}

/-! ## Statements alike -/

/-- Statements of the same lines that yield the same, but for the lines of their reports. -/
structure Statement.Alike (ρ : Int → Int → Prop) (st st' : Statement) : Prop where
  lines_eq : st.lines = st'.lines
  action_eq : st.outcome.action = st'.outcome.action
  reports : List.Forall₂ (Report.Alike ρ) st.outcome.reports st'.outcome.reports

theorem Statement.Alike.mono (h : st.Alike ρ st') (hρ : ∀ a b, ρ a b → σ a b) : st.Alike σ st' :=
  ⟨h.lines_eq, h.action_eq, h.reports.imp fun _ _ hp => ⟨hρ _ _ hp.line, hp.problem_eq⟩⟩

theorem drawn_alike (h : List.Forall₂ (Statement.Alike ρ) sts ts) : drawn sts = drawn ts := by
  induction h with
  | nil => rfl
  | cons hst _ ih => simp only [drawn, List.filterMap_cons, hst.action_eq] at ih ⊢; rw [ih]

theorem linesOf_alike (h : List.Forall₂ (Statement.Alike ρ) sts ts) : linesOf sts = linesOf ts := by
  induction h with
  | nil => rfl
  | cons hst _ ih => simp only [linesOf, List.flatMap_cons, hst.lines_eq] at ih ⊢; rw [ih]

theorem reported_alike (h : List.Forall₂ (Statement.Alike ρ) sts ts) :
    List.Forall₂ (Report.Alike ρ) (reported sts) (reported ts) := by
  induction h with
  | nil => exact .nil
  | cons hst _ ih => exact List.rel_append hst.reports ih

/-- Passages alike amount to frames alike. -/
theorem passageFrame_alike (cfg : Config Binary64) (h : List.Forall₂ (Statement.Alike ρ) p q) :
    (passageFrame cfg p).Alike ρ (passageFrame cfg q) := by
  have hdrawn := drawn_alike h
  refine ⟨?_, ?_, ?_, ?_⟩
  · simp only [passageFrame, Track.frameOf, hdrawn]
  · simp only [passageFrame, Track.frameOf, linesOf_alike h]
  · simp only [passageFrame, Track.frameOf, hdrawn]
  · rw [errors_passageFrame, errors_passageFrame, hdrawn]
    apply List.rel_append
    · rw [List.forall₂_map_left_iff, List.forall₂_map_right_iff]
      exact (reported_alike h).imp fun _ _ => Notice.Alike.report
    · exact List.forall₂_same.mpr fun n hn => .same (report?_of_mem_commitNotices hn)

theorem closes_alike (hp : List.Forall₂ (Statement.Alike ρ) pending pending')
    (hst : st.Alike ρ st') : closes pending st = closes pending' st' := by
  rw [closes, closes, hst.action_eq, drawn_alike hp]

theorem passagesFrom_alike (hp : List.Forall₂ (Statement.Alike ρ) pending pending')
    (h : List.Forall₂ (Statement.Alike ρ) sts ts) :
    List.Forall₂ (List.Forall₂ (Statement.Alike ρ)) (passagesFrom pending sts).groups
        (passagesFrom pending' ts).groups ∧
      List.Forall₂ (Statement.Alike ρ) (passagesFrom pending sts).rest
        (passagesFrom pending' ts).rest := by
  have hnil : List.Forall₂ (Statement.Alike ρ) [] [] := .nil
  induction h generalizing pending pending' with
  | nil => exact ⟨.nil, hp⟩
  | @cons st st' sts ts hst _ ih =>
    have hsame := closes_alike hp hst
    have hmore := List.rel_append hp (.cons hst .nil)
    cases hcloses : closes pending st with
    | true =>
      obtain ⟨hgroups, hrest⟩ := ih hnil
      rw [passagesFrom_cons_of_closes hcloses, passagesFrom_cons_of_closes (hsame ▸ hcloses)]
      exact ⟨.cons hmore hgroups, hrest⟩
    | false =>
      rw [passagesFrom_cons_of_not_closes hcloses,
        passagesFrom_cons_of_not_closes (hsame ▸ hcloses)]
      exact ih hmore

/-- Statements alike fall into passages alike. -/
theorem passages_alike (h : List.Forall₂ (Statement.Alike ρ) sts ts) :
    List.Forall₂ (List.Forall₂ (Statement.Alike ρ)) (passages sts).groups
      (passages ts).groups := by
  have hnil : List.Forall₂ (Statement.Alike ρ) [] [] := .nil
  obtain ⟨hgroups, hrest⟩ := passagesFrom_alike hnil h
  have hsame : comeToNothing (passagesFrom [] sts).rest =
      comeToNothing (passagesFrom [] ts).rest := by
    have hlength := (reported_alike hrest).length_eq
    rw [comeToNothing, comeToNothing, drawn_alike hrest, Bool.eq_iff_iff]
    simp [← List.length_eq_zero_iff, hlength]
  cases hnothing : comeToNothing (passagesFrom [] sts).rest with
  | true =>
    rw [passages_of_nothing hnothing, passages_of_nothing (hsame ▸ hnothing)]
    exact hgroups
  | false =>
    rw [passages_of_pending hnothing, passages_of_pending (hsame ▸ hnothing)]
    exact List.rel_append hgroups (.cons hrest .nil)

theorem frames_alike (h : List.Forall₂ (Statement.Alike ρ)
      (statementsOf cfg.maxGridCells t₁ m) (statementsOf cfg.maxGridCells t₂ m)) :
    List.Forall₂ (Frame.Alike ρ) ((parse cfg t₁).frames m) ((parse cfg t₂).frames m) := by
  rw [frames_eq, frames_eq, List.forall₂_map_left_iff, List.forall₂_map_right_iff]
  exact (passages_alike h).imp fun _ _ => passageFrame_alike cfg

/-! ## Lines at the same place -/

/-- Whether two numbers are those of lines at the same place of two lists of numbered lines. -/
def SamePlace (ps qs : List (String × Nat)) (a b : Int) : Prop :=
  ∃ p q, (p, q) ∈ ps.zip qs ∧ (p.2 : Int) = a ∧ (q.2 : Int) = b

theorem SamePlace.append {ps ps' qs qs' : List (String × Nat)} (hlength : ps.length = qs.length)
    {a b : Int} (h : SamePlace ps qs a b ∨ SamePlace ps' qs' a b) :
    SamePlace (ps ++ ps') (qs ++ qs') a b := by
  rcases h with ⟨p, q, hmem, hp, hq⟩ | ⟨p, q, hmem, hp, hq⟩
  · exact ⟨p, q, by rw [List.zip_append hlength]; exact List.mem_append_left _ hmem, hp, hq⟩
  · exact ⟨p, q, by rw [List.zip_append hlength]; exact List.mem_append_right _ hmem, hp, hq⟩

theorem samePlace_numbered (hlines : st'.lines = st.lines) {i : Nat} (hi : i < st.lines.length) :
    SamePlace st.numbered st'.numbered (st.line + i) (st'.line + i) := by
  refine ⟨(st.lines[i], st.line + i), (st.lines[i], st'.line + i), ?_, by simp, by simp⟩
  refine List.mem_iff_getElem?.mpr ⟨i, ?_⟩
  rw [List.getElem?_zip_eq_some]
  simp [Statement.numbered, hlines, hi]

/-- A copy reports the same at the same of its lines. -/
theorem alike_of_copy (hst : IsStatement maxCells st) (hcopy : st.Copy st') :
    st.Alike (SamePlace st.numbered st'.numbered) st' := by
  refine ⟨hcopy.lines_eq.symm, by rw [hcopy.outcome_eq]; rfl, ?_⟩
  rw [hcopy.outcome_eq, Outcome.moved, List.forall₂_map_right_iff, List.forall₂_same]
  intro p hp
  obtain ⟨i, hi, hline⟩ := hst.exists_line hp
  refine ⟨?_, rfl⟩
  have hmoved : (p.moved (st'.line - st.line)).line = st'.line + i := by
    simp only [Report.moved]
    omega
  rw [hline, hmoved]
  exact samePlace_numbered hcopy.lines_eq hi

theorem alike_of_copies (hsts : ∀ st ∈ sts, IsStatement maxCells st)
    (h : List.Forall₂ Statement.Copy sts ts) :
    List.Forall₂ (Statement.Alike
      (SamePlace (sts.flatMap (·.numbered)) (ts.flatMap (·.numbered)))) sts ts := by
  induction h with
  | nil => exact .nil
  | @cons st st' sts ts hcopy _ ih =>
    obtain ⟨hst, hsts⟩ := List.forall_mem_cons.mp hsts
    have hlength : st.numbered.length = st'.numbered.length := by
      simp [Statement.numbered, hcopy.lines_eq]
    refine .cons ?_ ((ih hsts).imp fun _ _ halike => ?_)
    · exact (alike_of_copy hst hcopy).mono fun _ _ h => SamePlace.append hlength (.inl h)
    · exact halike.mono fun _ _ h => SamePlace.append hlength (.inr h)

/-! ## Modes and frames by themselves -/

/-- Two scripts of which a mode consumes the same lines show it the same frames. Reports stand at
the same of these lines, whatever their numbers. This is so for the script of these lines alone. -/
theorem modes_independent (cfg : Config Binary64) {t₁ t₂ m : String}
    (h : (consumed cfg.maxGridCells t₁ m).map Prod.fst =
      (consumed cfg.maxGridCells t₂ m).map Prod.fst) :
    List.Forall₂ (Frame.Alike (SamePlace (consumed cfg.maxGridCells t₁ m)
        (consumed cfg.maxGridCells t₂ m))) ((parse cfg t₁).frames m) ((parse cfg t₂).frames m) ∧
      let ls := (consumed cfg.maxGridCells t₁ m).map Prod.fst
      let alone := "\n".intercalate ls
      consumed cfg.maxGridCells alone m = ls.zipIdx 1 ∧
        List.Forall₂ (Frame.Alike (SamePlace (consumed cfg.maxGridCells t₁ m) (ls.zipIdx 1)))
          ((parse cfg t₁).frames m) ((parse cfg alone).frames m) := by
  have hstatements (text : String) : ∀ st ∈ statementsOf cfg.maxGridCells text m,
      IsStatement cfg.maxGridCells st := fun st hst => (isStatement_of_mem_statementsOf hst).1
  have hframes {text : String} (hcopies : List.Forall₂ Statement.Copy
      (statementsOf cfg.maxGridCells t₁ m) (statementsOf cfg.maxGridCells text m)) :=
    frames_alike (alike_of_copies (hstatements t₁) hcopies)
  have hself : ∀ st ∈ statementsOf cfg.maxGridCells t₁ m,
      st ∈ statementsOf cfg.maxGridCells t₁ m := fun st hst => hst
  obtain ⟨hcopies, hconsumed, -⟩ := statements_extract hself
  have hlines : (consumed cfg.maxGridCells t₁ m).map Prod.fst =
      linesOf (statementsOf cfg.maxGridCells t₁ m) := map_fst_numbered _
  refine ⟨hframes (copies_of_lines (hstatements t₁) (hstatements t₂) ?_), ?_⟩
  · rw [← hlines, h]
    exact map_fst_numbered _
  · dsimp only
    rw [hlines]
    refine ⟨hconsumed, ?_⟩
    rw [← hconsumed]
    exact hframes hcopies

/-- A grid of one mode, cut short by a line of another one. -/
def cutGrid : String :=
  "$v(a) GRID 2 1 red red red\nWALL_VERTICAL\nY\n$v(b) SCORE 3\nY\n$v(a) COMMIT\n"

/-- The same grid after other lines, cut short by a line of its own mode. -/
def shiftedGrid : String :=
  "notes\n$v SCORE 1\n$v(a) GRID 2 1 red red red\nWALL_VERTICAL\nY\n$v(a) COMMIT"

theorem modes_independent_cutGrid :
    (consumed 2 cutGrid "a").map Prod.fst = (consumed 2 shiftedGrid "a").map Prod.fst ∧
      List.Forall₂ (Frame.Alike (SamePlace (consumed 2 cutGrid "a") (consumed 2 shiftedGrid "a")))
        ((parse { maxGridCells := 2 } cutGrid).frames "a")
        ((parse { maxGridCells := 2 } shiftedGrid).frames "a") :=
  have h : (consumed 2 cutGrid "a").map Prod.fst = (consumed 2 shiftedGrid "a").map Prod.fst := by
    decide +kernel
  ⟨h, (modes_independent { maxGridCells := 2 } h).1⟩

/-- The text of a frame ends with a line feed, and without it is a script that shows this frame
alone; only the numbers of reported lines may differ. -/
theorem frame_replays (cfg : Config Binary64) {text m : String} {f : Frame Binary64 Notice}
    (h : f ∈ (parse cfg text).frames m) :
    ∃ s, f.rawText = s ++ "\n" ∧
      (∃ g, (parse cfg s).frames m = [g] ∧
        g.mapErrors Notice.unnumbered = f.mapErrors Notice.unnumbered) ∧
      ∀ n ≠ m, (parse cfg s).frames n = [] := by
  rw [frames_eq] at h
  obtain ⟨p, hp, rfl⟩ := List.mem_map.mp h
  obtain ⟨hsomething, hself⟩ := passages_of_mem hp
  have hmem : ∀ st ∈ p, st ∈ statementsOf cfg.maxGridCells text m := by
    intro st hst
    exact mem_of_mem_groups hp hst
  obtain ⟨hcopies, -, hothers⟩ := statements_extract hmem
  -- A passage is one passage again, so its copy is one too.
  have halike := passages_alike
    (alike_of_copies (fun st hst => (isStatement_of_mem_statementsOf (hmem st hst)).1) hcopies)
  rw [hself] at halike
  obtain ⟨q, qs, hq, hqs, hgroups⟩ := List.forall₂_cons_left_iff.mp halike
  cases hqs
  have hrawText := Text.unlines_eq_intercalate (linesOf_ne_nil hsomething)
  refine ⟨extract p, hrawText, ⟨passageFrame cfg q, ?_, ?_⟩, ?_⟩
  · rw [frames_eq, hgroups]
    rfl
  · exact (passageFrame_alike cfg hq).unnumbered_eq.symm
  · intro n hn
    rw [frames_eq, hothers n hn]
    rfl

/-- A frame with a report, between lines of another mode. -/
def scoreText : String :=
  "$v(a) SCORE 1\n$v(b) DEBUG\n$v(a) NOPE\nnotes\n$v(a) COMMIT\n"

def scoreFrame : Frame Binary64 Notice where
  commands := [.score "1"]
  rawText := "$v(a) SCORE 1\n$v(a) NOPE\n$v(a) COMMIT\n"
  errors := [.report ⟨3, .unknownCommand "NOPE"⟩]

theorem frame_replays_score :
    scoreFrame ∈ (parse { maxGridCells := 1 } scoreText).frames "a" ∧
      ∃ s, scoreFrame.rawText = s ++ "\n" ∧
        (∃ g, (parse { maxGridCells := 1 } s).frames "a" = [g] ∧
          g.mapErrors Notice.unnumbered = scoreFrame.mapErrors Notice.unnumbered) ∧
        ∀ n ≠ "a", (parse { maxGridCells := 1 } s).frames n = [] :=
  have h : scoreFrame ∈ (parse { maxGridCells := 1 } scoreText).frames "a" := by decide +kernel
  ⟨h, frame_replays { maxGridCells := 1 } h⟩

end Flipbook.Script
