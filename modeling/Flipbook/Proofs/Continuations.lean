import Mathlib
import Flipbook.Proofs.Dispatch
import Flipbook.Proofs.Passages
import Flipbook.Proofs.Turns

/-!
Scripts that go on. A command looks at the lines it takes and at the one behind them, so more lines
at the end of a script can change its last statement only, and only if that one draws. A statement
that commits stands alone on its line. So what was committed stays as it is, whatever follows.
-/
namespace Flipbook.Script

open Text

variable {κ : Type} {cfg : Config Binary64} {maxCells number line : Int} {text t₁ t₂ m : String}
  {rest more : List String} {sts ts : List Statement} {st : Statement}

/-! ## Readers with more lines behind -/

namespace BlockReader

variable {r t : BlockReader κ}

/-- A reader with more lines behind those to come. -/
def extended (more : List String) (r : BlockReader κ) : BlockReader κ :=
  { r with rest := r.rest ++ more }

theorem take_extended {l : String} {ls : List String} (h : r.rest = l :: ls)
    (more : List String) : (r.extended more).take 1 = (r.take 1).extended more := by
  have hrest : (r.extended more).rest = l :: (ls ++ more) := by simp [extended, h]
  rw [take_cons h, take_cons hrest]
  rfl

theorem openBlock_extended {l : String} {ls : List String} (h : r.rest = l :: ls)
    (b : BlockSpec κ) : (r.extended more).openBlock b = (r.openBlock b).extended more := by
  have htake := take_extended h more
  unfold openBlock
  rw [htake]
  cases b.rows <;> rfl

/-- While a line is to come, no reader looks further than at this line. -/
theorem Turn.extended (ht : Turn r t) (hne : r.rest ≠ []) (more : List String) :
    Turn (r.extended more) (t.extended more) := by
  have hhead : (r.extended more).rest.head? = r.rest.head? := List.head?_append_of_ne_nil _ hne
  have hrest {l : String} {ls : List String} (h : r.rest = l :: ls) :
      (r.extended more).rest = l :: (ls ++ more) := by simp [BlockReader.extended, h]
  have hstop (h : AtStop r.rest) : AtStop (r.extended more).rest := by
    unfold AtStop
    rwa [hhead]
  cases ht with
  | blank l ls h hl hb =>
    rw [← take_extended hl more]
    exact .blank l (ls ++ more) h (hrest hl) hb
  | block b l ls h hl hb hs =>
    rw [← openBlock_extended hl]
    exact .block b l (ls ++ more) h (hrest hl) hb hs
  | last h hl =>
    refine Turn.last (r := r.extended more) h ?_
    rwa [hhead]
  | noCount b h ha hl => exact Turn.noCount (r := r.extended more) b h ha (hstop hl)
  | count b l ls n h ha hl hplain hn =>
    have hturn := Turn.count (r := r.extended more) b l (ls ++ more) n h ha (hrest hl) hplain hn
    rwa [take_extended hl more] at hturn
  | badCount b l ls h ha hl hplain hn =>
    have hturn := Turn.badCount (r := r.extended more) b l (ls ++ more) h ha (hrest hl) hplain hn
    rwa [take_extended hl more] at hturn
  | noRow b h ha hl => exact Turn.noRow (r := r.extended more) b h ha (hstop hl)
  | row b l ls h ha hl hplain =>
    have hturn := Turn.row (r := r.extended more) b l (ls ++ more) h ha (hrest hl) hplain
    rwa [take_extended hl more] at hturn
  | lost h ha => exact Turn.lost (r := r.extended more) h ha

/-- A run that leaves a line comes to the same end with more lines behind. -/
theorem run_extended (hp : PlainNames r.specs) (hne : r.run.rest ≠ []) (more : List String) :
    (r.extended more).run = r.run.extended more := by
  induction r using turn_induction with
  | hdone r hr =>
    rw [run_of_done hr]
    exact run_of_done hr
  | hturn r t ht ih =>
    have hrest : r.rest ≠ [] := by
      obtain ⟨ls, evs, hreads⟩ := reads_run hp
      rw [hreads.rest_eq]
      exact List.append_ne_nil_of_right_ne_nil ls hne
    rw [ht.run_eq] at hne ⊢
    rw [(ht.extended hrest more).run_eq]
    exact ih (by rwa [ht.specs_eq]) hne

/-- A run takes all the lines, or with more lines behind them it takes and yields the same. -/
theorem run_append {specs : List (BlockSpec κ)} (hp : PlainNames specs) (rest more : List String)
    (line : Int) :
    let short : BlockReader κ := ({ specs, rest, line } : BlockReader κ).run
    let long : BlockReader κ := ({ specs, rest := rest ++ more, line } : BlockReader κ).run
    short.taken.toList = rest ∨ long.taken = short.taken ∧ long.events = short.events := by
  intro short long
  obtain ⟨ls, evs, hreads⟩ := reads_run (r := ({ specs, rest, line } : BlockReader κ)) hp
  by_cases hnil : short.rest = []
  · left
    have htaken : short.taken.toList = ls := hreads.taken_eq
    have hrest : rest = ls ++ short.rest := hreads.rest_eq
    rw [htaken, hrest, hnil, List.append_nil]
  · right
    have hlong : long = short.extended more :=
      run_extended (r := ({ specs, rest, line } : BlockReader κ)) hp hnil more
    rw [hlong]
    exact ⟨rfl, rfl⟩

end BlockReader

/-! ## Commands with more lines behind -/

/-- With more lines behind those that follow it a command yields the same, unless it draws and takes
all of them. -/
def Stays (rest : List String) (short long : Outcome) : Prop :=
  (short.action.drawn?.isSome ∧ short.taken = rest) ∨ long = short

theorem stays_readBarGraph (call : Call) (rest more : List String) (line : Int) :
    Stays rest (readBarGraph call rest line) (readBarGraph call (rest ++ more) line) := by
  unfold readBarGraph
  cases readBarGraphHeader call.params with
  | error fault => exact .inr rfl
  | ok h =>
    cases rest with
    | nil => exact .inl ⟨rfl, rfl⟩
    | cons l rest => exact .inr rfl

theorem stays_readGrid (maxCells : Int) (call : Call) (rest more : List String) (line : Int) :
    Stays rest (readGrid maxCells call rest line)
      (readGrid maxCells call (rest ++ more) line) := by
  unfold readGrid
  cases readGridHeader maxCells call.text with
  | error fault => exact .inr rfl
  | ok h =>
    rcases BlockReader.run_append (plainNames_gridSpecs h) rest more line with hall | hsame
    · exact .inl ⟨rfl, hall⟩
    · right
      dsimp only at hsame ⊢
      rw [hsame.1, hsame.2]

theorem stays_readPlane (call : Call) (rest more : List String) (line : Int) :
    Stays rest (readPlane call rest line) (readPlane call (rest ++ more) line) := by
  unfold readPlane
  cases readPlaneHeader call.text with
  | error fault => exact .inr rfl
  | ok h =>
    rcases BlockReader.run_append plainNames_planeSpecs rest more line with hall | hsame
    · exact .inl ⟨rfl, hall⟩
    · right
      dsimp only at hsame ⊢
      rw [hsame.1, hsame.2]

/-- More lines at the end matter only to a command that draws and took all lines there were. -/
theorem stays_perform (maxCells : Int) (text : String) (number : Int) (rest more : List String)
    (line : Int) : Stays rest (perform maxCells text number rest line)
      (perform maxCells text number (rest ++ more) line) := by
  unfold perform
  cases h : vocabulary.resolve text number with
  | blank => exact .inr rfl
  | unknown word => exact .inr rfl
  | call e call =>
    obtain ⟨hmem, -⟩ := resolve_call h
    simp only [vocabulary, List.mem_cons, List.not_mem_nil, or_false] at hmem
    rcases hmem with rfl | rfl | rfl | rfl | rfl | rfl | rfl | rfl
    · exact stays_readBarGraph call rest more line
    · exact .inr rfl
    · exact .inr rfl
    · exact .inr rfl
    · exact .inr rfl
    · exact .inr rfl
    · exact stays_readGrid maxCells call rest more line
    · exact stays_readPlane call rest more line

/-! ## Statements with more lines behind -/

/-- The statements of some lines stay where more lines follow, but for one at most: the last, if it
draws. -/
theorem statementsFrom_append (maxCells : Int) (line : Nat) (ls more : List String) :
    ∃ sts last later, statementsFrom maxCells line ls = sts ++ last ∧
      statementsFrom maxCells line (ls ++ more) = sts ++ later ∧
      last.length ≤ 1 ∧ ∀ st ∈ last, st.outcome.action.drawn?.isSome := by
  fun_induction statementsFrom maxCells line ls with
  | case1 line => exact ⟨[], [], _, rfl, rfl, by simp, by simp⟩
  | case2 line source rest h ih =>
    obtain ⟨sts, last, later, hshort, hlong, hlast⟩ := ih
    have hnone : statementAt? maxCells source line (rest ++ more) = none := by
      simpa [statementAt?] using h
    refine ⟨sts, last, later, hshort, ?_, hlast⟩
    rw [List.cons_append, statementsFrom, hnone]
    exact hlong
  | case3 line source rest s h n ih =>
    obtain ⟨r, hr, rfl⟩ := Option.map_eq_some_iff.mp h
    rcases stays_perform maxCells r.remainder line rest more (line + 1) with
      ⟨hdraws, hall⟩ | hsame
    · -- The statement took all lines, so it is the last one.
      have hn : rest.drop n = [] := by
        have hlength : n = rest.length := congrArg List.length hall
        rw [hlength, List.drop_length]
      rw [hn, statementsFrom]
      exact ⟨[], _, _, rfl, rfl, le_refl 1, List.forall_mem_singleton.mpr hdraws⟩
    · obtain ⟨sts, last, later, hshort, hlong, hlast⟩ := ih
      have hstatement : statementAt? maxCells source line (rest ++ more) =
          some ⟨line, source, r, perform maxCells r.remainder line rest (line + 1)⟩ := by
        rw [statementAt?, hr, Option.map_some, hsame]
      have hdrop : (rest ++ more).drop n = rest.drop n ++ more := by
        obtain ⟨⟨tail, htail⟩, -⟩ := takes_perform maxCells r.remainder line rest (line + 1)
        refine List.drop_append_of_le_length ?_
        rw [← htail, List.length_append]
        exact Nat.le_add_right _ _
      refine ⟨_ :: sts, last, later, by rw [hshort, List.cons_append], ?_, hlast⟩
      rw [List.cons_append, statementsFrom, hstatement]
      dsimp only
      rw [hdrop, hlong, List.cons_append]

/-- Behind a line feed a text goes on with further lines. -/
theorem exists_lines_append (h : t₁ ≠ "") (t₂ : String) :
    ∃ more, lines (t₁ ++ "\n" ++ t₂) = lines t₁ ++ more := by
  have hshort : t₁.isEmpty = false := by simpa [Bool.eq_false_iff] using h
  have hlong : (t₁ ++ "\n" ++ t₂).isEmpty = false := by
    simp [Bool.eq_false_iff, String.isEmpty_iff, ← String.toList_eq_nil_iff]
  have hfeed : (t₁ ++ "\n" ++ t₂).toList = t₁.toList ++ '\n' :: t₂.toList := by simp
  refine ⟨splitAt '\n' t₂, ?_⟩
  rw [lines, lines, hlong, hshort, if_neg Bool.false_ne_true, if_neg Bool.false_ne_true, splitAt,
    hfeed, cut_append_cons (p := (· == '\n')) (by decide), List.map_append]
  rfl

theorem statements_append (maxCells : Int) (t₁ t₂ : String) :
    ∃ sts last later, statements maxCells t₁ = sts ++ last ∧
      statements maxCells (t₁ ++ "\n" ++ t₂) = sts ++ later ∧
      last.length ≤ 1 ∧ ∀ st ∈ last, st.outcome.action.drawn?.isSome := by
  by_cases h : t₁ = ""
  · have hnone : statements maxCells t₁ = [] := by
      subst h
      simp [statements, lines, statementsFrom]
    exact ⟨[], [], _, hnone, rfl, by simp, by simp⟩
  · obtain ⟨more, hmore⟩ := exists_lines_append h t₂
    rw [statements, statements, hmore]
    exact statementsFrom_append maxCells 1 (lines t₁) more

/-! ## Committed frames -/

/-- The frames that the statements of a script have committed in a mode, before the end of the
script commits what is left. -/
def committed (cfg : Config Binary64) (text m : String) : List (Frame Binary64 Notice) :=
  ((Session.applyAll cfg {} (statements cfg.maxGridCells text)).track m).frames.toList

theorem committed_eq (cfg : Config Binary64) (text m : String) : committed cfg text m =
    (passagesFrom [] (statementsOf cfg.maxGridCells text m)).groups.map (passageFrame cfg) := by
  rw [committed, track_statements]
  rfl

/-- The end of a script adds one frame at most to those that were committed before. -/
theorem exists_flushed (cfg : Config Binary64) (text m : String) :
    ∃ flushed, (parse cfg text).frames m = committed cfg text m ++ flushed ∧
      flushed.length ≤ 1 := by
  rw [frames_eq, committed_eq]
  cases h : comeToNothing (passagesFrom [] (statementsOf cfg.maxGridCells text m)).rest with
  | true =>
    rw [passages_of_nothing h]
    exact ⟨[], (List.append_nil _).symm, by simp⟩
  | false =>
    rw [passages_of_pending h]
    exact ⟨_, List.map_append, by simp⟩

/-- A last statement that draws closes nothing. -/
theorem groups_append_drawing (hlength : ts.length ≤ 1)
    (hdraws : ∀ st ∈ ts, st.outcome.action.drawn?.isSome) (sts : List Statement) :
    (passagesFrom [] (sts ++ ts)).groups = (passagesFrom [] sts).groups := by
  rcases ts with _ | ⟨st, _ | ⟨next, ts⟩⟩
  · rw [List.append_nil]
  · have hopen : closes (passagesFrom [] sts).rest st = false := by
      have hst := hdraws st List.mem_cons_self
      cases haction : st.outcome.action with
      | draw c => simp [closes, haction]
      | commit => simp [haction, Action.drawn?] at hst
      | idle => simp [closes, haction]
    rw [passagesFrom_append, passagesFrom_cons_of_not_closes hopen, passagesFrom]
    exact List.append_nil _
  · simp at hlength

/-- What the commits of a script have added to a mode stays as it is: whatever follows behind a line
feed, even if it goes on with a block that the script ends in, these frames come first in their mode
and unchanged. The end of the script itself adds one frame at most to them. -/
theorem committed_frames_final (cfg : Config Binary64) (t₁ t₂ m : String) :
    committed cfg t₁ m <+: (parse cfg (t₁ ++ "\n" ++ t₂)).frames m ∧
      ∃ flushed, (parse cfg t₁).frames m = committed cfg t₁ m ++ flushed ∧
        flushed.length ≤ 1 := by
  refine ⟨?_, exists_flushed cfg t₁ m⟩
  obtain ⟨flushed, hflushed, -⟩ := exists_flushed cfg (t₁ ++ "\n" ++ t₂) m
  obtain ⟨sts, last, later, hshort, hlong, hlength, hdraws⟩ :=
    statements_append cfg.maxGridCells t₁ t₂
  have hgroups : (passagesFrom [] (statementsOf cfg.maxGridCells t₁ m)).groups =
      (passagesFrom [] (sts.filter (·.routed.mode == m))).groups := by
    rw [statementsOf, hshort, List.filter_append]
    exact groups_append_drawing ((List.length_filter_le _ _).trans hlength)
      (fun st hst => hdraws st (List.mem_of_mem_filter hst)) _
  rw [hflushed, committed_eq, committed_eq, hgroups, statementsOf, hlong, List.filter_append,
    passagesFrom_append, List.map_append, List.append_assoc]
  exact List.prefix_append _ _

end Flipbook.Script
