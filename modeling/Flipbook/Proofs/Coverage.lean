import Mathlib
import Flipbook.Proofs.Dispatch
import Flipbook.Proofs.Sessions

/-!
No script line is lost in a block. The statements of a script are all of its script lines, in order
and each once: between two statements lie plain lines only, taken by a command or passed over.
-/
namespace Flipbook.Script

open Text

variable {maxCells : Int} {ls : List String}

/-- The mode, the command text and the number of every script line, the first line having number
`line`. -/
def scriptLinesFrom (line : Nat) (ls : List String) : List (String × String × Nat) :=
  (ls.zipIdx line).filterMap fun (l, n) => (route l).map fun r => (r.mode, r.remainder, n)

/-- The script lines of a text, numbered from one. -/
def scriptLines (text : String) : List (String × String × Nat) := scriptLinesFrom 1 (lines text)

theorem scriptLinesFrom_append (line : Nat) (ls ms : List String) :
    scriptLinesFrom line (ls ++ ms) =
      scriptLinesFrom line ls ++ scriptLinesFrom (line + ls.length) ms := by
  simp [scriptLinesFrom, List.zipIdx_append]

theorem scriptLinesFrom_of_plain (line : Nat) (h : ∀ l ∈ ls, isScript l = false) :
    scriptLinesFrom line ls = [] := by
  induction ls generalizing line with
  | nil => rfl
  | cons l ls ih =>
    have hl : route l = none := by
      have hplain := h l List.mem_cons_self
      simpa [isScript] using hplain
    have hls := ih (line + 1) fun m hm => h m (List.mem_cons_of_mem _ hm)
    simpa [scriptLinesFrom, hl] using hls

/-- Each statement is a script line that was dispatched with all the lines after it. -/
theorem statementsFrom_map (maxCells : Int) (line : Nat) (ls : List String) :
    (statementsFrom maxCells line ls).map (fun s => (s.routed.mode, s.routed.remainder, s.line)) =
      scriptLinesFrom line ls := by
  fun_induction statementsFrom maxCells line ls with
  | case1 line => rfl
  | case2 line source rest h ih =>
    have hroute : route source = none := by simpa [statementAt?] using h
    rw [ih]
    simp [scriptLinesFrom, hroute]
  | case3 line source rest s h n ih =>
    obtain ⟨r, hr, rfl⟩ := Option.map_eq_some_iff.mp h
    obtain ⟨⟨more, hmore⟩, hplain⟩ := takes_perform maxCells r.remainder line rest (line + 1)
    have hrest : rest.drop n = more := by
      conv_lhs => rw [← hmore]
      exact List.drop_left
    have hlater : scriptLinesFrom (line + 1) rest = scriptLinesFrom (line + 1 + n) more := by
      conv_lhs => rw [← hmore]
      rw [scriptLinesFrom_append, scriptLinesFrom_of_plain _ hplain, List.nil_append]
    rw [List.map_cons, ih, hrest, ← hlater]
    simp [scriptLinesFrom, hr]

theorem outcome_of_mem_statementsFrom (maxCells : Int) (line : Nat) (ls pre : List String)
    (hpre : pre.length + 1 = line) :
    ∀ s ∈ statementsFrom maxCells line ls, s.outcome = perform maxCells s.routed.remainder s.line
      ((pre ++ ls).drop s.line) (s.line + 1) := by
  fun_induction statementsFrom maxCells line ls generalizing pre with
  | case1 line => simp
  | case2 line source rest h ih =>
    have hlater := ih (pre ++ [source]) (by simpa using hpre)
    simpa using hlater
  | case3 line source rest s h n ih =>
    obtain ⟨r, hr, rfl⟩ := Option.map_eq_some_iff.mp h
    obtain ⟨⟨more, hmore⟩, -⟩ := takes_perform maxCells r.remainder line rest (line + 1)
    set taken := (perform maxCells r.remainder line rest (line + 1)).taken with htaken
    have hn : n = taken.length := rfl
    have hrest : rest.drop n = more := by
      rw [hn, ← hmore]
      exact List.drop_left
    intro s hs
    rcases List.mem_cons.mp hs with rfl | hs
    · have hdrop : (pre ++ source :: rest).drop line = rest := by
        have hlen : line = (pre ++ [source]).length := by simpa using hpre.symm
        rw [← List.singleton_append, ← List.append_assoc, hlen]
        exact List.drop_left
      simp only [hdrop]
    · have hlater := ih (pre ++ source :: taken) (by simp [hn]; omega) s hs
      have hlines : pre ++ source :: taken ++ rest.drop n = pre ++ source :: rest := by
        rw [hrest, List.append_assoc, List.cons_append, hmore]
      rw [hlater, hlines]

/-- What reading a script dispatches is exactly its script lines, in line order and each once, every
one of them with the lines right after it; and the modes of the result are the default mode and
then the modes of these lines, in order of first appearance. -/
theorem script_lines_dispatched (cfg : Config Binary64) (text : String) :
    (statements cfg.maxGridCells text).map (fun s => (s.routed.mode, s.routed.remainder, s.line)) =
        scriptLines text ∧
      (∀ s ∈ statements cfg.maxGridCells text, s.outcome =
        perform cfg.maxGridCells s.routed.remainder s.line ((lines text).drop s.line)
          (s.line + 1)) ∧
      (parse cfg text).map Prod.fst =
        (defaultMode :: (scriptLines text).map Prod.fst).eraseDups := by
  have hmap := statementsFrom_map cfg.maxGridCells 1 (lines text)
  refine ⟨hmap, ?_, ?_⟩
  · exact outcome_of_mem_statementsFrom cfg.maxGridCells 1 (lines text) [] rfl
  · rw [modes_parse, scriptLines, ← hmap, List.map_map]
    rfl

end Flipbook.Script
