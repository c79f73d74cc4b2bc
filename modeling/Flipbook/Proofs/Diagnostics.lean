import Mathlib
import Flipbook.Proofs.Conservation

/-!
Where reports point. The lines that go to a mode fall into parts, one for each of its frames, and a
rest; every report of a frame gives the number of a line of the part that the frame shows.
-/
namespace Flipbook

/-- A frame of some numbered lines of a script: they are its text, and each of its reports gives the
number of one of them, which is the number of that line in the script. -/
structure Frame.StandsOn (script : List String) (part : List (String × Nat))
    (f : Frame Binary64 Notice) : Prop where
  rawText_eq : f.rawText = Text.unlines (part.map Prod.fst)
  reports : ∀ p, .report p ∈ f.errors → ∃ l n, (l, n) ∈ part ∧
    1 ≤ n ∧ n ≤ script.length ∧ script[n - 1]? = some l ∧
    (Notice.report p).message = s!"Line {n}: {p.problem.message}"

end Flipbook

namespace Flipbook.Script

open Text

variable {maxCells : Int} {st : Statement} {sts p : List Statement} {text m l : String} {n : Nat}
  {r : Report}

theorem mem_numbered {i : Nat} (hi : i < st.lines.length) :
    (st.lines[i], st.line + i) ∈ st.numbered :=
  List.mem_iff_getElem?.mpr ⟨i, by simp [Statement.numbered, hi]⟩

/-- A report of some statements stands at one of their lines. -/
theorem exists_mem_numbered (h : ∀ st ∈ sts, IsStatement maxCells st) (hr : r ∈ reported sts) :
    ∃ l n, (l, n) ∈ sts.flatMap (·.numbered) ∧ r.line = (n : Nat) := by
  obtain ⟨st, hst, hr⟩ := List.mem_flatMap.mp hr
  obtain ⟨i, hi, hline⟩ := (h st hst).exists_line hr
  have hmem : (st.lines[i], st.line + i) ∈ sts.flatMap (·.numbered) :=
    List.mem_flatMap.mpr ⟨st, hst, mem_numbered hi⟩
  exact ⟨st.lines[i], st.line + i, hmem, by omega⟩

theorem message_report (h : r.line = (n : Nat)) :
    (Notice.report r).message = s!"Line {n}: {r.problem.message}" := by
  have hmessage : (Notice.report r).message = s!"Line {r.line}: {r.problem.message}" := rfl
  rw [hmessage, h, Numeral.toString_natCast]

/-- A line that a mode consumes is the line of its number. -/
theorem getElem?_of_mem_consumed (h : (l, n) ∈ consumed maxCells text m) :
    1 ≤ n ∧ n ≤ (lines text).length ∧ (lines text)[n - 1]? = some l := by
  rw [← ownedLines_eq] at h
  have hmem := List.mem_of_mem_filter h
  obtain ⟨hlow, hhigh, -⟩ := List.mem_zipIdx hmem
  refine ⟨hlow, by omega, ?_⟩
  rw [← Nat.add_sub_cancel' hlow] at hmem
  exact List.mk_add_mem_zipIdx_iff_getElem?.mp hmem

/-- The frame of a passage stands on the lines of the passage. -/
theorem standsOn_passageFrame (cfg : Config Binary64)
    (h : ∀ st ∈ p, st ∈ statementsOf maxCells text m) :
    (passageFrame cfg p).StandsOn (lines text) (p.flatMap (·.numbered)) := by
  refine ⟨?_, fun r hr => ?_⟩
  · rw [map_fst_numbered]
    rfl
  · have hreported : r ∈ reported p := by
      rw [← reports_passageFrame cfg p]
      exact List.mem_filterMap.mpr ⟨.report r, hr, rfl⟩
    obtain ⟨l, n, hmem, hline⟩ :=
      exists_mem_numbered (fun st hst => (isStatement_of_mem_statementsOf (h st hst)).1) hreported
    have hconsumed : (l, n) ∈ consumed maxCells text m := by
      obtain ⟨st, hst, hl⟩ := List.mem_flatMap.mp hmem
      exact List.mem_flatMap.mpr ⟨st, h st hst, hl⟩
    obtain ⟨hlow, hhigh, hget⟩ := getElem?_of_mem_consumed hconsumed
    exact ⟨l, n, hmem, hlow, hhigh, hget, message_report hline⟩

theorem flatten_map_numbered (groups : List (List Statement)) :
    (groups.map fun g => g.flatMap (·.numbered)).flatten =
      groups.flatten.flatMap (·.numbered) := by
  induction groups with
  | nil => rfl
  | cons g groups ih =>
    rw [List.map_cons, List.flatten_cons, ih, List.flatten_cons, List.flatMap_append]

/-- Every report points into its own frame. The lines that go to a mode can be cut, in order and
without a gap, into one part for each of its frames and a rest, so that each frame has its part as
its text and reports only on lines of this part. -/
theorem reports_in_frames (cfg : Config Binary64) (text m : String) :
    ∃ parts : List (List (String × Nat)),
      parts.flatten <+: ownedLines cfg.maxGridCells text m ∧
      List.Forall₂ (Frame.StandsOn (lines text)) parts ((parse cfg text).frames m) := by
  have hall := flatten_passages (statementsOf cfg.maxGridCells text m)
  have hmem : ∀ g ∈ (passages (statementsOf cfg.maxGridCells text m)).groups, ∀ st ∈ g,
      st ∈ statementsOf cfg.maxGridCells text m := fun g hg st hst => mem_of_mem_groups hg hst
  rw [ownedLines_eq, consumed, frames_eq]
  generalize passages (statementsOf cfg.maxGridCells text m) = ps at hall hmem
  refine ⟨ps.groups.map fun g => g.flatMap (·.numbered), ?_, ?_⟩
  · rw [flatten_map_numbered, ← hall, List.flatMap_append]
    exact List.prefix_append _ _
  · rw [List.forall₂_map_left_iff, List.forall₂_map_right_iff, List.forall₂_same]
    exact fun g hg => standsOn_passageFrame cfg (hmem g hg)

end Flipbook.Script
