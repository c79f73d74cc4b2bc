import Mathlib
import Flipbook.Proofs.Frames

/-!
Written scripts. Reading the frames of several modes gives each mode its frames back, in order and
no others.
-/
namespace Flipbook.Script

open Text

variable {ε : Type} {cfg : Config Binary64} {maxCells : Int} {mode m : String}
  {cs : List (Command Binary64)} {s t : Session} {x : Track} {ls : List String}
  {es : List (String × List (Command Binary64))}

/-! ## Lines -/

/-- The commands of each frame with its mode, in the order in which the frames are written. -/
def entries (reel : Reel Binary64 ε) : List (String × List (Command Binary64)) :=
  reel.flatMap fun (mode, frames) => frames.map fun f => (mode, f.commands)

theorem join_unlines {β : Type} (f : β → List String) (xs : List β) :
    String.join (xs.map fun x => unlines (f x)) = unlines (xs.flatMap f) := by
  induction xs with
  | nil => rfl
  | cons x xs ih => rw [List.map_cons, List.flatMap_cons, unlines_append, String.join_cons, ih]

theorem writeFrame_eq (mode : String) (f : Frame Binary64 ε) :
    writeFrame mode f = unlines (frameLines mode f.commands) := by
  have hlast : unlines [spaced [modeMark mode, "COMMIT"]] =
      spaced [modeMark mode, "COMMIT"] ++ "\n" := by simp [unlines]
  have hjoin := join_unlines (fun c => (commandLines mode c).map trimEnd) f.commands
  rw [frameLines, unlines_append, hlast, ← hjoin, ← String.append_assoc]
  rfl

theorem write_eq (reel : Reel Binary64 ε) :
    write reel = unlines ((entries reel).flatMap fun e => frameLines e.1 e.2) := by
  have hmode (p : String × List (Frame Binary64 ε)) :
      String.join (p.2.map (writeFrame p.1)) =
        unlines (p.2.flatMap fun f => frameLines p.1 f.commands) := by
    rw [← join_unlines]
    exact congrArg String.join (List.map_congr_left fun f _ => writeFrame_eq p.1 f)
  have hall := join_unlines (fun p : String × List (Frame Binary64 ε) =>
    p.2.flatMap fun f => frameLines p.1 f.commands) reel
  unfold write entries
  rw [List.flatMap_assoc]
  simp only [List.flatMap_map]
  rw [← hall]
  exact congrArg String.join (List.map_congr_left fun p _ => hmode p)

theorem oneLine_frameLines (hm : IsModeName mode) (hf : ∀ c ∈ cs, Formed maxCells c) :
    ∀ l ∈ frameLines mode cs, OneLine l := by
  have hcommit : OneLine "COMMIT" := by
    unfold OneLine
    decide
  intro l hl
  rw [frameLines, List.mem_append, List.mem_singleton] at hl
  rcases hl with hl | rfl
  · obtain ⟨c, hc, hl⟩ := List.mem_flatMap.mp hl
    exact oneLine_commandLines hm (hf c hc) l hl
  · exact oneLine_spaced (by simp [oneLine_modeMark hm, hcommit])

/-- The statements of joined lines are those of the lines: what follows the last one is empty. -/
theorem statements_unlines (maxCells : Int) (h : ∀ l ∈ ls, OneLine l) :
    ∃ rest, statements maxCells (unlines ls) = statementsFrom maxCells 1 (ls ++ rest) ∧
      ∀ n, statementsFrom maxCells n rest = [] := by
  by_cases hne : ls = []
  · subst hne
    refine ⟨[], rfl, fun n => ?_⟩
    rw [statementsFrom]
  · refine ⟨[""], ?_, fun n => ?_⟩
    · rw [statements, lines_unlines hne h]
    · have hroute : route "" = none := by decide
      rw [statementsFrom, statementAt?, hroute, Option.map_none, statementsFrom]

/-! ## Sessions -/

/-- Whether a frame of a mode can be told from its lines. -/
structure Recoverable (maxCells : Int) (e : String × List (Command Binary64)) : Prop where
  mode : IsModeName e.1
  ne_nil : e.2 ≠ []
  formed : ∀ c ∈ e.2, Formed maxCells c
  counts : ∀ c ∈ e.2, Counts c
  plain : ∀ c ∈ e.2, PlainLines c

/-- Whether no mode has anything pending. -/
def Settled (s : Session) : Prop :=
  ∀ m, (s.track m).commands.toList = [] ∧ (s.track m).reports.toList = []

theorem settled_empty : Settled {} := by
  intro m
  rw [Session.track_empty]
  exact ⟨rfl, rfl⟩

theorem settled_moves (hs : Settled s) {fs : Array (Frame Binary64 Notice)}
    (h : Moves s mode t) (htrack : t.track mode = { frames := fs }) : Settled t := by
  intro m
  by_cases hm : m = mode
  · subst hm
    rw [htrack]
    exact ⟨rfl, rfl⟩
  · rw [h.other m hm]
    exact hs m

/-- The commands that a frame holds after reading its lines. -/
def readCommands (cs : List (Command Binary64)) : List (Command Binary64) :=
  (resolveExclusivity (cs.map (·.map Binary64.foldZero))).1

/-- Reading the lines of some frames adds these frames to their modes. -/
theorem applyAll_entries (hes : ∀ e ∈ es, Recoverable cfg.maxGridCells e) (hs : Settled s)
    (rest : List String) (line : Nat) :
    ∃ n t, s.applyAll cfg (statementsFrom cfg.maxGridCells line
        ((es.flatMap fun e => frameLines e.1 e.2) ++ rest)) =
          t.applyAll cfg (statementsFrom cfg.maxGridCells n rest) ∧ Settled t ∧
      t.modes = (es.map Prod.fst).foldl Session.addMode s.modes ∧
      ∀ m, (t.track m).frames.toList.map (·.commands) =
        (s.track m).frames.toList.map (·.commands) ++
          (es.filter (·.1 == m)).map fun e => readCommands e.2 := by
  induction es generalizing s line with
  | nil => exact ⟨line, s, rfl, hs, rfl, fun m => by simp⟩
  | cons e es ih =>
    obtain ⟨hm, hne, hf, hc, hp⟩ := hes e List.mem_cons_self
    obtain ⟨k, u, raw, reports, happly, hmoves, hmem, htrack, -⟩ := moves_frame cfg s hm
      (fun c h => ⟨hf c h, hc c h, hp c h⟩) (by rw [(hs e.1).1]; exact hne)
      ((es.flatMap fun e => frameLines e.1 e.2) ++ rest) line
    rw [(hs e.1).1, List.nil_append] at htrack
    obtain ⟨n, t, hlater, hsettled, hmodes, hframes⟩ :=
      ih (fun d hd => hes d (List.mem_cons_of_mem _ hd)) (settled_moves hs hmoves htrack) k
    refine ⟨n, t, ?_, hsettled, ?_, fun m => ?_⟩
    · rw [List.flatMap_cons, List.append_assoc, happly, hlater]
    · have hadded := hmoves.modes_eq
      rw [Session.addMode, if_pos hmem] at hadded
      rw [hmodes, hadded]
      rfl
    · rw [hframes m]
      by_cases hm : m = e.1
      · subst hm
        rw [htrack, List.filter_cons_of_pos (by simp)]
        simp [readCommands, Track.frameOf]
      · have hne : (e.1 == m) = false := beq_false_of_ne (Ne.symm hm)
        rw [hmoves.other m hm, List.filter_cons_of_neg (by simp [hne])]

/-- Nothing is committed at the end if nothing is pending. -/
theorem commit_settled (cfg : Config Binary64) (hs : Settled s) (m : String) :
    ((s.track m).commit cfg true).2 = s.track m := by
  obtain ⟨hcommands, hreports⟩ := hs m
  have hdue : (s.track m).isDue true = false := by
    simp [Track.isDue, Array.toList_eq_nil_iff.mp hcommands, Array.toList_eq_nil_iff.mp hreports]
  simp [Track.commit, hdue]

theorem oneLine_entries (hes : ∀ e ∈ es, Recoverable maxCells e) :
    ∀ l ∈ es.flatMap fun e => frameLines e.1 e.2, OneLine l := by
  intro l hl
  obtain ⟨e, he, hl⟩ := List.mem_flatMap.mp hl
  exact oneLine_frameLines (hes e he).mode (hes e he).formed l hl

/-- The modes and the commands that reading written frames yields. -/
theorem parse_entries (hes : ∀ e ∈ es, Recoverable cfg.maxGridCells e) :
    (parse cfg (unlines (es.flatMap fun e => frameLines e.1 e.2))).map Prod.fst =
        (defaultMode :: es.map Prod.fst).eraseDups ∧
      ∀ m, ((parse cfg (unlines (es.flatMap fun e => frameLines e.1 e.2))).frames m).map
        (·.commands) = (es.filter (·.1 == m)).map fun e => readCommands e.2 := by
  obtain ⟨rest, hstatements, hrest⟩ :=
    statements_unlines cfg.maxGridCells (oneLine_entries hes)
  obtain ⟨n, t, happly, hsettled, hmodes, hframes⟩ :=
    applyAll_entries hes settled_empty rest 1
  rw [hrest, ← hstatements] at happly
  have hempty : ({} : Session).modes = [defaultMode] := rfl
  have hend : Session.applyAll cfg {} (statements cfg.maxGridCells
      (unlines (es.flatMap fun e => frameLines e.1 e.2))) = t := happly
  constructor
  · rw [map_fst_parse, hend, hmodes, hempty, foldl_addMode_default]
  · intro m
    have htrack : (({} : Session).track m).frames.toList = [] := by rw [Session.track_empty]
    rw [frames_parse, hend, commit_settled cfg hsettled, hframes m, htrack, List.map_nil,
      List.nil_append]

end Flipbook.Script
