import Mathlib
import Flipbook.Proofs.Exclusivity
import Flipbook.Proofs.Sessions

/-!
Passages. The statements of a mode fall into passages, one for each of its frames, and a rest that
came to nothing. A frame shows what its passage draws, reports and consists of, and no more; read by
itself, a passage is one passage again.
-/
namespace Flipbook

/-- The report that a notice is, unless it concerns a frame as a whole. -/
def Notice.report? : Notice → Option Report
  | .report p => some p
  | .conflict _ _ _ | .overlap _ _ => none

/-- The notices that committing some commands adds to the reports of a frame. -/
def commitNotices (cfg : Config Binary64) (cs : List (Command Binary64)) : List Notice :=
  (resolveExclusivity cs).2.toList ++ overlapNotices (resolveExclusivity cs).1 cfg

theorem report?_of_mem_commitNotices {cfg : Config Binary64} {cs : List (Command Binary64)}
    {n : Notice} (h : n ∈ commitNotices cfg cs) : n.report? = none := by
  rcases List.mem_append.mp h with h | h
  · obtain ⟨kept, dropped, count, rfl⟩ := conflict_of_mem (Option.mem_toList.mp h)
    rfl
  · obtain ⟨⟨a, b⟩, -, hn⟩ := List.mem_filterMap.mp h
    dsimp only at hn
    split at hn
    · obtain rfl := Option.some.inj hn
      rfl
    · cases hn

end Flipbook

namespace Flipbook.Script

variable {cfg : Config Binary64} {fs : Array (Frame Binary64 Notice)} {st : Statement}
  {pending sts ts p : List Statement} {m : String}

/-! ## What statements amount to -/

/-- The command that an action draws. -/
def Action.drawn? : Action → Option (Command Binary64)
  | .draw c => some c
  | .commit | .idle => none

/-- The commands that some statements draw, in order. -/
def drawn (sts : List Statement) : List (Command Binary64) :=
  sts.filterMap (·.outcome.action.drawn?)

/-- The reports of some statements, in order. -/
def reported (sts : List Statement) : List Report := sts.flatMap (·.outcome.reports)

/-- The lines of some statements, in order. -/
def linesOf (sts : List Statement) : List String := sts.flatMap (·.lines)

@[simp] theorem drawn_append (sts ts : List Statement) :
    drawn (sts ++ ts) = drawn sts ++ drawn ts := List.filterMap_append

@[simp] theorem reported_append (sts ts : List Statement) :
    reported (sts ++ ts) = reported sts ++ reported ts := List.flatMap_append

@[simp] theorem linesOf_append (sts ts : List Statement) :
    linesOf (sts ++ ts) = linesOf sts ++ linesOf ts := List.flatMap_append

/-- Whether statements draw nothing and report nothing. -/
def comeToNothing (sts : List Statement) : Bool := (drawn sts).isEmpty && (reported sts).isEmpty

theorem comeToNothing_iff : comeToNothing sts = true ↔ drawn sts = [] ∧ reported sts = [] := by
  simp [comeToNothing]

/-- The statements of a script that belong to a mode. -/
def statementsOf (maxCells : Int) (text m : String) : List Statement :=
  (statements maxCells text).filter (·.routed.mode == m)

/-! ## The track of one mode -/

/-- A track after a statement of its mode. -/
def Track.follow (cfg : Config Binary64) (t : Track) (st : Statement) : Track :=
  (t.record [st.source]).absorb cfg st.outcome

/-- What a mode comes to depends on its own statements only. -/
theorem track_applyAll (cfg : Config Binary64) (s : Session) (sts : List Statement) (m : String) :
    (s.applyAll cfg sts).track m =
      (sts.filter (·.routed.mode == m)).foldl (Track.follow cfg) (s.track m) := by
  induction sts generalizing s with
  | nil => rfl
  | cons st sts ih =>
    have hstep : s.applyAll cfg (st :: sts) = (s.apply cfg st).applyAll cfg sts := rfl
    rw [hstep, ih, Session.apply, Session.track_update]
    by_cases hm : m = st.routed.mode
    · rw [if_pos hm, List.filter_cons_of_pos (by simp [hm]), List.foldl_cons, ← hm]
      rfl
    · rw [if_neg hm, List.filter_cons_of_neg (by simp [Ne.symm hm])]

/-- A track with some frames whose next frame holds what some statements amount to. -/
def Track.holding (fs : Array (Frame Binary64 Notice)) (sts : List Statement) : Track where
  frames := fs
  commands := (drawn sts).toArray
  raw := (linesOf sts).toArray
  reports := (reported sts).toArray

/-- The frame that some statements amount to. -/
def passageFrame (cfg : Config Binary64) (p : List Statement) : Frame Binary64 Notice :=
  Track.frameOf cfg (drawn p) (linesOf p) (reported p)

theorem errors_passageFrame (cfg : Config Binary64) (p : List Statement) :
    (passageFrame cfg p).errors = (reported p).map .report ++ commitNotices cfg (drawn p) := by
  rw [commitNotices, ← List.append_assoc]
  rfl

/-- Whether a statement commits what is pending: it does not if no command is. -/
def closes (pending : List Statement) (st : Statement) : Bool :=
  st.outcome.action == .commit && !(drawn pending).isEmpty

/-- A track after an action, its commands being those before. -/
def Track.act (cfg : Config Binary64) (t : Track) : Action → Track
  | .draw c => t.draw c
  | .commit => (t.commit cfg false).2
  | .idle => t

theorem absorb_eq_act (cfg : Config Binary64) (t : Track) (o : Outcome) :
    t.absorb cfg o = ((t.record o.taken).report o.reports).act cfg o.action := by
  cases h : o.action <;> simp only [Track.absorb, Track.act, h]

/-- A statement adds its lines and reports to what is pending, and then its action happens. -/
theorem follow_holding (cfg : Config Binary64) (fs : Array (Frame Binary64 Notice))
    (pending : List Statement) (st : Statement) :
    (Track.holding fs pending).follow cfg st =
      ({ Track.holding fs (pending ++ [st]) with commands := (drawn pending).toArray } :
        Track).act cfg st.outcome.action := by
  have hadded : (((Track.holding fs pending).record [st.source]).record st.outcome.taken).report
      st.outcome.reports =
        { Track.holding fs (pending ++ [st]) with commands := (drawn pending).toArray } := by
    simp [Track.record, Track.report, Track.holding, linesOf, reported, Statement.lines]
  rw [Track.follow, absorb_eq_act, hadded]

theorem drawn_concat (pending : List Statement) (st : Statement) :
    drawn (pending ++ [st]) = drawn pending ++ st.outcome.action.drawn?.toList := by
  rw [drawn_append]
  cases h : st.outcome.action.drawn? <;> simp [drawn, h]

theorem follow_of_closes (h : closes pending st = true) :
    (Track.holding fs pending).follow cfg st =
      Track.holding (fs.push (passageFrame cfg (pending ++ [st]))) [] := by
  obtain ⟨haction, hne⟩ : st.outcome.action = .commit ∧ drawn pending ≠ [] := by
    simpa [closes] using h
  have hdrawn : drawn (pending ++ [st]) = drawn pending := by
    rw [drawn_concat, haction]
    exact List.append_nil _
  have hdue : ((drawn pending).toArray).isEmpty = false := by simpa using hne
  simp only [follow_holding, haction, Track.act, Track.commit, Track.isDue, hdue, Bool.not_false,
    Bool.true_or, if_true, passageFrame, hdrawn]
  rfl

theorem follow_of_not_closes (h : closes pending st = false) :
    (Track.holding fs pending).follow cfg st = Track.holding fs (pending ++ [st]) := by
  have hdrawn := drawn_concat pending st
  rw [follow_holding]
  cases haction : st.outcome.action with
  | draw c => simp [Track.act, Track.draw, Track.holding, hdrawn, haction, Action.drawn?]
  | idle => simp [Track.act, Track.holding, hdrawn, haction, Action.drawn?]
  | commit =>
    have hnone : drawn pending = [] := by simpa [closes, haction] using h
    simp [Track.act, Track.commit, Track.isDue, Track.holding, hdrawn, hnone, haction,
      Action.drawn?]

/-! ## Passages -/

/-- Statements of one mode: those of each frame, and those that came to no frame. -/
structure Passages where
  groups : List (List Statement) := []
  rest : List Statement := []

/-- The passages that some statements close; `pending` are the statements before them that are
still open. -/
def passagesFrom (pending : List Statement) : List Statement → Passages
  | [] => { rest := pending }
  | st :: sts =>
    if closes pending st then
      let later := passagesFrom [] sts
      { later with groups := (pending ++ [st]) :: later.groups }
    else passagesFrom (pending ++ [st]) sts

/-- The passages of the statements of one mode. What is open at the end is a passage too, unless it
comes to nothing. -/
def passages (sts : List Statement) : Passages :=
  let all := passagesFrom [] sts
  if comeToNothing all.rest then all else { groups := all.groups ++ [all.rest] }

theorem passages_of_nothing (h : comeToNothing (passagesFrom [] sts).rest = true) :
    passages sts = passagesFrom [] sts := if_pos h

theorem passages_of_pending (h : comeToNothing (passagesFrom [] sts).rest = false) :
    passages sts =
      { groups := (passagesFrom [] sts).groups ++ [(passagesFrom [] sts).rest] } :=
  if_neg (by simp [h])

theorem passagesFrom_cons_of_closes (h : closes pending st = true) (sts : List Statement) :
    passagesFrom pending (st :: sts) =
      { groups := (pending ++ [st]) :: (passagesFrom [] sts).groups
        rest := (passagesFrom [] sts).rest } := by
  rw [passagesFrom, if_pos h]

theorem passagesFrom_cons_of_not_closes (h : closes pending st = false) (sts : List Statement) :
    passagesFrom pending (st :: sts) = passagesFrom (pending ++ [st]) sts := by
  rw [passagesFrom, if_neg (by simp [h])]

theorem passagesFrom_append (pending sts ts : List Statement) :
    passagesFrom pending (sts ++ ts) =
      { groups := (passagesFrom pending sts).groups ++
          (passagesFrom (passagesFrom pending sts).rest ts).groups
        rest := (passagesFrom (passagesFrom pending sts).rest ts).rest } := by
  induction sts generalizing pending with
  | nil => rfl
  | cons st sts ih =>
    rw [List.cons_append]
    cases h : closes pending st with
    | true => simp only [passagesFrom_cons_of_closes h, ih, List.cons_append]
    | false => simp only [passagesFrom_cons_of_not_closes h, ih]

/-- No statement is lost, moved or doubled. -/
theorem flatten_passagesFrom (pending sts : List Statement) :
    (passagesFrom pending sts).groups.flatten ++ (passagesFrom pending sts).rest =
      pending ++ sts := by
  induction sts generalizing pending with
  | nil => simp [passagesFrom]
  | cons st sts ih =>
    cases h : closes pending st with
    | true =>
      simp only [passagesFrom_cons_of_closes h, List.flatten_cons, List.append_assoc, ih]
      simp
    | false =>
      rw [passagesFrom_cons_of_not_closes h, ih]
      simp

/-- Each passage that was closed is closed by its last statement and not before, and the rest is
still open. -/
theorem passagesFrom_idem (h : passagesFrom [] pending = { rest := pending })
    (sts : List Statement) :
    (∀ p ∈ (passagesFrom pending sts).groups,
        drawn p ≠ [] ∧ passagesFrom [] p = { groups := [p] }) ∧
      passagesFrom [] (passagesFrom pending sts).rest =
        { rest := (passagesFrom pending sts).rest } := by
  induction sts generalizing pending with
  | nil => exact ⟨by simp [passagesFrom], h⟩
  | cons st sts ih =>
    cases hst : closes pending st with
    | true =>
      have hempty : passagesFrom [] [] = { rest := [] } := rfl
      obtain ⟨hgroups, hrest⟩ := ih hempty
      have hself : passagesFrom [] (pending ++ [st]) = { groups := [pending ++ [st]] } := by
        rw [passagesFrom_append, h, passagesFrom_cons_of_closes hst]
        rfl
      have hdrawn : drawn (pending ++ [st]) ≠ [] := by
        have hne : drawn pending ≠ [] := by
          have hboth := hst
          simp only [closes, Bool.and_eq_true] at hboth
          simpa using hboth.2
        simp [hne]
      rw [passagesFrom_cons_of_closes hst]
      refine ⟨fun p hp => ?_, hrest⟩
      rcases List.mem_cons.mp hp with rfl | hp
      · exact ⟨hdrawn, hself⟩
      · exact hgroups p hp
    | false =>
      rw [passagesFrom_cons_of_not_closes hst]
      refine ih ?_
      rw [passagesFrom_append, h, passagesFrom_cons_of_not_closes hst]
      rfl

theorem flatten_passages (sts : List Statement) :
    (passages sts).groups.flatten ++ (passages sts).rest = sts := by
  have hall := flatten_passagesFrom [] sts
  cases h : comeToNothing (passagesFrom [] sts).rest with
  | true => rwa [passages_of_nothing h]
  | false => simpa [passages_of_pending h] using hall

theorem mem_of_mem_groups (hp : p ∈ (passages sts).groups) (hst : st ∈ p) : st ∈ sts := by
  rw [← flatten_passages sts]
  exact List.mem_append_left _ (List.mem_flatten.mpr ⟨p, hp, hst⟩)

/-- What came to no frame comes to nothing. -/
theorem passages_rest (sts : List Statement) : comeToNothing (passages sts).rest = true := by
  cases h : comeToNothing (passagesFrom [] sts).rest with
  | true => rwa [passages_of_nothing h]
  | false => rw [passages_of_pending h]; rfl

theorem linesOf_ne_nil (h : comeToNothing p = false) : linesOf p ≠ [] := by
  cases p with
  | nil => cases h
  | cons st p => exact List.cons_ne_nil _ _

/-- A passage comes to something, and read by itself it is one passage and no rest. -/
theorem passages_of_mem (h : p ∈ (passages sts).groups) :
    comeToNothing p = false ∧ passages p = { groups := [p] } := by
  have hempty : passagesFrom [] [] = { rest := [] } := rfl
  obtain ⟨hgroups, hrest⟩ := passagesFrom_idem hempty sts
  have hclosed : p ∈ (passagesFrom [] sts).groups →
      comeToNothing p = false ∧ passages p = { groups := [p] } := by
    intro hp
    obtain ⟨hdrawn, hself⟩ := hgroups p hp
    have hnothing : comeToNothing (passagesFrom [] p).rest = true := by rw [hself]; rfl
    exact ⟨by simp [comeToNothing, hdrawn], by rw [passages_of_nothing hnothing, hself]⟩
  cases hnothing : comeToNothing (passagesFrom [] sts).rest with
  | true =>
    rw [passages_of_nothing hnothing] at h
    exact hclosed h
  | false =>
    rw [passages_of_pending hnothing] at h
    rcases List.mem_append.mp h with h | h
    · exact hclosed h
    · obtain rfl := List.mem_singleton.mp h
      have hself : comeToNothing (passagesFrom [] (passagesFrom [] sts).rest).rest = false := by
        rwa [hrest]
      exact ⟨hnothing, by rw [passages_of_pending hself, hrest]; rfl⟩

/-! ## Frames -/

theorem foldl_follow (cfg : Config Binary64) (fs : Array (Frame Binary64 Notice))
    (pending sts : List Statement) :
    sts.foldl (Track.follow cfg) (Track.holding fs pending) =
      Track.holding (fs ++ ((passagesFrom pending sts).groups.map (passageFrame cfg)).toArray)
        (passagesFrom pending sts).rest := by
  induction sts generalizing fs pending with
  | nil => simp [passagesFrom]
  | cons st sts ih =>
    rw [List.foldl_cons]
    cases h : closes pending st with
    | true =>
      rw [follow_of_closes h, ih, passagesFrom_cons_of_closes h]
      simp
    | false => rw [follow_of_not_closes h, ih, passagesFrom_cons_of_not_closes h]

/-- At the end of a script what is pending is committed, unless it comes to nothing. -/
theorem commit_holding (cfg : Config Binary64) (fs : Array (Frame Binary64 Notice))
    (sts : List Statement) :
    ((Track.holding fs sts).commit cfg true).2.frames.toList =
      fs.toList ++ if comeToNothing sts then [] else [passageFrame cfg sts] := by
  have hdue : (Track.holding fs sts).isDue true = !comeToNothing sts := by
    simp [Track.isDue, Track.holding, comeToNothing]
  unfold Track.commit
  rw [hdue]
  cases comeToNothing sts with
  | true => simp [Track.holding]
  | false => simp [Track.holding, passageFrame]

/-- The track of a mode after a script and before its end. -/
theorem track_statements (cfg : Config Binary64) (text m : String) :
    (Session.applyAll cfg {} (statements cfg.maxGridCells text)).track m =
      Track.holding ((passagesFrom [] (statementsOf cfg.maxGridCells text m)).groups.map
        (passageFrame cfg)).toArray
        (passagesFrom [] (statementsOf cfg.maxGridCells text m)).rest := by
  have hstart : ({} : Session).track m = Track.holding #[] [] := by
    rw [Session.track_empty]
    rfl
  rw [track_applyAll, hstart, foldl_follow, ← statementsOf, Array.empty_append]

/-- The frames of a mode are those of its passages, in order. -/
theorem frames_eq (cfg : Config Binary64) (text m : String) :
    (parse cfg text).frames m =
      (passages (statementsOf cfg.maxGridCells text m)).groups.map (passageFrame cfg) := by
  rw [frames_parse, track_statements, commit_holding]
  cases h : comeToNothing
      (passagesFrom [] (statementsOf cfg.maxGridCells text m)).rest with
  | true => simp [passages_of_nothing h]
  | false => simp [passages_of_pending h]

end Flipbook.Script
