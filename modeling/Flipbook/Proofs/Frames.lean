import Mathlib
import Flipbook.Proofs.OneLine
import Flipbook.Proofs.Sessions

/-!
Written frames. Reading the lines of a frame whose commands can be told from them commits one frame
of the same commands, and changes no other mode.
-/
namespace Flipbook.Script

open Text

variable {cfg : Config Binary64} {maxCells : Int} {mode m : String} {c : Command Binary64}
  {cs : List (Command Binary64)} {rest : List String} {s t u : Session} {x y : Track}

/-! ## Statements of written commands -/

theorem isScript_written (hm : IsModeName mode) {parts : List String} (hp : parts ≠ []) :
    isScript (trimEnd (spaced (modeMark mode :: parts))) = true := by
  rw [isScript, route_written hm hp]
  rfl

theorem headerParts_ne_nil (c : Command Binary64) : headerParts c ≠ [] := by
  cases c <;> simp [headerParts]

/-- A written grid is dispatched with its header. -/
theorem perform_grid (maxCells : Int) {g : Grid Binary64} (hb : BoundsFormed g.bounds)
    (number : Int) (rest : List String) (line : Int) : ∃ call, call.text = headerText (.grid g) ∧
      perform maxCells (headerText (.grid g)) number rest line =
        readGrid maxCells call rest line := by
  obtain ⟨ps, hperform⟩ := perform_headed (isKeyword .grid) rfl hb
    [toString g.height, toString g.width, g.borderColor, g.textColor, g.defaultColor]
    maxCells number rest line
  have htext : headerText (.grid g) = trim (spaced (headed Kind.grid.keyword g.bounds ::
      [toString g.height, toString g.width, g.borderColor, g.textColor, g.defaultColor])) := rfl
  rw [← htext] at hperform
  dsimp only at hperform
  exact ⟨⟨Kind.grid.keyword, headerText (.grid g), number, ps⟩, rfl, hperform⟩

/-- A written command draws a command of its kind, itself only if it can be told from its lines. -/
theorem action_perform_written (hf : Formed maxCells c) (hc : Counts c)
    (hstop : BlockReader.AtStop rest) (number line : Int) :
    ∃ drawn : Command Binary64,
      (perform maxCells (headerText c) number (bodyLines c ++ rest) line).action = .draw drawn ∧
      drawn.kind = c.kind ∧ (PlainLines c → drawn = c.map Binary64.foldZero) ∧
      (drawn.map Binary64.foldZero = c.map Binary64.foldZero → PlainLines c) := by
  by_cases hg : c.kind = .grid
  · cases c with
    | grid g =>
      obtain ⟨call, htext, hperform⟩ := perform_grid maxCells hf.bounds number
        (bodyLines (.grid g) ++ rest) line
      obtain ⟨drawn, haction, hplain, hback⟩ :=
        action_readGrid_written hf hc call htext hstop line
      rw [hperform]
      exact ⟨.grid drawn, haction, rfl, fun hp => congrArg Command.grid (hplain hp),
        fun h => hback (Command.grid.inj h)⟩
    | _ => cases hg
  · have hplain : PlainLines c := by
      cases c with
      | grid g => exact absurd rfl hg
      | _ => trivial
    rw [perform_written hf hc hg hstop]
    refine ⟨c.map Binary64.foldZero, rfl, ?_, fun _ => rfl, fun _ => hplain⟩
    cases c <;> rfl

/-- A command that can be told from its lines takes all of them and no other. -/
theorem taken_perform_written (hf : Formed maxCells c) (hc : Counts c) (hp : PlainLines c)
    (hstop : BlockReader.AtStop rest) (number line : Int) :
    (perform maxCells (headerText c) number (bodyLines c ++ rest) line).taken = bodyLines c := by
  by_cases hg : c.kind = .grid
  · cases c with
    | grid g =>
      obtain ⟨call, htext, hperform⟩ := perform_grid maxCells hf.bounds number
        (bodyLines (.grid g) ++ rest) line
      rw [hperform]
      exact taken_readGrid_written hf hc hp call htext hstop line
    | _ => cases hg
  · rw [perform_written hf hc hg hstop]

theorem statementsFrom_cons {source : String} {r : Routed} {o : Outcome} {line : Nat}
    (hroute : route source = some r)
    (hperform : perform maxCells r.remainder line rest (line + 1) = o) :
    statementsFrom maxCells line (source :: rest) = ⟨line, source, r, o⟩ ::
      statementsFrom maxCells (line + 1 + o.taken.length) (rest.drop o.taken.length) := by
  rw [statementsFrom, statementAt?, hroute, Option.map_some, hperform]

/-- The statement of a written command, and what is read after it. -/
theorem statementsFrom_written (hm : IsModeName mode) (hf : Formed maxCells c) (hc : Counts c)
    (hp : PlainLines c) (hstop : BlockReader.AtStop rest) (line : Nat) :
    ∃ st n, statementsFrom maxCells line ((commandLines mode c).map trimEnd ++ rest) =
        st :: statementsFrom maxCells n rest ∧
      st.routed.mode = mode ∧ st.outcome.action = .draw (c.map Binary64.foldZero) ∧
      (c.kind ≠ .grid → st.outcome.reports = []) := by
  have hroute := route_written hm (headerParts_ne_nil c)
  obtain ⟨drawn, haction, -, hdrawn, -⟩ := action_perform_written hf hc hstop line (line + 1)
  have htaken := taken_perform_written hf hc hp hstop line (line + 1)
  have hreports : c.kind ≠ .grid → (perform maxCells (headerText c) line (bodyLines c ++ rest)
      (line + 1)).reports = [] := by
    intro hg
    rw [perform_written hf hc hg hstop]
  rw [hdrawn hp] at haction
  generalize ho : perform maxCells (headerText c) line (bodyLines c ++ rest) (line + 1) = o
    at haction htaken hreports
  have hsts := statementsFrom_cons hroute ho
  rw [htaken, List.drop_left] at hsts
  rw [commandLines_eq, List.cons_append]
  exact ⟨_, _, hsts, rfl, haction, hreports⟩

/-- The first statement of a written command, whether or not it can be told from its lines. -/
theorem statementsFrom_drawn (hm : IsModeName mode) (hf : Formed maxCells c) (hc : Counts c)
    (hstop : BlockReader.AtStop rest) (line : Nat) :
    ∃ st sts, statementsFrom maxCells line ((commandLines mode c).map trimEnd ++ rest) =
        st :: sts ∧ st.routed.mode = mode ∧ ∃ drawn : Command Binary64,
      st.outcome.action = .draw drawn ∧ drawn.kind = c.kind ∧
        (drawn.map Binary64.foldZero = c.map Binary64.foldZero → PlainLines c) := by
  have hroute := route_written hm (headerParts_ne_nil c)
  obtain ⟨drawn, haction, hkind, -, hback⟩ := action_perform_written hf hc hstop line (line + 1)
  generalize ho : perform maxCells (headerText c) line (bodyLines c ++ rest) (line + 1) = o
    at haction
  rw [commandLines_eq, List.cons_append]
  exact ⟨_, _, statementsFrom_cons hroute ho, rfl, drawn, haction, hkind, hback⟩

theorem trimEnd_commit (mode : String) :
    trimEnd (spaced [modeMark mode, "COMMIT"]) = spaced [modeMark mode, "COMMIT"] := by
  have hline : (spaced [modeMark mode, "COMMIT"]).toList =
      ((modeMark mode).toList ++ " COMMI".toList) ++ ['T'] := by
    simp [spaced, String.intercalate_cons_cons]
  have hlast : ∀ c ∈ (spaced [modeMark mode, "COMMIT"]).toList.getLast?, isBlank c = false := by
    intro c hc
    rw [hline, List.getLast?_concat] at hc
    obtain rfl : 'T' = c := by simpa using hc
    decide
  exact trimEnd_eq_self hlast

/-- The line that commits a frame, as a statement. -/
theorem statementsFrom_commit (maxCells : Int) (hm : IsModeName mode) (rest : List String)
    (line : Nat) :
    ∃ st, statementsFrom maxCells line (spaced [modeMark mode, "COMMIT"] :: rest) =
        st :: statementsFrom maxCells (line + 1) rest ∧
      st.routed.mode = mode ∧ st.outcome = { action := .commit } := by
  have hroute := route_written hm (List.cons_ne_nil "COMMIT" [])
  rw [trimEnd_commit] at hroute
  exact ⟨_, statementsFrom_cons hroute (perform_commit maxCells line rest (line + 1)), rfl, rfl⟩

/-! ## Frames -/

/-- The lines of a frame: those of its commands and the line that commits them. -/
def frameLines (mode : String) (cs : List (Command Binary64)) : List String :=
  cs.flatMap (fun c => (commandLines mode c).map trimEnd) ++ [spaced [modeMark mode, "COMMIT"]]

theorem frameLines_cons (mode : String) (c : Command Binary64) (cs : List (Command Binary64)) :
    frameLines mode (c :: cs) = (commandLines mode c).map trimEnd ++ frameLines mode cs := by
  simp [frameLines]

/-- What follows is a script line if commands come first. -/
theorem atStop_commandLines (hm : IsModeName mode) (cs : List (Command Binary64))
    (hstop : BlockReader.AtStop rest) : BlockReader.AtStop
      (cs.flatMap (fun c => (commandLines mode c).map trimEnd) ++ rest) := by
  cases cs with
  | nil => exact hstop
  | cons c cs =>
    intro l hl
    rw [List.flatMap_cons, commandLines_eq] at hl
    obtain rfl := Option.some.inj hl
    exact isScript_written hm (headerParts_ne_nil c)

theorem atStop_commit (hm : IsModeName mode) (rest : List String) :
    BlockReader.AtStop (spaced [modeMark mode, "COMMIT"] :: rest) := by
  intro l hl
  obtain rfl := Option.some.inj hl
  rw [← trimEnd_commit]
  exact isScript_written hm (List.cons_ne_nil _ _)

/-- The first line of a frame is a script line. -/
theorem atStop_frameLines (hm : IsModeName mode) (cs : List (Command Binary64))
    (rest : List String) : BlockReader.AtStop (frameLines mode cs ++ rest) := by
  rw [frameLines, List.append_assoc]
  exact atStop_commandLines hm cs (atStop_commit hm rest)

/-- What a track holds after a command was drawn. -/
theorem absorb_draw (cfg : Config Binary64) (x : Track) {o : Outcome} (h : o.action = .draw c) :
    (x.absorb cfg o).frames = x.frames ∧
      (x.absorb cfg o).commands.toList = x.commands.toList ++ [c] ∧
      (x.absorb cfg o).reports.toList = x.reports.toList ++ o.reports := by
  simp [Track.absorb, h, Track.draw, Track.record, Track.report]

/-- Pending commands are committed, and nothing is left pending. -/
theorem absorb_commit (cfg : Config Binary64) (h : x.commands.toList ≠ []) :
    x.absorb cfg { action := .commit } =
      { frames :=
          x.frames.push (Track.frameOf cfg x.commands.toList x.raw.toList x.reports.toList) } := by
  have hne : x.commands.isEmpty = false := by simpa using h
  simp [Track.absorb, Track.commit, Track.isDue, Track.record, Track.report, hne]

/-- One session follows another by changes of one mode only. -/
structure Moves (s : Session) (mode : String) (t : Session) : Prop where
  modes_eq : Session.addMode t.modes mode = Session.addMode s.modes mode
  other : ∀ m, m ≠ mode → t.track m = s.track m

theorem Moves.refl (s : Session) (mode : String) : Moves s mode s := ⟨rfl, fun _ _ => rfl⟩

theorem Moves.trans (h : Moves s mode t) (h' : Moves t mode u) : Moves s mode u :=
  ⟨h'.modes_eq.trans h.modes_eq, fun m hm => (h'.other m hm).trans (h.other m hm)⟩

/-- A statement of a mode changes that mode, which is among the modes from then on. -/
theorem moves_apply (cfg : Config Binary64) (s : Session) {st : Statement}
    (hmode : st.routed.mode = mode) :
    Moves s mode (s.apply cfg st) ∧ mode ∈ (s.apply cfg st).modes ∧ (s.apply cfg st).track mode =
      ((s.track mode).record [st.source]).absorb cfg st.outcome := by
  subst hmode
  have hmem : st.routed.mode ∈ (s.apply cfg st).modes := by
    rw [Session.modes_apply, Session.mem_addMode]
    exact .inr rfl
  refine ⟨⟨?_, fun m hm => ?_⟩, hmem, ?_⟩
  · rw [Session.addMode, if_pos hmem, Session.modes_apply]
  · rw [Session.apply, Session.track_update, if_neg hm]
  · rw [Session.apply, Session.track_update, if_pos rfl]

/-- Reading written commands draws them, one after the other. -/
theorem moves_commands (cfg : Config Binary64) (s : Session) (hm : IsModeName mode)
    (h : ∀ c ∈ cs, Formed cfg.maxGridCells c ∧ Counts c ∧ PlainLines c)
    (hstop : BlockReader.AtStop rest) (line : Nat) :
    ∃ n t, s.applyAll cfg (statementsFrom cfg.maxGridCells line
        (cs.flatMap (fun c => (commandLines mode c).map trimEnd) ++ rest)) =
          t.applyAll cfg (statementsFrom cfg.maxGridCells n rest) ∧
      Moves s mode t ∧ (t.track mode).frames = (s.track mode).frames ∧
      (t.track mode).commands.toList =
        (s.track mode).commands.toList ++ cs.map (·.map Binary64.foldZero) ∧
      ((∀ c ∈ cs, c.kind ≠ .grid) → (t.track mode).reports = (s.track mode).reports) := by
  induction cs generalizing s line with
  | nil => exact ⟨line, s, rfl, Moves.refl s mode, rfl, by simp, fun _ => rfl⟩
  | cons c cs ih =>
    obtain ⟨hf, hc, hp⟩ := h c List.mem_cons_self
    obtain ⟨st, k, hsts, hmode, haction, hreports⟩ :=
      statementsFrom_written hm hf hc hp (atStop_commandLines hm cs hstop) line
    obtain ⟨hmoves, -, htrack⟩ := moves_apply cfg s hmode
    obtain ⟨hframes, hcommands, hnew⟩ :=
      absorb_draw cfg ((s.track mode).record [st.source]) haction
    rw [← htrack] at hframes hcommands hnew
    obtain ⟨n, t, happly, hlater, hframes', hcommands', hgrid⟩ :=
      ih (s.apply cfg st) (fun d hd => h d (List.mem_cons_of_mem _ hd)) k
    refine ⟨n, t, ?_, hmoves.trans hlater, hframes'.trans hframes, ?_, fun hnone => ?_⟩
    · rw [List.flatMap_cons, List.append_assoc, hsts, ← happly]
      rfl
    · rw [hcommands', hcommands, List.map_cons, List.append_assoc]
      rfl
    · rw [hgrid fun d hd => hnone d (List.mem_cons_of_mem _ hd)]
      rw [hreports (hnone c List.mem_cons_self), List.append_nil] at hnew
      exact Array.toList_inj.mp hnew

/-- Reading a written frame commits its commands together with those that were pending. -/
theorem moves_frame (cfg : Config Binary64) (s : Session) (hm : IsModeName mode)
    (h : ∀ c ∈ cs, Formed cfg.maxGridCells c ∧ Counts c ∧ PlainLines c)
    (hne : (s.track mode).commands.toList ++ cs ≠ []) (rest : List String) (line : Nat) :
    ∃ n t raw reports,
      s.applyAll cfg (statementsFrom cfg.maxGridCells line (frameLines mode cs ++ rest)) =
        t.applyAll cfg (statementsFrom cfg.maxGridCells n rest) ∧
      Moves s mode t ∧ mode ∈ t.modes ∧
      t.track mode = { frames := (s.track mode).frames.push (Track.frameOf cfg
        ((s.track mode).commands.toList ++ cs.map (·.map Binary64.foldZero)) raw reports) } ∧
      ((∀ c ∈ cs, c.kind ≠ .grid) → reports = (s.track mode).reports.toList) := by
  obtain ⟨k, u, hdrawn, hmoves, hframes, hcommands, hreports⟩ :=
    moves_commands cfg s hm h (atStop_commit hm rest) line
  obtain ⟨st, hst, hmode, hcommit⟩ := statementsFrom_commit cfg.maxGridCells hm rest k
  obtain ⟨hmoves', hmem, htrack⟩ := moves_apply cfg u hmode
  have hpending : ((u.track mode).record [st.source]).commands.toList ≠ [] := by
    intro hnil
    have hnil : (u.track mode).commands.toList = [] := hnil
    rw [hcommands] at hnil
    obtain ⟨hold, hnew⟩ := List.append_eq_nil_iff.mp hnil
    exact hne (by rw [hold, List.map_eq_nil_iff.mp hnew]; rfl)
  rw [hcommit, absorb_commit cfg hpending] at htrack
  refine ⟨k + 1, u.apply cfg st, ((u.track mode).record [st.source]).raw.toList,
    (u.track mode).reports.toList, ?_, hmoves.trans hmoves', hmem, ?_, fun hgrid => ?_⟩
  · rw [frameLines, List.append_assoc, List.singleton_append, hdrawn, hst]
    rfl
  · rw [htrack, ← hframes, ← hcommands]
    rfl
  · rw [hreports hgrid]

end Flipbook.Script
