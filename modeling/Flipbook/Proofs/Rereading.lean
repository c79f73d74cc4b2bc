import Mathlib
import Flipbook.Proofs.Drawn
import Flipbook.Proofs.Lists
import Flipbook.Proofs.Scripts
import Flipbook.Proofs.Sizes
import Flipbook.Proofs.Values

/-!
Frames of a script that are written and read again. A frame without a grid always comes back.
-/
namespace Flipbook.Script

open Text

variable {cfg : Config Binary64} {maxCells : Int} {text mode m n : String}
  {c : Command Binary64} {cs : List (Command Binary64)} {f : Frame Binary64 Notice}

/-! ## One frame -/

/-- Reading the lines of one frame yields this frame and no other. -/
theorem parse_frameLines (cfg : Config Binary64) (h : Recoverable cfg.maxGridCells (m, cs))
    (hspatial : ¬ Mixed cs) :
    ∃ g, (parse cfg (unlines (frameLines m cs))).frames m = [g] ∧
      g.commands = cs.map (·.map Binary64.foldZero) ∧
      ((∀ c ∈ cs, c.kind ≠ .grid) →
        g.errors = overlapNotices (cs.map (·.map Binary64.foldZero)) cfg) ∧
      ∀ n, n ≠ m → (parse cfg (unlines (frameLines m cs))).frames n = [] := by
  obtain ⟨rest, hstatements, hrest⟩ :=
    statements_unlines cfg.maxGridCells (oneLine_frameLines h.mode h.formed)
  have hempty (n : String) : ({} : Session).track n = {} := Session.track_empty n
  obtain ⟨k, t, raw, reports, happly, hmoves, -, htrack, hreports⟩ := moves_frame cfg {} h.mode
    (fun c hc => ⟨h.formed c hc, h.counts c hc, h.plain c hc⟩)
    (by rw [hempty]; exact h.ne_nil) rest 1
  rw [hrest, ← hstatements] at happly
  have hend : Session.applyAll cfg {} (statements cfg.maxGridCells (unlines (frameLines m cs))) =
      t := happly
  have hspatial' := resolveExclusivity_of_not_mixed (mt (mixed_map (f := Binary64.foldZero)).mp
    hspatial)
  rw [hempty] at htrack hreports
  refine ⟨Track.frameOf cfg (cs.map (·.map Binary64.foldZero)) raw reports, ?_, ?_, fun hgrid => ?_,
    fun n hn => ?_⟩
  · rw [frames_parse, hend, commit_settled cfg (settled_moves settled_empty hmoves htrack), htrack]
    rfl
  · rw [Track.frameOf, hspatial']
  · rw [Track.frameOf, hspatial', hreports hgrid]
    rfl
  · rw [frames_parse, hend, commit_settled cfg (settled_moves settled_empty hmoves htrack),
      hmoves.other n hn, hempty]

/-! ## Frames without grids -/

/-- A frame without grids that a script yields can be told from its lines. -/
theorem recoverable_of_mem_parse (hf : f ∈ (parse cfg text).frames m) (hne : f.commands ≠ [])
    (hcounts : ∀ c ∈ f.commands, Counts c) (hplain : ∀ c ∈ f.commands, PlainLines c) :
    Recoverable cfg.maxGridCells (m, f.commands) := by
  obtain ⟨hmode, hformed⟩ := formed_of_mem_parse hf
  exact ⟨hmode, hne, hformed.commands, hcounts, hplain⟩

/-- Every frame with a command and without a grid that a script yields comes back when it is written
and read: alone in its mode and in the whole script, with the commands it had and with no errors but
their overlaps. -/
theorem reread_without_grid (cfg : Config Binary64) (text m : String) (f : Frame Binary64 Notice)
    (hf : f ∈ (parse cfg text).frames m) (hne : f.commands ≠ [])
    (hgrid : ∀ c ∈ f.commands, c.kind ≠ .grid)
    (hcounts : ∀ p, .plane p ∈ f.commands → PlaneCounts p) :
    ∃ g, (parse cfg (writeFrame m f)).frames m = [g] ∧
      g.commands.map (·.map Binary64.foldZero) = f.commands.map (·.map Binary64.foldZero) ∧
      g.errors.map Notice.message = (overlapNotices f.commands cfg).map Notice.message ∧
      ∀ n, n ≠ m → (parse cfg (writeFrame m f)).frames n = [] := by
  have hshown : ∀ c ∈ f.commands, Counts c ∧ PlainLines c := by
    intro c hc
    cases c with
    | grid g => exact absurd rfl (hgrid _ hc)
    | plane p => exact ⟨hcounts p hc, trivial⟩
    | _ => exact ⟨trivial, trivial⟩
  have hrecoverable := recoverable_of_mem_parse hf hne (fun c hc => (hshown c hc).1)
    fun c hc => (hshown c hc).2
  obtain ⟨g, hframes, hcommands, herrors, hother⟩ :=
    parse_frameLines cfg hrecoverable (formed_of_mem_parse hf).2.spatial
  rw [← writeFrame_eq] at hframes hother
  refine ⟨g, hframes, ?_, ?_, hother⟩
  · rw [hcommands, List.map_map]
    exact List.map_congr_left fun c _ => c.foldZero_foldZero
  · rw [herrors hgrid, overlapNotices_foldZero]

def smallConfig : Config Binary64 := { maxGridCells := 2 }

/-- A plane that loses its last circle in reading, and a text, in a mode with a blank. -/
def circlesText : String :=
  "$v(at night) 2D_PLANE(0, 0, 4, 4) 4 5.5\nCIRCLES\n1\nred blue 2 0 -1 2.5 x 0 1\n" ++
    "$v(at night) SCORE 10 : 7\n$v(at night) COMMIT\n"

def circlesPlane : Plane Binary64 where
  height := 4.0
  width := 5.5
  circleGroups := [⟨"red", "blue", [⟨⟨0, -1.0⟩, 2.5⟩]⟩]
  bounds := some ⟨0, 0, 4.0, 4.0⟩

def circlesFrame : Frame Binary64 Notice where
  commands := [.plane circlesPlane, .score "10 : 7"]
  rawText := circlesText

theorem reread_circlesFrame :
    ∃ g, (parse smallConfig (writeFrame "at night" circlesFrame)).frames "at night" = [g] ∧
      g.commands.map (·.map Binary64.foldZero) =
        circlesFrame.commands.map (·.map Binary64.foldZero) ∧
      g.errors.map Notice.message =
        (overlapNotices circlesFrame.commands smallConfig).map Notice.message ∧
      ∀ n, n ≠ "at night" → (parse smallConfig (writeFrame "at night" circlesFrame)).frames n = [] :=
  reread_without_grid smallConfig circlesText "at night" circlesFrame (by decide +kernel)
    (by decide) (by decide) fun p hp => by
      obtain rfl : p = circlesPlane := by simpa [circlesFrame] using hp
      exact ⟨isCount_of_lt_ten (by decide), isCount_of_lt_ten (by decide),
        isCount_of_lt_ten (by decide)⟩

/-! ## The first frame of a track -/

variable {ds : List (Command Binary64)} {s : Session} {x : Track}

/-- Whether the first frame of a track, committed or still pending, starts with some commands. -/
def StartsWith (ds : List (Command Binary64)) (x : Track) : Prop :=
  match x.frames.toList with
  | [] => ds <+: x.commands.toList
  | f :: _ => ds <+: f.commands

/-- Commands that keep the frame to grids: a grid is among them, and no plane. -/
structure GridFirst (ds : List (Command Binary64)) : Prop where
  grid : Kind.grid ∈ ds.map Command.kind
  plane : Kind.plane ∉ ds.map Command.kind

theorem startsWith_commit (hd : GridFirst ds) (h : StartsWith ds x) (cfg : Config Binary64)
    (keep : Bool) : StartsWith ds (x.commit cfg keep).2 := by
  unfold Track.commit
  split
  · unfold StartsWith at *
    dsimp only
    rw [Array.toList_push]
    cases hframes : x.frames.toList with
    | nil =>
      rw [hframes] at h
      exact prefix_resolveExclusivity h hd.grid hd.plane
    | cons f fs =>
      rw [hframes] at h
      exact h
  · exact h

/-- Whatever a mode goes on with, its first frame starts as before. -/
theorem startsWith_absorb (hd : GridFirst ds) (h : StartsWith ds x) (cfg : Config Binary64)
    (o : Outcome) : StartsWith ds (x.absorb cfg o) := by
  have hsame : StartsWith ds ((x.record o.taken).report o.reports) := h
  unfold Track.absorb
  dsimp only
  split
  next c _ =>
    unfold StartsWith at *
    cases hframes : x.frames.toList with
    | nil =>
      rw [hframes] at h
      have hpushed : (((x.record o.taken).report o.reports).draw c).commands.toList =
          x.commands.toList ++ [c] := Array.toList_push
      have hnone : (((x.record o.taken).report o.reports).draw c).frames.toList = [] := hframes
      rw [hnone]
      dsimp only
      rw [hpushed]
      exact h.trans (List.prefix_append _ _)
    | cons f fs =>
      have hsome : (((x.record o.taken).report o.reports).draw c).frames.toList = f :: fs := hframes
      rw [hframes] at h
      rw [hsome]
      exact h
  next => exact startsWith_commit hd hsame cfg false
  next => exact hsame

theorem startsWith_applyAll (hd : GridFirst ds) (h : StartsWith ds (s.track m))
    (cfg : Config Binary64) (sts : List Statement) :
    StartsWith ds ((s.applyAll cfg sts).track m) := by
  induction sts generalizing s with
  | nil => exact h
  | cons st sts ih =>
    refine ih ?_
    rw [Session.apply, Session.track_update]
    split
    next hm => exact startsWith_absorb hd (hm ▸ h) cfg st.outcome
    next => exact h

/-- In the end there is a first frame, and it starts with these commands. -/
theorem startsWith_end (hd : GridFirst ds) (h : StartsWith ds x) (cfg : Config Binary64) :
    ∃ g gs, (x.commit cfg true).2.frames.toList = g :: gs ∧ ds <+: g.commands := by
  have hend := startsWith_commit hd h cfg true
  unfold StartsWith at hend
  cases hframes : (x.commit cfg true).2.frames.toList with
  | cons g gs =>
    rw [hframes] at hend
    exact ⟨g, gs, rfl, hend⟩
  | nil =>
    exfalso
    unfold Track.commit at hframes
    split at hframes
    · simp at hframes
    next hdue =>
      have hcommands : x.commands.toList = [] := by
        simp only [Track.isDue, Bool.or_eq_true, not_or] at hdue
        simpa using hdue.1
      have hframes : x.frames.toList = [] := hframes
      unfold StartsWith at h
      rw [hframes, hcommands] at h
      rw [List.prefix_nil.mp h] at hd
      exact absurd hd.grid (by simp)

/-! ## Frames with grids -/

/-- A grid keeps the frame to grids, also if it is drawn as another one. -/
theorem gridFirst_of_not_mixed {pre post : List (Command Binary64)} {drawn : Command Binary64}
    (hspatial : ¬ Mixed (pre ++ c :: post)) (hgrid : c.kind = .grid) (hkind : drawn.kind = c.kind) :
    GridFirst (pre.map (·.map Binary64.foldZero) ++ [drawn]) := by
  have hkinds : (pre.map (·.map Binary64.foldZero) ++ [drawn]).map Command.kind =
      pre.map Command.kind ++ [.grid] := by
    rw [List.map_append, map_kind_map, List.map_singleton, hkind, hgrid]
  have hmem : Kind.grid ∈ (pre ++ c :: post).map Command.kind :=
    List.mem_map.mpr ⟨c, by simp, hgrid⟩
  constructor
  · rw [hkinds]
    simp
  · intro hplane
    rw [hkinds, List.mem_append, List.mem_singleton] at hplane
    rcases hplane with hplane | hplane
    · refine hspatial ⟨hmem, ?_⟩
      rw [List.map_append]
      exact List.mem_append_left _ hplane
    · cases hplane

/-- Reading a written frame up to its first command that cannot be told from its lines: the commands
before it are pending, and then it is drawn as another one. -/
theorem startsWith_drawn (cfg : Config Binary64) {pre post : List (Command Binary64)}
    (hm : IsModeName m) (hf : ∀ d ∈ pre ++ c :: post, Formed cfg.maxGridCells d)
    (hc : ∀ d ∈ pre ++ c :: post, Counts d) (hpre : ∀ d ∈ pre, PlainLines d) :
    ∃ drawn, ∃ s : Session, ∃ sts, Session.applyAll cfg {} (statements cfg.maxGridCells
        (unlines (frameLines m (pre ++ c :: post)))) = s.applyAll cfg sts ∧
      StartsWith (pre.map (·.map Binary64.foldZero) ++ [drawn]) (s.track m) ∧
      drawn.kind = c.kind ∧
      (drawn.map Binary64.foldZero = c.map Binary64.foldZero → PlainLines c) := by
  obtain ⟨rest, hstatements, -⟩ :=
    statements_unlines cfg.maxGridCells (oneLine_frameLines hm hf)
  have hlines : frameLines m (pre ++ c :: post) ++ rest =
      pre.flatMap (fun c => (commandLines m c).map trimEnd) ++
        ((commandLines m c).map trimEnd ++ (frameLines m post ++ rest)) := by
    simp [frameLines]
  have hstop := atStop_frameLines hm (c :: post) rest
  rw [frameLines_cons, List.append_assoc] at hstop
  have hmem : c ∈ pre ++ c :: post := by simp
  obtain ⟨k, u, happly, -, hframes, hcommands, -⟩ := moves_commands cfg {} hm
    (fun d hd => ⟨hf d (List.mem_append_left _ hd), hc d (List.mem_append_left _ hd), hpre d hd⟩)
    hstop 1
  obtain ⟨st, sts, hsts, hmode, drawn, haction, hkind, hback⟩ :=
    statementsFrom_drawn hm (hf c hmem) (hc c hmem) (atStop_frameLines hm post rest) k
  obtain ⟨-, -, htrack⟩ := moves_apply cfg u hmode
  obtain ⟨hframes', hcommands', -⟩ := absorb_draw cfg ((u.track m).record [st.source]) haction
  rw [← htrack] at hframes' hcommands'
  rw [Session.track_empty] at hframes hcommands
  refine ⟨drawn, u.apply cfg st, sts, ?_, ?_, hkind, hback⟩
  · rw [hstatements, hlines, happly, hsts]
    rfl
  · have hnone : ((u.apply cfg st).track m).frames.toList = [] := by
      rw [hframes']
      exact congrArg Array.toList hframes
    have hpending : ((u.apply cfg st).track m).commands.toList =
        pre.map (·.map Binary64.foldZero) ++ [drawn] := by
      rw [hcommands']
      exact congrArg (· ++ [drawn]) hcommands
    unfold StartsWith
    rw [hnone, hpending]

/-- If some command of a written frame cannot be told from its lines, its mode starts with a frame of
other commands. -/
theorem first_frame_differs (cfg : Config Binary64) {pre post : List (Command Binary64)}
    (hm : IsModeName m) (hf : ∀ d ∈ pre ++ c :: post, Formed cfg.maxGridCells d)
    (hc : ∀ d ∈ pre ++ c :: post, Counts d) (hpre : ∀ d ∈ pre, PlainLines d)
    (hbad : ¬ PlainLines c) (hspatial : ¬ Mixed (pre ++ c :: post)) :
    ∃ g gs, (parse cfg (unlines (frameLines m (pre ++ c :: post)))).frames m = g :: gs ∧
      g.commands.map (·.map Binary64.foldZero) ≠
        (pre ++ c :: post).map (·.map Binary64.foldZero) := by
  obtain ⟨drawn, s, sts, hend, hstart, hkind, hback⟩ := startsWith_drawn cfg hm hf hc hpre
  have hgrid : c.kind = .grid := by
    cases c with
    | grid g => rfl
    | _ => exact absurd trivial hbad
  have hfirst := gridFirst_of_not_mixed hspatial hgrid hkind
  obtain ⟨g, gs, hg, hprefix⟩ :=
    startsWith_end hfirst (startsWith_applyAll hfirst hstart cfg sts) cfg
  refine ⟨g, gs, ?_, fun hsame => hbad (hback ?_)⟩
  · rw [frames_parse, hend, hg]
  · have hmapped := hprefix.map (·.map Binary64.foldZero)
    have htwice : (pre.map (·.map Binary64.foldZero)).map (·.map Binary64.foldZero) =
        pre.map (·.map Binary64.foldZero) := by
      rw [List.map_map]
      exact List.map_congr_left fun d _ => d.foldZero_foldZero
    rw [hsame, List.map_append, htwice, List.map_append, List.prefix_append_right_inj,
      List.map_singleton, List.map_cons, List.cons_prefix_cons] at hmapped
    exact hmapped.1

/-- A frame with a grid that a script yields comes back when it is written and read, alone in its
mode and in the whole script and with the commands it had, if and only if each of its grids can be
told from its lines. The bound on the text is far beyond any that fits in a memory; it keeps every
count of a grid within the digits that a count may have. -/
theorem reread_with_grid_iff (cfg : Config Binary64) (text m : String) (f : Frame Binary64 Notice)
    (hsize : text.length < 10 ^ Numeral.maxDigits) (hf : f ∈ (parse cfg text).frames m)
    (hgrid : ∃ g, .grid g ∈ f.commands) :
    (Reel.pictures ((parse cfg (writeFrame m f)).frames m) = Reel.pictures [f] ∧
        ∀ n, n ≠ m → (parse cfg (writeFrame m f)).frames n = []) ↔
      ∀ g, .grid g ∈ f.commands → GridPlain g := by
  obtain ⟨hmode, hformed⟩ := formed_of_mem_parse hf
  obtain ⟨x, hx⟩ := hgrid
  have hne : f.commands ≠ [] := List.ne_nil_of_mem hx
  have hc : ∀ c ∈ f.commands, Counts c := by
    intro c hc
    cases c with
    | grid g => exact gridCounts_of_filled ((filled_le_of_mem_parse hf hc).trans_lt hsize)
    | plane p =>
      refine absurd ⟨?_, ?_⟩ hformed.spatial
      · exact List.mem_map.mpr ⟨_, hx, rfl⟩
      · exact List.mem_map.mpr ⟨_, hc, rfl⟩
    | _ => trivial
  constructor
  · rintro ⟨hpictures, -⟩
    by_contra hnot
    have hbad : ∃ c ∈ f.commands, ¬ PlainLines c := by
      by_contra hall
      push Not at hall
      exact hnot fun g hg => hall _ hg
    obtain ⟨pre, c, post, hsplit, hpre, hc'⟩ := exists_first hbad
    have hformed' := hformed.commands
    have hspatial := hformed.spatial
    rw [hsplit] at hc hformed' hspatial
    obtain ⟨g, gs, hframes, hdiffers⟩ :=
      first_frame_differs cfg hmode hformed' hc hpre hc' hspatial
    rw [← hsplit, ← writeFrame_eq] at hframes
    rw [hframes] at hpictures
    refine hdiffers ?_
    rw [← hsplit]
    exact (List.cons.inj hpictures).1
  · intro hplain
    have hplain : ∀ c ∈ f.commands, PlainLines c := by
      intro c hc
      cases c with
      | grid g => exact hplain g hc
      | _ => trivial
    obtain ⟨g, hframes, hcommands, -, hother⟩ :=
      parse_frameLines cfg (recoverable_of_mem_parse hf hne hc hplain) hformed.spatial
    rw [← writeFrame_eq] at hframes hother
    refine ⟨?_, hother⟩
    rw [hframes]
    refine congrArg (fun cs => [cs]) ?_
    dsimp only
    rw [hcommands, List.map_map]
    exact List.map_congr_left fun c _ => c.foldZero_foldZero

/-- A grid with colours, a quoted text and a wall row of its own. -/
def letteredText : String :=
  "$v GRID 1 2 black black white\nCELL_COLORS\nred white\nCELL_TEXT\n\"go on\" x\n" ++
    "WALL_VERTICAL\nYNY\n$v COMMIT\n"

def letteredGrid : Grid Binary64 where
  height := 1
  width := 2
  borderColor := "black"
  textColor := "black"
  defaultColor := "white"
  colors := [["red", "white"]]
  texts := [["go on", "x"]]
  wallVertical := ["YNY"]
  wallHorizontal := ["YY", "YY"]

def letteredFrame : Frame Binary64 Notice where
  commands := [.grid letteredGrid]
  rawText := letteredText

theorem gridPlain_letteredGrid : GridPlain letteredGrid where
  colors := by unfold ColorsPlain; decide
  texts := by
    intro row hrow
    obtain rfl := List.mem_singleton.mp hrow
    exact ⟨legible_of_no_quotes (by decide), by decide⟩
  wallHorizontal := by unfold WallsPlain; decide
  wallVertical := by unfold WallsPlain; decide

theorem reread_letteredFrame :
    Reel.pictures ((parse smallConfig (writeFrame defaultMode letteredFrame)).frames defaultMode) =
        Reel.pictures [letteredFrame] ∧
      ∀ n, n ≠ defaultMode →
        (parse smallConfig (writeFrame defaultMode letteredFrame)).frames n = [] :=
  (reread_with_grid_iff smallConfig letteredText defaultMode letteredFrame
    (lt_of_lt_of_le (show letteredText.length < 10 ^ 3 by decide)
      (Nat.pow_le_pow_right (by decide) (by decide)))
    (by decide +kernel) ⟨letteredGrid, List.mem_singleton.mpr rfl⟩).mpr
    (by simpa [letteredFrame] using gridPlain_letteredGrid)

/-- A blank between two flags of a wall row. -/
def blankFlagText : String :=
  "$v GRID 1 1 black black white\nWALL_VERTICAL\nY Y\n$v COMMIT\n"

/-- The row is read as a flag and a blank, and the blank is lost by writing. -/
theorem blank_flag_lost :
    ∃ f ∈ (parse smallConfig blankFlagText).frames defaultMode,
      (∃ c ∈ f.commands, c.kind = .grid) ∧
        Reel.pictures ((parse smallConfig (writeFrame defaultMode f)).frames defaultMode) ≠
          Reel.pictures [f] := by
  decide +kernel

end Flipbook.Script
