import Mathlib
import Flipbook.Proofs.Dispatch
import Flipbook.Proofs.Turns
import Flipbook.Proofs.WrittenBlocks

/-!
Commands elsewhere in a script. What a command yields is settled by its text and the lines that it
takes: on another line, and with other lines behind those, it yields the same, and its reports move
with it. Every report points at the line of the command or at a line that it took.
-/
namespace Flipbook.Script

open Text

variable {β κ : Type} {row : β → κ → Nat → String → Int → β × List Report} {x : β} {d line : Int}
  {evs : List (BlockEvent κ)} {maxCells number : Int} {text : String} {rest after : List String}
  {p : Report} {call : Call}

/-! ## Rows -/

/-- A reading of one line: what it yields does not depend on the number of the line, and that is
where it reports. -/
def Local (read : Int → β × List Report) : Prop :=
  ∃ (y : β) (problems : List Problem), ∀ line,
    read line = (y, problems.map fun problem => ⟨line, problem⟩)

theorem Local.moved {read : Int → β × List Report} (h : Local read) (line d : Int) :
    read (line + d) = ((read line).1, (read line).2.map (·.moved d)) := by
  obtain ⟨y, problems, hread⟩ := h
  rw [hread, hread, List.map_map]
  rfl

theorem Local.line_eq {read : Int → β × List Report} (h : Local read) {line : Int}
    (hp : p ∈ (read line).2) : p.line = line := by
  obtain ⟨y, problems, hread⟩ := h
  rw [hread] at hp
  obtain ⟨problem, -, rfl⟩ := List.mem_map.mp hp
  rfl

theorem local_silent (y : β) : Local fun _ => (y, []) := ⟨y, [], fun _ => rfl⟩

theorem local_report (y : β) (problem : Problem) : Local fun line => (y, [⟨line, problem⟩]) :=
  ⟨y, [problem], fun _ => rfl⟩

theorem replay_moved (h : ∀ x key i text, Local (row x key i text)) (d : Int) (x : β)
    (evs : List (BlockEvent κ)) : replay row x (evs.map (·.moved d)) =
      ((replay row x evs).1, (replay row x evs).2.map (·.moved d)) := by
  induction evs generalizing x with
  | nil => rfl
  | cons e evs ih =>
    cases e with
    | row key i text line =>
      rw [List.map_cons, BlockEvent.moved, replay_row, replay_row, (h x key i text).moved, ih,
        List.map_append]
    | problem p =>
      rw [List.map_cons, BlockEvent.moved, replay_problem_cons, replay_problem_cons, ih,
        List.map_cons]

/-- What holds of the problems among some events, and of all that their rows report, holds of every
report of their replay. -/
theorem forall_mem_replay {Q : Report → Prop}
    (hrow : ∀ y key i text line, .row key i text line ∈ evs →
      ∀ p ∈ (row y key i text line).2, Q p)
    (hproblem : ∀ p, .problem p ∈ evs → Q p) : ∀ p ∈ (replay row x evs).2, Q p := by
  induction evs generalizing x with
  | nil => simp [replay]
  | cons e evs ih =>
    have hlater {y : β} : ∀ p ∈ (replay row y evs).2, Q p :=
      ih (fun y key i text line he => hrow y key i text line (List.mem_cons_of_mem e he))
        fun p hp => hproblem p (List.mem_cons_of_mem e hp)
    cases e with
    | row key i text line =>
      rw [replay_row]
      exact List.forall_mem_append.mpr ⟨hrow x key i text line List.mem_cons_self, hlater⟩
    | problem q =>
      rw [replay_problem_cons]
      exact List.forall_mem_cons.mpr ⟨hproblem q List.mem_cons_self, hlater⟩

/-- Every report of a replay points at the line of an event. -/
theorem line_of_mem_replay (h : ∀ x key i text, Local (row x key i text))
    (hp : p ∈ (replay row x evs).2) : ∃ e ∈ evs, p.line = e.line := by
  refine forall_mem_replay (Q := fun q => ∃ e ∈ evs, q.line = e.line) ?_ ?_ p hp
  · intro y key i text line he q hq
    exact ⟨_, he, (h y key i text).line_eq hq⟩
  · intro q hq
    exact ⟨_, hq, rfl⟩

theorem local_readFlags (b : GridBlock) (text : String) (expected : Nat) :
    Local (readFlags b text expected) := by
  unfold readFlags
  dsimp only
  split
  · exact local_report _ _
  · exact local_silent _

theorem Local.map {γ : Type} {read : Int → β × List Report} (h : Local read) (f : β → γ) :
    Local fun line => (f (read line).1, (read line).2) := by
  obtain ⟨y, problems, hread⟩ := h
  exact ⟨f y, problems, fun line => by simp only [hread]⟩

theorem local_gridRow (w : Nat) (g : Grid Binary64) (b : GridBlock) (i : Nat) (text : String) :
    Local (gridRow w g b i text) := by
  unfold gridRow
  cases b with
  | colors => exact local_silent _
  | texts => exact local_silent _
  | colorPositions =>
    dsimp only
    cases countedRow? (words text) with
    | some row => exact local_silent _
    | none => exact local_report _ _
  | polylines =>
    dsimp only
    cases countedRow? (words text) with
    | some row =>
      dsimp only
      split
      · exact local_silent _
      · exact local_silent _
    | none => exact local_report _ _
  | wallVertical =>
    exact (local_readFlags .wallVertical text (w + 1)).map fun flags =>
      { g with wallVertical := g.wallVertical.set i flags }
  | wallHorizontal =>
    exact (local_readFlags .wallHorizontal text w).map fun flags =>
      { g with wallHorizontal := g.wallHorizontal.set i flags }

theorem local_planeRow (p : Plane Binary64) (b : PlaneBlock) (i : Nat) (text : String) :
    Local (planeRow p b i text) := by
  unfold planeRow
  cases b with
  | circles =>
    dsimp only
    split
    next lineColor fillColor count more hrow =>
      cases Numeral.readInt? count with
      | none => exact local_report _ _
      | some n =>
        dsimp only
        split <;> exact local_silent _
    next => exact local_report _ _
  | lines =>
    dsimp only
    cases lineForm? (words text) with
    | none => exact local_report _ _
    | some form =>
      dsimp only
      split <;> exact local_silent _
  | polygons =>
    dsimp only
    split
    next lineColor fillColor count more hrow =>
      cases Numeral.readInt? count with
      | none => exact local_report _ _
      | some n =>
        dsimp only
        split <;> exact local_silent _
    next => exact local_report _ _

theorem local_readPairs (expected : Int) (left found : Nat) (row : List String) :
    Local fun line => readPairs line expected left found row := by
  induction left generalizing found row with
  | zero => exact local_silent _
  | succ left ih =>
    rcases row with _ | ⟨label, _ | ⟨value, more⟩⟩
    · exact local_report _ _
    · exact local_report _ _
    · obtain ⟨bars, problems, hread⟩ := ih (found + 1) more
      dsimp only at hread
      unfold readPairs
      cases Numeral.readFinite? value with
      | some v => exact ⟨⟨label, v⟩ :: bars, problems, fun line => by simp only [hread]⟩
      | none =>
        exact ⟨bars, .barValue value label :: problems, fun line => by
          simp only [hread, List.map_cons]⟩

theorem local_readBars (text : String) : Local (readBars text) := by
  unfold readBars
  split
  next => exact local_report _ _
  next count row hrow =>
    cases Numeral.readInt? count with
    | none => exact local_report _ _
    | some n => exact local_readPairs n n.toNat 0 row

/-! ## Commands -/

/-- A call `d` lines further down. -/
def Call.moved (d : Int) (c : Call) : Call := { c with line := c.line + d }

/-- What a command yields, `d` lines further down. -/
def Outcome.moved (d : Int) (o : Outcome) : Outcome :=
  { o with reports := o.reports.map (·.moved d) }

theorem Outcome.moved_zero (o : Outcome) : o.moved 0 = o := by
  have hreport : (Report.moved 0 : Report → Report) = id := by
    funext p
    simp [Report.moved]
  simp [Outcome.moved, hreport]

theorem refuse_moved (call : Call) (fault : HeaderFault) (d : Int) :
    (call.moved d).refuse fault = (call.refuse fault).moved d := rfl

theorem readCanvas_moved (call : Call) (d : Int) :
    readCanvas (call.moved d) = (readCanvas call).moved d := by
  unfold readCanvas
  have hparams : (call.moved d).params = call.params := rfl
  rw [hparams]
  split
  · split <;> rfl
  · rfl

theorem readBarGraph_moved (hstop : BlockReader.AtStop after) (call : Call) (rest : List String)
    (line d : Int) :
    readBarGraph (call.moved d) ((readBarGraph call rest line).taken ++ after) (line + d) =
      (readBarGraph call rest line).moved d := by
  have hafter : after.head?.filter (!isScript ·) = none := by
    rw [Option.filter_eq_none_iff]
    intro l hl
    simp [hstop l hl]
  unfold readBarGraph
  have hparams : (call.moved d).params = call.params := rfl
  rw [hparams]
  cases readBarGraphHeader call.params with
  | error fault => exact refuse_moved call fault d
  | ok h =>
    dsimp only
    cases hdata : rest.head?.filter (!isScript ·) with
    | none =>
      rw [List.nil_append, hafter]
      rfl
    | some data =>
      have hplain := (Option.filter_eq_some_iff.mp hdata).2
      have hfirst : ([data] ++ after).head?.filter (!isScript ·) = some data :=
        Option.filter_eq_some_iff.mpr ⟨rfl, hplain⟩
      dsimp only
      rw [hfirst]
      dsimp only
      rw [(local_readBars data).moved]
      rfl

theorem readGrid_moved (hstop : BlockReader.AtStop after) (maxCells : Int) (call : Call)
    (rest : List String) (line d : Int) :
    readGrid maxCells (call.moved d) ((readGrid maxCells call rest line).taken ++ after)
      (line + d) = (readGrid maxCells call rest line).moved d := by
  unfold readGrid
  have htext : (call.moved d).text = call.text := rfl
  rw [htext]
  cases readGridHeader maxCells call.text with
  | error fault => exact refuse_moved call fault d
  | ok h =>
    obtain ⟨htaken, hevents⟩ :=
      BlockReader.run_elsewhere (plainNames_gridSpecs h) rest line hstop d
    dsimp only at htaken hevents ⊢
    rw [htaken, hevents, Array.toList_map, replay_moved (local_gridRow h.width)]
    rfl

theorem readPlane_moved (hstop : BlockReader.AtStop after) (call : Call) (rest : List String)
    (line d : Int) :
    readPlane (call.moved d) ((readPlane call rest line).taken ++ after) (line + d) =
      (readPlane call rest line).moved d := by
  unfold readPlane
  have htext : (call.moved d).text = call.text := rfl
  rw [htext]
  cases readPlaneHeader call.text with
  | error fault => exact refuse_moved call fault d
  | ok h =>
    obtain ⟨htaken, hevents⟩ :=
      BlockReader.run_elsewhere plainNames_planeSpecs rest line hstop d
    dsimp only at htaken hevents ⊢
    rw [htaken, hevents, Array.toList_map, replay_moved local_planeRow]
    rfl

theorem resolve_moved {η : Type} (v : Vocabulary η) (text : String) (number d : Int) :
    v.resolve text (number + d) = match v.resolve text number with
      | .blank => .blank
      | .unknown word => .unknown word
      | .call e call => .call e (call.moved d) := by
  unfold Vocabulary.resolve
  split
  · rfl
  · dsimp only
    split
    · rfl
    · split <;> rfl

/-- A command with the lines that it took, `d` lines further down and before a script line or
none, takes these lines and yields the same. -/
theorem perform_moved (hstop : BlockReader.AtStop after) (maxCells : Int) (text : String)
    (number : Int) (rest : List String) (line d : Int) :
    perform maxCells text (number + d) ((perform maxCells text number rest line).taken ++ after)
      (line + d) = (perform maxCells text number rest line).moved d := by
  unfold perform
  rw [resolve_moved]
  cases h : vocabulary.resolve text number with
  | blank => rfl
  | unknown word => rfl
  | call e call =>
    obtain ⟨hmem, -⟩ := resolve_call h
    simp only [vocabulary, List.mem_cons, List.not_mem_nil, or_false] at hmem
    rcases hmem with rfl | rfl | rfl | rfl | rfl | rfl | rfl | rfl
    · exact readBarGraph_moved hstop call rest line d
    · rfl
    · rfl
    · rfl
    · rfl
    · exact readCanvas_moved call d
    · exact readGrid_moved hstop maxCells call rest line d
    · exact readPlane_moved hstop call rest line d

/-! ## Lines that reports point at -/

/-- A report that points at line `number` or at one of some lines, the first of them line `line`. -/
def PointsInto (number line : Int) (taken : List String) (p : Report) : Prop :=
  p.line = number ∨ line ≤ p.line ∧ p.line < line + taken.length

theorem line_of_mem_refuse {fault : HeaderFault} (hp : p ∈ (call.refuse fault).reports) :
    p.line = call.line := by
  obtain rfl := List.mem_singleton.mp hp
  rfl

theorem line_of_mem_readCanvas (hp : p ∈ (readCanvas call).reports) : p.line = call.line := by
  unfold readCanvas at hp
  split at hp
  · split at hp
    · cases hp
    · exact line_of_mem_refuse hp
  · exact line_of_mem_refuse hp

theorem pointsInto_readBarGraph (hp : p ∈ (readBarGraph call rest line).reports) :
    PointsInto call.line line (readBarGraph call rest line).taken p := by
  unfold readBarGraph at hp ⊢
  split at hp
  next => exact .inl (line_of_mem_refuse hp)
  next h _ =>
    dsimp only at hp ⊢
    split at hp
    next =>
      obtain rfl := List.mem_singleton.mp hp
      exact .inl rfl
    next data _ =>
      have hline := (local_readBars data).line_eq hp
      exact .inr ⟨hline.ge, by simp [hline]⟩

theorem pointsInto_readGrid (hp : p ∈ (readGrid maxCells call rest line).reports) :
    PointsInto call.line line (readGrid maxCells call rest line).taken p := by
  unfold readGrid at hp ⊢
  split at hp
  next => exact .inl (line_of_mem_refuse hp)
  next h _ =>
    obtain ⟨e, he, hline⟩ := line_of_mem_replay (local_gridRow h.width) hp
    have hwithin := BlockReader.line_of_mem_run (plainNames_gridSpecs h) he
    rw [← hline] at hwithin
    exact .inr hwithin

theorem pointsInto_readPlane (hp : p ∈ (readPlane call rest line).reports) :
    PointsInto call.line line (readPlane call rest line).taken p := by
  unfold readPlane at hp ⊢
  split at hp
  next => exact .inl (line_of_mem_refuse hp)
  next h _ =>
    obtain ⟨e, he, hline⟩ := line_of_mem_replay local_planeRow hp
    have hwithin := BlockReader.line_of_mem_run plainNames_planeSpecs he
    rw [← hline] at hwithin
    exact .inr hwithin

/-- Every report of a command points at its own line or at a line that it took. -/
theorem pointsInto_perform (hp : p ∈ (perform maxCells text number rest line).reports) :
    PointsInto number line (perform maxCells text number rest line).taken p := by
  have hperforms := performs_perform maxCells text number rest line
  generalize perform maxCells text number rest line = o at hp hperforms ⊢
  cases hperforms with
  | unknown word =>
    obtain rfl := List.mem_singleton.mp hp
    exact .inl rfl
  | canvas call h => exact .inl (h.line_eq ▸ line_of_mem_readCanvas hp)
  | barGraph call h => exact h.line_eq ▸ pointsInto_readBarGraph hp
  | grid call h => exact h.line_eq ▸ pointsInto_readGrid hp
  | plane call h => exact h.line_eq ▸ pointsInto_readPlane hp
  | _ => cases hp

end Flipbook.Script
