import Mathlib
import Flipbook.Proofs.Coverage
import Flipbook.Proofs.Extracts
import Flipbook.Proofs.Scripts

/-!
Conservation. Each line of a script goes to one mode at most, and each script line to its own. The
frames of a mode hold the lines that went to it, the commands that these drew and the reports on
them, in order and each once; what was left out is a rest that came to nothing, and the commands
that a frame dropped because they were of the other spatial kind.
-/
namespace Flipbook

variable {α : Type}

/-- The commands of a frame without those of the rival of its first spatial kind. -/
def survivors (cs : List (Command α)) : List (Command α) :=
  cs.filter fun c => (firstSpatial cs).map rival != some c.kind

theorem rival_ne_of_not_mixed {cs : List (Command α)} (h : ¬ Mixed cs) {c : Command α}
    (hc : c ∈ cs) : (firstSpatial cs).map rival ≠ some c.kind := by
  intro hrival
  obtain ⟨kept, hkept, hkind⟩ := Option.map_eq_some_iff.mp hrival
  obtain ⟨hmem, rfl | rfl⟩ := firstSpatial_mem hkept
  · exact h ⟨hmem, List.mem_map.mpr ⟨c, hc, hkind.symm⟩⟩
  · exact h ⟨List.mem_map.mpr ⟨c, hc, hkind.symm⟩, hmem⟩

/-- Committing commands keeps the survivors. -/
theorem resolveExclusivity_eq_survivors (cs : List (Command α)) :
    (resolveExclusivity cs).1 = survivors cs := by
  by_cases h : Mixed cs
  · obtain ⟨kept, hkept, hcs⟩ := resolveExclusivity_of_mixed h
    rw [hcs, survivors, hkept]
    refine List.filter_congr fun c _ => ?_
    simp only [Option.map_some, bne, beq_eq_decide, Option.some.injEq, eq_comm]
  · rw [resolveExclusivity_of_not_mixed h, survivors]
    refine (List.filter_eq_self.mpr fun c hc => ?_).symm
    simpa using rival_ne_of_not_mixed h hc

end Flipbook

namespace Flipbook.Script

open Text

variable {maxCells : Int} {st : Statement} {sts : List Statement} {text m : String} {n : Nat}

/-! ## The lines of each mode -/

/-- The mode of the statement that a line is part of. -/
def ownerAmong (sts : List Statement) (n : Nat) : Option String :=
  (sts.find? fun st => st.line ≤ n && n < st.line + st.lines.length).map (·.routed.mode)

/-- The mode that line `n` of a script goes to, if any; lines are counted from one. -/
def lineOwner (maxCells : Int) (text : String) (n : Nat) : Option String :=
  ownerAmong (statements maxCells text) n

/-- The lines of a script that go to a mode, with their numbers. -/
def ownedLines (maxCells : Int) (text m : String) : List (String × Nat) :=
  ((lines text).zipIdx 1).filter fun p => lineOwner maxCells text p.2 == some m

theorem ownerAmong_cons_of_within (hlow : st.line ≤ n) (hhigh : n < st.line + st.lines.length) :
    ownerAmong (st :: sts) n = some st.routed.mode := by
  simp [ownerAmong, hlow, hhigh]

theorem ownerAmong_cons_of_le (h : st.line + st.lines.length ≤ n) :
    ownerAmong (st :: sts) n = ownerAmong sts n := by
  rw [ownerAmong, List.find?_cons_of_neg (by simp; omega)]
  rfl

theorem ownerAmong_of_lt (h : ∀ st ∈ sts, n < st.line) : ownerAmong sts n = none := by
  have hnone : (sts.find? fun st => st.line ≤ n && n < st.line + st.lines.length) = none := by
    refine List.find?_eq_none.mpr fun st hst => ?_
    have hlt := h st hst
    simp
    omega
  rw [ownerAmong, hnone]
  rfl

theorem line_le_of_mem (maxCells : Int) (line : Nat) (ls : List String) :
    ∀ st ∈ statementsFrom maxCells line ls, line ≤ st.line := by
  induction line, ls using statements_induction maxCells with
  | nil line => simp [statementsFrom]
  | plain line source rest hsts ih =>
    rw [hsts]
    intro st hst
    exact (Nat.le_succ line).trans (ih st hst)
  | statement st more hst hsts ih =>
    rw [hsts]
    refine List.forall_mem_cons.mpr ⟨le_refl st.line, fun s hs => ?_⟩
    exact (Nat.le_add_right _ _).trans (ih s hs)

theorem within_of_mem_numbered {p : String × Nat} (h : p ∈ st.numbered) :
    st.line ≤ p.2 ∧ p.2 < st.line + st.lines.length := by
  obtain ⟨hlow, hhigh, -⟩ := List.mem_zipIdx h
  exact ⟨hlow, hhigh⟩

/-- The lines that go to a mode are those that its statements consist of. -/
theorem owned_statementsFrom (maxCells : Int) (line : Nat) (ls : List String) (m : String) :
    ((ls.zipIdx line).filter fun p =>
        ownerAmong (statementsFrom maxCells line ls) p.2 == some m) =
      ((statementsFrom maxCells line ls).filter (·.routed.mode == m)).flatMap (·.numbered) := by
  induction line, ls using statements_induction maxCells with
  | nil line => simp [statementsFrom]
  | plain line source rest hsts ih =>
    have hnone : ownerAmong (statementsFrom maxCells (line + 1) rest) line = none :=
      ownerAmong_of_lt fun st hst => line_le_of_mem maxCells (line + 1) rest st hst
    rw [hsts, List.zipIdx_cons, List.filter_cons_of_neg (by simp [hnone]), ih]
  | statement st more hst hsts ih =>
    have hlater : ((more.zipIdx (st.line + st.lines.length)).filter fun p =>
        ownerAmong (st :: statementsFrom maxCells (st.line + st.lines.length) more) p.2 ==
          some m) = (more.zipIdx (st.line + st.lines.length)).filter fun p =>
        ownerAmong (statementsFrom maxCells (st.line + st.lines.length) more) p.2 == some m := by
      refine List.filter_congr fun p hp => ?_
      rw [ownerAmong_cons_of_le (List.mem_zipIdx hp).1]
    have hown : ((st.lines.zipIdx st.line).filter fun p =>
        ownerAmong (st :: statementsFrom maxCells (st.line + st.lines.length) more) p.2 ==
          some m) = st.numbered.filter fun _ => st.routed.mode == m := by
      refine List.filter_congr fun p hp => ?_
      obtain ⟨hlow, hhigh⟩ := within_of_mem_numbered hp
      rw [ownerAmong_cons_of_within hlow hhigh]
      rfl
    rw [hsts, List.zipIdx_append, List.filter_append, hown, hlater, ih]
    cases hmode : st.routed.mode == m with
    | true => simp [hmode]
    | false => simp [hmode]

/-- The lines that go to a mode are those that it consumes. -/
theorem ownedLines_eq (maxCells : Int) (text m : String) :
    ownedLines maxCells text m = consumed maxCells text m :=
  owned_statementsFrom maxCells 1 (lines text) m

/-- Every script line opens a statement. -/
theorem exists_statement {l : String} {r : Routed} (maxCells : Int)
    (hl : (l, n) ∈ (lines text).zipIdx 1) (hr : route l = some r) :
    ∃ st ∈ statements maxCells text, st.line = n ∧ st.source = l ∧ st.routed = r := by
  have hmem : (r.mode, r.remainder, n) ∈ scriptLinesFrom 1 (lines text) :=
    List.mem_filterMap.mpr ⟨(l, n), hl, by simp [hr]⟩
  rw [← statementsFrom_map maxCells] at hmem
  obtain ⟨st, hst, hfields⟩ := List.mem_map.mp hmem
  obtain ⟨hmode, hfields⟩ := Prod.mk.inj hfields
  obtain ⟨hremainder, rfl⟩ := Prod.mk.inj hfields
  have hown : (st.source, st.line) ∈ (lines text).zipIdx 1 := by
    refine (numbered_sublist maxCells 1 (lines text)).subset ?_
    exact List.mem_flatMap.mpr ⟨st, hst, by simp [Statement.numbered, Statement.lines]⟩
  have hsource : st.source = l := by
    rw [(List.mem_zipIdx hown).2.2, (List.mem_zipIdx hl).2.2]
  refine ⟨st, hst, rfl, hsource, ?_⟩
  have hroute := (isStatement_of_mem maxCells 1 (lines text) st hst).route_eq
  rw [hsource, hr] at hroute
  exact (Option.some.inj hroute).symm

/-- A script line goes to the mode that it is routed to. -/
theorem lineOwner_of_route {l : String} {r : Routed} (hl : (l, n) ∈ (lines text).zipIdx 1)
    (hr : route l = some r) : lineOwner maxCells text n = some r.mode := by
  obtain ⟨st, hst, rfl, rfl, rfl⟩ := exists_statement maxCells hl hr
  have hof : st ∈ statementsOf maxCells text st.routed.mode :=
    List.mem_filter.mpr ⟨hst, by simp⟩
  have hown : (st.source, st.line) ∈ ownedLines maxCells text st.routed.mode := by
    rw [ownedLines_eq]
    exact List.mem_flatMap.mpr ⟨st, hof, by simp [Statement.numbered, Statement.lines]⟩
  exact eq_of_beq (List.mem_filter.mp hown).2

/-! ## What the frames of a mode hold -/

theorem commands_passageFrame (cfg : Config Binary64) (p : List Statement) :
    (passageFrame cfg p).commands = survivors (drawn p) := resolveExclusivity_eq_survivors _

theorem reports_passageFrame (cfg : Config Binary64) (p : List Statement) :
    (passageFrame cfg p).errors.filterMap Notice.report? = reported p := by
  have hadded : (commitNotices cfg (drawn p)).filterMap Notice.report? = [] :=
    List.filterMap_eq_nil_iff.mpr fun _ hn => report?_of_mem_commitNotices hn
  rw [errors_passageFrame, List.filterMap_append, hadded, List.append_nil, List.filterMap_map]
  exact List.filterMap_some

theorem linesOf_flatten (groups : List (List Statement)) :
    linesOf groups.flatten = groups.flatMap linesOf := by
  induction groups with
  | nil => rfl
  | cons g groups ih => rw [List.flatten_cons, linesOf_append, ih, List.flatMap_cons]

theorem drawn_flatten (groups : List (List Statement)) :
    drawn groups.flatten = groups.flatMap drawn := by
  induction groups with
  | nil => rfl
  | cons g groups ih => rw [List.flatten_cons, drawn_append, ih, List.flatMap_cons]

/-- The frames of some passages hold their reports and no others. -/
theorem reports_frames (cfg : Config Binary64) (groups : List (List Statement)) :
    ((groups.map (passageFrame cfg)).flatMap (·.errors)).filterMap Notice.report? =
      reported groups.flatten := by
  induction groups with
  | nil => rfl
  | cons g groups ih =>
    rw [List.map_cons, List.flatMap_cons, List.filterMap_append, ih, reports_passageFrame,
      List.flatten_cons, reported_append]

/-- Nothing is lost and nothing is doubled between a script and its frames. Every line goes to one
mode at most, a script line to its own. The statements of a mode are one group for each of its
frames, and a rest that draws and reports nothing. The texts of the frames are the lines that went
to the mode, up to the rest; each frame holds what its group draws, but the commands of the rival
spatial kind; and the reports are those of all statements. -/
theorem nothing_lost (cfg : Config Binary64) (text : String) :
    (∀ l n r, (l, n) ∈ (lines text).zipIdx 1 → route l = some r →
      lineOwner cfg.maxGridCells text n = some r.mode) ∧
    ∀ m, ∃ (groups : List (List Statement)) (rest : List Statement),
      groups.flatten ++ rest = statementsOf cfg.maxGridCells text m ∧
      (∀ st ∈ rest, st.outcome.action.drawn? = none ∧ st.outcome.reports = []) ∧
      (ownedLines cfg.maxGridCells text m).map Prod.fst =
        linesOf groups.flatten ++ linesOf rest ∧
      String.join (((parse cfg text).frames m).map (·.rawText)) =
        unlines (linesOf groups.flatten) ∧
      ((parse cfg text).frames m).map (·.commands) = groups.map (fun g => survivors (drawn g)) ∧
      groups.flatMap drawn = drawn (statementsOf cfg.maxGridCells text m) ∧
      (((parse cfg text).frames m).flatMap (·.errors)).filterMap Notice.report? =
        reported (statementsOf cfg.maxGridCells text m) := by
  refine ⟨fun l n r => lineOwner_of_route, fun m => ?_⟩
  have hall := flatten_passages (statementsOf cfg.maxGridCells text m)
  obtain ⟨hdrawn, hreported⟩ :=
    comeToNothing_iff.mp (passages_rest (statementsOf cfg.maxGridCells text m))
  rw [frames_eq]
  generalize passages (statementsOf cfg.maxGridCells text m) = ps at hall hdrawn hreported
  refine ⟨ps.groups, ps.rest, hall, fun st hst => ⟨?_, ?_⟩, ?_, ?_, ?_, ?_, ?_⟩
  · exact List.filterMap_eq_nil_iff.mp hdrawn st hst
  · exact List.flatMap_eq_nil_iff.mp hreported st hst
  · rw [ownedLines_eq, consumed, map_fst_numbered, ← hall, linesOf_append]
  · rw [linesOf_flatten, ← join_unlines, List.map_map]
    rfl
  · rw [List.map_map]
    exact List.map_congr_left fun g _ => commands_passageFrame cfg g
  · rw [← hall, drawn_append, hdrawn, List.append_nil, drawn_flatten]
  · rw [← hall, reported_append, hreported, List.append_nil, reports_frames]

/-- A line of another mode where a grid still awaits the rows of a block. -/
def awaitedText : String :=
  "$v(a) GRID 1 1 red red red\nWALL_VERTICAL\n$v(b) SCORE 3\n$v(a) COMMIT"

theorem nothing_lost_awaited :
    ("$v(b) SCORE 3", 3) ∈ (lines awaitedText).zipIdx 1 ∧
      route "$v(b) SCORE 3" = some ⟨"b", "SCORE 3"⟩ ∧
      lineOwner 1 awaitedText 3 = some "b" :=
  have hline : ("$v(b) SCORE 3", 3) ∈ (lines awaitedText).zipIdx 1 := by decide +kernel
  have hroute : route "$v(b) SCORE 3" = some ⟨"b", "SCORE 3"⟩ := by decide +kernel
  ⟨hline, hroute, (nothing_lost { maxGridCells := 1 } awaitedText).1 _ _ _ hline hroute⟩

end Flipbook.Script
