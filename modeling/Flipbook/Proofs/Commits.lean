import Mathlib
import Flipbook.Proofs.Exclusivity
import Flipbook.Script.Track

/-!
Commits. A commit that is due adds one frame and leaves nothing pending, one that is not due changes
nothing. Of the two spatial kinds the first keeps the frame; the checks that follow look at the
commands that are left.
-/
namespace Flipbook

variable {α : Type} {cs : List (Command α)} {c : Command α} {kept : Kind}

/-- Whether the first spatial command is of this kind. -/
def ComesFirst (kept : Kind) (cs : List (Command α)) : Prop :=
  ∃ pre c post, cs = pre ++ c :: post ∧ (∀ d ∈ pre, d.isSpatial = false) ∧
    c.isSpatial = true ∧ c.kind = kept

theorem comesFirst_cons (c : Command α) (cs : List (Command α)) : ComesFirst kept (c :: cs) ↔
    c.isSpatial = true ∧ c.kind = kept ∨ c.isSpatial = false ∧ ComesFirst kept cs := by
  constructor
  · rintro ⟨pre, d, post, hcs, hpre, hd, hkind⟩
    cases pre with
    | nil =>
      obtain ⟨rfl, -⟩ := List.cons.inj hcs
      exact .inl ⟨hd, hkind⟩
    | cons e pre =>
      obtain ⟨rfl, rfl⟩ := List.cons.inj hcs
      exact .inr ⟨hpre c List.mem_cons_self,
        pre, d, post, rfl, fun e he => hpre e (List.mem_cons_of_mem _ he), hd, hkind⟩
  · rintro (⟨hc, hkind⟩ | ⟨hc, pre, d, post, rfl, hpre, hd, hkind⟩)
    · exact ⟨[], c, cs, rfl, by simp, hc, hkind⟩
    · refine ⟨c :: pre, d, post, rfl, ?_, hd, hkind⟩
      intro e he
      rcases List.mem_cons.mp he with rfl | he
      · exact hc
      · exact hpre e he

theorem firstSpatial_eq_some_iff : firstSpatial cs = some kept ↔ ComesFirst kept cs := by
  induction cs with
  | nil => simp [firstSpatial, ComesFirst]
  | cons c cs ih =>
    rw [comesFirst_cons, ← ih]
    cases hc : c.isSpatial with
    | true =>
      have hkind : c.kind.isSpatial = true := hc
      simp [firstSpatial, hkind]
    | false =>
      have hkind : c.kind.isSpatial = false := hc
      simp [firstSpatial, hkind]

theorem rival_ne (kept : Kind) : rival kept ≠ kept := by
  cases kept <;> decide

theorem isSpatial_rival (kept : Kind) : (rival kept).isSpatial = true := by
  cases kept <;> rfl

theorem length_sub_length_filter (cs : List (Command α)) (k : Kind) :
    cs.length - (cs.filter fun c => c.kind != k).length = cs.countP fun c => c.kind == k := by
  have h := List.length_eq_countP_add_countP (fun c : Command α => c.kind == k) (l := cs)
  have hfilter : (cs.filter fun c => c.kind != k).length =
      cs.countP fun c => decide ¬ (c.kind == k) = true := by
    rw [List.countP_eq_length_filter]
    congr 1
    apply List.filter_congr
    intro c _
    cases hk : c.kind == k <;> simp [bne, hk]
  omega

/-- What is said of commands of both spatial kinds: the kind that is kept, and how many of the other
were dropped. -/
theorem resolveExclusivity_eq_of_mixed (h : Mixed cs) : ∃ kept, ComesFirst kept cs ∧
    resolveExclusivity cs = (cs.filter fun c => c.kind != rival kept,
      some (.conflict kept (rival kept) (cs.countP fun c => c.kind == rival kept))) := by
  obtain ⟨kept, hkept, hcs⟩ := resolveExclusivity_of_mixed h
  refine ⟨kept, firstSpatial_eq_some_iff.mp hkept, ?_⟩
  have hrival : ((cs.map Command.kind).filter Kind.isSpatial).contains (rival kept) = true := by
    rw [List.contains_iff_mem, List.mem_filter]
    refine ⟨?_, isSpatial_rival kept⟩
    obtain ⟨-, rfl | rfl⟩ := firstSpatial_mem hkept
    · exact h.2
    · exact h.1
  have hhead : ((cs.map Command.kind).filter Kind.isSpatial).head? = some kept := hkept
  rw [← length_sub_length_filter]
  unfold resolveExclusivity
  dsimp only
  rw [hhead]
  exact if_pos hrival

/-- A second look drops nothing more. -/
theorem resolveExclusivity_survivors (cs : List (Command α)) :
    resolveExclusivity (resolveExclusivity cs).1 = ((resolveExclusivity cs).1, none) :=
  resolveExclusivity_of_not_mixed (not_mixed_resolveExclusivity cs)

/-- The kind that comes first survives, and so does all that is not spatial. -/
theorem mem_survivors (hc : c ∈ cs) (h : c.isSpatial = false ∨ ComesFirst c.kind cs) :
    c ∈ (resolveExclusivity cs).1 := by
  by_cases hm : Mixed cs
  · obtain ⟨kept, hkept, hcs⟩ := resolveExclusivity_eq_of_mixed hm
    rw [hcs]
    refine List.mem_filter.mpr ⟨hc, bne_iff_ne.mpr ?_⟩
    intro hrival
    rcases h with h | h
    · rw [Command.isSpatial, hrival, isSpatial_rival] at h
      cases h
    · have hfirst := firstSpatial_eq_some_iff.mpr h
      rw [firstSpatial_eq_some_iff.mpr hkept, hrival] at hfirst
      exact rival_ne kept (Option.some.inj hfirst).symm
  · rw [resolveExclusivity_of_not_mixed hm]
    exact hc

end Flipbook

namespace Flipbook.Script

/-- The frame that is made of what a track holds pending. -/
structure Track.Yields (cfg : Config Binary64) (t : Track) (f : Frame Binary64 Notice) : Prop where
  /-- Commands of one spatial kind at most are all kept, and nothing is said of a conflict. -/
  unmixed : ¬ Mixed t.commands.toList → f.commands = t.commands.toList ∧
    f.errors = t.reports.toList.map .report ++ overlapNotices f.commands cfg
  /-- Of both kinds the one that does not come first is dropped, which is said once. -/
  mixed : Mixed t.commands.toList → ∃ kept n plural, ComesFirst kept t.commands.toList ∧
    n = t.commands.toList.countP (fun c => c.kind == rival kept) ∧
    plural = (if n = 1 then "" else "s") ∧
    f.commands = t.commands.toList.filter (fun c => c.kind != rival kept) ∧
    f.errors = t.reports.toList.map .report ++
      .conflict kept (rival kept) n :: overlapNotices f.commands cfg ∧
    (Notice.conflict kept (rival kept) n).message =
      s!"Frame contains both GRID and 2D_PLANE; keeping {kept.keyword} " ++
        s!"(dropped {n} {(rival kept).keyword} command{plural})"
  survives : ∀ c ∈ t.commands.toList,
    c.isSpatial = false ∨ ComesFirst c.kind t.commands.toList → c ∈ f.commands
  stable : resolveExclusivity f.commands = (f.commands, none)
  rawText : f.rawText = String.join (t.raw.toList.map (· ++ "\n"))
  showDebug : f.showDebug = true ↔ .debug ∈ f.commands

theorem any_isDebug (cs : List (Command Binary64)) :
    (cs.any fun c => c.kind == .debug) = true ↔ .debug ∈ cs := by
  have hdebug (c : Command Binary64) : c.kind = .debug ↔ c = .debug := by
    cases c <;> simp [Command.kind]
  simp [hdebug]

theorem yields_frameOf (cfg : Config Binary64) (t : Track) :
    t.Yields cfg (Track.frameOf cfg t.commands.toList t.raw.toList t.reports.toList) where
  unmixed := by
    intro h
    simp [Track.frameOf, resolveExclusivity_of_not_mixed h]
  mixed := by
    intro h
    obtain ⟨kept, hkept, hcs⟩ := resolveExclusivity_eq_of_mixed h
    exact ⟨kept, _, _, hkept, rfl, rfl, by simp [Track.frameOf, hcs],
      by simp [Track.frameOf, hcs], rfl⟩
  survives := fun _ => mem_survivors
  stable := resolveExclusivity_survivors _
  rawText := rfl
  showDebug := any_isDebug _

theorem isDue_iff (t : Track) (keepReports : Bool) : t.isDue keepReports = true ↔
    ¬ (t.commands = #[] ∧ ¬ (keepReports = true ∧ t.reports ≠ #[])) := by
  simp only [Track.isDue, Bool.or_eq_true, Bool.and_eq_true, Bool.not_eq_true',
    Array.isEmpty_eq_false_iff]
  tauto

/-- A commit without a pending command, and without a pending report if reports alone are kept,
changes nothing. Any other adds exactly one frame behind those there are, made of all that is
pending, and leaves nothing pending. -/
theorem commit_once (cfg : Config Binary64) (t : Track) (keepReports : Bool) :
    (t.commands = #[] ∧ ¬ (keepReports = true ∧ t.reports ≠ #[]) →
      t.commit cfg keepReports = (none, t)) ∧
    (¬ (t.commands = #[] ∧ ¬ (keepReports = true ∧ t.reports ≠ #[])) →
      ∃ f, t.commit cfg keepReports =
          (some f, { frames := t.frames.push f, commands := #[], raw := #[], reports := #[] }) ∧
        t.Yields cfg f) := by
  rw [← isDue_iff]
  constructor
  · intro hidle
    have hdue : ¬ t.isDue keepReports = true := by
      rw [isDue_iff]
      exact not_not_intro hidle
    exact if_neg hdue
  · intro hdue
    exact ⟨_, if_pos hdue, yields_frameOf cfg t⟩

/-- A grid between two planes, the first of which comes after a score, and a report. -/
def crowdedTrack : Track where
  commands := #[.score "1", .plane ⟨1.0, 1.0, [], [], [], none⟩,
    .grid ⟨1, 1, "a", "b", "c", [["c"]], [[""]], [], ["YY"], ["Y", "Y"], none⟩, .debug,
    .plane ⟨1.0, 1.0, [], [], [], none⟩]
  raw := #["$v SCORE 1", "$v 2D_PLANE 1 1", "$v GRID 1 1 a b c", "$v DEBUG", "$v 2D_PLANE 1 1"]
  reports := #[⟨7, .unknownCommand "DRAW"⟩]

theorem commit_once_crowded :
    Mixed crowdedTrack.commands.toList ∧
      (({ reports := #[⟨7, .unknownCommand "DRAW"⟩] } : Track).commit {} false).1 = none ∧
      ∃ f, (crowdedTrack.commit {} false).1 = some f ∧ crowdedTrack.Yields {} f := by
  have hidle := (commit_once {} { reports := #[⟨7, .unknownCommand "DRAW"⟩] } false).1
    ⟨rfl, by simp⟩
  obtain ⟨f, hcommit, hyields⟩ := (commit_once {} crowdedTrack false).2 (by simp [crowdedTrack])
  exact ⟨⟨by decide, by decide⟩, by rw [hidle], f, by rw [hcommit], hyields⟩

end Flipbook.Script
