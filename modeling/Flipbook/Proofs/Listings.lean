import Mathlib
import Flipbook.CommandLine
import Flipbook.Proofs.Commits
import Flipbook.Proofs.Lists
import Flipbook.Proofs.Messages

/-!
The listing of all diagnostics. It has one line for each diagnostic of each frame of each mode, and
is empty only if no line of the script was reported and no frame held commands that clash.
-/
namespace Flipbook

variable {a b m : String} {names ms : List String} {reel : Reel Binary64 Notice}
  {cfg : Config Binary64} {cs : List (Command Binary64)}

/-! ## The order of the modes -/

/-- The order in which modes are listed: the default mode comes first, and the others in code point
order. -/
def Precedes (a b : String) : Prop := b ≠ defaultMode ∧ (a = defaultMode ∨ a < b)

theorem Precedes.asymm (h : Precedes a b) (h' : Precedes b a) : a = b := by
  have hab := h.2.resolve_left h'.1
  have hba := h'.2.resolve_left h.1
  exact absurd hab (lt_asymm hba)

theorem Precedes.ne (h : Precedes a b) : a ≠ b := by
  rintro rfl
  rcases h.2 with hd | hlt
  · exact h.1 hd
  · exact lt_irrefl a hlt

/-- Some modes in the order of a listing. -/
def arranged (names : List String) : List String :=
  let sorted := names.mergeSort fun a b => a ≤ b
  if sorted.contains defaultMode then defaultMode :: sorted.erase defaultMode else sorted

theorem pairwise_arranged (h : names.Nodup) : (arranged names).Pairwise Precedes := by
  have hperm := List.mergeSort_perm names fun a b => a ≤ b
  have hnodup := hperm.nodup_iff.mpr h
  have hlt := pairwise_lt_mergeSort h
  unfold arranged
  dsimp only
  generalize names.mergeSort (fun a b => a ≤ b) = sorted at hnodup hlt
  split
  next hmem =>
    have hne : ∀ a ∈ sorted.erase defaultMode, a ≠ defaultMode := fun a ha =>
      (hnodup.mem_erase_iff.mp ha).1
    refine List.pairwise_cons.mpr ⟨fun a ha => ⟨hne a ha, .inl rfl⟩, ?_⟩
    exact (hlt.sublist List.erase_sublist).imp_of_mem fun _ hb hab => ⟨hne _ hb, .inr hab⟩
  next hmem =>
    refine hlt.imp_of_mem fun _ hb hab => ⟨?_, .inr hab⟩
    rintro rfl
    exact hmem (List.contains_iff_mem.mpr hb)

theorem mem_arranged (h : names.Nodup) : m ∈ arranged names ↔ m ∈ names := by
  have hperm := List.mergeSort_perm names fun a b => a ≤ b
  have hnodup := hperm.nodup_iff.mpr h
  rw [← hperm.mem_iff]
  unfold arranged
  dsimp only
  generalize names.mergeSort (fun a b => a ≤ b) = sorted at hnodup
  split
  next hmem =>
    rw [List.mem_cons, hnodup.mem_erase_iff]
    constructor
    · rintro (rfl | ⟨-, hm⟩)
      · exact List.contains_iff_mem.mp hmem
      · exact hm
    · intro hm
      by_cases hd : m = defaultMode
      · exact .inl hd
      · exact .inr ⟨hd, hm⟩
  next => exact Iff.rfl

/-- Modes are listed in one order only. -/
theorem eq_of_pairwise_precedes (h : names.Pairwise Precedes) (h' : ms.Pairwise Precedes)
    (hmem : ∀ m, m ∈ names ↔ m ∈ ms) : names = ms := by
  have hperm : names.Perm ms :=
    (List.perm_ext_iff_of_nodup (h.imp Precedes.ne) (h'.imp Precedes.ne)).mpr hmem
  exact hperm.eq_of_pairwise (fun _ _ _ _ => Precedes.asymm) h h'

/-! ## Listings -/

namespace Reel

/-- The lines for the diagnostics of some modes. -/
def listing (reel : Reel Binary64 Notice) (ms : List String) : List String :=
  ms.flatMap fun m => (reel.frames m).zipIdx.flatMap fun (f, i) =>
    f.errors.map fun n => s!"{m}[{i}] {n.message}"

/-- The modes with frames, as they stand in a reel. -/
def named {ε : Type} (reel : Reel Binary64 ε) : List String :=
  (reel.filter fun p => !p.2.isEmpty).map Prod.fst

theorem orderedModes_eq {ε : Type} (reel : Reel Binary64 ε) :
    reel.orderedModes = if reel.named = [] then [defaultMode] else arranged reel.named := by
  have hempty : (reel.named.mergeSort fun a b => a ≤ b).isEmpty = true ↔ reel.named = [] := by
    rw [List.isEmpty_iff, ← List.length_eq_zero_iff, List.length_mergeSort,
      List.length_eq_zero_iff]
  by_cases h : reel.named = []
  · rw [if_pos h]
    exact if_pos (hempty.mpr h)
  · rw [if_neg h]
    exact if_neg (mt hempty.mp h)

theorem frames_inWords (reel : Reel Binary64 Notice) (m : String) :
    reel.inWords.frames m = (reel.frames m).map Frame.inWords := by
  unfold frames inWords
  rw [lookup_map reel (fun _ frames => frames.map Frame.inWords)]
  cases reel.lookup m <;> rfl

theorem orderedModes_inWords (reel : Reel Binary64 Notice) :
    reel.inWords.orderedModes = reel.orderedModes := by
  have hnamed : reel.inWords.named = reel.named := by
    unfold named inWords
    rw [List.filter_map, List.map_map]
    simp [Function.comp_def]
  rw [orderedModes_eq, orderedModes_eq, hnamed]

theorem errorLines_inWords (reel : Reel Binary64 Notice) :
    CommandLine.errorLines reel.inWords = reel.listing reel.orderedModes := by
  unfold CommandLine.errorLines listing
  rw [orderedModes_inWords]
  refine List.flatMap_congr fun m _ => ?_
  rw [frames_inWords, List.zipIdx_map, List.flatMap_map]
  refine List.flatMap_congr fun p _ => ?_
  exact List.map_map

theorem mem_listing {l : String} : l ∈ reel.listing ms ↔
    ∃ m ∈ ms, ∃ (i : Nat) (f : Frame Binary64 Notice), (reel.frames m)[i]? = some f ∧
      ∃ n ∈ f.errors, l = s!"{m}[{i}] {n.message}" := by
  simp only [listing, List.mem_flatMap, List.mem_map, Prod.exists, List.mk_mem_zipIdx_iff_getElem?]
  constructor
  · rintro ⟨m, hm, f, i, hf, n, hn, rfl⟩
    exact ⟨m, hm, i, f, hf, n, hn, rfl⟩
  · rintro ⟨m, hm, i, f, hf, n, hn, rfl⟩
    exact ⟨m, hm, f, i, hf, n, hn, rfl⟩

/-- A listing of all modes with frames is empty only if no frame has a diagnostic. -/
theorem listing_eq_nil_iff (h : ∀ m, reel.frames m ≠ [] → m ∈ ms) :
    reel.listing ms = [] ↔ ∀ m, ∀ f ∈ reel.frames m, f.errors = [] := by
  rw [List.eq_nil_iff_forall_not_mem]
  constructor
  · intro hnone m f hf
    obtain ⟨i, hi⟩ := List.mem_iff_getElem?.mp hf
    refine List.eq_nil_iff_forall_not_mem.mpr fun n hn => ?_
    exact hnone _ (mem_listing.mpr ⟨m, h m (List.ne_nil_of_mem hf), i, f, hi, n, hn, rfl⟩)
  · intro hnone l hl
    obtain ⟨m, -, i, f, hf, n, hn, -⟩ := mem_listing.mp hl
    rw [hnone m f (List.mem_of_getElem? hf)] at hn
    cases hn

/-- Modes without frames add nothing to a listing. -/
theorem listing_filter (reel : Reel Binary64 Notice) (ms : List String) :
    reel.listing (ms.filter fun m => !(reel.frames m).isEmpty) = reel.listing ms := by
  induction ms with
  | nil => rfl
  | cons m ms ih =>
    cases hm : reel.frames m with
    | nil =>
      rw [List.filter_cons_of_neg (by simp [hm]), ih]
      simp [listing, hm]
    | cons f fs =>
      unfold listing at ih ⊢
      rw [List.filter_cons_of_pos (by simp [hm]), List.flatMap_cons, List.flatMap_cons, ih]

/-- Two listings in order are one if both have all modes with frames. -/
theorem listing_eq (h : names.Pairwise Precedes) (h' : ms.Pairwise Precedes)
    (hnames : ∀ m, reel.frames m ≠ [] → m ∈ names) (hms : ∀ m, reel.frames m ≠ [] → m ∈ ms) :
    reel.listing names = reel.listing ms := by
  -- Without the modes that add no line both are in order and have the same members.
  rw [← listing_filter reel names, ← listing_filter reel ms]
  refine congrArg reel.listing (eq_of_pairwise_precedes (h.filter _) (h'.filter _) fun m => ?_)
  simp only [List.mem_filter, Bool.not_eq_true', List.isEmpty_eq_false_iff]
  constructor
  · rintro ⟨-, hm⟩
    exact ⟨hms m hm, hm⟩
  · rintro ⟨-, hm⟩
    exact ⟨hnames m hm, hm⟩

theorem nodup_named (h : (reel.map Prod.fst).Nodup) : reel.named.Nodup :=
  h.sublist (List.filter_sublist.map Prod.fst)

theorem pairwise_orderedModes (h : (reel.map Prod.fst).Nodup) :
    reel.orderedModes.Pairwise Precedes := by
  rw [orderedModes_eq]
  split
  · exact List.pairwise_singleton _ _
  · exact pairwise_arranged (nodup_named h)

theorem mem_orderedModes (hnodup : (reel.map Prod.fst).Nodup) (h : reel.frames m ≠ []) :
    m ∈ reel.orderedModes := by
  have hmem : m ∈ reel.named :=
    List.mem_map.mpr ⟨_, List.mem_filter.mpr ⟨mem_of_frames h, by simpa using h⟩, rfl⟩
  rw [orderedModes_eq, if_neg (List.ne_nil_of_mem hmem)]
  exact (mem_arranged (nodup_named hnodup)).mpr hmem

/-- The listing that is printed is that of all modes in order. -/
theorem listing_orderedModes (h : (reel.map Prod.fst).Nodup) :
    reel.listing reel.orderedModes = reel.listing (arranged (reel.map Prod.fst)) :=
  listing_eq (pairwise_orderedModes h) (pairwise_arranged h) (fun _ => mem_orderedModes h)
    fun _ hm => (mem_arranged h).mpr (List.mem_map.mpr ⟨_, mem_of_frames hm, rfl⟩)

end Reel

/-! ## Clashes -/

/-- Whether some commands of one frame clash: they are grids and planes at once, or rectangles of
those that are kept overlap. -/
def Clash (cfg : Config Binary64) (cs : List (Command Binary64)) : Prop :=
  Mixed cs ∨ ∃ q ∈ pairs (placements (resolveExclusivity cs).1 cfg),
    q.1.rect.overlaps q.2.rect = true

theorem overlapNotices_eq_nil_iff : overlapNotices cs cfg = [] ↔
    ∀ q ∈ pairs (placements cs cfg), q.1.rect.overlaps q.2.rect = false := by
  unfold overlapNotices
  rw [List.filterMap_eq_nil_iff]
  refine forall₂_congr fun q _ => ?_
  cases h : q.1.rect.overlaps q.2.rect <;> simp [h]

/-- Nothing is said of a frame as a whole exactly when its commands do not clash. -/
theorem commitNotices_eq_nil_iff : commitNotices cfg cs = [] ↔ ¬ Clash cfg cs := by
  have hconflict : (resolveExclusivity cs).2.toList = [] ↔ ¬ Mixed cs := by
    by_cases h : Mixed cs
    · obtain ⟨kept, -, hcs⟩ := resolveExclusivity_eq_of_mixed h
      simp [h, hcs]
    · simp [h, resolveExclusivity_of_not_mixed h]
  rw [commitNotices, List.append_eq_nil_iff, hconflict, overlapNotices_eq_nil_iff, Clash, not_or]
  simp

end Flipbook

namespace Flipbook.Script

open CommandLine Text

variable {cfg : Config Binary64} {text source m : String} {p : Report} {st : Statement}

theorem nodup_modes (cfg : Config Binary64) (text : String) :
    ((parse cfg text).map Prod.fst).Nodup := by
  rw [modes_parse]
  exact nodup_eraseDups _

/-- Every line of a listing is one line. -/
theorem oneLine_of_mem_listing {l : String} {ms : List String}
    (h : l ∈ (parse cfg text).listing ms) : OneLine l := by
  obtain ⟨m, -, i, f, hf, n, hn, rfl⟩ := Reel.mem_listing.mp h
  have hmem := List.mem_of_getElem? hf
  have hmode : OneLine m := (formed_of_mem_parse hmem).1.2.2
  have hmessage := oneLine_of_mem_parse hmem hn
  simp only [toString_text, oneLine_append, oneLine_natural, hmode, hmessage, and_true]
  exact ⟨⟨trivial, oneLine_ofList (by decide)⟩, oneLine_ofList (by decide)⟩

/-- Every report of a statement is among the diagnostics of a frame of its mode. -/
theorem exists_frame_of_report (hst : st ∈ statements cfg.maxGridCells text)
    (hp : p ∈ st.outcome.reports) :
    ∃ f ∈ (parse cfg text).frames st.routed.mode, .report p ∈ f.errors := by
  have hof : st ∈ statementsOf cfg.maxGridCells text st.routed.mode :=
    List.mem_filter.mpr ⟨hst, by simp⟩
  rw [← flatten_passages (statementsOf cfg.maxGridCells text st.routed.mode),
    List.mem_append] at hof
  rw [frames_eq]
  rcases hof with hgroup | hrest
  · obtain ⟨g, hg, hmem⟩ := List.mem_flatten.mp hgroup
    refine ⟨_, List.mem_map.mpr ⟨g, hg, rfl⟩, ?_⟩
    rw [errors_passageFrame]
    have hreported : p ∈ reported g := List.mem_flatMap.mpr ⟨st, hmem, hp⟩
    exact List.mem_append_left _ (List.mem_map.mpr ⟨p, hreported, rfl⟩)
  · have hnothing := comeToNothing_iff.mp
      (passages_rest (statementsOf cfg.maxGridCells text st.routed.mode))
    rw [List.flatMap_eq_nil_iff.mp hnothing.2 st hrest] at hp
    cases hp

theorem errors_passageFrame_eq_nil_iff (cfg : Config Binary64) (g : List Statement) :
    (passageFrame cfg g).errors = [] ↔ reported g = [] ∧ ¬ Clash cfg (drawn g) := by
  rw [errors_passageFrame, List.append_eq_nil_iff, List.map_eq_nil_iff, commitNotices_eq_nil_iff]

/-- The frames of a script hold no diagnostic exactly when none of its lines was reported and no
commands of a frame clash. -/
theorem errors_eq_nil_iff (cfg : Config Binary64) (text : String) :
    (∀ m, ∀ f ∈ (parse cfg text).frames m, f.errors = []) ↔
      (∀ st ∈ statements cfg.maxGridCells text, st.outcome.reports = []) ∧
      ∀ m, ∀ g ∈ (passages (statementsOf cfg.maxGridCells text m)).groups,
        ¬ Clash cfg (drawn g) := by
  constructor
  · intro hnone
    refine ⟨fun st hst => List.eq_nil_iff_forall_not_mem.mpr fun p hp => ?_, fun m g hg => ?_⟩
    · obtain ⟨f, hf, hmem⟩ := exists_frame_of_report hst hp
      rw [hnone _ f hf] at hmem
      cases hmem
    · have hframe : passageFrame cfg g ∈ (parse cfg text).frames m := by
        rw [frames_eq]
        exact List.mem_map.mpr ⟨g, hg, rfl⟩
      exact ((errors_passageFrame_eq_nil_iff cfg g).mp (hnone m _ hframe)).2
  · rintro ⟨hreports, hclash⟩ m f hf
    rw [frames_eq] at hf
    obtain ⟨g, hg, rfl⟩ := List.mem_map.mp hf
    refine (errors_passageFrame_eq_nil_iff cfg g).mpr ⟨?_, hclash m g hg⟩
    refine List.flatMap_eq_nil_iff.mpr fun st hst => hreports st ?_
    exact List.mem_of_mem_filter (mem_of_mem_groups hg hst)

/-! ## The command line -/

theorem unlines_eq_empty_iff {ls : List String} : unlines ls = "" ↔ ls = [] := by
  rw [← String.toList_eq_nil_iff, toList_unlines]
  cases ls <;> simp

/-- The flag for diagnostics before a source. -/
theorem parseArgs_errors (h : readWord source = .positional source) :
    parseArgs ["--errors", source] = .run ⟨source, .errors⟩ := by
  have hflag : readWord "--errors" = .flag .errors := by decide +kernel
  have hwords : readWords ["--errors", source] = [.flag .errors, .positional source] := by
    rw [readWords, hflag]
    dsimp only
    rw [readWords, h]
    rfl
  have hclear : [Word.flag .errors, .positional source].contains .ambiguous = false := by simp
  rw [parseArgs, hwords, hclear]
  rfl

/-- All diagnostics are printed, whatever the script. With the flag for them the command line
succeeds; its output, cut at the line feeds, is one line for each diagnostic of each frame of each
mode, the default mode first and the others in code point order, and an empty rest. In particular
every report on a line of the script is printed for its mode, and nothing is printed exactly when no
line was reported and no commands of a frame clash. -/
theorem errors_listed (settings : Settings Binary64) (text : String)
    (hsource : readWord source = .positional source) :
    ∃ request ms, parseArgs ["--errors", source] = .run request ∧ request.source = source ∧
      let cfg := Config.ofSettings settings
      let output := run request.view settings (.ok text)
      let listed := (parse cfg text).listing ms
      (∀ m, m ∈ ms ↔ m ∈ (parse cfg text).map Prod.fst) ∧ ms.Pairwise Precedes ∧
      output.status = 0 ∧ output.err = "" ∧ splitAt '\n' output.out = listed ++ [""] ∧
      (∀ st ∈ statements cfg.maxGridCells text, ∀ p ∈ st.outcome.reports,
        ∃ i : Nat, s!"{st.routed.mode}[{i}] {(Notice.report p).message}" ∈ listed) ∧
      (output.out = "" ↔ (∀ st ∈ statements cfg.maxGridCells text, st.outcome.reports = []) ∧
        ∀ m, ∀ g ∈ (passages (statementsOf cfg.maxGridCells text m)).groups,
          ¬ Clash cfg (drawn g)) := by
  have hnodup := nodup_modes (Config.ofSettings settings) text
  refine ⟨⟨source, .errors⟩, arranged ((parse (.ofSettings settings) text).map Prod.fst),
    parseArgs_errors hsource, rfl, ?_⟩
  intro cfg output listed
  have hout : output.out = unlines listed := by
    have hlines := Reel.errorLines_inWords (parse cfg text)
    rw [Reel.listing_orderedModes hnodup] at hlines
    exact congrArg unlines hlines
  have hall (m : String) (hm : (parse cfg text).frames m ≠ []) :
      m ∈ arranged ((parse cfg text).map Prod.fst) :=
    (mem_arranged hnodup).mpr (List.mem_map.mpr ⟨_, Reel.mem_of_frames hm, rfl⟩)
  refine ⟨fun m => mem_arranged hnodup, pairwise_arranged hnodup, rfl, rfl, ?_, ?_, ?_⟩
  · rw [hout]
    exact splitAt_unlines fun l hl => oneLine_of_mem_listing hl
  · intro st hst p hp
    obtain ⟨f, hf, hmem⟩ := exists_frame_of_report hst hp
    obtain ⟨i, hi⟩ := List.mem_iff_getElem?.mp hf
    exact ⟨i, Reel.mem_listing.mpr
      ⟨_, hall _ (List.ne_nil_of_mem hf), i, f, hi, _, hmem, rfl⟩⟩
  · rw [hout, unlines_eq_empty_iff, Reel.listing_eq_nil_iff hall, errors_eq_nil_iff]

/-- A mode with a report but no command, two grids on one place, and a report after a commit. -/
def faultyText : String :=
  "$v(b) ZOOM\n$v GRID 1 1 a b c\n$v GRID 1 1 a b c\n$v COMMIT\n$v LOOK"

theorem errors_listed_faulty :
    readWord "-" = .positional "-" ∧ ∃ request, parseArgs ["--errors", "-"] = .run request ∧
      (run request.view {} (.ok faultyText)).status = 0 ∧
      splitAt '\n' (run request.view {} (.ok faultyText)).out =
        ["default[0] Overlap between GRID #1 at (0, 0, 800, 800) and GRID #2 at (0, 0, 800, 800)",
          "default[1] Line 5: Unknown command 'LOOK'", "b[0] Line 1: Unknown command 'ZOOM'",
          ""] := by
  have hsource : readWord "-" = .positional "-" := by decide +kernel
  have hmodes : (parse (.ofSettings {}) faultyText).map Prod.fst = ["default", "b"] := by
    decide +kernel
  obtain ⟨request, ms, hargs, -, hmem, horder, hstatus, -, hout, -, -⟩ :=
    errors_listed {} faultyText hsource
  rw [hmodes] at hmem
  have hms : ms = ["default", "b"] :=
    eq_of_pairwise_precedes horder (by simp [Precedes, defaultMode]) hmem
  rw [hms] at hout
  exact ⟨hsource, request, hargs, hstatus, hout.trans (by decide +kernel)⟩

end Flipbook.Script
