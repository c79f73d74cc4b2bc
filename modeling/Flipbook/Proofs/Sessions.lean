import Mathlib
import Flipbook.Proofs.Lists
import Flipbook.Script.Statement

/-!
Sessions as maps from modes to tracks. A statement changes the track of its own mode and no other,
and a mode that appears for the first time comes last.
-/
namespace Flipbook

theorem Reel.mem_of_frames {α ε : Type} {reel : Reel α ε} {m : String}
    (h : reel.frames m ≠ []) : (m, reel.frames m) ∈ reel := by
  unfold frames at h ⊢
  cases hlookup : reel.lookup m with
  | none => simp [hlookup] at h
  | some frames =>
    obtain ⟨pre, post, heq, -⟩ := List.lookup_eq_some_iff.mp hlookup
    rw [heq]
    simp

theorem Reel.frames_of_mem {α ε : Type} {reel : Reel α ε} (hnodup : (reel.map Prod.fst).Nodup)
    {p : String × List (Frame α ε)} (hp : p ∈ reel) : reel.frames p.1 = p.2 := by
  obtain ⟨pre, post, rfl⟩ := List.append_of_mem hp
  have hpre : ∀ q ∈ pre, p.1 ≠ q.1 := by
    intro q hq heq
    rw [List.map_append, List.map_cons, List.nodup_append] at hnodup
    exact hnodup.2.2 q.1 (List.mem_map_of_mem hq) p.1 List.mem_cons_self heq.symm
  have hlookup : (pre ++ p :: post).lookup p.1 = some p.2 :=
    List.lookup_eq_some_iff.mpr ⟨pre, post, rfl, fun q hq => bne_iff_ne.mpr (hpre q hq)⟩
  rw [frames, hlookup, Option.getD_some]

end Flipbook

namespace Flipbook.Script

variable {cfg : Config Binary64} {s : Session} {t : Track} {m n : String} {f : Track → Track}
  {st : Statement} {sts : List Statement}

namespace Session

/-- The modes that appeared, in order. -/
def modes (s : Session) : List String := s.tracks.map Prod.fst

theorem isSome_lookup_iff (s : Session) (m : String) :
    (s.tracks.lookup m).isSome = true ↔ m ∈ s.modes := by
  rw [List.lookup_isSome_iff, modes, List.mem_map]
  constructor
  · rintro ⟨p, hp, hm⟩
    exact ⟨p, hp, (beq_iff_eq.mp hm).symm⟩
  · rintro ⟨p, hp, rfl⟩
    exact ⟨p, hp, beq_self_eq_true _⟩

theorem track_of_not_mem (h : m ∉ s.modes) : s.track m = {} := by
  have hnone : s.tracks.lookup m = none := by
    rw [← Option.not_isSome_iff_eq_none, isSome_lookup_iff]
    exact h
  rw [track, hnone]
  rfl

theorem track_empty (m : String) : ({} : Session).track m = {} := by
  by_cases h : m = defaultMode
  · subst h
    rfl
  · exact track_of_not_mem (by simpa [modes] using h)

/-- Some modes with one that comes last unless it is among them. -/
def addMode (ms : List String) (m : String) : List String := if m ∈ ms then ms else ms ++ [m]

theorem mem_addMode {ms : List String} : n ∈ addMode ms m ↔ n ∈ ms ∨ n = m := by
  unfold addMode
  split
  next h =>
    constructor
    · exact .inl
    · rintro (hn | rfl)
      · exact hn
      · exact h
  next => simp

/-- Modes that are added follow those already there, each at its first appearance. -/
theorem foldl_addMode (ms new : List String) :
    new.foldl addMode ms = ms ++ (new.removeAll ms).eraseDups := by
  induction new generalizing ms with
  | nil => simp
  | cons m new ih =>
    rw [List.foldl_cons, ih, addMode]
    by_cases h : m ∈ ms
    · have hcons : (m :: new).removeAll ms = new.removeAll ms := by simp [List.removeAll, h]
      rw [if_pos h, hcons]
    · have hcons : ((m :: new).removeAll ms).eraseDups =
          m :: (new.removeAll (ms ++ [m])).eraseDups := by
        simp [List.removeAll, h, List.eraseDups_cons, List.filter_filter, Bool.and_comm,
          beq_eq_decide]
      rw [if_neg h, hcons, List.append_assoc, List.singleton_append]

theorem modes_update (s : Session) (m : String) (f : Track → Track) :
    (s.update m f).modes = addMode s.modes m := by
  unfold update addMode
  by_cases h : m ∈ s.modes
  · rw [if_pos ((isSome_lookup_iff s m).mpr h), if_pos h]
    simp [modes]
  · rw [if_neg (mt (isSome_lookup_iff s m).mp h), if_neg h]
    simp [modes]

/-- A change of one track leaves the others as they are. -/
theorem track_update (s : Session) (m : String) (f : Track → Track) (n : String) :
    (s.update m f).track n = if n = m then f (s.track m) else s.track n := by
  unfold update
  by_cases h : m ∈ s.modes
  · rw [if_pos ((isSome_lookup_iff s m).mpr h)]
    have hmap := lookup_map s.tracks (fun k t => if k = m then f t else t) n
    simp only [track]
    rw [hmap]
    by_cases hn : n = m
    · subst hn
      obtain ⟨t, ht⟩ := Option.isSome_iff_exists.mp ((isSome_lookup_iff s n).mpr h)
      simp [ht]
    · simp [hn]
  · rw [if_neg (mt (isSome_lookup_iff s m).mp h), track_of_not_mem h]
    simp only [track, List.lookup_append]
    by_cases hn : n = m
    · subst hn
      have hnone : s.tracks.lookup n = none := by
        rw [← Option.not_isSome_iff_eq_none, isSome_lookup_iff]
        exact h
      simp [hnone]
    · simp [hn, List.lookup_cons, beq_false_of_ne hn]

/-- What changes only the track of a mode that has not appeared changes nothing. -/
theorem map_of_not_mem (h : m ∉ s.modes) {g : String × Track → String × Track}
    (hg : ∀ p, p.1 ≠ m → g p = p) : s.tracks.map g = s.tracks := by
  refine (List.map_congr_left fun p hp => ?_).trans (List.map_id s.tracks)
  exact hg p fun heq => h (heq ▸ List.mem_map_of_mem hp)

/-- Two changes of one track are one. -/
theorem update_update (s : Session) (m : String) (f g : Track → Track) :
    (s.update m f).update m g = s.update m fun t => g (f t) := by
  have hmem : ((s.update m f).tracks.lookup m).isSome = true := by
    rw [isSome_lookup_iff, modes_update, mem_addMode]
    exact .inr rfl
  refine (if_pos hmem).trans ?_
  unfold update
  by_cases h : m ∈ s.modes
  · rw [if_pos ((isSome_lookup_iff s m).mpr h), if_pos ((isSome_lookup_iff s m).mpr h),
      List.map_map]
    congr 1
    refine List.map_congr_left fun p _ => ?_
    by_cases hp : p.1 = m <;> simp [hp]
  · rw [if_neg (mt (isSome_lookup_iff s m).mp h), if_neg (mt (isSome_lookup_iff s m).mp h),
      List.map_append, map_of_not_mem h fun p hp => by simp [hp]]
    simp

theorem modes_apply (cfg : Config Binary64) (s : Session) (st : Statement) :
    (s.apply cfg st).modes = addMode s.modes st.routed.mode := modes_update s _ _

theorem modes_applyAll (cfg : Config Binary64) (s : Session) (sts : List Statement) :
    (s.applyAll cfg sts).modes = (sts.map (·.routed.mode)).foldl addMode s.modes := by
  induction sts generalizing s with
  | nil => rfl
  | cons st sts ih =>
    have hstep : s.applyAll cfg (st :: sts) = (s.apply cfg st).applyAll cfg sts := rfl
    rw [hstep, ih, modes_apply, List.map_cons, List.foldl_cons]

theorem modes_close (cfg : Config Binary64) (s : Session) : (s.close cfg).modes = s.modes := by
  simp [modes, close]

theorem track_close (cfg : Config Binary64) (s : Session) (m : String) :
    (s.close cfg).track m = ((s.track m).commit cfg true).2 := by
  have hmap := lookup_map s.tracks (fun _ t => (t.commit cfg true).2) m
  simp only [track, close]
  rw [hmap]
  cases s.tracks.lookup m with
  | none => rfl
  | some t => rfl

theorem frames_reel (s : Session) (m : String) :
    s.reel.frames m = (s.track m).frames.toList := by
  have hmap := lookup_map s.tracks (fun _ t => t.frames.toList) m
  simp only [Reel.frames, reel, track]
  rw [hmap]
  cases s.tracks.lookup m with
  | none => rfl
  | some t => rfl

end Session

/-- The default mode with modes that are added to it. -/
theorem foldl_addMode_default (new : List String) :
    new.foldl Session.addMode [defaultMode] = (defaultMode :: new).eraseDups := by
  have hfilter : new.removeAll [defaultMode] = new.filter fun m => !m == defaultMode := by
    refine List.filter_congr fun m _ => ?_
    simp [beq_eq_decide]
  rw [Session.foldl_addMode, List.eraseDups_cons, hfilter, List.singleton_append]

theorem map_fst_parse (cfg : Config Binary64) (text : String) :
    (parse cfg text).map Prod.fst =
      (Session.applyAll cfg {} (statements cfg.maxGridCells text)).modes := by
  have hreel (s : Session) : s.reel.map Prod.fst = s.modes := by
    simp [Session.reel, Session.modes]
  rw [parse, hreel, Session.modes_close]

/-- The modes of a script that was read: the default mode, then the others in order. -/
theorem modes_parse (cfg : Config Binary64) (text : String) :
    (parse cfg text).map Prod.fst =
      (defaultMode :: (statements cfg.maxGridCells text).map (·.routed.mode)).eraseDups := by
  have hempty : ({} : Session).modes = [defaultMode] := rfl
  rw [map_fst_parse, Session.modes_applyAll, hempty, foldl_addMode_default]

theorem frames_parse (cfg : Config Binary64) (text m : String) :
    (parse cfg text).frames m =
      (((Session.applyAll cfg {} (statements cfg.maxGridCells text)).track m).commit cfg
        true).2.frames.toList := by
  rw [parse, Session.frames_reel, Session.track_close]

end Flipbook.Script
