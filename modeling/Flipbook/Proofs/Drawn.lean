import Mathlib
import Flipbook.Proofs.Exclusivity
import Flipbook.Proofs.OneLine
import Flipbook.Proofs.Readings
import Flipbook.Proofs.Sessions

/-!
What a script yields. Every command that is drawn is well formed, and no frame holds both a grid and
a plane.
-/
namespace Flipbook.Script

open Text

variable {β κ : Type} {cfg : Config Binary64} {maxCells number line : Int} {text key s m : String}
  {params rest ls : List String} {bounds : Option (Rect Binary64)} {call : Call}
  {c : Command Binary64} {t : Track} {st : Statement} {r : Routed} {f : Frame Binary64 Notice}
  {P : Command Binary64 → Prop}

/-! ## Headers -/

theorem boundsFormed_of_readBounds? {r : Rect Binary64} (h : readBounds? s = some r) :
    BoundsFormed (some r) := by
  unfold readBounds? at h
  split at h
  next left top right bottom hsides =>
    obtain rfl := Option.some.inj h
    have hread {x : Binary64} (hx : some x ∈
        (splitAt ',' s).map fun side => Numeral.readFinite? (trim side)) : x.isFinite = true := by
      obtain ⟨side, -, hside⟩ := List.mem_map.mp hx
      exact Numeral.isFinite_of_readFinite? hside
    intro r hr x hx
    obtain rfl := Option.some.inj hr
    refine hread ?_
    rw [hsides]
    simpa [Rect.sides] using hx
  next => cases h

/-- The bounds of a header are finite, and its parameters are words. -/
theorem splitHeader_bounds (h : splitHeader text key = .ok (bounds, params)) :
    BoundsFormed bounds ∧ ∀ s ∈ params, IsToken s := by
  unfold splitHeader at h
  split at h
  next cs =>
    dsimp only at h
    split at h
    · cases h
    · split at h
      next r hr =>
        cases h
        exact ⟨boundsFormed_of_readBounds? hr, fun s hs => (isToken_of_mem_words hs).1⟩
      next => cases h
  next =>
    cases h
    exact ⟨by simp [BoundsFormed], fun s hs => (isToken_of_mem_words hs).1⟩

theorem sizeFormed_of_readPositive? {x : Binary64} (h : readPositive? s = some x) :
    SizeFormed x := by
  obtain ⟨hread, hpos⟩ := Option.filter_eq_some_iff.mp h
  exact ⟨Numeral.isFinite_of_readFinite? hread, by simpa using hpos⟩

theorem planeFormed_header {h : PlaneHeader} (hread : readPlaneHeader text = .ok h) :
    PlaneFormed h.blank := by
  unfold readPlaneHeader at hread
  cases hsplit : splitHeader text Kind.plane.keyword with
  | error fault => simp [hsplit, bind, Except.bind] at hread
  | ok parts =>
    obtain ⟨bounds, params⟩ := parts
    simp only [hsplit, bind, Except.bind] at hread
    split at hread
    next height width =>
      split at hread
      next a b ha hb =>
        cases hread
        exact ⟨sizeFormed_of_readPositive? ha, sizeFormed_of_readPositive? hb,
          (splitHeader_bounds hsplit).1, by simp [PlaneHeader.blank], by simp [PlaneHeader.blank],
          by simp [PlaneHeader.blank]⟩
      next => cases hread
    next => cases hread

theorem wallsFormed_all (count width : Nat) :
    WallsFormed count width (List.replicate count (allWalls width)) := by
  have hmark : ∀ c ∈ (allWalls width).toList, c = wallMark := by
    intro c hc
    rw [allWalls, String.toList_ofList] at hc
    exact List.eq_of_mem_replicate hc
  refine ⟨List.length_replicate, fun s hs => ?_, fun s hs c hc => ?_, fun s hs hn => ?_⟩
  all_goals obtain rfl := List.eq_of_mem_replicate hs
  · simp [allWalls]
  · rw [hmark c (List.mem_of_head? hc)]
    rfl
  · exact absurd (hmark _ hn) (by decide)

/-- The grid of a sound header is well formed before its first block. -/
theorem gridFormed_blank (h : GridHeader) (hheight : 0 < h.height) (hwidth : 0 < h.width)
    (hrows : IsCount h.height) (hcolumns : IsCount h.width)
    (hcells : (h.height : Int) * h.width ≤ maxCells)
    (hcolors : ∀ s ∈ [h.borderColor, h.textColor, h.defaultColor], IsToken s)
    (hbounds : BoundsFormed h.bounds) : GridFormed maxCells h.blank := by
  have hreplicate {n : Nat} {a : String} {P : String → Prop} (ha : P a) :
      ∀ row ∈ List.replicate n (List.replicate h.width a), ∀ s ∈ row, P s := by
    intro row hrow s hs
    obtain rfl := List.eq_of_mem_replicate hrow
    obtain rfl := List.eq_of_mem_replicate hs
    exact ha
  exact {
    height_pos := Int.natCast_pos.mpr hheight
    width_pos := Int.natCast_pos.mpr hwidth
    height_isCount := hrows
    width_isCount := hcolumns
    cells_le := hcells
    borderColor := hcolors _ (by simp [GridHeader.blank])
    textColor := hcolors _ (by simp [GridHeader.blank])
    defaultColor := hcolors _ (by simp [GridHeader.blank])
    bounds := hbounds
    colors := tableFormed_replicate h.height h.width _
    isToken := hreplicate (hcolors _ (by simp))
    texts := tableFormed_replicate h.height h.width _
    line := hreplicate (by simp)
    polylines := by simp [GridHeader.blank]
    wallVertical := wallsFormed_all h.height (h.width + 1)
    wallHorizontal := wallsFormed_all (h.height + 1) h.width }

theorem gridFormed_header {h : GridHeader} (hread : readGridHeader maxCells text = .ok h) :
    GridFormed maxCells h.blank := by
  unfold readGridHeader at hread
  cases hsplit : splitHeader text Kind.grid.keyword with
  | error fault => simp [hsplit, bind, Except.bind] at hread
  | ok parts =>
    obtain ⟨bounds, params⟩ := parts
    simp only [hsplit, bind, Except.bind] at hread
    split at hread
    next height width borderColor textColor defaultColor =>
      split at hread
      next a b ha hb =>
        split at hread
        · cases hread
        next hsign =>
          split at hread
          · cases hread
          next hcells =>
            cases hread
            obtain ⟨hbounds, htokens⟩ := splitHeader_bounds hsplit
            simp only [Bool.or_eq_true, decide_eq_true_eq, not_or, not_le] at hsign
            have hheight : (a.toNat : Int) = a := Int.toNat_of_nonneg hsign.1.le
            have hwidth : (b.toNat : Int) = b := Int.toNat_of_nonneg hsign.2.le
            exact gridFormed_blank ⟨a.toNat, b.toNat, borderColor, textColor, defaultColor, bounds⟩
              (by dsimp only; omega) (by dsimp only; omega) (isCount_of_readInt? ha)
              (isCount_of_readInt? hb) (by rw [hheight, hwidth]; exact not_lt.mp hcells)
              (fun s hs => htokens s (List.mem_cons_of_mem _ (List.mem_cons_of_mem _ hs))) hbounds
      next => cases hread
    next => cases hread

/-! ## Commands -/

/-- What holds before the first row and is kept by every row holds in the end. -/
theorem replay_keeps {row : β → κ → Nat → String → Int → β × List Report} {P : β → Prop} {x : β}
    {evs : List (BlockEvent κ)}
    (hrow : ∀ y key i text line, .row key i text line ∈ evs → P y → P (row y key i text line).1)
    (hx : P x) : P (replay row x evs).1 := by
  induction evs generalizing x with
  | nil => exact hx
  | cons e evs ih =>
    have hlater := fun y key i text line he =>
      hrow y key i text line (List.mem_cons_of_mem e he)
    cases e with
    | row key i text line =>
      rw [replay_row]
      exact ih hlater (hrow x key i text line List.mem_cons_self hx)
    | problem p =>
      rw [replay_problem]
      exact ih hlater hx

/-- The rows that a reader yields are plain lines among those that it was given. -/
theorem row_of_run {specs : List (BlockSpec κ)} (hp : BlockReader.PlainNames specs) {key : κ}
    {i : Nat} {n : Int} (h : .row key i text n ∈
      ({ specs, rest, line } : BlockReader κ).run.events.toList) :
    text ∈ rest ∧ isScript text = false := by
  obtain ⟨ls, evs, hreads⟩ := BlockReader.reads_run (r := { specs, rest, line }) hp
  rw [hreads.events_eq] at h
  have hmem := hreads.rows.subset (BlockReader.mem_rowTexts (by simpa using h))
  have hrest : rest = ls ++ _ := hreads.rest_eq
  exact ⟨hrest ▸ List.mem_append_left _ hmem, hreads.plain text hmem⟩

theorem formed_readPlane (h : (readPlane call rest line).action = .draw c) :
    Formed maxCells c := by
  unfold readPlane at h
  split at h
  next => cases h
  next header hheader =>
    obtain rfl := Action.draw.inj h
    refine replay_keeps (fun p b i text n he hp => ?_) (planeFormed_header hheader)
    exact planeFormed_row (row_of_run plainNames_planeSpecs he).2 hp b

theorem formed_readGrid (hrest : ∀ l ∈ rest, OneLine l)
    (h : (readGrid maxCells call rest line).action = .draw c) : Formed maxCells c := by
  unfold readGrid at h
  split at h
  next => cases h
  next header hheader =>
    obtain rfl := Action.draw.inj h
    refine (replay_keeps
      (P := fun g : Grid Binary64 => g.width = header.width ∧ GridFormed maxCells g)
      (fun g b i text n he hg => ?_) ⟨rfl, gridFormed_header hheader⟩).2
    obtain ⟨hmem, hplain⟩ := row_of_run (plainNames_gridSpecs header) he
    have hrow := gridFormed_row i n hplain (hrest text hmem) hg.2 b
    rw [hg.1, Int.toNat_natCast] at hrow
    exact ⟨(gridKeeps_gridRow header.width g b i text n).width.trans hg.1, hrow⟩

theorem formed_readCanvas (h : (readCanvas call).action = .draw c) : Formed maxCells c := by
  unfold readCanvas at h
  split at h
  next height width =>
    split at h
    next a b ha hb =>
      obtain rfl := Action.draw.inj h
      exact ⟨sizeFormed_of_readPositive? ha, sizeFormed_of_readPositive? hb⟩
    next => cases h
  next => cases h

theorem readPairs_bounds (line n : Int) (k found : Nat) (row : List String)
    (hrow : ∀ s ∈ row, IsToken s) :
    (readPairs line n k found row).1.length ≤ k ∧
      ∀ bar ∈ (readPairs line n k found row).1, IsToken bar.label ∧ bar.value.isFinite = true := by
  induction k generalizing found row with
  | zero => exact ⟨le_refl _, by simp [readPairs]⟩
  | succ k ih =>
    rcases row with _ | ⟨label, _ | ⟨value, more⟩⟩
    · exact ⟨Nat.zero_le _, by simp [readPairs]⟩
    · exact ⟨Nat.zero_le _, by simp [readPairs]⟩
    · obtain ⟨hlength, hbars⟩ := ih (found + 1) more fun s hs => hrow s (by simp [hs])
      unfold readPairs
      dsimp only
      split
      next x hx =>
        refine ⟨Nat.succ_le_succ hlength, fun bar hbar => ?_⟩
        rcases List.mem_cons.mp hbar with rfl | hbar
        · exact ⟨hrow label (by simp), Numeral.isFinite_of_readFinite? hx⟩
        · exact hbars bar hbar
      next => exact ⟨hlength.trans (Nat.le_succ k), hbars⟩

theorem readBars_bounds (text : String) (line : Int) :
    IsCount (readBars text line).1.length ∧
      ∀ bar ∈ (readBars text line).1, IsToken bar.label ∧ bar.value.isFinite = true := by
  have hzero : IsCount 0 := Nat.pow_pos (by decide)
  unfold readBars
  split
  next => exact ⟨hzero, by simp⟩
  next count row hwords =>
    split
    next n hn =>
      obtain ⟨hlength, hbars⟩ := readPairs_bounds line n n.toNat 0 row fun s hs =>
        (isToken_of_mem_words (hwords ▸ List.mem_cons_of_mem count hs)).1
      exact ⟨hlength.trans_lt (isCount_of_readInt? hn), hbars⟩
    next => exact ⟨hzero, by simp⟩

theorem formed_readBarGraph (hparams : ∀ s ∈ call.params, IsToken s)
    (h : (readBarGraph call rest line).action = .draw c) : Formed maxCells c := by
  have hzero : IsCount 0 := Nat.pow_pos (by decide)
  unfold readBarGraph at h
  split at h
  next => cases h
  next header hheader =>
    have hformed {bars : List (Bar Binary64)} (hcount : IsCount bars.length)
        (hbars : ∀ bar ∈ bars, IsToken bar.label ∧ bar.value.isFinite = true) :
        BarGraphFormed ⟨header.fillColor, header.low, header.high, bars⟩ := by
      unfold readBarGraphHeader at hheader
      split at hheader
      next fillColor low high hwords =>
        split at hheader
        next l u hl hu =>
          split at hheader
          · cases hheader
          next horder =>
            cases hheader
            exact ⟨hparams fillColor (by simp [hwords]), Numeral.isFinite_of_readFinite? hl,
              Numeral.isFinite_of_readFinite? hu, horder, hcount, hbars⟩
        next => cases hheader
      next => cases hheader
    dsimp only at h
    split at h
    next =>
      obtain rfl := Action.draw.inj h
      exact hformed hzero (by simp)
    next data _ =>
      obtain rfl := Action.draw.inj h
      exact hformed (readBars_bounds data line).1 (readBars_bounds data line).2

theorem textFormed_textAfter (htext : OneLine text) (key : String) :
    TextFormed (textAfter text key) := by
  unfold textAfter
  dsimp only
  constructor
  · rw [trim, String.toList_ofList, trimBoth_trimBoth]
  · rw [String.toList_ofList]
    exact fun hn => htext (List.mem_of_mem_drop (mem_of_mem_trimBoth hn))

/-- Every command that a script line draws is well formed. -/
theorem formed_perform (htext : OneLine text) (hrest : ∀ l ∈ rest, OneLine l)
    (h : (perform maxCells text number rest line).action = .draw c) : Formed maxCells c := by
  have hperforms := performs_perform maxCells text number rest line
  generalize perform maxCells text number rest line = o at h hperforms
  cases hperforms with
  | blank => cases h
  | unknown => cases h
  | commit => cases h
  | debug =>
    obtain rfl := Action.draw.inj h
    trivial
  | textArea =>
    obtain rfl := Action.draw.inj h
    exact textFormed_textAfter htext _
  | score =>
    obtain rfl := Action.draw.inj h
    exact textFormed_textAfter htext _
  | canvas call hcall => exact formed_readCanvas h
  | barGraph call hcall =>
    obtain ⟨word, hwords, -⟩ := hcall.words_eq
    refine formed_readBarGraph (fun s hs => ?_) h
    exact (isToken_of_mem_words (hwords ▸ List.mem_cons_of_mem word hs)).1
  | grid call hcall => exact formed_readGrid hrest h
  | plane call hcall => exact formed_readPlane h

/-! ## Statements -/

/-- A script line names a mode that can be written, and its command text is one line. -/
theorem route_bounds {l : String} (h : route l = some r) (hl : OneLine l) :
    IsModeName r.mode ∧ OneLine r.remainder := by
  have hchars : ∀ c ∈ trimBoth isBlank l.toList, c ≠ '\n' := by
    rintro c hc rfl
    exact hl (mem_of_mem_trimBoth hc)
  unfold route at h
  generalize trimBoth isBlank l.toList = chars at h hchars
  unfold routeChars at h
  split at h
  next cs =>
    dsimp only at h
    split at h
    · cases h
    next rest hdrop =>
      split at h
      · cases h
      next hne =>
        obtain rfl := Option.some.inj h
        have hsuffix := (List.dropWhile_suffix (l := cs) (· != ')')).subset
        rw [hdrop] at hsuffix
        refine ⟨⟨by simpa using hne, fun hparen => ?_, fun hn => ?_⟩, fun hn => ?_⟩
        · rw [String.toList_ofList] at hparen
          have hkept := List.mem_takeWhile_imp hparen
          simp at hkept
        · rw [String.toList_ofList] at hn
          exact hchars _ (by simp [(List.takeWhile_prefix _).subset hn]) rfl
        · rw [String.toList_ofList] at hn
          have hmem := hsuffix (List.mem_cons_of_mem _ (mem_of_mem_trimBoth hn))
          exact hchars _ (by simp [hmem]) rfl
  next cs _ =>
    obtain rfl := Option.some.inj h
    refine ⟨isModeName_default, fun hn => ?_⟩
    rw [String.toList_ofList] at hn
    exact hchars _ (by simp [mem_of_mem_trimBoth hn]) rfl
  next => cases h

/-- A statement of a mode that can be written, with a well-formed command if it draws one. -/
structure StatementFormed (maxCells : Int) (st : Statement) : Prop where
  mode : IsModeName st.routed.mode
  drawn : ∀ c, st.outcome.action = .draw c → Formed maxCells c

theorem statementFormed_of_mem (maxCells : Int) (line : Nat) (hls : ∀ l ∈ ls, OneLine l) :
    ∀ st ∈ statementsFrom maxCells line ls, StatementFormed maxCells st := by
  fun_induction statementsFrom maxCells line ls with
  | case1 line => simp
  | case2 line source rest h ih => exact ih fun l hl => hls l (List.mem_cons_of_mem _ hl)
  | case3 line source rest s h n ih =>
    obtain ⟨r, hr, rfl⟩ := Option.map_eq_some_iff.mp h
    have hrest : ∀ l ∈ rest, OneLine l := fun l hl => hls l (List.mem_cons_of_mem _ hl)
    obtain ⟨hmode, hremainder⟩ := route_bounds hr (hls source List.mem_cons_self)
    intro st hst
    rcases List.mem_cons.mp hst with rfl | hst
    · exact ⟨hmode, fun c hc => formed_perform hremainder hrest hc⟩
    · exact ih (fun l hl => hrest l (List.mem_of_mem_drop hl)) st hst

/-! ## Sessions -/

/-- A frame of commands with a property, not of grids and planes at once. -/
structure FrameOf (P : Command Binary64 → Prop) (f : Frame Binary64 Notice) : Prop where
  commands : ∀ c ∈ f.commands, P c
  spatial : ¬ Mixed f.commands

structure TrackOf (P : Command Binary64 → Prop) (t : Track) : Prop where
  pending : ∀ c ∈ t.commands.toList, P c
  frames : ∀ f ∈ t.frames.toList, FrameOf P f

theorem trackOf_commit (ht : TrackOf P t) (cfg : Config Binary64) (keep : Bool) :
    TrackOf P (t.commit cfg keep).2 := by
  unfold Track.commit
  split
  · refine ⟨by simp, fun f hf => ?_⟩
    rw [Array.toList_push, List.mem_append, List.mem_singleton] at hf
    rcases hf with hf | rfl
    · exact ht.frames f hf
    · have hkept := resolveExclusivity_sublist t.commands.toList
      exact ⟨fun c hc => ht.pending c (hkept.subset hc), not_mixed_resolveExclusivity _⟩
  · exact ht

theorem trackOf_absorb (ht : TrackOf P t) (cfg : Config Binary64)
    (hst : ∀ c, st.outcome.action = .draw c → P c) :
    TrackOf P ((t.record [st.source]).absorb cfg st.outcome) := by
  have hsame : TrackOf P
      (((t.record [st.source]).record st.outcome.taken).report st.outcome.reports) :=
    ⟨ht.pending, ht.frames⟩
  unfold Track.absorb
  dsimp only
  split
  next c hc =>
    refine ⟨fun d hd => ?_, ht.frames⟩
    have hd' : d ∈ t.commands.toList ∨ d = c := by
      simpa [Track.draw, Track.record, Track.report] using hd
    rcases hd' with hd' | rfl
    · exact ht.pending d hd'
    · exact hst d hc
  next => exact trackOf_commit hsame cfg false
  next => exact hsame

theorem trackOf_applyAll {s : Session} {sts : List Statement} (cfg : Config Binary64)
    (hs : ∀ m, TrackOf P (s.track m))
    (hsts : ∀ st ∈ sts, ∀ c, st.outcome.action = .draw c → P c) (m : String) :
    TrackOf P ((s.applyAll cfg sts).track m) := by
  induction sts generalizing s with
  | nil => exact hs m
  | cons st sts ih =>
    refine ih (fun m => ?_) fun u hu => hsts u (List.mem_cons_of_mem _ hu)
    rw [Session.apply, Session.track_update]
    split
    · exact trackOf_absorb (hs _) cfg (hsts st List.mem_cons_self)
    · exact hs m

/-- What holds of every command that the statements of a script draw holds of the commands of its
frames. -/
theorem frameOf_of_mem_parse (hf : f ∈ (parse cfg text).frames m)
    (h : ∀ st ∈ statements cfg.maxGridCells text, ∀ c, st.outcome.action = .draw c → P c) :
    FrameOf P f := by
  have hempty (n : String) : TrackOf P (({} : Session).track n) := by
    rw [Session.track_empty]
    exact ⟨by simp, by simp⟩
  rw [frames_parse] at hf
  exact (trackOf_commit (trackOf_applyAll cfg hempty h m) cfg true).frames f hf

/-- A mode with a frame is the default mode or that of a statement. -/
theorem mode_of_mem_parse (hf : f ∈ (parse cfg text).frames m) :
    m = defaultMode ∨ ∃ st ∈ statements cfg.maxGridCells text, st.routed.mode = m := by
  have hmem : m ∈ (parse cfg text).map Prod.fst :=
    List.mem_map.mpr ⟨_, Reel.mem_of_frames (List.ne_nil_of_mem hf), rfl⟩
  rw [modes_parse, List.mem_eraseDups, List.mem_cons, List.mem_map] at hmem
  exact hmem

/-- Every frame of a script is of a mode that can be written and holds well-formed commands, not
grids and planes at once. -/
theorem formed_of_mem_parse (hf : f ∈ (parse cfg text).frames m) :
    IsModeName m ∧ FrameOf (Formed cfg.maxGridCells) f := by
  have hsts := statementFormed_of_mem cfg.maxGridCells 1 fun l hl =>
    not_mem_of_mem_lines (s := text) hl
  refine ⟨?_, frameOf_of_mem_parse hf fun st hst => (hsts st hst).drawn⟩
  rcases mode_of_mem_parse hf with rfl | ⟨st, hst, rfl⟩
  · exact isModeName_default
  · exact (hsts st hst).mode

end Flipbook.Script
