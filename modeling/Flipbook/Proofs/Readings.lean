import Mathlib
import Flipbook.Proofs.Effects
import Flipbook.Proofs.Tables

/-!
What reading yields. The numbers that are read are finite, the counts are below the limit on digits,
and every row leaves a well-formed plane or grid well formed.
-/
namespace Flipbook.Numeral

open Text

variable {s : String} {n : Int} {x : Binary64} {c : Char} {d : Nat} {ds : List Nat}

theorem lt_ten_of_digit? (h : digit? c = some d) : d < 10 := by
  obtain ⟨z, hz, rfl⟩ := Option.map_eq_some_iff.mp h
  have hrange := List.find?_some hz
  rw [Bool.and_eq_true, decide_eq_true_eq, decide_eq_true_eq] at hrange
  omega

theorem ofDigits_lt (h : ∀ d ∈ ds, d < 10) : ofDigits ds < 10 ^ ds.length := by
  have hfold (n : Nat) : ds.foldl (fun n d => 10 * n + d) n < (n + 1) * 10 ^ ds.length := by
    induction ds generalizing n with
    | nil => simp
    | cons d ds ih =>
      have hd := h d List.mem_cons_self
      have hlater := ih (fun e he => h e (List.mem_cons_of_mem _ he)) (10 * n + d)
      rw [List.foldl_cons, List.length_cons, Nat.pow_succ']
      calc ds.foldl (fun n d => 10 * n + d) (10 * n + d)
        _ < (10 * n + d + 1) * 10 ^ ds.length := hlater
        _ ≤ ((n + 1) * 10) * 10 ^ ds.length := Nat.mul_le_mul_right _ (by omega)
        _ = (n + 1) * (10 * 10 ^ ds.length) := by rw [Nat.mul_assoc]
  have hzero := hfold 0
  rwa [Nat.zero_add, Nat.one_mul] at hzero

theorem natAbs_lt_of_readInt? (h : readInt? s = some n) : n.natAbs < 10 ^ maxDigits := by
  obtain ⟨cs, -, hcs⟩ := Option.bind_eq_some_iff.mp h
  unfold readIntChars? takeDigits at hcs
  dsimp only at hcs
  split at hcs
  · cases hcs
  next hshort =>
    simp only [Bool.or_eq_true, decide_eq_true_eq, not_or, not_lt] at hshort
    obtain rfl := Option.some.inj hcs
    rw [Binary64.natAbs_signed]
    refine (ofDigits_lt fun d hd => ?_).trans_le (Nat.pow_le_pow_right (by decide) hshort.2)
    obtain ⟨c, -, hc⟩ := List.mem_filterMap.mp hd
    exact lt_ten_of_digit? hc

theorem isFinite_of_readFinite? (h : readFinite? s = some x) : x.isFinite = true :=
  (Option.filter_eq_some_iff.mp h).2

end Flipbook.Numeral

namespace Flipbook.Script

open Text

variable {row : List String} {size start count n : Int} {k : Nat} {run xs : List Binary64}
  {s text : String} {line : Int}

/-! ## Numbers -/

theorem isCount_of_readInt? (h : Numeral.readInt? s = some n) : IsCount n.toNat := by
  have hlt := Numeral.natAbs_lt_of_readInt? h
  have hle : n.toNat ≤ n.natAbs := by omega
  exact hle.trans_lt hlt

theorem isFinite_of_mapM {ss : List String} (h : ss.mapM Numeral.readFinite? = some xs) :
    ∀ x ∈ xs, x.isFinite = true := by
  induction ss generalizing xs with
  | nil =>
    obtain rfl := Option.some.inj h
    simp
  | cons s ss ih =>
    rw [List.mapM_cons] at h
    obtain ⟨y, hy, hys⟩ := Option.bind_eq_some_iff.mp h
    obtain ⟨ys, hmap, hxs⟩ := Option.bind_eq_some_iff.mp hys
    obtain rfl := Option.some.inj hxs
    intro x hx
    rcases List.mem_cons.mp hx with rfl | hx
    · exact Numeral.isFinite_of_readFinite? hy
    · exact ih hmap x hx

theorem readRuns_bounds (row : List String) (size : Int) (k : Nat) (start : Int) :
    (readRuns row size k start).length ≤ k ∧
      ∀ run ∈ readRuns row size k start, ∀ x ∈ run, x.isFinite = true := by
  induction k generalizing start with
  | zero => exact ⟨le_refl _, by simp [readRuns]⟩
  | succ k ih =>
    obtain ⟨hlength, hfinite⟩ := ih (start + size)
    unfold readRuns
    dsimp only
    split
    · exact ⟨Nat.zero_le _, by simp⟩
    · split
      next numbers hnumbers =>
        refine ⟨Nat.succ_le_succ hlength, fun run hrun => ?_⟩
        rcases List.mem_cons.mp hrun with rfl | hrun
        · exact isFinite_of_mapM hnumbers
        · exact hfinite run hrun
      next => exact ⟨hlength.trans (Nat.le_succ k), hfinite⟩

/-- The groups of numbers of a row: no more than were counted, all of them finite. -/
theorem numericGroups_bounds (row : List String) (start count size : Int) :
    (numericGroups row start count size).length ≤ count.toNat ∧
      ∀ run ∈ numericGroups row start count size, ∀ x ∈ run, x.isFinite = true :=
  readRuns_bounds row size count.toNat start

/-- A group that a plain row yields: words of the row in front, members made of its numbers. -/
theorem groupFormed_of_row {τ : Type} {colors more : List String} {members : List τ}
    (numbers : τ → List Binary64) {make : List Binary64 → Option τ}
    (hplain : isScript text = false) (hwords : words text = colors ++ more)
    (hmake : ∀ run y, make run = some y → numbers y = run) (hcount : IsCount count.toNat)
    (hmembers : (numericGroups row start count size).filterMap make = members)
    (hne : members ≠ []) : GroupFormed colors (members.map numbers) := by
  obtain ⟨hlength, hfinite⟩ := numericGroups_bounds row start count size
  refine ⟨fun c hc => ?_, fun hopen => ?_, ?_, ?_, fun run hrun x hx => ?_⟩
  · exact (isToken_of_mem_words (hwords ▸ List.mem_append_left more hc)).1
  · rw [isScript_eq_false_iff, hwords] at hplain
    exact hplain (hopen.append more)
  · simpa using hne
  · rw [List.length_map, ← hmembers]
    exact ((List.length_filterMap_le _ _).trans hlength).trans_lt hcount
  · obtain ⟨y, hy, rfl⟩ := List.mem_map.mp hrun
    rw [← hmembers] at hy
    obtain ⟨group, hgroup, hsome⟩ := List.mem_filterMap.mp hy
    rw [hmake group y hsome] at hx
    exact hfinite group hgroup x hx

/-! ## Planes -/

variable {p : Plane Binary64} {i : Nat}

/-- The form of a row of segments: a finite width, a count, and a word in front. -/
theorem lineForm?_bounds {f : LineForm} (h : lineForm? row = some f) :
    f.width.isFinite = true ∧ IsCount f.count.toNat ∧ row ≠ [] := by
  have hshort : shortForm? row = some f →
      f.width.isFinite = true ∧ IsCount f.count.toNat ∧ row ≠ [] := by
    intro hf
    obtain ⟨n, hn, rfl⟩ := Option.map_eq_some_iff.mp hf
    obtain ⟨s, hs, hread⟩ := Option.bind_eq_some_iff.mp hn
    have hone : Binary64.isFinite ((1 : Int) : Binary64) = true := by decide +kernel
    refine ⟨hone, isCount_of_readInt? hread, ?_⟩
    rintro rfl
    cases hs
  rcases Option.or_eq_some_iff.mp h with hfits | ⟨-, h⟩
  · exact hshort (Option.filter_eq_some_iff.mp hfits).1
  rcases Option.or_eq_some_iff.mp h with hfits | ⟨-, h⟩
  · obtain ⟨w, hw, hf⟩ := Option.bind_eq_some_iff.mp (Option.filter_eq_some_iff.mp hfits).1
    obtain ⟨n, hn, rfl⟩ := Option.map_eq_some_iff.mp hf
    obtain ⟨s, hs, hread⟩ := Option.bind_eq_some_iff.mp hw
    obtain ⟨u, -, hcount⟩ := Option.bind_eq_some_iff.mp hn
    refine ⟨Numeral.isFinite_of_readFinite? hread, isCount_of_readInt? hcount, ?_⟩
    rintro rfl
    cases hs
  · exact hshort h

/-- A row of a block leaves a well-formed plane well formed. -/
theorem planeFormed_row (hplain : isScript text = false) (hp : PlaneFormed p) (b : PlaneBlock) :
    PlaneFormed (planeRow p b i text line).1 := by
  have heffect := planeEffect_planeRow p b i text line
  generalize planeRow p b i text line = r at heffect ⊢
  cases heffect with
  | circles lineColor fillColor count more n circles hwords hn hcircles hne =>
    have hgroup : GroupFormed [lineColor, fillColor] (circles.map Circle.numbers) :=
      groupFormed_of_row Circle.numbers hplain hwords
        (fun _ _ => Circle.numbers_of_ofNumbers?) (isCount_of_readInt? hn) hcircles hne
    exact { hp with
      circles := List.forall_mem_append.mpr ⟨hp.circles, List.forall_mem_singleton.mpr hgroup⟩ }
  | lines f segments hform hsegments hne =>
    obtain ⟨hwidth, hcount, hrow⟩ := lineForm?_bounds hform
    obtain ⟨color, more, hwords⟩ := List.exists_cons_of_ne_nil hrow
    have hgroup : GroupFormed [(words text).headD ""] (segments.map Segment.numbers) := by
      rw [hwords, List.headD_cons]
      exact groupFormed_of_row Segment.numbers hplain (show words text = [color] ++ more from hwords)
        (fun _ _ => Segment.numbers_of_ofNumbers?) hcount hsegments hne
    exact { hp with
      lines := List.forall_mem_append.mpr
        ⟨hp.lines, List.forall_mem_singleton.mpr ⟨hgroup, hwidth⟩⟩ }
  | polygons lineColor fillColor count more n vertices hwords hn hvertices hne =>
    have hgroup : GroupFormed [lineColor, fillColor] (vertices.map Point.numbers) :=
      groupFormed_of_row Point.numbers hplain hwords
        (fun _ _ => Point.numbers_of_ofNumbers?) (isCount_of_readInt? hn) hvertices hne
    exact { hp with
      polygons := List.forall_mem_append.mpr ⟨hp.polygons, List.forall_mem_singleton.mpr hgroup⟩ }
  | noMember => exact hp
  | noCount => exact hp

/-! ## Grids -/

variable {g : Grid Binary64} {maxCells : Int} {color : String} {rows : List (List String)}
  {f : List String → List String} {w height width : Nat}

theorem length_overlay (new old : List String) : (overlay new old).length = old.length := by
  rw [overlay, List.length_append, List.length_take, List.length_drop]
  omega

theorem mem_overlay {new old : List String} (h : s ∈ overlay new old) : s ∈ new ∨ s ∈ old := by
  rcases List.mem_append.mp h with h | h
  · exact .inl (List.mem_of_mem_take h)
  · exact .inr (List.mem_of_mem_drop h)

theorem mem_foldl_paint {P : String → Prop} (hcolor : P color) (cells : List (Int × Int))
    (h : ∀ row ∈ rows, ∀ s ∈ row, P s) :
    ∀ row ∈ cells.foldl (paint color) rows, ∀ s ∈ row, P s := by
  induction cells generalizing rows with
  | nil => exact h
  | cons cell cells ih =>
    refine ih ?_
    unfold paint
    split
    · refine forall_mem_modify _ h fun row hrow s hs => ?_
      rcases List.mem_or_eq_of_mem_set hs with hs | rfl
      · exact h row hrow s hs
      · exact hcolor
    · exact h

/-- The texts of a row are made of its characters. -/
theorem mem_of_mem_scanCells (cs : List Char) {t : String} (h : t ∈ scanCells cs) :
    ∀ c ∈ t.toList, c ∈ cs := by
  fun_induction scanCells cs with
  | case1 => simp at h
  | case2 c cs hb ih =>
    intro d hd
    exact List.mem_cons_of_mem c (ih h d hd)
  | case3 c cs hb hq ih =>
    intro d hd
    refine List.mem_cons_of_mem c ?_
    rcases List.mem_cons.mp h with rfl | h
    · rw [String.toList_ofList] at hd
      exact (List.takeWhile_prefix _).subset hd
    · exact (List.dropWhile_suffix _).subset (List.mem_of_mem_tail (ih h d hd))
  | case4 c cs hb hq ih =>
    intro d hd
    rcases List.mem_cons.mp h with rfl | h
    · rw [String.toList_ofList] at hd
      rcases List.mem_cons.mp hd with rfl | hd
      · exact List.mem_cons_self
      · exact List.mem_cons_of_mem c ((List.takeWhile_prefix _).subset hd)
    · exact List.mem_cons_of_mem c ((List.dropWhile_suffix _).subset (ih h d hd))

/-- A row of flags as it is read: no longer than asked, and without a leading blank. -/
theorem readFlags_bounds (b : GridBlock) (text : String) (w : Nat) (line : Int) :
    (readFlags b text w line).1.toList.length ≤ w ∧
      (∀ c ∈ (readFlags b text w line).1.toList.head?, isBlank c = false) ∧
      ∀ c ∈ (readFlags b text w line).1.toList, c ∈ text.toList := by
  have hflags : (readFlags b text w line).1.toList = (trimBoth isBlank text.toList).take w := by
    unfold readFlags
    rw [String.toList_ofList]
  rw [hflags]
  refine ⟨List.length_take_le _ _, fun c hc => ?_, fun c hc => ?_⟩
  · rw [List.head?_take] at hc
    split at hc
    · cases hc
    · exact head?_trimBoth isBlank text.toList c hc
  · exact mem_of_mem_trimBoth (List.mem_of_mem_take hc)

/-- A row of flags that is read into a well-formed block leaves it well formed. -/
theorem wallsFormed_set {count : Nat} {flags : List String} (b : GridBlock)
    (hline : '\n' ∉ text.toList) (h : WallsFormed count w flags) (i : Nat) (line : Int) :
    WallsFormed count w (flags.set i (readFlags b text w line).1) := by
  obtain ⟨hlength, hfirst, hmem⟩ := readFlags_bounds b text w line
  refine ⟨by rw [List.length_set, h.length_eq], fun s hs => ?_, fun s hs => ?_, fun s hs => ?_⟩
  all_goals rcases List.mem_or_eq_of_mem_set hs with hs | rfl
  · exact h.length_le s hs
  · exact hlength
  · exact h.first s hs
  · exact hfirst
  · exact h.line s hs
  · exact fun hn => hline (hmem _ hn)

/-- A row of a block leaves a well-formed grid well formed. -/
theorem gridFormed_row (i : Nat) (line : Int) (hplain : isScript text = false)
    (hline : '\n' ∉ text.toList) (hg : GridFormed maxCells g) (b : GridBlock) :
    GridFormed maxCells (gridRow g.width.toNat g b i text line).1 := by
  have heffect := gridEffect_gridRow g.width.toNat g b i text line
  generalize gridRow g.width.toNat g b i text line = r at heffect ⊢
  cases heffect with
  | colors =>
    refine { hg with
      colors := tableFormed_modify hg.colors (length_overlay _) _
      isToken := forall_mem_modify _ hg.isToken fun row hrow s hs => ?_ }
    rcases mem_overlay hs with hs | hs
    · exact (isToken_of_mem_words hs).1
    · exact hg.isToken row hrow s hs
  | places color n more hrow =>
    obtain ⟨count, hwords, -⟩ := countedRow?_some hrow
    have hcolor : IsToken color := by
      refine (isToken_of_mem_words (t := color) (s := text) ?_).1
      rw [hwords]
      exact List.mem_cons_self
    exact { hg with
      colors := tableFormed_foldl_paint hg.colors color _
      isToken := mem_foldl_paint hcolor _ hg.isToken }
  | texts =>
    refine { hg with
      texts := tableFormed_modify hg.texts (length_overlay _) _
      line := forall_mem_modify _ hg.line fun row hrow s hs => ?_ }
    rcases mem_overlay hs with hs | hs
    · exact fun hn => hline (mem_of_mem_scanCells _ (List.mem_of_mem_take hs) _ hn)
    · exact hg.line row hrow s hs
  | polyline color n more points hrow hpoints hne =>
    obtain ⟨count, hwords, hn⟩ := countedRow?_some hrow
    have hgroup : GroupFormed [color] (points.map Point.numbers) :=
      groupFormed_of_row Point.numbers hplain hwords
        (fun _ _ => Point.numbers_of_ofNumbers?) (isCount_of_readInt? hn) hpoints hne
    exact { hg with
      polylines := List.forall_mem_append.mpr
        ⟨hg.polylines, List.forall_mem_singleton.mpr hgroup⟩ }
  | wallVertical flags reports hflags =>
    have hwalls := wallsFormed_set .wallVertical hline hg.wallVertical i line
    rw [hflags] at hwalls
    exact { hg with wallVertical := hwalls }
  | wallHorizontal flags reports hflags =>
    have hwalls := wallsFormed_set .wallHorizontal hline hg.wallHorizontal i line
    rw [hflags] at hwalls
    exact { hg with wallHorizontal := hwalls }
  | noPlaces | noPoint | noPolyline => exact hg

end Flipbook.Script
