import Mathlib
import Flipbook.Proofs.Drawn
import Flipbook.Proofs.Ordering
import Flipbook.Proofs.Passages

/-!
Overlaps as geometry. Two rectangles with interiors overlap exactly when these have a point in
common. A rectangle without an interior, whose sides coincide or are the wrong way round, overlaps
those in whose interior it lies.
-/
namespace Flipbook

/-! ## Spans -/

/-- The numbers from `lo` to `hi`. It is not required that `lo` is the lesser one. -/
structure Span where
  lo : EReal
  hi : EReal

namespace Span

variable {s t : Span}

/-- Whether a point lies strictly between the ends. -/
def Inside (s : Span) (x : ℝ) : Prop := s.lo < x ∧ x < s.hi

/-- Whether there are points strictly between the ends. -/
def Proper (s : Span) : Prop := s.lo < s.hi

/-- Whether a span without a point between its ends has both ends strictly between those of
another. -/
def Pierces (s t : Span) : Prop :=
  ¬ s.Proper ∧ (t.lo < s.lo ∧ s.lo < t.hi) ∧ t.lo < s.hi ∧ s.hi < t.hi

/-- Whether two spans have an inner point in common, or one without an inner point lies inside the
other. -/
def Meets (s t : Span) : Prop := (∃ x, s.Inside x ∧ t.Inside x) ∨ s.Pierces t ∨ t.Pierces s

theorem exists_inside (hs : s.Proper) (ht : t.Proper) (hts : t.lo < s.hi) (hst : s.lo < t.hi) :
    ∃ x, s.Inside x ∧ t.Inside x := by
  have hlt : max s.lo t.lo < min s.hi t.hi := by
    rw [max_lt_iff, lt_min_iff, lt_min_iff]
    exact ⟨⟨hs, hst⟩, hts, ht⟩
  obtain ⟨x, hlo, hhi⟩ := EReal.lt_iff_exists_real_btwn.mp hlt
  obtain ⟨hslo, htlo⟩ := max_lt_iff.mp hlo
  obtain ⟨hshi, hthi⟩ := lt_min_iff.mp hhi
  exact ⟨x, ⟨hslo, hshi⟩, htlo, hthi⟩

/-- Without a point between its ends a span has the upper one no higher than the lower one, so two
comparisons tell that both lie between those of another. -/
theorem pierces_iff (hs : ¬ s.Proper) : s.Pierces t ↔ t.lo < s.hi ∧ s.lo < t.hi := by
  have hle : s.hi ≤ s.lo := not_lt.mp hs
  constructor
  · rintro ⟨-, ⟨-, hlo⟩, hhi, -⟩
    exact ⟨hhi, hlo⟩
  · rintro ⟨hhi, hlo⟩
    exact ⟨hs, ⟨hhi.trans_le hle, hlo⟩, hhi, hle.trans_lt hlo⟩

theorem meets_iff : s.Meets t ↔ t.lo < s.hi ∧ s.lo < t.hi := by
  constructor
  · rintro (⟨x, hs, ht⟩ | h | h)
    · exact ⟨ht.1.trans hs.2, hs.1.trans ht.2⟩
    · exact (pierces_iff h.1).mp h
    · exact ((pierces_iff h.1).mp h).symm
  · rintro ⟨hts, hst⟩
    by_cases hs : s.Proper
    · by_cases ht : t.Proper
      · exact .inl (exists_inside hs ht hts hst)
      · exact .inr (.inr ((pierces_iff ht).mpr ⟨hst, hts⟩))
    · exact .inr (.inl ((pierces_iff hs).mpr ⟨hts, hst⟩))

theorem meets_iff_of_proper (hs : s.Proper) (ht : t.Proper) :
    s.Meets t ↔ ∃ x, s.Inside x ∧ t.Inside x := by
  refine ⟨fun h => ?_, Or.inl⟩
  obtain ⟨hts, hst⟩ := meets_iff.mp h
  exact exists_inside hs ht hts hst

end Span

/-! ## Rectangles -/

namespace Rect

variable {a b : Rect Binary64}

/-- The span between the left and the right side. -/
noncomputable def across (r : Rect Binary64) : Span := ⟨r.left.toEReal, r.right.toEReal⟩

/-- The span between the top and the bottom. -/
noncomputable def down (r : Rect Binary64) : Span := ⟨r.top.toEReal, r.bottom.toEReal⟩

/-- Whether a point lies in the interior. -/
def Inside (r : Rect Binary64) (x y : ℝ) : Prop := r.across.Inside x ∧ r.down.Inside y

/-- Whether there is an interior. -/
def Proper (r : Rect Binary64) : Prop := r.across.Proper ∧ r.down.Proper

/-- Whether an edge of one rectangle lies on the line of the opposite edge of the other. -/
def Touches (a b : Rect Binary64) : Prop :=
  a.across.hi = b.across.lo ∨ b.across.hi = a.across.lo ∨ a.down.hi = b.down.lo ∨
    b.down.hi = a.down.lo

/-- Whether every side is a number, an infinity included. -/
def Numeric (r : Rect Binary64) : Prop := ∀ x ∈ r.sides, x ≠ .nan

theorem numeric_iff :
    a.Numeric ↔ a.left ≠ .nan ∧ a.top ≠ .nan ∧ a.right ≠ .nan ∧ a.bottom ≠ .nan := by
  simp [Numeric, sides]

theorem proper_iff (ha : a.Numeric) : a.Proper ↔ a.left < a.right ∧ a.top < a.bottom := by
  obtain ⟨hleft, htop, hright, hbottom⟩ := numeric_iff.mp ha
  rw [Binary64.lt_iff_toEReal hleft hright, Binary64.lt_iff_toEReal htop hbottom]
  rfl

/-- Rectangles overlap exactly when they meet in both directions. -/
theorem overlaps_iff (ha : a.Numeric) (hb : b.Numeric) :
    a.overlaps b = true ↔ a.across.Meets b.across ∧ a.down.Meets b.down := by
  obtain ⟨haleft, hatop, haright, habottom⟩ := numeric_iff.mp ha
  obtain ⟨hbleft, hbtop, hbright, hbbottom⟩ := numeric_iff.mp hb
  rw [Span.meets_iff, Span.meets_iff]
  simp only [overlaps, Bool.not_eq_true', Bool.or_eq_false_iff, decide_eq_false_iff_not,
    Binary64.not_le_iff_toEReal haright hbleft, Binary64.not_le_iff_toEReal hbright haleft,
    Binary64.not_le_iff_toEReal habottom hbtop, Binary64.not_le_iff_toEReal hbbottom hatop]
  exact and_assoc

/-- Rectangles with interiors overlap exactly when these have a point in common. -/
theorem overlaps_iff_of_proper (ha : a.Numeric) (hb : b.Numeric) (hap : a.Proper)
    (hbp : b.Proper) : a.overlaps b = true ↔ ∃ x y, a.Inside x y ∧ b.Inside x y := by
  rw [overlaps_iff ha hb, Span.meets_iff_of_proper hap.1 hbp.1,
    Span.meets_iff_of_proper hap.2 hbp.2]
  constructor
  · rintro ⟨⟨x, hax, hbx⟩, y, hay, hby⟩
    exact ⟨x, y, ⟨hax, hay⟩, hbx, hby⟩
  · rintro ⟨x, y, ⟨hax, hay⟩, hbx, hby⟩
    exact ⟨⟨x, hax, hbx⟩, y, hay, hby⟩

theorem not_overlaps_of_touches (ha : a.Numeric) (hb : b.Numeric) (h : a.Touches b) :
    a.overlaps b ≠ true := by
  rw [ne_eq, overlaps_iff ha hb, Span.meets_iff, Span.meets_iff]
  rintro ⟨⟨hba, hab⟩, hba', hab'⟩
  rcases h with h | h | h | h
  · exact hba.ne' h
  · exact hab.ne' h
  · exact hba'.ne' h
  · exact hab'.ne' h

end Rect

theorem pairs_subset {β : Type} {p : β × β} {xs : List β} (h : p ∈ pairs xs) :
    p.1 ∈ xs ∧ p.2 ∈ xs := by
  induction xs with
  | nil => cases h
  | cons x xs ih =>
    rcases List.mem_append.mp h with h | h
    · obtain ⟨y, hy, rfl⟩ := List.mem_map.mp h
      exact ⟨List.mem_cons_self, List.mem_cons_of_mem x hy⟩
    · exact ⟨List.mem_cons_of_mem x (ih h).1, List.mem_cons_of_mem x (ih h).2⟩

theorem mem_overlapNotices {cs : List (Command Binary64)} {cfg : Config Binary64} {a b : Placed} :
    .overlap a b ∈ overlapNotices cs cfg ↔
      (a, b) ∈ pairs (placements cs cfg) ∧ a.rect.overlaps b.rect = true := by
  unfold overlapNotices
  rw [List.mem_filterMap]
  constructor
  · rintro ⟨⟨c, d⟩, hcd, h⟩
    dsimp only at h
    split at h
    next hoverlaps =>
      obtain ⟨rfl, rfl⟩ := Notice.overlap.inj (Option.some.inj h)
      exact ⟨hcd, hoverlaps⟩
    next => cases h
  · rintro ⟨hab, hoverlaps⟩
    exact ⟨(a, b), hab, if_pos hoverlaps⟩

namespace Script

variable {maxCells : Int} {text m : String} {cfg : Config Binary64} {a b p : Placed}
  {c : Command Binary64} {cs : List (Command Binary64)} {f : Frame Binary64 Notice}

/-! ## Overlaps of frames -/

theorem boundsFormed_of_formed (hc : Formed maxCells c) : BoundsFormed c.bounds? := by
  cases c with
  | grid g => exact hc.bounds
  | plane p => exact hc.bounds
  | _ => exact fun r hr => nomatch hr

theorem canvasSize_pos (hwidth : 0 < cfg.canvasWidth) (hheight : 0 < cfg.canvasHeight)
    (hcs : ∀ c ∈ cs, Formed maxCells c) :
    0 < (canvasSize (findCanvas cs) cfg).1 ∧ 0 < (canvasSize (findCanvas cs) cfg).2 := by
  cases hcanvas : findCanvas cs with
  | none => exact ⟨hwidth, hheight⟩
  | some canvas =>
    obtain ⟨c, hc, hsome⟩ := List.exists_of_findSome?_eq_some hcanvas
    have hformed := hcs c hc
    cases c with
    | canvas _ =>
      obtain rfl := Option.some.inj hsome
      exact ⟨hformed.2.2, hformed.1.2⟩
    | _ => cases hsome

/-- A rectangle that is checked for overlaps has numbers for its sides. -/
theorem numeric_of_mem_placements (hwidth : 0 < cfg.canvasWidth) (hheight : 0 < cfg.canvasHeight)
    (hcs : ∀ c ∈ cs, Formed maxCells c) (hp : p ∈ placements cs cfg) : p.rect.Numeric := by
  obtain ⟨⟨c, i⟩, hc, rfl⟩ := List.mem_map.mp hp
  have hmem : c ∈ cs := List.mem_of_mem_filter (List.fst_mem_of_mem_zipIdx hc)
  have hbounds := boundsFormed_of_formed (hcs c hmem)
  -- Bounds in a script are finite; without them the canvas counts, which is positive.
  dsimp only [resolveBounds]
  split
  next r hr =>
    intro x hx
    exact Binary64.ne_nan_of_isFinite (hbounds r hr x hx)
  next =>
    obtain ⟨hw, hh⟩ := canvasSize_pos hwidth hheight hcs
    have hzero : (0 : Binary64) ≠ .nan := by decide
    exact Rect.numeric_iff.mpr
      ⟨hzero, hzero, Binary64.ne_nan_of_pos hw, Binary64.ne_nan_of_pos hh⟩

theorem overlap_mem_errors (hf : f ∈ (parse cfg text).frames m) :
    .overlap a b ∈ f.errors ↔
      (a, b) ∈ pairs (placements f.commands cfg) ∧ a.rect.overlaps b.rect = true := by
  rw [frames_eq] at hf
  obtain ⟨p, -, rfl⟩ := List.mem_map.mp hf
  have hreport : Notice.overlap a b ∉ (reported p).map .report := by simp
  have hconflict : Notice.overlap a b ∉ (resolveExclusivity (drawn p)).2.toList := by
    intro h
    obtain ⟨kept, dropped, count, h⟩ := conflict_of_mem (Option.mem_toList.mp h)
    cases h
  rw [errors_passageFrame, commitNotices, List.mem_append, List.mem_append,
    or_iff_right hreport, or_iff_right hconflict, mem_overlapNotices]
  rfl

/-- An overlap is reported of two spatial commands exactly when their rectangles meet in both
directions; if both have interiors, exactly when these have a point in common; and never when an
edge of one lies on the line of the opposite edge of the other. -/
theorem overlap_reported_iff (hwidth : 0 < cfg.canvasWidth) (hheight : 0 < cfg.canvasHeight)
    (hf : f ∈ (parse cfg text).frames m) (hab : (a, b) ∈ pairs (placements f.commands cfg)) :
    (.overlap a b ∈ f.errors ↔
      a.rect.across.Meets b.rect.across ∧ a.rect.down.Meets b.rect.down) ∧
    (a.rect.Proper → b.rect.Proper →
      (.overlap a b ∈ f.errors ↔ ∃ x y, a.rect.Inside x y ∧ b.rect.Inside x y)) ∧
    (a.rect.Touches b.rect → .overlap a b ∉ f.errors) := by
  obtain ⟨-, hformed⟩ := formed_of_mem_parse hf
  obtain ⟨hmema, hmemb⟩ := pairs_subset hab
  have ha := numeric_of_mem_placements hwidth hheight hformed.commands hmema
  have hb := numeric_of_mem_placements hwidth hheight hformed.commands hmemb
  have hreported : .overlap a b ∈ f.errors ↔ a.rect.overlaps b.rect = true := by
    rw [overlap_mem_errors hf, and_iff_right hab]
  rw [hreported]
  exact ⟨Rect.overlaps_iff ha hb, Rect.overlaps_iff_of_proper ha hb,
    Rect.not_overlaps_of_touches ha hb⟩

/-- A grid over a rectangle. -/
def tileGrid (p : Placed) : Command Binary64 :=
  .grid
    { height := 1, width := 1, borderColor := "a", textColor := "b", defaultColor := "c"
      colors := [["c"]], texts := [[""]], wallVertical := ["YY"], wallHorizontal := ["Y", "Y"]
      bounds := some p.rect }

/-- Two grids side by side and a third on top of both. -/
def tilesText : String :=
  "$v GRID(0,0,10,10) 1 1 a b c\n$v GRID(10,0,20,10) 1 1 a b c\n" ++
    "$v GRID(5,5,15,15) 1 1 a b c\n$v COMMIT\n"

def leftTile : Placed := ⟨.grid, 1, ⟨0, 0, 10.0, 10.0⟩⟩

def rightTile : Placed := ⟨.grid, 2, ⟨10.0, 0, 20.0, 10.0⟩⟩

def topTile : Placed := ⟨.grid, 3, ⟨5.0, 5.0, 15.0, 15.0⟩⟩

def tilesFrame : Frame Binary64 Notice where
  commands := [tileGrid leftTile, tileGrid rightTile, tileGrid topTile]
  rawText := tilesText
  errors := [.overlap leftTile topTile, .overlap rightTile topTile]

theorem overlap_reported_iff_tiles :
    tilesFrame ∈ (parse {} tilesText).frames defaultMode ∧
    (∃ x y, leftTile.rect.Inside x y ∧ topTile.rect.Inside x y) ∧
    leftTile.rect.Touches rightTile.rect ∧ .overlap leftTile rightTile ∉ tilesFrame.errors := by
  have hwidth : 0 < ({} : Config Binary64).canvasWidth := by decide +kernel
  have hheight : 0 < ({} : Config Binary64).canvasHeight := by decide +kernel
  have hf : tilesFrame ∈ (parse {} tilesText).frames defaultMode := by decide +kernel
  have htop : (leftTile, topTile) ∈ pairs (placements tilesFrame.commands {}) := by
    decide +kernel
  have hright : (leftTile, rightTile) ∈ pairs (placements tilesFrame.commands {}) := by
    decide +kernel
  have hleftProper : leftTile.rect.Proper :=
    (Rect.proper_iff (Rect.numeric_iff.mpr (by decide))).mpr (by decide +kernel)
  have htopProper : topTile.rect.Proper :=
    (Rect.proper_iff (Rect.numeric_iff.mpr (by decide +kernel))).mpr (by decide +kernel)
  have htouches : leftTile.rect.Touches rightTile.rect := .inl rfl
  obtain ⟨-, hcommon, -⟩ := overlap_reported_iff hwidth hheight hf htop
  obtain ⟨-, -, hapart⟩ := overlap_reported_iff hwidth hheight hf hright
  exact ⟨hf, (hcommon hleftProper htopProper).mp List.mem_cons_self, htouches, hapart htouches⟩

/-- A grid without an extent, inside of another one. -/
def dotText : String :=
  "$v GRID(5,5,5,5) 1 1 a b c\n$v GRID(0,0,10,10) 1 1 a b c\n$v COMMIT\n"

def dot : Placed := ⟨.grid, 1, ⟨5.0, 5.0, 5.0, 5.0⟩⟩

def dotSquare : Placed := ⟨.grid, 2, ⟨0, 0, 10.0, 10.0⟩⟩

def dotFrame : Frame Binary64 Notice where
  commands := [tileGrid dot, tileGrid dotSquare]
  rawText := dotText
  errors := [.overlap dot dotSquare]

/-- An overlap may be reported although no point is in the interior of both rectangles. -/
theorem dot_reported :
    0 < ({} : Config Binary64).canvasWidth ∧ 0 < ({} : Config Binary64).canvasHeight ∧
    dotFrame ∈ (parse {} dotText).frames defaultMode ∧
    (dot, dotSquare) ∈ pairs (placements dotFrame.commands {}) ∧
    .overlap dot dotSquare ∈ dotFrame.errors ∧
    ¬ ∃ x y, dot.rect.Inside x y ∧ dotSquare.rect.Inside x y := by
  refine ⟨by decide +kernel, by decide +kernel, by decide +kernel, by decide +kernel,
    List.mem_cons_self, ?_⟩
  rintro ⟨x, y, ⟨⟨hleft, hright⟩, -⟩, -⟩
  exact lt_irrefl _ (hleft.trans hright)

end Script

end Flipbook
