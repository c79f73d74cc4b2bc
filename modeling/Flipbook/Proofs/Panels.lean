import Mathlib
import Flipbook.Proofs.Lists
import Flipbook.Proofs.Tilings

/-!
Exact geometry of bar graphs. Over the rationals the bars of a graph stand side by side on the
bottom of its panel and fill its width, each as high as its value is in the range of the graph; and
the panels of a frame stand below one another.
-/
namespace Flipbook

variable {α β ε : Type}

/-- The frame over other numbers. -/
def Frame.map (φ : α → β) (f : Frame α ε) : Frame β ε :=
  { f with commands := f.commands.map (·.map φ) }

namespace Binary64

variable {a b : Binary64}

theorem toRat_le_iff (ha : a.isFinite = true) (hb : b.isFinite = true) :
    a.toRat ≤ b.toRat ↔ a ≤ b := by
  cases a with
  | finite s x =>
    cases b with
    | finite t y => exact finite_le_iff.symm
    | _ => cases hb
  | _ => cases ha

theorem toRat_zero : (0 : Binary64).toRat = 0 := by
  change (finite false .zero).toRat = 0
  simp [toRat, Magnitude.zero]

theorem toRat_pos (ha : a.isFinite = true) (h : 0 < a) : 0 < a.toRat := by
  rw [← toRat_zero, ← not_le, toRat_le_iff ha rfl]
  exact not_le_of_lt h

end Binary64

/-! ## Rectangles -/

namespace Rect

/-- Whether a rectangle is inside another; its sides may lie on those of the other. -/
structure Within (a b : Rect ℚ) : Prop where
  left : b.left ≤ a.left
  across : a.left ≤ a.right
  right : a.right ≤ b.right
  top : b.top ≤ a.top
  down : a.top ≤ a.bottom
  bottom : a.bottom ≤ b.bottom

/-- Whether two rectangles do not overlap, whichever comes first. -/
def Apart (a b : Rect ℚ) : Prop := a.overlaps b = false ∧ b.overlaps a = false

theorem apart_of_beside {a b : Rect ℚ} (h : a.right ≤ b.left) : a.Apart b :=
  ⟨overlaps_eq_false_iff.mpr (.inl h), overlaps_eq_false_iff.mpr (.inr (.inl h))⟩

theorem apart_of_below {a b : Rect ℚ} (h : a.bottom ≤ b.top) : a.Apart b :=
  ⟨overlaps_eq_false_iff.mpr (.inr (.inr (.inl h))),
    overlaps_eq_false_iff.mpr (.inr (.inr (.inr h)))⟩

end Rect

namespace Layout

open Flipbook.Geometry Flipbook.Script

variable {maxCells : Int} {text m : String} {cfg : Config Binary64} {lay : Config ℚ}
  {b : BarGraph ℚ} {bs : List (BarGraph ℚ)} {box : Rect ℚ} {c : Command Binary64}
  {f : Frame Binary64 Notice} {v w : ℚ}

/-- Bars side by side, all of one width and from one end of a panel to the other. -/
structure SideBySide (box : Rect ℚ) (bars : List (BarBox ℚ)) : Prop where
  width : ∀ x ∈ bars, x.rect.width = box.width / bars.length
  first : ∀ x ∈ bars.head?, x.rect.left = box.left
  next : bars.IsChain fun x y => y.rect.left = x.rect.right
  last : ∀ x ∈ bars.getLast?, x.rect.right = box.right
  covers : bars ≠ [] → ∀ v, box.left ≤ v → v ≤ box.right →
    ∃ x ∈ bars, x.rect.left ≤ v ∧ v ≤ x.rect.right
  apart : bars.Pairwise fun x y => x.rect.Apart y.rect

/-- Bars on the bottom of a panel, as high as their values are in the range of a graph. -/
structure Upright (b : BarGraph ℚ) (box : Rect ℚ) (bars : List (BarBox ℚ)) : Prop where
  foot : ∀ x ∈ bars, x.rect.bottom = box.bottom
  height : ∀ x ∈ bars, x.rect.height =
    box.height * ((min (max x.value b.low) b.high - b.low) / (b.high - b.low))
  rising : ∀ x ∈ bars, ∀ y ∈ bars, x.value ≤ y.value → x.rect.height ≤ y.rect.height
  lowest : ∀ x ∈ bars, x.value ≤ b.low → x.rect.height = 0
  highest : ∀ x ∈ bars, b.high ≤ x.value → x.rect.height = box.height

/-- Bars that show those of a graph in a panel, in their order. -/
structure Fills (b : BarGraph ℚ) (box : Rect ℚ) (bars : List (BarBox ℚ)) : Prop where
  bars_eq : bars.map (fun x => (⟨x.label, x.value⟩ : Bar ℚ)) = b.bars
  within : ∀ x ∈ bars, x.rect.Within box
  sideBySide : SideBySide box bars
  upright : Upright b box bars

/-- Panels below one another in their order, with gaps between them, and nothing of one in
another. -/
structure Stacked (gap : ℚ) (graphs : List (BarGraphLayout ℚ)) : Prop where
  next : graphs.IsChain fun a b => b.bounds.left = a.bounds.left ∧
    b.bounds.right = a.bounds.right ∧ b.bounds.top = a.bounds.bottom + gap
  apart : graphs.Pairwise fun a b => a.bounds.bottom ≤ b.bounds.top ∧ a.bounds.Apart b.bounds
  bars_apart : graphs.Pairwise fun a b => ∀ x ∈ a.bars, ∀ y ∈ b.bars, x.rect.Apart y.rect

/-! ## Bars -/

theorem barFraction_eq (hb : b.low < b.high) (v : ℚ) :
    barFraction b v = (min (max v b.low) b.high - b.low) / (b.high - b.low) := by
  unfold barFraction
  dsimp only
  rw [if_pos (sub_pos.mpr hb), Scalar.greatest_eq_max, Scalar.least_eq_min]

theorem barFraction_mono (hb : b.low < b.high) (h : v ≤ w) :
    barFraction b v ≤ barFraction b w := by
  have hspan : 0 < b.high - b.low := sub_pos.mpr hb
  rw [barFraction_eq hb, barFraction_eq hb]
  gcongr

theorem barFraction_of_le (hb : b.low < b.high) (h : v ≤ b.low) : barFraction b v = 0 := by
  rw [barFraction_eq hb, max_eq_right h, min_eq_left hb.le, sub_self, zero_div]

theorem barFraction_of_ge (hb : b.low < b.high) (h : b.high ≤ v) : barFraction b v = 1 := by
  rw [barFraction_eq hb, max_eq_left (hb.le.trans h), min_eq_right h,
    div_self (sub_pos.mpr hb).ne']

/-- No bar is lower than the lowest one or higher than the highest one. -/
theorem barFraction_bounds (hb : b.low < b.high) (v : ℚ) :
    0 ≤ barFraction b v ∧ barFraction b v ≤ 1 := by
  constructor
  · rw [← barFraction_of_le hb (min_le_right v b.low)]
    exact barFraction_mono hb (min_le_left v b.low)
  · rw [← barFraction_of_ge hb (le_max_right v b.high)]
    exact barFraction_mono hb (le_max_left v b.high)

theorem height_barPicture (b : BarGraph ℚ) (box : Rect ℚ) (bar : Bar ℚ) (k : Nat) :
    (barPicture b box bar k).rect.height = box.height * barFraction b bar.value := by
  simp only [barPicture, Rect.height]
  ring

theorem within_barPicture (hb : b.low < b.high) (hx : box.left ≤ box.right)
    (hy : box.top ≤ box.bottom) (bar : Bar ℚ) {k : Nat} (hk : k < b.bars.length) :
    (barPicture b box bar k).rect.Within box := by
  have hleft := border_le (n := b.bars.length) hx (Nat.zero_le k)
  have hright := border_le (n := b.bars.length) hx (show k + 1 ≤ b.bars.length from hk)
  rw [border_zero] at hleft
  rw [border_last _ _ (by omega)] at hright
  obtain ⟨hlow, hhigh⟩ := barFraction_bounds hb bar.value
  have htall : 0 ≤ box.height := sub_nonneg.mpr hy
  have hfull : barFraction b bar.value * box.height ≤ box.height :=
    mul_le_of_le_one_left htall hhigh
  have hempty : 0 ≤ barFraction b bar.value * box.height := mul_nonneg hlow htall
  have htop : box.bottom - box.height = box.top := sub_sub_cancel _ _
  exact {
    left := hleft
    across := border_le hx (Nat.le_succ k)
    right := hright
    top := by
      change box.top ≤ box.bottom - _
      linarith
    down := by
      change box.bottom - _ ≤ box.bottom
      linarith
    bottom := le_rfl }

theorem forall_mem_barGraphPicture {P : BarBox ℚ → Prop}
    (h : ∀ bar k, k < b.bars.length → P (barPicture b box bar k)) :
    ∀ x ∈ (barGraphPicture b box).bars, P x := by
  intro x hx
  obtain ⟨⟨bar, k⟩, hbar, rfl⟩ := List.mem_map.mp hx
  exact h bar k (by simpa using (List.mem_zipIdx hbar).2.1)

theorem length_barGraphPicture (b : BarGraph ℚ) (box : Rect ℚ) :
    (barGraphPicture b box).bars.length = b.bars.length := by
  simp [barGraphPicture]

theorem sideBySide_barGraphPicture (b : BarGraph ℚ) (hx : box.left ≤ box.right) :
    SideBySide box (barGraphPicture b box).bars where
  width := by
    refine forall_mem_barGraphPicture fun bar k _ => ?_
    rw [length_barGraphPicture]
    change border _ _ _ (k + 1) - border _ _ _ k = _
    rw [border_succ, add_sub_cancel_left]
    rfl
  first := by
    intro x h
    rw [barGraphPicture, List.head?_map, List.head?_zipIdx, Option.map_map, Option.mem_map] at h
    obtain ⟨bar, -, rfl⟩ := h
    exact border_zero _ _ _
  next := by
    rw [barGraphPicture, List.isChain_map]
    refine (isChain_zipIdx b.bars 0).imp fun p q hpq => ?_
    simp only [barPicture, hpq]
  last := by
    intro x h
    rw [barGraphPicture, List.getLast?_map, List.getLast?_zipIdx, Option.map_map,
      Option.mem_map] at h
    obtain ⟨bar, hbar, rfl⟩ := h
    have hpos := List.length_pos_of_mem (List.mem_of_getLast? hbar)
    change border _ _ _ (0 + b.bars.length - 1 + 1) = _
    rw [Nat.zero_add, Nat.sub_add_cancel hpos]
    exact border_last _ _ hpos
  covers := by
    intro hne v hleft hright
    have hpos : 0 < b.bars.length := by
      rw [← length_barGraphPicture b box]
      exact List.length_pos_iff.mpr hne
    have hbar {k : Nat} (hk : k < b.bars.length) :
        barPicture b box b.bars[k] k ∈ (barGraphPicture b box).bars :=
      List.mem_map.mpr ⟨(b.bars[k], k), List.mk_mem_zipIdx_iff_getElem?.mpr (by simp [hk]), rfl⟩
    rcases hright.lt_or_eq with hlt | rfl
    · obtain ⟨k, hk, hfrom, hto⟩ := exists_part hpos (hleft.trans_lt hlt) hleft hlt
      exact ⟨_, hbar hk, hfrom, hto.le⟩
    · have hlast := border_last box.left box.right hpos
      have hfrom := border_le (n := b.bars.length) hx (Nat.sub_le b.bars.length 1)
      rw [hlast] at hfrom
      refine ⟨_, hbar (Nat.sub_lt hpos Nat.one_pos), hfrom, ?_⟩
      change box.right ≤ border _ _ _ (b.bars.length - 1 + 1)
      rw [Nat.sub_add_cancel hpos, hlast]
  apart := by
    rw [barGraphPicture, List.pairwise_map]
    exact (pairwise_zipIdx b.bars 0).imp fun hpq => Rect.apart_of_beside (border_le hx hpq)

theorem upright_barGraphPicture (hb : b.low < b.high) (hy : box.top ≤ box.bottom) :
    Upright b box (barGraphPicture b box).bars where
  foot := forall_mem_barGraphPicture fun _ _ _ => rfl
  height := by
    refine forall_mem_barGraphPicture fun bar k _ => ?_
    rw [height_barPicture, barFraction_eq hb]
    rfl
  rising := by
    refine forall_mem_barGraphPicture fun bar k _ => forall_mem_barGraphPicture fun bar' k' _ => ?_
    intro hle
    rw [height_barPicture, height_barPicture]
    exact mul_le_mul_of_nonneg_left (barFraction_mono hb hle) (sub_nonneg.mpr hy)
  lowest := by
    refine forall_mem_barGraphPicture fun bar k _ hle => ?_
    have hzero : barFraction b bar.value = 0 := barFraction_of_le hb hle
    rw [height_barPicture, hzero, mul_zero]
  highest := by
    refine forall_mem_barGraphPicture fun bar k _ hge => ?_
    have hone : barFraction b bar.value = 1 := barFraction_of_ge hb hge
    rw [height_barPicture, hone, mul_one]

theorem fills_barGraphPicture (hb : b.low < b.high) (hx : box.left ≤ box.right)
    (hy : box.top ≤ box.bottom) : Fills b box (barGraphPicture b box).bars where
  bars_eq := (charts_barGraphPicture b box).bars
  within := forall_mem_barGraphPicture fun bar _ hk => within_barPicture hb hx hy bar hk
  sideBySide := sideBySide_barGraphPicture b hx
  upright := upright_barGraphPicture hb hy

/-! ## Panels -/

theorem top_panel (lay : Config ℚ) (n : Nat) :
    (panel lay n).top = n * (lay.barGraphHeight + lay.barGraphGap) := by
  change ((n : Int) : ℚ) * _ = _
  push_cast
  rfl

theorem bottom_panel (lay : Config ℚ) (n : Nat) :
    (panel lay n).bottom = n * (lay.barGraphHeight + lay.barGraphGap) + lay.barGraphHeight := by
  rw [← top_panel]
  rfl

theorem panel_succ (lay : Config ℚ) (n : Nat) :
    (panel lay (n + 1)).top = (panel lay n).bottom + lay.barGraphGap := by
  rw [top_panel, bottom_panel]
  push_cast
  ring

theorem panel_below (hheight : 0 ≤ lay.barGraphHeight) (hgap : 0 ≤ lay.barGraphGap) {i j : Nat}
    (h : i < j) : (panel lay i).bottom ≤ (panel lay j).top := by
  have hstep : 0 ≤ lay.barGraphHeight + lay.barGraphGap := add_nonneg hheight hgap
  have hcast : ((i + 1 : Nat) : ℚ) ≤ j := by exact_mod_cast h
  have hnext : (panel lay (i + 1)).top ≤ (panel lay j).top := by
    rw [top_panel, top_panel]
    gcongr
  rw [panel_succ] at hnext
  linarith

/-- Bar graphs in panels below one another. -/
def panelPictures (lay : Config ℚ) (bs : List (BarGraph ℚ)) : List (BarGraphLayout ℚ) :=
  bs.zipIdx.map fun p => barGraphPicture p.1 (panel lay p.2)

theorem fills_panelPictures (hbs : ∀ b ∈ bs, b.low < b.high) (hwidth : 0 ≤ lay.barGraphWidth)
    (hheight : 0 ≤ lay.barGraphHeight) :
    List.Forall₂ (fun b l => Fills b l.bounds l.bars) bs (panelPictures lay bs) := by
  have hfst : bs = bs.zipIdx.map Prod.fst := (List.zipIdx_map_fst 0 bs).symm
  conv_lhs => rw [hfst]
  rw [panelPictures, List.forall₂_map_left_iff, List.forall₂_map_right_iff, List.forall₂_same]
  rintro ⟨b, n⟩ hp
  exact fills_barGraphPicture (hbs b (List.fst_mem_of_mem_zipIdx hp)) hwidth
    (le_add_of_nonneg_right hheight)

theorem stacked_panelPictures (hbs : ∀ b ∈ bs, b.low < b.high) (hwidth : 0 ≤ lay.barGraphWidth)
    (hheight : 0 ≤ lay.barGraphHeight) (hgap : 0 ≤ lay.barGraphGap) :
    Stacked lay.barGraphGap (panelPictures lay bs) := by
  have hbelow : (panelPictures lay bs).Pairwise fun a b => a.bounds.bottom ≤ b.bounds.top := by
    rw [panelPictures, List.pairwise_map]
    exact (pairwise_zipIdx bs 0).imp fun hpq => panel_below hheight hgap hpq
  have hwithin : ∀ l ∈ panelPictures lay bs, ∀ x ∈ l.bars, x.rect.Within l.bounds := by
    intro l hl
    obtain ⟨⟨b, n⟩, hp, rfl⟩ := List.mem_map.mp hl
    exact (fills_barGraphPicture (hbs b (List.fst_mem_of_mem_zipIdx hp)) hwidth
      (le_add_of_nonneg_right hheight)).within
  refine ⟨?_, hbelow.imp fun h => ⟨h, Rect.apart_of_below h⟩, ?_⟩
  · rw [panelPictures, List.isChain_map]
    refine (isChain_zipIdx bs 0).imp fun p q hpq => ⟨rfl, rfl, ?_⟩
    rw [hpq]
    exact panel_succ lay p.2
  · refine hbelow.imp_of_mem fun ha hb h x hx y hy => Rect.apart_of_below ?_
    exact ((hwithin _ ha x hx).bottom.trans h).trans (hwithin _ hb y hy).top

theorem size_panelPictures (lay : Config ℚ) (bs : List (BarGraph ℚ)) :
    ∀ l ∈ panelPictures lay bs,
      l.bounds.width = lay.barGraphWidth ∧ l.bounds.height = lay.barGraphHeight := by
  intro l hl
  obtain ⟨⟨b, n⟩, -, rfl⟩ := List.mem_map.mp hl
  exact ⟨sub_zero _, add_sub_cancel_left _ _⟩

/-! ## Frames of scripts -/

theorem drawable_exact (hc : Formed maxCells c) : Drawable (c.map Binary64.toRat) := by
  have hsize {x : Binary64} (hx : SizeFormed x) : Scalar.isZero x.toRat = false :=
    Scalar.isZero_eq_false (Binary64.toRat_pos hx.1 hx.2).ne'
  cases c with
  | grid g => exact ⟨hc.height_pos, hc.width_pos⟩
  | plane p => exact ⟨hsize hc.width, hsize hc.height⟩
  | _ => trivial

theorem order_exact {b : BarGraph Binary64} (hb : BarGraphFormed b) :
    (b.map Binary64.toRat).low < (b.map Binary64.toRat).high := by
  rw [← not_le]
  exact fun h => hb.order ((Binary64.toRat_le_iff hb.high hb.low).mp h)

/-- The values of the bar graphs of a script are in order. -/
theorem order_of_mem (hf : ∀ c ∈ f.commands, Formed maxCells c)
    (hb : b ∈ (f.map Binary64.toRat).commands.filterMap barGraph?) : b.low < b.high := by
  obtain ⟨d, hd, hbar⟩ := List.mem_filterMap.mp hb
  obtain ⟨c, hc, rfl⟩ := List.mem_map.mp hd
  cases c with
  | barGraph g =>
    obtain rfl := Option.some.inj hbar
    exact order_exact (hf _ hc)
  | _ => cases hbar

/-- The bar graphs of a script stay in their panels. Each graph is drawn in a panel of its own, as
many pixels wide and high as the settings say, which its bars fill; and the panels stand below one
another in the order of the commands. -/
theorem barGraphs_in_panels (hf : f ∈ (parse cfg text).frames m) (lay : Config ℚ)
    (hwidth : 0 ≤ lay.barGraphWidth) (hheight : 0 ≤ lay.barGraphHeight)
    (hgap : 0 ≤ lay.barGraphGap) :
    ∃ layout, layoutFrame (f.map Binary64.toRat) lay = .ok layout ∧
      List.Forall₂ (fun b l => Fills b l.bounds l.bars)
        ((f.map Binary64.toRat).commands.filterMap barGraph?) layout.barGraphs ∧
      (∀ l ∈ layout.barGraphs, l.bounds.width = lay.barGraphWidth ∧
        l.bounds.height = lay.barGraphHeight) ∧
      Stacked lay.barGraphGap layout.barGraphs := by
  obtain ⟨-, hformed⟩ := formed_of_mem_parse hf
  have hdrawable : ∀ c ∈ (f.map Binary64.toRat).commands, Drawable c := by
    intro d hd
    obtain ⟨c, hc, rfl⟩ := List.mem_map.mp hd
    exact drawable_exact (hformed.commands c hc)
  have horder : ∀ b ∈ (f.map Binary64.toRat).commands.filterMap barGraph?, b.low < b.high :=
    fun b hb => order_of_mem hformed.commands hb
  exact ⟨_, layoutFrame_eq Scalar.countsParts_rat hdrawable lay,
    fills_panelPictures horder hwidth hheight, size_panelPictures lay _,
    stacked_panelPictures horder hwidth hheight hgap⟩

/-- Two bar graphs around a score. In the first one the bars are higher than the range, within it,
and below it. -/
def chartsText : String :=
  "$v BAR_GRAPH red -1 3\n3 ada 7 bob 1.5 cy -2\n$v SCORE 1\n$v BAR_GRAPH blue 0 1\n1 dan 0.5"

def chartsFrame : Frame Binary64 Notice where
  commands := [
    .barGraph
      { fillColor := "red", low := -1.0, high := 3.0
        bars := [⟨"ada", 7.0⟩, ⟨"bob", 1.5⟩, ⟨"cy", -2.0⟩] },
    .score "1",
    .barGraph { fillColor := "blue", low := 0, high := 1.0, bars := [⟨"dan", 0.5⟩] }]
  rawText := chartsText ++ "\n"

theorem barGraphs_in_panels_charts :
    chartsFrame ∈ (parse {} chartsText).frames defaultMode ∧
    0 ≤ ({} : Config ℚ).barGraphWidth ∧ 0 ≤ ({} : Config ℚ).barGraphHeight ∧
    0 ≤ ({} : Config ℚ).barGraphGap ∧
    ∃ layout, layoutFrame (chartsFrame.map Binary64.toRat) {} = .ok layout ∧
      layout.barGraphs.map (fun l => l.bars.map (·.rect.height)) = [[200, 125, 0], [100]] ∧
      Stacked 10 layout.barGraphs := by
  have hf : chartsFrame ∈ (parse {} chartsText).frames defaultMode := by decide +kernel
  have hwidth : 0 ≤ ({} : Config ℚ).barGraphWidth := by decide +kernel
  have hheight : 0 ≤ ({} : Config ℚ).barGraphHeight := by decide +kernel
  have hgap : 0 ≤ ({} : Config ℚ).barGraphGap := by decide +kernel
  have hten : ({} : Config ℚ).barGraphGap = 10 := by decide +kernel
  have hbars : (layoutFrame (chartsFrame.map Binary64.toRat) {}).map
      (fun l => l.barGraphs.map fun l => l.bars.map (·.rect.height)) =
        .ok [[200, 125, 0], [100]] := by
    decide +kernel
  obtain ⟨layout, hlayout, -, -, hstacked⟩ := barGraphs_in_panels hf {} hwidth hheight hgap
  rw [hlayout] at hbars
  exact ⟨hf, hwidth, hheight, hgap, layout, hlayout, Except.ok.inj hbars, hten ▸ hstacked⟩

end Layout

end Flipbook
