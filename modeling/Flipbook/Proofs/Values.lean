import Mathlib
import Flipbook.Proofs.Exclusivity
import Flipbook.Proofs.Numerals

/-!
Commands up to the values of their numbers. Making numbers of one value one number changes no
kind, doing it twice is doing it once, and the texts of overlaps do not notice.
-/
namespace Flipbook

variable {α β γ : Type} {f : α → β} {g : β → γ}

@[simp] theorem Point.map_map (p : Point α) : (p.map f).map g = p.map (g ∘ f) := rfl

@[simp] theorem Rect.map_map (r : Rect α) : (r.map f).map g = r.map (g ∘ f) := rfl

@[simp] theorem Circle.map_map (c : Circle α) : (c.map f).map g = c.map (g ∘ f) := rfl

@[simp] theorem Segment.map_map (s : Segment α) : (s.map f).map g = s.map (g ∘ f) := rfl

@[simp] theorem Bar.map_map (b : Bar α) : (b.map f).map g = b.map (g ∘ f) := rfl

@[simp] theorem Canvas.map_map (c : Canvas α) : (c.map f).map g = c.map (g ∘ f) := rfl

@[simp] theorem Polyline.map_map (l : Polyline α) : (l.map f).map g = l.map (g ∘ f) := by
  simp [Polyline.map, Function.comp_def]

@[simp] theorem CircleGroup.map_map (c : CircleGroup α) : (c.map f).map g = c.map (g ∘ f) := by
  simp [CircleGroup.map, Function.comp_def]

@[simp] theorem LineGroup.map_map (l : LineGroup α) : (l.map f).map g = l.map (g ∘ f) := by
  simp [LineGroup.map, Function.comp_def]

@[simp] theorem PolygonGroup.map_map (p : PolygonGroup α) :
    (p.map f).map g = p.map (g ∘ f) := by
  simp [PolygonGroup.map, Function.comp_def]

@[simp] theorem Grid.map_map (x : Grid α) : (x.map f).map g = x.map (g ∘ f) := by
  simp [Grid.map, Function.comp_def]

@[simp] theorem Plane.map_map (p : Plane α) : (p.map f).map g = p.map (g ∘ f) := by
  simp [Plane.map, Function.comp_def]

@[simp] theorem BarGraph.map_map (b : BarGraph α) : (b.map f).map g = b.map (g ∘ f) := by
  simp [BarGraph.map, Function.comp_def]

@[simp] theorem Command.map_map (c : Command α) : (c.map f).map g = c.map (g ∘ f) := by
  cases c <;> simp [Command.map]

@[simp] theorem Command.kind_map (c : Command α) : (c.map f).kind = c.kind := by
  cases c <;> rfl

theorem map_kind_map (cs : List (Command α)) :
    (cs.map (·.map f)).map Command.kind = cs.map Command.kind := by
  simp [Function.comp_def]

theorem mixed_map {cs : List (Command α)} : Mixed (cs.map (·.map f)) ↔ Mixed cs := by
  unfold Mixed
  rw [map_kind_map]

/-- Making numbers of one value one number a second time changes nothing. -/
theorem Command.foldZero_foldZero (c : Command Binary64) :
    (c.map Binary64.foldZero).map Binary64.foldZero = c.map Binary64.foldZero := by
  rw [Command.map_map]
  exact congrArg (fun h => c.map h) (funext Binary64.foldZero_foldZero)

/-! ## Overlaps -/

theorem Rect.overlaps_foldZero (a b : Rect Binary64) :
    (a.map Binary64.foldZero).overlaps (b.map Binary64.foldZero) = a.overlaps b := by
  simp [Rect.overlaps, Rect.map, Binary64.foldZero_le_iff]

theorem boundsText_foldZero (r : Rect Binary64) :
    boundsText (r.map Binary64.foldZero) = boundsText r := by
  simp [boundsText, Rect.sides, Rect.map, Numeral.scriptText_foldZero]

/-- A placed command, numbers of one value being one number. -/
def Placed.foldZero (p : Placed) : Placed := { p with rect := p.rect.map Binary64.foldZero }

theorem Placed.text_foldZero (p : Placed) : p.foldZero.text = p.text := by
  simp [Placed.text, Placed.foldZero, boundsText_foldZero]

theorem resolveBounds_foldZero (asked : Option (Rect Binary64)) (canvas : Option (Canvas Binary64))
    (cfg : Config Binary64) :
    (resolveBounds (asked.map (·.map Binary64.foldZero)) (canvas.map (·.map Binary64.foldZero))
      cfg).map Binary64.foldZero = (resolveBounds asked canvas cfg).map Binary64.foldZero := by
  have htwice : Binary64.foldZero ∘ Binary64.foldZero = Binary64.foldZero :=
    funext Binary64.foldZero_foldZero
  cases asked with
  | some r => simp [resolveBounds, htwice]
  | none =>
    cases canvas with
    | none => rfl
    | some c => simp [resolveBounds, canvasSize, Rect.map, Canvas.map, Binary64.foldZero_foldZero]

theorem findCanvas_map (f : α → β) (cs : List (Command α)) :
    findCanvas (cs.map (·.map f)) = (findCanvas cs).map (·.map f) := by
  have hcanvas (c : Command α) : (c.map f).canvas? = c.canvas?.map (·.map f) := by
    cases c <;> rfl
  induction cs with
  | nil => rfl
  | cons c cs ih =>
    unfold findCanvas at *
    rw [List.map_cons, List.findSome?_cons, List.findSome?_cons, hcanvas, ih]
    cases c.canvas? <;> rfl

theorem bounds?_map (f : α → β) (c : Command α) :
    (c.map f).bounds? = c.bounds?.map (·.map f) := by
  cases c <;> rfl

theorem placements_foldZero (cs : List (Command Binary64)) (cfg : Config Binary64) :
    (placements (cs.map (·.map Binary64.foldZero)) cfg).map Placed.foldZero =
      (placements cs cfg).map Placed.foldZero := by
  have hfilter : (cs.map (·.map Binary64.foldZero)).filter Command.isSpatial =
      (cs.filter Command.isSpatial).map (·.map Binary64.foldZero) := by
    rw [List.filter_map]
    refine congrArg _ (List.filter_congr fun c _ => ?_)
    simp [Command.isSpatial]
  unfold placements
  rw [hfilter, findCanvas_map, List.zipIdx_map, List.map_map, List.map_map, List.map_map]
  refine List.map_congr_left fun p _ => ?_
  simp [Placed.foldZero, bounds?_map, resolveBounds_foldZero]

theorem pairs_map {δ τ : Type} (f : δ → τ) (xs : List δ) :
    pairs (xs.map f) = (pairs xs).map (Prod.map f f) := by
  induction xs with
  | nil => rfl
  | cons x xs ih => simp [pairs, ih, Function.comp_def]

/-- The texts of the overlaps among some placed commands. -/
def overlapTexts (ps : List Placed) : List String :=
  (pairs ps).filterMap fun (a, b) =>
    if a.rect.overlaps b.rect then some (Notice.overlap a b).message else none

theorem message_overlap (a b : Placed) :
    (Notice.overlap a b).message = s!"Overlap between {a.text} and {b.text}" := rfl

theorem message_overlap_congr {a b c d : Placed} (hac : c.text = a.text) (hbd : d.text = b.text) :
    (Notice.overlap c d).message = (Notice.overlap a b).message := by
  rw [message_overlap, message_overlap, hac, hbd]

theorem overlapTexts_foldZero (ps : List Placed) :
    overlapTexts (ps.map Placed.foldZero) = overlapTexts ps := by
  unfold overlapTexts
  rw [pairs_map, List.filterMap_map]
  refine List.filterMap_congr fun (a, b) _ => ?_
  have hrects : a.foldZero.rect.overlaps b.foldZero.rect = a.rect.overlaps b.rect :=
    Rect.overlaps_foldZero a.rect b.rect
  have htext := message_overlap_congr a.text_foldZero b.text_foldZero
  simp only [Function.comp_apply, Prod.map_apply, hrects, htext]

theorem message_overlapNotices (cs : List (Command Binary64)) (cfg : Config Binary64) :
    (overlapNotices cs cfg).map Notice.message = overlapTexts (placements cs cfg) := by
  unfold overlapNotices overlapTexts
  rw [List.map_filterMap]
  refine List.filterMap_congr fun (a, b) _ => ?_
  dsimp only
  split <;> rfl

/-- The texts of the overlaps of some commands depend on the values of their numbers only. -/
theorem overlapNotices_foldZero (cs : List (Command Binary64)) (cfg : Config Binary64) :
    (overlapNotices (cs.map (·.map Binary64.foldZero)) cfg).map Notice.message =
      (overlapNotices cs cfg).map Notice.message := by
  rw [message_overlapNotices, message_overlapNotices, ← overlapTexts_foldZero,
    placements_foldZero, overlapTexts_foldZero]

end Flipbook
