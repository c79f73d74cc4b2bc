import Flipbook.Config
import Flipbook.Geometry.Scale

/-! Bar graphs in pixels: bars of equal width that stand on the bottom of their panel. -/
namespace Flipbook.Layout

open Flipbook.Geometry

variable {α : Type} [Scalar α]

structure BarBox (α : Type) where
  label : String
  value : α
  rect : Rect α
  fill : String
deriving DecidableEq

structure BarGraphLayout (α : Type) where
  bounds : Rect α
  low : α
  high : α
  bars : List (BarBox α)
deriving DecidableEq

/-- The part of the panel's height that a bar takes; a value beyond the range counts as its end. -/
def barFraction (g : BarGraph α) (value : α) : α :=
  let span := g.high - g.low
  let clamped := Scalar.least (Scalar.greatest value g.low) g.high
  if 0 < span then (clamped - g.low) / span else 0

def layoutBarGraph (g : BarGraph α) (bounds : Rect α) : Except Fault (BarGraphLayout α) := do
  if g.bars.isEmpty then return ⟨bounds, g.low, g.high, []⟩
  let xs ← edges bounds.left bounds.right g.bars.length
  let bars ← g.bars.zipIdx.mapM fun (bar, k) => do
    let top := bounds.bottom - barFraction g bar.value * bounds.height
    let rect := ⟨← edge xs k, top, ← edge xs (k + 1), bounds.bottom⟩
    return (⟨bar.label, bar.value, rect, g.fillColor⟩ : BarBox α)
  return ⟨bounds, g.low, g.high, bars⟩

/-- The panel of the graph that follows `n` others: panels stand below one another. -/
def panel (cfg : Config α) (n : Nat) : Rect α :=
  let top := ((n : Int) : α) * (cfg.barGraphHeight + cfg.barGraphGap)
  ⟨0, top, cfg.barGraphWidth, top + cfg.barGraphHeight⟩

end Flipbook.Layout
