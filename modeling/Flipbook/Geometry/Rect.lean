import Flipbook.Number.Scalar

/-! Points and rectangles. Rectangles name their four sides; `y` grows downwards. -/
namespace Flipbook

structure Point (α : Type) where
  x : α
  y : α
deriving DecidableEq, Repr

def Point.map {α β : Type} (f : α → β) (p : Point α) : Point β := ⟨f p.x, f p.y⟩

structure Rect (α : Type) where
  left : α
  top : α
  right : α
  bottom : α
deriving DecidableEq, Repr

namespace Rect

def map {α β : Type} (f : α → β) (r : Rect α) : Rect β := ⟨f r.left, f r.top, f r.right, f r.bottom⟩

variable {α : Type} [Scalar α]

def width (r : Rect α) : α := r.right - r.left

def height (r : Rect α) : α := r.bottom - r.top

/-- Whether the interiors meet; rectangles that share only an edge do not overlap. -/
def overlaps (a b : Rect α) : Bool :=
  !(a.right ≤ b.left || b.right ≤ a.left || a.bottom ≤ b.top || b.bottom ≤ a.top)

def sides (r : Rect α) : List α := [r.left, r.top, r.right, r.bottom]

end Rect

end Flipbook
