import Flipbook.Geometry.Rect

/-!
Maps from logical coordinates into a pixel rectangle. In doubles they are checked: a number of parts
that is beyond all doubles divides nothing.
-/
namespace Flipbook.Geometry

/-- Why a picture has no layout. -/
inductive Fault where
  /-- A side is divided into zero parts. -/
  | divisionByZero
  /-- Edge `index` is asked of `size` edges. -/
  | noEdge (index size : Nat)
  /-- An integer is beyond all doubles. -/
  | tooLarge
deriving DecidableEq, Repr

def Fault.message : Fault → String
  | divisionByZero => "float division by zero"
  | noEdge index size => s!"index {index} is out of bounds for axis 0 with size {size}"
  | tooLarge => "int too large to convert to float"

variable {α : Type} [Scalar α]

def divide (x y : α) : Except Fault α :=
  if Scalar.isZero y then .error .divisionByZero else .ok (x / y)

/-- The borders of `n` equal cells between `start` and `stop`, both ends included. -/
def edges (start stop : α) (n : Int) : Except Fault (Array α) := do
  let step ← divide (stop - start) (n : α)
  return (Array.range (n + 1).toNat).map fun (k : Nat) => start + ((k : Int) : α) * step

def edge (es : Array α) (i : Nat) : Except Fault α :=
  match es[i]? with
  | some x => .ok x
  | none => .error (.noEdge i es.size)

/-- The map from a plane of this width and height onto the rectangle that shows it. -/
def scale (r : Rect α) (width height : α) : Except Fault (Point α → Point α) := do
  let sx ← divide r.width width
  let sy ← divide r.height height
  return fun p => ⟨p.x * sx + r.left, p.y * sy + r.top⟩

/-- The map from grid coordinates, where `(column, row)` is the middle of a cell, onto the rectangle
that shows the grid. -/
def center (r : Rect α) (rows cols : Int) : Except Fault (Point α → Point α) := do
  let cx ← divide r.width (cols : α)
  let cy ← divide r.height (rows : α)
  let two : α := ((2 : Int) : α)
  return fun p => ⟨p.x * cx + cx / two + r.left, p.y * cy + cy / two + r.top⟩

/-- Maps some points. Without a point the map is not asked for. -/
def mapPoints (f : Except Fault (Point α → Point α)) (ps : List (Point α)) :
    Except Fault (List (Point α)) :=
  if ps.isEmpty then .ok [] else f.map fun f => ps.map f

/-! ## Checks -/

/-- An integer as it takes part in the arithmetic of doubles. -/
def double (n : Int) : Except Fault Binary64 :=
  match Binary64.ofInt? n with
  | some x => .ok x
  | none => .error .tooLarge

/-- Checks that a side can be divided into `n` parts. -/
def requireParts (n : Int) : Except Fault Unit := do
  if Scalar.isZero (← double n) then throw .divisionByZero

/-- Checks that a rectangle can be divided into rows and columns of cells. -/
def requireCells (rows cols : Int) : Except Fault Unit := do
  requireParts cols
  requireParts rows

def checkedEdges (start stop : Binary64) (n : Int) : Except Fault (Array Binary64) := do
  requireParts n
  edges start stop n

def checkedCenter (r : Rect Binary64) (rows cols : Int) :
    Except Fault (Point Binary64 → Point Binary64) := do
  requireCells rows cols
  center r rows cols

end Flipbook.Geometry
