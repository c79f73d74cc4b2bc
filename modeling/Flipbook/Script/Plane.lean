import Flipbook.Script.Block
import Flipbook.Script.Outcome

/-! Planes. A header gives the size; blocks of groups follow, each group on a row of its own. -/
namespace Flipbook.Script

open Text

structure PlaneHeader where
  height : Binary64
  width : Binary64
  bounds : Option (Rect Binary64)
deriving DecidableEq

/-- A finite number above zero. -/
def readPositive? (s : String) : Option Binary64 := (Numeral.readFinite? s).filter (0 < ·)

def readPlaneHeader (text : String) : Except HeaderFault PlaneHeader := do
  let (bounds, params) ← splitHeader text Kind.plane.keyword
  match params with
  | [height, width] =>
    match readPositive? height, readPositive? width with
    | some h, some w => return ⟨h, w, bounds⟩
    | _, _ => throw (.planeSize height width)
  | _ => throw (.planeArity params.length)

/-- The blocks of a plane. -/
inductive PlaneBlock where
  | circles | lines | polygons
deriving DecidableEq, Repr

def PlaneBlock.name : PlaneBlock → String
  | circles => "CIRCLES"
  | lines => "LINES"
  | polygons => "POLYGONS"

def planeSpecs : List (BlockSpec PlaneBlock) :=
  [.circles, .lines, .polygons].map fun b => ⟨b, b.name, none⟩

/-- The plane of a header, without groups. -/
def PlaneHeader.blank (h : PlaneHeader) : Plane Binary64 where
  height := h.height
  width := h.width
  bounds := h.bounds

/-- How a row of segments is read: the width, the count, and where the coordinates start. -/
structure LineForm where
  width : Binary64
  count : Int
  start : Nat
deriving DecidableEq

/-- Whether a row of this many words holds exactly the coordinates that the form counts. -/
def LineForm.fits (f : LineForm) (length : Nat) : Bool := (length : Int) == f.start + 4 * f.count

/-- The form `color count ...`. -/
def shortForm? (row : List String) : Option LineForm :=
  (row[1]?.bind Numeral.readInt?).map fun n => ⟨((1 : Int) : Binary64), n, 2⟩

/-- The form `color width count ...`. -/
def wideForm? (row : List String) : Option LineForm :=
  (row[1]?.bind Numeral.readFinite?).bind fun width =>
    (row[2]?.bind Numeral.readInt?).map fun n => ⟨width, n, 3⟩

/-- The form that fits a row; if neither does, the short form as far as it goes. -/
def lineForm? (row : List String) : Option LineForm :=
  ((shortForm? row).filter (·.fits row.length)).or
    (((wideForm? row).filter (·.fits row.length)).or (shortForm? row))

def planeRow (p : Plane Binary64) (b : PlaneBlock) (_index : Nat) (text : String) (line : Int) :
    Plane Binary64 × List Report :=
  let row := words text
  let missing := [⟨line, .groupCount b.name (trim text)⟩]
  match b with
  | .circles =>
    match row with
    | lineColor :: fillColor :: count :: rest =>
      match Numeral.readInt? count with
      | some n =>
        let circles := (numericGroups rest 0 n 3).filterMap fun
          | [x, y, r] => some ⟨⟨x, y⟩, r⟩
          | _ => none
        if circles.isEmpty then (p, [])
        else ({ p with circleGroups := p.circleGroups ++ [⟨lineColor, fillColor, circles⟩] }, [])
      | none => (p, missing)
    | _ => (p, missing)
  | .lines =>
    match lineForm? row with
    | some form =>
      let segments := (numericGroups row form.start form.count 4).filterMap fun
        | [x₁, y₁, x₂, y₂] => some ⟨⟨x₁, y₁⟩, ⟨x₂, y₂⟩⟩
        | _ => none
      if segments.isEmpty then (p, [])
      else
        let group := ⟨row.headD "", form.width, segments⟩
        ({ p with lineGroups := p.lineGroups ++ [group] }, [])
    | none => (p, missing)
  | .polygons =>
    match row with
    | lineColor :: fillColor :: count :: rest =>
      match Numeral.readInt? count with
      | some n =>
        let vertices := (numericGroups rest 0 n 2).filterMap fun
          | [x, y] => some ⟨x, y⟩
          | _ => none
        if vertices.isEmpty then (p, [])
        else
          ({ p with polygonGroups := p.polygonGroups ++ [⟨lineColor, fillColor, vertices⟩] }, [])
      | none => (p, missing)
    | _ => (p, missing)

/-- Reads a plane whose header stands in `call` and whose blocks start at line `line`. -/
def readPlane (call : Call) (rest : List String) (line : Int) : Outcome :=
  match readPlaneHeader call.text with
  | .error fault => call.refuse fault
  | .ok h =>
    let reader := ({ specs := planeSpecs, rest, line } : BlockReader PlaneBlock).run
    let (plane, reports) := replay planeRow h.blank reader.events.toList
    { taken := reader.taken.toList, reports, action := .draw (.plane plane) }

end Flipbook.Script
