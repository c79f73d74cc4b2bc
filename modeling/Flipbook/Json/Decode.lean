import Flipbook.Frame
import Flipbook.Json.Key

/-!
Frames from JSON values. Each field is read under either spelling of its key; unknown fields are
ignored. All faults of a value are found, in the order of its fields, each with its place.
-/
namespace Flipbook.Json

/-- What is wrong with a value. -/
inductive Mismatch where
  | missing
  | notText
  | notList
  | notNumber
  | notInteger
  /-- A number with a fractional part where an integer is due. -/
  | fractional
  /-- A real number too large for an integer of 64 bits where an integer is due. -/
  | tooLarge
  | notBool
  | notObject
  | notTagged
  | noTag
  | unknownTag
deriving DecidableEq, Repr

/-- A mismatch and its place: the steps that lead to it. -/
structure Fault where
  path : List String
  mismatch : Mismatch
deriving DecidableEq, Repr

/-- A value, or all faults that were found in reading it. -/
inductive Checked (τ : Type) where
  | ok (value : τ)
  | faults (fs : List Fault)
deriving DecidableEq, Repr

namespace Checked

variable {σ τ : Type}

def map (f : σ → τ) : Checked σ → Checked τ
  | ok x => ok (f x)
  | faults fs => faults fs

/-- Applies a checked function to a checked value; faults on both sides are kept. -/
def seq (f : Checked (σ → τ)) (x : Checked σ) : Checked τ :=
  match f, x with
  | ok f, ok x => ok (f x)
  | ok _, faults fs => faults fs
  | faults es, ok _ => faults es
  | faults es, faults fs => faults (es ++ fs)

instance : Applicative Checked where
  pure := ok
  map := map
  seq f x := seq f (x ())

/-- The faults as seen from one step further out. -/
def within (step : String) : Checked τ → Checked τ
  | ok x => ok x
  | faults fs => faults (fs.map fun f => { f with path := step :: f.path })

def fail (m : Mismatch) : Checked τ := faults [⟨[], m⟩]

end Checked

abbrev Decoder (τ : Type) := Json → Checked τ

variable {τ : Type}

def toText : Decoder String
  | .text s => .ok s
  | _ => .fail .notText

def toBool : Decoder Bool
  | .bool b => .ok b
  | _ => .fail .notBool

/-- An integer may stand for a real number unless it is too large for one. -/
def toReal : Decoder Binary64
  | .real x => .ok x
  | .integer n => if (n : Binary64).isFinite then .ok n else .fail .notNumber
  | _ => .fail .notNumber

/-- A real number without a fractional part may stand for an integer of 64 bits. -/
def toInteger : Decoder Int
  | .integer n => .ok n
  | .real x =>
    match x.toInt? with
    | some n => if n.natAbs < Nat.pow 2 63 then .ok n else .fail .tooLarge
    | none => .fail .fractional
  | _ => .fail .notInteger

def toMembers (decode : Decoder τ) (i : Nat) : List Json → Checked (List τ)
  | [] => .ok []
  | x :: xs => List.cons <$> (decode x).within (toString i) <*> toMembers decode (i + 1) xs

def toList (decode : Decoder τ) : Decoder (List τ)
  | .list xs => toMembers decode 0 xs
  | _ => .fail .notList

def toOption (decode : Decoder τ) : Decoder (Option τ)
  | .null => .ok none
  | j => some <$> decode j

abbrev Fields := List (String × Json)

def toFields (decode : Fields → Checked τ) : Decoder τ
  | .object fs => decode fs
  | _ => .fail .notObject

/-- A field and the spelling under which it is present; the one that is written goes first. -/
def find? (fs : Fields) (k : Key) : Option (String × Json) :=
  match fs.lookup k.written with
  | some v => some (k.written, v)
  | none => (fs.lookup k.name).map fun v => (k.name, v)

/-- A field that must be present; a missing one is named as it would be written. -/
def required (fs : Fields) (k : Key) (decode : Decoder τ) : Checked τ :=
  match find? fs k with
  | some (spelling, v) => (decode v).within spelling
  | none => (Checked.fail .missing).within k.written

/-- A field that may be absent. -/
def optional (fs : Fields) (k : Key) (default : τ) (decode : Decoder τ) : Checked τ :=
  match find? fs k with
  | some (spelling, v) => (decode v).within spelling
  | none => .ok default

def toRect : Decoder (Rect Binary64) :=
  toFields fun fs =>
    Rect.mk <$> required fs Key.left toReal <*> required fs Key.top toReal <*>
      required fs Key.right toReal <*> required fs Key.bottom toReal

def toPoint : Decoder (Point Binary64) :=
  toFields fun fs => Point.mk <$> required fs Key.x toReal <*> required fs Key.y toReal

def toPolyline : Decoder (Polyline Binary64) :=
  toFields fun fs =>
    Polyline.mk <$> required fs Key.color toText <*>
      optional fs Key.points [] (toList toPoint)

def toCircle : Decoder (Circle Binary64) :=
  toFields fun fs =>
    (fun x y r => ⟨⟨x, y⟩, r⟩) <$> required fs Key.x toReal <*> required fs Key.y toReal <*>
      required fs Key.r toReal

def toCircleGroup : Decoder (CircleGroup Binary64) :=
  toFields fun fs =>
    CircleGroup.mk <$> required fs Key.lineColor toText <*> required fs Key.fillColor toText <*>
      optional fs Key.circles [] (toList toCircle)

def toSegment : Decoder (Segment Binary64) :=
  toFields fun fs =>
    (fun x₁ y₁ x₂ y₂ => ⟨⟨x₁, y₁⟩, ⟨x₂, y₂⟩⟩) <$> required fs Key.ax toReal <*>
      required fs Key.ay toReal <*> required fs Key.bx toReal <*> required fs Key.bY toReal

def toLineGroup : Decoder (LineGroup Binary64) :=
  toFields fun fs =>
    LineGroup.mk <$> required fs Key.color toText <*>
      optional fs Key.lineWidth 1.0 toReal <*> optional fs Key.lines [] (toList toSegment)

def toPolygon : Decoder (List (Point Binary64)) :=
  toFields fun fs => optional fs Key.points [] (toList toPoint)

def toPolygonGroup : Decoder (PolygonGroup Binary64) :=
  toFields fun fs =>
    PolygonGroup.mk <$> required fs Key.lineColor toText <*> required fs Key.fillColor toText <*>
      optional fs Key.polygon [] toPolygon

def toBar : Decoder (Bar Binary64) :=
  toFields fun fs => Bar.mk <$> required fs Key.label toText <*> required fs Key.value toReal

def toCanvas (fs : Fields) : Checked (Canvas Binary64) :=
  Canvas.mk <$> required fs Key.height toReal <*> required fs Key.width toReal

def toGrid (fs : Fields) : Checked (Grid Binary64) :=
  Grid.mk <$> required fs Key.height toInteger <*> required fs Key.width toInteger <*>
    required fs Key.borderColor toText <*> required fs Key.textColor toText <*>
    required fs Key.defaultColor toText <*>
    optional fs Key.gridColors [] (toList (toList toText)) <*>
    optional fs Key.gridTexts [] (toList (toList toText)) <*>
    optional fs Key.gridLines [] (toList toPolyline) <*>
    optional fs Key.wallVertical [] (toList toText) <*>
    optional fs Key.wallHorizontal [] (toList toText) <*>
    optional fs Key.bounds none (toOption toRect)

def toPlane (fs : Fields) : Checked (Plane Binary64) :=
  Plane.mk <$> required fs Key.height toReal <*> required fs Key.width toReal <*>
    optional fs Key.circleGroups [] (toList toCircleGroup) <*>
    optional fs Key.lineGroups [] (toList toLineGroup) <*>
    optional fs Key.polygonGroups [] (toList toPolygonGroup) <*>
    optional fs Key.bounds none (toOption toRect)

def toBarGraph (fs : Fields) : Checked (BarGraph Binary64) :=
  BarGraph.mk <$> required fs Key.fillColor toText <*> required fs Key.yMin toReal <*>
    required fs Key.yMax toReal <*> optional fs Key.items [] (toList toBar)

/-- The fields of a command of a known kind. -/
def toCommandOf (kind : Kind) (fs : Fields) : Checked (Command Binary64) :=
  match kind with
  | .canvas => .canvas <$> toCanvas fs
  | .grid => .grid <$> toGrid fs
  | .plane => .plane <$> toPlane fs
  | .barGraph => .barGraph <$> toBarGraph fs
  | .textArea => .textArea <$> optional fs Key.text "" toText
  | .score => .score <$> optional fs Key.score "" toText
  | .debug => .ok .debug

def toKind? : Json → Option Kind
  | .text s => Kind.all.find? fun k => k.keyword == s
  | _ => none

/-- A command; its type tells how its other fields are read, and is a step of their places. -/
def toCommand : Decoder (Command Binary64)
  | .object fs =>
    match fs.lookup Key.type.written with
    | none => .fail .noTag
    | some tag =>
      match toKind? tag with
      | none => .fail .unknownTag
      | some kind => (toCommandOf kind fs).within kind.keyword
  | _ => .fail .notTagged

def toFrame : Decoder (Frame Binary64 String) :=
  toFields fun fs =>
    Frame.mk <$> optional fs Key.commands [] (toList toCommand) <*>
      optional fs Key.rawText "" toText <*> optional fs Key.showDebug false toBool <*>
      optional fs Key.errors [] (toList toText)

end Flipbook.Json
