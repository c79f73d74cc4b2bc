import Flipbook.Script.BarGraph
import Flipbook.Script.Grid
import Flipbook.Script.Plane

/-! The commands that a script may name, and the choice of the one that a line names. -/
namespace Flipbook.Script

open Text

/-- A keyword with its meaning. -/
structure Entry (η : Type) where
  keyword : String
  description : String := ""
  meaning : η

/-- Keywords in the order in which they were registered, each once. -/
abbrev Vocabulary (η : Type) := List (Entry η)

/-- What a command text calls. -/
inductive Resolution (η : Type) where
  /-- The text has no keyword. -/
  | blank
  | unknown (word : String)
  | call (entry : Entry η) (call : Call)

/-- A keyword has one meaning. -/
inductive RegistrationFault where
  | duplicate (keyword : String)
deriving DecidableEq, Repr

def RegistrationFault.message : RegistrationFault → String
  | duplicate keyword => s!"Duplicate command keyword: {keyword}"

namespace Vocabulary

variable {η : Type}

def get? (v : Vocabulary η) (keyword : String) : Option (Entry η) :=
  v.find? fun e => e.keyword == keyword

def register (v : Vocabulary η) (e : Entry η) : Except RegistrationFault (Vocabulary η) :=
  if (v.get? e.keyword).isSome then .error (.duplicate e.keyword) else .ok (v ++ [e])

/-- The keywords in code point order. -/
def keywords (v : Vocabulary η) : List String :=
  (v.map (·.keyword)).mergeSort fun a b => a ≤ b

/-- The entry that a command text names. An unknown command is quoted by its whole first word. -/
def resolve (v : Vocabulary η) (text : String) (line : Int) : Resolution η :=
  match words text with
  | [] => .blank
  | word :: params =>
    let key := beforeParen word
    if key.isEmpty then .blank
    else
      match v.get? key with
      | none => .unknown word
      | some e => .call e ⟨key, text, line, params⟩

end Vocabulary

/-- The meaning of a command: the limit on grid cells, the call, the lines that follow and the
number of the first of them determine what it yields. -/
abbrev Meaning := (maxCells : Int) → Call → (rest : List String) → (line : Int) → Outcome

def readCanvas (call : Call) : Outcome :=
  match call.params with
  | [height, width] =>
    match readPositive? height, readPositive? width with
    | some h, some w => .draw (.canvas ⟨h, w⟩)
    | _, _ => call.refuse (.canvasSize (" ".intercalate call.params))
  | _ => call.refuse (.canvasArity call.params.length)

/-- The commands of scripts. -/
def vocabulary : Vocabulary Meaning :=
  [⟨Kind.barGraph.keyword, "Bar chart: BAR_GRAPH fillColor yMin yMax + one data line",
      fun _ call rest line => readBarGraph call rest line⟩,
    ⟨"COMMIT", "Finalize the pending frame of the mode", fun _ _ _ _ => { action := .commit }⟩,
    ⟨Kind.debug.keyword, "Show the frame's raw text next to the drawing",
      fun _ _ _ _ => .draw .debug⟩,
    ⟨Kind.textArea.keyword, "Free text panel",
      fun _ call _ _ => .draw (.textArea (textAfter call.text call.keyword))⟩,
    ⟨Kind.score.keyword, "Opaque score string",
      fun _ call _ _ => .draw (.score (textAfter call.text call.keyword))⟩,
    ⟨Kind.canvas.keyword, "Nominal canvas size: CANVAS H W", fun _ call _ _ => readCanvas call⟩,
    ⟨Kind.grid.keyword, "Rectangular cell grid with colours, texts, walls and polylines",
      readGrid⟩,
    ⟨Kind.plane.keyword, "Continuous plane with circles, segments and polygons",
      fun _ call rest line => readPlane call rest line⟩]

/-- What a command text on line `number` yields; `rest` are the lines after it, the first of them
line `line`. -/
def perform (maxCells : Int) (text : String) (number : Int) (rest : List String) (line : Int) :
    Outcome :=
  match vocabulary.resolve text number with
  | .blank => {}
  | .unknown word => { reports := [⟨number, .unknownCommand word⟩] }
  | .call e call => e.meaning maxCells call rest line

end Flipbook.Script
