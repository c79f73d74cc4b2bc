import Flipbook.Config
import Flipbook.Notice

/-!
Frames, and the checks across the commands of one frame: at most one spatial kind survives, and
rectangles should not overlap.
-/
namespace Flipbook

/-- One committed picture with the script text it came from; `ε` is the type of its diagnostics. -/
structure Frame (α ε : Type) where
  commands : List (Command α) := []
  rawText : String := ""
  showDebug : Bool := false
  errors : List ε := []
deriving DecidableEq

/-- The frames of each mode, in the order in which the modes first appeared. -/
abbrev Reel (α ε : Type) := List (String × List (Frame α ε))

/-- The mode of lines that name none. -/
def defaultMode : String := "default"

variable {α ε : Type}

namespace Frame

def mapErrors {δ : Type} (f : ε → δ) (fr : Frame α ε) : Frame α δ :=
  { fr with errors := fr.errors.map f }

/-- The frame with its diagnostics in words. -/
def inWords (fr : Frame α Notice) : Frame α String := fr.mapErrors Notice.message

end Frame

namespace Reel

def inWords (reel : Reel α Notice) : Reel α String :=
  reel.map fun (mode, frames) => (mode, frames.map Frame.inWords)

/-- The frames of a mode; none if it never appeared. -/
def frames (reel : Reel α ε) (mode : String) : List (Frame α ε) := (reel.lookup mode).getD []

/-- The commands of each frame of a mode, numbers of one value being one number. -/
def pictures (frames : List (Frame Binary64 ε)) : List (List (Command Binary64)) :=
  frames.map fun f => f.commands.map (·.map Binary64.foldZero)

/-- Whether two reels have the same modes, in any order, with equal commands frame by frame. -/
def agrees {δ : Type} (a : Reel Binary64 ε) (b : Reel Binary64 δ) : Bool :=
  a.length == b.length && a.all fun (mode, frames) =>
    (b.lookup mode).any fun others => pictures frames == pictures others

/-- The modes that have frames, the default mode first and the others in code point order; the
default mode alone if there is none. -/
def orderedModes (reel : Reel α ε) : List String :=
  let named := (reel.filter fun (_, frames) => !frames.isEmpty).map Prod.fst
  let sorted := named.mergeSort fun a b => a ≤ b
  if sorted.isEmpty then [defaultMode]
  else if sorted.contains defaultMode then defaultMode :: sorted.erase defaultMode
  else sorted

end Reel

/-- The spatial kind that appears first keeps the frame: the commands that survive, and the notice
if any were dropped. -/
def resolveExclusivity (cs : List (Command α)) : List (Command α) × Option Notice :=
  let spatial := (cs.map Command.kind).filter Kind.isSpatial
  match spatial.head? with
  | none => (cs, none)
  | some kept =>
    let dropped := if kept = .grid then Kind.plane else .grid
    if spatial.contains dropped then
      let survivors := cs.filter fun c => c.kind != dropped
      (survivors, some (.conflict kept dropped (cs.length - survivors.length)))
    else (cs, none)

/-- The unordered pairs of a list, in order of the first member, then of the second. -/
def pairs {β : Type} : List β → List (β × β)
  | [] => []
  | x :: xs => xs.map (fun y => (x, y)) ++ pairs xs

/-- The spatial commands with their rectangles. -/
def placements (cs : List (Command Binary64)) (cfg : Config Binary64) : List Placed :=
  (cs.filter Command.isSpatial).zipIdx.map fun (c, i) =>
    ⟨c.kind, i + 1, resolveBounds c.bounds? (findCanvas cs) cfg⟩

/-- One notice for each pair of spatial commands whose rectangles overlap. -/
def overlapNotices (cs : List (Command Binary64)) (cfg : Config Binary64) : List Notice :=
  (pairs (placements cs cfg)).filterMap fun (a, b) =>
    if a.rect.overlaps b.rect then some (.overlap a b) else none

end Flipbook
