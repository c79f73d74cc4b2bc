import Flipbook.Script.Outcome

/-!
Modes while a script is read. Each mode has a track: its committed frames, which never change
again, and what its next frame holds so far.
-/
namespace Flipbook.Script

structure Track where
  frames : Array (Frame Binary64 Notice) := #[]
  commands : Array (Command Binary64) := #[]
  /-- The lines consumed since the last commit. -/
  raw : Array String := #[]
  reports : Array Report := #[]

namespace Track

def draw (t : Track) (c : Command Binary64) : Track := { t with commands := t.commands.push c }

def record (t : Track) (lines : List String) : Track := { t with raw := t.raw ++ lines.toArray }

def report (t : Track) (rs : List Report) : Track := { t with reports := t.reports ++ rs.toArray }

/-- The track without what its next frame holds so far. -/
def reset (t : Track) : Track := { frames := t.frames }

/-- The frame of some commands, their script lines and the reports of reading them. -/
def frameOf (cfg : Config Binary64) (commands : List (Command Binary64)) (raw : List String)
    (reports : List Report) : Frame Binary64 Notice :=
  let (survivors, conflict) := resolveExclusivity commands
  { commands := survivors
    rawText := Text.unlines raw
    showDebug := survivors.any fun c => c.kind == .debug
    errors := reports.map .report ++ conflict.toList ++ overlapNotices survivors cfg }

/-- Whether there is something to commit: a command, or a report if reports alone are kept. -/
def isDue (t : Track) (keepReports : Bool) : Bool :=
  !t.commands.isEmpty || (keepReports && !t.reports.isEmpty)

/-- Commits the next frame if it is due: the frame, and the track after it. -/
def commit (t : Track) (cfg : Config Binary64) (keepReports : Bool) :
    Option (Frame Binary64 Notice) × Track :=
  if t.isDue keepReports then
    let frame := frameOf cfg t.commands.toList t.raw.toList t.reports.toList
    (some frame, { frames := t.frames.push frame })
  else (none, t)

/-- The track after a command. -/
def absorb (cfg : Config Binary64) (t : Track) (o : Outcome) : Track :=
  let t := (t.record o.taken).report o.reports
  match o.action with
  | .draw c => t.draw c
  | .commit => (t.commit cfg false).2
  | .idle => t

end Track

/-- The tracks of the modes that appeared, in order of appearance. -/
structure Session where
  tracks : List (String × Track) := [(defaultMode, {})]

namespace Session

/-- The track of a mode; an empty one if the mode has not appeared. -/
def track (s : Session) (mode : String) : Track := (s.tracks.lookup mode).getD {}

/-- Changes the track of a mode. A mode that has not appeared comes last. -/
def update (s : Session) (mode : String) (f : Track → Track) : Session :=
  if (s.tracks.lookup mode).isSome then
    ⟨s.tracks.map fun (m, t) => (m, if m = mode then f t else t)⟩
  else ⟨s.tracks ++ [(mode, f {})]⟩

/-- Commits all that is pending, reports alone included. -/
def close (cfg : Config Binary64) (s : Session) : Session :=
  ⟨s.tracks.map fun (mode, t) => (mode, (t.commit cfg true).2)⟩

def reel (s : Session) : Reel Binary64 Notice :=
  s.tracks.map fun (mode, t) => (mode, t.frames.toList)

end Session

end Flipbook.Script
