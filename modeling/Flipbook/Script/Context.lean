import Flipbook.Script.Cursor
import Flipbook.Script.Statement

/-! Reading a script by hand: a cursor in its lines and a session, changed one action at a time. -/
namespace Flipbook.Script

structure Context where
  cursor : Cursor
  session : Session := {}

namespace Context

/-- Changes the track of a mode. -/
def update (c : Context) (mode : String) (f : Track → Track) : Context :=
  { c with session := c.session.update mode f }

/-- Consumes the next line into a mode. -/
def take (c : Context) (mode : String) : Except CursorFault (String × Context) := do
  match ← c.cursor.peek with
  | some line =>
    return (line, { c.update mode (·.record [line]) with cursor := c.cursor.advance 1 })
  | none => .error c.cursor.fault

/-- Passes over the next place. At the end the line number grows all the same. -/
def skip (c : Context) : Context := { c with cursor := c.cursor.advance 1 }

/-- Runs a command text as line `number` of a mode; its block lines come from the cursor. In the gap
before the first line, a command that goes on in further lines fails. -/
def dispatch (cfg : Config Binary64) (c : Context) (mode text : String) (number : Int) :
    Except CursorFault Context :=
  let o := perform cfg.maxGridCells text number c.cursor.rest c.cursor.line
  if o.action.goesOn && c.cursor.gap != 0 then .error c.cursor.fault
  else .ok { c.update mode (·.absorb cfg o) with cursor := c.cursor.advance o.taken.length }

/-- Where a line may be looked at, a command is run to its end. -/
theorem dispatch_eq (cfg : Config Binary64) {c : Context} (hgap : c.cursor.gap = 0)
    (mode text : String) (number : Int) : c.dispatch cfg mode text number =
      .ok { c.update mode (·.absorb cfg (perform cfg.maxGridCells text number c.cursor.rest
          c.cursor.line)) with
        cursor := c.cursor.advance (perform cfg.maxGridCells text number c.cursor.rest
          c.cursor.line).taken.length } := by
  unfold Context.dispatch
  simp [hgap]

/-- Commits the pending frame of a mode. -/
def commit (cfg : Config Binary64) (c : Context) (mode : String) (keepReports : Bool) :
    Option (Frame Binary64 Notice) × Context :=
  (((c.session.track mode).commit cfg keepReports).1,
    c.update mode fun t => (t.commit cfg keepReports).2)

end Context

end Flipbook.Script
