import Flipbook.Script.Header

/-! What reading one command yields. -/
namespace Flipbook.Script

/-- What a command does to the frame in progress. -/
inductive Action where
  | draw (command : Command Binary64)
  /-- Commits the frame. -/
  | commit
  | idle
deriving DecidableEq

/-- Whether a command with this action looks at the lines after its own. -/
def Action.goesOn : Action → Bool
  | .draw c => c.kind.goesOn
  | .commit | .idle => false

/-- The lines that a command consumes after its own, its reports, and its action. -/
structure Outcome where
  taken : List String := []
  reports : List Report := []
  action : Action := .idle
deriving DecidableEq

/-- A script line split for a command. -/
structure Call where
  keyword : String
  /-- The command text, keyword included. -/
  text : String
  /-- The number that reports give to the line. -/
  line : Int
  params : List String
deriving DecidableEq, Repr

def Outcome.draw (command : Command Binary64) : Outcome := { action := .draw command }

/-- A refused header leaves a single report. -/
def Call.refuse (c : Call) (fault : HeaderFault) : Outcome :=
  { reports := [⟨c.line, .header fault⟩] }

end Flipbook.Script
