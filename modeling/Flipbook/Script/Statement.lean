import Flipbook.Script.Track
import Flipbook.Script.Vocabulary

/-!
Scripts as sequences of statements: a script line with the block lines that its command consumes.
Reading a script is a fold of its statements over the tracks of its modes.
-/
namespace Flipbook.Script

/-- A script line and what it yields. -/
structure Statement where
  line : Nat
  source : String
  routed : Routed
  outcome : Outcome
deriving DecidableEq

namespace Statement

/-- The lines that a statement consists of. -/
def lines (s : Statement) : List String := s.source :: s.outcome.taken

end Statement

/-- The statement that a line opens, if it is a script line; `rest` are the lines after it. -/
def statementAt? (maxCells : Int) (source : String) (line : Nat) (rest : List String) :
    Option Statement :=
  (route source).map fun r =>
    ⟨line, source, r, perform maxCells r.remainder line rest (line + 1)⟩

/-- The statements of some lines, the first of which has number `line`. Plain lines between
statements are passed over. -/
def statementsFrom (maxCells : Int) (line : Nat) : List String → List Statement
  | [] => []
  | source :: rest =>
    match statementAt? maxCells source line rest with
    | none => statementsFrom maxCells (line + 1) rest
    | some s =>
      let n := s.outcome.taken.length
      s :: statementsFrom maxCells (line + 1 + n) (rest.drop n)
termination_by ls => ls.length
decreasing_by all_goals simp only [List.length_drop, List.length_cons]; omega

/-- The statements of a script. -/
def statements (maxCells : Int) (text : String) : List Statement :=
  statementsFrom maxCells 1 (Text.lines text)

namespace Session

/-- The session after a statement. -/
def apply (cfg : Config Binary64) (s : Session) (st : Statement) : Session :=
  s.update st.routed.mode fun t => (t.record [st.source]).absorb cfg st.outcome

/-- The session after some statements. -/
def applyAll (cfg : Config Binary64) (s : Session) (sts : List Statement) : Session :=
  sts.foldl (apply cfg) s

end Session

/-- The frames of a script. The end of the script commits what is still pending. -/
def parse (cfg : Config Binary64) (text : String) : Reel Binary64 Notice :=
  ((Session.applyAll cfg {} (statements cfg.maxGridCells text)).close cfg).reel

end Flipbook.Script
