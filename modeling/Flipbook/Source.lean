import Flipbook.Text.Blank
import Flipbook.Text.Quoted

/-! Sources of scripts that cannot be read. -/
namespace Flipbook

inductive ReadFailure where
  | missing
  | directory
  | notDirectory
  | nameTooLong
deriving DecidableEq, Repr

/-- The number by which systems report a failure. -/
def ReadFailure.code : ReadFailure → Nat
  | missing => 2
  | directory => 21
  | notDirectory => 20
  | nameTooLong => 36

def ReadFailure.words : ReadFailure → String
  | missing => "No such file or directory"
  | directory => "Is a directory"
  | notDirectory => "Not a directory"
  | nameTooLong => "File name too long"

/-- A path without empty and `.` steps. Two leading slashes, but not more, differ from one. -/
def normalPath (path : String) : String :=
  let steps := (Text.splitAt '/' path).filter fun s => s != "" && s != "."
  let root :=
    if path.startsWith "//" && !path.startsWith "///" then "//"
    else if path.startsWith "/" then "/"
    else ""
  if root.isEmpty && steps.isEmpty then "." else root ++ "/".intercalate steps

structure SourceFault where
  path : String
  failure : ReadFailure
deriving DecidableEq, Repr

def SourceFault.message (f : SourceFault) : String :=
  s!"Cannot read {f.path}: [Errno {f.failure.code}] {f.failure.words}: " ++
    Text.quoted (normalPath f.path)

end Flipbook
