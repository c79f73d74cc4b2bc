import Flipbook.CommandLine
import Flipbook.Text.Utf8

/-! The program: reads arguments and files, and prints. -/
open Flipbook

/-- The text of a source. -/
def readSource (source : String) : IO (Except SourceFault String) := do
  if source == "-" then
    let bytes ← (← IO.getStdin).readBinToEnd
    return .ok (String.ofList (Text.decodeUtf8 bytes.toList))
  try
    let bytes ← IO.FS.readBinFile (normalPath source)
    return .ok (Text.ofBytes bytes.toList)
  catch
    -- A directory can be opened, so only reading it fails, which names no file.
    | .inappropriateType none .. => return .error ⟨source, .directory⟩
    | .inappropriateType .. => return .error ⟨source, .notDirectory⟩
    | .invalidArgument .. => return .error ⟨source, .nameTooLong⟩
    | _ => return .error ⟨source, .missing⟩

def main (args : List String) : IO UInt32 := do
  match CommandLine.parseArgs args with
  | .help =>
    IO.print CommandLine.helpText
    return 0
  | .usage =>
    IO.eprint CommandLine.usageText
    return 2
  | .run request =>
    let output := CommandLine.run request.view {} (← readSource request.source)
    IO.print output.out
    IO.eprint output.err
    return output.status.toUInt32
