import Flipbook.Json.Encode
import Flipbook.Json.Printer
import Flipbook.Script.Statement
import Flipbook.Source

/-!
The command line: which script to read and what to print of it. Options may stand anywhere, and
long ones may be shortened as long as they stay unique.
-/
namespace Flipbook.CommandLine

/-- What is printed of a script. -/
inductive View where
  | summary
  | json
  | errors
  /-- The layout of one frame of a mode. -/
  | layout (mode index : String)
deriving DecidableEq, Repr

/-- A script and what to print of it. The source `-` is the standard input. -/
structure Request where
  source : String
  view : View
deriving DecidableEq, Repr

/-- What some arguments ask for. -/
inductive Parsed where
  | run (request : Request)
  | help
  | usage
deriving DecidableEq, Repr

inductive Flag where
  | help | json | errors | layout
deriving DecidableEq, Repr

/-- The spellings of the flags. -/
def spellings : List (String × Flag) :=
  [("-h", .help), ("--help", .help), ("--json", .json), ("--errors", .errors),
    ("--layout", .layout)]

/-- One argument by itself. -/
inductive Word where
  | positional (text : String)
  /-- Ends the options: all later words are positional. -/
  | separator
  | flag (flag : Flag)
  /-- A flag with an attached value, which none takes. -/
  | misused
  | unknown
  | ambiguous
deriving DecidableEq, Repr

/-- A text before its first equals sign, and what follows the sign if there is one. -/
def splitEquals (s : String) : String × Option String :=
  (String.ofList (s.toList.takeWhile (· != '=')),
    match s.toList.dropWhile (· != '=') with
    | [] => none
    | _ :: value => some (String.ofList value))

/-- Digits, with a point before some of them or not at all. -/
def isUnsigned (cs : List Char) : Bool :=
  let (whole, rest) := Numeral.takeDigits cs
  match rest with
  | [] => !whole.isEmpty
  | '.' :: rest =>
    let (fraction, rest) := Numeral.takeDigits rest
    !fraction.isEmpty && rest.isEmpty
  | _ => false

/-- A negative number, which is no option; a line feed may end it. -/
def isNegative (s : String) : Bool :=
  match s.toList with
  | '-' :: cs => isUnsigned (if cs.getLast? = some '\n' then cs.dropLast else cs)
  | _ => false

/-- A flag with what is attached to it. After `-h`, the one flag of a single letter, the same letter
may be repeated. -/
def attach (spelling : String) (f : Flag) (attached : Option String) : Word :=
  match attached with
  | none => .flag f
  | some value =>
    if spelling == "-h" && !value.isEmpty && value.toList.all (· == 'h') then .flag f else .misused

/-- The flags that a word may be short for, or that it starts with. -/
def candidates (s : String) : List Word :=
  if s.startsWith "--" then
    let (start, value) := splitEquals s
    (spellings.filter fun (spelling, _) => start.toList.isPrefixOf spelling.toList).map
      fun (spelling, f) => attach spelling f value
  else
    (spellings.filter fun (spelling, _) => spelling.toList == s.toList.take 2).map
      fun (spelling, f) => attach spelling f (some (String.ofList (s.toList.drop 2)))

/-- A word that starts like an option but is no spelling of a flag. -/
def readOption (s : String) : Word :=
  match candidates s with
  | [word] => word
  | [] => if isNegative s || s.toList.contains ' ' then .positional s else .unknown
  | _ => .ambiguous

/-- A flag is named by its spelling, alone or before an equals sign, or is short for one. -/
def readWord (s : String) : Word :=
  if s == "--" then .separator
  else if !s.startsWith "-" || s == "-" then .positional s
  else
    let (start, value) := splitEquals s
    match spellings.lookup start with
    | some f => attach start f value
    | none => readOption s

/-- The arguments one by one; after the separator all are positional. -/
def readWords (args : List String) : List Word :=
  match args with
  | [] => []
  | s :: more =>
    match readWord s with
    | .separator => .separator :: more.map .positional
    | word => word :: readWords more

/-- What the arguments read so far have settled. -/
structure Draft where
  source : Option String := none
  view : Option View := none
  /-- Whether some argument has no place. -/
  surplus : Bool := false
  /-- Whether the last argument was the source, so that a separator may follow it. -/
  afterSource : Bool := false

namespace Draft

def place (d : Draft) (s : String) : Draft :=
  match d.source with
  | none => { d with source := some s, afterSource := true }
  | some _ => { d with surplus := true, afterSource := false }

/-- Views exclude one another, but one may be asked for twice. -/
def choose? (d : Draft) (v : View) : Option Draft :=
  let same := match d.view, v with
    | none, _ | some .json, .json | some .errors, .errors | some (.layout ..), .layout .. => true
    | _, _ => false
  if same then some { d with view := some v, afterSource := false } else none

end Draft

/-- Settles the words in turn. Help and misuse of a flag end the reading at once. -/
def settle (d : Draft) : List Word → Parsed
  | [] =>
    match d.source with
    | some source => if d.surplus then .usage else .run ⟨source, d.view.getD .summary⟩
    | none => .usage
  | .positional s :: more => settle (d.place s) more
  | .separator :: more =>
    let awaited := d.source.isNone && !more.isEmpty
    settle (if awaited || d.afterSource then d else { d with surplus := true }) more
  | .flag .help :: _ => .help
  | .flag .layout :: .positional mode :: .positional index :: more =>
    match d.choose? (.layout mode index) with
    | some d => settle d more
    | none => .usage
  | .flag .json :: more =>
    match d.choose? .json with
    | some d => settle d more
    | none => .usage
  | .flag .errors :: more =>
    match d.choose? .errors with
    | some d => settle d more
    | none => .usage
  | .flag .layout :: _ | .misused :: _ => .usage
  | .unknown :: more => settle { d with surplus := true, afterSource := false } more
  | .ambiguous :: _ => .usage

def parseArgs (args : List String) : Parsed :=
  let words := readWords args
  if words.contains .ambiguous then .usage else settle {} words

/-- What a run prints, and its exit status. -/
structure Output where
  status : Nat := 0
  out : String := ""
  err : String := ""
deriving DecidableEq, Repr

/-- The number of commands of each kind that occurs, in code point order of the keywords. -/
def kindCounts (frames : List (Frame Binary64 String)) : List (String × Nat) :=
  let kinds := frames.flatMap fun f => f.commands.map (·.kind.keyword)
  (kinds.eraseDups.mergeSort fun a b => a ≤ b).map fun k => (k, kinds.count k)

/-- One line for each mode that has frames. -/
def summaryLine (mode : String) (frames : List (Frame Binary64 String)) : String :=
  let errors := (frames.flatMap (·.errors)).length
  let counts := kindCounts frames
  let detail := ", ".intercalate (counts.map fun (kind, n) => s!"{kind}={n}")
  s!"{mode}: {frames.length} frame(s), {errors} error(s)" ++
    if counts.isEmpty then "" else s!" [{detail}]"

def summary (reel : Reel Binary64 String) : List String :=
  reel.orderedModes.map fun mode => summaryLine mode (reel.frames mode)

/-- One line for each error: the mode, the frame's place in it, and the error. -/
def errorLines (reel : Reel Binary64 String) : List String :=
  reel.orderedModes.flatMap fun mode =>
    (reel.frames mode).zipIdx.flatMap fun (f, i) => f.errors.map fun e => s!"{mode}[{i}] {e}"

/-- The frame at a place of a list; a negative place counts from the end. -/
def frameAt? {τ : Type} (frames : List τ) (i : Int) : Option τ :=
  if 0 ≤ i then frames[i.toNat]?
  else if i.natAbs ≤ frames.length then frames[frames.length - i.natAbs]?
  else none

/-- Prints a view of a script. -/
def report (view : View) (cfg : Config Binary64) (text : String) : Output :=
  let reel := (Script.parse cfg text).inWords
  match view with
  | .summary => { out := "\n".intercalate (summary reel) ++ "\n" }
  | .json => { out := (Json.ofReel reel).render (some 2) ++ "\n" }
  | .errors => { out := Text.unlines (errorLines reel) }
  | .layout mode index =>
    let frames := reel.frames mode
    match (Numeral.readInt? index).bind (frameAt? frames) with
    | none =>
      { status := 1
        err := s!"No frame {index} in mode '{mode}' ({frames.length} frame(s))" ++ "\n" }
    | some f =>
      match Layout.checkedFrame f cfg with
      | .ok layout => { out := (Json.ofFrameLayout layout).render (some 2) ++ "\n" }
      | .error _ => { status := 1 }

/-- Prints a view of a source: its text, or why it cannot be read. -/
def run (view : View) (settings : Settings Binary64) (source : Except SourceFault String) :
    Output :=
  match source with
  | .ok text => report view (.ofSettings settings) text
  | .error fault => { status := 1, err := fault.message ++ "\n" }

def usageText : String :=
  "usage: flipbook [-h] [--json | --errors | --layout MODE INDEX] source\n"

def helpText : String :=
  usageText ++ "\n" ++
    "Prints a summary of the frames of a script; the source - is the standard input.\n\n" ++
    "  -h, --help           show this text\n" ++
    "  --json               print all frames as JSON\n" ++
    "  --errors             print every error\n" ++
    "  --layout MODE INDEX  print the layout of one frame as JSON\n"

end Flipbook.CommandLine
