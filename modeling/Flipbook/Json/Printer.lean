import Flipbook.Json.Basic
import Flipbook.Number.Numeral

/-!
JSON text, compact or indented. Only quotes, backslashes and control characters are escaped;
numbers that are not finite are null.
-/
namespace Flipbook.Json

def hexDigit (n : Nat) : Char := (Nat.toDigits 16 n).headD '0'

/-- A character inside a text. -/
def escape (c : Char) : String :=
  if c = '"' then "\\\""
  else if c = '\\' then "\\\\"
  else if c = '\x08' then "\\b"
  else if c = '\t' then "\\t"
  else if c = '\n' then "\\n"
  else if c = '\x0c' then "\\f"
  else if c = '\r' then "\\r"
  else if c.toNat < 0x20 then
    "\\u00" ++ String.ofList [hexDigit (c.toNat / 16), hexDigit (c.toNat % 16)]
  else c.toString

def quote (s : String) : String := "\"" ++ String.join (s.toList.map escape) ++ "\""

/-- How much each level is indented; without it the text has no blanks. -/
abbrev Indent := Option Nat

/-- Why a value has no text. -/
inductive PrintFault where
  | negativeIndent
deriving DecidableEq, Repr

def PrintFault.message : PrintFault → String
  | negativeIndent => "can't convert negative int to unsigned"

/-- How much each level is indented, if it is not less than nothing. -/
def readIndent : Option Int → Except PrintFault Indent
  | none => .ok none
  | some n => if n < 0 then .error .negativeIndent else .ok (some n.toNat)

/-- The break before a member or a closing bracket at a level. -/
def lineBreak (indent : Indent) (level : Nat) : String :=
  match indent with
  | none => ""
  | some n => "\n" ++ String.ofList (List.replicate (n * level) ' ')

/-- Members between brackets, each on a line of its own if indented. -/
def bracket (indent : Indent) (level : Nat) (opening closing : String) (members : List String) :
    String :=
  if members.isEmpty then opening ++ closing
  else
    let separator := "," ++ lineBreak indent (level + 1)
    opening ++ lineBreak indent (level + 1) ++ separator.intercalate members ++
      lineBreak indent level ++ closing

mutual

/-- A value whose line is indented by `level` levels. -/
def print (indent : Indent) (level : Nat) : Json → String
  | null => "null"
  | bool b => if b then "true" else "false"
  | integer n => toString n
  | real x => Numeral.jsonText x
  | text s => quote s
  | list xs => bracket indent level "[" "]" (printMembers indent (level + 1) xs)
  | object fs => bracket indent level "\x7b" "\x7d" (printFields indent (level + 1) fs)

def printMembers (indent : Indent) (level : Nat) : List Json → List String
  | [] => []
  | x :: xs => print indent level x :: printMembers indent level xs

def printFields (indent : Indent) (level : Nat) : List (String × Json) → List String
  | [] => []
  | (key, x) :: fs =>
    (quote key ++ (if indent.isSome then ": " else ":") ++ print indent level x) ::
      printFields indent level fs

end

/-- The text of a value. -/
def render (indent : Indent) (j : Json) : String := print indent 0 j

def checkedRender (indent : Option Int) (j : Json) : Except PrintFault String :=
  (readIndent indent).map fun indent => j.render indent

end Flipbook.Json
