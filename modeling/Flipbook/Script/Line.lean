import Flipbook.Frame
import Flipbook.Text.Search

/-!
Script lines. A line that starts with `$v` belongs to the default mode, one that starts with
`$v(mode)` to that mode; every other line is plain text.
-/
namespace Flipbook.Script

open Text

/-- A script line: its mode and its command text. -/
structure Routed where
  mode : String
  remainder : String
deriving DecidableEq, Repr

/-- The mode and the command text of a line. The name of a mode is not empty and ends at the first
closing parenthesis; without one the line is plain text. -/
def routeChars : List Char → Option Routed
  | '$' :: 'v' :: '(' :: cs =>
    let mode := cs.takeWhile (· != ')')
    match cs.dropWhile (· != ')') with
    | [] => none
    | _ :: rest =>
      if mode.isEmpty then none
      else some ⟨String.ofList mode, String.ofList (trimBoth isBlank rest)⟩
  | '$' :: 'v' :: cs => some ⟨defaultMode, String.ofList (trimBoth isBlank cs)⟩
  | _ => none

/-- Outer blanks of a line are ignored. -/
def route (line : String) : Option Routed := routeChars (trimBoth isBlank line.toList)

/-- Whether a line is a script line. -/
def isScript (line : String) : Bool := (route line).isSome

/-- The part of a word before its first opening parenthesis. -/
def beforeParen (word : String) : String := String.ofList (word.toList.takeWhile (· != '('))

/-- The first word of a command text, without bounds that follow at once; empty if there is none. -/
def keyword (text : String) : String := ((words text).head?.map beforeParen).getD ""

/-- The trimmed text after the first occurrence of a keyword. -/
def textAfter (text key : String) : String :=
  let start := match find? key.toList text.toList with
    | some i => i + key.length
    | none => key.length - 1
  String.ofList (trimBoth isBlank (text.toList.drop start))

end Flipbook.Script
