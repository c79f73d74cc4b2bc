import Flipbook.Script.Line
import Flipbook.Text.Slice

/-! Header lines: a keyword, bounds that may follow it at once, and parameters. -/
namespace Flipbook.Script

open Text

/-- The rectangle written as four numbers between commas. -/
def readBounds? (inner : String) : Option (Rect Binary64) :=
  match (splitAt ',' inner).map fun side => Numeral.readFinite? (trim side) with
  | [some left, some top, some right, some bottom] => some ⟨left, top, right, bottom⟩
  | _ => none

/-- What follows a keyword at the start of a text; all of a text that starts otherwise. -/
def afterKeyword (key text : List Char) : List Char :=
  if key.isPrefixOf text then text.drop key.length else text

/-- The bounds and the parameters of a header. -/
def splitHeader (text key : String) :
    Except HeaderFault (Option (Rect Binary64) × List String) :=
  match afterKeyword key.toList text.toList with
  | '(' :: cs =>
    let inner := String.ofList (cs.takeWhile (· != ')'))
    match cs.dropWhile (· != ')') with
    | [] => .error (.unclosedBounds key)
    | _ :: rest =>
      match readBounds? inner with
      | some r => .ok (some r, words (String.ofList rest))
      | none => .error (.badBounds key inner)
  | cs => .ok (none, words (String.ofList cs))

/-- Up to `count` runs of `size` numbers of a row, the first at index `start`. A run with a member
that is no number is left out; reading stops where the row holds no further run. -/
def readRuns (row : List String) (size : Int) : Nat → (start : Int) → List (List Binary64)
  | 0, _ => []
  | count + 1, start =>
    let run := slice start (start + size) row
    if run.length < size then []
    else
      let later := readRuns row size count (start + size)
      match run.mapM Numeral.readFinite? with
      | some numbers => numbers :: later
      | none => later

/-- The runs of numbers of a row from index `start` on; a negative count asks for none. A start
that counts from the end reads no run across the end. -/
def numericGroups (row : List String) (start count size : Int) : List (List Binary64) :=
  readRuns row size count.toNat start

end Flipbook.Script
