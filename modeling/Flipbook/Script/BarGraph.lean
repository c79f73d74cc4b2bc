import Flipbook.Script.Outcome

/-! Bar graphs. A header gives a colour and a range; one line of labels and values follows. -/
namespace Flipbook.Script

open Text

structure BarGraphHeader where
  fillColor : String
  low : Binary64
  high : Binary64
deriving DecidableEq

def readBarGraphHeader (params : List String) : Except HeaderFault BarGraphHeader :=
  match params with
  | [fillColor, low, high] =>
    match Numeral.readFinite? low, Numeral.readFinite? high with
    | some l, some h =>
      if h ≤ l then .error (.barGraphRangeOrder low high) else .ok ⟨fillColor, l, h⟩
    | _, _ => .error (.barGraphRangeText low high)
  | _ => .error (.barGraphArity params.length)

/-- Reads pairs of a label and a value. `left` pairs are still due of `expected`, and `found` came
before. A pair whose value is no number is reported and left out. -/
def readPairs (line expected : Int) : (left found : Nat) → List String →
    List (Bar Binary64) × List Report
  | 0, _, _ => ([], [])
  | left + 1, found, label :: value :: more =>
    let (bars, reports) := readPairs line expected left (found + 1) more
    match Numeral.readFinite? value with
    | some x => (⟨label, x⟩ :: bars, reports)
    | none => (bars, ⟨line, .barValue value label⟩ :: reports)
  | _ + 1, found, _ => ([], [⟨line, .barDataEnded found expected⟩])

/-- The bars of a data line. -/
def readBars (text : String) (line : Int) : List (Bar Binary64) × List Report :=
  match words text with
  | [] => ([], [⟨line, .barDataCount (trim text)⟩])
  | count :: row =>
    match Numeral.readInt? count with
    | some n => readPairs line n n.toNat 0 row
    | none => ([], [⟨line, .barDataCount (trim text)⟩])

/-- Reads a bar graph whose header stands in `call` and whose data line may come at line `line`. -/
def readBarGraph (call : Call) (rest : List String) (line : Int) : Outcome :=
  match readBarGraphHeader call.params with
  | .error fault => call.refuse fault
  | .ok h =>
    let drawn bars := Action.draw (.barGraph ⟨h.fillColor, h.low, h.high, bars⟩)
    match rest.head?.filter (!isScript ·) with
    | none => { reports := [⟨call.line, .barDataMissing⟩], action := drawn [] }
    | some text =>
      let (bars, reports) := readBars text line
      { taken := [text], reports, action := drawn bars }

end Flipbook.Script
