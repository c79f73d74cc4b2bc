/-! Finding a text within another. -/
namespace Flipbook.Text

/-- The position of the first occurrence of a pattern. -/
def find? (pattern : List Char) : List Char → Option Nat
  | [] => if pattern.isEmpty then some 0 else none
  | c :: cs => if pattern.isPrefixOf (c :: cs) then some 0 else (find? pattern cs).map (· + 1)

end Flipbook.Text
