/-!
Blanks and what they divide: trimming, words and lines. Blanks are the Unicode white space
characters together with the four ASCII separators; lines end at the line feed only.
-/
namespace Flipbook.Text

/-- A character that separates words. -/
def isBlank (c : Char) : Bool :=
  let n := c.toNat
  (0x09 ≤ n && n ≤ 0x0D) || (0x1C ≤ n && n ≤ 0x20) || n == 0x85 || n == 0xA0 || n == 0x1680 ||
    (0x2000 ≤ n && n ≤ 0x200A) || n == 0x2028 || n == 0x2029 || n == 0x202F || n == 0x205F ||
    n == 0x3000

/-- A character list without its leading members of a class. -/
def trimLeft (p : Char → Bool) (cs : List Char) : List Char := cs.dropWhile p

/-- A character list without its trailing members of a class. -/
def trimRight (p : Char → Bool) (cs : List Char) : List Char := (cs.reverse.dropWhile p).reverse

def trimBoth (p : Char → Bool) (cs : List Char) : List Char := trimRight p (trimLeft p cs)

/-- The text without its outer blanks. -/
def trim (s : String) : String := String.ofList (trimBoth isBlank s.toList)

/-- The text without its trailing blanks. -/
def trimEnd (s : String) : String := String.ofList (trimRight isBlank s.toList)

/-- Blank throughout, or empty. -/
def isBlankLine (s : String) : Bool := s.toList.all isBlank

/-- One character of a text that is cut at every member of a class: it ends the first piece, or
joins it. -/
def cutStep (p : Char → Bool) (c : Char) (pieces : List Char × List (List Char)) :
    List Char × List (List Char) :=
  if p c then ([], pieces.1 :: pieces.2) else (c :: pieces.1, pieces.2)

/-- The pieces between the members of a class: one more than there are members. -/
def cut (p : Char → Bool) (cs : List Char) : List (List Char) :=
  let pieces := cs.foldr (cutStep p) ([], [])
  pieces.1 :: pieces.2

/-- The words of a text, the pieces between blanks that are not empty, in order. -/
def words (s : String) : List String :=
  ((cut isBlank s.toList).filter fun piece => !piece.isEmpty).map String.ofList

/-- The pieces between the occurrences of a character: one more than there are occurrences. -/
def splitAt (separator : Char) (s : String) : List String :=
  (cut (· == separator) s.toList).map String.ofList

/-- The lines of a text. A final line feed opens a last empty line; the empty text has no line. -/
def lines (s : String) : List String := if s.isEmpty then [] else splitAt '\n' s

/-- The lines as one text, each ended by a line feed. -/
def unlines (ls : List String) : String := String.join (ls.map (· ++ "\n"))

end Flipbook.Text
