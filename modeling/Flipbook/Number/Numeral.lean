import Flipbook.Number.Shortest
import Flipbook.Text.Blank
import Flipbook.Text.Digit

/-!
Numbers as text. Reading: digits of any script, with single underscores between digits, one
optional sign, margins ignored. Writing: a style record holds every decision of a format.
-/
namespace Flipbook.Numeral

open Text

def isDigit (c : Char) : Bool := (digit? c).isSome

/-- A blank that may stand around a number: every blank but the four ASCII separators. -/
def isMargin (c : Char) : Bool := isBlank c && !(0x1C ≤ c.toNat && c.toNat ≤ 0x1F)

/-- The characters without their underscores, each of which must stand between two digits. -/
def dropSeparators? (afterDigit : Bool) : List Char → Option (List Char)
  | [] => some []
  | c :: cs =>
    if c = '_' then
      if afterDigit && cs.head?.any isDigit then dropSeparators? false cs else none
    else (dropSeparators? (isDigit c) cs).map (c :: ·)

/-- Whether a minus sign leads, and what follows the sign. -/
def takeSign : List Char → Bool × List Char
  | '-' :: cs => (true, cs)
  | '+' :: cs => (false, cs)
  | cs => (false, cs)

/-- The leading digits, by value, and what follows them. -/
def takeDigits (cs : List Char) : List Nat × List Char :=
  ((cs.takeWhile isDigit).filterMap digit?, cs.dropWhile isDigit)

/-- An integer may have at most this many digits. -/
def maxDigits : Nat := 4300

def readIntChars? (cs : List Char) : Option Int :=
  let (negative, body) := takeSign cs
  let (digits, rest) := takeDigits body
  if digits.isEmpty || !rest.isEmpty || maxDigits < digits.length then none
  else some (Binary64.signed negative (ofDigits digits))

/-- The integer that a text writes, if it writes one. -/
def readInt? (s : String) : Option Int :=
  (dropSeparators? false (trimBoth isMargin s.toList)).bind readIntChars?

/-- The exponent after the mantissa: absent, or a mark, an optional sign and digits. -/
def readExponent? : List Char → Option Int
  | [] => some 0
  | c :: cs =>
    let (negative, body) := takeSign cs
    let (digits, rest) := takeDigits body
    if (c != 'e' && c != 'E') || digits.isEmpty || !rest.isEmpty then none
    else some (Binary64.signed negative (ofDigits digits))

/-- The digits after a decimal point, if one comes next. -/
def takeFraction : List Char → List Nat × List Char
  | '.' :: cs => takeDigits cs
  | cs => ([], cs)

def readDecimalChars? (cs : List Char) : Option Binary64 :=
  let (negative, body) := takeSign cs
  let (whole, body) := takeDigits body
  let (fraction, body) := takeFraction body
  if whole.isEmpty && fraction.isEmpty then none
  else (readExponent? body).map fun e =>
    .ofDecimal negative (ofDigits (whole ++ fraction)) (e - fraction.length)

/-- The finite number that a text writes; none if it writes no number or one beyond the largest. -/
def readFinite? (s : String) : Option Binary64 :=
  ((dropSeparators? false (trimBoth isMargin s.toList)).bind readDecimalChars?).filter
    (·.isFinite)

/-- How a format writes decimals. -/
structure Style where
  /-- Decimal exponents from here up to `positionalBelow` are written positionally. -/
  positionalFrom : Int
  positionalBelow : Int
  /-- What ends a whole number. -/
  wholeMark : String
  /-- What stands before an exponent that is not negative. -/
  plus : String
  /-- The least number of digits of an exponent. -/
  exponentDigits : Nat
  nan : String
  infinity : String
  negativeInfinity : String

/-- Numbers in scripts. -/
def script : Style where
  positionalFrom := -4
  positionalBelow := 16
  wholeMark := ".0"
  plus := "+"
  exponentDigits := 2
  nan := "nan"
  infinity := "inf"
  negativeInfinity := "-inf"

/-- Numbers in JSON, which has no text for those that are not finite. -/
def json : Style where
  positionalFrom := -5
  positionalBelow := 16
  wholeMark := ".0"
  plus := ""
  exponentDigits := 1
  nan := "null"
  infinity := "null"
  negativeInfinity := "null"

def zerosText (n : Nat) : String := String.ofList (List.replicate n '0')

/-- Digits with the decimal point after the one of weight `1`; the first has weight `10 ^ e`. -/
def positional (wholeMark : String) (digits : List Char) (e : Int) : String :=
  if e < 0 then "0." ++ zerosText (-e - 1).toNat ++ String.ofList digits
  else
    let n := e.toNat + 1
    if digits.length ≤ n then
      String.ofList digits ++ zerosText (n - digits.length) ++ wholeMark
    else String.ofList (digits.take n) ++ "." ++ String.ofList (digits.drop n)

/-- Digits with the decimal point after the first, and the exponent. -/
def scientific (style : Style) (digits : List Char) (e : Int) : String :=
  let mantissa := String.ofList (digits.take 1) ++
    if digits.length ≤ 1 then "" else "." ++ String.ofList (digits.drop 1)
  let sign := if e < 0 then "-" else style.plus
  let magnitude := toString e.natAbs
  mantissa ++ "e" ++ sign ++ zerosText (style.exponentDigits - magnitude.length) ++ magnitude

/-- The decimal `c * 10 ^ q`. -/
def decimalText (style : Style) (c : Nat) (q : Int) : String :=
  let digits := Nat.toDigits 10 c
  let e := q + digits.length - 1
  if style.positionalFrom ≤ e && e < style.positionalBelow then
    positional style.wholeMark digits e
  else scientific style digits e

/-- The shortest text that reads back as the number. -/
def shortestText (style : Style) : Binary64 → String
  | .nan => style.nan
  | .infinite negative => if negative then style.negativeInfinity else style.infinity
  | .finite negative x =>
    let (c, q) := x.shortest
    (if negative then "-" else "") ++ decimalText style c q

/-- A number in a script: a whole number as that integer, any other in its shortest form. -/
def scriptText (x : Binary64) : String :=
  match x.toInt? with
  | some n => toString n
  | none => shortestText script x

/-- An integer in a script, unless it is beyond all doubles. -/
def integerText? (n : Int) : Option String := (Binary64.ofInt? n).map fun _ => toString n

/-- A finite number in JSON. -/
def jsonText (x : Binary64) : String := shortestText json x

end Flipbook.Numeral
