/-!
Double-precision numbers, held exactly: a finite number is a sign and a magnitude
`significand * 2 ^ exponent` in canonical form, so two finite numbers of one sign are equal
exactly when their values are. Every operation computes exactly and rounds once, to nearest,
a half going to the even neighbour.
-/
namespace Flipbook

/-- A finite non-negative double: fifty-three significant bits, or fewer at the lowest exponent. -/
structure Magnitude where
  significand : Nat
  exponent : Int
  significand_lt : significand < Nat.pow 2 53
  le_exponent : -1074 ≤ exponent
  exponent_le : exponent ≤ 971
  normal : Nat.pow 2 52 ≤ significand ∨ exponent = -1074
deriving DecidableEq

namespace Magnitude

def zero : Magnitude where
  significand := 0
  exponent := -1074
  significand_lt := by decide
  le_exponent := by decide
  exponent_le := by decide
  normal := .inr rfl

/-- The magnitude with this significand and exponent, if they are in canonical form. -/
def ofParts? (m : Nat) (e : Int) : Option Magnitude :=
  if h : m < Nat.pow 2 53 ∧ -1074 ≤ e ∧ e ≤ 971 ∧ (Nat.pow 2 52 ≤ m ∨ e = -1074) then
    some ⟨m, e, h.1, h.2.1, h.2.2.1, h.2.2.2⟩
  else none

/-- `n / d` to the nearest natural number, a half going to the even neighbour. -/
def nearest (n d : Nat) : Nat :=
  if 2 * (n % d) < d then n / d
  else if d < 2 * (n % d) then n / d + 1
  else n / d + n / d % 2

/-- The numerator of `n / d / 2 ^ e` over the denominator `scaledDen d e`. -/
def scaledNum (n : Nat) (e : Int) : Nat := n * Nat.pow 2 (-e).toNat

def scaledDen (d : Nat) (e : Int) : Nat := d * Nat.pow 2 e.toNat

/-- The exponent that leaves `n / d` fifty-three bits before the point, or the lowest one. -/
def exponentOf (n d : Nat) : Int :=
  let e : Int := n.log2 - d.log2 - 53
  max (-1074) (if Nat.pow 2 53 * scaledDen d e ≤ scaledNum n e then e + 1 else e)

/-- The magnitude nearest to `n / d`; none when it lies beyond the largest. -/
def ofRatio? (n d : Nat) : Option Magnitude :=
  if n = 0 then some zero
  else
    let e := exponentOf n d
    let m := nearest (scaledNum n e) (scaledDen d e)
    if m = Nat.pow 2 53 then ofParts? (Nat.pow 2 52) (e + 1) else ofParts? m e

end Magnitude

/-- A double-precision number; there is one NaN. -/
inductive Binary64 where
  | nan
  | infinite (negative : Bool)
  | finite (negative : Bool) (magnitude : Magnitude)
deriving DecidableEq

namespace Binary64

/-- An integer of this sign and absolute value. -/
def signed (negative : Bool) (n : Nat) : Int := if negative then -n else n

def isFinite : Binary64 → Bool
  | finite .. => true
  | _ => false

/-- Either zero. -/
def isZero : Binary64 → Bool
  | finite _ x => x.significand == 0
  | _ => false

instance : Zero Binary64 := ⟨finite false .zero⟩

instance : Inhabited Binary64 := ⟨0⟩

/-- The double nearest to `± n / d`. -/
def ofRatio (negative : Bool) (n d : Nat) : Binary64 :=
  match Magnitude.ofRatio? n d with
  | some x => finite negative x
  | none => infinite negative

/-- The double nearest to `± n * 2 ^ e`. -/
def ofScaled (negative : Bool) (n : Nat) (e : Int) : Binary64 :=
  ofRatio negative (n * Nat.pow 2 e.toNat) (Nat.pow 2 (-e).toNat)

/-- The double nearest to `± c * 10 ^ q`. An exponent that settles the answer is not raised to. -/
def ofDecimal (negative : Bool) (c : Nat) (q : Int) : Binary64 :=
  if c = 0 then finite negative .zero
  else if 400 < q then infinite negative
  else if q + (c.log2 / 3 + 1) < -400 then finite negative .zero
  else ofRatio negative (c * Nat.pow 10 q.toNat) (Nat.pow 10 (-q).toNat)

/-- The double nearest to an integer. -/
def ofInt (n : Int) : Binary64 := ofRatio (n < 0) n.natAbs 1

instance : IntCast Binary64 := ⟨ofInt⟩

/-- The double nearest to an integer; none when the integer lies beyond the largest. -/
def ofInt? (n : Int) : Option Binary64 := if (ofInt n).isFinite then some (ofInt n) else none

instance : OfScientific Binary64 :=
  ⟨fun c negativeExponent q => ofDecimal false c (if negativeExponent then -(q : Int) else q)⟩

/-- A finite number as an integer count of `2 ^ g`, for a `g` not above its exponent. -/
def units (negative : Bool) (x : Magnitude) (g : Int) : Int :=
  signed negative (x.significand * Nat.pow 2 (x.exponent - g).toNat)

def neg : Binary64 → Binary64
  | nan => nan
  | infinite s => infinite !s
  | finite s x => finite (!s) x

/-- A sum of exactly zero is positive unless both terms are negative. -/
def add : Binary64 → Binary64 → Binary64
  | nan, _ | _, nan => nan
  | infinite s, infinite t => if s = t then infinite s else nan
  | infinite s, finite .. => infinite s
  | finite .., infinite t => infinite t
  | finite s x, finite t y =>
    let g := min x.exponent y.exponent
    let total := units s x g + units t y g
    if total = 0 then finite (s && t) .zero else ofScaled (total < 0) total.natAbs g

def mul : Binary64 → Binary64 → Binary64
  | nan, _ | _, nan => nan
  | infinite s, infinite t => infinite (s != t)
  | infinite s, finite t y => if y.significand = 0 then nan else infinite (s != t)
  | finite s x, infinite t => if x.significand = 0 then nan else infinite (s != t)
  | finite s x, finite t y =>
    ofScaled (s != t) (x.significand * y.significand) (x.exponent + y.exponent)

/-- A quotient by zero is infinite, or NaN for zero by zero. -/
def div : Binary64 → Binary64 → Binary64
  | nan, _ | _, nan => nan
  | infinite _, infinite _ => nan
  | infinite s, finite t _ => infinite (s != t)
  | finite s _, infinite t => finite (s != t) .zero
  | finite s x, finite t y =>
    if y.significand = 0 then if x.significand = 0 then nan else infinite (s != t)
    else
      let e := x.exponent - y.exponent
      ofRatio (s != t) (x.significand * Nat.pow 2 e.toNat) (y.significand * Nat.pow 2 (-e).toNat)

instance : Neg Binary64 := ⟨neg⟩
instance : Add Binary64 := ⟨add⟩
instance : Sub Binary64 := ⟨fun x y => x + -y⟩
instance : Mul Binary64 := ⟨mul⟩
instance : Div Binary64 := ⟨div⟩

/-- Order by value: NaN is related to nothing, and the two zeros are equal. -/
def ble : Binary64 → Binary64 → Bool
  | nan, _ | _, nan => false
  | infinite true, _ | _, infinite false => true
  | infinite false, _ | _, infinite true => false
  | finite s x, finite t y =>
    let g := min x.exponent y.exponent
    decide (units s x g ≤ units t y g)

def blt : Binary64 → Binary64 → Bool
  | nan, _ | _, nan => false
  | x, y => !ble y x

instance : LE Binary64 := ⟨fun x y => ble x y = true⟩
instance : LT Binary64 := ⟨fun x y => blt x y = true⟩
instance : DecidableLE Binary64 := fun x y => inferInstanceAs (Decidable (ble x y = true))
instance : DecidableLT Binary64 := fun x y => inferInstanceAs (Decidable (blt x y = true))

/-- Equality of value: NaN differs from itself, and the two zeros are equal. -/
def numEq (x y : Binary64) : Bool := x ≤ y && y ≤ x

/-- The number itself, but zero for the negative zero: numbers of one value become one number. -/
def foldZero (x : Binary64) : Binary64 := if x.isZero then 0 else x

/-- The exact value of a finite number without a fractional part. -/
def toInt? : Binary64 → Option Int
  | finite s x =>
    let whole := x.significand * Nat.pow 2 x.exponent.toNat
    let unit := Nat.pow 2 (-x.exponent).toNat
    if whole % unit = 0 then some (signed s (whole / unit)) else none
  | _ => none

end Binary64

end Flipbook
