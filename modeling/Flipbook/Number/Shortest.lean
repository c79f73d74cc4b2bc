import Flipbook.Number.Binary64

/-!
The shortest decimal of a double: on the coarsest power-of-ten grid where one of the two
neighbours of the value reads back as the value, that neighbour, or the nearer one of both.
-/
namespace Flipbook.Magnitude

/-- The numerator of `x / 10 ^ q` over the denominator `gridDen x q`. -/
def gridNum (x : Magnitude) (q : Int) : Nat :=
  x.significand * Nat.pow 2 x.exponent.toNat * Nat.pow 10 (-q).toNat

def gridDen (x : Magnitude) (q : Int) : Nat := Nat.pow 2 (-x.exponent).toNat * Nat.pow 10 q.toNat

/-- Whether `c * 10 ^ q` is nearer to `x` than to any other double. -/
def readsBack (x : Magnitude) (c : Nat) (q : Int) : Bool :=
  Binary64.ofDecimal false c q == .finite false x

/-- The multiple of `10 ^ q` that stands for `x`, if the grid is fine enough for one. -/
def onGrid? (x : Magnitude) (q : Int) : Option Nat :=
  let c := gridNum x q / gridDen x q
  match readsBack x c q, readsBack x (c + 1) q with
  | true, true => some (nearest (gridNum x q) (gridDen x q))
  | true, false => some c
  | false, true => some (c + 1)
  | false, false => none

/-- A power of ten that no shorter decimal of `x` needs to exceed: `1233 / 4096` is just below the
decimal logarithm of two. -/
def topGrid (x : Magnitude) : Int := (x.significand.log2 + x.exponent) * 1233 / 4096 + 1

/-- The coefficient and the exponent of ten of `x` itself. -/
def exactDecimal (x : Magnitude) : Nat × Int :=
  (x.significand * Nat.pow 2 x.exponent.toNat * Nat.pow 5 (-x.exponent).toNat, min x.exponent 0)

/-- The coefficient and the exponent of ten of the shortest decimal that reads back as `x`.
Seventeen digits always suffice, so the exact value is never needed; it makes reading back hold by
itself. -/
def shortest (x : Magnitude) : Nat × Int :=
  if x.significand = 0 then (0, 0)
  else
    let found := (List.range 20).findSome? fun (k : Nat) =>
      (x.onGrid? (x.topGrid - k)).map fun c => (c, x.topGrid - k)
    found.getD x.exactDecimal

end Flipbook.Magnitude
