import Flipbook.Number.Binary64

/-!
The arithmetic that pictures are laid out in. A program runs it on doubles; on the rationals the
same definitions are exact geometry.
-/
namespace Flipbook

/-- Numbers with the operations of layout. Division by zero gives some number or other. -/
class Scalar (α : Type) extends Zero α, Add α, Sub α, Mul α, Div α, IntCast α, OfScientific α,
    LE α, LT α where
  decidableLE : DecidableLE α
  decidableLT : DecidableLT α

attribute [reducible, instance] Scalar.decidableLE Scalar.decidableLT

instance : Scalar Binary64 where
  decidableLE := inferInstance
  decidableLT := inferInstance

namespace Scalar

variable {α : Type} [Scalar α]

/-- Zero of either sign. -/
def isZero (x : α) : Bool := x ≤ 0 && 0 ≤ x

/-- The lesser of two numbers, the first when neither is. -/
def least (x y : α) : α := if y < x then y else x

/-- The greater of two numbers, the first when neither is. -/
def greatest (x y : α) : α := if x < y then y else x

end Scalar

end Flipbook
