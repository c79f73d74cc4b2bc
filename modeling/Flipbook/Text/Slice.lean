/-!
Parts of lists between two indices. A negative index counts from the end, and one beyond either end
means that end. On natural numbers a slice is `drop` and `take`.
-/
namespace Flipbook.Text
variable {β : Type}

/-- The place in a list of `length` members that an index means. -/
def place (length : Nat) (i : Int) : Nat :=
  if i < 0 then length - i.natAbs else i.toNat

/-- The members of a list from one index up to another. -/
def slice (first last : Int) (xs : List β) : List β :=
  let start := place xs.length first
  (xs.drop start).take (place xs.length last - start)

/-- The first `n` members of a list; if `n` is negative, all but the last `-n`. -/
def upTo (n : Int) (xs : List β) : List β := xs.take (place xs.length n)

theorem place_natCast (length n : Nat) : place length n = n := by
  have h : ¬ (n : Int) < 0 := by omega
  simp [place, h]

theorem slice_natCast (i n : Nat) (xs : List β) :
    slice i (i + n : Int) xs = (xs.drop i).take n := by
  simp only [slice, ← Int.natCast_add, place_natCast, Nat.add_sub_cancel_left]

theorem upTo_natCast (n : Nat) (xs : List β) : upTo n xs = xs.take n := by
  rw [upTo, place_natCast]

end Flipbook.Text
