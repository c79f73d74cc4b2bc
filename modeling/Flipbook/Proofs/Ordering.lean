import Mathlib
import Flipbook.Number.Exact
import Flipbook.Proofs.Rounding

/-!
The order of doubles. But for NaN, doubles stand in the order of their values, which are rationals
and the two infinities; and an integer from one on is a positive double.
-/
namespace Flipbook.Magnitude

variable {m n : Nat} {e : Int} {x : Magnitude}

theorem ofParts?_some (h : ofParts? m e = some x) : x.significand = m ∧ x.exponent = e := by
  unfold ofParts? at h
  split at h
  · obtain rfl := Option.some.inj h
    exact ⟨rfl, rfl⟩
  · cases h

/-- A natural number keeps enough bits not to be rounded to zero. -/
theorem significand_ofRatio? (hn : 0 < n) (h : ofRatio? n 1 = some x) : x.significand ≠ 0 := by
  have hexp : -52 ≤ exponentOf n 1 := by
    rw [exponentOf_eq hn Nat.one_pos, Nat.cast_one, div_one, Int.log_natCast]
    omega
  have hx : exponentOf n 1 ≤ x.exponent := by
    unfold ofRatio? at h
    rw [if_neg hn.ne'] at h
    dsimp only at h
    split at h
    · rw [(ofParts?_some h).2]
      omega
    · rw [(ofParts?_some h).2]
  intro hzero
  rcases x.normal with hnormal | hlowest
  · rw [hzero, Nat.pow_eq] at hnormal
    omega
  · omega

end Flipbook.Magnitude

namespace Flipbook.Binary64

open Magnitude

variable {x y : Magnitude} {s t : Bool} {a b : Binary64} {n g : Int}

/-! ## Finite numbers -/

theorem signed_cast (negative : Bool) (n : Nat) :
    (signed negative n : ℚ) = (if negative then -1 else 1) * n := by
  cases negative <;> simp [signed]

/-- A count of units is the value in these units. -/
theorem units_mul (s : Bool) (hg : g ≤ x.exponent) :
    (units s x g : ℚ) * 2 ^ g = (finite s x).toRat := by
  have hexp : x.exponent = ((x.exponent - g).toNat : Int) + g := by omega
  have hpow : (2 : ℚ) ^ x.exponent = 2 ^ (x.exponent - g).toNat * 2 ^ g := by
    conv_lhs => rw [hexp, zpow_add₀ two_ne_zero, zpow_natCast]
  rw [units, signed_cast, Nat.pow_eq, toRat, hpow]
  push_cast
  ring

theorem finite_le_iff : finite s x ≤ finite t y ↔ (finite s x).toRat ≤ (finite t y).toRat := by
  -- Both numbers are counted in units of the lower exponent.
  set g := min x.exponent y.exponent
  have hpos : (0 : ℚ) < 2 ^ g := by positivity
  have hle : finite s x ≤ finite t y ↔ units s x g ≤ units t y g := by
    change decide _ = true ↔ _
    rw [decide_eq_true_eq]
  rw [hle, ← units_mul s (min_le_left x.exponent y.exponent),
    ← units_mul t (min_le_right x.exponent y.exponent), mul_le_mul_iff_left₀ hpos, Int.cast_le]

/-! ## All numbers but NaN -/

/-- The value of a number, an infinity included. NaN has none and counts as zero here. -/
noncomputable def toEReal : Binary64 → EReal
  | nan => 0
  | infinite true => ⊥
  | infinite false => ⊤
  | finite s x => (((finite s x).toRat : ℝ) : EReal)

theorem toEReal_finite (s : Bool) (x : Magnitude) :
    (finite s x).toEReal = (((finite s x).toRat : ℝ) : EReal) := rfl

theorem le_iff_toEReal (ha : a ≠ nan) (hb : b ≠ nan) : a ≤ b ↔ a.toEReal ≤ b.toEReal := by
  change ble a b = true ↔ _
  cases a with
  | nan => exact absurd rfl ha
  | infinite s =>
    cases b with
    | nan => exact absurd rfl hb
    | infinite t => cases s <;> cases t <;> simp [ble, toEReal]
    | finite t y => cases s <;> simp [ble, toEReal]
  | finite s x =>
    cases b with
    | nan => exact absurd rfl hb
    | infinite t => cases t <;> simp [ble, toEReal]
    | finite t y =>
      rw [toEReal_finite, toEReal_finite, EReal.coe_le_coe_iff, Rat.cast_le, ← finite_le_iff]
      exact Iff.rfl

theorem not_le_iff_toEReal (ha : a ≠ nan) (hb : b ≠ nan) : ¬ a ≤ b ↔ b.toEReal < a.toEReal := by
  rw [le_iff_toEReal ha hb, not_le]

theorem ne_nan_of_isFinite (h : a.isFinite = true) : a ≠ nan := by
  rintro rfl
  cases h

theorem ne_nan_of_pos (h : 0 < a) : a ≠ nan := by
  rintro rfl
  cases h

theorem toEReal_zero : (0 : Binary64).toEReal = 0 := by
  have hvalue : (finite false .zero).toRat = 0 := by simp [toRat, Magnitude.zero]
  change (finite false .zero).toEReal = 0
  rw [toEReal_finite, hvalue, Rat.cast_zero, EReal.coe_zero]

theorem lt_iff_toEReal (ha : a ≠ nan) (hb : b ≠ nan) : a < b ↔ a.toEReal < b.toEReal := by
  have hflip : blt a b = !ble b a := by
    cases a with
    | nan => exact absurd rfl ha
    | _ =>
      cases b with
      | nan => exact absurd rfl hb
      | _ => rfl
  rw [← not_le_iff_toEReal hb ha]
  change blt a b = true ↔ ¬ ble b a = true
  rw [hflip, Bool.not_eq_true', Bool.not_eq_true]

theorem pos_iff_toEReal (ha : a ≠ nan) : 0 < a ↔ 0 < a.toEReal := by
  have hzero : (0 : Binary64) ≠ nan := by decide
  rw [lt_iff_toEReal hzero ha, toEReal_zero]

/-! ## Whole numbers of parts -/

theorem isZero_of_pos (h : 0 < a) : Scalar.isZero a = false := by
  have hle : ¬ a ≤ 0 := not_le_of_lt h
  simp [Scalar.isZero, hle]

theorem ofInt_pos (hn : 1 ≤ n) : 0 < ofInt n := by
  have hsign : decide (n < 0) = false := by simp; omega
  unfold ofInt ofRatio
  rw [hsign]
  cases h : ofRatio? n.natAbs 1 with
  | none => rfl
  | some x =>
    have hx := significand_ofRatio? (by omega) h
    have hvalue : 0 < (finite false x).toRat := by
      have hpos : (0 : ℚ) < x.significand := by exact_mod_cast Nat.pos_of_ne_zero hx
      simp only [toRat, Bool.false_eq_true, if_false, one_mul]
      positivity
    rw [pos_iff_toEReal (by simp), toEReal_finite]
    exact_mod_cast hvalue

end Flipbook.Binary64
