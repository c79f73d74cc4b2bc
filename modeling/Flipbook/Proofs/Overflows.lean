import Mathlib
import Flipbook.Proofs.Numerals
import Flipbook.Proofs.Ordering

/-!
Integers and the largest double. Rounding refuses a ratio exactly if it is half a step or more
beyond the largest double; so an integer has a nearest double unless its size is that large, and
only zero has a nearest double that is zero.
-/
namespace Flipbook.Magnitude

variable {n d k : Nat} {e : Int}

theorem nearest_le (h : n < k * d) : nearest n d ≤ k := by
  have hlt : n / d < k := Nat.div_lt_of_lt_mul (by rwa [mul_comm])
  rcases nearest_eq_or n d with hnear | hnear <;> omega

theorem le_nearest (hd : 0 < d) (h : k * d ≤ n) : k ≤ nearest n d := by
  have hle : k ≤ n / d := (Nat.le_div_iff_mul_le hd).mpr h
  rcases nearest_eq_or n d with hnear | hnear <;> omega

/-- A ratio below an even number rounds to it from half a step before it on. -/
theorem nearest_eq_iff (hk : k % 2 = 0) (h : n < k * d) :
    nearest n d = k ↔ (2 * k - 1) * d ≤ 2 * n := by
  have hd : 0 < d := Nat.pos_of_mul_pos_left (Nat.zero_lt_of_lt h)
  have hdiv := Nat.div_add_mod n d
  have hmod := Nat.mod_lt n hd
  have hlt : n / d < k := Nat.div_lt_of_lt_mul (by rwa [mul_comm])
  unfold nearest
  generalize n / d = q at *
  generalize n % d = r at *
  rcases Nat.lt_or_ge (q + 1) k with hfar | hnear
  · -- Two steps away it is out of reach.
    have hbound : (2 * q + 3) * d ≤ (2 * k - 1) * d := Nat.mul_le_mul_right d (by omega)
    have hexpand : (2 * q + 3) * d = 2 * (d * q) + 3 * d := by ring
    refine iff_of_false ?_ (by omega)
    split_ifs <;> omega
  · obtain rfl : k = q + 1 := by omega
    have hexpand : (2 * (q + 1) - 1) * d = 2 * (d * q) + d := by
      rw [show 2 * (q + 1) - 1 = 2 * q + 1 by omega]
      ring
    rw [hexpand]
    split_ifs <;> omega

theorem isSome_ofParts?_iff {m : Nat} : (ofParts? m e).isSome = true ↔
    m < 2 ^ 53 ∧ -1074 ≤ e ∧ e ≤ 971 ∧ (2 ^ 52 ≤ m ∨ e = -1074) := by
  unfold ofParts?
  simp only [Nat.pow_eq]
  split
  next h => exact iff_of_true rfl h
  next h => exact iff_of_false (by simp) h

/-- A bound on a ratio in steps of an exponent, as its scaled terms show it. -/
theorem scaledNum_lt_iff (hd : 0 < d) (n k : Nat) (e : Int) :
    scaledNum n e < k * scaledDen d e ↔ (n : ℚ) / d < k * 2 ^ e := by
  have hden : (0 : ℚ) < scaledDen d e := by exact_mod_cast scaledDen_pos hd e
  rw [← Nat.cast_lt (α := ℚ), Nat.cast_mul, ← div_lt_iff₀ hden, scaledNum_div_scaledDen,
    div_lt_iff₀ (by positivity)]

/-- The exponent of a ratio leaves it fifty-three bits, and no fewer above the lowest exponent. -/
theorem exponentOf_bounds (hn : 0 < n) (hd : 0 < d) (he : exponentOf n d = e) :
    (n : ℚ) / d < 2 ^ 53 * 2 ^ e ∧ (e ≠ -1074 → (2 : ℚ) ^ 52 * 2 ^ e ≤ n / d) := by
  have hq : (0 : ℚ) < n / d := by positivity
  rw [exponentOf_eq hn hd] at he
  constructor
  · have hlt : (n : ℚ) / d < 2 ^ (53 + e) :=
      (Int.lt_zpow_iff_log_lt (b := 2) (by norm_num) hq).mpr (by omega)
    rw [zpow_add₀ two_ne_zero] at hlt
    exact_mod_cast hlt
  · intro hlow
    have hle : (2 : ℚ) ^ (52 + e) ≤ n / d :=
      (Int.zpow_le_iff_le_log (b := 2) (by norm_num) hq).mpr (by omega)
    rw [zpow_add₀ two_ne_zero] at hle
    exact_mod_cast hle

/-- A ratio is refused for its exponent, or at the highest one if it rounds to one bit more. -/
theorem isSome_ofRatio?_iff_exponent (hn : 0 < n) (hd : 0 < d) (he : exponentOf n d = e) :
    (ofRatio? n d).isSome = true ↔
      e < 971 ∨ e = 971 ∧ 2 * scaledNum n e < (2 ^ 54 - 1) * scaledDen d e := by
  obtain ⟨hlt, hle⟩ := exponentOf_bounds hn hd he
  have hhigh : scaledNum n e < 2 ^ 53 * scaledDen d e :=
    (scaledNum_lt_iff hd n (2 ^ 53) e).mpr (by exact_mod_cast hlt)
  have hlow : e ≠ -1074 → 2 ^ 52 * scaledDen d e ≤ scaledNum n e := by
    intro hne
    rw [← not_lt, scaledNum_lt_iff hd, not_lt]
    exact_mod_cast hle hne
  have hmost := nearest_le hhigh
  have hleast : e ≠ -1074 → 2 ^ 52 ≤ nearest (scaledNum n e) (scaledDen d e) :=
    fun hne => le_nearest (scaledDen_pos hd e) (hlow hne)
  have hlowest : -1074 ≤ e := he ▸ le_max_left ..
  have hround := nearest_eq_iff (by norm_num) hhigh
  unfold ofRatio?
  rw [if_neg hn.ne', he]
  simp only [Nat.pow_eq]
  split
  next hm =>
    have hhalf := hround.mp hm
    rw [isSome_ofParts?_iff]
    omega
  next hm =>
    have hhalf := mt hround.mpr hm
    rw [isSome_ofParts?_iff]
    omega

/-- At the highest exponent, half a step below one bit more is half a step beyond the largest
double. -/
theorem scaledNum_highest_lt_iff (n : Nat) (hd : 0 < d) :
    2 * scaledNum n 971 < (2 ^ 54 - 1) * scaledDen d 971 ↔
      (n : ℚ) / d < (2 ^ 54 - 1) * 2 ^ 970 := by
  have hdouble : 2 * scaledNum n 971 = scaledNum (2 * n) 971 := by
    unfold scaledNum
    ring
  have hpow : (2 : ℚ) ^ (971 : Int) = 2 * 2 ^ 970 := by
    rw [zpow_ofNat, pow_succ']
  have hcast : ((2 ^ 54 - 1 : Nat) : ℚ) = 2 ^ 54 - 1 := by norm_num
  rw [hdouble, scaledNum_lt_iff hd, hpow, hcast, Nat.cast_mul, Nat.cast_two, mul_div_assoc,
    mul_left_comm, mul_lt_mul_iff_right₀ two_pos]

/-- A ratio has a nearest double exactly if it is less than half a step beyond the largest one. -/
theorem isSome_ofRatio?_iff (n : Nat) (hd : 0 < d) :
    (ofRatio? n d).isSome = true ↔ (n : ℚ) / d < (2 ^ 54 - 1) * 2 ^ 970 := by
  rcases Nat.eq_zero_or_pos n with rfl | hn
  · refine iff_of_true rfl ?_
    rw [Nat.cast_zero, zero_div]
    positivity
  · obtain ⟨e, he⟩ : ∃ e, exponentOf n d = e := ⟨_, rfl⟩
    obtain ⟨hlt, hle⟩ := exponentOf_bounds hn hd he
    rw [isSome_ofRatio?_iff_exponent hn hd he]
    rcases lt_trichotomy e 971 with hless | rfl | hmore
    · refine iff_of_true (.inl hless) (hlt.trans_le ?_)
      calc (2 : ℚ) ^ 53 * 2 ^ e ≤ 2 ^ 53 * 2 ^ (970 : Int) :=
            mul_le_mul_of_nonneg_left (zpow_le_zpow_right₀ one_le_two (by omega)) (by positivity)
        _ = 2 ^ 53 * 2 ^ 970 := by rw [zpow_ofNat]
        _ ≤ (2 ^ 54 - 1) * 2 ^ 970 := mul_le_mul_of_nonneg_right (by norm_num) (by positivity)
    · rw [scaledNum_highest_lt_iff n hd]
      simp
    · refine iff_of_false (by omega) (not_lt.mpr (le_trans ?_ (hle (by omega))))
      calc ((2 : ℚ) ^ 54 - 1) * 2 ^ 970 ≤ 2 ^ 54 * 2 ^ 970 :=
            mul_le_mul_of_nonneg_right (by norm_num) (by positivity)
        _ = 2 ^ 52 * 2 ^ (972 : Int) := by rw [zpow_ofNat, ← pow_add, ← pow_add]
        _ ≤ 2 ^ 52 * 2 ^ e :=
            mul_le_mul_of_nonneg_left (zpow_le_zpow_right₀ one_le_two (by omega)) (by positivity)

end Flipbook.Magnitude

namespace Flipbook.Binary64

open Magnitude

variable {n : Int}

/-- Whether an integer is less than half a step beyond the largest double. -/
structure Reaches (n : Int) : Prop where
  lt : n.natAbs < (2 ^ 54 - 1) * 2 ^ 970

theorem reaches_iff (n : Int) : Reaches n ↔ n.natAbs < (2 ^ 54 - 1) * 2 ^ 970 :=
  ⟨Reaches.lt, Reaches.mk⟩

instance : DecidablePred Reaches := fun n => decidable_of_iff _ (reaches_iff n).symm

theorem isFinite_ofInt_iff (n : Int) : (ofInt n).isFinite = true ↔ Reaches n := by
  have hsome : (ofInt n).isFinite = (ofRatio? n.natAbs 1).isSome := by
    unfold ofInt ofRatio
    cases ofRatio? n.natAbs 1 <;> rfl
  have hcast : ((2 ^ 54 - 1 : Nat) : ℚ) = 2 ^ 54 - 1 := by norm_num
  rw [hsome, isSome_ofRatio?_iff _ Nat.one_pos, Nat.cast_one, div_one, reaches_iff,
    ← Nat.cast_lt (α := ℚ), Nat.cast_mul, hcast, Nat.cast_pow, Nat.cast_two]

theorem ofInt?_of_reaches (h : Reaches n) : ofInt? n = some (n : Binary64) :=
  if_pos ((isFinite_ofInt_iff n).mpr h)

theorem ofInt?_of_not_reaches (h : ¬ Reaches n) : ofInt? n = none :=
  if_neg (mt (isFinite_ofInt_iff n).mp h)

example : ofInt? 1000000 = some 1000000.0 ∧ ofInt? (10 ^ 400) = none := by decide +kernel

theorem reaches_of_le {m : Int} (hn : 0 ≤ n) (hle : n ≤ m) (h : Reaches m) : Reaches n :=
  ⟨lt_of_le_of_lt (by omega) h.lt⟩

theorem isZero_infinite (s : Bool) : Scalar.isZero (infinite s) = false := by cases s <;> rfl

theorem isZero_finite_iff {s : Bool} {x : Magnitude} :
    Scalar.isZero (finite s x) = true ↔ x.significand = 0 := by
  have hzero : (finite false .zero).toRat = 0 := by simp [toRat, Magnitude.zero]
  have hvalue : (finite s x).toRat = 0 ↔ x.significand = 0 := by
    have hpow : (2 : ℚ) ^ x.exponent ≠ 0 := zpow_ne_zero _ two_ne_zero
    cases s <;> simp [toRat, hpow]
  simp only [Scalar.isZero, Bool.and_eq_true, decide_eq_true_eq]
  change finite s x ≤ finite false .zero ∧ finite false .zero ≤ finite s x ↔ _
  rw [finite_le_iff, finite_le_iff, hzero, ← le_antisymm_iff, hvalue]

theorem isZero_ofInt (hn : n ≠ 0) : Scalar.isZero (n : Binary64) = false := by
  change Scalar.isZero (ofRatio (n < 0) n.natAbs 1) = false
  unfold ofRatio
  cases hround : ofRatio? n.natAbs 1 with
  | none => exact isZero_infinite _
  | some x =>
    rw [Bool.eq_false_iff, ne_eq, isZero_finite_iff]
    exact significand_ofRatio? (Int.natAbs_pos.mpr hn) hround

end Flipbook.Binary64

namespace Flipbook.Numeral

/-- An integer that has a text reads back from it. -/
theorem readInt?_integerText? {n : Int} {s : String} (h : integerText? n = some s) :
    readInt? s = some n := by
  by_cases hn : Binary64.Reaches n
  · rw [integerText?, Binary64.ofInt?_of_reaches hn, Option.map_some, Option.some.injEq] at h
    subst h
    have hdigits : (2 ^ 54 - 1) * 2 ^ 970 < 10 ^ maxDigits := by decide +kernel
    exact readInt?_toString (hn.lt.trans hdigits)
  · rw [integerText?, Binary64.ofInt?_of_not_reaches hn] at h
    cases h

end Flipbook.Numeral
