import Mathlib
import Flipbook.Number.Shortest

/-!
Rounding a ratio looks at its value only, and gives back every value that a double holds. So a
decimal that denotes a double reads as that double.
-/
namespace Flipbook.Magnitude

variable {n d n' d' k : Nat} {e : Int} {x y : Magnitude}

theorem scaledNum_div_scaledDen (n d : Nat) (e : Int) :
    (scaledNum n e : ℚ) / scaledDen d e = n / d / 2 ^ e := by
  unfold scaledNum scaledDen
  rw [Nat.pow_eq, Nat.pow_eq]
  obtain ⟨k, rfl | rfl⟩ := e.eq_nat_or_neg
  · have hneg : (-(k : Int)).toNat = 0 := by omega
    rw [hneg, Int.toNat_natCast, zpow_natCast]
    push_cast
    rw [mul_one, div_div]
  · have hneg : (- -(k : Int)).toNat = k := by omega
    have hpos : (-(k : Int)).toNat = 0 := by omega
    rw [hneg, hpos, zpow_neg, zpow_natCast]
    push_cast
    rw [mul_one, div_inv_eq_mul, div_mul_eq_mul_div]

theorem scaledDen_pos (hd : 0 < d) (e : Int) : 0 < scaledDen d e := by
  unfold scaledDen
  rw [Nat.pow_eq]
  positivity

/-- The binary logarithm of a ratio, from those of its terms. -/
theorem log_eq {q : ℚ} (h : 2 ^ e ≤ q) (h' : q < 2 ^ (e + 1)) : Int.log 2 q = e := by
  have hq : 0 < q := lt_of_lt_of_le (by positivity) h
  have hle : e ≤ Int.log 2 q := (Int.zpow_le_iff_le_log (b := 2) (by norm_num) hq).mp h
  have hlt : Int.log 2 q < e + 1 := (Int.lt_zpow_iff_log_lt (b := 2) (by norm_num) hq).mp h'
  omega

/-- A number is between two powers of two that follow each other. -/
theorem zpow_log2_bounds (hn : 0 < n) :
    (2 : ℚ) ^ (n.log2 : Int) ≤ n ∧ (n : ℚ) < 2 ^ ((n.log2 : Int) + 1) := by
  constructor
  · rw [zpow_natCast]
    exact_mod_cast Nat.log2_self_le hn.ne'
  · exact_mod_cast Nat.lt_log2_self (n := n)

/-- The logarithm of a quotient is the difference of the logarithms, or one less. -/
theorem log_div_bounds (hn : 0 < n) (hd : 0 < d) :
    (2 : ℚ) ^ ((n.log2 : Int) - d.log2 - 1) ≤ n / d ∧
      (n : ℚ) / d < 2 ^ ((n.log2 : Int) - d.log2 + 1) := by
  obtain ⟨hn₁, hn₂⟩ := zpow_log2_bounds hn
  obtain ⟨hd₁, hd₂⟩ := zpow_log2_bounds hd
  have hpos : (0 : ℚ) < d := by exact_mod_cast hd
  have htwo : (2 : ℚ) ≠ 0 := two_ne_zero
  constructor
  · rw [le_div_iff₀ hpos]
    calc (2 : ℚ) ^ ((n.log2 : Int) - d.log2 - 1) * d
        ≤ 2 ^ ((n.log2 : Int) - d.log2 - 1) * 2 ^ ((d.log2 : Int) + 1) :=
          mul_le_mul_of_nonneg_left hd₂.le (by positivity)
      _ = 2 ^ (n.log2 : Int) := by
          rw [← zpow_add₀ htwo]
          congr 1
          omega
      _ ≤ n := hn₁
  · rw [div_lt_iff₀ hpos]
    calc (n : ℚ) < 2 ^ ((n.log2 : Int) + 1) := hn₂
      _ = 2 ^ ((n.log2 : Int) - d.log2 + 1) * 2 ^ (d.log2 : Int) := by
          rw [← zpow_add₀ htwo]
          congr 1
          omega
      _ ≤ 2 ^ ((n.log2 : Int) - d.log2 + 1) * d :=
          mul_le_mul_of_nonneg_left hd₁ (by positivity)

/-- The two numbers that are compared for an exponent are in the proportion of the quotient. -/
theorem scaled_le_iff (hd : 0 < d) (e : Int) :
    Nat.pow 2 53 * scaledDen d e ≤ scaledNum n e ↔ (2 : ℚ) ^ (e + 53) ≤ n / d := by
  have hden : (0 : ℚ) < scaledDen d e := by exact_mod_cast scaledDen_pos hd e
  have hexp : (2 : ℚ) ^ (e + 53) = 2 ^ 53 * 2 ^ e := by
    rw [add_comm, zpow_add₀ two_ne_zero]
    rfl
  rw [Nat.pow_eq, ← Nat.cast_le (α := ℚ), Nat.cast_mul, ← le_div_iff₀ hden,
    scaledNum_div_scaledDen, le_div_iff₀ (by positivity), hexp]
  push_cast
  rfl

theorem exponentOf_eq (hn : 0 < n) (hd : 0 < d) :
    exponentOf n d = max (-1074) (Int.log 2 ((n : ℚ) / d) - 52) := by
  obtain ⟨hlow, hhigh⟩ := log_div_bounds hn hd
  obtain ⟨e, he⟩ : ∃ e : Int, e = n.log2 - d.log2 - 53 := ⟨_, rfl⟩
  have htest := scaled_le_iff (n := n) hd e
  have hunfold : exponentOf n d =
      max (-1074) (if Nat.pow 2 53 * scaledDen d e ≤ scaledNum n e then e + 1 else e) := he ▸ rfl
  have hexp : e + 53 = n.log2 - d.log2 := by omega
  rw [hexp] at htest
  rw [hunfold]
  split
  next h =>
    rw [log_eq (htest.mp h) hhigh]
    omega
  next h =>
    have hless : (n : ℚ) / d < 2 ^ ((n.log2 : Int) - d.log2 - 1 + 1) := by
      rw [sub_add_cancel]
      exact not_le.mp (mt htest.mpr h)
    rw [log_eq hlow hless]
    omega

theorem nearest_eq_or (n d : Nat) : nearest n d = n / d ∨ nearest n d = n / d + 1 := by
  unfold nearest
  split
  · exact .inl rfl
  · split
    · exact .inr rfl
    · omega

theorem nearest_mul (hk : 0 < k) (n d : Nat) : nearest (n * k) (d * k) = nearest n d := by
  unfold nearest
  have hlt : 2 * (n * k % (d * k)) < d * k ↔ 2 * (n % d) < d := by
    rw [Nat.mul_mod_mul_right, ← mul_assoc, Nat.mul_lt_mul_right hk]
  have hgt : d * k < 2 * (n * k % (d * k)) ↔ d < 2 * (n % d) := by
    rw [Nat.mul_mod_mul_right, ← mul_assoc, Nat.mul_lt_mul_right hk]
  simp only [hlt, hgt, Nat.mul_div_mul_right n d hk]

theorem nearest_mul_self (hd : 0 < d) (m : Nat) : nearest (m * d) d = m := by
  unfold nearest
  rw [Nat.mul_mod_left, Nat.mul_div_cancel m hd, if_pos (by omega)]

/-- Rounding to a natural number looks at the value of the ratio only. -/
theorem nearest_congr (hd : 0 < d) (hd' : 0 < d') (h : (n : ℚ) / d = n' / d') :
    nearest n d = nearest n' d' := by
  have hcross : n * d' = n' * d := by
    have hdq : (d : ℚ) ≠ 0 := by exact_mod_cast hd.ne'
    have hdq' : (d' : ℚ) ≠ 0 := by exact_mod_cast hd'.ne'
    rw [div_eq_div_iff hdq hdq'] at h
    exact_mod_cast h
  rw [← nearest_mul hd' n d, hcross, mul_comm d d', nearest_mul hd]

/-- Rounding to a double looks at the value of the ratio only. -/
theorem ofRatio?_congr (hn : 0 < n) (hd : 0 < d) (hn' : 0 < n') (hd' : 0 < d')
    (h : (n : ℚ) / d = n' / d') : ofRatio? n d = ofRatio? n' d' := by
  have hexp : exponentOf n d = exponentOf n' d' := by
    rw [exponentOf_eq hn hd, exponentOf_eq hn' hd', h]
  have hnearest : nearest (scaledNum n (exponentOf n d)) (scaledDen d (exponentOf n d)) =
      nearest (scaledNum n' (exponentOf n' d')) (scaledDen d' (exponentOf n' d')) := by
    refine nearest_congr (scaledDen_pos hd _) (scaledDen_pos hd' _) ?_
    rw [scaledNum_div_scaledDen, scaledNum_div_scaledDen, h, hexp]
  rw [hexp] at hnearest
  unfold ofRatio?
  rw [if_neg hn.ne', if_neg hn'.ne']
  simp only [hexp, hnearest]

theorem ofParts?_self (x : Magnitude) : ofParts? x.significand x.exponent = some x := by
  unfold ofParts?
  rw [dif_pos ⟨x.significand_lt, x.le_exponent, x.exponent_le, x.normal⟩]

theorem eq_zero_of_significand (h : x.significand = 0) : x = zero := by
  have he : x.exponent = -1074 := by
    rcases x.normal with hn | hn
    · rw [h, Nat.pow_eq] at hn
      norm_num at hn
    · exact hn
  obtain ⟨m, e, h₁, h₂, h₃, h₄⟩ := x
  subst h he
  rfl

theorem exponentOf_of_value (hn : 0 < n) (hd : 0 < d)
    (h : (n : ℚ) / d = x.significand * 2 ^ x.exponent) : exponentOf n d = x.exponent := by
  have hlt : (x.significand : ℚ) < 2 ^ (53 : Int) := by
    have hx := x.significand_lt
    rw [Nat.pow_eq] at hx
    exact_mod_cast hx
  have hq : (0 : ℚ) < n / d := by positivity
  have hupper : (n : ℚ) / d < 2 ^ (53 + x.exponent) := by
    rw [h, zpow_add₀ two_ne_zero]
    exact mul_lt_mul_of_pos_right hlt (by positivity)
  rw [exponentOf_eq hn hd]
  rcases x.normal with hnormal | he
  · have hge : (2 : ℚ) ^ (52 : Int) ≤ x.significand := by
      rw [Nat.pow_eq] at hnormal
      exact_mod_cast hnormal
    have hlog : Int.log 2 ((n : ℚ) / d) = 52 + x.exponent := by
      refine log_eq ?_ (by rwa [show 52 + x.exponent + 1 = 53 + x.exponent by omega])
      rw [h, zpow_add₀ two_ne_zero]
      exact mul_le_mul_of_nonneg_right hge (by positivity)
    have hle := x.le_exponent
    rw [hlog]
    omega
  · have hlog : Int.log 2 ((n : ℚ) / d) < 53 + x.exponent :=
      (Int.lt_zpow_iff_log_lt (b := 2) (by norm_num) hq).mp hupper
    omega

/-- A ratio with the value of a double rounds to that double. -/
theorem ofRatio?_of_value (hd : 0 < d) (h : (n : ℚ) / d = x.significand * 2 ^ x.exponent) :
    ofRatio? n d = some x := by
  have hdq : (d : ℚ) ≠ 0 := by exact_mod_cast hd.ne'
  by_cases hm : x.significand = 0
  · have hn : n = 0 := by
      rw [hm, Nat.cast_zero, zero_mul, div_eq_zero_iff, or_iff_left hdq] at h
      exact_mod_cast h
    rw [hn, eq_zero_of_significand hm]
    rfl
  · have hn : n ≠ 0 := by
      rintro rfl
      rw [Nat.cast_zero, zero_div] at h
      have hpos : (0 : ℚ) < x.significand * 2 ^ x.exponent := by positivity
      exact hpos.ne h
    have hexp := exponentOf_of_value (Nat.pos_of_ne_zero hn) hd h
    have hnearest : nearest (scaledNum n x.exponent) (scaledDen d x.exponent) =
        x.significand := by
      rw [← nearest_mul_self Nat.one_pos x.significand, mul_one]
      refine nearest_congr (scaledDen_pos hd _) Nat.one_pos ?_
      rw [scaledNum_div_scaledDen, h, Nat.cast_one, div_one,
        mul_div_cancel_right₀ _ (zpow_ne_zero _ two_ne_zero)]
    unfold ofRatio?
    rw [if_neg hn]
    simp only [hexp, hnearest]
    rw [if_neg x.significand_lt.ne, ofParts?_self]

/-- Doubles of one value are one double. -/
theorem eq_of_value (h : (x.significand : ℚ) * 2 ^ x.exponent = y.significand * 2 ^ y.exponent) :
    x = y := by
  have hx : ∃ n d : Nat, 0 < d ∧ (n : ℚ) / d = x.significand * 2 ^ x.exponent := by
    obtain ⟨k, hk | hk⟩ := x.exponent.eq_nat_or_neg
    · exact ⟨x.significand * 2 ^ k, 1, Nat.one_pos, by simp [hk]⟩
    · exact ⟨x.significand, 2 ^ k, by positivity, by simp [hk, div_eq_mul_inv]⟩
  obtain ⟨n, d, hd, hnd⟩ := hx
  exact Option.some.inj ((ofRatio?_of_value hd hnd).symm.trans (ofRatio?_of_value hd (hnd.trans h)))

end Flipbook.Magnitude

namespace Flipbook.Binary64

open Magnitude

variable {c : Nat} {q n : Int} {x y : Magnitude} {negative s t : Bool} {a b : Binary64}

/-! ## Decimals -/

theorem ofRatio_eq (negative : Bool) {n d : Nat} (h : ofRatio? n d = some x) :
    ofRatio negative n d = finite negative x := by
  rw [ofRatio, h]

theorem ofRatio_false_iff {n d : Nat} : ofRatio false n d = finite false x ↔
    ofRatio? n d = some x := by
  unfold ofRatio
  cases ofRatio? n d <;> simp

/-- A decimal that neither overflows nor vanishes is rounded as a ratio. -/
theorem ofDecimal_eq_ofRatio (hc : c ≠ 0) (hq : q ≤ 400)
    (hlow : -400 ≤ q + ((c.log2 : Int) / 3 + 1)) : ofDecimal negative c q =
      ofRatio negative (c * Nat.pow 10 q.toNat) (Nat.pow 10 (-q).toNat) := by
  unfold ofDecimal
  rw [if_neg hc, if_neg (by omega), if_neg (by omega)]

theorem ofDecimal_zero (negative : Bool) (q : Int) :
    ofDecimal negative 0 q = finite negative .zero := rfl

/-- The sign of a decimal is the sign of what it rounds to. -/
theorem ofDecimal_sign (h : ofDecimal false c q = finite false x) (negative : Bool) :
    ofDecimal negative c q = finite negative x := by
  unfold ofDecimal at h ⊢
  split at h
  next hc =>
    obtain rfl : Magnitude.zero = x := by simpa using h
    rw [if_pos hc]
  next hc =>
    split at h
    next => simp at h
    next hq =>
      split at h
      next hlow =>
        obtain rfl : Magnitude.zero = x := by simpa using h
        rw [if_neg hc, if_neg hq, if_pos hlow]
      next hlow =>
        rw [if_neg hc, if_neg hq, if_neg hlow, ofRatio_eq negative (ofRatio_false_iff.mp h)]

/-- Zeros after the point do not change a whole number. -/
theorem ofDecimal_whole (hq : 0 ≤ q) (h : ofDecimal false c q = finite false x) :
    ofDecimal false (c * 10 ^ (q.toNat + 1)) (-1) = finite false x := by
  by_cases hc : c = 0
  · rw [hc, zero_mul]
    rwa [hc] at h
  · have hle : q ≤ 400 := by
      by_contra hgt
      rw [ofDecimal, if_neg hc, if_pos (by omega)] at h
      simp at h
    have hpos : 0 < c := Nat.pos_of_ne_zero hc
    have hneg : (-q).toNat = 0 := by omega
    rw [ofDecimal_eq_ofRatio hc hle (by omega), ofRatio_false_iff, Nat.pow_eq, Nat.pow_eq,
      hneg] at h
    rw [ofDecimal_eq_ofRatio (by positivity) (by omega) (by omega), ofRatio_false_iff, ← h,
      Nat.pow_eq, Nat.pow_eq]
    refine ofRatio?_congr (by positivity) (by positivity) (by positivity) (by positivity) ?_
    have hone : (- -1 : Int).toNat = 1 := rfl
    have hzero : (-1 : Int).toNat = 0 := rfl
    rw [hone, hzero]
    push_cast
    rw [pow_succ]
    field_simp

/-! ## The shortest decimal -/

theorem ofDecimal_exactDecimal (hm : x.significand ≠ 0) :
    ofDecimal false x.exactDecimal.1 x.exactDecimal.2 = finite false x := by
  have hpos : 0 < x.significand := Nat.pos_of_ne_zero hm
  have hfive : ∀ k : Nat, 2 ^ (2 * k) ≤ 5 ^ k := by
    intro k
    rw [pow_mul]
    exact Nat.pow_le_pow_left (by norm_num) k
  unfold exactDecimal
  simp only [Nat.pow_eq]
  obtain ⟨k, hk | hk⟩ := x.exponent.eq_nat_or_neg
  · have htwo : x.exponent.toNat = k := by omega
    have hfive : (-x.exponent).toNat = 0 := by omega
    have hmin : min x.exponent 0 = 0 := by omega
    rw [htwo, hfive, hmin, ofDecimal_eq_ofRatio (by positivity) (by omega) (by omega),
      ofRatio_false_iff]
    refine ofRatio?_of_value (by norm_num) ?_
    rw [hk]
    simp
  · have htwo : x.exponent.toNat = 0 := by omega
    have hfive' : (-x.exponent).toNat = k := by omega
    have hmin : min x.exponent 0 = -(k : Int) := by omega
    have hle := x.le_exponent
    have hlog : 2 * k ≤ (x.significand * 2 ^ 0 * 5 ^ k).log2 := by
      rw [Nat.le_log2 (by positivity)]
      calc 2 ^ (2 * k) ≤ 5 ^ k := hfive k
        _ ≤ x.significand * 2 ^ 0 * 5 ^ k := Nat.le_mul_of_pos_left _ (by positivity)
    rw [htwo, hfive', hmin, ofDecimal_eq_ofRatio (by positivity) (by omega) (by omega),
      ofRatio_false_iff]
    refine ofRatio?_of_value (by rw [Nat.pow_eq]; positivity) ?_
    have hzero : (-(k : Int)).toNat = 0 := by omega
    have hneg : (- -(k : Int)).toNat = k := by omega
    rw [Nat.pow_eq, Nat.pow_eq, hzero, hneg, hk, zpow_neg, zpow_natCast]
    have hten : (10 : ℚ) ^ k = 2 ^ k * 5 ^ k := by
      rw [← mul_pow]
      norm_num
    push_cast
    rw [hten]
    field_simp

theorem ofDecimal_onGrid? (h : x.onGrid? q = some c) : ofDecimal false c q = finite false x := by
  unfold onGrid? readsBack at h
  simp only [] at h
  split at h
  next h₁ h₂ =>
    obtain rfl := Option.some.inj h
    rcases nearest_eq_or (x.gridNum q) (x.gridDen q) with he | he
    · rw [he]
      simpa using h₁
    · rw [he]
      simpa using h₂
  next h₁ h₂ =>
    obtain rfl := Option.some.inj h
    simpa using h₁
  next h₁ h₂ =>
    obtain rfl := Option.some.inj h
    simpa using h₂
  next => cases h

/-- The shortest decimal of a number reads back as the number. -/
theorem ofDecimal_shortest (negative : Bool) (x : Magnitude) :
    ofDecimal negative x.shortest.1 x.shortest.2 = finite negative x := by
  refine ofDecimal_sign ?_ negative
  unfold shortest
  split
  next hm =>
    rw [eq_zero_of_significand hm]
    rfl
  next hm =>
    dsimp only
    generalize hf : (List.range 20).findSome? (fun (k : Nat) =>
      (x.onGrid? (x.topGrid - k)).map fun c => (c, x.topGrid - k)) = found
    cases found with
    | none => exact ofDecimal_exactDecimal hm
    | some p =>
      obtain ⟨k, -, hk⟩ := List.exists_of_findSome?_eq_some hf
      obtain ⟨c, hc, rfl⟩ := Option.map_eq_some_iff.mp hk
      exact ofDecimal_onGrid? hc

/-! ## Numbers of one value -/

theorem natAbs_signed (negative : Bool) (k : Nat) : (signed negative k).natAbs = k := by
  unfold signed
  split <;> omega

theorem signed_lt_zero {k : Nat} (hk : k ≠ 0) : decide (signed negative k < 0) = negative := by
  unfold signed
  cases negative
  · simp
  · simp
    omega

/-- A whole number is an integer of its sign and its value. -/
theorem signed_natAbs_toInt? (h : (finite s x).toInt? = some n) :
    n = signed s n.natAbs ∧ (n.natAbs : ℚ) = x.significand * 2 ^ x.exponent := by
  unfold toInt? at h
  simp only [Nat.pow_eq] at h
  split at h
  next hmod =>
    set whole := x.significand * 2 ^ x.exponent.toNat with hwhole
    set unit := 2 ^ (-x.exponent).toNat with hunit
    obtain rfl : signed s (whole / unit) = n := Option.some.inj h
    have hu : (unit : ℚ) ≠ 0 := by positivity
    have hexact : ((whole / unit : Nat) : ℚ) * unit = whole := by
      exact_mod_cast Nat.div_mul_cancel (Nat.dvd_of_mod_eq_zero hmod)
    rw [natAbs_signed]
    refine ⟨rfl, ?_⟩
    rw [eq_div_of_mul_eq hu hexact, hwhole, hunit]
    obtain ⟨k, hk | hk⟩ := x.exponent.eq_nat_or_neg
    · have h₁ : x.exponent.toNat = k := by omega
      have h₂ : (-x.exponent).toNat = 0 := by omega
      rw [h₁, h₂, hk]
      simp
    · have h₁ : x.exponent.toNat = 0 := by omega
      have h₂ : (-x.exponent).toNat = k := by omega
      rw [h₁, h₂, hk, zpow_neg, zpow_natCast, div_eq_mul_inv]
      simp
  next => cases h

/-- A whole number reads back from its decimal digits. -/
theorem ofDecimal_toInt? (h : (finite s x).toInt? = some n) :
    ofDecimal (n < 0) n.natAbs 0 = (finite s x).foldZero := by
  obtain ⟨hn, hvalue⟩ := signed_natAbs_toInt? h
  by_cases hm : x.significand = 0
  · have hn₀ : n = 0 := by
      rw [hm, Nat.cast_zero, zero_mul, Nat.cast_eq_zero] at hvalue
      exact Int.natAbs_eq_zero.mp hvalue
    rw [hn₀]
    simp [foldZero, isZero, hm, ofDecimal_zero]
    rfl
  · have hpos : n.natAbs ≠ 0 := by
      intro hz
      rw [hz, Nat.cast_zero, eq_comm, mul_eq_zero] at hvalue
      have htwo : (2 : ℚ) ^ x.exponent ≠ 0 := by positivity
      exact hvalue.elim (fun hzero => hm (by exact_mod_cast hzero)) htwo
    have hsign : decide (n < 0) = s := by
      rw [hn]
      exact signed_lt_zero hpos
    have hratio := ofRatio?_of_value (n := n.natAbs * 10 ^ 0) (d := 10 ^ 0) (by norm_num)
      (by rw [← hvalue]; simp)
    have hfold : (finite s x).foldZero = finite s x := by simp [foldZero, isZero, hm]
    rw [hsign, hfold, ofDecimal_eq_ofRatio hpos (by omega) (by omega)]
    exact ofRatio_eq s hratio

/-- Finite numbers that compare as equal are one number, zeros apart. -/
theorem foldZero_eq_of_numEq (h : numEq (finite s x) (finite t y) = true) :
    (finite s x).foldZero = (finite t y).foldZero := by
  set g := min x.exponent y.exponent with hg
  have hunits : units s x g = units t y g := by
    unfold numEq at h
    rw [Bool.and_eq_true, decide_eq_true_eq, decide_eq_true_eq] at h
    have h₁ : units s x g ≤ units t y g := of_decide_eq_true h.1
    have h₂ : units t y (min y.exponent x.exponent) ≤ units s x (min y.exponent x.exponent) :=
      of_decide_eq_true h.2
    rw [min_comm, ← hg] at h₂
    exact le_antisymm h₁ h₂
  have hnat : x.significand * 2 ^ (x.exponent - g).toNat =
      y.significand * 2 ^ (y.exponent - g).toNat := by
    have habs := congrArg Int.natAbs hunits
    simpa only [units, natAbs_signed, Nat.pow_eq] using habs
  have hvalue (z : Magnitude) (hz : g ≤ z.exponent) : (z.significand : ℚ) * 2 ^ z.exponent =
      (z.significand * 2 ^ (z.exponent - g).toNat : Nat) * 2 ^ g := by
    have hexp : z.exponent = ((z.exponent - g).toNat : Int) + g := by omega
    conv_lhs => rw [hexp, zpow_add₀ two_ne_zero, zpow_natCast]
    push_cast
    rw [mul_assoc]
  obtain rfl : x = y := by
    refine eq_of_value ?_
    rw [hvalue x (min_le_left _ _), hvalue y (min_le_right _ _), hnat]
  by_cases hm : x.significand = 0
  · simp [foldZero, isZero, hm]
  · have hk : x.significand * Nat.pow 2 (x.exponent - g).toNat ≠ 0 := by
      rw [Nat.pow_eq]
      positivity
    have hsign : s = t := by
      calc s = decide (units s x g < 0) := (signed_lt_zero hk).symm
        _ = decide (units t x g < 0) := by rw [hunits]
        _ = t := signed_lt_zero hk
    rw [hsign]

theorem eq_zero_of_isZero (h : a.isZero = true) : ∃ s, a = finite s .zero := by
  cases a with
  | finite s x =>
    have hm : x.significand = 0 := by simpa [isZero] using h
    exact ⟨s, by rw [eq_zero_of_significand hm]⟩
  | _ => cases h

theorem units_zero (negative : Bool) (g : Int) : units negative .zero g = 0 := by
  simp [units, Magnitude.zero, signed]

theorem ble_zero (s : Bool) (b : Binary64) :
    ble (finite s .zero) b = ble 0 b ∧ ble b (finite s .zero) = ble b 0 := by
  have hzero : (0 : Binary64) = finite false .zero := rfl
  rw [hzero]
  cases b with
  | finite t y => simp [ble, units_zero]
  | nan => exact ⟨rfl, rfl⟩
  | infinite t => cases t <;> exact ⟨rfl, rfl⟩

theorem ble_foldZero (a b : Binary64) : ble a.foldZero b.foldZero = ble a b := by
  have hleft : ble a.foldZero b.foldZero = ble a b.foldZero := by
    unfold foldZero
    split
    next h =>
      obtain ⟨s, rfl⟩ := eq_zero_of_isZero h
      rw [(ble_zero s _).1]
    next => rfl
  have hright : ble a b.foldZero = ble a b := by
    unfold foldZero
    split
    next h =>
      obtain ⟨s, rfl⟩ := eq_zero_of_isZero h
      rw [(ble_zero s _).2]
    next => rfl
  rw [hleft, hright]

theorem not_le_of_lt (h : a < b) : ¬ b ≤ a := by
  intro hle
  cases a with
  | nan => cases h
  | _ => cases b with
    | nan => cases h
    | _ => exact absurd (show (!ble _ _) = true from h) (by simp [show ble _ _ = true from hle])

/-- Numbers of one value stand in the same order to others. -/
theorem foldZero_le_iff : a.foldZero ≤ b.foldZero ↔ a ≤ b := by
  change ble _ _ = true ↔ ble _ _ = true
  rw [ble_foldZero]

theorem foldZero_of_pos (h : 0 < a) : a.foldZero = a := by
  unfold foldZero
  rw [if_neg]
  intro hz
  obtain ⟨s, rfl⟩ := eq_zero_of_isZero hz
  have hlt : blt 0 (finite s .zero) = true := h
  have hle : ble (finite s .zero) 0 = true := by
    rw [(ble_zero s 0).1]
    rfl
  simp only [blt, hle] at hlt
  cases hlt

theorem foldZero_foldZero (a : Binary64) : a.foldZero.foldZero = a.foldZero := by
  unfold foldZero
  split <;> rfl

end Flipbook.Binary64
