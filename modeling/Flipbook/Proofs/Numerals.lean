import Mathlib
import Flipbook.Number.Numeral
import Flipbook.Proofs.Rounding
import Flipbook.Proofs.Words

/-!
Numbers that were written read back: integers as themselves, doubles as the double of their value.
The texts are tokens of few characters, so they never disturb the line they stand on.
-/
namespace Flipbook.Numeral

open Text

variable {c : Char} {a b cs w f x : List Char} {s : String} {n e : Int} {negative : Bool}

/-! ## Characters of numbers -/

/-- A character of a number as it is written. -/
def isNumeralChar (c : Char) : Bool :=
  c.isDigit || c == '-' || c == '+' || c == '.' || c == 'e'

/-- A text that may be a written number: not empty, and without any other character. -/
def IsNumeral (s : String) : Prop := s ≠ "" ∧ ∀ c ∈ s.toList, isNumeralChar c = true

/-- The value of an ASCII digit. -/
def digitValue (c : Char) : Nat := c.toNat - '0'.toNat

theorem digit?_of_isDigit (h : c.isDigit = true) : digit? c = some (digitValue c) := by
  simp only [Char.isDigit, Bool.and_eq_true, decide_eq_true_eq] at h
  have hlow : 48 ≤ c.toNat := h.1
  have hhigh : c.toNat < 48 + 10 := Nat.lt_succ_of_le h.2
  unfold digit? zeros
  rw [List.find?_cons_of_pos (by simp [hlow, hhigh])]
  rfl

theorem isDigit_of_ascii (h : c.isDigit = true) : isDigit c = true := by
  rw [isDigit, digit?_of_isDigit h]
  rfl

theorem isBlank_of_isNumeralChar (h : isNumeralChar c = true) : isBlank c = false := by
  simp only [isNumeralChar, Bool.or_eq_true, beq_iff_eq] at h
  rcases h with (((h | rfl) | rfl) | rfl) | rfl
  · simp only [Char.isDigit, Bool.and_eq_true, decide_eq_true_eq] at h
    have hlow : 48 ≤ c.toNat := h.1
    have hhigh : c.toNat ≤ 57 := h.2
    simp [isBlank]
    omega
  all_goals rfl

theorem IsNumeral.isToken (h : IsNumeral s) : IsToken s :=
  ⟨h.1, fun c hc => isBlank_of_isNumeralChar (h.2 c hc)⟩

theorem IsNumeral.not_mem (h : IsNumeral s) (hc : isNumeralChar c = false) : c ∉ s.toList := by
  intro hmem
  rw [h.2 c hmem] at hc
  cases hc

theorem words_numeral (h : IsNumeral s) : words s = [s] := words_token h.isToken

/-! ## Reading characters of numbers -/

theorem trimBoth_isMargin (h : ∀ c ∈ cs, isNumeralChar c = true) : trimBoth isMargin cs = cs := by
  have hmargin : ∀ c ∈ cs, isMargin c = false := by
    intro c hc
    rw [isMargin, isBlank_of_isNumeralChar (h c hc), Bool.false_and]
  rw [trimBoth_eq_trimRight fun c hc => hmargin c (List.mem_of_head? hc),
    trimRight_eq_self fun c hc => hmargin c (List.mem_of_getLast? hc)]

theorem dropSeparators?_eq_self (h : '_' ∉ cs) (afterDigit : Bool) :
    dropSeparators? afterDigit cs = some cs := by
  induction cs generalizing afterDigit with
  | nil => rfl
  | cons c cs ih =>
    have hc : c ≠ '_' := fun hc => h (hc ▸ List.mem_cons_self)
    rw [dropSeparators?, if_neg hc, ih (fun hcs => h (List.mem_cons_of_mem _ hcs))]
    rfl

theorem readInt?_numeral (h : IsNumeral s) : readInt? s = readIntChars? s.toList := by
  rw [readInt?, trimBoth_isMargin h.2, dropSeparators?_eq_self (h.not_mem (by decide))]
  rfl

theorem readFinite?_numeral (h : IsNumeral s) :
    readFinite? s = (readDecimalChars? s.toList).filter (·.isFinite) := by
  rw [readFinite?, trimBoth_isMargin h.2, dropSeparators?_eq_self (h.not_mem (by decide))]
  rfl

/-! ## Signs and digits -/

/-- The sign of a written number. -/
def signChars (negative : Bool) : List Char := if negative then ['-'] else []

/-- What a number may start with after its sign. -/
def Unsigned (cs : List Char) : Prop := ∀ c ∈ cs.head?, c.isDigit = true

theorem takeSign_signChars (h : Unsigned cs) (negative : Bool) :
    takeSign (signChars negative ++ cs) = (negative, cs) := by
  cases negative with
  | true => rfl
  | false =>
    cases cs with
    | nil => rfl
    | cons c cs =>
      have hc := h c rfl
      have hminus : c ≠ '-' := by
        rintro rfl
        exact absurd hc (by decide)
      have hplus : c ≠ '+' := by
        rintro rfl
        exact absurd hc (by decide)
      simp [signChars, takeSign, hminus, hplus]

theorem filterMap_digit? (h : ∀ c ∈ a, c.isDigit = true) :
    a.filterMap digit? = a.map digitValue := by
  induction a with
  | nil => rfl
  | cons c a ih =>
    rw [List.filterMap_cons_some (digit?_of_isDigit (h c List.mem_cons_self)), List.map_cons,
      ih fun d hd => h d (List.mem_cons_of_mem _ hd)]

/-- The digits that a text starts with, up to another character. -/
theorem takeDigits_append (h : ∀ c ∈ a, c.isDigit = true) (hb : ∀ c ∈ b.head?, isDigit c = false) :
    takeDigits (a ++ b) = (a.map digitValue, b) := by
  obtain ⟨htake, hdrop⟩ := span_append_of_head (fun c hc => isDigit_of_ascii (h c hc)) hb
  rw [takeDigits, htake, hdrop, filterMap_digit? h]

theorem ofDigits_map (a : List Char) :
    ofDigits (a.map digitValue) = Nat.ofDigitChars 10 a 0 := by
  rw [ofDigits, List.foldl_map]
  rfl

theorem isDigit_toDigits {n : Nat} (h : c ∈ Nat.toDigits 10 n) : c.isDigit = true :=
  Nat.isDigit_of_mem_toDigits (by decide) (by decide) h

theorem unsigned_of_all (h : ∀ c ∈ a, c.isDigit = true) : Unsigned a :=
  fun c hc => h c (List.mem_of_head? hc)

/-! ## Integers -/

theorem toList_toString (n : Int) :
    (toString n).toList = signChars (n < 0) ++ Nat.toDigits 10 n.natAbs := by
  cases n with
  | ofNat n => simp [signChars, Int.toString_eq_repr, Int.repr]
  | negSucc n => simp [signChars, Int.toString_eq_repr, Int.repr, Int.negSucc_lt_zero]

theorem toList_toString_natCast (n : Nat) : (toString n).toList = Nat.toDigits 10 n := by
  simp

theorem toString_natCast (n : Nat) : toString (n : Int) = toString n := rfl

theorem isNumeralChar_signChars (h : c ∈ signChars negative) : isNumeralChar c = true := by
  unfold signChars at h
  split at h
  · obtain rfl : c = '-' := by simpa using h
    rfl
  · simp at h

theorem isNumeralChar_of_isDigit (h : c.isDigit = true) : isNumeralChar c = true := by
  simp [isNumeralChar, h]

theorem isNumeral_toString (n : Int) : IsNumeral (toString n) := by
  constructor
  · rw [ne_eq, ← String.toList_eq_nil_iff, toList_toString, List.append_eq_nil_iff]
    exact fun h => Nat.toDigits_ne_nil h.2
  · intro c hc
    rw [toList_toString, List.mem_append] at hc
    rcases hc with hc | hc
    · exact isNumeralChar_signChars hc
    · exact isNumeralChar_of_isDigit (isDigit_toDigits hc)

theorem words_toString_natCast (n : Nat) : words (toString n) = [toString n] :=
  words_numeral (isNumeral_toString (n : Int))

theorem signed_natAbs (n : Int) : Binary64.signed (n < 0) n.natAbs = n := by
  unfold Binary64.signed
  by_cases h : n < 0
  · rw [if_pos (decide_eq_true h)]
    omega
  · rw [if_neg (by simpa using h)]
    omega

/-- An integer within the limit of digits reads back. -/
theorem readInt?_toString (h : n.natAbs < 10 ^ maxDigits) : readInt? (toString n) = some n := by
  have hdigits : ∀ c ∈ Nat.toDigits 10 n.natAbs, c.isDigit = true := fun c => isDigit_toDigits
  have hlength : (Nat.toDigits 10 n.natAbs).length ≤ maxDigits :=
    (Nat.length_toDigits_le_iff (by decide) (by decide)).mpr h
  have htake := takeDigits_append (b := []) hdigits (by simp)
  rw [List.append_nil] at htake
  rw [readInt?_numeral (isNumeral_toString n), toList_toString, readIntChars?,
    takeSign_signChars (unsigned_of_all hdigits)]
  dsimp only
  rw [htake]
  have hempty : (Nat.toDigits 10 n.natAbs).isEmpty = false :=
    List.isEmpty_eq_false_iff.mpr Nat.toDigits_ne_nil
  simp only [List.isEmpty_map, hempty, List.length_map, List.isEmpty_nil, Bool.not_true,
    Bool.or_self, Bool.false_or, decide_eq_true_eq, if_neg (not_lt.mpr hlength), ofDigits_map,
    Nat.ofDigitChars_ten_toDigits, signed_natAbs]

theorem readInt?_toString_natCast {n : Nat} (h : n < 10 ^ maxDigits) :
    readInt? (toString n) = some (n : Int) := readInt?_toString (n := (n : Int)) (by simpa using h)

/-! ## Decimals -/

/-- What may follow the digits of a decimal. -/
def EndsDigits (cs : List Char) : Prop := ∀ c ∈ cs.head?, isDigit c = false ∧ c ≠ '.'

theorem takeFraction_of_ends (h : EndsDigits x) : takeFraction x = ([], x) := by
  cases x with
  | nil => rfl
  | cons c x =>
    have hc : c ≠ '.' := (h c rfl).2
    simp [takeFraction, hc]

/-- A decimal without a point. -/
theorem readDecimalChars?_whole (negative : Bool) (hne : w ≠ []) (hw : ∀ c ∈ w, c.isDigit = true)
    (hx : EndsDigits x) : readDecimalChars? (signChars negative ++ (w ++ x)) =
      (readExponent? x).map fun e => .ofDecimal negative (Nat.ofDigitChars 10 w 0) e := by
  have hunsigned : Unsigned (w ++ x) := by
    cases w with
    | nil => exact absurd rfl hne
    | cons c w => exact fun d hd => hw d (by simp_all)
  rw [readDecimalChars?, takeSign_signChars hunsigned]
  dsimp only
  rw [takeDigits_append hw fun c hc => (hx c hc).1]
  dsimp only
  rw [takeFraction_of_ends hx]
  simp [hne, ofDigits_map]

/-- A decimal with digits `f` after the point. -/
theorem readDecimalChars?_point (negative : Bool) (hne : w ≠ []) (hw : ∀ c ∈ w, c.isDigit = true)
    (hf : ∀ c ∈ f, c.isDigit = true) (hx : EndsDigits x) :
    readDecimalChars? (signChars negative ++ (w ++ '.' :: (f ++ x))) =
      (readExponent? x).map fun e =>
        .ofDecimal negative (Nat.ofDigitChars 10 (w ++ f) 0) (e - f.length) := by
  have hunsigned : Unsigned (w ++ '.' :: (f ++ x)) := by
    cases w with
    | nil => exact absurd rfl hne
    | cons c w => exact fun d hd => hw d (by simp_all)
  have hpoint : ∀ c ∈ ('.' :: (f ++ x)).head?, isDigit c = false := by
    intro c hc
    obtain rfl : '.' = c := by simpa using hc
    decide
  have hfraction : takeFraction ('.' :: (f ++ x)) = (f.map digitValue, x) :=
    takeDigits_append hf fun c hc => (hx c hc).1
  rw [readDecimalChars?, takeSign_signChars hunsigned]
  dsimp only
  rw [takeDigits_append hw hpoint]
  dsimp only
  rw [hfraction]
  simp [hne, ← List.map_append, ofDigits_map]

/-- The exponent of a written decimal. -/
def exponentChars (e : Int) : List Char :=
  'e' :: (if e < 0 then '-' else '+') :: (List.replicate (2 - (Nat.toDigits 10 e.natAbs).length) '0' ++
    Nat.toDigits 10 e.natAbs)

theorem endsDigits_nil : EndsDigits [] := by simp [EndsDigits]

theorem endsDigits_exponentChars (e : Int) : EndsDigits (exponentChars e) := by
  intro c hc
  obtain rfl : 'e' = c := by simpa [exponentChars] using hc
  decide

theorem isDigit_zeros {k : Nat} (h : c ∈ List.replicate k '0') : c.isDigit = true := by
  rw [List.eq_of_mem_replicate h]
  rfl

theorem readExponent?_exponentChars (e : Int) : readExponent? (exponentChars e) = some e := by
  have hdigits : ∀ c ∈ List.replicate (2 - (Nat.toDigits 10 e.natAbs).length) '0' ++
      Nat.toDigits 10 e.natAbs, c.isDigit = true := by
    intro c hc
    rcases List.mem_append.mp hc with hc | hc
    · exact isDigit_zeros hc
    · exact isDigit_toDigits hc
  have htake := takeDigits_append (b := []) hdigits (by simp)
  have hvalue : Nat.ofDigitChars 10 (List.replicate (2 - (Nat.toDigits 10 e.natAbs).length) '0' ++
      Nat.toDigits 10 e.natAbs) 0 = e.natAbs := by
    rw [Nat.ofDigitChars_append, Nat.ofDigitChars_replicate_zero, mul_zero,
      Nat.ofDigitChars_ten_toDigits]
  have hsign (cs : List Char) :
      takeSign ((if e < 0 then '-' else '+') :: cs) = (decide (e < 0), cs) := by
    by_cases h : e < 0
    · simp [h, takeSign]
    · simp [h, takeSign]
  rw [List.append_nil] at htake
  rw [exponentChars, readExponent?, hsign]
  dsimp only
  rw [htake, ofDigits_map, hvalue, signed_natAbs]
  simp [Nat.toDigits_ne_nil]

theorem toList_scientific (digits : List Char) (e : Int) :
    (scientific script digits e).toList = digits.take 1 ++
      ((if digits.length ≤ 1 then [] else '.' :: digits.drop 1) ++ exponentChars e) := by
  have hsign : (if e < 0 then "-" else script.plus).toList = [if e < 0 then '-' else '+'] := by
    split <;> rfl
  have hlen : (toString e.natAbs).length = (Nat.toDigits 10 e.natAbs).length := by
    rw [← String.length_toList, toList_toString_natCast]
  unfold scientific
  simp only [String.toList_append, hsign, hlen, zerosText, toList_toString_natCast, exponentChars,
    String.toList_ofList]
  split
  · simp [script]
  · simp [script]

section

variable {digits : List Char} {q : Int} {m : Magnitude} {k : Nat}

/-- Digits `w` before a decimal point and `f` behind it that are the digits of `c * 10 ^ q`, with `z`
more zeros at the end. -/
structure Pointed (digits : List Char) (q : Int) (z : Nat) (w f : List Char) : Prop where
  ne_nil : w ≠ []
  isDigit : ∀ d ∈ w ++ f, d.isDigit = true
  value : Nat.ofDigitChars 10 (w ++ f) 0 = Nat.ofDigitChars 10 digits 0 * 10 ^ z
  length : (f.length : Int) = z - q
  zeros : z = 0 ∨ 0 ≤ q ∧ z = q.toNat + 1

/-- All digits stand after the point. -/
theorem pointed_after (hdigits : ∀ d ∈ digits, d.isDigit = true) (he : e = q + digits.length - 1)
    (h : e < 0) : Pointed digits q 0 ['0'] (List.replicate (-e - 1).toNat '0' ++ digits) where
  ne_nil := by simp
  isDigit := by
    intro d hd
    rcases List.mem_append.mp hd with hd | hd
    · exact isDigit_zeros (k := 1) hd
    · rcases List.mem_append.mp hd with hd | hd
      · exact isDigit_zeros hd
      · exact hdigits d hd
  value := by
    rw [Nat.ofDigitChars_append, Nat.ofDigitChars_append, Nat.ofDigitChars_replicate_zero]
    simp [Nat.ofDigitChars_cons]
  length := by
    rw [List.length_append, List.length_replicate]
    omega
  zeros := .inl rfl

/-- All digits stand before the point. -/
theorem pointed_before (hdigits : ∀ d ∈ digits, d.isDigit = true) (hne : digits ≠ [])
    (hq : 0 ≤ q) : Pointed digits q (q.toNat + 1) (digits ++ List.replicate q.toNat '0') ['0'] where
  ne_nil := by simp [hne]
  isDigit := by
    intro d hd
    rcases List.mem_append.mp hd with hd | hd
    · rcases List.mem_append.mp hd with hd | hd
      · exact hdigits d hd
      · exact isDigit_zeros hd
    · exact isDigit_zeros (k := 1) hd
  value := by
    rw [Nat.ofDigitChars_append, Nat.ofDigitChars_append, Nat.ofDigitChars_replicate_zero,
      Nat.ofDigitChars_cons, Nat.ofDigitChars_nil, pow_succ]
    change 10 * (10 ^ q.toNat * Nat.ofDigitChars 10 digits 0) + 0 = _
    ring
  length := by
    rw [List.length_singleton]
    omega
  zeros := .inr ⟨hq, rfl⟩

/-- The point stands between two digits. -/
theorem pointed_between (hdigits : ∀ d ∈ digits, d.isDigit = true) {n : Nat} (hn : 0 < n)
    (hlength : (digits.length : Int) = n - q) (hq : q < 0) :
    Pointed digits q 0 (digits.take n) (digits.drop n) where
  ne_nil := by
    have hpos : 0 < digits.length := by omega
    simpa [hn.ne'] using List.length_pos_iff.mp hpos
  isDigit := by rwa [List.take_append_drop]
  value := by rw [List.take_append_drop, pow_zero, mul_one]
  length := by
    rw [List.length_drop]
    omega
  zeros := .inl rfl

/-- A positional text is its digits with a point among them and zeros around them. -/
theorem exists_pointed (hne : digits ≠ []) (hdigits : ∀ d ∈ digits, d.isDigit = true)
    (he : e = q + digits.length - 1) : ∃ z w f, Pointed digits q z w f ∧
      (positional script.wholeMark digits e).toList = w ++ '.' :: f := by
  unfold positional
  split
  next hneg => exact ⟨_, _, _, pointed_after hdigits he hneg, by simp [zerosText]⟩
  next hpos =>
    dsimp only
    split
    next hle =>
      have hq : 0 ≤ q := by omega
      have hcount : e.toNat + 1 - digits.length = q.toNat := by omega
      exact ⟨_, _, _, pointed_before hdigits hne hq, by simp [zerosText, hcount, script]⟩
    next hlt =>
      have hlength : (digits.length : Int) = (e.toNat + 1 : Nat) - q := by omega
      exact ⟨_, _, _, pointed_between hdigits (Nat.succ_pos _) hlength (by omega), by simp⟩

theorem readDecimalChars?_positional (hne : digits ≠ []) (hdigits : ∀ d ∈ digits, d.isDigit = true)
    (hvalue : Nat.ofDigitChars 10 digits 0 = k) (he : e = q + digits.length - 1)
    (h : Binary64.ofDecimal false k q = .finite false m) (negative : Bool) :
    readDecimalChars? (signChars negative ++ (positional script.wholeMark digits e).toList) =
      some (.finite negative m) := by
  obtain ⟨z, w, f, hpointed, htext⟩ := exists_pointed hne hdigits he
  have hread := readDecimalChars?_point negative hpointed.ne_nil
    (fun d hd => hpointed.isDigit d (List.mem_append_left f hd))
    (fun d hd => hpointed.isDigit d (List.mem_append_right w hd)) endsDigits_nil
  have hexp : 0 - (f.length : Int) = q - z := by
    rw [hpointed.length]
    omega
  rw [List.append_nil] at hread
  rw [htext, hread, readExponent?, Option.map_some, hpointed.value, hvalue, hexp]
  rcases hpointed.zeros with rfl | ⟨hq, rfl⟩
  · rw [pow_zero, mul_one, Nat.cast_zero, sub_zero, Binary64.ofDecimal_sign h]
  · have hone : q - (q.toNat + 1 : Nat) = -1 := by omega
    rw [hone, Binary64.ofDecimal_sign (Binary64.ofDecimal_whole hq h)]

theorem readDecimalChars?_scientific (hne : digits ≠ [])
    (hdigits : ∀ d ∈ digits, d.isDigit = true) (hvalue : Nat.ofDigitChars 10 digits 0 = k)
    (he : e = q + digits.length - 1) (h : Binary64.ofDecimal false k q = .finite false m)
    (negative : Bool) :
    readDecimalChars? (signChars negative ++ (scientific script digits e).toList) =
      some (.finite negative m) := by
  have hsigned := Binary64.ofDecimal_sign h negative
  have hpos : 0 < digits.length := List.length_pos_iff.mpr hne
  rw [toList_scientific]
  split
  next hone =>
    have htake : digits.take 1 = digits := List.take_of_length_le hone
    have hexp : e = q := by omega
    rw [htake, List.nil_append, readDecimalChars?_whole negative hne hdigits (endsDigits_exponentChars e),
      readExponent?_exponentChars, Option.map_some, hvalue, hexp, hsigned]
  next hone =>
    have hexp : e - ((digits.drop 1).length : Int) = q := by
      rw [List.length_drop]
      omega
    rw [List.cons_append, readDecimalChars?_point negative (by simp [hne])
      (fun d hd => hdigits d (List.mem_of_mem_take hd))
      (fun d hd => hdigits d (List.mem_of_mem_drop hd)) (endsDigits_exponentChars e),
      readExponent?_exponentChars, Option.map_some, List.take_append_drop, hvalue, hexp, hsigned]

/-- A written decimal of a double reads as the double. -/
theorem readDecimalChars?_decimalText (h : Binary64.ofDecimal false k q = .finite false m)
    (negative : Bool) :
    readDecimalChars? (signChars negative ++ (decimalText script k q).toList) =
      some (.finite negative m) := by
  have hdigits : ∀ d ∈ Nat.toDigits 10 k, d.isDigit = true := fun d => isDigit_toDigits
  have hvalue : Nat.ofDigitChars 10 (Nat.toDigits 10 k) 0 = k := Nat.ofDigitChars_ten_toDigits
  unfold decimalText
  dsimp only
  split
  · exact readDecimalChars?_positional Nat.toDigits_ne_nil hdigits hvalue rfl h negative
  · exact readDecimalChars?_scientific Nat.toDigits_ne_nil hdigits hvalue rfl h negative

theorem isNumeralChar_exponentChars (e : Int) :
    ∀ c ∈ exponentChars e, isNumeralChar c = true := by
  intro c hc
  simp only [exponentChars, List.mem_cons, List.mem_append] at hc
  rcases hc with rfl | rfl | hc | hc
  · rfl
  · split <;> rfl
  · exact isNumeralChar_of_isDigit (isDigit_zeros hc)
  · exact isNumeralChar_of_isDigit (isDigit_toDigits hc)

theorem isNumeralChar_scientific (hdigits : ∀ d ∈ digits, d.isDigit = true) (e : Int) :
    ∀ c ∈ (scientific script digits e).toList, isNumeralChar c = true := by
  intro c hc
  simp only [toList_scientific, List.mem_append] at hc
  rcases hc with hc | hc | hc
  · exact isNumeralChar_of_isDigit (hdigits c (List.mem_of_mem_take hc))
  · split at hc
    · cases hc
    · rcases List.mem_cons.mp hc with rfl | hc
      · rfl
      · exact isNumeralChar_of_isDigit (hdigits c (List.mem_of_mem_drop hc))
  · exact isNumeralChar_exponentChars e c hc

theorem isNumeralChar_positional (hne : digits ≠ []) (hdigits : ∀ d ∈ digits, d.isDigit = true)
    (he : e = q + digits.length - 1) :
    ∀ c ∈ (positional script.wholeMark digits e).toList, isNumeralChar c = true := by
  obtain ⟨z, w, f, hpointed, htext⟩ := exists_pointed hne hdigits he
  intro c hc
  rw [htext, List.mem_append, List.mem_cons] at hc
  rcases hc with hc | rfl | hc
  · exact isNumeralChar_of_isDigit (hpointed.isDigit c (List.mem_append_left f hc))
  · rfl
  · exact isNumeralChar_of_isDigit (hpointed.isDigit c (List.mem_append_right w hc))

theorem isNumeralChar_decimalText (k : Nat) (q : Int) :
    ∀ c ∈ (decimalText script k q).toList, isNumeralChar c = true := by
  have hdigits : ∀ d ∈ Nat.toDigits 10 k, d.isDigit = true := fun d => isDigit_toDigits
  unfold decimalText
  dsimp only
  split
  · exact isNumeralChar_positional Nat.toDigits_ne_nil hdigits rfl
  · exact isNumeralChar_scientific hdigits _

end

/-! ## Numbers in scripts -/

section

variable {y : Binary64} {k : Int}

theorem scriptText_of_toInt? (h : y.toInt? = some k) : scriptText y = toString k := by
  simp only [scriptText, h]

theorem toList_scriptText {m : Magnitude} (h : (Binary64.finite negative m).toInt? = none) :
    (scriptText (.finite negative m)).toList =
      signChars negative ++ (decimalText script m.shortest.1 m.shortest.2).toList := by
  simp only [scriptText, h, shortestText, String.toList_append]
  cases negative <;> rfl

/-- A finite number reads back from its text, the negative zero as zero. -/
theorem readFinite?_scriptText (h : y.isFinite = true) :
    IsNumeral (scriptText y) ∧ readFinite? (scriptText y) = some y.foldZero := by
  obtain ⟨negative, m, rfl⟩ : ∃ negative m, y = .finite negative m := by
    cases y with
    | finite negative m => exact ⟨negative, m, rfl⟩
    | _ => cases h
  cases hk : (Binary64.finite negative m).toInt? with
  | some k =>
    have hnumeral := isNumeral_toString k
    have hfold := Binary64.ofDecimal_toInt? hk
    have hdigits : ∀ c ∈ Nat.toDigits 10 k.natAbs, c.isDigit = true := fun c => isDigit_toDigits
    have hread := readDecimalChars?_whole (k < 0) Nat.toDigits_ne_nil hdigits
      endsDigits_nil
    rw [List.append_nil, ← toList_toString, readExponent?, Option.map_some,
      Nat.ofDigitChars_ten_toDigits, hfold] at hread
    have hfinite : (Binary64.finite negative m).foldZero.isFinite = true := by
      unfold Binary64.foldZero
      split <;> rfl
    rw [scriptText_of_toInt? hk, readFinite?_numeral hnumeral, hread]
    exact ⟨hnumeral, by simp [hfinite]⟩
  | none =>
    have htext := toList_scriptText hk
    have hread := readDecimalChars?_decimalText (Binary64.ofDecimal_shortest false m) negative
    rw [← htext] at hread
    have hnumeral : IsNumeral (scriptText (.finite negative m)) := by
      constructor
      · intro hempty
        rw [hempty] at hread
        cases hread
      · intro c hc
        rw [htext, List.mem_append] at hc
        rcases hc with hc | hc
        · exact isNumeralChar_signChars hc
        · exact isNumeralChar_decimalText _ _ c hc
    have hfold : (Binary64.finite negative m).foldZero = .finite negative m := by
      have hm : m.significand ≠ 0 := by
        intro hm
        simp [Binary64.toInt?, hm] at hk
      simp [Binary64.foldZero, Binary64.isZero, hm]
    rw [readFinite?_numeral hnumeral, hread, hfold]
    exact ⟨hnumeral, rfl⟩

end

/-- Numbers of one value are written alike. -/
theorem scriptText_foldZero (x : Binary64) : scriptText x.foldZero = scriptText x := by
  have hzero (negative : Bool) : (Binary64.finite negative .zero).toInt? = some 0 := by
    simp only [Binary64.toInt?, Magnitude.zero, Nat.zero_mul, Nat.zero_mod, Nat.zero_div, if_true]
    cases negative <;> rfl
  have htext (negative : Bool) : scriptText (.finite negative .zero) = toString (0 : Int) := by
    rw [scriptText, hzero]
  unfold Binary64.foldZero
  split
  next h =>
    obtain ⟨negative, rfl⟩ := Binary64.eq_zero_of_isZero h
    exact (htext false).trans (htext negative).symm
  next => rfl

end Flipbook.Numeral
