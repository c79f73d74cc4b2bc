import Mathlib
import Flipbook.Number.Exact
import Flipbook.Layout.Grid

/-!
Font sizes. Over the rationals a font takes up a part of the cell's height or a part of its width,
whichever is less. Both parts only shrink as the longest text of a table grows, so that longer texts
never get a larger font.
-/
namespace Flipbook.Layout

variable {brief wordy : List (List String)} {cfg : Config ℚ} {w₁ w₂ h₁ h₂ : ℚ}

/-- The part of a cell's height that a font takes up if the longest text has `n` characters. -/
def heightPart (n : Nat) : ℚ := if n ≤ 4 then 7 / 10 else 3 / 5

/-- The part of a cell's width that a font takes up if the longest text has `n` characters. -/
def widthPart (n : Nat) : ℚ := if n ≤ 4 then 6 / 5 / (max n 1 : Nat) else 2 / 11

theorem fontSize_eq (texts : List (List String)) (w h : ℚ) (cfg : Config ℚ) :
    fontSize texts w h cfg =
      min (min (h * heightPart (longestText texts cfg)) (w * widthPart (longestText texts cfg)))
        cfg.maxFontSize := by
  unfold fontSize heightPart widthPart
  simp only [Scalar.least_eq_min]
  split
  · have hheight : h * 0.7 = h * (7 / 10) := by norm_num
    have hwidth (n : Nat) : w / ((n : Int) : ℚ) * 1.2 = w * (6 / 5 / n) := by
      push_cast
      ring
    exact congrArg (min · _) (congrArg₂ min hheight (hwidth _))
  · have hheight : h * 0.6 = h * (3 / 5) := by norm_num
    have hwidth : w / 5.5 = w * (2 / 11) := by ring
    exact congrArg (min · _) (congrArg₂ min hheight hwidth)

theorem heightPart_nonneg (n : Nat) : 0 ≤ heightPart n := by
  unfold heightPart
  split
  · norm_num
  · norm_num

theorem widthPart_nonneg (n : Nat) : 0 ≤ widthPart n := by
  unfold widthPart
  split
  · positivity
  · norm_num

theorem heightPart_antitone : Antitone heightPart := by
  intro m n hmn
  unfold heightPart
  split_ifs
  · exact le_rfl
  · omega
  · norm_num
  · exact le_rfl

/-- The part falls with each character up to the fourth, and below all of these with the fifth. -/
theorem widthPart_antitone : Antitone widthPart := by
  intro m n hmn
  have hpos : (0 : ℚ) < (max m 1 : Nat) := by
    exact_mod_cast Nat.lt_of_lt_of_le one_pos (le_max_right m 1)
  unfold widthPart
  split_ifs with hn hm hm
  · have hcast : ((max m 1 : Nat) : ℚ) ≤ (max n 1 : Nat) := by
      exact_mod_cast max_le_max_right 1 hmn
    gcongr
  · omega
  · have hcast : ((max m 1 : Nat) : ℚ) ≤ 4 := by
      exact_mod_cast max_le hm (by decide)
    rw [div_le_div_iff₀ (by norm_num) hpos]
    linarith
  · exact le_rfl

/-- A table with longer texts or smaller cells never gets a larger font, and no table gets one above
the limit. -/
theorem fontSize_anti (hlongest : longestText brief cfg ≤ longestText wordy cfg)
    (hw₁ : 0 ≤ w₁) (hw : w₁ ≤ w₂) (hh₁ : 0 ≤ h₁) (hh : h₁ ≤ h₂) :
    fontSize wordy w₁ h₁ cfg ≤ fontSize brief w₂ h₂ cfg ∧
    fontSize brief w₂ h₂ cfg ≤ cfg.maxFontSize ∧ fontSize wordy w₁ h₁ cfg ≤ cfg.maxFontSize := by
  rw [fontSize_eq, fontSize_eq]
  refine ⟨min_le_min_right _ (min_le_min ?_ ?_), min_le_right _ _, min_le_right _ _⟩
  · exact mul_le_mul hh (heightPart_antitone hlongest) (heightPart_nonneg _) (hh₁.trans hh)
  · exact mul_le_mul hw (widthPart_antitone hlongest) (widthPart_nonneg _) (hw₁.trans hw)

/-- Texts of up to four characters, one of them empty. -/
def briefTexts : List (List String) := [["go", ""], ["stop"]]

/-- Texts of which one is cut and drawn with its ellipsis. -/
def wordyTexts : List (List String) := [["", "a"], ["signal"]]

theorem fontSize_anti_brief :
    longestText briefTexts ({} : Config ℚ) ≤ longestText wordyTexts ({} : Config ℚ) ∧
    (0 : ℚ) ≤ 22 ∧ (22 : ℚ) ≤ 40 ∧ (0 : ℚ) ≤ 30 ∧ (30 : ℚ) ≤ 50 ∧
    fontSize wordyTexts (22 : ℚ) 30 {} = 4 ∧ fontSize briefTexts (40 : ℚ) 50 {} = 12 ∧
    fontSize wordyTexts (22 : ℚ) 30 {} ≤ fontSize briefTexts (40 : ℚ) 50 {} := by
  have hlongest : longestText briefTexts ({} : Config ℚ) ≤
      longestText wordyTexts ({} : Config ℚ) := by
    decide +kernel
  have hw₁ : (0 : ℚ) ≤ 22 := by norm_num
  have hw : (22 : ℚ) ≤ 40 := by norm_num
  have hh₁ : (0 : ℚ) ≤ 30 := by norm_num
  have hh : (30 : ℚ) ≤ 50 := by norm_num
  exact ⟨hlongest, hw₁, hw, hh₁, hh, by decide +kernel, by decide +kernel,
    (fontSize_anti hlongest hw₁ hw hh₁ hh).1⟩

end Flipbook.Layout
