import Mathlib
import Flipbook.Proofs.Words
import Flipbook.Script.Writer

/-!
Which lines are script lines, said by their words: blanks between the words never matter. The line
that a command is written on leads back to its mode and its words.
-/
namespace Flipbook.Script

open Text

variable {cs l w r : List Char} {line mode : String} {ws us : List String}

/-! ## Script lines by their words -/

/-- Whether characters that start with no blank open a script line: they start with `$v`, and a
parenthesis that follows at once encloses a name. -/
def OpensScript (cs : List Char) : Prop :=
  ['$', 'v'] <+: cs ∧ (['$', 'v', '('] <+: cs → ¬ ['$', 'v', '(', ')'] <+: cs ∧ ')' ∈ cs)

theorem routeChars_isSome (cs : List Char) : (routeChars cs).isSome = true ↔ OpensScript cs := by
  unfold routeChars OpensScript
  split
  next cs =>
    have hdrop : cs.dropWhile (· != ')') = [] ↔ ')' ∉ cs := by
      rw [List.dropWhile_eq_nil_iff]
      constructor
      · intro h hc
        simpa using h _ hc
      · intro h c hc
        rw [bne_iff_ne]
        rintro rfl
        exact h hc
    cases cs with
    | nil => simp
    | cons c cs =>
      by_cases hc : c = ')'
      · subst hc
        simp
      · cases h : (c :: cs).dropWhile (· != ')') with
        | nil => simp [hdrop.mp h]
        | cons d ds =>
          have hmem : ')' ∈ c :: cs := by
            by_contra hn
            simp [hdrop.mpr hn] at h
          have htake : ((c :: cs).takeWhile (· != ')')).isEmpty = false := by simp [hc]
          simpa [htake, Ne.symm hc] using hmem
  next cs hcs =>
    have hcs' : ¬ ['('] <+: cs := by
      rintro ⟨t, rfl⟩
      exact hcs t rfl
    simpa using fun h => absurd h hcs'
  next h₁ h₂ =>
    have hcs : ¬ ['$', 'v'] <+: cs := by
      rintro ⟨t, rfl⟩
      exact h₂ t rfl
    simp [hcs]

theorem isBlank_of_mem_mark (n : Nat) : ∀ c ∈ ['$', 'v', '(', ')'].take n, isBlank c = false := by
  intro c hc
  have hmem := List.mem_of_mem_take hc
  fin_cases hmem <;> rfl

/-- What starts a text and holds no blank starts its first word. -/
theorem prefix_word (hl : ∀ c ∈ l, isBlank c = false) (hr : ∀ c ∈ r.head?, isBlank c = true) :
    l <+: w ++ r ↔ l <+: w := by
  constructor
  · intro h
    rcases List.prefix_or_prefix_of_prefix h (List.prefix_append w r) with h' | ⟨t, rfl⟩
    · exact h'
    · cases t with
      | nil => simp
      | cons c t =>
        rw [List.prefix_append_right_inj] at h
        cases r with
        | nil => simp at h
        | cons d r =>
          have hcd : c = d := (List.cons_prefix_cons.mp h).1
          have hd := hr d rfl
          rw [← hcd, hl c (by simp)] at hd
          exact absurd hd Bool.false_ne_true
  · intro h
    exact h.trans (List.prefix_append w r)

/-- Words open a script line when the first of them starts like one; the parenthesis that ends the
name of a mode may stand in a later word. -/
def OpenScript : List String → Prop
  | [] => False
  | w :: ws => ['$', 'v'] <+: w.toList ∧ (['$', 'v', '('] <+: w.toList →
      ¬ ['$', 'v', '(', ')'] <+: w.toList ∧ ∃ u ∈ w :: ws, ')' ∈ u.toList)

/-- Whether a line is a script line depends on its words only. -/
theorem isScript_iff (line : String) : isScript line = true ↔ OpenScript (words line) := by
  unfold isScript route
  rw [routeChars_isSome]
  have hwords : words line = words (String.ofList (trimBoth isBlank line.toList)) :=
    (words_trim line).symm
  have hhead := head?_trimBoth isBlank line.toList
  rw [hwords]
  generalize trimBoth isBlank line.toList = cs at hhead
  cases cs with
  | nil => simp [OpensScript, words_empty, OpenScript]
  | cons c cs =>
    obtain ⟨w, r, hsplit, hblank, hchars⟩ := exists_first_word (List.cons_ne_nil c cs) hhead
    have hparen := mem_iff_mem_words (s := String.ofList (c :: cs)) (c := ')') (by decide)
    rw [String.toList_ofList] at hparen
    rw [hchars] at hparen ⊢
    simp only [OpensScript, OpenScript, hparen, String.toList_ofList]
    have hword (n : Nat) :=
      prefix_word (w := w) (isBlank_of_mem_mark n) hblank
    rw [hsplit]
    exact and_congr (hword 2) (imp_congr (hword 3) (and_congr (hword 4).not Iff.rfl))

theorem isScript_eq_false_iff : isScript line = false ↔ ¬ OpenScript (words line) := by
  rw [← isScript_iff, Bool.not_eq_true]

theorem not_openScript_of_head (h : ∀ u ∈ ws.head?, u.toList.head? ≠ some '$') :
    ¬ OpenScript ws := by
  cases ws with
  | nil => exact id
  | cons u us =>
    rintro ⟨⟨t, ht⟩, -⟩
    exact h u rfl (by rw [← ht]; rfl)

/-- Words that open a script line still do so before other words. -/
theorem OpenScript.append (h : OpenScript ws) (us : List String) : OpenScript (ws ++ us) := by
  cases ws with
  | nil => exact h.elim
  | cons w ws =>
    refine ⟨h.1, fun hp => ⟨(h.2 hp).1, ?_⟩⟩
    obtain ⟨u, hu, hc⟩ := (h.2 hp).2
    exact ⟨u, List.mem_append_left us hu, hc⟩

/-- Later words without a closing parenthesis have no part in opening a script line. -/
theorem OpenScript.of_append (h : OpenScript (ws ++ us)) (hws : ws ≠ [])
    (hus : ∀ u ∈ us, ')' ∉ u.toList) : OpenScript ws := by
  cases ws with
  | nil => exact absurd rfl hws
  | cons w ws =>
    refine ⟨h.1, fun hp => ⟨(h.2 hp).1, ?_⟩⟩
    obtain ⟨u, hu, hc⟩ := (h.2 hp).2
    change u ∈ (w :: ws) ++ us at hu
    rw [List.mem_append] at hu
    rcases hu with hu | hu
    · exact ⟨u, hu, hc⟩
    · exact absurd hc (hus u hu)

/-! ## Written script lines -/

/-- A text that a script line can name as its mode. -/
def IsModeName (mode : String) : Prop := mode ≠ "" ∧ ')' ∉ mode.toList ∧ '\n' ∉ mode.toList

instance (mode : String) : Decidable (IsModeName mode) := inferInstanceAs (Decidable (_ ∧ _))

theorem isModeName_default : IsModeName defaultMode := by decide

theorem routeChars_default {cs : List Char} (h : cs.head? ≠ some '(') :
    routeChars ('$' :: 'v' :: cs) =
      some ⟨defaultMode, String.ofList (trimBoth isBlank cs)⟩ := by
  cases cs with
  | nil => rfl
  | cons c cs =>
    have hc : c ≠ '(' := fun he => h (by rw [he]; rfl)
    rw [routeChars]
    intro ds hds
    exact hc (List.cons.inj hds).1

theorem routeChars_mode (hne : mode ≠ "") (h : ')' ∉ mode.toList) (cs : List Char) :
    routeChars ('$' :: 'v' :: '(' :: (mode.toList ++ ')' :: cs)) =
      some ⟨mode, String.ofList (trimBoth isBlank cs)⟩ := by
  obtain ⟨htake, hdrop⟩ := span_append_mark h cs
  have hempty : mode.toList.isEmpty = false := by
    rw [List.isEmpty_eq_false_iff, ne_eq, String.toList_eq_nil_iff]
    exact hne
  simp [routeChars, htake, hdrop, hempty]

theorem toList_modeMark (mode : String) : (modeMark mode).toList =
    if mode = defaultMode then ['$', 'v'] else '$' :: 'v' :: '(' :: (mode.toList ++ [')']) := by
  unfold modeMark
  split <;> simp

theorem head?_modeMark (mode : String) : (modeMark mode).toList.head? = some '$' := by
  rw [toList_modeMark]
  split <;> rfl

theorem isBlank_last_modeMark (mode : String) :
    ∀ c ∈ (modeMark mode).toList.getLast?, isBlank c = false := by
  intro c hc
  rw [toList_modeMark] at hc
  split at hc
  · obtain rfl : 'v' = c := by simpa using hc
    decide
  · rw [← List.cons_append, ← List.cons_append, ← List.cons_append, List.getLast?_concat] at hc
    obtain rfl : ')' = c := by simpa using hc
    decide

/-- The line of a mode leads back to the mode and to what was written after it. -/
theorem route_written (hm : IsModeName mode) {parts : List String} (hp : parts ≠ []) :
    route (trimEnd (spaced (modeMark mode :: parts))) = some ⟨mode, trim (spaced parts)⟩ := by
  have hline : (spaced (modeMark mode :: parts)).toList =
      (modeMark mode).toList ++ ' ' :: (spaced parts).toList := by
    unfold spaced
    rw [String.intercalate_cons_of_ne_nil hp]
    simp
  have hhead : ∀ c ∈ ((modeMark mode).toList ++ ' ' :: (spaced parts).toList).head?,
      isBlank c = false := by
    intro c hc
    rw [List.head?_append, head?_modeMark] at hc
    obtain rfl : '$' = c := by simpa using hc
    decide
  have hrest : trimBoth isBlank (trimRight isBlank (' ' :: (spaced parts).toList)) =
      trimBoth isBlank (spaced parts).toList := by
    rw [trimBoth_trimRight, trimBoth_cons (by decide)]
  have hparen : (trimRight isBlank (' ' :: (spaced parts).toList)).head? ≠ some '(' := by
    obtain ⟨t, ht⟩ := prefix_trimRight isBlank (' ' :: (spaced parts).toList)
    intro hc
    have hcons := congrArg List.head? ht
    rw [List.head?_append, hc] at hcons
    simp at hcons
  rw [route, trimEnd, String.toList_ofList, trimBoth_trimRight, hline,
    trimBoth_eq_trimRight hhead, trimRight_append_right (isBlank_last_modeMark mode),
    toList_modeMark]
  split
  next hd =>
    rw [List.cons_append, List.cons_append, List.nil_append, routeChars_default hparen, hrest, hd]
    rfl
  next hd =>
    rw [List.cons_append, List.cons_append, List.cons_append, List.append_assoc,
      List.singleton_append, routeChars_mode hm.1 hm.2.1, hrest]
    rfl

end Flipbook.Script
