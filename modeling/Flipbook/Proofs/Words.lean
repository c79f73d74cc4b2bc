import Mathlib
import Flipbook.Proofs.Lists
import Flipbook.Text.Blank

/-!
Texts put together from parts. Cutting and trimming look at one end of a part at a time, so the
words of a line are those of its parts, and lines come back from the text that they were joined to.
-/
namespace Flipbook.Text

variable {p : Char → Bool} {c : Char} {a b cs : List Char} {s t : String} {ls : List String}

/-- A text without blanks that is not empty: what stands between two blanks of a line. -/
def IsToken (s : String) : Prop := s ≠ "" ∧ ∀ c ∈ s.toList, isBlank c = false

instance (s : String) : Decidable (IsToken s) :=
  decidable_of_iff (s ≠ "" ∧ (s.toList.all fun c => !isBlank c) = true) (by simp [IsToken])

/-! ## Cutting -/

theorem cut_eq_splitOnP (p : Char → Bool) (cs : List Char) : cut p cs = cs.splitOnP p := by
  induction cs with
  | nil => rfl
  | cons c cs ih =>
    have hcut : cut p (c :: cs) =
        if p c then [] :: cut p cs else (cut p cs).modifyHead (c :: ·) := by
      by_cases h : p c <;> simp [cut, cutStep, h]
    rw [hcut, List.splitOnP_cons_eq_if_modifyHead, ih]

theorem cut_append_cons (h : p c = true) (a b : List Char) :
    cut p (a ++ c :: b) = cut p a ++ cut p b := by
  simp only [cut_eq_splitOnP, List.splitOnP_append_cons a b h]

theorem cut_eq_singleton (h : ∀ c ∈ a, p c = false) : cut p a = [a] := by
  rw [cut_eq_splitOnP, List.splitOnP_eq_singleton h]

/-- The pieces hold no separator, and every other character is in one of them. -/
theorem mem_flatten_cut (p : Char → Bool) (cs : List Char) :
    c ∈ (cut p cs).flatten ↔ c ∈ cs ∧ p c = false := by
  induction cs with
  | nil => simp [cut]
  | cons d cs ih =>
    rw [cut_eq_splitOnP] at ih ⊢
    rw [List.splitOnP_cons_eq_if_modifyHead]
    by_cases hd : p d
    · rw [if_pos hd, List.flatten_cons, List.nil_append, ih]
      constructor
      · rintro ⟨hc, hp⟩
        exact ⟨List.mem_cons_of_mem _ hc, hp⟩
      · rintro ⟨hc, hp⟩
        rcases List.mem_cons.mp hc with rfl | hc
        · simp [hd] at hp
        · exact ⟨hc, hp⟩
    · rw [if_neg hd]
      obtain ⟨x, xs, hx⟩ := List.exists_cons_of_ne_nil (List.splitOnP_ne_nil p cs)
      rw [hx] at ih ⊢
      rw [List.modifyHead_cons, List.flatten_cons, List.cons_append, List.mem_cons,
        ← List.flatten_cons, ih, List.mem_cons]
      constructor
      · rintro (rfl | ⟨hc, hp⟩)
        · exact ⟨.inl rfl, by simpa using hd⟩
        · exact ⟨.inr hc, hp⟩
      · rintro ⟨rfl | hc, hp⟩
        · exact .inl rfl
        · exact .inr ⟨hc, hp⟩

/-! ## Trimming -/

theorem trimRight_eq_self (h : ∀ c ∈ cs.getLast?, p c = false) : trimRight p cs = cs := by
  refine List.rdropWhile_eq_self_iff.mpr fun hne => ?_
  simpa using h _ (List.getLast?_eq_some_getLast hne)

theorem trimRight_append (h : trimRight p b ≠ []) :
    trimRight p (a ++ b) = a ++ trimRight p b := by
  unfold trimRight at h ⊢
  rw [List.reverse_append, List.dropWhile_append]
  have hne : (b.reverse.dropWhile p).isEmpty = false := by
    simpa [List.isEmpty_eq_false_iff] using h
  simp [hne]

theorem trimRight_append_of_all (h : ∀ c ∈ b, p c = true) :
    trimRight p (a ++ b) = trimRight p a := by
  unfold trimRight
  have hnil : b.reverse.dropWhile p = [] := by
    rw [List.dropWhile_eq_nil_iff]
    intro c hc
    exact h c (List.mem_reverse.mp hc)
  rw [List.reverse_append, List.dropWhile_append, hnil]
  simp

theorem prefix_trimRight (p : Char → Bool) (cs : List Char) : trimRight p cs <+: cs :=
  List.rdropWhile_prefix p cs

/-- What trimming takes from the end belongs to the class. -/
theorem exists_trimRight_append (p : Char → Bool) (cs : List Char) :
    ∃ tail, cs = trimRight p cs ++ tail ∧ ∀ c ∈ tail, p c = true :=
  ⟨cs.rtakeWhile p, List.rdropWhile_append_rtakeWhile.symm,
    fun _ hc => List.mem_rtakeWhile_imp hc⟩

/-- A part that does not end in the class is safe from trimming. -/
theorem trimRight_append_right (h : ∀ c ∈ a.getLast?, p c = false) (b : List Char) :
    trimRight p (a ++ b) = a ++ trimRight p b := by
  by_cases hb : trimRight p b = []
  · rw [hb, List.append_nil]
    have hall : ∀ c ∈ b, p c = true := (List.rdropWhile_eq_nil_iff).mp hb
    rw [trimRight_append_of_all hall, trimRight_eq_self h]
  · exact trimRight_append hb

theorem trimRight_trimRight (p : Char → Bool) (cs : List Char) :
    trimRight p (trimRight p cs) = trimRight p cs :=
  List.rdropWhile_idempotent p cs

theorem trimLeft_append_of_all (h : ∀ c ∈ a, p c = true) :
    trimLeft p (a ++ b) = trimLeft p b := by
  unfold trimLeft
  rw [List.dropWhile_append, List.dropWhile_eq_nil_iff.mpr h]
  simp

theorem trimLeft_eq_self (h : ∀ c ∈ cs.head?, p c = false) : trimLeft p cs = cs := by
  cases cs with
  | nil => rfl
  | cons c cs => simp [trimLeft, h c rfl]

/-- Trimming at the two ends commutes. -/
theorem trimLeft_trimRight (p : Char → Bool) (cs : List Char) :
    trimLeft p (trimRight p cs) = trimRight p (trimLeft p cs) := by
  have hsplit : cs = cs.takeWhile p ++ cs.dropWhile p := List.takeWhile_append_dropWhile.symm
  have hall : ∀ c ∈ cs.takeWhile p, p c = true := fun c hc => List.mem_takeWhile_imp hc
  unfold trimLeft
  by_cases h : trimRight p (cs.dropWhile p) = []
  · have hdrop : ∀ c ∈ cs.dropWhile p, p c = true := (List.rdropWhile_eq_nil_iff).mp h
    have hcs : ∀ c ∈ cs, p c = true := by
      intro c hc
      rw [hsplit] at hc
      rcases List.mem_append.mp hc with hc | hc
      · exact hall c hc
      · exact hdrop c hc
    have hnil : trimRight p cs = [] := List.rdropWhile_eq_nil_iff.mpr hcs
    rw [h, hnil, List.dropWhile_nil]
  · have hcs : trimRight p cs = cs.takeWhile p ++ trimRight p (cs.dropWhile p) := by
      conv_lhs => rw [hsplit]
      exact trimRight_append h
    rw [hcs, List.dropWhile_append, List.dropWhile_eq_nil_iff.mpr hall]
    simp only [List.isEmpty_nil, if_true]
    obtain ⟨tail, ht⟩ := prefix_trimRight p (cs.dropWhile p)
    cases hr : trimRight p (cs.dropWhile p) with
    | nil => exact absurd hr h
    | cons d ds =>
      have hd : p d = false := by
        have hhead : (cs.dropWhile p).head? = some d := by rw [← ht, hr]; rfl
        have hnot := List.head?_dropWhile_not p cs
        rw [hhead] at hnot
        exact hnot
      exact List.dropWhile_cons_of_neg (by simp [hd])

theorem trimBoth_trimRight (p : Char → Bool) (cs : List Char) :
    trimBoth p (trimRight p cs) = trimBoth p cs := by
  unfold trimBoth
  rw [trimLeft_trimRight, trimRight_trimRight]

theorem trimBoth_cons (h : p c = true) (cs : List Char) :
    trimBoth p (c :: cs) = trimBoth p cs := by
  unfold trimBoth trimLeft
  rw [List.dropWhile_cons_of_pos h]

theorem trimBoth_eq_trimRight (h : ∀ c ∈ cs.head?, p c = false) :
    trimBoth p cs = trimRight p cs := by
  unfold trimBoth
  rw [trimLeft_eq_self h]

theorem head?_trimBoth (p : Char → Bool) (cs : List Char) :
    ∀ c ∈ (trimBoth p cs).head?, p c = false := by
  intro c hc
  obtain ⟨tail, htail⟩ := prefix_trimRight p (trimLeft p cs)
  have hhead : (cs.dropWhile p).head? = some c := by
    have hleft : trimLeft p cs = trimBoth p cs ++ tail := htail.symm
    rw [trimLeft] at hleft
    rw [hleft, List.head?_append, hc]
    rfl
  have hnot := List.head?_dropWhile_not p cs
  rw [hhead] at hnot
  simpa using hnot

theorem mem_of_mem_trimBoth {c : Char} (h : c ∈ trimBoth p cs) : c ∈ cs :=
  (List.dropWhile_suffix p).subset ((prefix_trimRight p _).subset h)

theorem trimRight_trimBoth (p : Char → Bool) (cs : List Char) :
    trimRight p (trimBoth p cs) = trimBoth p cs := trimRight_trimRight p _

theorem trimBoth_trimBoth (p : Char → Bool) (cs : List Char) :
    trimBoth p (trimBoth p cs) = trimBoth p cs := by
  rw [trimBoth_eq_trimRight (head?_trimBoth p cs), trimRight_trimBoth]

/-- A text without margins starts with no blank, and nothing is trimmed from its end. -/
theorem margins_of_trim_eq {s : String} (h : trim s = s) :
    (∀ c ∈ s.toList.head?, isBlank c = false) ∧ trimEnd s = s := by
  have hchars : trimBoth isBlank s.toList = s.toList := by
    have hlist := congrArg String.toList h
    rwa [trim, String.toList_ofList] at hlist
  constructor
  · have hhead := head?_trimBoth isBlank s.toList
    rwa [hchars] at hhead
  · have hright := trimRight_trimBoth isBlank s.toList
    rw [hchars] at hright
    rw [trimEnd, hright, String.ofList_toList]

theorem trimEnd_eq_self {s : String} (h : ∀ c ∈ s.toList.getLast?, isBlank c = false) :
    trimEnd s = s := by
  rw [trimEnd, trimRight_eq_self h, String.ofList_toList]

/-! ## Words -/

/-- The words of a text, as lists of characters. -/
def wordChars (cs : List Char) : List (List Char) := (cut isBlank cs).filter fun piece => !piece.isEmpty

theorem words_ofList (cs : List Char) :
    words (String.ofList cs) = (wordChars cs).map String.ofList := by
  simp [words, wordChars]

theorem wordChars_append_cons (h : isBlank c = true) (a b : List Char) :
    wordChars (a ++ c :: b) = wordChars a ++ wordChars b := by
  rw [wordChars, cut_append_cons h, List.filter_append]
  rfl

theorem wordChars_cons (h : isBlank c = true) (cs : List Char) :
    wordChars (c :: cs) = wordChars cs := wordChars_append_cons h [] cs

theorem wordChars_of_all (h : ∀ c ∈ cs, isBlank c = true) : wordChars cs = [] := by
  induction cs with
  | nil => rfl
  | cons c cs ih =>
    rw [wordChars_cons (h c List.mem_cons_self)]
    exact ih fun d hd => h d (List.mem_cons_of_mem _ hd)

theorem wordChars_append_of_all (h : ∀ c ∈ b, isBlank c = true) :
    wordChars (a ++ b) = wordChars a := by
  cases b with
  | nil => rw [List.append_nil]
  | cons c b =>
    rw [wordChars_append_cons (h c List.mem_cons_self),
      wordChars_of_all fun d hd => h d (List.mem_cons_of_mem _ hd), List.append_nil]

theorem wordChars_singleton (hne : a ≠ []) (h : ∀ c ∈ a, isBlank c = false) :
    wordChars a = [a] := by
  rw [wordChars, cut_eq_singleton h]
  simp [hne]

/-- A word ends where a blank follows or nothing does. -/
theorem wordChars_append (hne : a ≠ []) (h : ∀ c ∈ a, isBlank c = false)
    (hb : ∀ c ∈ b.head?, isBlank c = true) : wordChars (a ++ b) = a :: wordChars b := by
  cases b with
  | nil => rw [List.append_nil, wordChars_singleton hne h]; rfl
  | cons c b =>
    have hc := hb c rfl
    rw [wordChars_append_cons hc, wordChars_cons hc, wordChars_singleton hne h]
    rfl

/-- A text that starts with no blank starts with its first word; a blank follows, or nothing. -/
theorem exists_first_word (hne : cs ≠ []) (h : ∀ c ∈ cs.head?, isBlank c = false) :
    ∃ w rest, cs = w ++ rest ∧ (∀ c ∈ rest.head?, isBlank c = true) ∧
      words (String.ofList cs) = String.ofList w :: (wordChars rest).map String.ofList := by
  have hsplit : cs.takeWhile (!isBlank ·) ++ cs.dropWhile (!isBlank ·) = cs :=
    List.takeWhile_append_dropWhile
  have hword : ∀ c ∈ cs.takeWhile (!isBlank ·), isBlank c = false := by
    intro c hc
    simpa using List.mem_takeWhile_imp hc
  have hblank : ∀ c ∈ (cs.dropWhile (!isBlank ·)).head?, isBlank c = true := by
    intro c hc
    have hnot := List.head?_dropWhile_not (!isBlank ·) cs
    rw [Option.mem_def.mp hc] at hnot
    simpa using hnot
  have hfirst : cs.takeWhile (!isBlank ·) ≠ [] := by
    obtain ⟨c, ds, rfl⟩ := List.exists_cons_of_ne_nil hne
    simp [h c rfl]
  refine ⟨_, _, hsplit.symm, hblank, ?_⟩
  rw [words_ofList]
  conv_lhs => rw [← hsplit]
  rw [wordChars_append hfirst hword hblank, List.map_cons]

theorem wordChars_trimLeft (cs : List Char) : wordChars (trimLeft isBlank cs) = wordChars cs := by
  induction cs with
  | nil => rfl
  | cons c cs ih =>
    unfold trimLeft at ih ⊢
    by_cases h : isBlank c = true
    · rw [List.dropWhile_cons_of_pos h, ih, wordChars_cons h]
    · rw [List.dropWhile_cons_of_neg h]

theorem wordChars_trimRight (cs : List Char) :
    wordChars (trimRight isBlank cs) = wordChars cs := by
  obtain ⟨tail, hcs, hall⟩ := exists_trimRight_append isBlank cs
  conv_rhs => rw [hcs, wordChars_append_of_all hall]

theorem mem_flatten_wordChars (cs : List Char) :
    c ∈ (wordChars cs).flatten ↔ c ∈ cs ∧ isBlank c = false := by
  rw [← mem_flatten_cut isBlank cs, wordChars, List.mem_flatten, List.mem_flatten]
  constructor
  · rintro ⟨l, hl, hc⟩
    exact ⟨l, List.mem_of_mem_filter hl, hc⟩
  · rintro ⟨l, hl, hc⟩
    refine ⟨l, List.mem_filter.mpr ⟨hl, ?_⟩, hc⟩
    simpa using List.ne_nil_of_mem hc

theorem words_token (h : IsToken s) : words s = [s] := by
  have hne : s.toList ≠ [] := by simpa using h.1
  rw [← String.ofList_toList (s := s), words_ofList, wordChars_singleton hne h.2]
  rfl

theorem words_empty : words "" = [] := rfl

theorem words_append_space (s t : String) : words (s ++ " " ++ t) = words s ++ words t := by
  have hs : s ++ " " ++ t = String.ofList (s.toList ++ ' ' :: t.toList) := by
    rw [← String.toList_inj]
    simp
  rw [hs, words_ofList, wordChars_append_cons (by decide), List.map_append, ← words_ofList,
    ← words_ofList, String.ofList_toList, String.ofList_toList]

/-- A line of parts has the words of the parts. -/
theorem words_intercalate (parts : List String) :
    words (" ".intercalate parts) = parts.flatMap words := by
  induction parts with
  | nil => simp [words_empty]
  | cons s parts ih =>
    by_cases h : parts = []
    · simp [h]
    · rw [String.intercalate_cons_of_ne_nil h, words_append_space, ih, List.flatMap_cons]

theorem words_trimEnd (s : String) : words (trimEnd s) = words s := by
  rw [trimEnd, words_ofList, wordChars_trimRight, ← words_ofList, String.ofList_toList]

theorem words_trim (s : String) : words (trim s) = words s := by
  rw [trim, words_ofList, trimBoth, wordChars_trimRight, wordChars_trimLeft, ← words_ofList,
    String.ofList_toList]

/-- The words of a text are tokens made of its characters. -/
theorem isToken_of_mem_words (h : t ∈ words s) : IsToken t ∧ ∀ c ∈ t.toList, c ∈ s.toList := by
  rw [← String.ofList_toList (s := s), words_ofList] at h
  obtain ⟨w, hw, rfl⟩ := List.mem_map.mp h
  have hne : w ≠ [] := by simpa using (List.mem_filter.mp hw).2
  have hmem : ∀ c ∈ w, c ∈ s.toList ∧ isBlank c = false := fun c hc =>
    (mem_flatten_wordChars _).mp (List.mem_flatten.mpr ⟨w, hw, hc⟩)
  simp only [IsToken, String.toList_ofList, ne_eq, String.ofList_eq_empty_iff]
  exact ⟨⟨hne, fun c hc => (hmem c hc).2⟩, fun c hc => (hmem c hc).1⟩

/-- A character that is no blank stands in a text if and only if it stands in one of its words. -/
theorem mem_iff_mem_words (hc : isBlank c = false) :
    c ∈ s.toList ↔ ∃ w ∈ words s, c ∈ w.toList := by
  constructor
  · intro h
    have hmem := (mem_flatten_wordChars s.toList).mpr ⟨h, hc⟩
    obtain ⟨w, hw, hcw⟩ := List.mem_flatten.mp hmem
    refine ⟨String.ofList w, ?_, by simpa using hcw⟩
    rw [← String.ofList_toList (s := s), words_ofList]
    exact List.mem_map.mpr ⟨w, by simpa using hw, rfl⟩
  · rintro ⟨w, hw, hcw⟩
    exact (isToken_of_mem_words hw).2 c hcw

/-- The complete pairs of a row of words; a word that is left over at the end is in none. -/
def wordPairs : List String → List (String × String)
  | first :: second :: more => (first, second) :: wordPairs more
  | _ => []

theorem length_wordPairs (row : List String) : (wordPairs row).length = row.length / 2 := by
  fun_induction wordPairs row with
  | case1 first second more ih =>
    simp only [List.length_cons, ih]
    omega
  | case2 row hrow =>
    rcases row with _ | ⟨first, _ | ⟨second, more⟩⟩
    · rfl
    · simp
    · exact absurd rfl (hrow first second more)

/-! ## Lines -/

theorem toList_unlines (ls : List String) :
    (unlines ls).toList = ls.flatMap fun l => l.toList ++ ['\n'] := by
  simp [unlines, List.flatMap_map]

theorem unlines_append (ls ms : List String) : unlines (ls ++ ms) = unlines ls ++ unlines ms := by
  simp [unlines]

theorem splitAt_unlines (h : ∀ l ∈ ls, '\n' ∉ l.toList) :
    splitAt '\n' (unlines ls) = ls ++ [""] := by
  unfold splitAt
  rw [toList_unlines]
  induction ls with
  | nil => rfl
  | cons l ls ih =>
    have hl : ∀ c ∈ l.toList, (c == '\n') = false := by
      intro c hc
      refine beq_false_of_ne ?_
      rintro rfl
      exact h l List.mem_cons_self hc
    rw [List.flatMap_cons, List.append_assoc, List.singleton_append,
      cut_append_cons (p := (· == '\n')) (by decide), cut_eq_singleton hl, List.map_append,
      ih fun m hm => h m (List.mem_cons_of_mem _ hm)]
    simp

/-- Lines that were joined to a text come back, with an empty last one. -/
theorem lines_unlines (hne : ls ≠ []) (h : ∀ l ∈ ls, '\n' ∉ l.toList) :
    lines (unlines ls) = ls ++ [""] := by
  have hs : (unlines ls).isEmpty = false := by
    rw [Bool.eq_false_iff, ne_eq, String.isEmpty_iff, ← String.toList_eq_nil_iff, toList_unlines]
    cases ls with
    | nil => exact absurd rfl hne
    | cons l ls => simp
  rw [lines, hs, if_neg Bool.false_ne_true, splitAt_unlines h]

theorem unlines_eq_intercalate (hne : ls ≠ []) : unlines ls = "\n".intercalate ls ++ "\n" := by
  induction ls with
  | nil => exact absurd rfl hne
  | cons l ls ih =>
    cases ls with
    | nil => simp [unlines]
    | cons m ms =>
      have hcons : unlines (l :: m :: ms) = l ++ "\n" ++ unlines (m :: ms) := by simp [unlines]
      rw [hcons, ih (List.cons_ne_nil m ms), String.intercalate_cons_cons]
      simp only [String.append_assoc]

/-- Lines joined by line feeds come back, but a single empty line is no line. -/
theorem lines_intercalate (hne : ls ≠ [""]) (h : ∀ l ∈ ls, '\n' ∉ l.toList) :
    lines ("\n".intercalate ls) = ls := by
  by_cases hnil : ls = []
  · subst hnil
    rfl
  have hsplit : splitAt '\n' ("\n".intercalate ls) = ls := by
    have hended := splitAt_unlines h
    rw [unlines_eq_intercalate hnil, splitAt, String.toList_append] at hended
    have hfeed : "\n".toList = ['\n'] := rfl
    rw [hfeed, cut_append_cons (p := (· == '\n')) (by decide), List.map_append] at hended
    exact List.append_cancel_right hended
  have hfull : ("\n".intercalate ls).isEmpty = false := by
    rw [Bool.eq_false_iff, ne_eq, String.isEmpty_iff]
    intro hempty
    rw [hempty] at hsplit
    exact hne hsplit.symm
  rw [lines, hfull, if_neg Bool.false_ne_true, hsplit]

/-- No line of a text holds a line feed. -/
theorem not_mem_of_mem_lines (h : t ∈ lines s) : '\n' ∉ t.toList := by
  unfold lines splitAt at h
  split at h
  · simp at h
  · obtain ⟨w, hw, rfl⟩ := List.mem_map.mp h
    intro hc
    rw [String.toList_ofList] at hc
    have hmem := (mem_flatten_cut _ _).mp (List.mem_flatten.mpr ⟨w, hw, hc⟩)
    simp at hmem

end Flipbook.Text
