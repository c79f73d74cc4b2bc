import Mathlib
import Flipbook.Proofs.Dispatch
import Flipbook.Proofs.Rows

/-!
Command texts as they are written: a keyword, bounds that may follow it at once, and parameters.
Each resolves to the command of its keyword, with the bounds and the parameters that were written.
-/
namespace Flipbook.Script

open Text

variable {key head t : String} {params : List String} {bounds : Option (Rect Binary64)}
  {r : Rect Binary64} {cs rest : List Char} {maxCells number line : Int} {lines : List String}

/-- A word that may open a command text. -/
def IsKeyword (key : String) : Prop := IsToken key ∧ '(' ∉ key.toList

instance (key : String) : Decidable (IsKeyword key) := inferInstanceAs (Decidable (_ ∧ _))

theorem isKeyword (k : Kind) : IsKeyword k.keyword := by
  cases k <;> decide

/-! ## The characters of a command text -/

/-- A command text starts with its first part, and a blank follows that part if anything does. -/
theorem toList_header (hne : head ≠ "") (hfirst : ∀ c ∈ head.toList.head?, isBlank c = false)
    (hlast : ∀ c ∈ head.toList.getLast?, isBlank c = false) (params : List String) :
    ∃ rest, (trim (spaced (head :: params))).toList = head.toList ++ rest ∧
      (∀ c ∈ rest.head?, isBlank c = true) ∧
      words (String.ofList rest) = params.flatMap words ∧
      trimBoth isBlank rest = trimBoth isBlank (spaced params).toList := by
  by_cases h : params = []
  · subst h
    refine ⟨[], ?_, by simp, rfl, rfl⟩
    rw [trim, String.toList_ofList, spaced, String.intercalate_singleton,
      trimBoth_eq_trimRight hfirst, trimRight_eq_self hlast, List.append_nil]
  · have hspaced : (spaced (head :: params)).toList =
        head.toList ++ ' ' :: (spaced params).toList := by
      rw [spaced, String.intercalate_cons_of_ne_nil h]
      simp [spaced]
    have hchars : ∀ c ∈ (head.toList ++ ' ' :: (spaced params).toList).head?,
        isBlank c = false := by
      have hne' : head.toList ≠ [] := by simpa using hne
      obtain ⟨d, ds, hd⟩ := List.exists_cons_of_ne_nil hne'
      intro c hc
      rw [hd] at hc hfirst
      exact hfirst c hc
    refine ⟨trimRight isBlank (' ' :: (spaced params).toList), ?_, ?_, ?_, ?_⟩
    · rw [trim, String.toList_ofList, hspaced, trimBoth_eq_trimRight hchars,
        trimRight_append_right hlast]
    · intro c hc
      obtain ⟨tail, htail⟩ := prefix_trimRight isBlank (' ' :: (spaced params).toList)
      have hcons := congrArg List.head? htail
      rw [List.head?_append, Option.mem_def.mp hc] at hcons
      obtain rfl : c = ' ' := by simpa using hcons
      rfl
    · rw [words_ofList, wordChars_trimRight, wordChars_cons rfl, ← words_ofList,
        String.ofList_toList, words_spaced]
    · rw [trimBoth_trimRight, trimBoth_cons rfl]

theorem afterKeyword_append (key cs : List Char) : afterKeyword key (key ++ cs) = cs := by
  rw [afterKeyword, if_pos (List.isPrefixOf_iff_prefix.mpr (List.prefix_append key cs)),
    List.drop_left]

/-! ## Bounds -/

/-- The characters between the parentheses of written bounds. -/
def boundsInner (r : Rect Binary64) : List Char :=
  (", ".intercalate (r.sides.map Numeral.scriptText)).toList

theorem toList_boundsText (r : Rect Binary64) :
    (boundsText r).toList = '(' :: (boundsInner r ++ [')']) := by
  simp [boundsText, boundsInner]

theorem boundsInner_eq (r : Rect Binary64) : boundsInner r =
    (Numeral.scriptText r.left).toList ++ ',' :: (' ' :: (Numeral.scriptText r.top).toList ++
      ',' :: (' ' :: (Numeral.scriptText r.right).toList ++
        ',' :: ' ' :: (Numeral.scriptText r.bottom).toList)) := by
  simp [boundsInner, Rect.sides, String.intercalate_cons_cons]

theorem isNumeral_side (h : ∀ x ∈ r.sides, x.isFinite = true) {x : Binary64} (hx : x ∈ r.sides) :
    Numeral.IsNumeral (Numeral.scriptText x) := (Numeral.readFinite?_scriptText (h x hx)).1

/-- A side is read back, also after the blank that follows a comma. -/
theorem readFinite?_trim_side (h : ∀ x ∈ r.sides, x.isFinite = true) {x : Binary64}
    (hx : x ∈ r.sides) : Numeral.readFinite? (trim (Numeral.scriptText x)) = some x.foldZero ∧
      Numeral.readFinite? (trim (String.ofList (' ' :: (Numeral.scriptText x).toList))) =
        some x.foldZero := by
  have htoken := (isNumeral_side h hx).isToken
  have htrim : trimBoth isBlank (Numeral.scriptText x).toList = (Numeral.scriptText x).toList := by
    rw [trimBoth_eq_trimRight fun c hc => htoken.2 c (List.mem_of_head? hc),
      trimRight_eq_self fun c hc => htoken.2 c (List.mem_of_getLast? hc)]
  have hvalue := (Numeral.readFinite?_scriptText (h x hx)).2
  constructor
  · rw [trim, htrim, String.ofList_toList, hvalue]
  · rw [trim, String.toList_ofList, trimBoth_cons rfl, htrim, String.ofList_toList, hvalue]

/-- Written bounds are cut at the commas between their sides. -/
theorem cut_boundsInner (h : ∀ x ∈ r.sides, x.isFinite = true) :
    cut (· == ',') (boundsInner r) = [(Numeral.scriptText r.left).toList,
      ' ' :: (Numeral.scriptText r.top).toList, ' ' :: (Numeral.scriptText r.right).toList,
      ' ' :: (Numeral.scriptText r.bottom).toList] := by
  have hsep {x : Binary64} (hx : x ∈ r.sides) :
      ∀ c ∈ (Numeral.scriptText x).toList, (c == ',') = false := by
    intro c hc
    refine beq_false_of_ne ?_
    rintro rfl
    exact (isNumeral_side h hx).not_mem (by decide) hc
  have hsep' {x : Binary64} (hx : x ∈ r.sides) :
      ∀ c ∈ ' ' :: (Numeral.scriptText x).toList, (c == ',') = false := by
    intro c hc
    rcases List.mem_cons.mp hc with rfl | hc
    · rfl
    · exact hsep hx c hc
  rw [boundsInner_eq, cut_append_cons rfl, cut_eq_singleton (hsep (by simp [Rect.sides])),
    cut_append_cons rfl, cut_eq_singleton (hsep' (by simp [Rect.sides])), cut_append_cons rfl,
    cut_eq_singleton (hsep' (by simp [Rect.sides])),
    cut_eq_singleton (hsep' (by simp [Rect.sides]))]
  rfl

/-- Written bounds are read as the rectangle of the same values. -/
theorem readBounds?_written (h : ∀ x ∈ r.sides, x.isFinite = true) :
    readBounds? (String.ofList (boundsInner r)) = some (r.map Binary64.foldZero) := by
  have hleft := readFinite?_trim_side h (show r.left ∈ r.sides by simp [Rect.sides])
  have htop := readFinite?_trim_side h (show r.top ∈ r.sides by simp [Rect.sides])
  have hright := readFinite?_trim_side h (show r.right ∈ r.sides by simp [Rect.sides])
  have hbottom := readFinite?_trim_side h (show r.bottom ∈ r.sides by simp [Rect.sides])
  unfold readBounds? splitAt
  rw [String.toList_ofList, cut_boundsInner h]
  simp only [List.map_cons, List.map_nil, String.ofList_toList, hleft.1, htop.2, hright.2,
    hbottom.2]
  rfl

theorem not_mem_boundsInner (h : ∀ x ∈ r.sides, x.isFinite = true) {c : Char}
    (hc : Numeral.isNumeralChar c = false) (hsep : c ≠ ',' ∧ c ≠ ' ') : c ∉ boundsInner r := by
  have hside {x : Binary64} (hx : x ∈ r.sides) : c ∉ (Numeral.scriptText x).toList :=
    (isNumeral_side h hx).not_mem hc
  have hl : r.left ∈ r.sides := by simp [Rect.sides]
  have ht : r.top ∈ r.sides := by simp [Rect.sides]
  have hr : r.right ∈ r.sides := by simp [Rect.sides]
  have hb : r.bottom ∈ r.sides := by simp [Rect.sides]
  rw [boundsInner_eq]
  simp [hside hl, hside ht, hside hr, hside hb, hsep]

/-! ## Headers with bounds -/

/-- The first part of a header: the keyword and its bounds. -/
def headed (key : String) (bounds : Option (Rect Binary64)) : String := key ++ boundsSuffix bounds

theorem toList_headed (key : String) (bounds : Option (Rect Binary64)) :
    (headed key bounds).toList = key.toList ++ match bounds with
      | none => []
      | some r => '(' :: (boundsInner r ++ [')']) := by
  cases bounds with
  | none => simp [headed, boundsSuffix]
  | some r =>
    rw [headed, boundsSuffix, String.toList_append, Option.map_some, Option.getD_some,
      toList_boundsText]

theorem toList_headed_header (hk : IsKeyword key) (bounds : Option (Rect Binary64))
    (params : List String) :
    ∃ rest, (trim (spaced (headed key bounds :: params))).toList =
        (headed key bounds).toList ++ rest ∧
      (∀ c ∈ rest.head?, isBlank c = true) ∧
      words (String.ofList rest) = params.flatMap words ∧
      trimBoth isBlank rest = trimBoth isBlank (spaced params).toList := by
  have hne : key.toList ≠ [] := by simpa using hk.1.1
  have hchars := toList_headed key bounds
  obtain ⟨d, ds, hd⟩ := List.exists_cons_of_ne_nil hne
  have hblank : ∀ c ∈ d :: ds, isBlank c = false := hd ▸ hk.1.2
  refine toList_header ?_ ?_ ?_ params
  · rw [ne_eq, ← String.toList_eq_nil_iff, hchars, hd]
    simp
  · intro c hc
    rw [hchars, hd] at hc
    obtain rfl : d = c := by simpa using hc
    exact hblank d List.mem_cons_self
  · intro c hc
    rw [hchars] at hc
    cases bounds with
    | none =>
      rw [List.append_nil, hd] at hc
      exact hblank c (List.mem_of_getLast? hc)
    | some r =>
      dsimp only at hc
      rw [← List.cons_append, ← List.append_assoc, List.getLast?_concat] at hc
      obtain rfl : ')' = c := by simpa using hc
      rfl

/-- A written header splits into its bounds and its parameters. -/
theorem splitHeader_written (hk : IsKeyword key)
    (hb : ∀ r ∈ bounds, ∀ x ∈ r.sides, x.isFinite = true) (params : List String) :
    splitHeader (trim (spaced (headed key bounds :: params))) key =
      .ok (bounds.map (·.map Binary64.foldZero), params.flatMap words) := by
  obtain ⟨rest, htext, hhead, hwords, -⟩ := toList_headed_header hk bounds params
  have hafter := toList_headed key bounds
  unfold splitHeader
  rw [htext, hafter]
  cases bounds with
  | none =>
    rw [List.append_nil, afterKeyword_append]
    cases rest with
    | nil => simpa using hwords
    | cons c cs =>
      have hc : c ≠ '(' := by
        rintro rfl
        exact absurd (hhead '(' rfl) (by decide)
      split
      next cs' hcs => exact absurd (List.cons.inj hcs).1 hc
      next => rw [hwords]; rfl
  | some r =>
    have hfin := hb r rfl
    have hparen : ')' ∉ boundsInner r := not_mem_boundsInner hfin (by decide) (by decide)
    obtain ⟨htake, hdrop⟩ := span_append_mark hparen rest
    dsimp only
    rw [List.append_assoc, afterKeyword_append, List.cons_append, List.append_assoc,
      List.singleton_append]
    simp only [htake, hdrop, readBounds?_written hfin, hwords]
    rfl

theorem beforeParen_append (hk : IsKeyword key) {cs : List Char} (hcs : ∀ c ∈ cs.head?, c = '(') :
    beforeParen (String.ofList (key.toList ++ cs)) = key := by
  have hkey : ∀ c ∈ key.toList, (c != '(') = true := by
    intro c hc
    rw [bne_iff_ne]
    rintro rfl
    exact hk.2 hc
  obtain ⟨htake, -⟩ := span_append_of_head hkey fun c hc => by simp [hcs c hc]
  rw [beforeParen, String.toList_ofList, htake, String.ofList_toList]

theorem beforeParen_keyword (hk : IsKeyword key) : beforeParen key = key := by
  have hkey : beforeParen (String.ofList (key.toList ++ [])) = key := beforeParen_append hk (by simp)
  rwa [List.append_nil, String.ofList_toList] at hkey

/-- The first word of a header with bounds is the keyword with the first side behind it. -/
theorem words_bounded (hk : IsKeyword key) {r : Rect Binary64}
    (hb : ∀ x ∈ r.sides, x.isFinite = true) : ∃ more, words (headed key (some r)) =
      String.ofList (key.toList ++ '(' :: ((Numeral.scriptText r.left).toList ++ [','])) :: more := by
  have hleft : Numeral.IsNumeral (Numeral.scriptText r.left) :=
    isNumeral_side hb (by simp [Rect.sides])
  set first := key.toList ++ '(' :: ((Numeral.scriptText r.left).toList ++ [',']) with hfirst
  have hblank : ∀ c ∈ first, isBlank c = false := by
    intro c hc
    rw [hfirst] at hc
    simp only [List.mem_append, List.mem_cons, List.not_mem_nil, or_false] at hc
    rcases hc with hc | rfl | hc | rfl
    · exact hk.1.2 c hc
    · rfl
    · exact hleft.isToken.2 c hc
    · rfl
  obtain ⟨more, hmore⟩ : ∃ more, (headed key (some r)).toList = first ++ ' ' :: more := by
    rw [toList_headed]
    dsimp only
    rw [boundsInner_eq, hfirst]
    exact ⟨_, by simp only [List.append_assoc, List.cons_append, List.nil_append]; rfl⟩
  have hwords : words (headed key (some r)) =
      String.ofList first :: (wordChars (' ' :: more)).map String.ofList := by
    rw [← String.ofList_toList (s := headed key (some r)), hmore, words_ofList,
      wordChars_append (by simp [hfirst]) hblank (by simp [isBlank]), List.map_cons]
  exact ⟨_, hwords⟩

/-- The first word of a written header starts with the keyword. -/
theorem words_headed (hk : IsKeyword key) (hb : ∀ r ∈ bounds, ∀ x ∈ r.sides, x.isFinite = true)
    (params : List String) :
    ∃ word more, words (trim (spaced (headed key bounds :: params))) = word :: more ∧
      beforeParen word = key := by
  rw [words_trim, words_spaced, List.flatMap_cons]
  cases bounds with
  | none =>
    have hhead : headed key none = key := by simp [headed, boundsSuffix]
    rw [hhead, words_token hk.1]
    exact ⟨key, _, rfl, beforeParen_keyword hk⟩
  | some r =>
    obtain ⟨more, hwords⟩ := words_bounded hk (hb r rfl)
    rw [hwords, List.cons_append]
    exact ⟨_, _, rfl, beforeParen_append hk (by simp)⟩

end Flipbook.Script
