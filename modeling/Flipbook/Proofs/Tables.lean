import Mathlib
import Flipbook.Proofs.Formed
import Flipbook.Proofs.Lists

/-!
Tables that are filled place by place. A table is painted back from its groups of cells of one
colour, unless a group is missing.
-/
namespace Flipbook.Script

variable {a b table : List (List String)} {height width r c r' c' : Nat} {color : String}
  {cells : List (Nat × Nat)} {groups : List (String × List (Nat × Nat))} {g : Grid Binary64}

/-- The entry of a table in a row and a column. -/
def cell (table : List (List String)) (r c : Nat) : Option String := table[r]?.bind (·[c]?)

theorem cell_eq_none (h : TableFormed height width table) (hrc : ¬ (r < height ∧ c < width)) :
    cell table r c = none := by
  unfold cell
  cases hrow : table[r]? with
  | none => rfl
  | some row =>
    obtain ⟨hr, -⟩ := List.getElem?_eq_some_iff.mp hrow
    have hlen := h.row_length row (List.mem_of_getElem? hrow)
    rw [h.length_eq] at hr
    rw [Option.bind_some, List.getElem?_eq_none_iff]
    omega

theorem cell_isSome (h : TableFormed height width table) (hr : r < height) (hc : c < width) :
    ∃ s, cell table r c = some s := by
  have hrow : r < table.length := by rwa [h.length_eq]
  have hcol : c < (table[r]).length := by rwa [h.row_length _ (List.getElem_mem hrow)]
  exact ⟨table[r][c], by
    rw [cell, List.getElem?_eq_getElem hrow, Option.bind_some, List.getElem?_eq_getElem hcol]⟩

/-- Tables of one size with the same entries are one table. -/
theorem table_ext (ha : TableFormed height width a) (hb : TableFormed height width b)
    (h : ∀ r c, cell a r c = cell b r c) : a = b := by
  refine List.ext_getElem (ha.length_eq.trans hb.length_eq.symm) fun r hra hrb => ?_
  refine List.ext_getElem? fun c => ?_
  have hcell := h r c
  rwa [cell, cell, List.getElem?_eq_getElem hra, List.getElem?_eq_getElem hrb, Option.bind_some,
    Option.bind_some] at hcell

theorem tableFormed_replicate (height width : Nat) (s : String) :
    TableFormed height width (List.replicate height (List.replicate width s)) where
  length_eq := List.length_replicate
  row_length := by
    intro row hrow
    rw [List.eq_of_mem_replicate hrow, List.length_replicate]

theorem cell_replicate (s : String) (hr : r < height) (hc : c < width) :
    cell (List.replicate height (List.replicate width s)) r c = some s := by
  rw [cell, List.getElem?_replicate, if_pos hr, Option.bind_some, List.getElem?_replicate,
    if_pos hc]

/-! ## Painting -/

theorem paint_natCast (color : String) (table : List (List String)) (p : Nat × Nat) :
    paint color table ((p.1 : Int), (p.2 : Int)) =
      table.modify p.1 fun row => row.set p.2 color := by
  simp [paint]

theorem cell_paint (color : String) (table : List (List String)) (p : Nat × Nat) (r c : Nat) :
    cell (paint color table ((p.1 : Int), (p.2 : Int))) r c =
      if (r, c) = p then (cell table r c).map fun _ => color else cell table r c := by
  obtain ⟨i, j⟩ := p
  rw [paint_natCast]
  unfold cell
  rw [List.getElem?_modify]
  cases hrow : table[r]? with
  | none => simp
  | some row =>
    by_cases hi : i = r
    · subst hi
      by_cases hj : j = c
      · subst hj
        by_cases hlt : j < row.length
        · simp [hlt]
        · simp [hlt]
      · have hne : ¬ c = j := fun h => hj h.symm
        simp [List.getElem?_set_ne hj, hne]
    · have hne : ¬ r = i := fun h => hi h.symm
      simp [hi, hne]

/-- The places of some cells. -/
def places (cells : List (Nat × Nat)) : List (Int × Int) :=
  cells.map fun p => ((p.1 : Int), (p.2 : Int))

/-- Paints cells group by group. -/
def paintGroups (groups : List (String × List (Nat × Nat))) (table : List (List String)) :
    List (List String) :=
  groups.foldl (fun t group => (places group.2).foldl (paint group.1) t) table

theorem cell_foldl_paint (color : String) (cells : List (Nat × Nat)) (table : List (List String))
    (r c : Nat) : cell ((places cells).foldl (paint color) table) r c =
      if (r, c) ∈ cells then (cell table r c).map fun _ => color else cell table r c := by
  induction cells generalizing table with
  | nil => simp [places]
  | cons p cells ih =>
    have hplaces : places (p :: cells) = ((p.1 : Int), (p.2 : Int)) :: places cells := rfl
    rw [hplaces, List.foldl_cons, ih, cell_paint]
    by_cases hp : (r, c) = p
    · subst hp
      by_cases hmem : (r, c) ∈ cells <;> simp [hmem, Function.comp_def]
    · by_cases hmem : (r, c) ∈ cells <;> simp [hp, hmem]

/-- Groups that agree with a picture `f` paint their cells as `f` has them and no others. -/
theorem cell_paintGroups {f : Nat → Nat → Option String}
    (h : ∀ group ∈ groups, ∀ p ∈ group.2, f p.1 p.2 = some group.1) (table : List (List String))
    (r c : Nat) : cell (paintGroups groups table) r c =
      if ∃ group ∈ groups, (r, c) ∈ group.2 then (cell table r c).bind fun _ => f r c
      else cell table r c := by
  induction groups generalizing table with
  | nil => simp [paintGroups]
  | cons group groups ih =>
    have hcons : paintGroups (group :: groups) table =
        paintGroups groups ((places group.2).foldl (paint group.1) table) := rfl
    rw [hcons, ih fun x hx => h x (List.mem_cons_of_mem _ hx), cell_foldl_paint]
    by_cases hlater : ∃ x ∈ groups, (r, c) ∈ x.2
    · have hany : ∃ x ∈ group :: groups, (r, c) ∈ x.2 := by
        obtain ⟨x, hx, hmem⟩ := hlater
        exact ⟨x, List.mem_cons_of_mem _ hx, hmem⟩
      rw [if_pos hlater, if_pos hany]
      by_cases hmem : (r, c) ∈ group.2
      · rw [if_pos hmem, Option.bind_map]
        rfl
      · rw [if_neg hmem]
    · rw [if_neg hlater]
      by_cases hmem : (r, c) ∈ group.2
      · have hcolor := h group List.mem_cons_self (r, c) hmem
        dsimp only at hcolor
        rw [if_pos hmem, if_pos ⟨group, List.mem_cons_self, hmem⟩, hcolor]
        cases cell table r c <;> rfl
      · have hnone : ¬ ∃ x ∈ group :: groups, (r, c) ∈ x.2 := by
          rintro ⟨x, hx, hxmem⟩
          rcases List.mem_cons.mp hx with rfl | hx
          · exact hmem hxmem
          · exact hlater ⟨x, hx, hxmem⟩
        rw [if_neg hmem, if_neg hnone]

theorem tableFormed_modify {f : List String → List String} (h : TableFormed height width table)
    (hf : ∀ row, (f row).length = row.length) (i : Nat) :
    TableFormed height width (table.modify i f) := by
  refine ⟨by rw [List.length_modify, h.length_eq], ?_⟩
  refine forall_mem_modify i h.row_length fun row hrow => ?_
  rw [hf, h.row_length row hrow]

theorem tableFormed_paint (h : TableFormed height width table) (color : String)
    (p : Int × Int) : TableFormed height width (paint color table p) := by
  unfold paint
  split
  · exact tableFormed_modify h (fun row => List.length_set) _
  · exact h

theorem tableFormed_foldl_paint (h : TableFormed height width table) (color : String)
    (ps : List (Int × Int)) : TableFormed height width (ps.foldl (paint color) table) := by
  induction ps generalizing table with
  | nil => exact h
  | cons p ps ih => exact ih (tableFormed_paint h color p)

theorem tableFormed_paintGroups (h : TableFormed height width table)
    (groups : List (String × List (Nat × Nat))) :
    TableFormed height width (paintGroups groups table) := by
  induction groups generalizing table with
  | nil => exact h
  | cons group groups ih => exact ih (tableFormed_foldl_paint h _ _)

/-! ## The coloured cells of a grid -/

theorem mem_colouredCells : (color, r, c) ∈ colouredCells g ↔
    cell g.colors r c = some color ∧ color ≠ g.defaultColor := by
  unfold colouredCells cell
  simp only [List.mem_flatMap, List.mem_filterMap, Prod.exists, List.mem_zipIdx_iff_getElem?]
  constructor
  · rintro ⟨row, i, hrow, s, j, hs, hif⟩
    split at hif
    · cases hif
    next hne =>
      obtain ⟨rfl, rfl, rfl⟩ : s = color ∧ i = r ∧ j = c := by simpa using hif
      exact ⟨by rw [hrow, Option.bind_some, hs], hne⟩
  · rintro ⟨hcell, hne⟩
    obtain ⟨row, hrow, hs⟩ := Option.bind_eq_some_iff.mp hcell
    exact ⟨row, r, hrow, color, c, hs, by rw [if_neg hne]⟩

/-- A group holds exactly the coloured cells of its colour. -/
theorem mem_colourGroups {group : String × List (Nat × Nat)} (h : group ∈ colourGroups g)
    (p : Nat × Nat) : p ∈ group.2 ↔ (group.1, p.1, p.2) ∈ colouredCells g := by
  obtain ⟨color, -, rfl⟩ := List.mem_map.mp h
  obtain ⟨r, c⟩ := p
  simp only [List.mem_map, List.mem_filter, Prod.exists, beq_iff_eq]
  constructor
  · rintro ⟨k, i, j, ⟨hmem, rfl⟩, heq⟩
    obtain ⟨rfl, rfl⟩ : i = r ∧ j = c := by simpa using heq
    exact hmem
  · intro hmem
    exact ⟨color, r, c, ⟨hmem, rfl⟩, rfl⟩

theorem exists_mem_colourGroups (h : (color, r, c) ∈ colouredCells g) :
    ∃ group ∈ colourGroups g, group.1 = color ∧ (r, c) ∈ group.2 := by
  unfold colourGroups
  refine ⟨_, List.mem_map.mpr ⟨color, ?_, rfl⟩, rfl, ?_⟩
  · rw [List.mem_eraseDups]
    exact List.mem_map.mpr ⟨_, h, rfl⟩
  · exact List.mem_map.mpr ⟨_, List.mem_filter.mpr ⟨h, beq_self_eq_true _⟩, rfl⟩

theorem colourGroup_ne_nil {group : String × List (Nat × Nat)} (h : group ∈ colourGroups g) :
    group.2 ≠ [] := by
  have hgroup := h
  obtain ⟨color, hcolor, rfl⟩ := List.mem_map.mp h
  rw [List.mem_eraseDups, List.mem_map] at hcolor
  obtain ⟨⟨k, r, c⟩, hmem, rfl⟩ := hcolor
  exact List.ne_nil_of_mem ((mem_colourGroups hgroup (r, c)).mpr hmem)

theorem cell_of_mem_colourGroup {group : String × List (Nat × Nat)} (h : group ∈ colourGroups g)
    {p : Nat × Nat} (hp : p ∈ group.2) : cell g.colors p.1 p.2 = some group.1 :=
  (mem_colouredCells.mp ((mem_colourGroups h p).mp hp)).1

/-- The groups of a grid paint back its colours. -/
theorem paintGroups_colourGroups (h : TableFormed height width g.colors) :
    paintGroups (colourGroups g) (List.replicate height (List.replicate width g.defaultColor)) =
      g.colors := by
  have hblank := tableFormed_replicate height width g.defaultColor
  refine table_ext (tableFormed_paintGroups hblank _) h fun r c => ?_
  rw [cell_paintGroups (f := cell g.colors)
    fun group hgroup p hp => cell_of_mem_colourGroup hgroup hp]
  by_cases hinside : r < height ∧ c < width
  · obtain ⟨s, hs⟩ := cell_isSome h hinside.1 hinside.2
    rw [cell_replicate _ hinside.1 hinside.2, hs]
    split
    · rfl
    next hnone =>
      by_contra hne
      have hcolor : s ≠ g.defaultColor := fun hd => hne (by rw [hd])
      obtain ⟨group, hgroup, -, hmem⟩ :=
        exists_mem_colourGroups (mem_colouredCells.mpr ⟨hs, hcolor⟩)
      exact hnone ⟨group, hgroup, hmem⟩
  · rw [cell_eq_none hblank hinside, cell_eq_none h hinside]
    split <;> rfl

/-- Among groups of a grid that paint back its colours is one of each colour. -/
theorem exists_color_of_paintGroups (h : TableFormed height width g.colors)
    (hsub : ∀ group ∈ groups, group ∈ colourGroups g)
    (hpaint : paintGroups groups (List.replicate height (List.replicate width g.defaultColor)) =
      g.colors) {group : String × List (Nat × Nat)} (hgroup : group ∈ colourGroups g) :
    ∃ other ∈ groups, other.1 = group.1 := by
  obtain ⟨p, hp⟩ := List.exists_mem_of_ne_nil _ (colourGroup_ne_nil hgroup)
  obtain ⟨hcolor, hne⟩ := mem_colouredCells.mp ((mem_colourGroups hgroup p).mp hp)
  have hinside : p.1 < height ∧ p.2 < width := by
    by_contra hout
    rw [cell_eq_none h hout] at hcolor
    cases hcolor
  have hread := cell_paintGroups (f := cell g.colors)
    (fun group hgroup p hp => cell_of_mem_colourGroup (hsub group hgroup) hp)
    (List.replicate height (List.replicate width g.defaultColor)) p.1 p.2
  rw [hpaint, hcolor, cell_replicate _ hinside.1 hinside.2] at hread
  split at hread
  next hex =>
    obtain ⟨other, hother, hmem⟩ := hex
    have hsame := cell_of_mem_colourGroup (hsub other hother) hmem
    dsimp only at hsame
    rw [hcolor] at hsame
    exact ⟨other, hother, (Option.some.inj hsame).symm⟩
  next => exact absurd (Option.some.inj hread) hne

/-- Painting the groups up to the first of a certain kind gives back the colours of a grid if and
only if no group is of that kind. -/
theorem paintGroups_eq_iff (h : TableFormed height width g.colors) (q : String → Bool) :
    paintGroups ((colourGroups g).takeWhile fun group => q group.1)
        (List.replicate height (List.replicate width g.defaultColor)) = g.colors ↔
      ∀ group ∈ colourGroups g, q group.1 = true := by
  constructor
  · intro hpaint group hgroup
    obtain ⟨other, hother, hcolor⟩ := exists_color_of_paintGroups h
      (fun group hgroup => (List.takeWhile_prefix _).subset hgroup) hpaint hgroup
    rw [← hcolor]
    exact (List.all_eq_true.mp List.all_takeWhile) other hother
  · intro hall
    rw [List.takeWhile_eq_self_iff.mpr hall]
    exact paintGroups_colourGroups h

end Flipbook.Script
