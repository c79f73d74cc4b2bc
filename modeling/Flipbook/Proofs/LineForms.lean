import Mathlib
import Flipbook.Script.Plane
import Flipbook.Proofs.Runs

/-!
The two forms of a row of segments. One names a width before its count and the other does not; a row
that is complete in one of them has a length that the other never has, so it is read in that form,
all of it. A row that is complete in neither is read as if it named no width.
-/
namespace Flipbook.Script

open Text

variable {row : List String} {n m : Int} {width : Binary64} {f : LineForm}

/-- A row `color count ...` that holds four words for each segment that it counts. -/
structure InShortForm (row : List String) (n : Int) : Prop where
  count_eq : row[1]?.bind Numeral.readInt? = some n
  length_eq : (row.length : Int) = 2 + 4 * n

/-- A row `color width count ...` that holds four words for each segment that it counts. -/
structure InWideForm (row : List String) (width : Binary64) (n : Int) : Prop where
  width_eq : row[1]?.bind Numeral.readFinite? = some width
  count_eq : row[2]?.bind Numeral.readInt? = some n
  length_eq : (row.length : Int) = 3 + 4 * n

/-! ## Which form a row is read in -/

/-- The lengths of the two forms differ modulo four. -/
theorem InShortForm.not_wide (h : InShortForm row n) : ¬ InWideForm row width m := by
  intro hwide
  have hshort := h.length_eq
  have hlength := hwide.length_eq
  omega

theorem shortForm?_of_count (h : row[1]?.bind Numeral.readInt? = some n) :
    shortForm? row = some ⟨((1 : Int) : Binary64), n, 2⟩ := by
  rw [shortForm?, h]
  rfl

theorem fitting_shortForm_iff : (shortForm? row).filter (·.fits row.length) = some f ↔
    ∃ n, InShortForm row n ∧ f = ⟨((1 : Int) : Binary64), n, 2⟩ := by
  rw [Option.filter_eq_some_iff]
  constructor
  · rintro ⟨hform, hfits⟩
    obtain ⟨n, hn, rfl⟩ := Option.map_eq_some_iff.mp hform
    exact ⟨n, ⟨hn, by simpa [LineForm.fits] using hfits⟩, rfl⟩
  · rintro ⟨n, h, rfl⟩
    exact ⟨shortForm?_of_count h.count_eq, by simpa [LineForm.fits] using h.length_eq⟩

theorem fitting_wideForm_iff : (wideForm? row).filter (·.fits row.length) = some f ↔
    ∃ width n, InWideForm row width n ∧ f = ⟨width, n, 3⟩ := by
  rw [Option.filter_eq_some_iff]
  constructor
  · rintro ⟨hform, hfits⟩
    obtain ⟨width, hwidth, hcount⟩ := Option.bind_eq_some_iff.mp hform
    obtain ⟨n, hn, rfl⟩ := Option.map_eq_some_iff.mp hcount
    exact ⟨width, n, ⟨hwidth, hn, by simpa [LineForm.fits] using hfits⟩, rfl⟩
  · rintro ⟨width, n, h, rfl⟩
    refine ⟨?_, by simpa [LineForm.fits] using h.length_eq⟩
    rw [wideForm?, h.width_eq, h.count_eq]
    rfl

theorem lineForm?_of_short (h : InShortForm row n) :
    lineForm? row = some ⟨((1 : Int) : Binary64), n, 2⟩ := by
  rw [lineForm?, fitting_shortForm_iff.mpr ⟨n, h, rfl⟩, Option.some_or]

theorem lineForm?_of_not_short (h : ∀ n, ¬ InShortForm row n) :
    lineForm? row = ((wideForm? row).filter (·.fits row.length)).or (shortForm? row) := by
  have hnone : (shortForm? row).filter (·.fits row.length) = none := by
    rw [Option.eq_none_iff_forall_ne_some]
    intro f hf
    obtain ⟨n, hn, -⟩ := fitting_shortForm_iff.mp hf
    exact h n hn
  rw [lineForm?, hnone, Option.none_or]

theorem lineForm?_of_wide (h : InWideForm row width n) : lineForm? row = some ⟨width, n, 3⟩ := by
  rw [lineForm?_of_not_short fun m hshort => hshort.not_wide h,
    fitting_wideForm_iff.mpr ⟨width, n, h, rfl⟩, Option.some_or]

theorem lineForm?_of_neither (hshort : ∀ n, ¬ InShortForm row n)
    (hwide : ∀ width n, ¬ InWideForm row width n) : lineForm? row = shortForm? row := by
  have hnone : (wideForm? row).filter (·.fits row.length) = none := by
    rw [Option.eq_none_iff_forall_ne_some]
    intro f hf
    obtain ⟨width, n, hn, -⟩ := fitting_wideForm_iff.mp hf
    exact hwide width n hn
  rw [lineForm?_of_not_short hshort, hnone, Option.none_or]

/-! ## What is read and reported -/

/-- A form that reads all of a row: its segments are the runs that stand in the row from its start,
as many as it counts, and laid end to end they are the rest of the row. -/
structure ReadsAll (row : List String) (f : LineForm) : Prop where
  length_eq : f.start + 4 * f.count = row.length
  groups_eq : numericGroups row f.start f.count 4 = readings (wordRuns row f.start f.count 4)
  stand : StandFrom row f.start 4 (wordRuns row f.start f.count 4)
  count_eq : ((wordRuns row f.start f.count 4).length : Int) = f.count
  flatten_eq : (wordRuns row f.start f.count 4).flatten = row.drop f.start

theorem readsAll_of_length (hcount : 0 ≤ f.count) (h : f.start + 4 * f.count = row.length) :
    ReadsAll row f := by
  have hstand := wordRuns_standFrom row f.start f.count 4
  have hruns : (wordRuns row f.start f.count 4).length = f.count.toNat := by
    rw [length_wordRuns]
    omega
  refine ⟨h, numericGroups_eq (by decide) row f.start f.count, hstand, by omega, ?_⟩
  rw [hstand.flatten_eq, List.take_of_length_le]
  rw [List.length_drop]
  omega

theorem InShortForm.readsAll (h : InShortForm row n) (width : Binary64) :
    ReadsAll row ⟨width, n, 2⟩ := by
  have hlength := h.length_eq
  exact readsAll_of_length (show 0 ≤ n by omega) (show (2 : Nat) + 4 * n = _ by omega)

theorem InWideForm.readsAll (h : InWideForm row width n) : ReadsAll row ⟨width, n, 3⟩ := by
  have hlength := h.length_eq
  exact readsAll_of_length (show 0 ≤ n by omega) (show (3 : Nat) + 4 * n = _ by omega)

theorem message_groupCount_lines (text : String) : (Problem.groupCount "LINES" text).message =
    s!"LINES entry is missing its count, got '{text}'" := by
  have hfront : "LINES" ++ " entry is missing its count, got '" =
      "LINES entry is missing its count, got '" := by decide
  exact congrArg (fun front => front ++ text ++ "'") hfront

/-- A row of segments is reported for its count or not at all. -/
theorem reports_lines (p : Plane Binary64) (i : Nat) (text : String) (line : Int) :
    (planeRow p .lines i text line).2 =
      if (lineForm? (words text)).isNone then [⟨line, .groupCount "LINES" (trim text)⟩]
      else [] := by
  unfold planeRow
  dsimp only
  cases lineForm? (words text) with
  | none => rfl
  | some f =>
    dsimp only
    split <;> rfl

/-- The two forms of a row of segments are never confused. No row is complete in both; one that is
complete in a form is read in it, all of it, whatever its other words are; and any other row is read
as if it named no width, or is reported if it has no count there. -/
theorem line_forms_apart (row : List String) :
    (∀ n width m, InShortForm row n → ¬ InWideForm row width m) ∧
    (∀ n, InShortForm row n → lineForm? row = some ⟨((1 : Int) : Binary64), n, 2⟩ ∧
      ReadsAll row ⟨((1 : Int) : Binary64), n, 2⟩) ∧
    (∀ width n, InWideForm row width n →
      lineForm? row = some ⟨width, n, 3⟩ ∧ ReadsAll row ⟨width, n, 3⟩) ∧
    ((∀ n, ¬ InShortForm row n) → (∀ width n, ¬ InWideForm row width n) →
      lineForm? row =
        (row[1]?.bind Numeral.readInt?).map fun n => ⟨((1 : Int) : Binary64), n, 2⟩) ∧
    ∀ text, words text = row → ∀ p i line,
      (planeRow p .lines i text line).2.map (fun r => (r.line, r.problem.message)) =
        if (lineForm? row).isNone then
          [(line, s!"LINES entry is missing its count, got '{trim text}'")] else [] := by
  refine ⟨fun n width m h => h.not_wide, fun n h => ⟨lineForm?_of_short h, h.readsAll _⟩,
    fun width n h => ⟨lineForm?_of_wide h, h.readsAll⟩, lineForm?_of_neither, ?_⟩
  rintro text rfl p i line
  rw [reports_lines, ← message_groupCount_lines]
  split <;> rfl

/-- A row without a width, whose first three numbers could be a width, a count and a coordinate. -/
def narrowRow : List String := ["red", "1", "2", "3", "4", "5"]

/-- A row with a width that could be a count. -/
def wideRow : List String := ["red", "2", "1", "1", "2", "3", "4"]

/-- A row that is too short for either of its counts. -/
def cutRow : List String := ["red", "2", "1", "1"]

/-- A text of a row with a width and without a count. -/
def countlessText : String := " red 0.5 many 1"

theorem line_forms_apart_numerals :
    InShortForm narrowRow 1 ∧ lineForm? narrowRow = some ⟨((1 : Int) : Binary64), 1, 2⟩ ∧
    numericGroups narrowRow 2 1 4 = [[2.0, 3.0, 4.0, 5.0]] ∧
    InWideForm wideRow 2.0 1 ∧ lineForm? wideRow = some ⟨2.0, 1, 3⟩ ∧
    numericGroups wideRow 3 1 4 = [[1.0, 2.0, 3.0, 4.0]] ∧
    (∀ n, ¬ InShortForm cutRow n) ∧ (∀ width n, ¬ InWideForm cutRow width n) ∧
    lineForm? cutRow = some ⟨((1 : Int) : Binary64), 2, 2⟩ ∧
    words countlessText = ["red", "0.5", "many", "1"] ∧
    ∀ p i, (planeRow p .lines i countlessText 7).2.map (fun r => (r.line, r.problem.message)) =
      [(7, "LINES entry is missing its count, got 'red 0.5 many 1'")] := by
  have hnarrow : InShortForm narrowRow 1 := ⟨by decide +kernel, by decide⟩
  have hwide : InWideForm wideRow 2.0 1 := ⟨by decide +kernel, by decide +kernel, by decide⟩
  have hcount : cutRow[1]?.bind Numeral.readInt? = some 2 := by decide +kernel
  have hsecond : cutRow[2]?.bind Numeral.readInt? = some 1 := by decide +kernel
  have hnotShort : ∀ n, ¬ InShortForm cutRow n := by
    intro n h
    obtain rfl := Option.some.inj (hcount.symm.trans h.count_eq)
    exact absurd h.length_eq (by decide)
  have hnotWide : ∀ width n, ¬ InWideForm cutRow width n := by
    intro width n h
    obtain rfl := Option.some.inj (hsecond.symm.trans h.count_eq)
    exact absurd h.length_eq (by decide)
  have hwords : words countlessText = ["red", "0.5", "many", "1"] := by decide +kernel
  have hnarrowRead := (line_forms_apart narrowRow).2.1 1 hnarrow
  have hwideRead := (line_forms_apart wideRow).2.2.1 2.0 1 hwide
  have hcutRead := (line_forms_apart cutRow).2.2.2.1 hnotShort hnotWide
  have hreport := (line_forms_apart ["red", "0.5", "many", "1"]).2.2.2.2 countlessText hwords
  rw [hcount] at hcutRead
  refine ⟨hnarrow, hnarrowRead.1, hnarrowRead.2.groups_eq.trans (by decide +kernel), hwide,
    hwideRead.1, hwideRead.2.groups_eq.trans (by decide +kernel), hnotShort, hnotWide, hcutRead,
    hwords, fun p i => (hreport p i 7).trans (by decide +kernel)⟩

end Flipbook.Script
