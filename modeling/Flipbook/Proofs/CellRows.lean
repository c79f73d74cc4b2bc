import Mathlib
import Flipbook.Proofs.Words
import Flipbook.Script.Grid
import Flipbook.Script.Writer

/-!
Rows of cell texts. A quote inside a quoted text ends it early, and a quote that starts a bare text
opens a quoted one if another quote follows. A row reads back exactly when neither occurs.
-/
namespace Flipbook.Script

open Text

variable {c : Char} {cs rest : List Char} {s t : String} {ts row : List String} {w : Nat}

/-! ## Scanning -/

theorem scanCells_blank (h : isBlank c = true) (cs : List Char) :
    scanCells (c :: cs) = scanCells cs := by
  rw [scanCells, if_pos h]

theorem scanCells_quoted (h : '"' ∈ cs) : scanCells ('"' :: cs) =
    String.ofList (cs.takeWhile (!isQuote ·)) :: scanCells (cs.dropWhile (!isQuote ·)).tail := by
  have hany : cs.any isQuote = true := List.any_eq_true.mpr ⟨'"', h, rfl⟩
  have hb : isBlank '"' = false := rfl
  have hq : isQuote '"' = true := rfl
  rw [scanCells, hb, hq, hany]
  simp only [Bool.false_eq_true, if_false, Bool.and_self, if_true]

theorem scanCells_bare (hb : isBlank c = false) (hq : c = '"' → '"' ∉ cs) : scanCells (c :: cs) =
    String.ofList (c :: cs.takeWhile (!isBlank ·)) :: scanCells (cs.dropWhile (!isBlank ·)) := by
  have hany : (isQuote c && cs.any isQuote) = false := by
    rw [Bool.and_eq_false_imp]
    intro hc
    have hcs := hq (by simpa [isQuote] using hc)
    rw [List.any_eq_false]
    intro d hd hdq
    obtain rfl : d = '"' := by simpa [isQuote] using hdq
    exact hcs hd
  rw [scanCells, hb, hany]
  simp only [Bool.false_eq_true, if_false]

/-! ## Written texts -/

/-- Whether a text is written between quotes. -/
def needsQuotes (t : String) : Bool := t.isEmpty || t.toList.any isBlank

theorem toList_cellToken (t : String) : (cellToken t).toList =
    if needsQuotes t then '"' :: (t.toList ++ ['"']) else t.toList := by
  unfold cellToken needsQuotes
  split <;> simp

theorem isToken_of_needsQuotes (h : needsQuotes t = false) : IsToken t := by
  rw [needsQuotes, Bool.or_eq_false_iff] at h
  refine ⟨?_, ?_⟩
  · rintro rfl
    exact absurd h.1 (by decide)
  · simpa using h.2

/-- The characters of a row of texts. -/
def rowChars (ts : List String) : List Char := (spaced (ts.map cellToken)).toList

/-- What follows a text in its row. -/
def afterChars (ts : List String) : List Char := if ts = [] then [] else ' ' :: rowChars ts

theorem rowChars_cons (t : String) (ts : List String) :
    rowChars (t :: ts) = (cellToken t).toList ++ afterChars ts := by
  unfold rowChars afterChars spaced
  by_cases h : ts = []
  · simp [h]
  · rw [if_neg h, List.map_cons, String.intercalate_cons_of_ne_nil (by simpa using h)]
    simp [rowChars, spaced]

theorem scanCells_afterChars (ts : List String) :
    scanCells (afterChars ts) = scanCells (rowChars ts) := by
  unfold afterChars
  split
  next h =>
    rw [h]
    rfl
  next => exact scanCells_blank rfl _

theorem head?_afterChars (ts : List String) : ∀ c ∈ (afterChars ts).head?, isBlank c = true := by
  unfold afterChars
  split
  · simp
  · intro c hc
    obtain rfl : ' ' = c := by simpa using hc
    rfl

/-- A character that is no blank follows a text in its row if it is in a later text. -/
theorem mem_afterChars (hc : isBlank c = false) (ts : List String) :
    c ∈ afterChars ts ↔ ∃ u ∈ ts, c ∈ (cellToken u).toList := by
  induction ts with
  | nil => simp [afterChars]
  | cons t ts ih =>
    have hspace : c ≠ ' ' := by
      rintro rfl
      cases hc
    have hafter : afterChars (t :: ts) = ' ' :: rowChars (t :: ts) := if_neg (by simp)
    rw [hafter, rowChars_cons, List.mem_cons, List.mem_append, ih]
    simp [hspace]

/-! ## Legible rows -/

/-- Whether a text can be told from the texts that follow it in its row: between quotes it holds no
quote; bare, it starts with no quote that is not the last of the row. -/
def LegibleBefore (t : String) (ts : List String) : Prop :=
  if needsQuotes t then '"' ∉ t.toList
  else t.toList.head? = some '"' → '"' ∉ t.toList.tail ∧ ∀ u ∈ ts, '"' ∉ (cellToken u).toList

/-- Whether every text of a row can be told from those that follow it. -/
def Legible : List String → Prop
  | [] => True
  | t :: ts => LegibleBefore t ts ∧ Legible ts

theorem legible_of_no_quotes (h : ∀ t ∈ ts, '"' ∉ t.toList) : Legible ts := by
  induction ts with
  | nil => trivial
  | cons t ts ih =>
    refine ⟨?_, ih fun u hu => h u (List.mem_cons_of_mem _ hu)⟩
    have ht := h t List.mem_cons_self
    unfold LegibleBefore
    split
    · exact ht
    · exact fun hq => absurd (List.mem_of_head? hq) ht

/-- A text between quotes is the front of what follows the first quote, if it holds none itself. -/
theorem span_quote (h : '"' ∉ cs) (rest : List Char) :
    (cs ++ '"' :: rest).takeWhile (!isQuote ·) = cs ∧
      (cs ++ '"' :: rest).dropWhile (!isQuote ·) = '"' :: rest := span_append_mark h rest

theorem quote_notMem_takeWhile (cs : List Char) :
    '"' ∉ (String.ofList (cs.takeWhile (!isQuote ·))).toList := by
  intro hmem
  rw [String.toList_ofList] at hmem
  have hnot := List.mem_takeWhile_imp hmem
  simp [isQuote] at hnot

/-- A bare text can be told from those that follow it if a quote at its front is the last one. -/
theorem legibleBefore_cons {d : Char} {ds : List Char} (hn : needsQuotes t = false)
    (hds : t.toList = d :: ds) (ts : List String) :
    LegibleBefore t ts ↔ (d = '"' → '"' ∉ ds ++ afterChars ts) := by
  unfold LegibleBefore
  rw [hn, if_neg Bool.false_ne_true, hds, List.head?_cons, List.tail_cons, Option.some_inj,
    List.mem_append, mem_afterChars rfl]
  simp only [not_or, not_exists, not_and]

/-- What is read first of a row: a text that is the first text of the row if and only if that one can
be told from the others, which are then read as if they were the row. -/
structure ReadsFirst (t : String) (ts : List String) (s : String) (more : List String) : Prop where
  scan : scanCells (rowChars (t :: ts)) = s :: more
  legible : LegibleBefore t ts → s = t ∧ more = scanCells (rowChars ts)
  only : s = t → LegibleBefore t ts

theorem exists_readsFirst_quoted (hn : needsQuotes t = true) (ts : List String) :
    ∃ s more, ReadsFirst t ts s more := by
  have hlegible : LegibleBefore t ts ↔ '"' ∉ t.toList := by rw [LegibleBefore, if_pos hn]
  have hrow : rowChars (t :: ts) = '"' :: (t.toList ++ '"' :: afterChars ts) := by
    rw [rowChars_cons, toList_cellToken, if_pos hn]
    simp
  refine ⟨_, _, hrow ▸ scanCells_quoted (by simp), fun h => ?_, fun h => ?_⟩
  · obtain ⟨htake, hdrop⟩ := span_quote (hlegible.mp h) (afterChars ts)
    rw [htake, hdrop, String.ofList_toList]
    exact ⟨rfl, scanCells_afterChars ts⟩
  · rw [hlegible, ← h]
    exact quote_notMem_takeWhile _

theorem exists_readsFirst_bare (hn : needsQuotes t = false) (ts : List String) :
    ∃ s more, ReadsFirst t ts s more := by
  obtain ⟨hne, hblank⟩ := isToken_of_needsQuotes hn
  obtain ⟨d, ds, hds⟩ := List.exists_cons_of_ne_nil (mt String.toList_eq_nil_iff.mp hne)
  rw [hds] at hblank
  have hlegible := legibleBefore_cons hn hds ts
  have hrow : rowChars (t :: ts) = d :: (ds ++ afterChars ts) := by
    rw [rowChars_cons, toList_cellToken, hn, if_neg Bool.false_ne_true, hds, List.cons_append]
  by_cases hopen : d = '"' ∧ '"' ∈ ds ++ afterChars ts
  · obtain ⟨rfl, hq⟩ := hopen
    refine ⟨_, _, hrow ▸ scanCells_quoted hq, fun h => absurd hq (hlegible.mp h rfl), fun h => ?_⟩
    have hnot := quote_notMem_takeWhile (ds ++ afterChars ts)
    rw [h, hds] at hnot
    exact absurd List.mem_cons_self hnot
  · have hq : d = '"' → '"' ∉ ds ++ afterChars ts := fun hd hmem => hopen ⟨hd, hmem⟩
    obtain ⟨htake, hdrop⟩ := span_append_of_head (p := (!isBlank ·)) (b := afterChars ts)
      (fun e he => by simpa using hblank e (List.mem_cons_of_mem d he))
      (by simpa using head?_afterChars ts)
    refine ⟨_, _, hrow ▸ scanCells_bare (hblank d List.mem_cons_self) hq, fun _ => ?_,
      fun _ => hlegible.mpr hq⟩
    rw [htake, hdrop, ← hds, String.ofList_toList]
    exact ⟨rfl, scanCells_afterChars ts⟩

theorem exists_readsFirst (t : String) (ts : List String) : ∃ s more, ReadsFirst t ts s more := by
  cases hn : needsQuotes t with
  | true => exact exists_readsFirst_quoted hn ts
  | false => exact exists_readsFirst_bare hn ts

/-- A legible row reads back. -/
theorem scanCells_rowChars (h : Legible ts) : scanCells (rowChars ts) = ts := by
  induction ts with
  | nil => simp [rowChars, spaced, scanCells]
  | cons t ts ih =>
    obtain ⟨s, more, hreads⟩ := exists_readsFirst t ts
    obtain ⟨rfl, hmore⟩ := hreads.legible h.1
    rw [hreads.scan, hmore, ih h.2]

/-- Of a row that is not legible, another text is read in some place. -/
theorem exists_ne_of_not_legible (h : ¬ Legible ts) :
    ∃ i : Nat, i < ts.length ∧ ∃ s, (scanCells (rowChars ts))[i]? = some s ∧ ts[i]? ≠ some s := by
  induction ts with
  | nil => exact absurd trivial h
  | cons t ts ih =>
    obtain ⟨s, more, hreads⟩ := exists_readsFirst t ts
    rw [hreads.scan]
    by_cases hfirst : LegibleBefore t ts
    · obtain ⟨rfl, rfl⟩ := hreads.legible hfirst
      obtain ⟨i, hi, u, hu, hne⟩ := ih fun hts => h ⟨hfirst, hts⟩
      exact ⟨i + 1, by simpa using hi, u, by simpa using hu, by simpa using hne⟩
    · refine ⟨0, by simp, s, by simp, ?_⟩
      rw [List.getElem?_cons_zero]
      intro hs
      exact hfirst (hreads.only (Option.some.inj hs).symm)

/-! ## Rows of a table -/

theorem exists_dropTrailingEmpty (row : List String) :
    ∃ k, row = dropTrailingEmpty row ++ List.replicate k "" := by
  have hsplit : row = row.rdropWhile (·.isEmpty) ++ row.rtakeWhile (·.isEmpty) :=
    List.rdropWhile_append_rtakeWhile.symm
  have hempty : ∀ t ∈ row.rtakeWhile (·.isEmpty), t = "" := by
    intro t ht
    simpa using List.mem_rtakeWhile_imp ht
  refine ⟨(row.rtakeWhile (·.isEmpty)).length, ?_⟩
  conv_lhs => rw [hsplit, List.eq_replicate_of_mem hempty]
  rfl

theorem prefix_dropTrailingEmpty (row : List String) : dropTrailingEmpty row <+: row := by
  obtain ⟨k, hk⟩ := exists_dropTrailingEmpty row
  exact ⟨_, hk.symm⟩

theorem toList_cellRow (row : List String) :
    (cellRow row).toList = rowChars (dropTrailingEmpty row) := rfl

/-- A written row of texts overwrites a row without texts by itself if it is legible, and by another
row if not. -/
theorem overlay_cellTexts_iff (hw : row.length = w) :
    overlay (cellTexts (cellRow row) w) (List.replicate w "") = row ↔
      Legible (dropTrailingEmpty row) := by
  obtain ⟨k, hk⟩ := exists_dropTrailingEmpty row
  have hlen : (dropTrailingEmpty row).length + k = w := by
    rw [← hw]
    conv_rhs => rw [hk, List.length_append, List.length_replicate]
  have hoverlay : overlay (cellTexts (cellRow row) w) (List.replicate w "") =
      (scanCells (rowChars (dropTrailingEmpty row))).take w ++
        List.replicate (w - (scanCells (rowChars (dropTrailingEmpty row))).length) "" := by
    simp only [overlay, cellTexts, toList_cellRow, List.length_replicate, List.take_take, min_self,
      List.drop_replicate, List.length_take]
    congr 2
    omega
  rw [hoverlay]
  constructor
  · intro h
    by_contra hnot
    obtain ⟨i, hi, s, hs, hne⟩ := exists_ne_of_not_legible hnot
    have hiw : i < w := by omega
    have hrow : row[i]? = (dropTrailingEmpty row)[i]? := by
      conv_lhs => rw [hk]
      exact List.getElem?_append_left hi
    have hread := congrArg (·[i]?) h
    have hscan : i < (scanCells (rowChars (dropTrailingEmpty row))).length :=
      (List.getElem?_eq_some_iff.mp hs).1
    rw [List.getElem?_append_left (by rw [List.length_take]; omega), List.getElem?_take_of_lt hiw,
      hs, hrow] at hread
    exact hne hread.symm
  · intro h
    rw [scanCells_rowChars h, List.take_of_length_le (by omega)]
    conv_rhs => rw [hk]
    congr 2
    omega

theorem getLast?_cellToken (t : String) :
    ∀ c ∈ (cellToken t).toList.getLast?, isBlank c = false := by
  intro c hc
  rw [toList_cellToken] at hc
  split at hc
  next =>
    rw [← List.cons_append, List.getLast?_concat] at hc
    obtain rfl : '"' = c := by simpa using hc
    rfl
  next h =>
    have hb : needsQuotes t = false := by simpa using h
    exact (isToken_of_needsQuotes hb).2 c (List.mem_of_getLast? hc)

theorem cellToken_ne_empty (t : String) : (cellToken t).toList ≠ [] := by
  rw [toList_cellToken]
  split
  next => simp
  next h =>
    have hb : needsQuotes t = false := by simpa using h
    simpa using (isToken_of_needsQuotes hb).1

/-- Written rows of texts end in no blank. -/
theorem trimEnd_cellRow (row : List String) : trimEnd (cellRow row) = cellRow row := by
  have hlast (ts : List String) : ∀ c ∈ (rowChars ts).getLast?, isBlank c = false := by
    induction ts with
    | nil => simp [rowChars, spaced]
    | cons t ts ih =>
      intro c hc
      rw [rowChars_cons] at hc
      by_cases h : ts = []
      · rw [afterChars, if_pos h, List.append_nil] at hc
        exact getLast?_cellToken t c hc
      · have hne : rowChars ts ≠ [] := by
          obtain ⟨u, us, rfl⟩ := List.exists_cons_of_ne_nil h
          rw [rowChars_cons]
          exact List.append_ne_nil_of_left_ne_nil (cellToken_ne_empty u) _
        obtain ⟨d, hd⟩ := Option.isSome_iff_exists.mp (List.getLast?_isSome.mpr hne)
        rw [afterChars, if_neg h, List.getLast?_append, List.getLast?_cons, hd] at hc
        obtain rfl : d = c := by simpa using hc
        exact ih d hd
  refine trimEnd_eq_self ?_
  rw [toList_cellRow]
  exact hlast _

end Flipbook.Script
