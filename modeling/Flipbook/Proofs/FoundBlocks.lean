import Mathlib
import Flipbook.Proofs.WrittenBlocks

/-!
Blocks as a reader finds them. The lines that a run takes fall into blocks, each with the blank lines
before its name, its name, the count line if it needs one, and its rows, and into blank lines behind
the last block. A block has as many rows as it should, or all plain lines there are; what it yields
is its rows in order, and one report if it is cut short or its number of rows is not known.
-/
namespace Flipbook.Script

open Text

variable {κ : Type}

/-- What a line is to the reader that takes it. -/
inductive Role where
  | blank | name | count | row
deriving DecidableEq

/-- A block as it stands in some lines. -/
structure FoundBlock (κ : Type) where
  spec : BlockSpec κ
  /-- The blank lines before the name. -/
  blanks : List String := []
  name : String
  /-- The count line, if there is one. -/
  count : Option String := none
  /-- How many rows there should be, if that is known. -/
  expected : Option Nat := none
  rows : List String := []

namespace FoundBlock

/-- The lines of a block, each with its role. -/
def parts (b : FoundBlock κ) : List (Role × String) :=
  b.blanks.map (.blank, ·) ++ (.name, b.name) ::
    (b.count.toList.map (.count, ·) ++ b.rows.map (.row, ·))

def lines (b : FoundBlock κ) : List String := b.parts.map Prod.snd

theorem lines_eq (b : FoundBlock κ) :
    b.lines = b.blanks ++ b.name :: (b.count.toList ++ b.rows) := by
  simp [lines, parts, Function.comp_def]

/-- The report on a block whose name is on line `nameLine`: there is none if it has all its rows. -/
def report? (b : FoundBlock κ) (nameLine : Int) : Option Report :=
  match b.expected, b.count with
  | some n, _ =>
    if b.rows.length < n then some ⟨nameLine, .rowsMissing b.spec.name n b.rows.length⟩ else none
  | none, none => some ⟨nameLine, .countMissing b.spec.name⟩
  | none, some text => some ⟨nameLine + 1, .countInvalid b.spec.name (trim text)⟩

/-- What is read of a block whose first line is line `line`. -/
def events (b : FoundBlock κ) (line : Int) : List (BlockEvent κ) :=
  let nameLine := line + b.blanks.length
  rowEvents b.spec.key 0 (nameLine + 1 + b.count.toList.length) b.rows ++
    (b.report? nameLine).toList.map .problem

end FoundBlock

/-- What is read of blocks that follow each other, the first line of which is line `line`. -/
def foundEvents (line : Int) : List (FoundBlock κ) → List (BlockEvent κ)
  | [] => []
  | b :: bs => b.events line ++ foundEvents (line + b.lines.length) bs

/-- How the number of a block's rows is found in the lines after its name: the count line, if the
number is not fixed, and the number. -/
inductive Counted : Option Int → List String → Option String → Option Nat → Prop
  | fixed (n : Nat) (rest : List String) : Counted (some n) rest none (some n)
  | missing (rest : List String) (hstop : BlockReader.AtStop rest) : Counted none rest none none
  | invalid (text : String) (more : List String) (hl : isScript text = false)
    (hn : (words text).head?.bind Numeral.readInt? = none) :
    Counted none (text :: more) (some text) none
  | given (text : String) (more : List String) (n : Int) (hl : isScript text = false)
    (hn : (words text).head?.bind Numeral.readInt? = some n) :
    Counted none (text :: more) (some text) (some n.toNat)

/-- Whether a block stands before the lines `after`. Of specifications with one name the last counts,
and the rows end with their number or where no plain line is left. -/
structure FoundBlock.Stands (specs : List (BlockSpec κ)) (b : FoundBlock κ) (after : List String) :
    Prop where
  blanks : ∀ l ∈ b.blanks, isBlankLine l = true
  named : (words b.name).head? = some b.spec.name
  spec : ∃ pre post, specs = pre ++ b.spec :: post ∧ ∀ s ∈ post, s.name ≠ b.spec.name
  counted : Counted b.spec.rows (b.count.toList ++ (b.rows ++ after)) b.count b.expected
  length_rows : b.rows.length =
    min (b.expected.getD 0) ((b.rows ++ after).takeWhile (!isScript ·)).length

/-- Lines that are blocks one after the other, then blank lines, and then `left`, which starts with
no blank line and no name. -/
inductive Finds (specs : List (BlockSpec κ)) :
    List String → List (FoundBlock κ) → List String → List String → Prop
  | done (tail left : List String) (hblank : ∀ l ∈ tail, isBlankLine l = true)
    (hleft : ∀ l ∈ left.head?, isBlankLine l = false ∧
      ∀ s ∈ specs, (words l).head? ≠ some s.name) : Finds specs (tail ++ left) [] tail left
  | block (b : FoundBlock κ) {bs : List (FoundBlock κ)} {after tail left : List String}
    (hb : b.Stands specs after) (hmore : Finds specs after bs tail left) :
    Finds specs (b.lines ++ after) (b :: bs) tail left

namespace BlockReader

variable {r t : BlockReader κ} {b : BlockSpec κ} {line : String} {rows more : List String} {n : Nat}

/-! ## Names -/

/-- The block of a name is the last of its name. -/
theorem spec?_eq_some_iff {name : String} : r.spec? name = some b ↔
    b.name = name ∧ ∃ pre post, r.specs = pre ++ b :: post ∧ ∀ s ∈ post, s.name ≠ name := by
  rw [spec?, List.find?_eq_some_iff_append, beq_iff_eq]
  refine and_congr_right fun _ => ⟨?_, ?_⟩
  · rintro ⟨later, earlier, hspecs, hlater⟩
    refine ⟨earlier.reverse, later.reverse, ?_, ?_⟩
    · rw [← List.reverse_reverse r.specs, hspecs]
      simp
    · intro s hs
      have hne := hlater s (List.mem_reverse.mp hs)
      simpa using hne
  · rintro ⟨pre, post, hspecs, hpost⟩
    refine ⟨post.reverse, pre.reverse, ?_, ?_⟩
    · rw [hspecs]
      simp
    · intro s hs
      simpa using hpost s (List.mem_reverse.mp hs)

theorem spec?_eq_none_iff {name : String} :
    r.spec? name = none ↔ ∀ s ∈ r.specs, s.name ≠ name := by
  simp [spec?]

theorem bind_spec?_eq_none_iff : (words line).head?.bind r.spec? = none ↔
    ∀ s ∈ r.specs, (words line).head? ≠ some s.name := by
  cases hw : (words line).head? with
  | none => simp
  | some w =>
    rw [Option.bind_some, spec?_eq_none_iff]
    refine forall₂_congr fun s _ => ?_
    rw [ne_eq, ne_eq, Option.some.injEq, eq_comm]

/-! ## Rows -/

/-- The report of a block that has fewer rows than it should, if it has. -/
def shortReport (b : BlockSpec κ) (nameLine : Int) (n found : Nat) : List (BlockEvent κ) :=
  if found < n then [.problem ⟨nameLine, .rowsMissing b.name n found⟩] else []

/-- A reader of rows takes them up to their number, or all plain lines there are. -/
theorem reads_rows_found (h : r.phase = .rows) (ha : r.active = some b) (hn : r.expected = n)
    (hlt : r.consumed < n) : ∃ rows t,
      Reads r rows (rowEvents b.key r.consumed r.line rows ++
        shortReport b r.nameLine n (r.consumed + rows.length)) t ∧
      t.phase = .name ∧ t.seen = r.seen ∧
      rows.length = min (n - r.consumed) (r.rest.takeWhile (!isScript ·)).length := by
  generalize hrest : r.rest = rest
  induction rest generalizing r with
  | nil =>
    refine ⟨[], r.endRows b, ?_, rfl, rfl, by simp⟩
    rw [shortReport, List.length_nil, Nat.add_zero, if_pos hlt, ← hn]
    exact reads_endRows h ha (by simp [AtStop, hrest])
  | cons line more ih =>
    cases hl : isScript line with
    | true =>
      refine ⟨[], r.endRows b, ?_, rfl, rfl, by simp [hl]⟩
      rw [shortReport, List.length_nil, Nat.add_zero, if_pos hlt, ← hn]
      exact reads_endRows h ha (by simp [AtStop, hrest, hl])
    | false =>
      obtain ⟨s, hs, hactive, hconsumed, hexpected, hphase, hname, hseen⟩ :=
        reads_row (b := ⟨b, []⟩) h ha hrest hl
      have hmore : s.rest = more := hs.rest_of_append (show r.rest = [line] ++ more from hrest)
      have hplain : (r.rest.takeWhile (!isScript ·)).length =
          (more.takeWhile (!isScript ·)).length + 1 := by
        rw [hrest, List.takeWhile_cons_of_pos (by simp [hl]), List.length_cons]
      rw [← hrest, hplain]
      by_cases hlast : n ≤ r.consumed + 1
      · have hfull : ¬ r.consumed + 1 < n := by omega
        refine ⟨[line], s, ?_, hphase.trans (if_pos (by omega)), hseen, ?_⟩
        · rw [shortReport, List.length_singleton, if_neg hfull, List.append_nil]
          exact hs
        · rw [List.length_singleton]
          omega
      · obtain ⟨rows, t, ht, hphase', hseen', hlen⟩ := ih (hphase.trans (if_neg (by omega)))
          (hactive.trans ha) (hexpected.trans hn) (by omega) hmore
        have hline : s.line = r.line + 1 := hs.line_eq
        have htotal : r.consumed + 1 + rows.length = r.consumed + (line :: rows).length := by
          rw [List.length_cons]
          omega
        rw [hconsumed, hline, hname, htotal] at ht
        refine ⟨line :: rows, t, hs.trans ht, hphase', hseen'.trans hseen, ?_⟩
        rw [List.length_cons, hlen, hconsumed]
        omega

/-- Once the number of rows is known, all rows there are up to that number are taken. -/
theorem reads_begun (hphase : r.phase = if r.expected = 0 then .name else .rows)
    (ha : r.active = some b) (hn : r.expected = n) (hzero : r.consumed = 0) : ∃ rows t,
      Reads r rows (rowEvents b.key 0 r.line rows ++ shortReport b r.nameLine n rows.length) t ∧
      t.phase = .name ∧ t.seen = r.seen ∧
      rows.length = min n (r.rest.takeWhile (!isScript ·)).length := by
  cases n with
  | zero =>
    refine ⟨[], r, ?_, hphase.trans (if_pos hn), rfl, by simp⟩
    simpa [rowEvents, shortReport] using Reads.refl r
  | succ n =>
    have hne : r.expected ≠ 0 := by omega
    obtain ⟨rows, t, ht, hrest⟩ := reads_rows_found (hphase.trans (if_neg hne)) ha hn (by omega)
    rw [hzero, Nat.zero_add] at ht
    rw [hzero, Nat.sub_zero] at hrest
    exact ⟨rows, t, ht, hrest⟩

/-! ## One block -/

/-- The rest of a block, behind its name: from `r` the reader takes the lines of `found` that
follow its name, and comes to `t`. -/
structure ReadsBody (r : BlockReader κ) (found : FoundBlock κ) (t : BlockReader κ) : Prop where
  blanks : found.blanks = []
  reads : Reads r (found.count.toList ++ found.rows) (found.events r.nameLine) t
  counted : Counted found.spec.rows r.rest found.count found.expected
  length_rows : found.rows.length =
    min (found.expected.getD 0) ((found.rows ++ t.rest).takeWhile (!isScript ·)).length
  phase : t.phase = .name
  seen : t.seen = r.seen

theorem events_of_expected {found : FoundBlock κ} (hblanks : found.blanks = [])
    (hn : found.expected = some n) (nameLine : Int) : found.events nameLine =
      rowEvents found.spec.key 0 (nameLine + 1 + found.count.toList.length) found.rows ++
        shortReport found.spec nameLine n found.rows.length := by
  have hname : nameLine + (0 : Nat) = nameLine := Int.add_zero nameLine
  simp only [FoundBlock.events, FoundBlock.report?, hblanks, hn, List.length_nil, hname, shortReport]
  split <;> rfl

theorem readsBody_fixed (hphase : r.phase = if r.expected = 0 then .name else .rows)
    (ha : r.active = some b) (hzero : r.consumed = 0) (hline : r.line = r.nameLine + 1)
    (hn : r.expected = n) (hrows : b.rows = some (n : Int)) (name : String) :
    ∃ found t, ReadsBody r found t ∧ found.spec = b ∧ found.name = name := by
  obtain ⟨rows, t, ht, hname, hseen, hlen⟩ := reads_begun hphase ha hn hzero
  refine ⟨{ spec := b, name := name, expected := some n, rows := rows }, t, ?_, rfl, rfl⟩
  refine ⟨rfl, ?_, ?_, ?_, hname, hseen⟩
  · rw [events_of_expected rfl rfl, Option.toList_none, List.length_nil, Int.natCast_zero,
      Int.add_zero, ← hline]
    exact ht
  · rw [hrows]
    exact .fixed n r.rest
  · rw [← ht.rest_eq]
    exact hlen

/-- Whatever follows the name of a counted block, a number of rows or not. -/
theorem readsBody_counted (hphase : r.phase = .count) (ha : r.active = some b)
    (hzero : r.consumed = 0) (hline : r.line = r.nameLine + 1) (hrows : b.rows = none)
    (name : String) : ∃ found t, ReadsBody r found t ∧ found.spec = b ∧ found.name = name := by
  rcases atStop_or_plain r.rest with hstop | ⟨text, more, hrest, hl⟩
  · have hmissing := reads_count_missing hphase ha hstop
    refine ⟨{ spec := b, name := name },
      { r.report r.nameLine (.countMissing b.name) with phase := .name }, ?_, rfl, rfl⟩
    refine ⟨rfl, ?_, ?_, by simp, rfl, rfl⟩
    · simpa [FoundBlock.events, FoundBlock.report?, rowEvents] using hmissing
    · rw [hrows]
      exact .missing r.rest hstop
  · cases hn : (words text).head?.bind Numeral.readInt? with
    | none =>
      have hinvalid := reads_count_invalid hphase ha hrest hl hn
      refine ⟨{ spec := b, name := name, count := some text },
        { (r.take 1).report r.line (.countInvalid b.name (trim text)) with phase := .name }, ?_,
        rfl, rfl⟩
      refine ⟨rfl, ?_, ?_, by simp, rfl, rfl⟩
      · simpa [FoundBlock.events, FoundBlock.report?, rowEvents, hline] using hinvalid
      · rw [hrows, hrest]
        exact .invalid text more hl hn
    | some n =>
      have hmax : max n 0 = (n.toNat : Int) := by omega
      have hfirst := reads_count_given hphase ha hrest hl hn
      obtain ⟨rows, t, ht, hname, hseen, hlen⟩ :=
        reads_begun (r := (r.take 1).beginRows (max n 0)) rfl ha hmax hzero
      refine ⟨⟨b, [], name, some text, some n.toNat, rows⟩, t, ?_, rfl, rfl⟩
      refine ⟨rfl, ?_, ?_, ?_, hname, hseen⟩
      · rw [hfirst.line_eq, hline] at ht
        rw [events_of_expected rfl rfl]
        exact hfirst.trans ht
      · rw [hrows, hrest]
        exact .given text more n hl hn
      · rw [← ht.rest_eq]
        exact hlen

/-- A line that names a block opens one, and all of the block is taken. -/
theorem reads_found (h : r.phase = .name) (hm : MarkFree r.specs)
    (hnat : ∀ s ∈ r.specs, ∀ n ∈ s.rows, 0 ≤ n) (hrest : r.rest = line :: more)
    (hb : isBlankLine line = false) (hs : (words line).head?.bind r.spec? = some b) :
    ∃ (found : FoundBlock κ) (t : BlockReader κ),
      Reads r found.lines (found.events r.line) t ∧ t.phase = .name ∧
      t.seen = r.seen.push found.spec.name ∧ found.Stands r.specs t.rest := by
  have hfirst := reads_named hm h hrest hb hs
  obtain ⟨w, hw, hspec⟩ := Option.bind_eq_some_iff.mp hs
  obtain ⟨found, t, hbody, rfl, rfl⟩ : ∃ found t, ReadsBody (r.openBlock b) found t ∧
      found.spec = b ∧ found.name = line := by
    cases hrows : b.rows with
    | none =>
      apply readsBody_counted
      all_goals simp [openBlock, hrows, take]
    | some n =>
      obtain ⟨m, rfl⟩ := Int.eq_ofNat_of_zero_le (hnat b (mem_specs_of_spec? hspec).1 n hrows)
      apply readsBody_fixed (n := m)
      all_goals simp [openBlock, hrows, take, beginRows]
  obtain ⟨rfl, hlast⟩ := spec?_eq_some_iff.mp hspec
  have hopened : (r.openBlock found.spec).nameLine = r.line ∧
      (r.openBlock found.spec).seen = r.seen.push found.spec.name := by
    unfold openBlock
    cases found.spec.rows <;> exact ⟨rfl, rfl⟩
  have hreads := hfirst.trans hbody.reads
  have hnext := hbody.reads.rest_eq
  refine ⟨found, t, ?_, hbody.phase, hbody.seen.trans hopened.2, ?_⟩
  · rw [FoundBlock.lines_eq, hbody.blanks]
    rw [hopened.1] at hreads
    exact hreads
  · refine ⟨by simp [hbody.blanks], hw, hlast, ?_, hbody.length_rows⟩
    rw [← List.append_assoc, ← hnext]
    exact hbody.counted

end BlockReader

/-! ## All blocks -/

section

variable {specs : List (BlockSpec κ)} {ls tail left : List String} {found : List (FoundBlock κ)}
  {line : String}

theorem Finds.stops (h : Finds specs ls found tail left) : ∀ l ∈ left.head?,
    isBlankLine l = false ∧ ∀ s ∈ specs, (words l).head? ≠ some s.name := by
  induction h with
  | done tail left hblank hleft => exact hleft
  | block b hb hmore ih => exact ih

/-- A blank line before some blocks belongs to the first of them, or to the lines behind if there
is none. -/
theorem Finds.blank (h : Finds specs ls found tail left) (hb : isBlankLine line = true) :
    ∃ found' tail', Finds specs (line :: ls) found' tail' left ∧
      found'.flatMap (·.lines) ++ tail' = line :: (found.flatMap (·.lines) ++ tail) ∧
      (∀ n, foundEvents n found' = foundEvents (n + 1) found) ∧
      found'.map (·.spec.name) = found.map (·.spec.name) := by
  cases h with
  | done tail left hblank hleft =>
    refine ⟨[], line :: tail, .done (line :: tail) left ?_ hleft, rfl, fun _ => rfl, rfl⟩
    intro l hl
    rcases List.mem_cons.mp hl with rfl | hl
    · exact hb
    · exact hblank l hl
  | @block b bs after _ _ hstands hmore =>
    have hlines : { b with blanks := line :: b.blanks }.lines = line :: b.lines := rfl
    refine ⟨{ b with blanks := line :: b.blanks } :: bs, tail, ?_, ?_, fun n => ?_, rfl⟩
    · rw [← List.cons_append, ← hlines]
      refine .block _ ⟨?_, hstands.named, hstands.spec, hstands.counted, hstands.length_rows⟩ hmore
      intro l hl
      rcases List.mem_cons.mp hl with rfl | hl
      · exact hb
      · exact hstands.blanks l hl
    · rw [List.flatMap_cons, List.flatMap_cons, hlines]
      rfl
    · have hname : n + (b.blanks.length + 1 : Nat) = n + 1 + b.blanks.length := by omega
      have hnext : n + (b.lines.length + 1 : Nat) = n + 1 + b.lines.length := by omega
      rw [foundEvents, foundEvents, hlines, List.length_cons, hnext]
      simp only [FoundBlock.events, FoundBlock.report?, List.length_cons, hname]

end

namespace BlockReader

variable {r t : BlockReader κ}

/-- A reader that waits for a name takes all blocks there are, one after the other. -/
theorem reads_blocks (h : r.phase = .name) (hm : MarkFree r.specs)
    (hnat : ∀ s ∈ r.specs, ∀ n ∈ s.rows, 0 ≤ n) : ∃ found tail t,
      Reads r (found.flatMap (·.lines) ++ tail) (foundEvents r.line found) t ∧ t.phase = .done ∧
      t.seen.toList = r.seen.toList ++ found.map (·.spec.name) ∧
      Finds r.specs r.rest found tail t.rest := by
  induction hlen : r.rest.length using Nat.strongRecOn generalizing r with
  | ind len ih =>
  subst hlen
  have hend (hname : r.readName = { r with phase := .done }) :
      Reads r [] [] { r with phase := .done } := by
    refine reads_stay ?_ rfl rfl rfl rfl (List.append_nil _).symm rfl
    rw [run_name h, hname]
  cases hrest : r.rest with
  | nil =>
    refine ⟨[], [], _, hend (readName_nil hrest), rfl, (List.append_nil _).symm, ?_⟩
    rw [hrest]
    exact .done [] [] (by simp) (by simp)
  | cons line more =>
    cases hb : isBlankLine line with
    | true =>
      have hfirst := reads_blank h hrest hb
      have hmore : (r.take 1).rest = more := by simp [take, hrest]
      obtain ⟨found, tail, t, ht, hdone, hseen, hfinds⟩ :=
        ih (r := r.take 1) _ (by simp [hmore, hrest]) h hm hnat rfl
      obtain ⟨found', tail', hfinds', hlines, hevents, hnames⟩ := hfinds.blank hb
      have hline : (r.take 1).line = r.line + 1 := rfl
      refine ⟨found', tail', t, ?_, hdone, hnames ▸ hseen, hmore ▸ hfinds'⟩
      rw [hlines, hevents, ← hline]
      exact hfirst.trans ht
    | false =>
      have hname := readName_cons hrest hb
      cases hs : (words line).head?.bind r.spec? with
      | none =>
        rw [hs] at hname
        refine ⟨[], [], _, hend hname, rfl, (List.append_nil _).symm, ?_⟩
        rw [hrest]
        refine .done [] (line :: more) (by simp) fun l hl => ?_
        obtain rfl := Option.some.inj hl
        exact ⟨hb, bind_spec?_eq_none_iff.mp hs⟩
      | some b =>
        obtain ⟨block, s, hblock, hphase, hseen, hstands⟩ := reads_found h hm hnat hrest hb hs
        have hless : s.rest.length < r.rest.length := by
          rw [hblock.rest_eq, FoundBlock.lines_eq]
          simp
          omega
        obtain ⟨found, tail, t, ht, hdone, hseen', hfinds⟩ := ih _ hless hphase
          (hblock.specs_eq ▸ hm) (hblock.specs_eq ▸ hnat) rfl
        rw [hblock.line_eq] at ht
        refine ⟨block :: found, tail, t, ?_, hdone, ?_, ?_⟩
        · rw [List.flatMap_cons, List.append_assoc]
          exact hblock.trans ht
        · rw [hseen', hseen, Array.toList_push, List.append_assoc]
          rfl
        · rw [← hrest, hblock.rest_eq]
          rw [hblock.specs_eq] at hfinds
          exact .block block hstands hfinds

end BlockReader

/-! ## Lines of rows -/

section

variable {key key' : κ} {k k' : Nat} {text : String} {n line : Int} {rows : List String}
  {b : FoundBlock κ} {found : List (FoundBlock κ)}

theorem getElem?_of_mem_rowEvents (h : .row key k text n ∈ rowEvents key' k' line rows) :
    ∃ m : Nat, n = line + m ∧ rows[m]? = some text := by
  induction rows generalizing k' line with
  | nil => cases h
  | cons row rows ih =>
    rcases List.mem_cons.mp h with h | h
    · obtain ⟨-, -, rfl, rfl⟩ := BlockEvent.row.inj h
      exact ⟨0, (Int.add_zero n).symm, rfl⟩
    · obtain ⟨m, hm, hrow⟩ := ih h
      exact ⟨m + 1, by omega, hrow⟩

theorem FoundBlock.getElem?_of_mem_events (h : .row key k text n ∈ b.events line) :
    ∃ m : Nat, n = line + m ∧ b.lines[m]? = some text := by
  rcases List.mem_append.mp h with h | h
  · obtain ⟨m, hm, hrow⟩ := getElem?_of_mem_rowEvents h
    refine ⟨b.blanks.length + (1 + (b.count.toList.length + m)), by omega, ?_⟩
    rw [b.lines_eq, List.getElem?_append_right (by omega), Nat.add_sub_cancel_left, Nat.add_comm 1,
      List.getElem?_cons_succ, List.getElem?_append_right (by omega), Nat.add_sub_cancel_left]
    exact hrow
  · obtain ⟨p, -, hp⟩ := List.mem_map.mp h
    cases hp

/-- A row that is read stands on the line that comes with it. -/
theorem getElem?_of_mem_foundEvents (h : .row key k text n ∈ foundEvents line found) :
    ∃ m : Nat, n = line + m ∧ (found.flatMap (·.lines))[m]? = some text := by
  induction found generalizing line with
  | nil => cases h
  | cons b found ih =>
    rw [List.flatMap_cons]
    rcases List.mem_append.mp h with h | h
    · obtain ⟨m, hm, hrow⟩ := b.getElem?_of_mem_events h
      obtain ⟨hlt, -⟩ := List.getElem?_eq_some_iff.mp hrow
      exact ⟨m, hm, by rw [List.getElem?_append_left hlt, hrow]⟩
    · obtain ⟨m, hm, hrow⟩ := ih h
      refine ⟨b.lines.length + m, by omega, ?_⟩
      rw [List.getElem?_append_right (by omega), Nat.add_sub_cancel_left, hrow]

end

/-! ## One way to find blocks -/

section

variable {specs : List (BlockSpec κ)} {ls tail tail' left left' after after' : List String}
  {b c : FoundBlock κ} {found found' : List (FoundBlock κ)}

theorem Counted.unique {rows : Option Int} {count count' : Option String}
    {expected expected' : Option Nat} (h : Counted rows ls count expected)
    (h' : Counted rows ls count' expected') : count = count' ∧ expected = expected' := by
  cases h with
  | fixed n =>
    generalize hrows : some (n : Int) = rows at h'
    cases h' with
    | fixed m =>
      obtain rfl : n = m := by simpa using hrows
      exact ⟨rfl, rfl⟩
    | _ => cases hrows
  | missing _ hstop =>
    cases h' with
    | missing => exact ⟨rfl, rfl⟩
    | invalid text more hl => simp [hstop text rfl] at hl
    | given text more m hl => simp [hstop text rfl] at hl
  | invalid text more hl hn =>
    cases h' with
    | missing _ hstop => simp [hstop text rfl] at hl
    | invalid => exact ⟨rfl, rfl⟩
    | given _ _ m _ hn' => simp [hn] at hn'
  | given text more n hl hn =>
    cases h' with
    | missing _ hstop => simp [hstop text rfl] at hl
    | invalid _ _ _ hn' => simp [hn] at hn'
    | given _ _ m _ hn' =>
      obtain rfl : n = m := Option.some.inj (hn.symm.trans hn')
      exact ⟨rfl, rfl⟩

/-- What stands behind blank lines is the same, however it is found. -/
theorem eq_of_blank_append {as bs xs ys : List String} (h : as ++ xs = bs ++ ys)
    (has : ∀ l ∈ as, isBlankLine l = true) (hbs : ∀ l ∈ bs, isBlankLine l = true)
    (hxs : ∀ l ∈ xs.head?, isBlankLine l = false) (hys : ∀ l ∈ ys.head?, isBlankLine l = false) :
    as = bs ∧ xs = ys := by
  have htake {as xs : List String} (has : ∀ l ∈ as, isBlankLine l = true)
      (hxs : ∀ l ∈ xs.head?, isBlankLine l = false) : (as ++ xs).takeWhile isBlankLine = as := by
    rw [List.takeWhile_append_of_pos has]
    cases xs with
    | nil => simp
    | cons l xs => simp [hxs l rfl]
  have heq : as = bs := by rw [← htake has hxs, h, htake hbs hys]
  subst heq
  exact ⟨rfl, List.append_cancel_left h⟩

theorem FoundBlock.Stands.isBlankLine_name (h : b.Stands specs after) :
    isBlankLine b.name = false := by
  by_contra hb
  have hnone : words b.name = [] := BlockReader.words_of_isBlankLine (by simpa using hb)
  simpa [hnone] using h.named

theorem FoundBlock.Stands.spec_eq (h : b.Stands specs after) (h' : c.Stands specs after')
    (hname : b.spec.name = c.spec.name) : b.spec = c.spec := by
  let r : BlockReader κ := { specs, rest := [], line := 0 }
  have hb : r.spec? b.spec.name = some b.spec := BlockReader.spec?_eq_some_iff.mpr ⟨rfl, h.spec⟩
  have hc : r.spec? c.spec.name = some c.spec := BlockReader.spec?_eq_some_iff.mpr ⟨rfl, h'.spec⟩
  rw [hname, hc] at hb
  exact (Option.some.inj hb).symm

theorem FoundBlock.Stands.unique (h : b.Stands specs after) (h' : c.Stands specs after')
    (heq : b.lines ++ after = c.lines ++ after') : b = c ∧ after = after' := by
  rw [b.lines_eq, c.lines_eq, List.append_assoc, List.append_assoc, List.cons_append,
    List.cons_append] at heq
  obtain ⟨hblanks, heq⟩ := eq_of_blank_append heq h.blanks h'.blanks
    (by simpa using h.isBlankLine_name) (by simpa using h'.isBlankLine_name)
  obtain ⟨hname, hrest⟩ := List.cons.inj heq
  rw [List.append_assoc, List.append_assoc] at hrest
  have hspec : b.spec = c.spec := by
    have hw := h.named
    rw [hname, h'.named] at hw
    exact h.spec_eq h' (Option.some.inj hw).symm
  have hcounted := h.counted
  rw [hspec, hrest] at hcounted
  obtain ⟨hcount, hexpected⟩ := hcounted.unique h'.counted
  rw [hcount] at hrest
  have hbody := List.append_cancel_left hrest
  have hlen : b.rows.length = c.rows.length := by
    rw [h.length_rows, h'.length_rows, hexpected, hbody]
  obtain ⟨hrows, hafter⟩ := List.append_inj hbody hlen
  cases b
  cases c
  simp only at hspec hblanks hname hcount hexpected hrows
  subst hspec hblanks hname hcount hexpected hrows
  exact ⟨rfl, hafter⟩

/-- Lines are blocks, blank lines and further lines in one way only. -/
theorem Finds.unique (h : Finds specs ls found tail left) (h' : Finds specs ls found' tail' left') :
    found = found' ∧ tail = tail' ∧ left = left' := by
  -- Where one way ends, the other cannot go on: a block has a name, and what is left has none.
  have hend {b : FoundBlock κ} {after tail left : List String}
      (hblank : ∀ l ∈ tail, isBlankLine l = true)
      (hleft : ∀ l ∈ left.head?, isBlankLine l = false ∧
        ∀ s ∈ specs, (words l).head? ≠ some s.name) (hb : b.Stands specs after)
      (heq : tail ++ left = b.lines ++ after) : False := by
    rw [b.lines_eq, List.append_assoc, List.cons_append] at heq
    obtain ⟨-, rfl⟩ := eq_of_blank_append heq hblank hb.blanks (fun l hl => (hleft l hl).1)
      (by simpa using hb.isBlankLine_name)
    obtain ⟨pre, post, hspecs, -⟩ := hb.spec
    exact (hleft b.name rfl).2 b.spec (by simp [hspecs]) hb.named
  induction h generalizing found' with
  | done tail left hblank hleft =>
    generalize hls : tail ++ left = ls at h'
    cases h' with
    | done tail' left' hblank' hleft' =>
      exact ⟨rfl, eq_of_blank_append hls hblank hblank' (fun l hl => (hleft l hl).1)
        fun l hl => (hleft' l hl).1⟩
    | block c hc => exact (hend hblank hleft hc hls).elim
  | @block b bs after tail left hb hmore ih =>
    generalize hls : b.lines ++ after = ls at h'
    cases h' with
    | done tail' left' hblank' hleft' => exact (hend hblank' hleft' hb hls.symm).elim
    | block c hc hmore' =>
      obtain ⟨rfl, rfl⟩ := hb.unique hc hls
      obtain ⟨rfl, rfl, rfl⟩ := ih hmore'
      exact ⟨rfl, rfl, rfl⟩

end

/-! ## A run -/

/-- A run ends at the end of the lines or before a line that is not blank and names no block. It
takes the lines up to there, none of them a script line, and each of them is a blank line before a
name, a name, a count line, a row or a blank line at the end, in one way only. What it yields are the
rows of its blocks, each on its line, and the reports on the blocks that are cut short. -/
theorem run_finds (specs : List (BlockSpec κ)) (hm : BlockReader.MarkFree specs)
    (hnat : ∀ s ∈ specs, ∀ n ∈ s.rows, 0 ≤ n) (lines : List String) (i : Nat) :
    let r := ({ specs, rest := lines.drop i, line := i + 1 } : BlockReader κ).run
    ∃ (j : Nat) (found : List (FoundBlock κ)) (tail : List String),
      i ≤ j ∧ r.phase = .done ∧ r.rest = lines.drop j ∧ r.line = j + 1 ∧
      (∀ l ∈ (lines.drop j).head?, isBlankLine l = false ∧
        ∀ s ∈ specs, (words l).head? ≠ some s.name) ∧
      r.taken.toList = (lines.drop i).take (j - i) ∧
      (∀ l ∈ r.taken.toList, isScript l = false) ∧
      r.taken.toList = (found.flatMap (·.parts) ++ tail.map (Role.blank, ·)).map Prod.snd ∧
      Finds specs (lines.drop i) found tail (lines.drop j) ∧
      (∀ found' tail' left, Finds specs (lines.drop i) found' tail' left →
        found' = found ∧ tail' = tail ∧ left = lines.drop j) ∧
      r.seen.toList = found.map (·.spec.name) ∧
      r.events.toList = foundEvents (i + 1) found ∧
      ∀ key k text n, .row key k text n ∈ r.events.toList →
        ∃ m : Nat, n = m + 1 ∧ lines[m]? = some text := by
  intro r
  obtain ⟨found, tail, t, ht, hdone, hseen, hfinds⟩ := BlockReader.reads_blocks
    (r := ({ specs, rest := lines.drop i, line := i + 1 } : BlockReader κ)) rfl hm hnat
  obtain rfl : r = t := ht.run_eq.trans (BlockReader.run_of_done hdone)
  generalize hls : found.flatMap (·.lines) ++ tail = ls at ht
  have hrest : lines.drop i = ls ++ r.rest := ht.rest_eq
  have htaken : r.taken.toList = ls := ht.taken_eq
  have hevents : r.events.toList = foundEvents (i + 1) found := ht.events_eq
  have hleft : r.rest = lines.drop (i + ls.length) := by
    rw [← List.drop_drop, hrest, List.drop_left]
  have hline : r.line = (i + ls.length : Nat) + 1 := by
    rw [ht.line_eq]
    dsimp only
    omega
  rw [hleft] at hfinds
  refine ⟨i + ls.length, found, tail, Nat.le_add_right _ _, hdone, hleft, hline, ?_, ?_, ?_, ?_,
    hfinds, fun _ _ _ h => h.unique hfinds, hseen, hevents, ?_⟩
  · exact hfinds.stops
  · rw [htaken, hrest, Nat.add_sub_cancel_left, List.take_left]
  · rw [htaken]
    exact ht.plain
  · rw [htaken, ← hls, List.map_append, List.map_flatMap, List.map_map]
    exact congrArg _ (List.map_id tail).symm
  · intro key k text n hrow
    rw [hevents] at hrow
    obtain ⟨m, hm, htext⟩ := getElem?_of_mem_foundEvents hrow
    obtain ⟨hlt, -⟩ := List.getElem?_eq_some_iff.mp htext
    refine ⟨i + m, by omega, ?_⟩
    rw [← List.getElem?_drop, hrest, ← hls, List.append_assoc, List.getElem?_append_left hlt, htext]

/-- A block of two rows, and one that counts its rows. -/
def twoSpecs : List (BlockSpec Nat) := [⟨0, "CELLS", some 2⟩, ⟨1, "LINES", none⟩]

/-- A word where a number should stand is taken as the count line, and reported. -/
theorem run_finds_invalid_count :
    let lines := ["$v GRID 2 1", "", "CELLS", "a", "LINES", "LINES", "one", "red", "LINES"]
    let r := ({ specs := twoSpecs, rest := lines.drop 1, line := (1 : Nat) + 1 } :
      BlockReader Nat).run
    r.rest = ["red", "LINES"] ∧ r.seen.toList = ["CELLS", "LINES"] ∧
      r.events.toList = [.row 0 0 "a" 4, .row 0 1 "LINES" 5,
        .problem ⟨7, .countInvalid "LINES" "one"⟩] := by
  intro lines r
  have hcells : FoundBlock.Stands twoSpecs
      ⟨⟨0, "CELLS", some 2⟩, [""], "CELLS", none, some 2, ["a", "LINES"]⟩
      ["LINES", "one", "red", "LINES"] :=
    ⟨by decide, by decide +kernel, ⟨[], [⟨1, "LINES", none⟩], rfl, by decide⟩, .fixed 2 _,
      by decide +kernel⟩
  have hlines : FoundBlock.Stands twoSpecs
      ⟨⟨1, "LINES", none⟩, [], "LINES", some "one", none, []⟩ ["red", "LINES"] :=
    ⟨by decide, by decide +kernel, ⟨[⟨0, "CELLS", some 2⟩], [], rfl, by decide⟩,
      .invalid "one" _ (by decide +kernel) (by decide +kernel), by decide +kernel⟩
  have hfinds : Finds twoSpecs (lines.drop 1) [_, _] [] ["red", "LINES"] :=
    .block _ hcells (.block _ hlines (.done [] _ (by simp) (by decide +kernel)))
  obtain ⟨j, found, tail, -, -, hrest, -, -, -, -, -, -, hunique, hseen, hevents, -⟩ :=
    run_finds twoSpecs (by decide) (by decide) lines 1
  obtain ⟨rfl, -, hleft⟩ := hunique _ _ _ hfinds
  exact ⟨hrest.trans hleft.symm, hseen, hevents⟩

end Flipbook.Script
