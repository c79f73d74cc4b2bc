import Mathlib
import Flipbook.Proofs.Blocks
import Flipbook.Proofs.Lists

/-!
A reader of blocks, one line at a time. `Turn` says once what a reader can do next; it takes one
line, or it takes none and no line that follows. What it yields depends only on the lines it takes:
elsewhere in a script, and with other lines behind them, it takes the same and yields the same.
-/
namespace Flipbook

/-- A report `d` lines further down. -/
def Report.moved (d : Int) (p : Report) : Report := { p with line := p.line + d }

end Flipbook

namespace Flipbook.Script

variable {κ : Type}

namespace BlockEvent

/-- The line that an event points at. -/
def line : BlockEvent κ → Int
  | .row _ _ _ line => line
  | .problem p => p.line

/-- An event `d` lines further down. -/
def moved (d : Int) : BlockEvent κ → BlockEvent κ
  | .row key i text line => .row key i text (line + d)
  | .problem p => .problem (p.moved d)

end BlockEvent

namespace BlockReader

open Text

variable {r t : BlockReader κ} {b : BlockSpec κ} {line : String} {ls more after : List String}
  {d n : Int}

/-! ## Turns -/

/-- What a reader can do next. It takes at most one line. -/
inductive Turn (r : BlockReader κ) : BlockReader κ → Prop
  | blank (line : String) (more : List String) (h : r.phase = .name)
    (hrest : r.rest = line :: more) (hb : isBlankLine line = true) : Turn r (r.take 1)
  | block (b : BlockSpec κ) (line : String) (more : List String) (h : r.phase = .name)
    (hrest : r.rest = line :: more) (hb : isBlankLine line = false)
    (hs : (words line).head?.bind r.spec? = some b) : Turn r (r.openBlock b)
  | last (h : r.phase = .name) (hrest : ∀ line ∈ r.rest.head?, isBlankLine line = false ∧
      (words line).head?.bind r.spec? = none) : Turn r { r with phase := .done }
  | noCount (b : BlockSpec κ) (h : r.phase = .count) (ha : r.active = some b)
    (hstop : AtStop r.rest) :
    Turn r { r.report r.nameLine (.countMissing b.name) with phase := .name }
  | count (b : BlockSpec κ) (line : String) (more : List String) (n : Int) (h : r.phase = .count)
    (ha : r.active = some b) (hrest : r.rest = line :: more) (hl : isScript line = false)
    (hn : (words line).head?.bind Numeral.readInt? = some n) :
    Turn r ((r.take 1).beginRows (max n 0))
  | badCount (b : BlockSpec κ) (line : String) (more : List String) (h : r.phase = .count)
    (ha : r.active = some b) (hrest : r.rest = line :: more) (hl : isScript line = false)
    (hn : (words line).head?.bind Numeral.readInt? = none) :
    Turn r { (r.take 1).report r.line (.countInvalid b.name (trim line)) with phase := .name }
  | noRow (b : BlockSpec κ) (h : r.phase = .rows) (ha : r.active = some b)
    (hstop : AtStop r.rest) : Turn r (r.endRows b)
  | row (b : BlockSpec κ) (line : String) (more : List String) (h : r.phase = .rows)
    (ha : r.active = some b) (hrest : r.rest = line :: more) (hl : isScript line = false) :
    Turn r { r.take 1 with
      events := r.events.push (.row b.key r.consumed line r.line)
      consumed := r.consumed + 1
      phase := if r.expected ≤ (r.consumed + 1 : Nat) then .name else .rows }
  | lost (h : r.phase = .count ∨ r.phase = .rows) (ha : r.active = none) :
    Turn r { r with phase := .done }

/-- A reader that is not done has a turn. -/
theorem exists_turn (h : r.phase ≠ .done) : ∃ t, Turn r t := by
  cases hphase : r.phase with
  | done => exact absurd hphase h
  | name =>
    cases hrest : r.rest with
    | nil => exact ⟨_, .last hphase (by simp [hrest])⟩
    | cons line more =>
      cases hb : isBlankLine line with
      | true => exact ⟨_, .blank line more hphase hrest hb⟩
      | false =>
        cases hs : (words line).head?.bind r.spec? with
        | none =>
          refine ⟨_, .last hphase fun l hl => ?_⟩
          rw [hrest] at hl
          obtain rfl := Option.some.inj hl
          exact ⟨hb, hs⟩
        | some b => exact ⟨_, .block b line more hphase hrest hb hs⟩
  | count =>
    cases ha : r.active with
    | none => exact ⟨_, .lost (.inl hphase) ha⟩
    | some b =>
      rcases atStop_or_plain r.rest with hstop | ⟨line, more, hrest, hl⟩
      · exact ⟨_, .noCount b hphase ha hstop⟩
      · cases hn : (words line).head?.bind Numeral.readInt? with
        | none => exact ⟨_, .badCount b line more hphase ha hrest hl hn⟩
        | some n => exact ⟨_, .count b line more n hphase ha hrest hl hn⟩
  | rows =>
    cases ha : r.active with
    | none => exact ⟨_, .lost (.inr hphase) ha⟩
    | some b =>
      rcases atStop_or_plain r.rest with hstop | ⟨line, more, hrest, hl⟩
      · exact ⟨_, .noRow b hphase ha hstop⟩
      · exact ⟨_, .row b line more hphase ha hrest hl⟩

/-- A reader goes on from its turn. -/
theorem Turn.run_eq (ht : Turn r t) : r.run = t.run := by
  cases ht with
  | blank line more h hrest hb => exact (reads_blank h hrest hb).run_eq
  | block b line more h hrest hb hs =>
    rw [run_name h, readName_cons hrest hb, hs]
  | last h hrest =>
    rw [run_name h]
    cases hr : r.rest with
    | nil => rw [readName_nil hr, hr]
    | cons line more =>
      obtain ⟨hb, hs⟩ := hrest line (by rw [hr]; rfl)
      rw [readName_cons hr hb, hs, hr]
  | noCount b h ha hstop =>
    rw [run_count h ha, readCount_stop hstop]
  | count b line more n h ha hrest hl hn =>
    rw [run_count h ha, readCount_plain hrest hl, hn]
  | badCount b line more h ha hrest hl hn =>
    rw [run_count h ha, readCount_plain hrest hl, hn]
  | noRow b h ha hstop => rw [run_rows h ha, readRow_stop hstop]
  | row b line more h ha hrest hl =>
    rw [run_rows h ha, readRow_plain hrest hl]
  | lost h ha =>
    have hstep : r.step = { r with phase := .done } := by
      rcases h with h | h <;> simp only [step, h, ha]
    rw [run_of_ne_done (by rcases h with h | h <;> simp [h]), hstep]

theorem fuel_lt_of_line (hrest : r.rest = line :: more) (ht : t.rest = more) :
    t.fuel < r.fuel := by
  have hle := fuel_le t
  have hlow : 3 * r.rest.length ≤ r.fuel := Nat.le_add_right _ _
  rw [ht] at hle
  rw [hrest, List.length_cons] at hlow
  omega

theorem Turn.fuel_lt (ht : Turn r t) : t.fuel < r.fuel := by
  cases ht with
  | blank line more h hrest hb => exact fuel_lt_of_line hrest (by simp [take, hrest])
  | block b line more h hrest hb hs =>
    exact fuel_lt_of_line hrest (by rw [rest_openBlock, hrest]; rfl)
  | last h hrest => simp [fuel, h]
  | noCount b h ha hstop => simp [fuel, h, report]
  | count b line more n h ha hrest hl hn =>
    exact fuel_lt_of_line hrest (by simp [beginRows, take, hrest])
  | badCount b line more h ha hrest hl hn =>
    exact fuel_lt_of_line hrest (by simp [report, take, hrest])
  | noRow b h ha hstop => simp [fuel, h, endRows, report]
  | row b line more h ha hrest hl => exact fuel_lt_of_line hrest (by simp [take, hrest])
  | lost h ha => rcases h with h | h <;> simp [fuel, h]

/-- What holds of a reader that is done, and before a turn if after it, holds of every reader. -/
theorem turn_induction {P : BlockReader κ → Prop} (hdone : ∀ r, r.phase = .done → P r)
    (hturn : ∀ r t, Turn r t → P t → P r) (r : BlockReader κ) : P r := by
  induction hfuel : r.fuel using Nat.strongRecOn generalizing r with
  | ind n ih =>
    subst hfuel
    by_cases h : r.phase = .done
    · exact hdone r h
    · obtain ⟨t, ht⟩ := exists_turn h
      exact hturn r t ht (ih t.fuel ht.fuel_lt t rfl)

/-- A property that every turn keeps holds at the end of a run. -/
theorem run_keeps {P : BlockReader κ → Prop} (hkeep : ∀ r t, Turn r t → P r → P t) (h : P r) :
    P r.run := by
  induction r using turn_induction with
  | hdone r hr => rwa [run_of_done hr]
  | hturn r t ht ih =>
    rw [ht.run_eq]
    exact ih (hkeep r t ht h)

theorem Turn.specs_eq (ht : Turn r t) : t.specs = r.specs := by
  cases ht with
  | block b line more => cases hb : b.rows <;> simp [openBlock, take, beginRows, hb]
  | _ => rfl

/-! ## Readers elsewhere -/

/-- A reader `d` lines further down, with other lines to come. -/
def moved (d : Int) (lines : List String) (r : BlockReader κ) : BlockReader κ :=
  { r with
    rest := lines
    line := r.line + d
    nameLine := r.nameLine + d
    events := r.events.map (·.moved d) }

theorem openBlock_moved (hrest : r.rest = line :: more) (d : Int) (tail : List String) :
    (r.moved d (line :: tail)).openBlock b = (r.openBlock b).moved d tail := by
  have hline : r.line + d + 1 = r.line + 1 + d := by omega
  unfold openBlock
  cases b.rows <;> simp [moved, take, hrest, beginRows, hline]

/-- No plain line comes first where a reader stops. -/
theorem AtStop.eq_nil (hstop : AtStop (ls ++ more)) (hplain : ∀ l ∈ ls, isScript l = false) :
    ls = [] := by
  cases ls with
  | nil => rfl
  | cons l ls =>
    have hl := hplain l List.mem_cons_self
    rw [hstop l rfl] at hl
    cases hl

theorem rest_run_of_stop (hp : PlainNames r.specs) (hstop : AtStop r.rest) :
    r.run.rest = r.rest := by
  obtain ⟨ls, evs, h⟩ := reads_run hp
  rw [h.rest_eq] at hstop ⊢
  rw [hstop.eq_nil h.plain, List.nil_append]

/-- A turn takes one line, whatever the lines behind it; or it takes none, and the reader stops
where a script line comes next or none. -/
theorem Turn.moved (hp : PlainNames r.specs) (ht : Turn r t) :
    (∃ line, r.rest = line :: t.rest ∧
      ∀ d tail, Turn (r.moved d (line :: tail)) (t.moved d tail)) ∨
    (t.rest = r.rest ∧ t.run.rest = r.rest ∧
      ∀ d after, AtStop after → Turn (r.moved d after) (t.moved d after)) := by
  have hline (d : Int) : r.line + d + 1 = r.line + 1 + d := by omega
  cases ht with
  | blank line more h hrest hb =>
    refine .inl ⟨line, by simp [take, hrest], fun d tail => ?_⟩
    convert Turn.blank (r := r.moved d (line :: tail)) line tail h rfl hb using 1
    simp [BlockReader.moved, take, hrest, hline]
  | block b line more h hrest hb hs =>
    refine .inl ⟨line, by rw [rest_openBlock, hrest]; rfl, fun d tail => ?_⟩
    rw [← openBlock_moved hrest]
    exact .block b line tail h rfl hb hs
  | last h hrest =>
    refine .inr ⟨rfl, by rw [run_of_done rfl], fun d after hstop => ?_⟩
    refine Turn.last (r := r.moved d after) h fun line hl => ?_
    exact ⟨isBlankLine_of_isScript (hstop line hl), spec?_of_isScript hp.markFree (hstop line hl)⟩
  | noCount b h ha hstop =>
    refine .inr ⟨rfl, rest_run_of_stop hp hstop, fun d after hstop => ?_⟩
    convert Turn.noCount (r := r.moved d after) b h ha hstop using 1
    simp [BlockReader.moved, report, BlockEvent.moved, Report.moved]
  | count b line more n h ha hrest hl hn =>
    refine .inl ⟨line, by simp [beginRows, take, hrest], fun d tail => ?_⟩
    convert Turn.count (r := r.moved d (line :: tail)) b line tail n h ha rfl hl hn using 1
    simp [BlockReader.moved, beginRows, take, hrest, hline]
  | badCount b line more h ha hrest hl hn =>
    refine .inl ⟨line, by simp [report, take, hrest], fun d tail => ?_⟩
    convert Turn.badCount (r := r.moved d (line :: tail)) b line tail h ha rfl hl hn using 1
    simp [BlockReader.moved, report, take, hrest, hline, BlockEvent.moved, Report.moved]
  | noRow b h ha hstop =>
    refine .inr ⟨rfl, rest_run_of_stop hp hstop, fun d after hstop => ?_⟩
    convert Turn.noRow (r := r.moved d after) b h ha hstop using 1
    simp [BlockReader.moved, endRows, report, BlockEvent.moved, Report.moved]
  | row b line more h ha hrest hl =>
    refine .inl ⟨line, by simp [take, hrest], fun d tail => ?_⟩
    convert Turn.row (r := r.moved d (line :: tail)) b line tail h ha rfl hl using 1
    simp [BlockReader.moved, take, hrest, hline, BlockEvent.moved]
  | lost h ha =>
    refine .inr ⟨rfl, by rw [run_of_done rfl], fun d after hstop => ?_⟩
    exact Turn.lost (r := r.moved d after) h ha

/-- A run that takes the lines `ls` takes them elsewhere too, and comes to the same end, if a script
line follows them there or none. -/
theorem run_moved (hp : PlainNames r.specs) (h : r.rest = ls ++ r.run.rest)
    (hstop : AtStop after) (d : Int) : (r.moved d (ls ++ after)).run = r.run.moved d after := by
  induction r using turn_induction generalizing ls with
  | hdone r hr =>
    rw [run_of_done hr] at h ⊢
    rw [List.self_eq_append_left.mp h, List.nil_append]
    exact run_of_done hr
  | hturn r t ht ih =>
    rw [ht.run_eq] at h ⊢
    have hp' : PlainNames t.specs := by rwa [ht.specs_eq]
    rcases ht.moved hp with ⟨line, hline, hturn⟩ | ⟨hnone, hrun, hturn⟩
    · obtain ⟨ms, evs, hreads⟩ := reads_run hp'
      have hls : ls = line :: ms := by
        rw [hline, hreads.rest_eq, ← List.cons_append] at h
        exact (List.append_cancel_right h).symm
      rw [hls, List.cons_append, (hturn d (ms ++ after)).run_eq]
      exact ih hp' hreads.rest_eq
    · rw [hrun] at h
      rw [List.self_eq_append_left.mp h, List.nil_append, (hturn d after hstop).run_eq]
      have hrest : t.rest = [] ++ t.run.rest := hnone.trans hrun.symm
      exact ih hp' hrest

/-- The line of the last name matters only while its block is read. -/
theorem run_nameLine (h : r.phase = .name) (n : Int) :
    ({ r with nameLine := n } : BlockReader κ).run.taken = r.run.taken ∧
      ({ r with nameLine := n } : BlockReader κ).run.events = r.run.events := by
  induction r using turn_induction with
  | hdone r hr => simp [hr] at h
  | hturn r t ht ih =>
    rw [ht.run_eq]
    cases ht with
    | blank line more h hrest hb =>
      rw [(Turn.blank (r := { r with nameLine := n }) line more h hrest hb).run_eq]
      exact ih h
    | block b line more h hrest hb hs =>
      rw [(Turn.block (r := { r with nameLine := n }) b line more h hrest hb hs).run_eq]
      exact ⟨rfl, rfl⟩
    | last h hrest =>
      rw [(Turn.last (r := { r with nameLine := n }) h hrest).run_eq, run_of_done rfl,
        run_of_done rfl]
      exact ⟨rfl, rfl⟩
    | noCount b h' => simp [h] at h'
    | count b line more n h' => simp [h] at h'
    | badCount b line more h' => simp [h] at h'
    | noRow b h' => simp [h] at h'
    | row b line more h' => simp [h] at h'
    | lost h' => simp [h] at h'

/-- A reader that starts with the lines that another one took, some lines further down, takes these
lines and yields the same, pointing that many lines further down. -/
theorem run_elsewhere {specs : List (BlockSpec κ)} (hp : PlainNames specs) (rest : List String)
    (line : Int) (hstop : AtStop after) (d : Int) :
    let there : BlockReader κ := ({ specs, rest, line } : BlockReader κ).run
    let here : BlockReader κ := ({ specs, rest := there.taken.toList ++ after, line := line + d } :
      BlockReader κ).run
    here.taken = there.taken ∧ here.events = there.events.map (·.moved d) := by
  intro there here
  obtain ⟨ls, evs, hreads⟩ := reads_run (r := ({ specs, rest, line } : BlockReader κ)) hp
  have htaken : there.taken.toList = ls := by
    rw [hreads.taken_eq]
    rfl
  have hrun := run_moved hp hreads.rest_eq hstop d
  have hname := run_nameLine
    (r := ({ specs, rest := there.taken.toList ++ after, line := line + d } : BlockReader κ)) rfl
    (0 + d)
  have hmoved : ({ specs, rest, line } : BlockReader κ).moved d (ls ++ after) =
      { specs, rest := there.taken.toList ++ after, line := line + d, nameLine := 0 + d } := by
    rw [htaken]
    simp [moved]
  rw [hmoved] at hrun
  rw [hrun] at hname
  exact ⟨hname.1.symm, hname.2.symm⟩

/-! ## Lines that events point at -/

/-- A reader whose events point at lines that it took, from line `first` on. -/
structure Within (first : Int) (r : BlockReader κ) : Prop where
  first_le : first ≤ r.line
  name : r.phase = .count ∨ r.phase = .rows → first ≤ r.nameLine ∧ r.nameLine < r.line
  events : ∀ e ∈ r.events.toList, first ≤ e.line ∧ e.line < r.line

theorem Turn.within {first : Int} (ht : Turn r t) (h : Within first r) : Within first t := by
  obtain ⟨hfirst, hname, hevents⟩ := h
  have hlater : ∀ e ∈ r.events.toList, first ≤ e.line ∧ e.line < r.line + 1 := fun e he =>
    ⟨(hevents e he).1, (hevents e he).2.trans (Int.lt_succ r.line)⟩
  cases ht with
  | blank line more hphase hrest hb =>
    exact ⟨by simp [take]; omega, by simp [take, hphase], hlater⟩
  | block b line more hphase hrest hb hs =>
    unfold openBlock
    cases b.rows with
    | none => exact ⟨by simp [take]; omega, fun _ => ⟨hfirst, by simp [take]⟩, hlater⟩
    | some n =>
      exact ⟨by simp [take, beginRows]; omega, fun _ => ⟨hfirst, by simp [take, beginRows]⟩,
        hlater⟩
  | last hphase hrest => exact ⟨hfirst, by simp, hevents⟩
  | noCount b hphase ha hstop =>
    exact ⟨hfirst, by simp, forall_mem_push hevents (hname (.inl hphase))⟩
  | count b line more n hphase ha hrest hl hn =>
    have hold := hname (.inl hphase)
    exact ⟨by simp [take, beginRows]; omega,
      fun _ => ⟨hold.1, hold.2.trans (by simp [take, beginRows])⟩, hlater⟩
  | badCount b line more hphase ha hrest hl hn =>
    exact ⟨by simp [take, report]; omega, by simp,
      forall_mem_push hlater ⟨hfirst, by simp [take, report, BlockEvent.line]⟩⟩
  | noRow b hphase ha hstop =>
    exact ⟨hfirst, by simp [endRows], forall_mem_push hevents (hname (.inr hphase))⟩
  | row b line more hphase ha hrest hl =>
    have hold := hname (.inr hphase)
    exact ⟨by simp [take]; omega, fun _ => ⟨hold.1, hold.2.trans (by simp [take])⟩,
      forall_mem_push hlater ⟨hfirst, by simp [take, BlockEvent.line]⟩⟩
  | lost hphase ha => exact ⟨hfirst, by simp, hevents⟩

/-- What a run yields points at lines that it took. -/
theorem line_of_mem_run {specs : List (BlockSpec κ)} (hp : PlainNames specs) {rest : List String}
    {line : Int} {e : BlockEvent κ}
    (he : e ∈ ({ specs, rest, line } : BlockReader κ).run.events.toList) :
    line ≤ e.line ∧
      e.line < line + ({ specs, rest, line } : BlockReader κ).run.taken.toList.length := by
  obtain ⟨ls, evs, hreads⟩ := reads_run (r := ({ specs, rest, line } : BlockReader κ)) hp
  have hrun : Within line ({ specs, rest, line } : BlockReader κ).run :=
    run_keeps (fun _ _ ht => ht.within) ⟨le_refl _, by simp, by simp⟩
  have hline := hreads.line_eq
  have htaken := hreads.taken_eq
  obtain ⟨hlow, hhigh⟩ := hrun.events e he
  rw [hline] at hhigh
  refine ⟨hlow, ?_⟩
  rw [htaken]
  exact hhigh

end BlockReader

end Flipbook.Script
