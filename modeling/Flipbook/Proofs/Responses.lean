import Mathlib
import Flipbook.Proofs.Conservation

/-!
Responses to script lines. A command other than `COMMIT` draws or is reported at its own line, with
one exception: a command text that starts with a parenthesis has no keyword and passes in silence.
-/
namespace Flipbook.Script

open Text

variable {η : Type} {maxCells number line : Int} {text word l : String} {params rest : List String}
  {v : Vocabulary η} {o : Outcome} {cfg : Config Binary64} {t : Track}
  {st : Statement} {r : Routed} {n : Nat}

/-! ## Commands -/

/-- Whether a command on line `number` draws, or is reported there and does nothing else. -/
def Outcome.Answers (number : Int) (o : Outcome) : Prop :=
  (∃ c, o.action = .draw c) ∨ o.action = .idle ∧ ∃ p ∈ o.reports, p.line = number

theorem answers_draw (c : Command Binary64) (h : o.action = .draw c) : o.Answers number :=
  .inl ⟨c, h⟩

theorem answers_refuse (call : Call) (fault : HeaderFault) :
    (call.refuse fault).Answers call.line :=
  .inr ⟨rfl, _, List.mem_singleton_self _, rfl⟩

theorem answers_readCanvas (call : Call) : (readCanvas call).Answers call.line := by
  unfold readCanvas
  split
  next =>
    split
    next => exact answers_draw _ rfl
    next => exact answers_refuse call _
  next => exact answers_refuse call _

theorem answers_readBarGraph (call : Call) (rest : List String) (line : Int) :
    (readBarGraph call rest line).Answers call.line := by
  unfold readBarGraph
  split
  next => exact answers_refuse call _
  next =>
    split
    next => exact answers_draw _ rfl
    next => exact answers_draw _ rfl

theorem answers_readGrid (maxCells : Int) (call : Call) (rest : List String) (line : Int) :
    (readGrid maxCells call rest line).Answers call.line := by
  unfold readGrid
  split
  next => exact answers_refuse call _
  next => exact answers_draw _ rfl

theorem answers_readPlane (call : Call) (rest : List String) (line : Int) :
    (readPlane call rest line).Answers call.line := by
  unfold readPlane
  split
  next => exact answers_refuse call _
  next => exact answers_draw _ rfl

/-! ## Keywords -/

theorem keyword_eq (hwords : words text = word :: params) : keyword text = beforeParen word := by
  rw [keyword, hwords]
  rfl

/-- A word leaves no keyword exactly if it starts with a parenthesis. -/
theorem beforeParen_eq_empty_iff (hne : word ≠ "") :
    beforeParen word = "" ↔ word.toList.head? = some '(' := by
  have hchars : word.toList ≠ [] := by simpa using hne
  obtain ⟨c, cs, hcs⟩ := List.exists_cons_of_ne_nil hchars
  rw [beforeParen, ← String.ofList_nil, String.ofList_inj, hcs, List.head?_cons,
    Option.some.injEq]
  by_cases hc : c = '('
  · simp [hc]
  · simp [hc]

theorem ne_empty_of_words (hwords : words text = word :: params) : word ≠ "" := by
  have hmem : word ∈ words text := by
    rw [hwords]
    exact List.mem_cons_self
  exact (isToken_of_mem_words hmem).1.1

theorem resolve_of_paren (v : Vocabulary η) (hwords : words text = word :: params)
    (hparen : word.toList.head? = some '(') (number : Int) :
    v.resolve text number = .blank := by
  have hkey := (beforeParen_eq_empty_iff (ne_empty_of_words hwords)).mpr hparen
  simp [Vocabulary.resolve, hwords, hkey]

theorem resolve_of_unknown (hwords : words text = word :: params)
    (hparen : word.toList.head? ≠ some '(') (hget : v.get? (keyword text) = none)
    (number : Int) : v.resolve text number = .unknown word := by
  have hne := mt (beforeParen_eq_empty_iff (ne_empty_of_words hwords)).mp hparen
  rw [keyword_eq hwords] at hget
  simp [Vocabulary.resolve, hwords, hne, hget]

theorem resolve_ne_blank (hwords : words text = word :: params)
    (hparen : word.toList.head? ≠ some '(') (number : Int) :
    v.resolve text number ≠ .blank := by
  have hne := mt (beforeParen_eq_empty_iff (ne_empty_of_words hwords)).mp hparen
  cases hget : v.get? (beforeParen word) with
  | none => simp [Vocabulary.resolve, hwords, hne, hget]
  | some e => simp [Vocabulary.resolve, hwords, hne, hget]

/-- A command text that starts with a parenthesis yields nothing. -/
theorem perform_of_paren (hwords : words text = word :: params)
    (hparen : word.toList.head? = some '(') :
    perform maxCells text number rest line = {} := by
  rw [perform, resolve_of_paren vocabulary hwords hparen]

theorem perform_of_unknown (hwords : words text = word :: params)
    (hparen : word.toList.head? ≠ some '(') (hget : vocabulary.get? (keyword text) = none) :
    perform maxCells text number rest line = { reports := [⟨number, .unknownCommand word⟩] } := by
  rw [perform, resolve_of_unknown hwords hparen hget]

/-- Every command text that starts with no parenthesis commits or is answered. -/
theorem answers_perform (hwords : words text = word :: params)
    (hparen : word.toList.head? ≠ some '(') (hkey : keyword text ≠ "COMMIT") :
    (perform maxCells text number rest line).Answers number := by
  unfold perform
  cases h : vocabulary.resolve text number with
  | blank => exact absurd h (resolve_ne_blank hwords hparen number)
  | unknown w => exact .inr ⟨rfl, _, List.mem_singleton_self _, rfl⟩
  | call e call =>
    obtain ⟨hmem, hcall⟩ := resolve_call h
    obtain ⟨w, hw, hbefore⟩ := hcall.words_eq
    rw [keyword_eq hw, hbefore] at hkey
    rw [← hcall.line_eq]
    simp only [vocabulary, List.mem_cons, List.not_mem_nil, or_false] at hmem
    rcases hmem with rfl | rfl | rfl | rfl | rfl | rfl | rfl | rfl
    · exact answers_readBarGraph call rest line
    · exact absurd rfl hkey
    · exact answers_draw _ rfl
    · exact answers_draw _ rfl
    · exact answers_draw _ rfl
    · exact answers_readCanvas call
    · exact answers_readGrid maxCells call rest line
    · exact answers_readPlane call rest line

/-! ## Tracks -/

/-- Whether a command with a keyword on line `n` did not disappear: it is `COMMIT`, or its mode has
exactly one more command, or its mode has more reports and one of them points at line `n`. -/
def Answered (key : String) (n : Nat) (before after : Track) : Prop :=
  key = "COMMIT" ∨ (∃ c, after.commands = before.commands.push c) ∨
    ∃ added : List Report, after.reports = before.reports ++ added.toArray ∧
      ∃ p ∈ added, p.line = n

theorem commands_follow_draw {c : Command Binary64} (h : st.outcome.action = .draw c) :
    (t.follow cfg st).commands = t.commands.push c := by
  rw [Track.follow, absorb_eq_act, h]
  rfl

theorem follow_idle (h : st.outcome.action = .idle) :
    (t.follow cfg st).commands = t.commands ∧
      (t.follow cfg st).reports = t.reports ++ st.outcome.reports.toArray := by
  rw [Track.follow, absorb_eq_act, h]
  exact ⟨rfl, rfl⟩

theorem answered_of_answers {key : String} (h : st.outcome.Answers n) :
    Answered key n t (t.follow cfg st) := by
  rcases h with ⟨c, hdraw⟩ | ⟨hidle, p, hp, hline⟩
  · exact .inr (.inl ⟨c, commands_follow_draw hdraw⟩)
  · exact .inr (.inr ⟨_, (follow_idle hidle).2, p, hp, hline⟩)

/-- A statement that yields nothing leaves commands and reports as they are. -/
theorem not_answered_of_nothing {key : String} (hkey : key ≠ "COMMIT") (h : st.outcome = {}) :
    ¬ Answered key n t (t.follow cfg st) := by
  have hidle : st.outcome.action = .idle := by rw [h]
  obtain ⟨hcommands, hreports⟩ : (t.follow cfg st).commands = t.commands ∧ _ := follow_idle hidle
  rw [h] at hreports
  rintro (hcommit | ⟨c, hc⟩ | ⟨added, hadded, p, hp, -⟩)
  · exact hkey hcommit
  · have hsize := congrArg Array.size (hcommands.symm.trans hc)
    simp at hsize
  · have hsize := congrArg Array.size (hreports.symm.trans hadded)
    have hnil : added = [] := by simpa using hsize
    simp [hnil] at hp

/-! ## Scripts -/

theorem track_apply (cfg : Config Binary64) (s : Session) (st : Statement) :
    (s.apply cfg st).track st.routed.mode = (s.track st.routed.mode).follow cfg st := by
  rw [Session.apply, Session.track_update, if_pos rfl]
  rfl

/-- Which script lines with a command text disappear: none but those whose text starts with a
parenthesis. Every other one commits, draws one command or adds a report on its own line; if no
command has its keyword, this is the one report added. -/
theorem answered_iff (cfg : Config Binary64) (hl : (l, n) ∈ (lines text).zipIdx 1)
    (hr : route l = some r) (hwords : words r.remainder = word :: params) :
    ∃ pre st post, statements cfg.maxGridCells text = pre ++ st :: post ∧
      st.source = l ∧ st.line = n ∧ st.routed = r ∧
      let before := (Session.applyAll cfg {} pre).track r.mode
      let after := ((Session.applyAll cfg {} pre).apply cfg st).track r.mode
      (Answered (keyword r.remainder) n before after ↔ word.toList.head? ≠ some '(') ∧
      (word.toList.head? ≠ some '(' → vocabulary.get? (keyword r.remainder) = none →
        ∃ p, after.reports = before.reports.push p ∧ p.line = n ∧
          p.problem.message = s!"Unknown command '{word}'") := by
  obtain ⟨st, hst, rfl, rfl, rfl⟩ := exists_statement cfg.maxGridCells hl hr
  obtain ⟨more, houtcome⟩ := (isStatement_of_mem cfg.maxGridCells 1 (lines text) st hst).outcome_eq
  obtain ⟨pre, post, hsplit⟩ := List.append_of_mem hst
  refine ⟨pre, st, post, hsplit, rfl, rfl, rfl, ?_⟩
  rw [track_apply]
  generalize (Session.applyAll cfg {} pre).track st.routed.mode = t
  dsimp only
  refine ⟨⟨fun h hparen => ?_, fun hparen => ?_⟩, fun hparen hget => ?_⟩
  · have hempty := (beforeParen_eq_empty_iff (ne_empty_of_words hwords)).mpr hparen
    rw [perform_of_paren hwords hparen] at houtcome
    refine not_answered_of_nothing ?_ houtcome h
    rw [keyword_eq hwords, hempty]
    decide
  · by_cases hkey : keyword st.routed.remainder = "COMMIT"
    · exact .inl hkey
    · refine answered_of_answers ?_
      rw [houtcome]
      exact answers_perform hwords hparen hkey
  · rw [perform_of_unknown hwords hparen hget] at houtcome
    refine ⟨⟨st.line, .unknownCommand word⟩, ?_, rfl, rfl⟩
    rw [(follow_idle (by rw [houtcome])).2, houtcome]
    exact Array.push_eq_append.symm

/-- A command that is not known, and a bar graph without its data. -/
def heedlessText : String := "$v SCORES 7\n$v(b) BAR_GRAPH red 0 1"

theorem answered_iff_heedless :
    ∃ pre st post, statements 1 heedlessText = pre ++ st :: post ∧ st.line = 1 ∧
      ∃ p, (((Session.applyAll { maxGridCells := 1 } {} pre).apply { maxGridCells := 1 }
        st).track defaultMode).reports =
          ((Session.applyAll { maxGridCells := 1 } {} pre).track defaultMode).reports.push p ∧
        p.line = 1 ∧ p.problem.message = "Unknown command 'SCORES'" := by
  have hl : ("$v SCORES 7", 1) ∈ (lines heedlessText).zipIdx 1 := by decide +kernel
  have hr : route "$v SCORES 7" = some ⟨defaultMode, "SCORES 7"⟩ := by decide +kernel
  have hwords : words "SCORES 7" = "SCORES" :: ["7"] := by decide +kernel
  obtain ⟨pre, st, post, hsplit, -, hline, -, -, hunknown⟩ :=
    answered_iff { maxGridCells := 1 } hl hr hwords
  exact ⟨pre, st, post, hsplit, hline, hunknown (by decide) (by decide +kernel)⟩

/-- The statement of a command text that starts with a parenthesis. -/
def bracketStatement : Statement := ⟨1, "$v (SCORE) 7", ⟨defaultMode, "(SCORE) 7"⟩, {}⟩

/-- A script line may disappear although it has a command text. -/
theorem bracket_unanswered :
    statements 1 "$v (SCORE) 7" = [bracketStatement] ∧
      words bracketStatement.routed.remainder = ["(SCORE)", "7"] ∧
      ¬ Answered (keyword bracketStatement.routed.remainder) 1
        (({} : Session).track bracketStatement.routed.mode)
        ((({} : Session).apply { maxGridCells := 1 } bracketStatement).track
          bracketStatement.routed.mode) := by
  refine ⟨by decide +kernel, by decide +kernel, ?_⟩
  rw [track_apply]
  exact not_answered_of_nothing (by decide +kernel) rfl

end Flipbook.Script
