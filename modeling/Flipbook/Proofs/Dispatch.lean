import Mathlib
import Flipbook.Proofs.Blocks
import Flipbook.Script.Vocabulary

/-!
What a command text can do, said once: every fact about all commands goes through `Performs`.
A command takes plain lines only, and takes them from the front of those that follow it.
-/
namespace Flipbook.Script

open Text

variable {κ η : Type} {maxCells : Int} {text word key : String} {params rest ls : List String}
  {number line : Int} {v : Vocabulary η} {e : Entry η} {call : Call}

/-! ## The choice of the command -/

/-- A call of a command text on line `number`: the parameters are the words after the first one,
and the keyword stands at the start of that one. -/
structure IsCall (text : String) (number : Int) (key : String) (call : Call) : Prop where
  keyword_eq : call.keyword = key
  text_eq : call.text = text
  line_eq : call.line = number
  words_eq : ∃ word, words text = word :: call.params ∧ beforeParen word = key

theorem get?_mem (h : v.get? key = some e) : e ∈ v ∧ e.keyword = key :=
  ⟨List.mem_of_find?_eq_some h, by simpa using List.find?_some h⟩

theorem resolve_call (h : v.resolve text number = .call e call) :
    e ∈ v ∧ IsCall text number e.keyword call := by
  unfold Vocabulary.resolve at h
  split at h
  next => cases h
  next word params hwords =>
    dsimp only at h
    split at h
    next => cases h
    next hne =>
      cases hget : v.get? (beforeParen word) with
      | none => simp [hget] at h
      | some f =>
        simp only [hget, Resolution.call.injEq] at h
        obtain ⟨rfl, rfl⟩ := h
        obtain ⟨hmem, hkey⟩ := get?_mem hget
        exact ⟨hmem, hkey.symm, rfl, rfl, word, hwords, hkey.symm⟩

theorem resolve_of_words (hwords : words text = word :: params) (hkey : beforeParen word = key)
    (hne : key ≠ "") (hget : v.get? key = some e) (number : Int) :
    v.resolve text number = .call e ⟨key, text, number, params⟩ := by
  have hempty : key.isEmpty = false := by
    rw [Bool.eq_false_iff, ne_eq, String.isEmpty_iff]
    exact hne
  simp [Vocabulary.resolve, hwords, hkey, hempty, hget]

/-! ## What a command yields -/

/-- What a command text on line `number` can yield, one case for each command and two for texts
that name none. -/
inductive Performs (maxCells : Int) (text : String) (number : Int) (rest : List String)
    (line : Int) : Outcome → Prop
  | blank : Performs maxCells text number rest line {}
  | unknown (word : String) :
    Performs maxCells text number rest line { reports := [⟨number, .unknownCommand word⟩] }
  | commit : Performs maxCells text number rest line { action := .commit }
  | debug : Performs maxCells text number rest line (.draw .debug)
  | textArea : Performs maxCells text number rest line
    (.draw (.textArea (textAfter text Kind.textArea.keyword)))
  | score : Performs maxCells text number rest line
    (.draw (.score (textAfter text Kind.score.keyword)))
  | canvas (call : Call) (h : IsCall text number Kind.canvas.keyword call) :
    Performs maxCells text number rest line (readCanvas call)
  | barGraph (call : Call) (h : IsCall text number Kind.barGraph.keyword call) :
    Performs maxCells text number rest line (readBarGraph call rest line)
  | grid (call : Call) (h : IsCall text number Kind.grid.keyword call) :
    Performs maxCells text number rest line (readGrid maxCells call rest line)
  | plane (call : Call) (h : IsCall text number Kind.plane.keyword call) :
    Performs maxCells text number rest line (readPlane call rest line)

theorem performs_perform (maxCells : Int) (text : String) (number : Int) (rest : List String)
    (line : Int) :
    Performs maxCells text number rest line (perform maxCells text number rest line) := by
  unfold perform
  cases h : vocabulary.resolve text number with
  | blank => exact .blank
  | unknown word => exact .unknown word
  | call e call =>
    obtain ⟨hmem, hcall⟩ := resolve_call h
    simp only [vocabulary, List.mem_cons, List.not_mem_nil, or_false] at hmem
    rcases hmem with rfl | rfl | rfl | rfl | rfl | rfl | rfl | rfl
    · exact .barGraph call hcall
    · exact .commit
    · exact .debug
    · simp only [hcall.text_eq, hcall.keyword_eq]
      exact .textArea
    · simp only [hcall.text_eq, hcall.keyword_eq]
      exact .score
    · exact .canvas call hcall
    · exact .grid call hcall
    · exact .plane call hcall

/-! ## Lines taken -/

/-- Lines that a command may take: plain ones, from the front of those that follow. -/
def Takes (rest ls : List String) : Prop := ls <+: rest ∧ ∀ l ∈ ls, isScript l = false

theorem Takes.nil (rest : List String) : Takes rest [] := ⟨List.nil_prefix, by simp⟩

theorem takes_run {specs : List (BlockSpec κ)} (hp : BlockReader.PlainNames specs)
    (rest : List String) (line : Int) :
    Takes rest ({ specs, rest, line } : BlockReader κ).run.taken.toList := by
  obtain ⟨ls, evs, h⟩ := BlockReader.reads_run (r := { specs, rest, line }) hp
  have htaken : ({ specs, rest, line } : BlockReader κ).run.taken.toList = ls := by
    rw [h.taken_eq]
    rfl
  rw [htaken]
  exact ⟨⟨_, h.rest_eq.symm⟩, h.plain⟩

theorem GridBlock.head?_name (b : GridBlock) : b.name.toList.head? ≠ some '$' := by
  cases b <;> decide

theorem PlaneBlock.head?_name (b : PlaneBlock) : b.name.toList.head? ≠ some '$' := by
  cases b <;> decide

theorem plainNames_gridSpecs (h : GridHeader) : BlockReader.PlainNames h.specs := by
  intro b hb
  obtain ⟨key, -, rfl⟩ := List.mem_map.mp hb
  exact key.head?_name

theorem plainNames_planeSpecs : BlockReader.PlainNames planeSpecs := by
  intro b hb
  obtain ⟨key, -, rfl⟩ := List.mem_map.mp hb
  exact key.head?_name

theorem takes_readCanvas (call : Call) (rest : List String) :
    Takes rest (readCanvas call).taken := by
  have hnil : (readCanvas call).taken = [] := by
    unfold readCanvas
    split
    · split <;> rfl
    · rfl
  rw [hnil]
  exact Takes.nil rest

theorem takes_readBarGraph (call : Call) (rest : List String) (line : Int) :
    Takes rest (readBarGraph call rest line).taken := by
  unfold readBarGraph
  split
  next => exact Takes.nil rest
  next =>
    split
    next => exact Takes.nil rest
    next text htext =>
      obtain ⟨hhead, hplain⟩ := Option.filter_eq_some_iff.mp htext
      obtain ⟨more, rfl⟩ := List.head?_eq_some_iff.mp hhead
      exact ⟨⟨more, rfl⟩, by simpa using hplain⟩

theorem takes_readGrid (maxCells : Int) (call : Call) (rest : List String) (line : Int) :
    Takes rest (readGrid maxCells call rest line).taken := by
  unfold readGrid
  split
  next => exact Takes.nil rest
  next h _ => exact takes_run (plainNames_gridSpecs h) rest line

theorem takes_readPlane (call : Call) (rest : List String) (line : Int) :
    Takes rest (readPlane call rest line).taken := by
  unfold readPlane
  split
  next => exact Takes.nil rest
  next => exact takes_run plainNames_planeSpecs rest line

/-- No command takes a script line, whatever its text and whatever follows. -/
theorem takes_perform (maxCells : Int) (text : String) (number : Int) (rest : List String)
    (line : Int) : Takes rest (perform maxCells text number rest line).taken := by
  have h := performs_perform maxCells text number rest line
  generalize perform maxCells text number rest line = o at h ⊢
  cases h with
  | canvas call _ => exact takes_readCanvas call rest
  | barGraph call _ => exact takes_readBarGraph call rest line
  | grid call _ => exact takes_readGrid maxCells call rest line
  | plane call _ => exact takes_readPlane call rest line
  | _ => exact Takes.nil rest

end Flipbook.Script
