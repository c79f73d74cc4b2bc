import Flipbook.Script.Line

/-!
Labelled blocks of lines. After a header, each block is a line with the block's name, a count line
if the number of its rows is not fixed, and its rows. The reader is a machine that moves one step
at a time; a script line ends the block in progress, and a line that names no block ends reading.
-/
namespace Flipbook.Script

open Text

/-- A kind of block: its name, and its number of rows unless a count line gives it. -/
structure BlockSpec (κ : Type) where
  key : κ
  name : String
  rows : Option Int
deriving DecidableEq, Repr

/-- What reading blocks yields, in order. -/
inductive BlockEvent (κ : Type) where
  /-- Row `index` of a block, and the line it stands on. -/
  | row (key : κ) (index : Nat) (text : String) (line : Int)
  | problem (report : Report)
deriving DecidableEq, Repr

/-- What a reader waits for. -/
inductive Phase where
  | name | count | rows | done
deriving DecidableEq, Repr

/-- A reader of blocks: the lines to come, the block in progress and what was read so far. -/
structure BlockReader (κ : Type) where
  specs : List (BlockSpec κ)
  rest : List String
  /-- The number of the next line, counted from one. -/
  line : Int
  phase : Phase := .name
  active : Option (BlockSpec κ) := none
  nameLine : Int := 0
  expected : Int := 0
  consumed : Nat := 0
  seen : Array String := #[]
  taken : Array String := #[]
  events : Array (BlockEvent κ) := #[]

namespace BlockReader

variable {κ : Type}

/-- The block of a name; of two with one name, the later. -/
def spec? (r : BlockReader κ) (name : String) : Option (BlockSpec κ) :=
  r.specs.reverse.find? fun s => s.name == name

/-- Consumes the next `n` lines. -/
def take (r : BlockReader κ) (n : Nat) : BlockReader κ :=
  { r with
    rest := r.rest.drop n
    line := r.line + n
    taken := r.taken ++ (r.rest.take n).toArray }

def report (r : BlockReader κ) (line : Int) (p : Problem) : BlockReader κ :=
  { r with events := r.events.push (.problem ⟨line, p⟩) }

/-- Waits for the rows of the active block, or for the next block if it has none. -/
def beginRows (r : BlockReader κ) (expected : Int) : BlockReader κ :=
  { r with expected := expected, phase := if expected = 0 then .name else .rows }

/-- Opens the block that the next line names. -/
def openBlock (r : BlockReader κ) (s : BlockSpec κ) : BlockReader κ :=
  let r := { r.take 1 with
    active := some s, nameLine := r.line, consumed := 0, seen := r.seen.push s.name }
  match s.rows with
  | some n => r.beginRows n
  | none => { r with phase := .count }

/-- Consumes blank lines and the name of a block, or ends. -/
def readName (r : BlockReader κ) : BlockReader κ :=
  let r := r.take (r.rest.takeWhile isBlankLine).length
  match (r.rest.head?.bind fun line => (words line).head?).bind r.spec? with
  | some s => r.openBlock s
  | none => { r with phase := .done }

/-- Consumes the count line of a block. -/
def readCount (r : BlockReader κ) (s : BlockSpec κ) : BlockReader κ :=
  match r.rest.head? with
  | none => { r.report r.nameLine (.countMissing s.name) with phase := .name }
  | some line =>
    if isScript line then { r.report r.nameLine (.countMissing s.name) with phase := .name }
    else
      match (words line).head?.bind Numeral.readInt? with
      | some n => (r.take 1).beginRows (max n 0)
      | none =>
        { (r.take 1).report r.line (.countInvalid s.name (trim line)) with phase := .name }

/-- The report of a block that ends before its last row. -/
def endRows (r : BlockReader κ) (s : BlockSpec κ) : BlockReader κ :=
  { r.report r.nameLine (.rowsMissing s.name r.expected r.consumed) with phase := .name }

/-- Consumes a row of a block. -/
def readRow (r : BlockReader κ) (s : BlockSpec κ) : BlockReader κ :=
  match r.rest.head? with
  | none => r.endRows s
  | some line =>
    if isScript line then r.endRows s
    else
      let n := r.consumed + 1
      { r.take 1 with
        events := r.events.push (.row s.key r.consumed line r.line)
        consumed := n
        phase := if r.expected ≤ n then .name else .rows }

/-- One step of the machine. -/
def step (r : BlockReader κ) : BlockReader κ :=
  match r.phase, r.active with
  | .done, _ => r
  | .name, _ => r.readName
  | .count, some s => r.readCount s
  | .rows, some s => r.readRow s
  | .count, none | .rows, none => { r with phase := .done }

/-- Bounds the number of steps to come. -/
def fuel (r : BlockReader κ) : Nat :=
  3 * r.rest.length + match r.phase with
    | .done => 0
    | .name => 1
    | .count | .rows => 2

theorem fuel_le (r : BlockReader κ) : r.fuel ≤ 3 * r.rest.length + 2 := by
  unfold fuel
  cases r.phase <;> simp

theorem rest_openBlock (r : BlockReader κ) (s : BlockSpec κ) :
    (r.openBlock s).rest = r.rest.drop 1 := by
  simp only [openBlock]
  cases s.rows <;> rfl

/-- A step that consumes a line comes nearer to the end, whatever it waits for then. -/
theorem fuel_lt_of_rest {r t : BlockReader κ} (hr : r.rest ≠ []) (ht : t.rest = r.rest.drop 1)
    (hp : r.phase = .count ∨ r.phase = .rows) : t.fuel < r.fuel := by
  have hle := fuel_le t
  have hpos := List.length_pos_iff.mpr hr
  rw [ht, List.length_drop] at hle
  rcases hp with hp | hp <;> simp only [fuel, hp] at hle ⊢ <;> omega

theorem fuel_readName_lt (r : BlockReader κ) (hp : r.phase = .name) :
    r.readName.fuel < r.fuel := by
  have hf : r.fuel = 3 * r.rest.length + 1 := by simp only [fuel, hp]
  simp only [readName]
  split
  next s hs =>
    obtain ⟨w, hw, -⟩ := Option.bind_eq_some_iff.mp hs
    obtain ⟨l, hl, -⟩ := Option.bind_eq_some_iff.mp hw
    have hpos := List.length_pos_of_mem (List.mem_of_head? hl)
    refine Nat.lt_of_le_of_lt (fuel_le _) ?_
    rw [rest_openBlock]
    simp only [take, List.length_drop] at hpos ⊢
    omega
  next =>
    simp only [fuel, take, List.length_drop] at hf ⊢
    omega

theorem fuel_readCount_lt (r : BlockReader κ) (s : BlockSpec κ) (hp : r.phase = .count) :
    (r.readCount s).fuel < r.fuel := by
  unfold readCount
  cases hl : r.rest with
  | nil => simp [fuel, report, hp, hl]
  | cons line rest =>
    have hr : r.rest ≠ [] := by simp [hl]
    simp only [List.head?_cons]
    split
    · simp [fuel, report, hp]
    · cases (Text.words line).head?.bind Numeral.readInt? with
      | none => exact fuel_lt_of_rest hr rfl (Or.inl hp)
      | some n => exact fuel_lt_of_rest hr rfl (Or.inl hp)

theorem fuel_readRow_lt (r : BlockReader κ) (s : BlockSpec κ) (hp : r.phase = .rows) :
    (r.readRow s).fuel < r.fuel := by
  unfold readRow
  cases hl : r.rest with
  | nil => simp [fuel, endRows, report, hp, hl]
  | cons line rest =>
    have hr : r.rest ≠ [] := by simp [hl]
    simp only [List.head?_cons]
    split
    · simp [fuel, endRows, report, hp]
    · exact fuel_lt_of_rest hr rfl (Or.inr hp)

/-- Every step comes nearer to the end. -/
theorem fuel_step_lt (r : BlockReader κ) (h : r.phase ≠ .done) : r.step.fuel < r.fuel := by
  unfold step
  cases hp : r.phase with
  | done => exact absurd hp h
  | name => exact fuel_readName_lt r hp
  | count =>
    cases r.active with
    | none => simp [fuel, hp]
    | some s => exact fuel_readCount_lt r s hp
  | rows =>
    cases r.active with
    | none => simp [fuel, hp]
    | some s => exact fuel_readRow_lt r s hp

/-- The machine at its end. -/
def run (r : BlockReader κ) : BlockReader κ :=
  if _ : r.phase = .done then r else r.step.run
termination_by r.fuel
decreasing_by exact fuel_step_lt r (by assumption)

/-- The machine after each of its steps. -/
def trace (r : BlockReader κ) : List (BlockReader κ) :=
  if _ : r.phase = .done then [] else r.step :: r.step.trace
termination_by r.fuel
decreasing_by exact fuel_step_lt r (by assumption)

end BlockReader

/-- Replays the events of a reader on a value: its rows change the value and may report problems,
which keep their place among those of the reader. -/
def replay {β κ : Type} (row : β → κ → Nat → String → Int → β × List Report) (start : β)
    (events : List (BlockEvent κ)) : β × List Report :=
  events.foldl (fun (b, reports) event =>
    match event with
    | .row key index text line =>
      let (b, found) := row b key index text line
      (b, reports ++ found)
    | .problem report => (b, reports ++ [report])) (start, [])

end Flipbook.Script
