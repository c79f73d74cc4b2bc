import Mathlib
import Flipbook.Script.Header

/-!
Runs of numbers. From a place on, a row is read in runs of equal size, no more than were counted and
only as long as they are complete; those whose words are all numbers are kept. No word stands in two
runs, so a word that is no number costs its own run and leaves the others as they are.
-/
namespace Flipbook.Script

open Text

variable {row : List String} {start size i j k : Nat} {count : Int} {word : String}

/-! ## The runs of a row -/

/-- One of the runs of `size` words that follow each other from `start` on. -/
def runAt (row : List String) (start size i : Nat) : List String :=
  (row.drop (start + i * size)).take size

/-- The complete runs of `size` words from `start` on, no more than `count` of them. -/
def wordRuns (row : List String) (start : Nat) (count : Int) (size : Nat) : List (List String) :=
  (List.range (min count.toNat ((row.length - start) / size))).map (runAt row start size)

theorem length_wordRuns (row : List String) (start : Nat) (count : Int) (size : Nat) :
    (wordRuns row start count size).length = min count.toNat ((row.length - start) / size) := by
  rw [wordRuns, List.length_map, List.length_range]

theorem length_runAt (h : (i + 1) * size ≤ row.length - start) :
    (runAt row start size i).length = size := by
  rw [runAt, List.length_take, List.length_drop]
  rw [Nat.succ_mul] at h
  omega

theorem map_runAt_succ (row : List String) (start size k : Nat) :
    (List.range (k + 1)).map (runAt row start size) =
      runAt row start size 0 :: (List.range k).map (runAt row (start + size) size) := by
  rw [List.range_succ_eq_map, List.map_cons, List.map_map]
  refine congrArg (_ :: ·) (List.map_congr_left fun i _ => ?_)
  have hstart : start + (i + 1) * size = start + size + i * size := by ring
  rw [Function.comp_apply, runAt, runAt, hstart]

/-- Runs laid end to end are the words from the start on. -/
theorem flatten_map_runAt (row : List String) (start size k : Nat) :
    ((List.range k).map (runAt row start size)).flatten = (row.drop start).take (k * size) := by
  induction k with
  | zero => simp
  | succ k ih =>
    rw [List.range_succ, List.map_append, List.flatten_append, ih, Nat.succ_mul, List.take_add,
      List.drop_drop, List.map_singleton, List.flatten_singleton, runAt]

/-! ## The numbers of runs -/

/-- Whether all words of a run are finite numbers. -/
def isNumbers (run : List String) : Bool := run.all fun s => (Numeral.readFinite? s).isSome

/-- The numbers of the runs that hold nothing else. -/
def readings (runs : List (List String)) : List (List Binary64) :=
  (runs.filter isNumbers).map (·.filterMap Numeral.readFinite?)

theorem readings_cons (run : List String) (runs : List (List String)) :
    readings (run :: runs) =
      if isNumbers run then run.filterMap Numeral.readFinite? :: readings runs
      else readings runs := by
  unfold readings
  rw [List.filter_cons]
  split <;> rfl

theorem readings_append (runs more : List (List String)) :
    readings (runs ++ more) = readings runs ++ readings more := by
  rw [readings, List.filter_append, List.map_append]
  rfl

theorem isNumbers_cons (s : String) (run : List String) :
    isNumbers (s :: run) = ((Numeral.readFinite? s).isSome && isNumbers run) :=
  List.all_cons

theorem mapM_eq_ite_isNumbers (run : List String) :
    run.mapM Numeral.readFinite? =
      if isNumbers run then some (run.filterMap Numeral.readFinite?) else none := by
  induction run with
  | nil => rfl
  | cons s run ih =>
    rw [List.mapM_cons, ih, isNumbers_cons]
    cases hs : Numeral.readFinite? s with
    | none => rfl
    | some x =>
      rw [List.filterMap_cons_some hs, Option.isSome_some, Bool.true_and]
      cases isNumbers run <;> rfl

/-- Reading run by run until one is not complete gives the numbers of all complete runs. -/
theorem readRuns_eq (hsize : 0 < size) (row : List String) (k start : Nat) :
    readRuns row size k start =
      readings ((List.range (min k ((row.length - start) / size))).map (runAt row start size)) := by
  induction k generalizing start with
  | zero => simp [readRuns, readings]
  | succ k ih =>
    have hrun : slice start (start + size : Int) row = runAt row start size 0 := by
      rw [slice_natCast, runAt, Nat.zero_mul, Nat.add_zero]
    rw [readRuns]
    dsimp only
    rw [hrun]
    -- The first run is complete just if the quotient counts it.
    by_cases hshort : row.length - start < size
    · have hlen : ((runAt row start size 0).length : Int) < size := by
        rw [runAt, Nat.zero_mul, List.length_take, List.length_drop]
        omega
      rw [if_pos hlen, Nat.div_eq_of_lt hshort, Nat.min_zero]
      rfl
    · have hlen : (runAt row start size 0).length = size :=
        length_runAt (by omega)
      have hlater : (row.length - start) / size = (row.length - (start + size)) / size + 1 := by
        rw [Nat.div_eq_sub_div hsize (not_lt.mp hshort), Nat.sub_sub]
      rw [if_neg (by omega), hlater, Nat.add_min_add_right, map_runAt_succ, readings_cons,
        ← ih, mapM_eq_ite_isNumbers, Int.natCast_add]
      cases isNumbers (runAt row start size 0) <;> rfl

theorem numericGroups_eq (hsize : 0 < size) (row : List String) (start : Nat) (count : Int) :
    numericGroups row start count size = readings (wordRuns row start count size) :=
  readRuns_eq hsize row count.toNat start

/-! ## A word stands in one run -/

/-- Runs that stand in a row one after the other from a place on: laid end to end they are the words
from there on, and none reaches beyond the row. -/
structure StandFrom (row : List String) (start size : Nat) (runs : List (List String)) : Prop where
  size_eq : ∀ run ∈ runs, run.length = size
  within : runs.length * size ≤ row.length - start
  flatten_eq : runs.flatten = (row.drop start).take (runs.length * size)

theorem wordRuns_standFrom (row : List String) (start : Nat) (count : Int) (size : Nat) :
    StandFrom row start size (wordRuns row start count size) := by
  have hwithin : (wordRuns row start count size).length * size ≤ row.length - start := by
    rw [length_wordRuns]
    exact Nat.mul_le_of_le_div _ _ _ (Nat.min_le_right _ _)
  refine ⟨fun run hrun => ?_, hwithin, ?_⟩
  · obtain ⟨i, hi, rfl⟩ := List.mem_map.mp hrun
    rw [← length_wordRuns row start count size, List.mem_range] at hi
    exact length_runAt ((Nat.mul_le_mul_right size hi).trans hwithin)
  · rw [length_wordRuns]
    exact flatten_map_runAt row start size _

theorem runAt_set_self (row : List String) (start size i j : Nat) (word : String) :
    runAt (row.set (start + i * size + j) word) start size i =
      (runAt row start size i).set j word := by
  rw [runAt, List.drop_set, if_neg (by omega), List.take_set, Nat.add_sub_cancel_left, ← runAt]

theorem runAt_set_of_ne (hj : j < size) (hk : k ≠ i) :
    runAt (row.set (start + i * size + j) word) start size k = runAt row start size k := by
  rw [runAt, List.drop_set]
  -- A run before the place ends before it, and one after it starts behind it.
  rcases Nat.lt_or_gt_of_ne hk with hlt | hgt
  · have hnext : (k + 1) * size ≤ i * size := Nat.mul_le_mul_right size hlt
    rw [Nat.succ_mul] at hnext
    rw [if_neg (by omega), List.take_set, List.set_eq_of_length_le, runAt]
    rw [List.length_take]
    omega
  · have hnext : (i + 1) * size ≤ k * size := Nat.mul_le_mul_right size hgt
    rw [Nat.succ_mul] at hnext
    rw [if_pos (by omega), runAt]

/-- Another word at a place of a run changes this run only. -/
theorem wordRuns_set (hj : j < size) :
    wordRuns (row.set (start + i * size + j) word) start count size =
      (wordRuns row start count size).modify i (·.set j word) := by
  refine List.ext_getElem? fun k => ?_
  rw [List.getElem?_modify, wordRuns, wordRuns, List.length_set, List.getElem?_map,
    List.getElem?_map]
  rcases Nat.lt_or_ge k (min count.toNat ((row.length - start) / size)) with hk | hk
  · rw [List.getElem?_range hk]
    by_cases hki : k = i
    · subst hki
      simp [runAt_set_self]
    · simp [runAt_set_of_ne hj hki, Ne.symm hki]
  · rw [List.getElem?_eq_none (by simpa using hk)]
    rfl

/-- A run that comes to hold a word that is no number is lost, and no other run with it. -/
theorem readings_modify {runs : List (List String)} {change : List String → List String}
    (hi : i < runs.length) (hbad : isNumbers (change runs[i]) = false) :
    readings (runs.modify i change) = readings (runs.eraseIdx i) := by
  rw [List.modify_eq_take_cons_drop hi, List.eraseIdx_eq_take_drop_succ, readings_append,
    readings_append, readings_cons, hbad]
  rfl

theorem isNumbers_set {run : List String} (hj : j < run.length)
    (hword : Numeral.readFinite? word = none) : isNumbers (run.set j word) = false := by
  rw [isNumbers, List.all_eq_false]
  refine ⟨word, List.mem_set hj word, ?_⟩
  simp [hword]

/-! ## Groups of numbers -/

/-- The groups of numbers of a row are those of its complete runs, as many as were counted. These
stand in the row one after the other, and a word at a place of one of them counts for that run only:
one that is no number takes the run away and leaves all others. -/
theorem groups_of_runs (row : List String) (start : Nat) (count : Int) (hsize : 0 < size) :
    numericGroups row start count size = readings (wordRuns row start count size) ∧
    StandFrom row start size (wordRuns row start count size) ∧
    ∀ i < (wordRuns row start count size).length, ∀ j < size, ∀ word,
      let changed := row.set (start + i * size + j) word
      numericGroups changed start count size =
          readings ((wordRuns row start count size).modify i (·.set j word)) ∧
        (Numeral.readFinite? word = none →
          numericGroups changed start count size =
            readings ((wordRuns row start count size).eraseIdx i)) := by
  have hstand := wordRuns_standFrom row start count size
  refine ⟨numericGroups_eq hsize row start count, hstand, ?_⟩
  intro i hi j hj word changed
  have hchanged : numericGroups changed start count size =
      readings ((wordRuns row start count size).modify i (·.set j word)) := by
    rw [numericGroups_eq hsize, wordRuns_set hj]
  refine ⟨hchanged, fun hword => hchanged.trans (readings_modify hi (isNumbers_set ?_ hword))⟩
  rw [hstand.size_eq _ (List.getElem_mem hi)]
  exact hj

/-- Pairs behind two words, one of them with a word that is no number, and a word left over. -/
def unevenRow : List String := ["red", "9", "1", "2", "x", "4", "5", "6", "7"]

theorem groups_of_runs_uneven :
    0 < 2 ∧ wordRuns unevenRow 2 9 2 = [["1", "2"], ["x", "4"], ["5", "6"]] ∧
    numericGroups unevenRow 2 9 2 = [[1.0, 2.0], [5.0, 6.0]] ∧
    numericGroups unevenRow 2 (-9) 2 = [] ∧
    Numeral.readFinite? "nan" = none ∧
    numericGroups (unevenRow.set 7 "nan") 2 9 2 = [[1.0, 2.0]] := by
  have hsize : 0 < 2 := by decide
  have hruns : wordRuns unevenRow 2 9 2 = [["1", "2"], ["x", "4"], ["5", "6"]] := by
    decide +kernel
  have hnan : Numeral.readFinite? "nan" = none := by decide +kernel
  obtain ⟨hgroups, -, hchanged⟩ := groups_of_runs unevenRow 2 9 hsize
  obtain ⟨hnegative, -, -⟩ := groups_of_runs unevenRow 2 (-9) hsize
  have hlost := (hchanged 2 (by rw [hruns]; decide) 1 (by decide) "nan").2 hnan
  rw [hruns] at hgroups hlost
  exact ⟨hsize, hruns, hgroups.trans (by decide +kernel), hnegative, hnan,
    hlost.trans (by decide +kernel)⟩

end Flipbook.Script
