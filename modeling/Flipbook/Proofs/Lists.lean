import Mathlib

/-!
Lists, whatever they hold: their fronts, their places, members that change, lists without
repetitions, and lists that are worked through until one member fails.
-/
namespace Flipbook

variable {τ σ : Type}

/-! ## Fronts -/

section

variable {p q : τ → Bool} {a b : List τ}

theorem takeWhile_congr (h : ∀ x ∈ a, p x = q x) : a.takeWhile p = a.takeWhile q := by
  induction a with
  | nil => rfl
  | cons x a ih =>
    rw [List.takeWhile_cons, List.takeWhile_cons, h x List.mem_cons_self,
      ih fun y hy => h y (List.mem_cons_of_mem _ hy)]

/-- What comes behind a list stays apart from its front of a class, if the front ends before that or
if nothing joins it. -/
theorem span_append (h : a.dropWhile p ≠ [] ∨ b.takeWhile p = []) :
    (a ++ b).takeWhile p = a.takeWhile p ∧ (a ++ b).dropWhile p = a.dropWhile p ++ b := by
  induction a with
  | nil =>
    have hnone : b.takeWhile p = [] := h.resolve_left fun hne => hne rfl
    have hall : b.dropWhile p = b := by
      conv_rhs => rw [← List.takeWhile_append_dropWhile (p := p) (l := b), hnone]
      rfl
    exact ⟨hnone, hall⟩
  | cons x a ih =>
    cases hx : p x with
    | true =>
      rw [List.dropWhile_cons_of_pos hx] at h
      simp [hx, ih h]
    | false => simp [hx]

/-- Members of a class in front of others are the front of that class, if none follows at once. -/
theorem span_append_of_head (ha : ∀ x ∈ a, p x = true) (hb : ∀ x ∈ b.head?, p x = false) :
    (a ++ b).takeWhile p = a ∧ (a ++ b).dropWhile p = b := by
  have hfront : a.takeWhile p = a ∧ a.dropWhile p = [] :=
    ⟨List.takeWhile_eq_self_iff.mpr ha, List.dropWhile_eq_nil_iff.mpr ha⟩
  have hnone : b.takeWhile p = [] := by
    cases b with
    | nil => rfl
    | cons x b => exact List.takeWhile_cons_of_neg (by simp [hb x rfl])
  simpa [hfront] using span_append (a := a) (.inr hnone)

/-- The front of a list up to a mark that it does not hold before. -/
theorem span_append_mark [DecidableEq τ] {c : τ} (h : c ∉ a) (b : List τ) :
    (a ++ c :: b).takeWhile (· != c) = a ∧ (a ++ c :: b).dropWhile (· != c) = c :: b := by
  refine span_append_of_head (fun x hx => ?_) (by simp)
  rw [bne_iff_ne]
  rintro rfl
  exact h hx

/-- The first member that is not as it should be. -/
theorem exists_first {P : τ → Prop} {xs : List τ} (h : ∃ x ∈ xs, ¬ P x) :
    ∃ pre x post, xs = pre ++ x :: post ∧ (∀ y ∈ pre, P y) ∧ ¬ P x := by
  induction xs with
  | nil => simp at h
  | cons x xs ih =>
    by_cases hx : P x
    · obtain ⟨y, hy, hbad⟩ := h
      have hlater : y ∈ xs := (List.mem_cons.mp hy).resolve_left fun he => hbad (he ▸ hx)
      obtain ⟨pre, z, post, rfl, hpre, hz⟩ := ih ⟨y, hlater, hbad⟩
      exact ⟨x :: pre, z, post, rfl, List.forall_mem_cons.mpr ⟨hx, hpre⟩, hz⟩
    · exact ⟨[], x, xs, rfl, by simp, hx⟩

end

/-! ## Places -/

theorem pairwise_zipIdx (xs : List τ) (n : Nat) :
    (xs.zipIdx n).Pairwise fun p q => p.2 < q.2 := by
  have h := List.pairwise_lt_range' (s := n) (n := xs.length) 1
  rw [← List.zipIdx_map_snd, List.pairwise_map] at h
  exact h

theorem isChain_zipIdx (xs : List τ) (n : Nat) :
    (xs.zipIdx n).IsChain fun p q => q.2 = p.2 + 1 := by
  have h := List.isChain_range' n xs.length 1
  rw [← List.zipIdx_map_snd, List.isChain_map] at h
  exact h

/-- The members of a certain kind among the first of a list, by their places. -/
theorem filterMap_zipIdx_take [DecidableEq τ] (mark : τ) (f : Nat → σ) (xs : List τ) (n : Nat) :
    ((xs.take n).zipIdx.filterMap fun p => if p.1 = mark then some (f p.2) else none) =
      ((List.range n).filter fun j => xs[j]? = some mark).map f := by
  induction n with
  | zero => simp
  | succ n ih =>
    rw [List.take_add_one, List.zipIdx_append, List.filterMap_append, ih, List.range_succ,
      List.filter_append, List.map_append]
    congr 1
    cases hx : xs[n]? with
    | none => simp [hx]
    | some x =>
      obtain ⟨hlt, -⟩ := List.getElem?_eq_some_iff.mp hx
      have hlength : (xs.take n).length = n := List.length_take_of_le hlt.le
      by_cases hmark : x = mark <;> simp [hlength, hx, hmark]

theorem eq_map_range {n : Nat} {xs : List τ} {f : Nat → τ} (hlength : xs.length = n)
    (hget : ∀ i < n, xs[i]? = some (f i)) : xs = (List.range n).map f := by
  refine List.ext_getElem? fun i => ?_
  by_cases hi : i < n
  · rw [hget i hi, List.getElem?_map, List.getElem?_range hi]
    rfl
  · rw [List.getElem?_eq_none (by omega), List.getElem?_eq_none (by simpa using hi)]

/-! ## Members that change -/

section

variable {P : τ → Prop} {xs : List τ} {f g : τ → τ}

theorem modify_congr (h : ∀ x ∈ xs, f x = g x) (i : Nat) : xs.modify i f = xs.modify i g := by
  refine List.ext_getElem? fun j => ?_
  rw [List.getElem?_modify, List.getElem?_modify]
  cases hx : xs[j]? with
  | none => rfl
  | some x => simp [h x (List.mem_of_getElem? hx)]

theorem modify_eq_of_fixed (h : ∀ x ∈ xs, f x = x) (i : Nat) : xs.modify i f = xs := by
  have hid : ∀ x ∈ xs, f x = id x := h
  rw [modify_congr hid, List.modify_id]

theorem forall_mem_modify (i : Nat) (h : ∀ x ∈ xs, P x) (hf : ∀ x ∈ xs, P (f x)) :
    ∀ x ∈ xs.modify i f, P x := by
  intro x hx
  obtain ⟨j, hj⟩ := List.getElem?_of_mem hx
  rw [List.getElem?_modify] at hj
  obtain ⟨y, hy, rfl⟩ := Option.map_eq_some_iff.mp hj
  have hmem := List.mem_of_getElem? hy
  split
  · exact hf y hmem
  · exact h y hmem

theorem forall_mem_push {ys : Array τ} {x : τ} (h : ∀ y ∈ ys.toList, P y) (hx : P x) :
    ∀ y ∈ (ys.push x).toList, P y := by
  simp only [Array.mem_toList_iff] at h ⊢
  exact Array.forall_mem_push.mpr ⟨hx, h⟩

theorem countP_set_le (p : τ → Bool) (xs : List τ) (i : Nat) (x : τ) :
    (xs.set i x).countP p ≤ xs.countP p + 1 := by
  by_cases hi : i < xs.length
  · rw [List.countP_set hi]
    split <;> split <;> omega
  · rw [List.set_eq_of_length_le (not_lt.mp hi)]
    exact Nat.le_succ _

/-- Rows that change the entries of a blank list from its first on. -/
theorem foldl_modify_replicate (change : σ → τ → τ) (rows : List σ) (z : τ) (n : Nat)
    (h : rows.length ≤ n) :
    rows.zipIdx.foldl (fun t p => t.modify p.2 (change p.1)) (List.replicate n z) =
      rows.map (change · z) ++ List.replicate (n - rows.length) z := by
  have hfrom (pre : List τ) (n : Nat) (h : rows.length ≤ n) :
      (rows.zipIdx pre.length).foldl (fun t p => t.modify p.2 (change p.1))
          (pre ++ List.replicate n z) =
        pre ++ (rows.map (change · z) ++ List.replicate (n - rows.length) z) := by
    clear * - h
    induction rows generalizing pre n with
    | nil => simp
    | cons row rows ih =>
      obtain ⟨m, rfl⟩ : ∃ m, n = m + 1 := ⟨n - 1, by rw [List.length_cons] at h; omega⟩
      have hmodify : (pre ++ List.replicate (m + 1) z).modify pre.length (change row) =
          (pre ++ [change row z]) ++ List.replicate m z := by
        rw [List.replicate_succ, List.modify_eq_take_cons_drop (by simp)]
        simp
      have hlen : pre.length + 1 = (pre ++ [change row z]).length := by simp
      rw [List.zipIdx_cons, List.foldl_cons, hmodify, hlen,
        ih (pre ++ [change row z]) m (by rw [List.length_cons] at h; omega)]
      simp
  simpa using hfrom [] n h

variable {q : τ → Bool} {z : τ}

/-- A list that is written down to its first member of a certain kind is read back if and only if it
has no such member and every member is read back. -/
theorem fill_takeWhile_eq_iff (hq : q z = true) :
    (xs.takeWhile q).map f ++ List.replicate (xs.length - (xs.takeWhile q).length) z = xs ↔
      ∀ x ∈ xs, q x = true ∧ f x = x := by
  induction xs with
  | nil => simp
  | cons x xs ih =>
    cases hx : q x with
    | true =>
      rw [List.takeWhile_cons_of_pos hx, List.map_cons, List.length_cons, List.length_cons,
        Nat.add_sub_add_right, List.cons_append, List.cons.injEq, ih, List.forall_mem_cons, hx]
      simp
    | false =>
      have hnot : ¬ q x = true := by simp [hx]
      refine iff_of_false (fun h => hnot ?_) fun h => hnot (h x List.mem_cons_self).1
      rw [List.takeWhile_cons_of_neg hnot, List.map_nil, List.nil_append, List.length_nil,
        Nat.sub_zero, List.length_cons, List.replicate_succ] at h
      obtain ⟨rfl, -⟩ := List.cons.inj h
      exact hq

/-- Nothing is lost if a blank list is not written at all. -/
theorem fill_eq_iff (hq : q z = true) (hf : f z = z) {ys : List τ}
    (hys : ys = xs ∨ ys = [] ∧ xs = List.replicate xs.length z) :
    (ys.takeWhile q).map f ++ List.replicate (xs.length - (ys.takeWhile q).length) z = xs ↔
      ∀ x ∈ xs, q x = true ∧ f x = x := by
  rcases hys with rfl | ⟨rfl, hblank⟩
  · exact fill_takeWhile_eq_iff hq
  · refine iff_of_true (by simpa using hblank.symm) fun x hx => ?_
    rw [hblank] at hx
    rw [List.eq_of_mem_replicate hx]
    exact ⟨hq, hf⟩

end

/-! ## Lists without repetitions -/

section

variable [DecidableEq τ]

theorem nodup_eraseDups (xs : List τ) : xs.eraseDups.Nodup := by
  induction hn : xs.length using Nat.strongRecOn generalizing xs with
  | ind n ih =>
    subst hn
    cases xs with
    | nil => simp
    | cons x xs =>
      rw [List.eraseDups_cons, List.nodup_cons]
      refine ⟨by simp [List.mem_eraseDups], ih _ ?_ _ rfl⟩
      exact Nat.lt_succ_of_le (List.length_filter_le _ _)

theorem length_eraseDups_le (xs : List τ) : xs.eraseDups.length ≤ xs.length :=
  (nodup_eraseDups xs).length_le_of_subset fun _ hx => List.mem_eraseDups.mp hx

theorem eraseDups_replicate_append {n : Nat} {x : τ} {xs : List τ} (hn : 0 < n) (hx : x ∉ xs) :
    (List.replicate n x ++ xs).eraseDups = x :: xs.eraseDups := by
  obtain ⟨k, rfl⟩ := Nat.exists_eq_succ_of_ne_zero hn.ne'
  have hxs : (xs.filter fun y => !y == x) = xs := by
    refine List.filter_eq_self.mpr fun y hy => ?_
    rw [Bool.not_eq_true', beq_eq_false_iff_ne]
    exact ne_of_mem_of_not_mem hy hx
  rw [List.replicate_succ, List.cons_append, List.eraseDups_cons, List.filter_append,
    List.filter_replicate_of_neg (by simp), hxs, List.nil_append]

end

theorem pairwise_lt_mergeSort {names : List String} (h : names.Nodup) :
    (names.mergeSort fun a b => a ≤ b).Pairwise (· < ·) :=
  (List.sortedLE_mergeSort.pairwise.and (List.nodup_mergeSort.mpr h)).imp fun hab =>
    lt_of_le_of_ne hab.1 hab.2

/-! ## Members of members -/

theorem lookup_map {κ : Type} [DecidableEq κ] (l : List (κ × τ)) (g : κ → τ → σ) (n : κ) :
    (l.map fun (k, x) => (k, g k x)).lookup n = (l.lookup n).map (g n) := by
  induction l with
  | nil => rfl
  | cons p l ih =>
    obtain ⟨k, x⟩ := p
    rw [List.map_cons, List.lookup_cons, List.lookup_cons, ih]
    by_cases hk : n = k
    · subst hk
      simp
    · simp [beq_false_of_ne hk]

theorem length_le_flatten {pieces : List (List τ)} (h : ∀ piece ∈ pieces, piece ≠ []) :
    pieces.length ≤ pieces.flatten.length := by
  rw [List.length_flatten, ← List.length_map (f := List.length)]
  refine List.length_le_sum_of_one_le _ fun n hn => ?_
  obtain ⟨piece, hpiece, rfl⟩ := List.mem_map.mp hn
  exact List.length_pos_iff.mpr (h piece hpiece)

/-- Members of groups that are made into others one by one keep their order. -/
theorem forall₂_members {γ : Type} {R : γ × τ → σ → Prop} {members : γ → List τ}
    {make : γ → τ → σ} (h : ∀ g x, R (g, x) (make g x)) (gs : List γ) :
    List.Forall₂ R (gs.flatMap fun g => (members g).map fun x => (g, x))
      (gs.flatMap fun g => (members g).map (make g)) := by
  have hmake : (gs.flatMap fun g => (members g).map (make g)) =
      (gs.flatMap fun g => (members g).map fun x => (g, x)).map fun q => make q.1 q.2 := by
    rw [List.map_flatMap]
    refine List.flatMap_congr fun g _ => ?_
    rw [List.map_map]
    rfl
  rw [hmake, List.forall₂_map_right_iff, List.forall₂_same]
  exact fun q _ => h q.1 q.2

/-! ## Until one fails -/

section

variable {ε : Type}

theorem ok_bind (x : τ) (f : τ → Except ε σ) : (Except.ok x >>= f) = f x := rfl

theorem mapM_eq_map {f : τ → Except ε σ} {g : τ → σ} {xs : List τ}
    (h : ∀ x ∈ xs, f x = .ok (g x)) : xs.mapM f = .ok (xs.map g) := by
  induction xs with
  | nil => rfl
  | cons x xs ih =>
    obtain ⟨hx, hxs⟩ := List.forall_mem_cons.mp h
    rw [List.mapM_cons, hx, ok_bind, ih hxs]
    rfl

theorem mapM_ok (xs : List τ) : (xs.map .ok).mapM id = (.ok xs : Except ε (List τ)) := by
  rw [List.mapM_map]
  exact (mapM_eq_map fun _ _ => rfl).trans (congrArg _ (List.map_id' xs))

/-- If there is but one way to fail, the first failure is as good as any. -/
theorem mapM_error {xs : List (Except ε τ)} {e : ε} (h : ∀ d, .error d ∈ xs → d = e)
    (he : .error e ∈ xs) : xs.mapM id = .error e := by
  induction xs with
  | nil => cases he
  | cons x xs ih =>
    rw [List.mapM_cons]
    cases x with
    | error d =>
      rw [h d List.mem_cons_self]
      rfl
    | ok x =>
      have hlater : .error e ∈ xs := by simpa using he
      rw [id, ok_bind, ih (fun d hd => h d (List.mem_cons_of_mem _ hd)) hlater]
      rfl

end

end Flipbook
