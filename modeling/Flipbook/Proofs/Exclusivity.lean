import Mathlib
import Flipbook.Frame

/-!
Grids and planes in one frame. The kind that appears first keeps the frame, the commands of the
other are dropped, and all other commands stay where they are.
-/
namespace Flipbook

variable {α : Type} {cs ds : List (Command α)} {kept : Kind} {c : Command α}

/-- Whether both spatial kinds are among some commands. -/
def Mixed (cs : List (Command α)) : Prop :=
  Kind.grid ∈ cs.map Command.kind ∧ Kind.plane ∈ cs.map Command.kind

/-- The other spatial kind. -/
def rival (kept : Kind) : Kind := if kept = .grid then .plane else .grid

/-- The first spatial kind of some commands. -/
def firstSpatial (cs : List (Command α)) : Option Kind :=
  ((cs.map Command.kind).filter Kind.isSpatial).head?

theorem kind_of_isSpatial {k : Kind} (h : k.isSpatial = true) : k = .grid ∨ k = .plane := by
  cases k with
  | grid => exact .inl rfl
  | plane => exact .inr rfl
  | _ => cases h

theorem firstSpatial_mem (h : firstSpatial cs = some kept) :
    kept ∈ cs.map Command.kind ∧ (kept = .grid ∨ kept = .plane) := by
  have hmem := List.mem_filter.mp (List.mem_of_head? h)
  exact ⟨hmem.1, kind_of_isSpatial hmem.2⟩

/-- Commands that are not mixed are all kept. -/
theorem resolveExclusivity_of_not_mixed (h : ¬ Mixed cs) : resolveExclusivity cs = (cs, none) := by
  unfold resolveExclusivity
  dsimp only
  split
  · rfl
  next kept hkept =>
    obtain ⟨hmem, hkind⟩ := firstSpatial_mem hkept
    refine if_neg fun hdropped => h ?_
    have hrival := (List.mem_filter.mp (List.contains_iff_mem.mp hdropped)).1
    rcases hkind with rfl | rfl
    · exact ⟨hmem, hrival⟩
    · exact ⟨hrival, hmem⟩

/-- Of mixed commands those are kept that are not of the rival of the first spatial kind. -/
theorem resolveExclusivity_of_mixed (h : Mixed cs) : ∃ kept, firstSpatial cs = some kept ∧
    (resolveExclusivity cs).1 = cs.filter fun c => c.kind != rival kept := by
  have hgrid : Kind.grid ∈ (cs.map Command.kind).filter Kind.isSpatial :=
    List.mem_filter.mpr ⟨h.1, rfl⟩
  have hplane : Kind.plane ∈ (cs.map Command.kind).filter Kind.isSpatial :=
    List.mem_filter.mpr ⟨h.2, rfl⟩
  obtain ⟨kept, hkept⟩ := Option.isSome_iff_exists.mp
    (List.isSome_head?.mpr (List.ne_nil_of_mem hgrid))
  refine ⟨kept, hkept, ?_⟩
  have hrival : ((cs.map Command.kind).filter Kind.isSpatial).contains (rival kept) = true := by
    rw [List.contains_iff_mem, rival]
    split
    · exact hplane
    · exact hgrid
  unfold resolveExclusivity
  dsimp only
  rw [hkept]
  exact congrArg Prod.fst (if_pos hrival)

/-- The commands that are kept are not mixed. -/
theorem not_mixed_resolveExclusivity (cs : List (Command α)) :
    ¬ Mixed (resolveExclusivity cs).1 := by
  by_cases h : Mixed cs
  · obtain ⟨kept, hkept, hcs⟩ := resolveExclusivity_of_mixed h
    rw [hcs]
    have hgone : rival kept ∉ (cs.filter fun c => c.kind != rival kept).map Command.kind := by
      intro hmem
      obtain ⟨c, hc, hkind⟩ := List.mem_map.mp hmem
      have hne := (List.mem_filter.mp hc).2
      rw [hkind] at hne
      simp at hne
    have hrival : rival kept = .plane ∨ rival kept = .grid := by
      unfold rival
      split
      · exact .inl rfl
      · exact .inr rfl
    rintro ⟨hgrid, hplane⟩
    rcases hrival with hr | hr <;> rw [hr] at hgone hgrid hplane
    · exact hgone hplane
    · exact hgone hgrid
  · rw [resolveExclusivity_of_not_mixed h]
    exact h

/-- The only notice there can be is that of a conflict. -/
theorem conflict_of_mem {n : Notice} (h : n ∈ (resolveExclusivity cs).2) :
    ∃ kept dropped count, n = .conflict kept dropped count := by
  unfold resolveExclusivity at h
  dsimp only at h
  split at h
  · cases h
  next kept hkept =>
    generalize (if kept = .grid then Kind.plane else .grid) = dropped at h
    split at h
    · exact ⟨kept, dropped, _, (Option.some.inj h).symm⟩
    · cases h

theorem resolveExclusivity_sublist (cs : List (Command α)) :
    ((resolveExclusivity cs).1).Sublist cs := by
  by_cases h : Mixed cs
  · obtain ⟨kept, -, hcs⟩ := resolveExclusivity_of_mixed h
    rw [hcs]
    exact List.filter_sublist
  · rw [resolveExclusivity_of_not_mixed h]

/-- Commands that come first, a grid among them and no plane, are kept whatever follows. -/
theorem prefix_resolveExclusivity (hp : ds <+: cs) (hgrid : Kind.grid ∈ ds.map Command.kind)
    (hplane : Kind.plane ∉ ds.map Command.kind) : ds <+: (resolveExclusivity cs).1 := by
  by_cases h : Mixed cs
  · obtain ⟨kept, hkept, hcs⟩ := resolveExclusivity_of_mixed h
    obtain ⟨more, rfl⟩ := hp
    have hne : (ds.map Command.kind).filter Kind.isSpatial ≠ [] :=
      List.ne_nil_of_mem (List.mem_filter.mpr ⟨hgrid, rfl⟩)
    have hfirst : kept = .grid := by
      rw [firstSpatial, List.map_append, List.filter_append,
        List.head?_append_of_ne_nil _ hne] at hkept
      obtain ⟨hmem, hkind⟩ := firstSpatial_mem hkept
      exact hkind.resolve_right fun hp => hplane (hp ▸ hmem)
    subst hfirst
    rw [hcs, List.filter_append]
    have hall : (ds.filter fun c => c.kind != rival .grid) = ds := by
      refine List.filter_eq_self.mpr fun c hc => ?_
      rw [bne_iff_ne]
      intro hkind
      exact hplane (List.mem_map.mpr ⟨c, hc, hkind⟩)
    rw [hall]
    exact List.prefix_append ds _
  · rw [resolveExclusivity_of_not_mixed h]
    exact hp

end Flipbook
