import Mathlib.Data.List.Induction
import Mathlib.Data.List.Nodup
import ShellPages.Inspection
import ShellPages.Repeats
import ShellPages.Source.Chain

/-!
# What is repeated

One more item at the end is reported exactly if it has occurred once before (`repeats_concat`). By
induction from the end, the repeated items are those that occur at least twice (`mem_repeats_iff`),
in the order of their second places (`pairwise_repeats`), and more items only add to them
(`repeats_prefix`). For inspections that is `Inspection.repeats_exact`.

The names that the sources of a chain share come in the same order. The order in which the names
are first seen may be another one, and `Chain.repeats_names_exact` says when it is the same.
-/

namespace ShellPages

variable {α : Type} [BEq α] [LawfulBEq α] {items earlier seen reported : List α} {x y : α}

/-! ## The repeated items -/

theorem mem_repeats_iff : x ∈ repeats items ↔ 2 ≤ items.count x := by
  induction items using List.reverseRecOn with
  | nil => simp [repeats, repeatsAfter]
  | append_singleton items y ih =>
    rw [repeats_concat, List.mem_append, ih, two_le_count_concat_iff]
    split <;> simp [*]

theorem repeats_eq_nil_iff : repeats items = [] ↔ items.Nodup := by
  rw [List.eq_nil_iff_forall_not_mem, List.nodup_iff_count_le_one]
  simp only [mem_repeats_iff, Nat.not_le, Nat.lt_succ_iff]

/-- More items leave what is reported as it is, and may add to it. -/
theorem repeats_prefix (items more : List α) : repeats items <+: repeats (items ++ more) := by
  induction more using List.reverseRecOn with
  | nil => simp
  | append_singleton more x ih =>
    rw [← List.append_assoc, repeats_concat]
    exact ih.trans (List.prefix_append _ _)

/-! ## The order of the repeated items -/

omit [LawfulBEq α] in
theorem idxOfNth_append_of_lt_count {n : Nat} (h : n < items.count x) (more : List α) :
    (items ++ more).idxOfNth x n = items.idxOfNth x n := by
  induction items generalizing n with
  | nil => simp at h
  | cons y rest ih => grind

theorem idxOfNth_concat_count (items : List α) (x : α) :
    (items ++ [x]).idxOfNth x (items.count x) = items.length := by
  induction items with
  | nil => simp
  | cons y rest ih => grind

/-- Items are reported in the order of their second places. -/
theorem pairwise_repeats (items : List α) :
    (repeats items).Pairwise fun x y => items.idxOfNth x 1 < items.idxOfNth y 1 := by
  induction items using List.reverseRecOn with
  | nil => exact .nil
  | append_singleton items z ih =>
    have hplace {x : α} (hx : x ∈ repeats items) :
        (items ++ [z]).idxOfNth x 1 = items.idxOfNth x 1 :=
      idxOfNth_append_of_lt_count (mem_repeats_iff.1 hx) [z]
    have hbefore : (repeats items).Pairwise fun x y =>
        (items ++ [z]).idxOfNth x 1 < (items ++ [z]).idxOfNth y 1 :=
      ih.imp_of_mem fun hx hy hlt => by rwa [hplace hx, hplace hy]
    rw [repeats_concat]
    split
    case isTrue hz =>
      refine List.pairwise_append.2 ⟨hbefore, List.pairwise_singleton _ _, ?_⟩
      intro x hx y hy
      have hlast : (items ++ [z]).idxOfNth z 1 = items.length :=
        hz ▸ idxOfNth_concat_count items z
      rw [List.mem_singleton.1 hy, hplace hx, hlast]
      exact List.idxOfNth_lt_length_of_lt_count (mem_repeats_iff.1 hx)
    case isFalse => rwa [List.append_nil]

theorem nodup_repeats (items : List α) : (repeats items).Nodup := by
  refine (pairwise_repeats items).imp ?_
  rintro x _ hlt rfl
  exact Nat.lt_irrefl _ hlt

/-- The repeated items are in the order of their first places exactly if that order is the order of
their second places. -/
theorem pairwise_idxOf_repeats_iff :
    ((repeats items).Pairwise fun x y => items.idxOf x < items.idxOf y) ↔
      ∀ x ∈ repeats items, ∀ y ∈ repeats items,
        items.idxOf x < items.idxOf y → items.idxOfNth x 1 < items.idxOfNth y 1 := by
  constructor
  · intro hfirst x hx y hy hlt
    obtain ⟨i, hi, rfl⟩ := List.getElem_of_mem hx
    obtain ⟨j, hj, rfl⟩ := List.getElem_of_mem hy
    rcases Nat.lt_trichotomy i j with hij | rfl | hji
    · exact List.pairwise_iff_getElem.1 (pairwise_repeats items) i j hi hj hij
    · exact absurd hlt (Nat.lt_irrefl _)
    · exact absurd hlt (Nat.lt_asymm (List.pairwise_iff_getElem.1 hfirst j i hj hi hji))
  · intro hagree
    refine (pairwise_repeats items).imp_of_mem fun {x y} hx hy hsecond => ?_
    have hmem : x ∈ items :=
      List.count_pos_iff.1 (Nat.lt_of_lt_of_le Nat.two_pos (mem_repeats_iff.1 hx))
    rcases Nat.lt_trichotomy (items.idxOf x) (items.idxOf y) with hlt | heq | hgt
    · exact hlt
    · rw [(List.idxOf_inj hmem).1 heq] at hsecond
      exact absurd hsecond (Nat.lt_irrefl _)
    · exact absurd (hagree y hy x hx hgt) (Nat.lt_asymm hsecond)

/-! ## Inspections -/

/-- **Repeated inspections.** Of some inspections, those are reported that are among them at least
twice, each once, in the order of their second places. None is reported exactly if none is
repeated, and more inspections at the end only add to the report. -/
theorem Inspection.repeats_exact (listed : List Inspection) :
    (∀ i, i ∈ repeats listed ↔ 2 ≤ listed.count i) ∧
    (repeats listed).Nodup ∧
    ((repeats listed).Pairwise fun i j => listed.idxOfNth i 1 < listed.idxOfNth j 1) ∧
    (repeats listed = [] ↔ listed.Nodup) ∧
    ∀ more, repeats listed <+: repeats (listed ++ more) :=
  ⟨fun _ => mem_repeats_iff, nodup_repeats listed, pairwise_repeats listed, repeats_eq_nil_iff,
    repeats_prefix listed⟩

/-! ## Names of sources -/

/-- **Repeated names.** The names that are reported for a chain are those of at least two of its
sources, each once. They are in the order in which they come for the second time. That is the order
in which they are first seen exactly if, of any two of them, the one that comes first also comes
back first. -/
theorem Chain.repeats_names_exact (c : Chain) :
    (∀ name, name ∈ repeats c.names ↔ 2 ≤ c.names.count name) ∧
    (repeats c.names).Nodup ∧
    ((repeats c.names).Pairwise fun name other =>
      c.names.idxOfNth name 1 < c.names.idxOfNth other 1) ∧
    (((repeats c.names).Pairwise fun name other => c.names.idxOf name < c.names.idxOf other) ↔
      ∀ name ∈ repeats c.names, ∀ other ∈ repeats c.names,
        c.names.idxOf name < c.names.idxOf other →
          c.names.idxOfNth name 1 < c.names.idxOfNth other 1) :=
  ⟨fun _ => mem_repeats_iff, nodup_repeats c.names, pairwise_repeats c.names,
    pairwise_idxOf_repeats_iff⟩

/-- Of two names, the one that is seen later may come back first. -/
theorem Chain.repeats_not_first_seen :
    let c : Chain :=
      ⟨[.fixed "a" none, .fixed "b" none, .fixed "b" none, .fixed "a" none]⟩
    repeats c.names = ["b", "a"] ∧
      ¬(repeats c.names).Pairwise fun name other => c.names.idxOf name < c.names.idxOf other := by
  decide

end ShellPages
