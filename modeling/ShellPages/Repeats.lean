/-!
# Repeated items

`repeats` lists the items that occur more than once, each once, in the order in which they
occur for the second time. Its loop keeps what it has seen and what it has reported (`Keeps`), so
that one more item at the end is reported exactly if it has occurred once before
(`repeatsAfter_concat`).
-/

namespace ShellPages

variable {α : Type} [BEq α]

/-- The items of the second list that occur in the first, or earlier in the second, and not
among those reported already. -/
def repeatsAfter (seen reported : List α) : List α → List α
  | [] => []
  | x :: rest =>
    if seen.contains x && !reported.contains x then x :: repeatsAfter seen (x :: reported) rest
    else repeatsAfter (x :: seen) reported rest

/-- The items that occur more than once, in the order of their second occurrence. -/
def repeats (items : List α) : List α :=
  repeatsAfter [] [] items

/-! ## The loop -/

variable [LawfulBEq α] {items earlier seen reported : List α} {x y : α}

/-- What the loop keeps of the items that it has read: those that it has seen, and those that it
has reported. -/
structure Keeps (earlier seen reported : List α) : Prop where
  seen : ∀ x, x ∈ seen ↔ x ∈ earlier
  reported : ∀ x, x ∈ reported ↔ 2 ≤ earlier.count x

theorem two_le_count_concat_iff :
    2 ≤ (items ++ [y]).count x ↔ 2 ≤ items.count x ∨ items.count y = 1 ∧ x = y := by
  rw [List.count_append, List.count_singleton]
  by_cases hxy : y = x
  · subst hxy
    simp only [beq_self_eq_true, if_true, and_true]
    omega
  · simp [hxy, Ne.symm hxy]

namespace Keeps

omit [LawfulBEq α] in
theorem nil : Keeps ([] : List α) [] [] :=
  ⟨fun _ => Iff.rfl, fun _ => by simp⟩

/-- The next item is reported if it has been read once. -/
theorem reports_iff (h : Keeps earlier seen reported) :
    (seen.contains x && !reported.contains x) = true ↔ earlier.count x = 1 := by
  rw [Bool.and_eq_true, Bool.not_eq_true', ← Bool.not_eq_true, List.contains_iff_mem,
    List.contains_iff_mem, h.seen, h.reported, ← List.count_pos_iff]
  omega

theorem report (h : Keeps earlier seen reported) (hx : earlier.count x = 1) :
    Keeps (earlier ++ [x]) seen (x :: reported) where
  seen y := by
    have hmem : x ∈ earlier := List.count_pos_iff.1 (hx ▸ Nat.one_pos)
    rw [h.seen, List.mem_append, List.mem_singleton]
    exact (or_iff_left_of_imp fun hy => hy ▸ hmem).symm
  reported y := by
    rw [List.mem_cons, h.reported, two_le_count_concat_iff, and_iff_right hx, or_comm]

theorem see (h : Keeps earlier seen reported) (hx : earlier.count x ≠ 1) :
    Keeps (earlier ++ [x]) (x :: seen) reported where
  seen y := by
    rw [List.mem_cons, h.seen, List.mem_append, List.mem_singleton, or_comm]
  reported y := by
    rw [h.reported, two_le_count_concat_iff]
    exact (or_iff_left fun hy => hx hy.1).symm

end Keeps

/-- One more item at the end is reported if it has been read once before. -/
theorem repeatsAfter_concat (h : Keeps earlier seen reported) :
    repeatsAfter seen reported (items ++ [x]) =
      repeatsAfter seen reported items ++
        if (earlier ++ items).count x = 1 then [x] else [] := by
  induction items generalizing earlier seen reported with
  | nil => simp only [List.nil_append, repeatsAfter, h.reports_iff, List.append_nil]
  | cons y rest ih =>
    have hearlier : earlier ++ y :: rest = earlier ++ [y] ++ rest := by simp
    rw [List.cons_append, repeatsAfter, repeatsAfter, hearlier]
    simp only [h.reports_iff]
    split
    case isTrue hy => rw [ih (h.report hy), List.cons_append]
    case isFalse hy => exact ih (h.see hy)

theorem repeats_concat (items : List α) (x : α) :
    repeats (items ++ [x]) = repeats items ++ if items.count x = 1 then [x] else [] :=
  repeatsAfter_concat .nil

end ShellPages
