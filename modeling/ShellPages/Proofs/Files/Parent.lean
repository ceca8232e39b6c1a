import Mathlib.Data.List.DropRight
import ShellPages.Proofs.Files.Anchored

/-!
# Parents of paths

A path goes on from its parent by its last name. The parent is written without the idle parts in
front of that name, and the name may have idle parts after it (`exists_parts_of_parent?`). Idle
parts at its end change nothing about the directory to which a path leads
(`followParts_dropIdleEnd_iff`).
-/

namespace ShellPages.Files

variable {path directory name : String} {xs ys front : List String}

/-! ## Idle parts at the end -/

theorem dropIdleEnd_eq_rdropWhile (xs : List String) : dropIdleEnd xs = xs.rdropWhile isIdle := rfl

theorem dropIdleEnd_subset (xs : List String) : dropIdleEnd xs ⊆ xs :=
  (List.rdropWhile_prefix isIdle xs).subset

theorem exists_eq_dropIdleEnd_append (xs : List String) :
    ∃ after, xs = dropIdleEnd xs ++ after ∧ ∀ part ∈ after, isIdle part :=
  ⟨xs.rtakeWhile isIdle, List.rdropWhile_append_rtakeWhile.symm,
    fun _ => List.mem_rtakeWhile_imp⟩

theorem dropIdleEnd_append_of_idle (xs : List String) (h : ∀ part ∈ ys, isIdle part) :
    dropIdleEnd (xs ++ ys) = dropIdleEnd xs := by
  rw [dropIdleEnd, List.reverse_append,
    List.dropWhile_append_of_pos fun part hpart => h part (List.mem_reverse.1 hpart), dropIdleEnd]

theorem dropIdleEnd_append_dropIdleEnd (xs ys : List String) :
    dropIdleEnd (xs ++ dropIdleEnd ys) = dropIdleEnd (xs ++ ys) := by
  obtain ⟨after, hys, hidle⟩ := exists_eq_dropIdleEnd_append ys
  conv_rhs => rw [hys, ← List.append_assoc, dropIdleEnd_append_of_idle _ hidle]

/-- A part that names something stays, with what is in front of it. -/
theorem exists_dropIdleEnd_append_cons (xs ys : List String) (h : ¬isIdle name) :
    ∃ later, dropIdleEnd (xs ++ name :: ys) = xs ++ name :: later := by
  obtain ⟨after, hsplit, hidle⟩ := exists_eq_dropIdleEnd_append (xs ++ name :: ys)
  rcases List.append_eq_append_iff.1 hsplit with ⟨later, hkept, hrest⟩ | ⟨dropped, -, hrest⟩
  · cases later with
    | nil =>
      rw [List.nil_append] at hrest
      exact absurd (hidle name (hrest ▸ List.mem_cons_self)) h
    | cons first later =>
      obtain ⟨rfl, -⟩ := List.cons.inj hrest
      exact ⟨later, hkept⟩
  · exact absurd (hidle name (by simp [hrest])) h

/-- What is left ends in a part that names something. -/
theorem not_isIdle_of_dropIdleEnd (h : dropIdleEnd xs = front ++ [name]) : ¬isIdle name := by
  have hne : xs.rdropWhile isIdle ≠ [] := by simp [← dropIdleEnd_eq_rdropWhile, h]
  have hlast := List.rdropWhile_last_not isIdle xs hne
  simpa [← dropIdleEnd_eq_rdropWhile, h] using hlast

theorem exists_eq_relevantParts_append (xs : List String) :
    ∃ after, xs = relevantParts xs ++ after ∧ ∀ part ∈ after, isIdle part := by
  cases xs with
  | nil => exact ⟨[], rfl, by simp⟩
  | cons first rest =>
    rw [relevantParts]
    split
    · obtain ⟨after, hrest, hidle⟩ := exists_eq_dropIdleEnd_append rest
      exact ⟨after, by rw [List.cons_append, ← hrest], hidle⟩
    · exact exists_eq_dropIdleEnd_append (first :: rest)

theorem relevantParts_subset (xs : List String) : relevantParts xs ⊆ xs := by
  obtain ⟨after, hxs, -⟩ := exists_eq_relevantParts_append xs
  conv_rhs => rw [hxs]
  exact List.subset_append_left _ _

theorem dropIdleEnd_relevantParts (xs : List String) :
    dropIdleEnd (relevantParts xs) = dropIdleEnd xs := by
  obtain ⟨after, hxs, hidle⟩ := exists_eq_relevantParts_append xs
  conv_rhs => rw [hxs, dropIdleEnd_append_of_idle _ hidle]

theorem not_isIdle_of_relevantParts (h : relevantParts xs = front ++ [name]) (hne : front ≠ []) :
    ¬isIdle name := by
  cases xs with
  | nil => simp [relevantParts] at h
  | cons first rest =>
    obtain ⟨start, others, rfl⟩ := List.exists_cons_of_ne_nil hne
    rw [relevantParts] at h
    split at h
    · exact not_isIdle_of_dropIdleEnd (List.cons.inj h).2
    · exact not_isIdle_of_dropIdleEnd h

/-! ## The parts of a parent -/

theorem dropIdleEnd_parts_joinParts (h : ∀ part ∈ xs, '/' ∉ part.toList) :
    dropIdleEnd (parts (joinParts xs)) = dropIdleEnd xs := by
  by_cases hnil : xs = []
  · rw [hnil]
    decide
  · rw [parts_joinParts hnil h]

/-- A path with an empty part in front of others is absolute. -/
theorem isAbsolute_of_parts (h : parts path = "" :: xs) (hne : xs ≠ []) : isAbsolute path := by
  rw [← joinParts_parts path, h, joinParts_cons hne, String.empty_append]
  exact isAbsolute_slash_append _

/-- The parts of a path go through those of a directory, but for idle parts, and then through a
name. -/
structure GoesOn (directory path : String) (front : List String) (name : String)
    (after : List String) : Prop where
  parts_eq : parts path = front ++ name :: after
  not_idle : ¬isIdle name
  idle : ∀ part ∈ after, isIdle part
  front_eq : dropIdleEnd front = dropIdleEnd (parts directory)
  isAbsolute_eq : isAbsolute directory = isAbsolute path

theorem exists_goesOn_of_isAbsolute (habsolute : isAbsolute path)
    (h : parent? path = some directory) :
    ∃ front name after, GoesOn directory path front name after := by
  obtain ⟨rest, hrest⟩ := exists_parts_of_isAbsolute habsolute
  obtain ⟨after, hafter, hidle⟩ := exists_eq_dropIdleEnd_append rest
  rw [parent?, habsolute, hrest] at h
  dsimp only at h
  split at h
  · cases h
  next hnil =>
  obtain ⟨front, name, hlast⟩ := (List.eq_nil_or_concat' (dropIdleEnd rest)).resolve_left hnil
  rw [hlast, List.dropLast_concat] at h
  cases h
  have hpath : parts path = "" :: front ++ name :: after := by
    rw [hrest, hafter, hlast]
    simp
  have hfront : ∀ part ∈ dropIdleEnd front, '/' ∉ part.toList := by
    intro part hpart
    have hmem : part ∈ parts path := by simp [hpath, dropIdleEnd_subset front hpart]
    exact slash_not_mem_of_mem_parts hmem
  have hparts := parts_glue "" (joinParts (dropIdleEnd front))
  rw [String.empty_append] at hparts
  refine ⟨"" :: front, name, after, hpath, not_isIdle_of_dropIdleEnd hlast, hidle, ?_, ?_⟩
  · rw [hparts, ← dropIdleEnd_append_dropIdleEnd, dropIdleEnd_parts_joinParts hfront,
      dropIdleEnd_append_dropIdleEnd, dropIdleEnd_append_dropIdleEnd]
    rfl
  · rw [habsolute]
    exact isAbsolute_slash_append _

theorem exists_goesOn_of_not_isAbsolute (hrelative : ¬isAbsolute path)
    (h : parent? path = some directory) (hne : directory ≠ "") :
    ∃ front name after, GoesOn directory path front name after := by
  obtain ⟨after, hafter, hidle⟩ := exists_eq_relevantParts_append (parts path)
  rw [parent?, Bool.eq_false_iff.2 hrelative] at h
  dsimp only at h
  split at h
  · cases h
  next hnil =>
  obtain ⟨front, name, hlast⟩ :=
    (List.eq_nil_or_concat' (relevantParts (parts path))).resolve_left hnil
  rw [hlast, List.dropLast_concat] at h
  cases h
  have hpath : parts path = front ++ name :: after := by
    rw [hafter, hlast]
    simp
  have hfront : ∀ part ∈ relevantParts front, '/' ∉ part.toList := by
    intro part hpart
    have hmem : part ∈ parts path := by simp [hpath, relevantParts_subset front hpart]
    exact slash_not_mem_of_mem_parts hmem
  have hrelevant : relevantParts front ≠ [] := fun hnil => hne (by rw [hnil]; rfl)
  refine ⟨front, name, after, hpath, not_isIdle_of_relevantParts hlast ?_, hidle, ?_, ?_⟩
  · rintro rfl
    exact hrelevant rfl
  · rw [dropIdleEnd_parts_joinParts hfront, dropIdleEnd_relevantParts]
  · -- an empty part in front would make the path absolute as well
    rw [Bool.eq_false_iff.2 hrelative, Bool.eq_false_iff]
    intro habsolute
    obtain ⟨rest, hrest⟩ := exists_parts_of_isAbsolute habsolute
    obtain ⟨idle, hidle, -⟩ := exists_eq_relevantParts_append front
    rw [parts_joinParts hrelevant hfront] at hrest
    rw [hidle, hrest] at hpath
    exact hrelative (isAbsolute_of_parts hpath (by simp))

/-- **A path goes on from its parent by its last name.** -/
theorem exists_goesOn_of_parent? (h : parent? path = some directory) (hne : directory ≠ "") :
    ∃ front name after, GoesOn directory path front name after := by
  by_cases habsolute : isAbsolute path
  · exact exists_goesOn_of_isAbsolute habsolute h
  · exact exists_goesOn_of_not_isAbsolute habsolute h hne

/-! ## Following the parts of a parent -/

namespace Tree

variable {t : Tree} {here cwd place : Place} {links : Nat}

/-- Idle parts at its end change nothing about the directory to which a path leads. -/
theorem followParts_dropIdleEnd_iff (h : t.IsProper) (hhere : t.get? here = some .directory)
    (hplace : t.get? place = some .directory) :
    t.followParts links here (dropIdleEnd xs) = .ok place ↔
      t.followParts links here xs = .ok place := by
  obtain ⟨after, hxs, hidle⟩ := exists_eq_dropIdleEnd_append xs
  by_cases hnil : after = []
  · rw [hnil, List.append_nil] at hxs
    rw [← hxs]
  obtain ⟨left, happend⟩ := exists_followParts_append h hhere links (dropIdleEnd xs)
  conv_rhs => rw [hxs, happend after hnil]
  cases t.followParts links here (dropIdleEnd xs) with
  | error fault => exact Iff.rfl
  | ok found =>
    change Except.ok found = .ok place ↔ t.followAfter left after found = .ok place
    rw [followAfter]
    split
    · rw [followParts_of_done (goOn_of_idle t found hidle)]
    · next hfound =>
      refine iff_of_false ?_ fun herror => by cases herror
      rintro ⟨⟩
      exact hfound hplace

/-- What is in front of the last name leads to the directory to which the parent leads. -/
theorem followParts_front_iff (h : t.IsProper) (hcwd : t.get? cwd = some .directory)
    (hplace : t.get? place = some .directory) {after : List String}
    (hgoes : GoesOn directory path front name after) :
    t.followParts links (start cwd path) front = .ok place ↔
      t.followParts links (start cwd directory) (parts directory) = .ok place := by
  have hstart : start cwd directory = start cwd path := by rw [start, start, hgoes.isAbsolute_eq]
  have hhere := get?_start path hcwd
  rw [hstart, ← followParts_dropIdleEnd_iff h hhere hplace, hgoes.front_eq,
    followParts_dropIdleEnd_iff h hhere hplace]

end Tree

end ShellPages.Files
