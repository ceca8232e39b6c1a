import Mathlib.Data.List.TakeWhile
import ShellPages.Proofs.Files.Following

/-!
# Paths and working directories

An absolute path leads to the same place from every working directory (`follow_of_isAbsolute`). What
is joined to one is absolute too, and so is its parent; only the root has none, and that cannot be
read as a file (`not_read_of_no_parent`). A relative path leads where it leads with the path of the
working directory before it, if it is not empty and the whole is not too long for a path:
`follow_join_cwd`.
-/

namespace ShellPages.Files

variable {base middle path directory : String}

/-! ## Joined paths -/

theorem ne_empty_of_isAbsolute (h : isAbsolute path) : path ≠ "" := by
  rintro rfl
  cases h

theorem join_of_isAbsolute (base : String) (h : isAbsolute path) : join base path = path := by
  rw [join, h, Bool.true_or, if_pos rfl]

/-- What is joined to an absolute path is absolute. -/
theorem isAbsolute_join_of_isAbsolute (h : isAbsolute base) (path : String) :
    isAbsolute (join base path) := by
  by_cases hpath : isAbsolute path
  · rwa [join_of_isAbsolute base hpath]
  · rwa [isAbsolute_join (ne_empty_of_isAbsolute h) hpath]

/-- A joined path ends in the later one of the two. -/
theorem toList_suffix_join (base path : String) : path.toList <:+ (join base path).toList := by
  rw [join]
  split
  · exact List.suffix_rfl
  · split <;> simp only [String.toList_append, List.suffix_append]

theorem getLast?_toList_join (base : String) (h : path ≠ "") :
    (join base path).toList.getLast? = path.toList.getLast? := by
  obtain ⟨front, hfront⟩ := toList_suffix_join base path
  have hne : path.toList ≠ [] := fun hnil => h (String.toList_inj.1 hnil)
  rw [← hfront, List.getLast?_append, List.getLast?_eq_some_getLast hne, Option.some_or]

/-- It does not matter which two of three paths are joined first. -/
theorem join_join (base path : String) (h : middle ≠ "") :
    join (join base middle) path = join base (join middle path) := by
  by_cases hpath : isAbsolute path
  · simp only [join_of_isAbsolute _ hpath]
  · rw [join_of_not_isAbsolute (join_ne_empty base h) hpath, join_of_not_isAbsolute h hpath,
      getLast?_toList_join base h]
    split <;> simp only [String.append_assoc, join_append base h]

/-! ## Absolute paths and their parents -/

/-- An absolute path has an empty part in front. -/
theorem exists_parts_of_isAbsolute (h : isAbsolute path) : ∃ rest, parts path = "" :: rest := by
  rw [isAbsolute, beq_iff_eq, List.head?_eq_some_iff] at h
  obtain ⟨rest, hrest⟩ := h
  have hpath : path = "" ++ "/" ++ String.ofList rest := by
    rw [← String.toList_inj, hrest]
    simp
  exact ⟨parts (String.ofList rest), by rw [hpath, parts_glue]; rfl⟩

theorem isAbsolute_slash_append (rest : String) : isAbsolute ("/" ++ rest) := by
  simp [isAbsolute]

theorem isAbsolute_of_parent? (h : isAbsolute path) (hparent : parent? path = some directory) :
    isAbsolute directory := by
  obtain ⟨rest, hrest⟩ := exists_parts_of_isAbsolute h
  rw [parent?, h, hrest] at hparent
  dsimp only at hparent
  split at hparent
  · cases hparent
  · cases hparent
    exact isAbsolute_slash_append _

/-- An absolute path without parent is that of the root. -/
theorem isIdle_of_no_parent (h : isAbsolute path) (hparent : parent? path = none) :
    ∀ part ∈ parts path, isIdle part := by
  obtain ⟨rest, hrest⟩ := exists_parts_of_isAbsolute h
  rw [parent?, h, hrest] at hparent
  dsimp only at hparent
  split at hparent
  · next hidle =>
    rw [dropIdleEnd, List.reverse_eq_nil_iff, List.dropWhile_eq_nil_iff] at hidle
    rw [hrest]
    exact List.forall_mem_cons.2 ⟨rfl, fun part hmem => hidle part (List.mem_reverse.2 hmem)⟩
  · cases hparent

/-! ## Names -/

theorem IsName.ne_empty {name : String} (h : IsName name) : name ≠ "" := by
  rintro rfl
  exact h.not_idle rfl

theorem IsName.not_isAbsolute {name : String} (h : IsName name) : ¬isAbsolute name := by
  intro habsolute
  obtain ⟨rest, hrest⟩ := exists_parts_of_isAbsolute habsolute
  rw [parts_of_not_mem h.no_slash] at hrest
  exact h.ne_empty (List.cons.inj hrest).1

theorem dropIdleEnd_of_isName {names : List String} (h : ∀ name ∈ names, IsName name) :
    dropIdleEnd names = names := by
  rw [dropIdleEnd, List.reverse_eq_iff, List.dropWhile_eq_self_iff]
  intro hlength
  exact (h _ (List.mem_reverse.1 (List.getElem_mem hlength))).not_idle

namespace Tree

variable {t : Tree} {cwd other : Place} {otherPath : String}

/-! ## What depends on where a path leads -/

theorem stat_congr (h : t.follow cwd path = t.follow other otherPath) :
    t.stat cwd path = t.stat other otherPath := by
  rw [stat, stat, h]

theorem isDirectory_congr (h : t.follow cwd path = t.follow other otherPath) :
    t.isDirectory cwd path = t.isDirectory other otherPath := by
  rw [isDirectory, isDirectory, stat_congr h]

theorem file?_congr (h : t.follow cwd path = t.follow other otherPath) :
    t.file? cwd path = t.file? other otherPath := by
  rw [file?, file?, stat_congr h]

theorem read_congr (h : t.follow cwd path = t.follow other otherPath) :
    t.read cwd path = t.read other otherPath := by
  rw [read, read, stat_congr h]

theorem read_of_file? {bytes : ByteArray} (h : t.file? cwd path = some bytes) :
    t.read cwd path = .ok bytes := by
  rw [file?] at h
  rw [read]
  split at h
  · next hstat =>
    cases h
    rw [hstat]
    rfl
  · cases h

/-! ## Absolute paths -/

/-- **An absolute path** leads to the same place from everywhere. -/
theorem follow_of_isAbsolute (t : Tree) (cwd other : Place) (h : isAbsolute path) :
    t.follow cwd path = t.follow other path := by
  rw [follow, follow, start, start, if_pos h, if_pos h]

/-- The root is no file. -/
theorem not_read_of_no_parent (t : Tree) (cwd : Place) (h : isAbsolute path)
    (hparent : parent? path = none) (bytes : ByteArray) : t.read cwd path ≠ .ok bytes := by
  have hroot : ∀ place, t.follow cwd path = .ok place → place = [] := by
    intro place hfollow
    have hparts := (follow_eq_ok_iff.1 hfollow).2
    rw [start, if_pos h, followParts_of_done
      (goOn_of_idle t [] (isIdle_of_no_parent h hparent))] at hparts
    cases hparts
    rfl
  intro hread
  rw [read, stat] at hread
  cases hfollow : t.follow cwd path with
  | error fault =>
    rw [hfollow] at hread
    cases hread
  | ok place =>
    rw [hfollow, hroot place hfollow] at hread
    cases hread

/-! ## The working directory -/

/-- Names lead through directories. -/
theorem goOn_append_of_directory (h : t.IsProper) {here : Place} {names : List String}
    (hplace : t.get? (here ++ names) = some .directory) (rest : List String) :
    t.goOn here (names ++ rest) = t.goOn (here ++ names) rest := by
  induction names generalizing here with
  | nil => rw [List.append_nil, List.nil_append]
  | cons name names ih =>
    have hname : IsName name := h.isName_of_mem (by rw [hplace]; rfl) name List.mem_cons_self
    rw [List.append_cons] at hplace ⊢
    have hhere : t.get? (here ++ [name]) = some .directory := by
      by_contra hnone
      by_cases hnil : names = []
      · exact hnone (by simpa [hnil] using hplace)
      · rw [h.get?_append_eq_none hnone hnil] at hplace
        cases hplace
    rw [List.cons_append,
      goOn_cons_of_not_idle t here _ hname.not_idle hname.not_parent hname.short, hhere]
    exact ih hplace

/-- The path of a place, with another one joined to it, has the names that lead to the place. -/
theorem parts_join_place {names : List String} (hnames : ∀ name ∈ names, IsName name)
    (hpath : ¬isAbsolute path) :
    parts (join ("/" ++ joinParts names) path) = "" :: (names ++ parts path) := by
  rcases List.eq_nil_or_concat names with rfl | ⟨front, last, rfl⟩
  · have hroot : join ("/" ++ joinParts []) path = "" ++ "/" ++ path := by
      rw [join_of_not_isAbsolute (by decide) hpath]
      rfl
    rw [hroot, parts_glue]
    rfl
  · rw [List.concat_eq_append] at hnames ⊢
    have hbase : parts ("/" ++ joinParts (front ++ [last])) = "" :: (front ++ [last]) := by
      have hglue := parts_glue "" (joinParts (front ++ [last]))
      rw [parts_joinParts (by simp) fun name hmem => (hnames name hmem).no_slash] at hglue
      exact hglue
    have hne : "/" ++ joinParts (front ++ [last]) ≠ "" := by simp
    obtain ⟨before, hbefore | hslash, hjoin⟩ := exists_parts_join hne hpath
    · rw [hjoin, ← hbefore, hbase, List.cons_append]
    · -- the path of a place does not end in a slash
      rw [hbase, ← List.cons_append] at hslash
      obtain ⟨-, rfl⟩ := List.append_singleton_inj.1 hslash
      exact absurd rfl (hnames "" (by simp)).not_idle

theorem zero_not_mem_place {names : List String} (hnames : ∀ name ∈ names, IsName name) :
    '\x00' ∉ ("/" ++ joinParts names).toList := by
  intro hzero
  rw [String.toList_append, List.mem_append] at hzero
  rcases hzero with hslash | hzero
  · cases List.mem_singleton.1 hslash
  · by_cases hnil : names = []
    · rw [hnil] at hzero
      cases hzero
    · obtain ⟨part, hpart, hmem⟩ := exists_mem_parts (by decide) hzero
      rw [parts_joinParts hnil fun name hmem => (hnames name hmem).no_slash] at hpart
      exact (hnames part hpart).no_zero hmem

/-- **The working directory goes without saying**: a path that has it in front leads where the rest
leads from there, if there is a rest and the whole is not too long. -/
theorem follow_join_cwd (h : t.IsProper) (hcwd : t.get? cwd = some .directory) (hpath : path ≠ "")
    (hshort : ¬isAbsolute path → (join ("/" ++ joinParts cwd) path).utf8ByteSize ≤ maxPath) :
    t.follow cwd (join ("/" ++ joinParts cwd) path) = t.follow cwd path := by
  by_cases habsolute : isAbsolute path
  · rw [join_of_isAbsolute _ habsolute]
  have hshort := hshort habsolute
  have hplace : t.get? ([] ++ cwd) = some .directory := hcwd
  have hnames : ∀ name ∈ cwd, IsName name := h.isName_of_mem (Option.isSome_of_eq_some hplace)
  have hzero : '\x00' ∈ (join ("/" ++ joinParts cwd) path).toList ↔ '\x00' ∈ path.toList := by
    refine ⟨fun hmem => ?_, fun hmem => (toList_suffix_join _ _).subset hmem⟩
    rcases mem_toList_join hmem with hbase | hslash | hrest
    · exact absurd hbase (zero_not_mem_place hnames)
    · cases hslash
    · exact hrest
  have hcheck : checkPath (join ("/" ++ joinParts cwd) path) = checkPath path := by
    have hlengths := (utf8ByteSize_join_bounds ("/" ++ joinParts cwd) path).1
    by_cases hmem : '\x00' ∈ path.toList
    · rw [checkPath, checkPath, if_pos (by simpa using hzero.2 hmem), if_pos (by simpa using hmem)]
    · rw [checkPath_eq_ok_iff.2 ⟨mt hzero.1 hmem, join_ne_empty _ hpath, hshort⟩,
        checkPath_eq_ok_iff.2 ⟨hmem, hpath, hlengths.trans hshort⟩]
  have hstart : isAbsolute (join ("/" ++ joinParts cwd) path) :=
    isAbsolute_join_of_isAbsolute (isAbsolute_slash_append _) path
  have hgo : t.goOn [] ("" :: (cwd ++ parts path)) = t.goOn cwd (parts path) := by
    rw [goOn_cons_of_idle t [] _ rfl]
    exact goOn_append_of_directory h hplace (parts path)
  rw [follow, follow, hcheck, start, if_pos hstart, start, if_neg habsolute,
    parts_join_place hnames habsolute, followParts_congr maxLinks hgo]

/-! ## Names in the working directory -/

section Name

variable {name : String} (hname : IsName name)

include hname

theorem checkPath_of_isName : checkPath name = .ok () :=
  checkPath_eq_ok_iff.2 ⟨hname.no_zero, hname.ne_empty, hname.short.trans (by decide)⟩

/-- A name leads to what stands under it in the working directory. -/
theorem follow_name (t : Tree) (cwd : Place) :
    t.follow cwd name = t.followParts maxLinks cwd [name] := by
  rw [follow, checkPath_of_isName hname, start, if_neg hname.not_isAbsolute,
    parts_of_not_mem hname.no_slash]
  rfl

theorem follow_name_of_file {bytes : ByteArray} (h : t.get? (cwd ++ [name]) = some (.file bytes)) :
    t.follow cwd name = .ok (cwd ++ [name]) := by
  have hgo := goOn_cons_of_not_idle t cwd [] hname.not_idle hname.not_parent hname.short
  rw [h] at hgo
  rw [follow_name hname, followParts_of_done hgo]

theorem follow_name_of_none (h : t.get? (cwd ++ [name]) = none) :
    t.follow cwd name = .error .notFound := by
  have hgo := goOn_cons_of_not_idle t cwd [] hname.not_idle hname.not_parent hname.short
  rw [h] at hgo
  rw [follow_name hname, followParts_of_error hgo]

/-- The parent of a name in a place is the place. -/
theorem parent?_join_place {names : List String} (hnames : ∀ part ∈ names, IsName part) :
    parent? (join ("/" ++ joinParts names) name) = some ("/" ++ joinParts names) := by
  have hall : ∀ part ∈ names ++ [name], IsName part := by
    simpa [or_imp, forall_and] using ⟨hnames, hname⟩
  have habsolute : isAbsolute (join ("/" ++ joinParts names) name) :=
    isAbsolute_join_of_isAbsolute (isAbsolute_slash_append _) name
  obtain ⟨first, rest, hsplit⟩ : ∃ first rest, names ++ [name] = first :: rest :=
    List.exists_cons_of_ne_nil (by simp)
  rw [parent?, habsolute, parts_join_place hnames hname.not_isAbsolute,
    parts_of_not_mem hname.no_slash]
  dsimp only
  rw [dropIdleEnd_of_isName hall, hsplit]
  dsimp only
  rw [← hsplit, List.dropLast_concat, dropIdleEnd_of_isName hnames]

end Name

end Tree

end ShellPages.Files
