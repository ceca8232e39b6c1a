import ShellPages.Files.Tree
import ShellPages.Proofs.Page.Path

/-!
# Parts of file paths

File paths are cut at slashes like the paths of pages, so their parts are the segments
(`parts_eq_map_segments`), and gluing puts parts one after the other (`parts_glue`). A path that
goes on does so after it has been joined to another one (`join_append`).
-/

namespace ShellPages.Files

open Page

variable {path name : String}

theorem parts_eq_map_segments (path : String) : parts path = (segments path).map String.ofList :=
  rfl

/-- Gluing two paths with a slash puts their parts one after the other. -/
theorem parts_glue (path rest : String) :
    parts (path ++ "/" ++ rest) = parts path ++ parts rest := by
  simp only [parts_eq_map_segments, segments_glue, List.map_append]

theorem parts_of_not_mem (h : '/' ∉ name.toList) : parts name = [name] := by
  rw [parts_eq_map_segments, segments_of_not_mem h]
  simp

theorem isAbsolute_append (h : path ≠ "") (rest : String) :
    isAbsolute (path ++ rest) = isAbsolute path := by
  have hne : path.toList ≠ [] := fun hnil => h (String.toList_inj.1 hnil)
  obtain ⟨c, cs, hcs⟩ := List.exists_cons_of_ne_nil hne
  rw [isAbsolute, isAbsolute, String.toList_append, hcs]
  rfl

/-- A path that goes on does so after it is joined to another. -/
theorem join_append (base : String) (h : path ≠ "") (rest : String) :
    join base (path ++ rest) = join base path ++ rest := by
  rw [join, join, isAbsolute_append h]
  split
  · rfl
  · split <;> simp only [String.append_assoc]

theorem join_ne_empty (base : String) (h : path ≠ "") : join base path ≠ "" := by
  rw [join]
  split
  · exact h
  · split <;> simp [h]

theorem mem_toList_join {base : String} {c : Char} (h : c ∈ (join base path).toList) :
    c ∈ base.toList ∨ c = '/' ∨ c ∈ path.toList := by
  rw [join] at h
  split at h
  · exact .inr (.inr h)
  · split at h
    · rw [String.toList_append, List.mem_append] at h
      exact h.imp_right .inr
    · simpa [or_assoc] using h

theorem utf8ByteSize_join_bounds (base path : String) :
    path.utf8ByteSize ≤ (join base path).utf8ByteSize ∧
      (join base path).utf8ByteSize ≤ base.utf8ByteSize + 1 + path.utf8ByteSize := by
  have hslash : "/".utf8ByteSize = 1 := rfl
  rw [join]
  split
  · omega
  · split
    · rw [String.utf8ByteSize_append]
      omega
    · rw [String.utf8ByteSize_append, String.utf8ByteSize_append, hslash]
      omega

section Join

variable {base : String} (hbase : base ≠ "") (hpath : ¬isAbsolute path)

include hbase hpath

theorem join_of_not_isAbsolute : join base path =
    if base.toList.getLast? = some '/' then base ++ path else base ++ "/" ++ path := by
  rw [join, if_neg (by simp [hbase, hpath])]
  simp only [beq_iff_eq]

theorem isAbsolute_join : isAbsolute (join base path) = isAbsolute base := by
  rw [join_of_not_isAbsolute hbase hpath]
  split
  · exact isAbsolute_append hbase path
  · rw [String.append_assoc, isAbsolute_append hbase]

/-- A joined path has the parts of both, but for a slash at the end of the first. -/
theorem exists_parts_join : ∃ front, (parts base = front ∨ parts base = front ++ [""]) ∧
    parts (join base path) = front ++ parts path := by
  rw [join_of_not_isAbsolute hbase hpath]
  split
  case isTrue hslash =>
    obtain ⟨front, hfront⟩ := List.getLast?_eq_some_iff.1 hslash
    have hends : base = String.ofList front ++ "/" := by
      rw [← String.toList_inj, hfront]
      simp
    refine ⟨parts (String.ofList front), .inr ?_, by rw [hends, parts_glue]⟩
    rw [hends, ← String.append_empty (s := String.ofList front ++ "/"), parts_glue]
    rfl
  case isFalse => exact ⟨parts base, .inl rfl, parts_glue base path⟩

end Join

/-! ## Names joined to a path -/

variable {names : List String}

theorem joinParts_eq_joinSegments (names : List String) :
    joinParts names = joinSegments (names.map String.toList) := by
  rw [joinParts, ← String.toList_inj, String.toList_intercalate, joinSegments]
  simp

/-- Joined parts are read back as they were. -/
theorem parts_joinParts (hne : names ≠ []) (h : ∀ name ∈ names, '/' ∉ name.toList) :
    parts (joinParts names) = names := by
  have hsegments : segments (joinSegments (names.map String.toList)) = names.map String.toList :=
    segments_joinSegments (by simpa using hne) (by simpa using h)
  rw [joinParts_eq_joinSegments, parts_eq_map_segments, hsegments, List.map_map]
  simp [Function.comp_def]

theorem joinParts_parts (path : String) : joinParts (parts path) = path := by
  rw [joinParts_eq_joinSegments, parts_eq_map_segments, List.map_map]
  have hid : String.toList ∘ String.ofList = id := funext fun cs => by simp
  rw [hid, List.map_id, joinSegments_segments]

/-- The characters of a path are those of its parts, and slashes. -/
theorem exists_mem_parts {c : Char} (hslash : c ≠ '/') (h : c ∈ path.toList) :
    ∃ part ∈ parts path, c ∈ part.toList := by
  have hsplit : ∀ cs : List Char, c ∈ cs → ∃ segment ∈ cs.splitOn '/', c ∈ segment := by
    intro cs
    induction cs with
    | nil => simp
    | cons d cs ih =>
      obtain ⟨first, others, hs⟩ := List.exists_cons_of_ne_nil (List.splitOn_ne_nil '/' cs)
      rw [List.splitOn_cons_eq_if_modifyHead, List.mem_cons]
      simp only [hs, List.mem_cons, exists_eq_or_imp] at ih
      by_cases hd : d = '/'
      · rintro (rfl | hmem)
        · exact absurd hd hslash
        · simpa [hd, hs] using ih hmem
      · rintro (rfl | hmem)
        · simp [hd, hs]
        · rcases ih hmem with hfirst | hothers
          · simp [hd, hs, hfirst]
          · simpa [hd, hs] using .inr hothers
  obtain ⟨segment, hmem, hc⟩ := hsplit path.toList h
  exact ⟨String.ofList segment, List.mem_map_of_mem hmem, by simpa using hc⟩

theorem slash_not_mem_of_mem_parts {part : String} (h : part ∈ parts path) :
    '/' ∉ part.toList := by
  rw [parts_eq_map_segments, List.mem_map] at h
  obtain ⟨segment, hsegment, rfl⟩ := h
  simpa using slash_not_mem_of_mem_segments hsegment

/-- The characters of a part are those of the path. -/
theorem toList_subset_of_mem_parts {part : String} (h : part ∈ parts path) :
    part.toList ⊆ path.toList := by
  have hsplit : ∀ cs : List Char, ∀ segment ∈ cs.splitOn '/', segment ⊆ cs := by
    intro cs
    induction cs with
    | nil => simp
    | cons d cs ih =>
      obtain ⟨first, others, hs⟩ := List.exists_cons_of_ne_nil (List.splitOn_ne_nil '/' cs)
      rw [hs, List.forall_mem_cons] at ih
      obtain ⟨hfirst, hothers⟩ := ih
      rw [List.splitOn_cons_eq_if_modifyHead]
      have hsubset : first ⊆ d :: cs ∧ ∀ segment ∈ others, segment ⊆ d :: cs :=
        ⟨List.subset_cons_of_subset d hfirst,
          fun segment hmem => List.subset_cons_of_subset d (hothers segment hmem)⟩
      by_cases hd : d = '/' <;> simpa [hd, hs] using hsubset
  obtain ⟨segment, hmem, rfl⟩ := List.mem_map.1 h
  rw [String.toList_ofList]
  exact hsplit path.toList segment hmem

theorem isOrdinary_toList (name : String) : isOrdinary name.toList = !isIdle name := by
  have hdot : (name.toList == ['.']) = (name == ".") := by
    rw [Bool.eq_iff_iff, beq_iff_eq, beq_iff_eq, ← String.toList_inj]
    rfl
  have hempty : (name.toList == []) = (name == "") := by
    rw [Bool.eq_iff_iff, beq_iff_eq, beq_iff_eq, ← String.toList_inj]
    rfl
  rw [isOrdinary, isIdle, Bool.not_or, bne, bne, hdot, hempty]

theorem joinParts_cons (hne : names ≠ []) :
    joinParts (name :: names) = name ++ "/" ++ joinParts names := by
  rw [joinParts_eq_joinSegments, List.map_cons, ← List.singleton_append,
    joinSegments_append (by simp) (by simpa using hne), joinParts_eq_joinSegments]
  simp [joinSegments]

theorem utf8ByteSize_joinParts_replicate (name : String) (n : Nat) :
    (joinParts (List.replicate (n + 1) name)).utf8ByteSize =
      n * (name.utf8ByteSize + 1) + name.utf8ByteSize := by
  induction n with
  | zero => simp [joinParts]
  | succ n ih =>
    have hslash : "/".utf8ByteSize = 1 := rfl
    rw [List.replicate_succ, joinParts_cons (by simp), String.utf8ByteSize_append,
      String.utf8ByteSize_append, ih, hslash, Nat.succ_mul]
    omega

/-! ## Normal forms as file paths -/

/-- A path of names that lead downwards is in normal form. -/
theorem normalize?_joinParts (hne : names ≠ []) (hslash : ∀ name ∈ names, '/' ∉ name.toList)
    (hnames : ∀ name ∈ names, ¬isIdle name ∧ name ≠ "..") :
    normalize? (joinParts names) = some (joinParts names) := by
  have hsegments : segments (joinParts names) = names.map String.toList := by
    rw [joinParts_eq_joinSegments]
    exact segments_joinSegments (by simpa using hne) (by simpa using hslash)
  have hordinary : ordinarySegments (joinParts names) = names.map String.toList := by
    rw [ordinarySegments, hsegments, List.filter_eq_self]
    simp only [List.mem_map, forall_exists_index, and_imp, forall_apply_eq_imp_iff₂,
      isOrdinary_toList, Bool.not_eq_true']
    exact fun name hmem => by simpa using (hnames name hmem).1
  refine normalize?_eq_some_iff.2 ?_
  rw [hordinary]
  refine ⟨by simpa using hne, fun hparent => ?_, joinParts_eq_joinSegments names⟩
  obtain ⟨name, hmem, hname⟩ := List.mem_map.1 hparent
  exact (hnames name hmem).2 (String.toList_inj.1 hname)

variable {place : String}

/-- The parts of a normal form are names that lead downwards. -/
theorem parts_of_normalize? (h : normalize? path = some place) :
    ∀ part ∈ parts place, ¬isIdle part ∧ part ≠ ".." := by
  intro part hmem
  rw [parts_eq_map_segments, segments_of_normalize? h] at hmem
  obtain ⟨segment, hsegment, rfl⟩ := List.mem_map.1 hmem
  obtain ⟨-, hparent, -⟩ := normalize?_eq_some_iff.1 h
  have hordinary := (List.mem_filter.1 hsegment).2
  rw [← String.toList_ofList (l := segment), isOrdinary_toList] at hordinary
  refine ⟨by simpa using hordinary, fun hname => hparent ?_⟩
  have heq : segment = parentSegment := by
    rw [← String.toList_inj, String.toList_ofList] at hname
    exact hname
  exact heq ▸ hsegment

/-- A normal form is a relative path. -/
theorem isAbsolute_of_normalize? (h : normalize? path = some place) : ¬isAbsolute place := by
  intro habsolute
  rw [isAbsolute, beq_iff_eq, List.head?_eq_some_iff] at habsolute
  obtain ⟨rest, hrest⟩ := habsolute
  have hplace : place = "" ++ "/" ++ String.ofList rest := by
    rw [← String.toList_inj, hrest]
    simp
  have hempty : "" ∈ parts place := by
    rw [hplace, parts_glue]
    exact List.mem_append_left _ (by decide)
  exact (parts_of_normalize? h "" hempty).1 rfl

/-- The page for a key is one part below its base. -/
theorem parts_page {key : String} (hslash : '/' ∉ key.toList) :
    parts (place ++ "/" ++ key ++ ".html") = parts place ++ [key ++ ".html"] := by
  have hname : '/' ∉ (key ++ ".html").toList := by simp [hslash]
  rw [String.append_assoc, parts_glue, parts_of_not_mem hname]

end ShellPages.Files
