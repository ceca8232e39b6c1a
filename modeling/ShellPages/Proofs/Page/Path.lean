import ShellPages.Page.Store

/-!
# Normal forms of paths

A path is read through its segments. Gluing two paths with a slash puts their segments one after
the other (`segments_glue`), and joined segments are read back as they were
(`segments_joinSegments`). So a normal form consists of exactly the ordinary segments of the path
(`segments_of_normalize?`), and a path grows by a name when its normal form does
(`normalize?_glue_name`), as by the name of a page (`normalize?_page`).
-/

namespace ShellPages.Page

/-! ## Segments -/

/-- Gluing two paths with a slash puts their segments one after the other. -/
theorem segments_glue (path rest : String) :
    segments (path ++ "/" ++ rest) = segments path ++ segments rest := by
  have h : (path ++ "/" ++ rest).toList = path.toList ++ '/' :: rest.toList := by simp
  rw [segments, h, List.splitOn_append_cons_self, segments, segments]

/-- A name without slashes is a single segment. -/
theorem segments_of_not_mem {name : String} (h : '/' ∉ name.toList) :
    segments name = [name.toList] :=
  List.splitOn_eq_singleton h

theorem segments_ne_nil (path : String) : segments path ≠ [] :=
  List.splitOn_ne_nil '/' path.toList

/-- A path with a slash is a name below a folder. -/
theorem exists_glue_of_mem {path : String} (h : '/' ∈ path.toList) :
    ∃ folder name : String, path = folder ++ "/" ++ name ∧ '/' ∉ name.toList := by
  obtain ⟨name, folder, hsplit, hname⟩ := List.eq_append_cons_of_mem (List.mem_reverse.2 h)
  have hpath : path.toList = folder.reverse ++ '/' :: name.reverse := by
    rw [← List.reverse_reverse path.toList, hsplit]
    simp
  refine ⟨String.ofList folder.reverse, String.ofList name.reverse, ?_, by simpa using hname⟩
  rw [← String.toList_inj, hpath]
  simp

theorem slash_not_mem_of_mem_splitOn (cs : List Char) :
    ∀ part ∈ cs.splitOn '/', '/' ∉ part := by
  induction cs with
  | nil => simp [List.splitOn_nil]
  | cons c cs ih =>
    rw [List.splitOn_cons_eq_if_modifyHead]
    by_cases hc : c = '/'
    · simpa [hc] using ih
    · -- the character joins the first segment, and the others stay
      obtain ⟨first, others, hs⟩ := List.exists_cons_of_ne_nil (List.splitOn_ne_nil '/' cs)
      rw [hs, List.forall_mem_cons] at ih
      simpa [hc, hs, Ne.symm hc] using ih

/-- No segment contains a slash. -/
theorem slash_not_mem_of_mem_segments {path : String} {part : List Char}
    (h : part ∈ segments path) : '/' ∉ part :=
  slash_not_mem_of_mem_splitOn path.toList part h

/-- Joined segments are read back as they were. -/
theorem segments_joinSegments {parts : List (List Char)} (hne : parts ≠ [])
    (h : ∀ part ∈ parts, '/' ∉ part) : segments (joinSegments parts) = parts := by
  rw [segments, joinSegments, String.toList_ofList, List.splitOn_intercalate '/' h hne]

theorem joinSegments_segments (path : String) : joinSegments (segments path) = path := by
  rw [joinSegments, segments, List.intercalate_splitOn, String.ofList_toList]

/-- Segments joined in two parts are glued with a slash. -/
theorem joinSegments_append {parts others : List (List Char)} (hp : parts ≠ []) (ho : others ≠ []) :
    joinSegments (parts ++ others) = joinSegments parts ++ "/" ++ joinSegments others := by
  simp only [joinSegments, ← String.toList_inj, String.toList_append, String.toList_ofList]
  induction parts with
  | nil => exact absurd rfl hp
  | cons part rest ih =>
    rw [List.cons_append, List.intercalate_cons_of_ne_nil (by simp [ho])]
    cases rest with
    | nil => simp
    | cons next rest =>
      rw [ih (List.cons_ne_nil _ _), List.intercalate_cons_cons]
      simp only [List.append_assoc]

/-! ## Ordinary segments -/

theorem ordinarySegments_glue (path rest : String) :
    ordinarySegments (path ++ "/" ++ rest) = ordinarySegments path ++ ordinarySegments rest := by
  rw [ordinarySegments, segments_glue, List.filter_append, ordinarySegments, ordinarySegments]

theorem slash_not_mem_of_mem_ordinarySegments {path : String} {part : List Char}
    (h : part ∈ ordinarySegments path) : '/' ∉ part :=
  slash_not_mem_of_mem_segments (List.mem_filter.1 h).1

/-- The segment that leads to the parent is never dropped. -/
theorem parentSegment_mem_ordinarySegments {path : String} :
    parentSegment ∈ ordinarySegments path ↔ parentSegment ∈ segments path := by
  rw [ordinarySegments, List.mem_filter]
  exact and_iff_left (by decide)

/-! ## Normal forms -/

/-- **When a path has a normal form, and which.** -/
theorem normalize?_eq_some_iff {path place : String} :
    normalize? path = some place ↔ ordinarySegments path ≠ [] ∧
      parentSegment ∉ ordinarySegments path ∧ place = joinSegments (ordinarySegments path) := by
  unfold normalize?
  by_cases h : (ordinarySegments path).isEmpty || (ordinarySegments path).contains parentSegment
  · rw [if_pos h]
    simp only [Bool.or_eq_true, List.isEmpty_iff, List.contains_iff_mem] at h
    simp only [reduceCtorEq, false_iff]
    rintro ⟨hne, hp, -⟩
    exact h.elim hne hp
  · rw [if_neg h]
    simp only [Bool.or_eq_true, List.isEmpty_iff, List.contains_iff_mem, not_or] at h
    simp only [Option.some.injEq, ne_eq, h, not_false_eq_true, true_and]
    exact eq_comm

/-- A path has no normal form if no segment of it names anything, or if it leads to a parent. -/
theorem normalize?_eq_none_iff {path : String} :
    normalize? path = none ↔
      (∀ segment ∈ segments path, ¬isOrdinary segment) ∨ parentSegment ∈ segments path := by
  rw [normalize?, ite_eq_left_iff]
  simp only [reduceCtorEq, imp_false, Classical.not_not, Bool.or_eq_true, List.isEmpty_iff,
    List.contains_iff_mem, parentSegment_mem_ordinarySegments]
  rw [ordinarySegments, List.filter_eq_nil_iff]

/-- The segments of a normal form are the ordinary segments of the path. -/
theorem segments_of_normalize? {path place : String} (h : normalize? path = some place) :
    segments place = ordinarySegments path := by
  obtain ⟨hne, -, rfl⟩ := normalize?_eq_some_iff.1 h
  exact segments_joinSegments hne fun part hp => slash_not_mem_of_mem_ordinarySegments hp

/-- A normal form is its own. -/
theorem normalize?_of_normalize? {path place : String} (h : normalize? path = some place) :
    normalize? place = some place := by
  have hordinary : ordinarySegments place = ordinarySegments path := by
    rw [ordinarySegments, segments_of_normalize? h, ordinarySegments, List.filter_filter]
    simp only [Bool.and_self]
  obtain ⟨hne, hp, hplace⟩ := normalize?_eq_some_iff.1 h
  refine normalize?_eq_some_iff.2 ?_
  rw [hordinary]
  exact ⟨hne, hp, hplace⟩

/-- A path with a normal form is not empty. -/
theorem ne_empty_of_normalize? {path place : String} (h : normalize? path = some place) :
    path ≠ "" := by
  rintro rfl
  exact (normalize?_eq_some_iff.1 h).1 (by decide)

/-- **A name below a path.** Below a path with a normal form, a name that is a single ordinary
segment, and not the one that leads to the parent, stands one segment below that normal form. -/
theorem normalize?_glue_name {path place name : String} (h : normalize? path = some place)
    (hslash : '/' ∉ name.toList) (hname : isOrdinary name.toList)
    (hparent : name.toList ≠ parentSegment) :
    normalize? (path ++ "/" ++ name) = some (place ++ "/" ++ name) ∧
      segments (place ++ "/" ++ name) = segments place ++ [name.toList] := by
  have hsegments : segments name = [name.toList] := segments_of_not_mem hslash
  have hordinary : ordinarySegments name = [name.toList] := by
    rw [ordinarySegments, hsegments]
    exact List.filter_eq_self.2 (by simpa using hname)
  obtain ⟨hne, hp, rfl⟩ := normalize?_eq_some_iff.1 h
  refine ⟨normalize?_eq_some_iff.2 ?_, by rw [segments_glue, hsegments]⟩
  rw [ordinarySegments_glue, hordinary]
  refine ⟨by simp, ?_, ?_⟩
  · simpa [hp] using Ne.symm hparent
  · rw [joinSegments_append hne (by simp)]
    simp [joinSegments]

/-! ## The page for a key -/

/-- The name of a page is an ordinary segment, whatever stands in front of the ending. -/
theorem isOrdinary_append_ending (stem : List Char) : isOrdinary (stem ++ ".html".toList) := by
  rw [isOrdinary, Bool.and_eq_true, bne_iff_ne, bne_iff_ne]
  constructor <;> intro h <;> simpa using congrArg List.length h

theorem append_ending_ne_parentSegment (stem : List Char) :
    stem ++ ".html".toList ≠ parentSegment := by
  intro h
  simpa [parentSegment] using congrArg List.length h

/-- A page has a path unless the base or the key is empty. -/
theorem path?_eq_some_iff {base key path : String} :
    path? base key = some path ↔
      base ≠ "" ∧ key ≠ "" ∧ path = base ++ "/" ++ key ++ ".html" := by
  unfold path?
  by_cases h : base.isEmpty || key.isEmpty
  · rw [if_pos h]
    simp only [Bool.or_eq_true, String.isEmpty_iff] at h
    simp only [reduceCtorEq, false_iff]
    rintro ⟨hb, hk, -⟩
    exact h.elim hb hk
  · rw [if_neg h]
    simp only [Bool.or_eq_true, String.isEmpty_iff, not_or] at h
    simp only [Option.some.injEq, ne_eq, h, not_false_eq_true, true_and]
    exact eq_comm

theorem path?_eq_none_iff {base key : String} :
    path? base key = none ↔ base = "" ∨ key = "" := by
  by_cases h : base = "" ∨ key = ""
  · simp [path?, h]
  · simp [path?, h]

/-- The page for a key without slashes stands directly below the normal form of its base. -/
theorem normalize?_page {base place key : String} (h : normalize? base = some place)
    (hslash : '/' ∉ key.toList) :
    normalize? (base ++ "/" ++ key ++ ".html") = some (place ++ "/" ++ key ++ ".html") := by
  have hname : '/' ∉ (key ++ ".html").toList := by simp [hslash]
  have hordinary : isOrdinary (key ++ ".html").toList := by
    rw [String.toList_append]
    exact isOrdinary_append_ending _
  have hparent : (key ++ ".html").toList ≠ parentSegment := by
    rw [String.toList_append]
    exact append_ending_ne_parentSegment _
  obtain ⟨hnormal, -⟩ := normalize?_glue_name h hname hordinary hparent
  rwa [← String.append_assoc, ← String.append_assoc] at hnormal

/-- The key of a file name is what stands in front of the ending, and is not empty. -/
theorem keyOfName?_eq_some_iff {name : List Char} {key : String} :
    keyOfName? name = some key ↔ key ≠ "" ∧ name = key.toList ++ ".html".toList := by
  rw [keyOfName?, ending]
  cases hstrip : Text.stripEnd? ".html".toList name with
  | none =>
    have hne : ∀ stem, name ≠ stem ++ ".html".toList := by
      intro stem h
      rw [Text.stripEnd?_eq_some_iff.2 h] at hstrip
      cases hstrip
    exact iff_of_false (by simp) fun h => hne _ h.2
  | some stem =>
    obtain rfl := Text.stripEnd?_eq_some_iff.1 hstrip
    rw [List.append_left_inj]
    cases stem with
    | nil =>
      simp only [reduceCtorEq, ne_eq, false_iff, not_and]
      exact fun hkey h => hkey (String.toList_inj.1 h.symm)
    | cons c rest =>
      constructor
      · rintro ⟨⟩
        simp
      · rintro ⟨-, h⟩
        have hkey : String.ofList (c :: rest) = key := by rw [h, String.ofList_toList]
        exact congrArg some hkey

end ShellPages.Page
