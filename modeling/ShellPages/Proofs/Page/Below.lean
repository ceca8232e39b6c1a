import ShellPages.Proofs.Page.Path

/-!
# Where the page for a key stands

A key may be any text, with slashes and dots. The path of its page glues base, key and the ending
of pages together before anything is split, so only the last segment of the key gets the ending:
it names the file, and the segments in front of it name folders (`segments_page`). The name of the
file is an ordinary segment, even where the last segment of the key is empty, `.` or `..`. The
main statement, `page_stands_below`, says when the page has a normal form and which, that it stands
below the base, and that different keys without slashes never share a page.
-/

namespace ShellPages.Page

/-! ## What a key names -/

/-- The folders that a key names: its segments in front of the last one. -/
def folders (key : String) : List (List Char) :=
  (segments key).dropLast

/-- The file that a key names: its last segment, with the ending of pages. -/
def fileName (key : String) : List Char :=
  (segments key).getLast (segments_ne_nil key) ++ ".html".toList

theorem folders_of_not_mem {key : String} (h : '/' ∉ key.toList) : folders key = [] := by
  rw [folders, segments_of_not_mem h]
  rfl

theorem fileName_of_not_mem {key : String} (h : '/' ∉ key.toList) :
    fileName key = key.toList ++ ".html".toList := by
  simp only [fileName, segments_of_not_mem h, List.getLast_singleton]

/-- A key ends in the name of a file, and the ending is part of that name. -/
theorem segments_append_ending (key : String) :
    segments (key ++ ".html") = folders key ++ [fileName key] := by
  by_cases hkey : '/' ∈ key.toList
  · -- only the name after the last slash meets the ending
    obtain ⟨folder, name, rfl, hname⟩ := exists_glue_of_mem hkey
    have hsegments : segments (folder ++ "/" ++ name) = segments folder ++ [name.toList] := by
      rw [segments_glue, segments_of_not_mem hname]
    have hfile : segments (name ++ ".html") = [(name ++ ".html").toList] :=
      segments_of_not_mem (by simp [hname])
    rw [String.append_assoc, segments_glue, hfile, folders]
    simp only [fileName, hsegments, List.dropLast_concat, List.getLast_concat, String.toList_append]
  · rw [folders_of_not_mem hkey, fileName_of_not_mem hkey,
      segments_of_not_mem (by simp [hkey]), String.toList_append, List.nil_append]

/-- The path of a page leads through the base and the folders of the key to the file. -/
theorem segments_page (base key : String) :
    segments (base ++ "/" ++ key ++ ".html") =
      segments base ++ (folders key ++ [fileName key]) := by
  rw [String.append_assoc, segments_glue, segments_append_ending]

theorem ordinarySegments_page (base key : String) :
    ordinarySegments (base ++ "/" ++ key ++ ".html") =
      ordinarySegments base ++ ((folders key).filter isOrdinary ++ [fileName key]) := by
  have hfile : isOrdinary (fileName key) := isOrdinary_append_ending _
  have hkept : [fileName key].filter isOrdinary = [fileName key] := by simp [hfile]
  rw [ordinarySegments, segments_page, List.filter_append, List.filter_append, hkept,
    ordinarySegments]

theorem fileName_ne_parentSegment (key : String) : fileName key ≠ parentSegment :=
  append_ending_ne_parentSegment _

/-! ## Where the page stands -/

/-- The normal form of the path of the page for a key below a base. -/
def placeOf? (base key : String) : Option String :=
  (path? base key).bind normalize?

variable {base key place : String}

/-- A page has a normal form unless the base or a folder of the key leads to a parent. -/
theorem placeOf?_eq_some_iff : placeOf? base key = some place ↔ base ≠ "" ∧ key ≠ "" ∧
    parentSegment ∉ segments base ∧ parentSegment ∉ folders key ∧
    place = joinSegments (ordinarySegments base ++
      ((folders key).filter isOrdinary ++ [fileName key])) := by
  have hparent : parentSegment ∉ ordinarySegments (base ++ "/" ++ key ++ ".html") ↔
      parentSegment ∉ segments base ∧ parentSegment ∉ folders key := by
    rw [parentSegment_mem_ordinarySegments, segments_page]
    simp [(fileName_ne_parentSegment key).symm]
  have hne : ordinarySegments (base ++ "/" ++ key ++ ".html") ≠ [] := by
    simp [ordinarySegments_page]
  rw [placeOf?, Option.bind_eq_some_iff]
  simp only [path?_eq_some_iff]
  constructor
  · rintro ⟨_, ⟨hbase, hkey, rfl⟩, hplace⟩
    obtain ⟨-, hp, rfl⟩ := normalize?_eq_some_iff.1 hplace
    obtain ⟨hb, hk⟩ := hparent.1 hp
    exact ⟨hbase, hkey, hb, hk, congrArg joinSegments (ordinarySegments_page base key)⟩
  · rintro ⟨hbase, hkey, hb, hk, rfl⟩
    refine ⟨_, ⟨hbase, hkey, rfl⟩, normalize?_eq_some_iff.2 ⟨hne, hparent.2 ⟨hb, hk⟩, ?_⟩⟩
    exact congrArg joinSegments (ordinarySegments_page base key).symm

/-- The page for a key without slashes stands directly below the normal form of its base. -/
theorem placeOf?_of_normalize? (hbase : normalize? base = some place) (hkey : key ≠ "")
    (hslash : '/' ∉ key.toList) : placeOf? base key = some (place ++ "/" ++ key ++ ".html") := by
  rw [placeOf?, path?_eq_some_iff.2 ⟨ne_empty_of_normalize? hbase, hkey, rfl⟩, Option.bind_some]
  exact normalize?_page hbase hslash

/-- The segments of a page are those that its path names. -/
theorem segments_of_placeOf? (h : placeOf? base key = some place) :
    segments place =
      ordinarySegments base ++ ((folders key).filter isOrdinary ++ [fileName key]) := by
  obtain ⟨path, hpath, hplace⟩ := Option.bind_eq_some_iff.1 h
  obtain ⟨-, -, rfl⟩ := path?_eq_some_iff.1 hpath
  rw [segments_of_normalize? hplace]
  exact ordinarySegments_page base key

/-- Keys without slashes share a page only if they are equal and stand below the same place. -/
theorem placeOf?_inj {otherBase otherKey otherPlace : String} (hslash : '/' ∉ key.toList)
    (hotherSlash : '/' ∉ otherKey.toList) (h : placeOf? base key = some place)
    (hother : placeOf? otherBase otherKey = some otherPlace) :
    place = otherPlace ↔ key = otherKey ∧ ordinarySegments base = ordinarySegments otherBase := by
  have hsegments : segments place = ordinarySegments base ++ [key.toList ++ ".html".toList] := by
    simpa [folders_of_not_mem hslash, fileName_of_not_mem hslash] using segments_of_placeOf? h
  have hotherSegments : segments otherPlace =
      ordinarySegments otherBase ++ [otherKey.toList ++ ".html".toList] := by
    simpa [folders_of_not_mem hotherSlash, fileName_of_not_mem hotherSlash] using
      segments_of_placeOf? hother
  constructor
  · rintro rfl
    obtain ⟨hbases, hfiles⟩ := List.append_singleton_inj.1 (hsegments.symm.trans hotherSegments)
    exact ⟨String.toList_inj.1 ((List.append_left_inj _).1 hfiles), hbases⟩
  · rintro ⟨rfl, hbases⟩
    obtain ⟨-, -, -, -, hplace⟩ := placeOf?_eq_some_iff.1 h
    obtain ⟨-, -, -, -, hotherPlace⟩ := placeOf?_eq_some_iff.1 hother
    rw [hplace, hotherPlace, hbases]

/-- **Where the page for a key stands.** Its normal form leads through the ordinary segments of
the base and of the folders of the key to the file, and there is none exactly if the base or a
folder of the key leads to a parent. So a page always stands below its base, and keys without
slashes share one only if they are equal and their bases name the same place. -/
theorem page_stands_below (hbase : base ≠ "") (hkey : key ≠ "") :
    placeOf? base key =
      (if parentSegment ∈ segments base ∨ parentSegment ∈ folders key then none
        else some (joinSegments (ordinarySegments base ++
          ((folders key).filter isOrdinary ++ [fileName key])))) ∧
    (∀ place, placeOf? base key = some place →
      ∃ below ≠ [], parentSegment ∉ below ∧ segments place = ordinarySegments base ++ below ∧
        ∀ root, normalize? base = some root → place = root ++ "/" ++ joinSegments below) ∧
    (∀ otherBase otherKey, '/' ∉ key.toList → '/' ∉ otherKey.toList →
      ∀ place otherPlace, placeOf? base key = some place →
        placeOf? otherBase otherKey = some otherPlace →
        (place = otherPlace ↔
          key = otherKey ∧ ordinarySegments base = ordinarySegments otherBase)) := by
  refine ⟨?_, ?_, ?_⟩
  · by_cases hparent : parentSegment ∈ segments base ∨ parentSegment ∈ folders key
    · rw [if_pos hparent]
      refine Option.eq_none_iff_forall_not_mem.2 fun place hplace => ?_
      obtain ⟨-, -, hb, hk, -⟩ := placeOf?_eq_some_iff.1 hplace
      exact hparent.elim hb hk
    · rw [if_neg hparent]
      obtain ⟨hb, hk⟩ := not_or.1 hparent
      exact placeOf?_eq_some_iff.2 ⟨hbase, hkey, hb, hk, rfl⟩
  · intro place hplace
    obtain ⟨-, -, -, hk, heq⟩ := placeOf?_eq_some_iff.1 hplace
    have hbelow : (folders key).filter isOrdinary ++ [fileName key] ≠ [] := by simp
    refine ⟨_, hbelow, ?_, segments_of_placeOf? hplace, ?_⟩
    · simp [hk, (fileName_ne_parentSegment key).symm]
    · intro root hroot
      obtain ⟨hne, -, rfl⟩ := normalize?_eq_some_iff.1 hroot
      rw [heq, joinSegments_append hne hbelow]
  · intro otherBase otherKey hslash hotherSlash place otherPlace hplace hotherPlace
    exact placeOf?_inj hslash hotherSlash hplace hotherPlace

/-- Two dots at the end of a key name a file, and two dots before a slash leave the space. -/
theorem page_stands_below_dots :
    placeOf? "./docs//" "a/./.." = some "docs/a/...html" ∧ placeOf? "docs" "../a" = none ∧
    placeOf? "./docs//" ".." = some "docs/...html" ∧ placeOf? "/docs/." ".." = some "docs/...html" ∧
    ordinarySegments "./docs//" = ordinarySegments "/docs/." := by
  obtain ⟨hdeep, -⟩ := @page_stands_below "./docs//" "a/./.." (by decide) (by decide)
  obtain ⟨hup, -⟩ := @page_stands_below "docs" "../a" (by decide) (by decide)
  obtain ⟨hflat, -, hshared⟩ := @page_stands_below "./docs//" ".." (by decide) (by decide)
  have hplace : placeOf? "./docs//" ".." = some "docs/...html" := hflat.trans (by decide)
  have hother : placeOf? "/docs/." ".." = some "docs/...html" := by decide
  refine ⟨hdeep.trans (by decide), hup.trans (by decide), hplace, hother, ?_⟩
  have hiff := hshared "/docs/." ".." (by decide) (by decide) _ _ hplace hother
  exact (hiff.1 rfl).2

end ShellPages.Page
