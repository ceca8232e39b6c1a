import ShellPages.Proofs.Page.Directory
import ShellPages.Proofs.Page.Listing

/-!
# What stores show

A store shows the bytes that are held at places, as far as it reaches, and lists the keys of the
pages among them: `Store.Shows`. A shelf reaches everything (`Shelf.shows`). A directory reaches as
far as file paths do, and where there are no links, what it holds at a place is the file to which
the parts of the place lead from its top, name by name (`IsPlainAt.shows`). Nothing else about the
tree matters: neither the working directory, nor how the path of the root is written.
-/

namespace ShellPages

open Files Page

/-! ## Directories without links -/

namespace PageDirectory

variable {d : PageDirectory} {top : Place} {base path place key : String}

/-- The path of the root by itself. An empty root stands for the working directory. -/
def rootPath (d : PageDirectory) : String :=
  if d.root = "" then "." else d.root

/-- A directory of pages in a proper tree, with its root at a place at and below which there are no
links. -/
structure IsPlainAt (d : PageDirectory) (top : Place) : Prop where
  proper : d.tree.IsProper
  cwd : d.tree.get? d.cwd = some .directory
  root : d.tree.follow d.cwd d.rootPath = .ok top
  directory : d.tree.get? top = some .directory
  linkless : d.tree.IsLinkless top

namespace IsPlainAt

variable (h : d.IsPlainAt top)

include h

/-- The way to a path below the root leads through the top, with some number of links left. -/
theorem exists_followParts (hpath : ¬isAbsolute path) : ∃ left,
    d.tree.followParts Tree.maxLinks (Tree.start d.cwd (join d.root path))
      (parts (join d.root path)) = d.tree.followParts left top (parts path) := by
  have hparts : parts path ≠ [] := by simp [parts_eq_map_segments, segments_ne_nil]
  have hroot := h.root
  rw [rootPath] at hroot
  by_cases hempty : d.root = ""
  · -- the path is followed from the working directory, which is the top
    rw [if_pos hempty, Tree.follow_dot] at hroot
    cases hroot
    refine ⟨Tree.maxLinks, ?_⟩
    rw [join, hempty, if_pos (by simp), Tree.start, if_neg hpath]
  · rw [if_neg hempty, Tree.follow_eq_ok_iff] at hroot
    obtain ⟨front, hfront, hjoin⟩ := exists_parts_join hempty hpath
    have hstart : Tree.start d.cwd (join d.root path) = Tree.start d.cwd d.root := by
      rw [Tree.start, Tree.start, isAbsolute_join hempty hpath]
    have hhere := Tree.get?_start d.root h.cwd
    have hfollow : d.tree.followParts Tree.maxLinks (Tree.start d.cwd d.root) front = .ok top := by
      rcases hfront with hfront | hfront
      · rw [← hfront]
        exact hroot.2
      · rw [hfront] at hroot
        exact Tree.followParts_of_append_idle h.proper hhere rfl hroot.2
    obtain ⟨left, hleft⟩ :=
      Tree.exists_followParts_of_directory h.proper hhere hfollow h.directory
    exact ⟨left, by rw [hstart, hjoin, hleft _ hparts]⟩

theorem zero_not_mem_root : '\x00' ∉ d.root.toList := by
  obtain ⟨hzero, -, -⟩ := Tree.checkPath_eq_ok_iff.1 (Tree.follow_eq_ok_iff.1 h.root).1
  by_cases hempty : d.root = ""
  · simp [hempty]
  · rwa [rootPath, if_neg hempty] at hzero

/-- **Where paths below the root lead**: to the place of their parts below the top, if there is
something and the path is not too long. -/
theorem follow_join_eq_ok_iff (hplace : normalize? path = some place) {found : Place} :
    d.tree.follow d.cwd (join d.root place) = .ok found ↔
      d.reaches place ∧ found = top ++ parts place ∧
        (d.tree.get? (top ++ parts place)).isSome := by
  have hempty : place ≠ "" := ne_empty_of_normalize? (normalize?_of_normalize? hplace)
  obtain ⟨left, hleft⟩ := h.exists_followParts (isAbsolute_of_normalize? hplace)
  rw [Tree.follow_eq_ok_iff, hleft, Tree.followParts_names h.proper h.directory h.linkless
    (parts_of_normalize? hplace), Tree.checkPath_eq_ok_iff, reaches_iff]
  constructor
  · rintro ⟨⟨-, -, hshort⟩, hfound⟩
    exact ⟨hshort, hfound⟩
  · rintro ⟨hshort, hfound, hsome⟩
    refine ⟨⟨fun hzero => ?_, join_ne_empty d.root hempty, hshort⟩, hfound, hsome⟩
    rcases mem_toList_join hzero with hroot | hslash | hpath
    · exact h.zero_not_mem_root hroot
    · exact absurd hslash (by decide)
    · obtain ⟨part, hpart, hzero⟩ := exists_mem_parts (by decide) hpath
      exact (h.proper.isName_of_mem hsome part hpart).no_zero hzero

/-- What a directory without links has at a place, as far as paths reach. -/
theorem file?_join (hplace : normalize? path = some place) :
    d.tree.file? d.cwd (join d.root place) =
      if d.reaches place then d.tree.fileAt? (top ++ parts place) else none := by
  refine Option.ext fun bytes => ?_
  rw [Tree.file?_eq_some_iff, Option.ite_none_right_eq_some, Tree.fileAt?_eq_some_iff]
  simp only [h.follow_join_eq_ok_iff hplace]
  constructor
  · rintro ⟨_, ⟨hreach, rfl, -⟩, hget⟩
    exact ⟨hreach, hget⟩
  · rintro ⟨hreach, hget⟩
    exact ⟨_, ⟨hreach, rfl, by simp [hget]⟩, hget⟩

/-- The keys of a directory without links are those of the pages at places below it. -/
theorem mem_keys_iff (hbase : normalize? base = some place) : key ∈ d.keys base ↔
    d.reaches place ∧ key ≠ "" ∧
      (d.tree.fileAt? (top ++ parts place ++ [key ++ ".html"])).isSome := by
  simp only [PageDirectory.mem_keys_iff hbase, h.follow_join_eq_ok_iff hbase,
    Option.isSome_iff_exists, Tree.fileAt?_eq_some_iff]
  constructor
  · rintro ⟨hkey, _, bytes, ⟨hreach, rfl, -⟩, hget⟩
    exact ⟨hreach, hkey, bytes, hget⟩
  · rintro ⟨hreach, hkey, bytes, hget⟩
    exact ⟨hkey, _, bytes, ⟨hreach, rfl, _, h.proper.parent hget⟩, hget⟩

end IsPlainAt

theorem nodup_keys (d : PageDirectory) (base : String) : (d.keys base).Nodup := by
  unfold keys
  cases d.tree.follow d.cwd (d.pathOf base) with
  | error fault => exact List.nodup_nil
  | ok place =>
    refine ((List.mergeSort_perm _ _).nodup_iff).2 ?_
    refine (d.tree.pairwise_list place).filterMap _ ?_
    rintro ⟨name, entry⟩ ⟨other, entry'⟩ hne key hkey _ hother rfl
    obtain ⟨-, -, -, rfl⟩ := keyOfEntry?_eq_some_iff.1 hkey
    obtain ⟨-, -, -, rfl⟩ := keyOfEntry?_eq_some_iff.1 hother
    exact hne rfl

end PageDirectory

/-! ## Stores and what they hold -/

/-- A store shows the bytes that are held at places, as far as it reaches, and lists the keys of
their pages. -/
structure Store.Shows (store : Store) (held : String → Option ByteArray)
    (reached : String → Bool) : Prop where
  find? : ∀ path, store.find? path = ((normalize? path).bind fun place =>
    if reached place then held place else none).map .whole
  mem_keys : ∀ {base place key}, normalize? base = some place → (key ∈ store.keys base ↔
    reached place ∧ key ≠ "" ∧ '/' ∉ key.toList ∧ (held (place ++ "/" ++ key ++ ".html")).isSome)

theorem Shelf.shows (s : Shelf) : s.store.Shows (fun place => s.entries[place]?) fun _ => true where
  find? path := by simp only [if_true]; rfl
  mem_keys hbase := by
    rw [Std.TreeMap.isSome_getElem?_iff_mem, eq_self, true_and]
    exact mem_keys_iff_of_normalize? hbase

theorem PageDirectory.IsPlainAt.shows {d : PageDirectory} {top : Place} (h : d.IsPlainAt top) :
    d.store.Shows (fun place => d.tree.fileAt? (top ++ parts place)) d.reaches where
  find? path := by
    rw [find?_store]
    cases hplace : normalize? path with
    | none => rfl
    | some place =>
      rw [Option.bind_some, Option.bind_some, h.file?_join (normalize?_of_normalize? hplace)]
  mem_keys {base place key} hbase := by
    change key ∈ d.keys base ↔ _
    rw [h.mem_keys_iff hbase, and_congr_right_iff, and_congr_right_iff]
    intro hreach hkey
    constructor
    · intro hsome
      obtain ⟨bytes, hget⟩ := Option.isSome_iff_exists.1 hsome
      have hname := (h.proper.name (Tree.fileAt?_eq_some_iff.1 hget)).no_slash
      have hslash : '/' ∉ key.toList := fun hmem => hname (by simp [hmem])
      rw [parts_page hslash, ← List.append_assoc]
      exact ⟨hslash, hsome⟩
    · rintro ⟨hslash, hsome⟩
      rwa [parts_page hslash, ← List.append_assoc] at hsome

end ShellPages
