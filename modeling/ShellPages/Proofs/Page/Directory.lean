import ShellPages.Page.Store
import ShellPages.Proofs.Files.Anchored

/-!
# What a directory lists and what it opens

A directory of pages lists the regular files in it (`mem_keys_iff`), by looking at its entries and
not through them. Opening follows the path of a page instead, through a link at its end as well, and
gives up where the path is too long for a file path. Listing and opening agree on all pages that
are not links, as far as paths reach: `listed_iff_opens`. A page that is a link opens and is not
listed (`linked_page_not_listed`).
-/

namespace ShellPages

open Files Page

namespace PageDirectory

variable {d : PageDirectory} {base place key : String}

/-! ## How far paths reach -/

/-- Whether the file path of a place below the root is short enough to be followed. -/
def reaches (d : PageDirectory) (place : String) : Bool :=
  decide ((join d.root place).utf8ByteSize ≤ Tree.maxPath)

theorem reaches_iff : d.reaches place ↔ (join d.root place).utf8ByteSize ≤ Tree.maxPath :=
  decide_eq_true_iff

/-- What reaches a page reaches its base. -/
theorem reaches_of_reaches_append (hplace : place ≠ "") {rest : String}
    (h : d.reaches (place ++ rest)) : d.reaches place := by
  rw [reaches_iff, join_append _ hplace, String.utf8ByteSize_append] at h
  rw [reaches_iff]
  omega

/-! ## What is listed -/

theorem keyOfEntry?_eq_some_iff {name : String} {entry : Entry} :
    keyOfEntry? (name, entry) = some key ↔
      ∃ bytes, entry = .file bytes ∧ key ≠ "" ∧ name = key ++ ".html" := by
  unfold keyOfEntry?
  cases entry with
  | file bytes =>
    rw [keyOfName?_eq_some_iff, ← String.toList_append, String.toList_inj]
    simp
  | directory => simp
  | link target => simp

/-- **A directory lists the regular files in it** that are named like pages. -/
theorem mem_keys_iff_follow : key ∈ d.keys base ↔ key ≠ "" ∧
    ∃ directory bytes, d.tree.follow d.cwd (d.pathOf base) = .ok directory ∧
      d.tree.get? (directory ++ [key ++ ".html"]) = some (.file bytes) := by
  unfold keys
  cases hfollow : d.tree.follow d.cwd (d.pathOf base) with
  | error fault => simp
  | ok directory =>
    simp only [List.mem_mergeSort, List.mem_filterMap, Prod.exists, Tree.mem_list_iff,
      keyOfEntry?_eq_some_iff, Except.ok.injEq, exists_and_left, exists_eq_left']
    constructor
    · rintro ⟨name, entry, hget, bytes, rfl, hkey, rfl⟩
      exact ⟨hkey, bytes, hget⟩
    · rintro ⟨hkey, bytes, hget⟩
      exact ⟨_, _, hget, bytes, rfl, hkey, rfl⟩

theorem mem_keys_iff (hbase : normalize? base = some place) : key ∈ d.keys base ↔ key ≠ "" ∧
    ∃ directory bytes, d.tree.follow d.cwd (join d.root place) = .ok directory ∧
      d.tree.get? (directory ++ [key ++ ".html"]) = some (.file bytes) := by
  rw [mem_keys_iff_follow, pathOf, hbase]

theorem keys_store (d : PageDirectory) : d.store.keys = d.keys := by
  rw [store]

/-! ## What opens -/

theorem find?_store (d : PageDirectory) (path : String) : d.store.find? path =
    ((normalize? path).bind fun place => d.tree.file? d.cwd (join d.root place)).map .whole := rfl

/-- The page for a key is the file of its name below the path of the base. -/
theorem find?_page (d : PageDirectory) (hbase : normalize? base = some place)
    (hslash : '/' ∉ key.toList) : d.store.find? (base ++ "/" ++ key ++ ".html") =
      (d.tree.file? d.cwd (join d.root place ++ "/" ++ (key ++ ".html"))).map .whole := by
  have hplace : place ≠ "" := ne_empty_of_normalize? (normalize?_of_normalize? hbase)
  rw [find?_store, normalize?_page hbase hslash, Option.bind_some]
  simp only [String.append_assoc, join_append _ hplace]

theorem reaches_page_iff (hplace : place ≠ "") :
    d.reaches (place ++ "/" ++ key ++ ".html") ↔
      (join d.root place ++ "/" ++ (key ++ ".html")).utf8ByteSize ≤ Tree.maxPath := by
  rw [reaches_iff, String.append_assoc, String.append_assoc, join_append _ hplace]
  simp only [String.append_assoc]

/-- The page for a key is a link, in the directory of a base. -/
def IsLinked (d : PageDirectory) (base key : String) : Prop :=
  ∃ directory target, d.tree.follow d.cwd (d.pathOf base) = .ok directory ∧
    d.tree.get? (directory ++ [key ++ ".html"]) = some (.link target)

/-- The name of a page is no idle part and not the one that leads to the parent. -/
theorem fileName_part (key : String) : ¬isIdle (key ++ ".html") ∧ key ++ ".html" ≠ ".." := by
  have hlong : (key ++ ".html").toList.length ≥ 5 := by simp
  refine ⟨fun hidle => ?_, fun hparent => ?_⟩
  · simp only [isIdle, Bool.or_eq_true, beq_iff_eq] at hidle
    rcases hidle with h | h
    · rw [h] at hlong
      exact absurd hlong (by decide)
    · rw [h] at hlong
      exact absurd hlong (by decide)
  · rw [hparent] at hlong
    exact absurd hlong (by decide)

theorem slash_not_mem_fileName (hslash : '/' ∉ key.toList) : '/' ∉ (key ++ ".html").toList := by
  simp [hslash]

theorem isSome_find?_page_iff (hbase : normalize? base = some place) (hslash : '/' ∉ key.toList) :
    (d.store.find? (base ++ "/" ++ key ++ ".html")).isSome ↔ ∃ bytes,
      d.tree.file? d.cwd (join d.root place ++ "/" ++ (key ++ ".html")) = some bytes := by
  rw [find?_page d hbase hslash, Option.isSome_map, Option.isSome_iff_exists]

/-! ## Where paths lead -/

section SameTree

variable {t : Tree} {cwd otherCwd : Place} {root otherRoot : String}

/-- Two directories in a tree have the same at a path if the file paths lead to the same place. -/
theorem find?_congr {path : String} (h : ∀ place, normalize? path = some place →
      t.follow cwd (join root place) = t.follow otherCwd (join otherRoot place)) :
    (store ⟨t, cwd, root⟩).find? path = (store ⟨t, otherCwd, otherRoot⟩).find? path := by
  rw [find?_store, find?_store]
  cases hplace : normalize? path with
  | none => rfl
  | some place => exact congrArg (Option.map Resource.whole) (Tree.file?_congr (h place hplace))

/-- Two directories in a tree have the same keys below bases whose paths lead to the same place. -/
theorem keys_congr {otherBase : String} (h : t.follow cwd (pathOf ⟨t, cwd, root⟩ base) =
      t.follow otherCwd (pathOf ⟨t, otherCwd, otherRoot⟩ otherBase)) :
    keys ⟨t, cwd, root⟩ base = keys ⟨t, otherCwd, otherRoot⟩ otherBase := by
  unfold keys
  rw [h]

end SameTree

/-! ## Listing and opening -/

/-- As far as paths reach, what opens is what is listed and the links among the pages. -/
theorem mem_keys_iff_opens (hproper : d.tree.IsProper)
    (hcwd : d.tree.get? d.cwd = some .directory) (hbase : normalize? base = some place)
    (hkey : key ≠ "") (hslash : '/' ∉ key.toList)
    (hreach : d.reaches (place ++ "/" ++ key ++ ".html")) :
    key ∈ d.keys base ↔ (d.store.find? (base ++ "/" ++ key ++ ".html")).isSome ∧
      ¬d.IsLinked base key := by
  have hplace : place ≠ "" := ne_empty_of_normalize? (normalize?_of_normalize? hbase)
  have hjoin : join d.root place ≠ "" := join_ne_empty d.root hplace
  have hname := slash_not_mem_fileName hslash
  obtain ⟨hidle, hparent⟩ := fileName_part key
  rw [reaches_page_iff hplace] at hreach
  have hopens : ∀ {directory bytes}, d.tree.follow d.cwd (join d.root place) = .ok directory →
      (∀ target, d.tree.get? (directory ++ [key ++ ".html"]) ≠ some (.link target)) →
      (d.tree.file? d.cwd (join d.root place ++ "/" ++ (key ++ ".html")) = some bytes ↔
        d.tree.get? (directory ++ [key ++ ".html"]) = some (.file bytes)) :=
    Tree.file?_glue_eq_some_iff hproper hcwd hjoin hname hidle hparent hreach
  rw [mem_keys_iff hbase, isSome_find?_page_iff hbase hslash, IsLinked, pathOf, hbase]
  constructor
  · rintro ⟨-, directory, bytes, hfollow, hget⟩
    have hlink : ∀ target,
        d.tree.get? (directory ++ [key ++ ".html"]) ≠ some (.link target) := by simp [hget]
    refine ⟨⟨bytes, (hopens hfollow hlink).2 hget⟩, ?_⟩
    rintro ⟨other, target, hother, htarget⟩
    rw [hfollow] at hother
    cases hother
    exact hlink target htarget
  · rintro ⟨⟨bytes, hfile⟩, hlink⟩
    obtain ⟨found, hfound, -⟩ := Tree.file?_eq_some_iff.1 hfile
    obtain ⟨directory, hfollow⟩ := Tree.exists_follow_of_glue hproper hcwd hjoin hname hfound
    refine ⟨hkey, directory, bytes, hfollow, (hopens hfollow ?_).1 hfile⟩
    exact fun target htarget => hlink ⟨directory, target, hfollow, htarget⟩

/-- Where paths do not reach nothing opens. -/
theorem find?_page_of_not_reaches (hbase : normalize? base = some place)
    (hslash : '/' ∉ key.toList) (hreach : ¬d.reaches (place ++ "/" ++ key ++ ".html")) :
    d.store.find? (base ++ "/" ++ key ++ ".html") = none := by
  have hplace : place ≠ "" := ne_empty_of_normalize? (normalize?_of_normalize? hbase)
  rw [reaches_page_iff hplace] at hreach
  refine Option.not_isSome_iff_eq_none.1 fun hsome => hreach ?_
  obtain ⟨bytes, hfile⟩ := (isSome_find?_page_iff hbase hslash).1 hsome
  obtain ⟨found, hfound, -⟩ := Tree.file?_eq_some_iff.1 hfile
  exact (Tree.checkPath_eq_ok_iff.1 (Tree.follow_eq_ok_iff.1 hfound).1).2.2

theorem not_mem_keys_of_isLinked (hbase : normalize? base = some place)
    (hlinked : d.IsLinked base key) : key ∉ d.keys base := by
  obtain ⟨directory, target, hfollow, hlink⟩ := hlinked
  intro hmem
  obtain ⟨-, other, bytes, hother, hget⟩ := (mem_keys_iff hbase).1 hmem
  rw [pathOf, hbase] at hfollow
  cases hother.symm.trans hfollow
  rw [hlink] at hget
  cases hget

/-- **Listing agrees with opening**, except for links. Below a base with a normal form, and as far
as paths reach, a key is listed exactly if its page opens and is not a link. Where paths do not
reach nothing opens, and a link is listed nowhere. -/
theorem listed_iff_opens (d : PageDirectory) (hproper : d.tree.IsProper)
    (hcwd : d.tree.get? d.cwd = some .directory) (hbase : normalize? base = some place)
    (hkey : key ≠ "") (hslash : '/' ∉ key.toList) :
    let page := base ++ "/" ++ key ++ ".html"
    (d.reaches (place ++ "/" ++ key ++ ".html") →
      (key ∈ d.keys base ↔ (d.store.find? page).isSome ∧ ¬d.IsLinked base key)) ∧
    (¬d.reaches (place ++ "/" ++ key ++ ".html") → d.store.find? page = none) ∧
    (d.IsLinked base key → key ∉ d.keys base) :=
  ⟨fun hreach => mem_keys_iff_opens hproper hcwd hbase hkey hslash hreach,
    fun hreach => find?_page_of_not_reaches hbase hslash hreach, not_mem_keys_of_isLinked hbase⟩

/-- Two pages, one of them a link to a file that is not named like a page. -/
def withLink : PageDirectory where
  tree := (((Tree.empty.set ["docs"] .directory).set ["docs", "cd.html"] (.file "C".toUTF8)).set
    ["docs", "text"] (.file "E".toUTF8)).set ["docs", "echo.html"] (.link "text")
  cwd := []
  root := "."

theorem isProper_withLink : withLink.tree.IsProper := by
  have hdocs := Tree.isProper_empty.set [] "docs" .directory (by decide) rfl rfl
  have hpage := hdocs.set ["docs"] "cd.html" (.file "C".toUTF8) (by decide) rfl rfl
  have htext := hpage.set ["docs"] "text" (.file "E".toUTF8) (by decide) rfl rfl
  exact htext.set ["docs"] "echo.html" (.link "text") (by decide) rfl rfl

theorem listed_iff_opens_withLink :
    withLink.tree.IsProper ∧ withLink.tree.get? withLink.cwd = some .directory ∧
      normalize? "./docs//" = some "docs" ∧ withLink.reaches "docs/cd.html" ∧
      (withLink.store.find? "./docs///cd.html").isSome ∧ ¬withLink.IsLinked "./docs//" "cd" ∧
      "echo" ∉ withLink.keys "./docs//" := by
  have hbase : normalize? "./docs//" = some "docs" := by decide
  have hreach : withLink.reaches "docs/cd.html" := by decide
  obtain ⟨hpage, -, -⟩ := listed_iff_opens withLink isProper_withLink rfl hbase
    (show "cd" ≠ "" by decide) (by decide)
  obtain ⟨-, -, hlinked⟩ := listed_iff_opens withLink isProper_withLink rfl hbase
    (show "echo" ≠ "" by decide) (by decide)
  have hlisted : "cd" ∈ withLink.keys "./docs//" := by decide +kernel
  have hfollow : withLink.tree.follow [] "./docs" = .ok ["docs"] := by decide +kernel
  obtain ⟨hopens, hplain⟩ := (hpage hreach).1 hlisted
  exact ⟨isProper_withLink, rfl, hbase, hreach, hopens, hplain,
    hlinked ⟨["docs"], "text", hfollow, rfl⟩⟩

/-- A page that is a link opens, but it is not listed. -/
theorem linked_page_not_listed :
    withLink.tree.IsProper ∧ withLink.tree.get? withLink.cwd = some .directory ∧
      normalize? "docs" = some "docs" ∧ (withLink.store.find? "docs/echo.html").isSome ∧
      "echo" ∉ withLink.keys "docs" :=
  ⟨isProper_withLink, rfl, by decide, by decide +kernel, by decide +kernel⟩

end PageDirectory

end ShellPages
