import ShellPages.Page.Store
import ShellPages.Proofs.Page.Loading
import ShellPages.Proofs.Page.Shelf
import ShellPages.Proofs.Text.Order

/-!
# What a shelf lists

A shelf lists its pages by taking beginnings and endings off the paths it holds, while loading a
page puts a path together. Both speak of the same path: a key is listed exactly if the path of its
page is taken (`mem_keys_iff`). The path determines the key, so the order of the paths passes to
the keys with the ending of pages put on again (`pairwise_keys`), and no key is listed twice.

Two main statements: `listed_iff_found` compares the list with what trying a page gives, and
`keys_increasing_iff` says when the keys are sorted by themselves. They need not be, since the
ending takes part in the order, while a directory sorts what it lists
(`PageDirectory.pairwise_le_keys`).
-/

namespace ShellPages

open Page

namespace Shelf

variable {s : Shelf} {base place key path : String} {beginning : List Char}

/-! ## Keys of paths -/

/-- A path has a key below a beginning if it is the beginning, the key and the ending. -/
theorem keyOfPath?_eq_some_iff : keyOfPath? beginning path = some key ↔
    key ≠ "" ∧ '/' ∉ key.toList ∧ path.toList = beginning ++ (key.toList ++ ".html".toList) := by
  simp only [keyOfPath?, Option.bind_eq_bind, Option.bind_eq_some_iff,
    Text.stripStart?_eq_some_iff, Option.ite_none_left_eq_some, List.contains_iff_mem,
    keyOfName?_eq_some_iff]
  constructor
  · rintro ⟨_, hpath, hslash, hkey, rfl⟩
    exact ⟨hkey, fun h => hslash (List.mem_append_left _ h), hpath⟩
  · rintro ⟨hkey, hslash, hpath⟩
    exact ⟨_, hpath, by simp [hslash], hkey, rfl⟩

/-- A key is listed if the path of its page is taken. -/
theorem mem_keys_iff : key ∈ s.keys base ↔ key ≠ "" ∧ '/' ∉ key.toList ∧
    String.ofList (below base ++ (key.toList ++ ".html".toList)) ∈ s.entries := by
  simp only [keys, List.mem_filterMap, keyOfPath?_eq_some_iff, Std.TreeMap.mem_keys]
  constructor
  · rintro ⟨path, hpath, hkey, hslash, heq⟩
    rw [← heq, String.ofList_toList]
    exact ⟨hkey, hslash, hpath⟩
  · rintro ⟨hkey, hslash, hpath⟩
    exact ⟨_, hpath, hkey, hslash, String.toList_ofList⟩

theorem mem_keys_iff_of_normalize? (h : normalize? base = some place) :
    key ∈ s.keys base ↔ key ≠ "" ∧ '/' ∉ key.toList ∧
      place ++ "/" ++ key ++ ".html" ∈ s.entries := by
  have hpath : String.ofList (below base ++ (key.toList ++ ".html".toList)) =
      place ++ "/" ++ key ++ ".html" := by
    rw [below, h, ← String.toList_inj]
    simp
  rw [mem_keys_iff, hpath]

/-! ## The order of the keys -/

/-- Keys come in the order of the names of their files. -/
theorem pairwise_keys (s : Shelf) (base : String) :
    (s.keys base).Pairwise fun key other => key ++ ".html" < other ++ ".html" := by
  have hordered : s.entries.keys.Pairwise fun path other => compare path other = .lt :=
    Std.TreeMap.ordered_keys
  refine hordered.filterMap _ fun path other hlt key hkey otherKey hother => ?_
  obtain ⟨-, -, hpath⟩ := keyOfPath?_eq_some_iff.1 hkey
  obtain ⟨-, -, hotherPath⟩ := keyOfPath?_eq_some_iff.1 hother
  -- both paths begin in the same way, so the names of the files decide
  have hpaths : path < other := compareOfLessAndEq_eq_lt.1 hlt
  rw [String.lt_iff, hpath, hotherPath, Text.append_lt_append_iff] at hpaths
  rw [String.lt_iff, String.toList_append, String.toList_append]
  exact hpaths

theorem nodup_keys (s : Shelf) (base : String) : (s.keys base).Nodup := by
  refine (pairwise_keys s base).imp ?_
  rintro key _ hlt rfl
  exact String.lt_irrefl _ hlt

/-! ## Listing and loading -/

/-- Below a base with a normal form, a shelf has nothing for a key if the path below that normal
form is free. -/
theorem find?_page_eq_none_iff (h : normalize? base = some place) (hslash : '/' ∉ key.toList) :
    s.store.find? (base ++ "/" ++ key ++ ".html") = none ↔
      place ++ "/" ++ key ++ ".html" ∉ s.entries := by
  rw [find?_store, normalize?_page h hslash, Option.bind_some, Option.map_eq_none_iff,
    ← Std.TreeMap.isSome_getElem?_iff_mem, Option.not_isSome_iff_eq_none]

/-- **Listing agrees with loading.** Below a base with a normal form, a key is listed exactly if
trying its page does not give that there is none, and it is listed once then. Below any base, no
listed key is empty or has a slash. -/
theorem listed_iff_found (resources : List (String × ByteArray)) {base place : String}
    (hbase : normalize? base = some place) :
    let shelf := ofList resources
    (∀ key, key ≠ "" → '/' ∉ key.toList →
      (key ∈ shelf.keys base ↔ shelf.store.read base key ≠ .ok none) ∧
      (key ∈ shelf.keys base → (shelf.keys base).count key = 1)) ∧
    (∀ anyBase, ∀ key ∈ shelf.keys anyBase, key ≠ "" ∧ '/' ∉ key.toList) := by
  intro shelf
  refine ⟨fun key hkey hslash => ⟨?_, ?_⟩, ?_⟩
  · have hpath : path? base key = some (base ++ "/" ++ key ++ ".html") :=
      path?_eq_some_iff.2 ⟨ne_empty_of_normalize? hbase, hkey, rfl⟩
    have hread : shelf.store.read base key = .ok none ↔
        shelf.store.find? (base ++ "/" ++ key ++ ".html") = none := by
      rw [Store.read, Store.tryPage_eq_none_iff, hpath]
      simp
    rw [ne_eq, hread, find?_page_eq_none_iff hbase hslash, Decidable.not_not,
      mem_keys_iff_of_normalize? hbase]
    simp [hkey, hslash]
  · exact fun hmem => (nodup_keys shelf base).count.trans (if_pos hmem)
  · intro anyBase key hmem
    obtain ⟨hkey, hslash, -⟩ := mem_keys_iff.1 hmem
    exact ⟨hkey, hslash⟩

/-- A key may contain the ending, and a base whose name is longer is another base. -/
theorem listed_iff_found_nested :
    let shelf := ofList [("docs/a.html.html", "A".toUTF8), ("docs/sub/b.html", "B".toUTF8),
      ("docs2/c.html", "C".toUTF8)]
    normalize? "./docs//" = some "docs" ∧ "a.html" ≠ "" ∧ '/' ∉ "a.html".toList ∧
      "a.html" ∈ shelf.keys "./docs//" ∧ shelf.store.read "./docs//" "a.html" ≠ .ok none ∧
      (shelf.keys "./docs//").count "a.html" = 1 ∧
      "c" ∉ shelf.keys "./docs//" ∧ shelf.store.read "./docs//" "c" = .ok none := by
  intro shelf
  have hbase : normalize? "./docs//" = some "docs" := by decide
  obtain ⟨hlisted, -⟩ := listed_iff_found [("docs/a.html.html", "A".toUTF8),
    ("docs/sub/b.html", "B".toUTF8), ("docs2/c.html", "C".toUTF8)] hbase
  obtain ⟨hpage, hcount⟩ := hlisted "a.html" (by decide) (by decide)
  obtain ⟨hsibling, -⟩ := hlisted "c" (by decide) (by decide)
  have hmem : "a.html" ∈ shelf.keys "./docs//" := by decide
  have hnot : "c" ∉ shelf.keys "./docs//" := by decide
  exact ⟨hbase, by decide, by decide, hmem, hpage.1 hmem, hcount hmem, hnot,
    Classical.not_not.1 fun h => hnot (hsibling.2 h)⟩

/-! ## Sorted keys -/

/-- **When listed keys are sorted.** Keys come in the order of the names of their files, byte by
byte. That is their own order exactly if no key is followed by a longer one that begins with it
and goes on with less than the ending of pages. -/
theorem keys_increasing_iff (s : Shelf) (base : String) :
    (s.keys base).Pairwise (fun key other =>
      Text.bytes (key ++ ".html") < Text.bytes (other ++ ".html")) ∧
    ((s.keys base).Pairwise (fun key other => Text.bytes key < Text.bytes other) ↔
      ∀ key ∈ s.keys base, ∀ more, key ++ more ∈ s.keys base →
        ¬Text.bytes (more ++ ".html") < Text.bytes ".html") := by
  simp only [Text.bytes_lt_iff]
  refine ⟨pairwise_keys s base, ?_, ?_⟩
  · intro hsorted key hkey more hmore hless
    have hnames : key ++ more ++ ".html" < key ++ ".html" := by
      rw [String.append_assoc]
      exact (Text.append_lt_append_left_iff key).2 hless
    obtain ⟨i, hi, hkeyAt⟩ := List.getElem_of_mem hkey
    obtain ⟨j, hj, hmoreAt⟩ := List.getElem_of_mem hmore
    -- whichever of the two comes first, one of the orders says that it is the greater one
    rcases Nat.lt_trichotomy i j with hlt | rfl | hgt
    · have hordered := List.pairwise_iff_getElem.1 (pairwise_keys s base) i j hi hj hlt
      rw [hkeyAt, hmoreAt] at hordered
      exact String.lt_asymm hordered hnames
    · rw [← hmoreAt, hkeyAt] at hnames
      exact String.lt_irrefl _ hnames
    · have hordered := List.pairwise_iff_getElem.1 hsorted j i hj hi hgt
      rw [hkeyAt, hmoreAt] at hordered
      exact Text.not_append_lt key more hordered
  · intro hnone
    refine (pairwise_keys s base).imp_of_mem fun {key other} hkey hother hnames => ?_
    rcases Std.lt_trichotomy key other with hlt | rfl | hgt
    · exact hlt
    · exact absurd hnames (String.lt_irrefl _)
    · rcases Text.eq_append_or_append_lt hgt with ⟨more, rfl⟩ | hall
      · rw [String.append_assoc] at hnames
        exact absurd ((Text.append_lt_append_left_iff other (u := ".html")).1 hnames)
          (hnone other hother more hkey)
      · exact absurd hnames (String.lt_asymm (hall ".html" ".html"))

/-- A hyphen is less than the ending, so a name that goes on with one stands before the name
itself. -/
theorem keys_not_increasing :
    let shelf := ofList [("docs/apt.html", "A".toUTF8), ("docs/apt-get.html", "G".toUTF8)]
    shelf.keys "docs" = ["apt-get", "apt"] ∧
      ¬(shelf.keys "docs").Pairwise fun key other => Text.bytes key < Text.bytes other := by
  intro shelf
  have hkeys : shelf.keys "docs" = ["apt-get", "apt"] := by decide
  refine ⟨hkeys, ?_⟩
  rw [hkeys]
  decide

end Shelf

/-- A directory sorts the keys that it lists. -/
theorem PageDirectory.pairwise_le_keys (d : PageDirectory) (base : String) :
    (d.keys base).Pairwise (· ≤ ·) := by
  unfold keys
  cases d.tree.follow d.cwd (d.pathOf base) with
  | error fault => exact .nil
  | ok place =>
    refine (List.pairwise_mergeSort ?_ ?_ _).imp fun h => of_decide_eq_true h
    · intro a b c hab hbc
      exact decide_eq_true (String.le_trans (of_decide_eq_true hab) (of_decide_eq_true hbc))
    · intro a b
      simpa using String.le_total a b

end ShellPages
