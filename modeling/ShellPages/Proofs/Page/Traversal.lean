import ShellPages.Proofs.Page.Directory
import ShellPages.Proofs.Page.Listing

/-!
# Bases that leave the space of pages

A base with a `..` segment has no normal form, and neither has the path of any page below it
(`normalize?_page_of_parent`), so that nothing opens there. A listing takes every base without
normal form for the root, though: on a shelf (`Shelf.mem_keys_iff_of_no_normalForm`) as in a
directory (`PageDirectory.mem_keys_iff_of_no_normalForm`). Together these are `Store.ListsRoot`, and
the main statement, `traversal_lists_root`, says it of all such bases and both stores: pages of the
root are listed that do not open, and nothing is listed only if the root has no page.
-/

namespace ShellPages

open Files Page

variable {base key : String}

/-! ## Paths -/

namespace Page

theorem normalize?_of_parent (hparent : parentSegment ∈ segments base) : normalize? base = none :=
  normalize?_eq_none_iff.2 (.inr hparent)

/-- A page below a base that leads to a parent has no normal form, whatever its key. -/
theorem normalize?_page_of_parent (hparent : parentSegment ∈ segments base) (key : String) :
    normalize? (base ++ "/" ++ key ++ ".html") = none := by
  rw [normalize?_eq_none_iff, String.append_assoc, segments_glue]
  exact .inr (List.mem_append_left _ hparent)

/-- The name of a page is in normal form, so a page at the root stands under its name. -/
theorem normalize?_fileName (hslash : '/' ∉ key.toList) :
    normalize? (key ++ ".html") = some (key ++ ".html") := by
  have hnames := @normalize?_joinParts [key ++ ".html"] (by simp)
    (by simpa using PageDirectory.slash_not_mem_fileName hslash)
    (by simpa using PageDirectory.fileName_part key)
  simpa [joinParts] using hnames

end Page

/-! ## The pages at the root -/

namespace Shelf

/-- A page for a key stands directly at the root of a shelf. -/
def HasAtRoot (s : Shelf) (key : String) : Prop :=
  key ≠ "" ∧ '/' ∉ key.toList ∧ (s.store.find? (key ++ ".html")).isSome

variable {s : Shelf}

theorem find?_of_no_normalForm (s : Shelf) {path : String} (h : normalize? path = none) :
    s.store.find? path = none := by
  rw [find?_store, h]
  rfl

/-- Bases without normal form list the same. -/
theorem keys_of_no_normalForm (s : Shelf) {other : String} (h : normalize? base = none)
    (hother : normalize? other = none) : s.keys base = s.keys other := by
  rw [keys, keys, below, below, h, hother]

/-- **A base without normal form lists the pages at the root** of a shelf. -/
theorem mem_keys_iff_of_no_normalForm (h : normalize? base = none) :
    key ∈ s.keys base ↔ s.HasAtRoot key := by
  rw [mem_keys_iff, below, h, List.nil_append, ← String.toList_append, String.ofList_toList,
    HasAtRoot]
  refine and_congr_right fun _ => and_congr_right fun hslash => ?_
  rw [find?_store, normalize?_fileName hslash, Option.bind_some, Option.isSome_map,
    Std.TreeMap.isSome_getElem?_iff_mem]

end Shelf

namespace PageDirectory

/-- A page for a key stands directly in the directory to which the root leads. -/
def HasAtRoot (d : PageDirectory) (key : String) : Prop :=
  key ≠ "" ∧ ∃ directory bytes, d.tree.follow d.cwd d.root = .ok directory ∧
    d.tree.get? (directory ++ [key ++ ".html"]) = some (.file bytes)

variable {d : PageDirectory}

theorem find?_of_no_normalForm (d : PageDirectory) {path : String} (h : normalize? path = none) :
    d.store.find? path = none := by
  rw [find?_store, h]
  rfl

/-- Bases without normal form list the same. -/
theorem keys_of_no_normalForm (d : PageDirectory) {other : String} (h : normalize? base = none)
    (hother : normalize? other = none) : d.keys base = d.keys other :=
  keys_congr (by rw [pathOf, pathOf, h, hother])

/-- **A base without normal form lists the pages at the root** of a directory. -/
theorem mem_keys_iff_of_no_normalForm (h : normalize? base = none) :
    key ∈ d.keys base ↔ d.HasAtRoot key := by
  rw [mem_keys_iff_follow, pathOf, h, HasAtRoot]

end PageDirectory

/-! ## Bases that leave the space -/

namespace Store

variable {store : Store} {hasAtRoot : String → Prop}

/-- Nothing opens below a base of a store, and it lists the pages at the root all the same. -/
structure ListsRoot (store : Store) (base : String) (hasAtRoot : String → Prop) : Prop where
  find?_page : ∀ key, store.find? (base ++ "/" ++ key ++ ".html") = none
  keys_eq : store.keys base = store.keys ""
  mem_keys_iff : ∀ key, key ∈ store.keys base ↔ hasAtRoot key

theorem ListsRoot.keys_eq_nil_iff (h : store.ListsRoot base hasAtRoot) :
    store.keys base = [] ↔ ∀ key, ¬hasAtRoot key := by
  rw [List.eq_nil_iff_forall_not_mem]
  exact forall_congr' fun key => not_congr (h.mem_keys_iff key)

end Store

theorem Shelf.listsRoot (s : Shelf) (hparent : parentSegment ∈ segments base) :
    s.store.ListsRoot base s.HasAtRoot := by
  have hbase : normalize? base = none := normalize?_of_parent hparent
  constructor
  · exact fun key => s.find?_of_no_normalForm (normalize?_page_of_parent hparent key)
  · exact s.keys_of_no_normalForm hbase (by decide)
  · exact fun key => mem_keys_iff_of_no_normalForm hbase

theorem PageDirectory.listsRoot (d : PageDirectory) (hparent : parentSegment ∈ segments base) :
    d.store.ListsRoot base d.HasAtRoot := by
  have hbase : normalize? base = none := normalize?_of_parent hparent
  constructor
  · exact fun key => d.find?_of_no_normalForm (normalize?_page_of_parent hparent key)
  · rw [keys_store]
    exact d.keys_of_no_normalForm hbase (by decide)
  · intro key
    rw [keys_store]
    exact mem_keys_iff_of_no_normalForm hbase

/-- **A base that leaves the space lists the root.** Below a base that leads to a parent nothing
opens, on any shelf and in any directory. It lists what the empty base lists all the same: the keys
of the pages at the root, and none from outside. So nothing is listed exactly if the root has no
page. -/
theorem traversal_lists_root (hparent : parentSegment ∈ segments base) :
    (∀ s : Shelf, s.store.ListsRoot base s.HasAtRoot ∧
      (s.store.keys base = [] ↔ ∀ key, ¬s.HasAtRoot key)) ∧
    ∀ d : PageDirectory, d.store.ListsRoot base d.HasAtRoot ∧
      (d.store.keys base = [] ↔ ∀ key, ¬d.HasAtRoot key) := by
  refine ⟨fun s => ?_, fun d => ?_⟩
  · have hroot := s.listsRoot hparent
    exact ⟨hroot, hroot.keys_eq_nil_iff⟩
  · have hroot := d.listsRoot hparent
    exact ⟨hroot, hroot.keys_eq_nil_iff⟩

/-- A page at the root and one below a base. -/
def topShelf : Shelf :=
  .ofList [("top.html", "T".toUTF8), ("docs/cd.html", "C".toUTF8)]

/-- A page at the root, and one beside the root. -/
def topDirectory : PageDirectory where
  tree := ((Tree.empty.set ["inner"] .directory).set ["inner", "top.html"] (.file "T".toUTF8)).set
    ["outside.html"] (.file "O".toUTF8)
  cwd := []
  root := "inner"

/-- A way up in the middle of a base is enough, and no way leads outside. -/
theorem traversal_lists_root_onTheWay :
    let base := "docs/.././docs"
    parentSegment ∈ segments base ∧
      (∀ key, topShelf.store.find? (base ++ "/" ++ key ++ ".html") = none) ∧
      "top" ∈ topShelf.store.keys base ∧ ¬topShelf.HasAtRoot "cd" ∧
      (∀ key, topDirectory.store.find? (base ++ "/" ++ key ++ ".html") = none) ∧
      topDirectory.store.keys base ≠ [] ∧ ¬topDirectory.HasAtRoot "outside" := by
  intro base
  have hparent : parentSegment ∈ segments base := by decide
  obtain ⟨hshelf, hdirectory⟩ := traversal_lists_root hparent
  obtain ⟨hshelfRoot, -⟩ := hshelf topShelf
  obtain ⟨hdirectoryRoot, hempty⟩ := hdirectory topDirectory
  have htop : topShelf.HasAtRoot "top" := ⟨by decide, by decide, by decide⟩
  have hcd : "cd" ∉ topShelf.store.keys base := by decide
  have hpage : topDirectory.HasAtRoot "top" :=
    ⟨by decide, ["inner"], "T".toUTF8, by decide +kernel, rfl⟩
  have houtside : "outside" ∉ topDirectory.store.keys base := by decide +kernel
  refine ⟨hparent, hshelfRoot.find?_page, (hshelfRoot.mem_keys_iff _).2 htop, ?_,
    hdirectoryRoot.find?_page, fun hnil => hempty.1 hnil _ hpage, ?_⟩
  · exact fun h => hcd ((hshelfRoot.mem_keys_iff _).2 h)
  · exact fun h => houtside ((hdirectoryRoot.mem_keys_iff _).2 h)

/-- Nothing opens above the root, and its pages are listed there. -/
theorem root_listed_above :
    parentSegment ∈ segments ".." ∧
      (∀ key, topShelf.store.find? (".." ++ "/" ++ key ++ ".html") = none) ∧
      topShelf.store.keys ".." = ["top"] ∧
      (∀ key, topDirectory.store.find? (".." ++ "/" ++ key ++ ".html") = none) ∧
      topDirectory.store.keys ".." = ["top"] := by
  have hparent : parentSegment ∈ segments ".." := by decide
  exact ⟨hparent, (topShelf.listsRoot hparent).find?_page, by decide,
    (topDirectory.listsRoot hparent).find?_page, by decide +kernel⟩

end ShellPages
