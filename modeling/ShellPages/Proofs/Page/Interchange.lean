import ShellPages.Proofs.Page.Below
import ShellPages.Proofs.Page.Shown

/-!
# Directories and shelves are interchangeable

The pages of a directory can be put on a shelf, each under its path from the root. Bases and keys
then lead to the same texts, faults and absences in both, whatever they look like, and the same keys
are listed: `stores_interchangeable`. At each place the shelf has what the directory has there
(`IsPlainAt.getElem?_ofList`), and what two stores show follows from what they hold. The one
difference is how far they reach: a page whose file path would be too long is on the shelf, and in
the directory it is as if it were not there (`deep_page_differs`).
-/

namespace ShellPages

open Files Page

/-! ## Pages that are deep -/

/-- A name of one letter, written a number of times. -/
def repeated (c : Char) (n : Nat) : String :=
  String.ofList (List.replicate n c)

@[simp] theorem toList_repeated (c : Char) (n : Nat) : (repeated c n).toList = List.replicate n c :=
  String.toList_ofList

@[simp] theorem utf8ByteSize_repeated (c : Char) (n : Nat) :
    (repeated c n).utf8ByteSize = n * c.utf8Size := by
  induction n with
  | zero => simp [repeated]
  | succ n ih =>
    rw [repeated] at ih ⊢
    rw [List.replicate_succ', String.ofList_append, String.utf8ByteSize_append, ih, Nat.succ_mul]
    simp

theorem not_mem_repeated {c other : Char} (h : other ≠ c) (n : Nat) :
    other ∉ (repeated c n).toList := by
  rw [toList_repeated]
  exact fun hmem => h (List.eq_of_mem_replicate hmem)

/-- A name of one letter, written often enough, is one that a directory can hold. -/
theorem isName_repeated {c : Char} {n : Nat} (hlong : 2 < n) (hslash : '/' ≠ c) (hzero : '\x00' ≠ c)
    (hshort : n * c.utf8Size ≤ Tree.maxName) : IsName (repeated c n) := by
  -- the names with a meaning of their own are shorter
  have hne : ∀ other : String, other.toList.length ≤ 2 → repeated c n ≠ other := by
    rintro other hother rfl
    rw [toList_repeated, List.length_replicate] at hother
    omega
  constructor
  · simp [isIdle, hne "" (by decide), hne "." (by decide)]
  · exact hne ".." (by decide)
  · exact not_mem_repeated hslash n
  · exact not_mem_repeated hzero n
  · rwa [utf8ByteSize_repeated]

/-- A name of one letter, with the ending of pages, is one that a directory can hold. -/
theorem isName_repeated_ending {c : Char} {n : Nat} (hslash : '/' ≠ c) (hzero : '\x00' ≠ c)
    (hshort : n * c.utf8Size + 5 ≤ Tree.maxName) : IsName (repeated c n ++ ".html") := by
  have hendingSlash : '/' ∉ ".html".toList := by decide
  have hendingZero : '\x00' ∉ ".html".toList := by decide
  have hending : ".html".utf8ByteSize = 5 := rfl
  obtain ⟨hidle, hparent⟩ := PageDirectory.fileName_part (repeated c n)
  constructor
  · exact hidle
  · exact hparent
  · rw [String.toList_append, List.mem_append]
    exact not_or.2 ⟨not_mem_repeated hslash n, hendingSlash⟩
  · rw [String.toList_append, List.mem_append]
    exact not_or.2 ⟨not_mem_repeated hzero n, hendingZero⟩
  · rwa [String.utf8ByteSize_append, utf8ByteSize_repeated, hending]

/-- Directories of one name, each in the one before. -/
def nested (name : String) : Nat → Tree
  | 0 => .empty
  | n + 1 => (nested name n).set (List.replicate n name ++ [name]) .directory

theorem get?_nested_replicate (name : String) (n : Nat) :
    (nested name n).get? (List.replicate n name) = some .directory := by
  cases n with
  | zero => rfl
  | succ n => rw [nested, Tree.get?_set, List.replicate_succ', if_pos rfl]

theorem get?_nested_of_lt {name : String} {n : Nat} {place : Place} (h : n < place.length) :
    (nested name n).get? place = none := by
  induction n with
  | zero =>
    cases place with
    | nil => simp at h
    | cons first rest => rfl
  | succ n ih =>
    rw [nested, Tree.get?_set, if_neg, ih (by omega)]
    rintro rfl
    simp at h

theorem isProper_nested {name : String} (hname : IsName name) (n : Nat) :
    (nested name n).IsProper := by
  induction n with
  | zero => exact Tree.isProper_empty
  | succ n ih =>
    exact ih.set _ name .directory hname (get?_nested_replicate name n)
      (get?_nested_of_lt (by simp))

theorem isLinkless_nested (name : String) (n : Nat) : (nested name n).IsLinkless [] := by
  induction n with
  | zero => exact Tree.isLinkless_empty
  | succ n ih => exact ih.set _ name _ (by simp)

/-- The path of the last of some directories of one name, each in the one before. -/
def nestedPath (name : String) (n : Nat) : String :=
  joinParts (List.replicate n name)

theorem parts_nestedPath {name : String} (hname : IsName name) (n : Nat) :
    parts (nestedPath name (n + 1)) = List.replicate (n + 1) name :=
  parts_joinParts (by simp) fun part hmem => List.eq_of_mem_replicate hmem ▸ hname.no_slash

theorem normalize?_nestedPath {name : String} (hname : IsName name) (n : Nat) :
    normalize? (nestedPath name (n + 1)) = some (nestedPath name (n + 1)) :=
  normalize?_joinParts (by simp) (fun part hmem => List.eq_of_mem_replicate hmem ▸ hname.no_slash)
    fun part hmem => List.eq_of_mem_replicate hmem ▸ ⟨hname.not_idle, hname.not_parent⟩

theorem utf8ByteSize_nestedPath (name : String) (n : Nat) :
    (nestedPath name (n + 1)).utf8ByteSize = n * (name.utf8ByteSize + 1) + name.utf8ByteSize :=
  utf8ByteSize_joinParts_replicate name n

namespace PageDirectory

variable {name key : String}

/-- A page in the last of some directories of one name, each in the one before. -/
def deep (name key : String) (n : Nat) (bytes : ByteArray) : PageDirectory where
  tree := (nested name n).set (List.replicate n name ++ [key ++ ".html"]) (.file bytes)
  cwd := []
  root := "."

theorem isPlainAt_deep (hname : IsName name) (hkey : IsName (key ++ ".html")) (n : Nat)
    (bytes : ByteArray) : (deep name key n bytes).IsPlainAt [] where
  proper := (isProper_nested hname n).set _ _ _ hkey (get?_nested_replicate name n)
    (get?_nested_of_lt (by simp))
  cwd := rfl
  root := Tree.follow_dot _ _
  directory := rfl
  linkless := (isLinkless_nested name n).set _ _ _ (by simp)

theorem fileAt?_deep (hname : IsName name) (n : Nat) (bytes : ByteArray) :
    (deep name key (n + 1) bytes).tree.fileAt?
      ([] ++ parts (nestedPath name (n + 1)) ++ [key ++ ".html"]) = some bytes := by
  rw [parts_nestedPath hname, List.nil_append, Tree.fileAt?_eq_some_iff, deep, Tree.get?_set,
    if_pos rfl]

end PageDirectory

/-! ## A page out of reach -/

/-- The name of some directories, each in the one before. -/
def deepName : String := repeated 'd' 240

/-- The key of the page in the last of them. -/
def deepKey : String := repeated 'k' 250

/-- The path of the last of them. -/
def deepBase : String := nestedPath deepName 16

/-- A page that file paths do not reach, in a directory that they reach. -/
def deepPages : PageDirectory := .deep deepName deepKey 16 "E".toUTF8

theorem isName_deepName : IsName deepName :=
  isName_repeated (by decide) (by decide) (by decide) (by decide)

theorem isPlainAt_deepPages : deepPages.IsPlainAt [] :=
  PageDirectory.isPlainAt_deep isName_deepName
    (isName_repeated_ending (by decide) (by decide) (by decide)) 16 _

theorem normalize?_deepBase : normalize? deepBase = some deepBase :=
  normalize?_nestedPath isName_deepName 15

theorem utf8ByteSize_deepBase : deepBase.utf8ByteSize = 15 * (240 + 1) + 240 := by
  have hname : deepName.utf8ByteSize = 240 := utf8ByteSize_repeated 'd' 240
  rw [deepBase, utf8ByteSize_nestedPath, hname]

theorem toList_deepKey : deepKey.toList = List.replicate 250 'k' :=
  toList_repeated 'k' 250

theorem utf8ByteSize_deepKey : deepKey.utf8ByteSize = 250 :=
  utf8ByteSize_repeated 'k' 250

theorem slash_not_mem_deepKey : '/' ∉ deepKey.toList :=
  not_mem_repeated (by decide) 250

theorem fileAt?_deepPage :
    deepPages.tree.fileAt? ([] ++ parts deepBase ++ [deepKey ++ ".html"]) = some "E".toUTF8 :=
  PageDirectory.fileAt?_deep isName_deepName 15 _

-- what is known of these names is above, and evaluating them takes long
attribute [irreducible] deepName deepKey deepBase

theorem deepKey_ne_empty : deepKey ≠ "" := by
  intro hempty
  have hsize := utf8ByteSize_deepKey
  rw [hempty] at hsize
  cases hsize

theorem placeOf?_deepPage :
    placeOf? deepBase deepKey = some (deepBase ++ "/" ++ deepKey ++ ".html") :=
  placeOf?_of_normalize? normalize?_deepBase deepKey_ne_empty slash_not_mem_deepKey

theorem reaches_deepBase : deepPages.reaches deepBase := by
  have hjoin := (utf8ByteSize_join_bounds deepPages.root deepBase).2
  have hroot : deepPages.root.utf8ByteSize = 1 := rfl
  rw [utf8ByteSize_deepBase, hroot] at hjoin
  exact PageDirectory.reaches_iff.2 (Nat.le_trans hjoin (by decide))

theorem not_reaches_deepPage : ¬deepPages.reaches (deepBase ++ "/" ++ deepKey ++ ".html") := by
  rw [PageDirectory.reaches_iff]
  have hjoin := (utf8ByteSize_join_bounds deepPages.root
    (deepBase ++ "/" ++ deepKey ++ ".html")).1
  have hlong : Tree.maxPath < (deepBase ++ "/" ++ deepKey ++ ".html").utf8ByteSize := by
    rw [String.utf8ByteSize_append, String.utf8ByteSize_append, String.utf8ByteSize_append,
      utf8ByteSize_deepBase, utf8ByteSize_deepKey]
    decide
  omega

/-! ## The same files on a shelf -/

section Filled

variable {d : PageDirectory} {top : Place} {resources : List (String × ByteArray)}
  {path place : String}

/-- A shelf filled with the files of a directory holds at a place what the directory has there. -/
theorem PageDirectory.IsPlainAt.getElem?_ofList (h : d.IsPlainAt top)
    (hfiles : resources.Perm (d.tree.filesBelow top)) (hplace : normalize? path = some place) :
    (Shelf.ofList resources).entries[place]? = d.tree.fileAt? (top ++ parts place) := by
  -- the path under which a file is put is in normal form, and no other file has it
  have hput : ∀ other bytes, (other, bytes) ∈ resources → normalize? other = some place →
      d.tree.get? (top ++ parts place) = some (.file bytes) := by
    intro other bytes hmem hother
    obtain ⟨names, hne, rfl, hget⟩ := Tree.mem_filesBelow_iff.1 (hfiles.mem_iff.1 hmem)
    have hnames := h.proper.isName_of_mem (Option.isSome_iff_exists.2 ⟨_, hget⟩)
    rw [normalize?_joinParts hne (fun name hn => (hnames name hn).no_slash)
      fun name hn => ⟨(hnames name hn).not_idle, (hnames name hn).not_parent⟩] at hother
    cases hother
    rwa [parts_joinParts hne fun name hn => (hnames name hn).no_slash]
  rw [Shelf.getElem?_ofList]
  refine Option.ext fun bytes => ?_
  rw [Tree.fileAt?_eq_some_iff]
  constructor
  · intro hlast
    obtain ⟨before, other, after, rfl, hother, -⟩ := Shelf.getLast?_putsAt_eq_some_iff.1 hlast
    exact hput other bytes (by simp) hother
  · intro hget
    have hmem : (place, bytes) ∈ resources := by
      refine hfiles.mem_iff.2 (Tree.mem_filesBelow_iff.2 ⟨parts place, ?_, ?_, hget⟩)
      · simp [parts_eq_map_segments, segments_ne_nil]
      · rw [joinParts_parts]
    cases hlast : (Shelf.putsAt place resources).getLast? with
    | none =>
      have hnone := Shelf.getLast?_putsAt_eq_none_iff.1 hlast (place, bytes) hmem
      exact (hnone (normalize?_of_normalize? hplace)).elim
    | some last =>
      obtain ⟨before, other, after, hsplit, hother, -⟩ :=
        Shelf.getLast?_putsAt_eq_some_iff.1 hlast
      have hsame := hput other last (by simp [hsplit]) hother
      rw [hget] at hsame
      cases hsame
      rfl

/-- What a directory holds as the page for a key, the shelf has. -/
theorem PageDirectory.IsPlainAt.read_ofList (h : d.IsPlainAt top)
    (hfiles : resources.Perm (d.tree.filesBelow top)) {base key text : String}
    (hbase : normalize? base = some place) (hkey : key ≠ "") (hslash : '/' ∉ key.toList)
    (hfile : d.tree.fileAt? (top ++ parts place ++ [key ++ ".html"]) = some text.toUTF8) :
    (Shelf.ofList resources).store.read base key = .ok (some text) := by
  have hpage := normalize?_page hbase hslash
  refine Store.tryPage_eq_text_iff.2
    ⟨_, path?_eq_some_iff.2 ⟨ne_empty_of_normalize? hbase, hkey, rfl⟩, ?_⟩
  rw [Shelf.find?_store]
  rw [hpage, Option.bind_some, h.getElem?_ofList hfiles hpage, parts_page hslash,
    ← List.append_assoc, hfile]
  rfl

/-- Where file paths do not reach, a directory has nothing. -/
theorem PageDirectory.IsPlainAt.read_of_not_reaches (h : d.IsPlainAt top) {base key : String}
    (hplace : placeOf? base key = some place) (hreach : ¬d.reaches place) :
    d.store.read base key = .ok none := by
  refine Store.tryPage_eq_none_iff.2 fun path hpath => ?_
  rw [placeOf?, hpath, Option.bind_some] at hplace
  rw [h.shows.find?, hplace, Option.bind_some, if_neg hreach]
  rfl

/-- **Directories and shelves are interchangeable** as far as file paths reach. A shelf that is
filled with the files of a directory without links, in any order, gives the same text, the same
fault or nothing for each base and key, and it lists the same keys below each base with a normal
form. Where paths do not reach, the directory has nothing and lists nothing. -/
theorem stores_interchangeable (h : d.IsPlainAt top)
    (hfiles : resources.Perm (d.tree.filesBelow top)) :
    let shelf := Shelf.ofList resources
    (∀ base key, (∀ place, placeOf? base key = some place → d.reaches place) →
      d.store.read base key = shelf.store.read base key) ∧
    (∀ base key place, placeOf? base key = some place → ¬d.reaches place →
      d.store.read base key = .ok none) ∧
    (∀ base place, normalize? base = some place → d.reaches place →
      (d.store.keys base).Perm (shelf.store.keys base)) ∧
    (∀ base place, normalize? base = some place → ¬d.reaches place → d.store.keys base = []) := by
  intro shelf
  have hheld : ∀ path place, normalize? path = some place →
      shelf.entries[place]? = d.tree.fileAt? (top ++ parts place) :=
    fun path place hplace => h.getElem?_ofList hfiles hplace
  refine ⟨fun base key hreach => ?_, fun base key place hplace hreach =>
    h.read_of_not_reaches hplace hreach, fun base place hbase hreach => ?_,
    fun base place hbase hreach => ?_⟩
  · refine congrArg Traced.value (Store.tryPage_congr fun path hpath => ?_)
    rw [h.shows.find?, shelf.shows.find?]
    cases hplace : normalize? path with
    | none => rfl
    | some place =>
      have hr : d.reaches place := hreach place (by rw [placeOf?, hpath, Option.bind_some, hplace])
      simp only [Option.bind_some, hr, if_true, hheld path place hplace]
  · refine (List.perm_ext_iff_of_nodup (d.nodup_keys base) (shelf.nodup_keys base)).2 fun key => ?_
    change key ∈ d.store.keys base ↔ key ∈ shelf.store.keys base
    rw [h.shows.mem_keys hbase, shelf.shows.mem_keys hbase]
    simp only [hreach, true_and, and_congr_right_iff]
    intro hkey hslash
    rw [hheld _ _ (normalize?_page hbase hslash)]
  · refine List.eq_nil_iff_forall_not_mem.2 fun key hkey => hreach ?_
    exact ((h.shows.mem_keys hbase).1 hkey).1

end Filled

/-! ## A directory and its shelf -/

/-- A page, a broken one and a directory that is named like one. -/
def mixedPages : PageDirectory where
  tree := (((Tree.empty.set ["docs"] .directory).set ["docs", "cd.html"] (.file "C".toUTF8)).set
    ["docs", "bad.html"] (.file ⟨#[0xC3, 0x28]⟩)).set ["docs", "odd.html"] .directory
  cwd := []
  root := "./"

theorem isPlainAt_mixedPages : mixedPages.IsPlainAt [] where
  proper := by
    have hdocs := Tree.isProper_empty.set [] "docs" .directory (by decide) rfl rfl
    have hpage := hdocs.set ["docs"] "cd.html" (.file "C".toUTF8) (by decide) rfl rfl
    have hbroken := hpage.set ["docs"] "bad.html" (.file ⟨#[0xC3, 0x28]⟩) (by decide) rfl rfl
    exact hbroken.set ["docs"] "odd.html" .directory (by decide) rfl rfl
  cwd := rfl
  root := by decide +kernel
  directory := rfl
  linkless := by
    have hdocs := Tree.isLinkless_empty.set [] "docs" .directory (by simp)
    have hpage := hdocs.set ["docs"] "cd.html" (.file "C".toUTF8) (by simp)
    have hbroken := hpage.set ["docs"] "bad.html" (.file ⟨#[0xC3, 0x28]⟩) (by simp)
    exact hbroken.set ["docs"] "odd.html" .directory (by simp)

theorem stores_interchangeable_mixedPages :
    let shelf := Shelf.ofList (mixedPages.tree.filesBelow [])
    mixedPages.IsPlainAt [] ∧ mixedPages.reaches "docs/bad.html" ∧ mixedPages.reaches "docs" ∧
      mixedPages.store.read "./docs//" "bad" = shelf.store.read "./docs//" "bad" ∧
      (mixedPages.store.keys "./docs//").Perm (shelf.store.keys "./docs//") := by
  intro shelf
  obtain ⟨hread, -, hkeys, -⟩ := stores_interchangeable isPlainAt_mixedPages (.refl _)
  have hbase : normalize? "./docs//" = some "docs" := by decide
  have hplace : placeOf? "./docs//" "bad" = some "docs/bad.html" := by decide
  have hpage : mixedPages.reaches "docs/bad.html" := by decide
  have hreach : mixedPages.reaches "docs" := by decide
  refine ⟨isPlainAt_mixedPages, hpage, hreach, hread _ _ fun place h => ?_, hkeys _ _ hbase hreach⟩
  rw [hplace] at h
  cases h
  exact hpage

/-- A page that lies too deep for file paths is on the shelf, but not in the directory. -/
theorem deep_page_differs :
    let shelf := Shelf.ofList (deepPages.tree.filesBelow [])
    deepPages.IsPlainAt [] ∧ deepPages.store.read deepBase deepKey = .ok none ∧
      shelf.store.read deepBase deepKey = .ok (some "E") := by
  intro shelf
  refine ⟨isPlainAt_deepPages, ?_, ?_⟩
  · exact isPlainAt_deepPages.read_of_not_reaches placeOf?_deepPage not_reaches_deepPage
  · exact isPlainAt_deepPages.read_ofList (.refl _) normalize?_deepBase deepKey_ne_empty
      slash_not_mem_deepKey fileAt?_deepPage

end ShellPages
