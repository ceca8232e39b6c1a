import ShellPages.Proofs.Page.Interchange
import ShellPages.Proofs.Resolution
import ShellPages.Report

/-!
# Listings and resolutions agree

The pages of each source are listed from the keys of the store, names are resolved by opening pages.
Where every base has a normal form and the pages are those of the program itself, or in a directory
without links, both see the same. A source documents a name exactly if it offers a text for the
trimmed name (`documents_iff_offers`): it lists the key, the name is one that it answers for, and
the page can be reached and has the text. So what resolves is listed, and what is offered resolves
to what is offered first: `listings_agree`. A page that file paths do not reach is listed all the
same (`deep_page_listed`).
-/

namespace ShellPages

open Page

/-! ## The pages of a configuration -/

namespace PageDirectory

/-- What a directory has at a place, however long the file path to it is. -/
def fileAt? (d : PageDirectory) (place : String) : Option ByteArray :=
  match d.tree.follow d.cwd d.rootPath with
  | .ok top => d.tree.fileAt? (top ++ Files.parts place)
  | .error _ => none

theorem IsPlainAt.fileAt?_eq {d : PageDirectory} {top : Files.Place} (h : d.IsPlainAt top)
    (place : String) : d.fileAt? place = d.tree.fileAt? (top ++ Files.parts place) := by
  rw [fileAt?, h.root]

end PageDirectory

namespace Config

/-- The pages of a configuration are those of the program itself, or in a directory without
links. -/
def IsPlain (c : Config) (m : Machine) : Prop :=
  ∀ root, c.docs.root? = some root → ∃ top, PageDirectory.IsPlainAt ⟨m.files, m.cwd, root⟩ top

/-- What the pages of a configuration have at a place, however long the file path to it is. -/
def fileAt? (c : Config) (m : Machine) (place : String) : Option ByteArray :=
  match c.docs.root? with
  | some root => PageDirectory.fileAt? ⟨m.files, m.cwd, root⟩ place
  | none => packShelf.entries[place]?

/-- Whether a place of the pages of a configuration can be reached. File paths have a greatest
length, the pages of the program itself have none. -/
def reaches (c : Config) (m : Machine) (place : String) : Bool :=
  match c.docs.root? with
  | some root => PageDirectory.reaches ⟨m.files, m.cwd, root⟩ place
  | none => true

variable {c : Config} {m : Machine}

/-- The store of a configuration shows what its pages have, as far as it reaches. -/
theorem IsPlain.shows (h : c.IsPlain m) : (c.store m).Shows (c.fileAt? m) (c.reaches m) := by
  cases hroot : c.docs.root? with
  | none =>
    have hfile : c.fileAt? m = fun place => packShelf.entries[place]? := by
      funext place
      rw [fileAt?, hroot]
    have hreach : c.reaches m = fun _ => true := by
      funext place
      rw [reaches, hroot]
    rw [store, hroot, hfile, hreach]
    exact packShelf.shows
  | some root =>
    obtain ⟨top, hplain⟩ := h root hroot
    have hfile : c.fileAt? m = fun place => m.files.fileAt? (top ++ Files.parts place) := by
      funext place
      rw [fileAt?, hroot]
      exact hplain.fileAt?_eq place
    have hreach : c.reaches m = PageDirectory.reaches ⟨m.files, m.cwd, root⟩ := by
      funext place
      rw [reaches, hroot]
    rw [store, hroot, hfile, hreach]
    exact hplain.shows

/-- The page for a key has a text in the store if it is in reach and has that text. -/
theorem IsPlain.find?_page_iff (h : c.IsPlain m) {base key text : String} (hbase : base ≠ "")
    (hkey : key ≠ "") : (c.store m).find? (base ++ "/" ++ key ++ ".html") =
        some (.whole text.toUTF8) ↔
      ∃ place, placeOf? base key = some place ∧ c.reaches m place ∧
        c.fileAt? m place = some text.toUTF8 := by
  rw [placeOf?, path?_eq_some_iff.2 ⟨hbase, hkey, rfl⟩, Option.bind_some, h.shows.find?,
    Option.map_eq_some_iff]
  simp only [Resource.whole.injEq, exists_eq_right, Option.bind_eq_some_iff,
    Option.ite_none_right_eq_some]

/-- What reaches a page reaches its base. -/
theorem reaches_of_reaches_append {place rest : String} (hplace : place ≠ "")
    (h : c.reaches m (place ++ rest)) : c.reaches m place := by
  rw [reaches] at h ⊢
  cases hroot : c.docs.root? with
  | none => rfl
  | some root =>
    rw [hroot] at h
    exact PageDirectory.reaches_of_reaches_append hplace h

/-! ## What a source offers -/

/-- What is listed for a source. -/
def listingOf (store : Store) (s : SourceConfig) : Listing :=
  ⟨s.name, s.base, store.keys s.base⟩

theorem getElem?_listings (c : Config) (store : Store) (j : Nat) :
    (c.listings store)[j]? = c.sources[j]?.map (listingOf store) :=
  List.getElem?_map

theorem sources_eq_askedSources (c : Config) : c.sources = c.askedSources := by
  rw [sources, askedSources]
  cases c.docs.sources with
  | nil => rfl
  | cons s rest => rfl

/-- A source with its listing offers a text for a key: the key is listed and a plain file name, it
is a builtin exactly if the source is one of builtins, and the page for it is in reach and has the
text. -/
structure Offers (c : Config) (m : Machine) (s : SourceConfig) (l : Listing) (key text : String) :
    Prop where
  listed : key ∈ l.keys
  plain : isValidKey key
  shared : isBuiltinCommand key ↔ s.kind = .builtin
  held : ∃ place, placeOf? l.base key = some place ∧ c.reaches m place ∧
    c.fileAt? m place = some text.toUTF8

/-- A text is offered for a key at a position of the listings. -/
def OffersAt (c : Config) (m : Machine) (j : Nat) (key text : String) : Prop :=
  ∃ s l, c.sources[j]? = some s ∧ (c.listings (c.store m))[j]? = some l ∧ c.Offers m s l key text

theorem offersAt_iff {j : Nat} {s : SourceConfig} (hs : c.sources[j]? = some s)
    {key text : String} :
    c.OffersAt m j key text ↔ c.Offers m s (listingOf (c.store m) s) key text := by
  simp [OffersAt, getElem?_listings, hs]

/-- **A source documents what it offers a text for**, and nothing else. -/
theorem documents_iff_offers (h : c.IsPlain m) {s : SourceConfig}
    (hbase : (normalize? s.base).isSome) {name text : String} :
    s.Documents (c.store m) .command name text ↔
      c.Offers m s (listingOf (c.store m) s) (Text.trim name) text := by
  obtain ⟨base, hnormal⟩ := Option.isSome_iff_exists.1 hbase
  have hne : s.base ≠ "" := ne_empty_of_normalize? hnormal
  constructor
  · rintro ⟨-, hname, hshared, hplain, -, hfind⟩
    obtain ⟨place, hplace, hreach, hfile⟩ := (h.find?_page_iff hne hname).1 hfind
    refine ⟨?_, hplain, hshared.symm, place, hplace, hreach, hfile⟩
    -- the page stands directly below the base, which is in reach with it
    have hslash := (isValidKey_iff.1 hplain).slash_not_mem
    have hpage := placeOf?_of_normalize? hnormal hname hslash
    rw [hplace] at hpage
    cases hpage
    refine (h.shows.mem_keys hnormal).2 ⟨?_, hname, hslash, by rw [hfile]; rfl⟩
    rw [String.append_assoc, String.append_assoc] at hreach
    have hbase : base ≠ "" := ne_empty_of_normalize? (normalize?_of_normalize? hnormal)
    exact reaches_of_reaches_append hbase hreach
  · rintro ⟨-, hplain, hshared, hheld⟩
    have hname := (isValidKey_iff.1 hplain).ne_empty
    exact ⟨rfl, hname, hshared.symm, hplain, hne, (h.find?_page_iff hne hname).2 hheld⟩

/-! ## Listings beside resolutions -/

section Agreement

variable (hplain : c.IsPlain m) (hbases : ∀ s ∈ c.sources, (normalize? s.base).isSome)
  (asWritten : Option String)

include hplain hbases

theorem documents_iff_offersAt {j : Nat} {s : SourceConfig} (hs : c.sources[j]? = some s)
    {name text : String} : s.Documents (c.store m) .command name text ↔
      c.OffersAt m j (Text.trim name) text := by
  rw [offersAt_iff hs, documents_iff_offers hplain (hbases s (List.mem_of_getElem? hs))]

/-- What a name resolves to is listed, by the source that answers. -/
theorem exists_listing_of_isFound {name : String} {r : Resolution}
    (hr : IsResolution c (c.store m) .command name r) (hfound : r.isFound) :
    ∃ (j : Nat) (l : Listing), (c.listings (c.store m))[j]? = some l ∧
      r.source = some l.source ∧ Text.trim name ∈ l.keys := by
  cases hr with
  | missing => cases hfound
  | found before after s text hsplit _ hdoc =>
    have hs : c.sources[before.length]? = some s := by simp [sources_eq_askedSources, hsplit]
    obtain ⟨_, l, _, hl, hoffer⟩ := (documents_iff_offersAt hplain hbases hs).1 hdoc
    refine ⟨before.length, l, hl, ?_, hoffer.listed⟩
    rw [getElem?_listings, hs] at hl
    cases hl
    rfl

/-- What is offered for a key resolves, to what is offered first. -/
theorem exists_first_of_offersAt {key text : String} {j : Nat} {r : Resolution}
    (hr : IsResolution c (c.store m) .command key r) (hoffer : c.OffersAt m j key text) :
    ∃ i ≤ j, ∃ (l : Listing) (first : String), (c.listings (c.store m))[i]? = some l ∧
      c.OffersAt m i key first ∧ (∀ earlier < i, ∀ other, ¬c.OffersAt m earlier key other) ∧
      r = ⟨key, .command, some l.source, some first⟩ := by
  have hdocuments : ∀ {i s other}, c.sources[i]? = some s →
      (s.Documents (c.store m) .command key other ↔ c.OffersAt m i key other) := by
    intro i s other hs
    obtain ⟨_, _, _, _, hj⟩ := hoffer
    rw [documents_iff_offersAt hplain hbases hs, (isValidKey_iff.1 hj.plain).trim_eq]
  have ⟨sj, _, hsj, _, _⟩ := hoffer
  cases hr with
  | missing hnone =>
    have hmem : sj ∈ c.askedSources := sources_eq_askedSources c ▸ List.mem_of_getElem? hsj
    exact absurd ((hdocuments hsj).2 hoffer) (hnone sj hmem text)
  | found before after s first hsplit hbefore hdoc =>
    have hs : c.sources[before.length]? = some s := by simp [sources_eq_askedSources, hsplit]
    have hearlier : ∀ earlier < before.length, ∀ other, ¬c.OffersAt m earlier key other := by
      intro earlier hlt other hother
      have ⟨s', _, hs', _, _⟩ := hother
      have hmem : s' ∈ before := by
        rw [sources_eq_askedSources, hsplit, List.getElem?_append_left hlt] at hs'
        exact List.mem_of_getElem? hs'
      rw [← sources_eq_askedSources] at hsplit
      exact hbefore s' hmem other ((hdocuments hs').2 hother)
    have hle : before.length ≤ j := Nat.le_of_not_lt fun hlt => hearlier j hlt text hoffer
    refine ⟨before.length, hle, listingOf (c.store m) s, first, ?_, (hdocuments hs).1 hdoc,
      hearlier, rfl⟩
    rw [getElem?_listings, hs]
    rfl

/-- **Listings and resolutions agree.** Over the pages of the program itself, or a directory without
links, and with bases that have normal forms: whatever is found for a name is listed, under the
trimmed name and the name of the source that answers; and a key for which a text is offered is
found, with what is offered at the first such position. -/
theorem listings_agree (names : List String) :
    let results := (c.chain.resolveNames (c.store m) .command asWritten names).value
    (∀ r ∈ results, r.isFound → ∃ (j : Nat) (l : Listing), (c.listings (c.store m))[j]? = some l ∧
      r.source = some l.source ∧ Text.trim r.name ∈ l.keys) ∧
    ∀ (n j : Nat) (key text : String), names[n]? = some key → c.OffersAt m j key text →
      ∃ i ≤ j, ∃ (l : Listing) (first : String), (c.listings (c.store m))[i]? = some l ∧
        c.OffersAt m i key first ∧ (∀ earlier < i, ∀ other, ¬c.OffersAt m earlier key other) ∧
        results[n]? = some ⟨key, .command, some l.source, some first⟩ := by
  intro results
  have hresults : results = names.map fun name =>
      (c.chain.resolveName (c.store m) .command asWritten name).value :=
    value_resolveNames c (c.store m) .command asWritten names
  have hresolves : ∀ name, IsResolution c (c.store m) .command name
      (c.chain.resolveName (c.store m) .command asWritten name).value :=
    fun name => (isResolution_iff c (c.store m) .command asWritten).2 rfl
  constructor
  · intro r hr hfound
    rw [hresults] at hr
    obtain ⟨name, -, rfl⟩ := List.mem_map.1 hr
    exact exists_listing_of_isFound hplain hbases (hresolves name) hfound
  · intro n j key text hkey hoffer
    obtain ⟨i, hij, l, first, hl, hi, hearlier, hfirst⟩ :=
      exists_first_of_offersAt hplain hbases (hresolves key) hoffer
    refine ⟨i, hij, l, first, hl, hi, hearlier, ?_⟩
    rw [hresults, List.getElem?_map, hkey, Option.map_some, hfirst]

end Agreement

/-- Three sources of the same pages, the first of which answers for no builtin. -/
def mixedConfig : Config where
  docs := { root? := some "./", sources := [⟨"other", .external, some "docs"⟩,
    ⟨"shell", .builtin, some "./docs"⟩, ⟨"again", .builtin, some "docs//."⟩] }

/-- A machine with the pages of `mixedPages`. -/
def mixedMachine : Machine where
  files := mixedPages.tree

theorem listings_agree_mixedPages :
    mixedConfig.IsPlain mixedMachine ∧
      (∀ s ∈ mixedConfig.sources, (normalize? s.base).isSome) ∧
      mixedConfig.OffersAt mixedMachine 2 "cd" "C" ∧
      ∃ i ≤ 2, ∃ (l : Listing) (first : String),
        (mixedConfig.listings (mixedConfig.store mixedMachine))[i]? = some l ∧
        mixedConfig.OffersAt mixedMachine i "cd" first ∧
        (mixedConfig.chain.resolveNames (mixedConfig.store mixedMachine) .command none
          ["bad", "cd"]).value[1]? = some ⟨"cd", .command, some l.source, some first⟩ := by
  have hplain : mixedConfig.IsPlain mixedMachine := by
    rintro _ ⟨⟩
    exact ⟨[], isPlainAt_mixedPages⟩
  have hbases : ∀ s ∈ mixedConfig.sources, (normalize? s.base).isSome := by decide
  have hbase : normalize? "docs//." = some "docs" := by decide
  have hpage : mixedConfig.fileAt? mixedMachine "docs/cd.html" = some "C".toUTF8 := by
    decide +kernel
  have hlisted : "cd" ∈ (mixedConfig.store mixedMachine).keys "docs//." :=
    (hplain.shows.mem_keys hbase).2
      ⟨by decide, by decide, by decide, Option.isSome_of_eq_some hpage⟩
  have hoffer : mixedConfig.OffersAt mixedMachine 2 "cd" "C" :=
    ⟨_, _, rfl, rfl, hlisted, by decide, by decide, "docs/cd.html", by decide, by decide, hpage⟩
  obtain ⟨-, hfirst⟩ := listings_agree hplain hbases none ["bad", "cd"]
  obtain ⟨i, hle, l, first, hl, hi, -, hresult⟩ := hfirst 1 2 "cd" "C" rfl hoffer
  exact ⟨hplain, hbases, hoffer, i, hle, l, first, hl, hi, hresult⟩

/-- A source of a page that lies too deep for file paths. -/
def deepConfig : Config where
  docs := { root? := some ".", sources := [⟨"deep", .external, some deepBase⟩] }

/-- A machine with the pages of `deepPages`. -/
def deepMachine : Machine where
  files := deepPages.tree

theorem isPlain_deepConfig : deepConfig.IsPlain deepMachine := by
  rintro _ ⟨⟩
  exact ⟨[], isPlainAt_deepPages⟩

theorem reaches_deepConfig (place : String) :
    deepConfig.reaches deepMachine place = deepPages.reaches place := rfl

theorem fileAt?_deepConfig (place : String) :
    deepConfig.fileAt? deepMachine place = deepPages.tree.fileAt? ([] ++ Files.parts place) :=
  isPlainAt_deepPages.fileAt?_eq place

theorem isPlainName_deepKey : IsPlainName deepKey := by
  refine ⟨deepKey_ne_empty, fun c hc => ?_, ?_⟩
  · rw [toList_deepKey] at hc
    rw [List.eq_of_mem_replicate hc]
    exact isKeyPart_iff.1 (by decide)
  · rw [toList_deepKey, List.replicate_succ, List.head?_cons]
    decide

theorem not_isBuiltinCommand_deepKey : ¬isBuiltinCommand deepKey := by
  have hshort : ∀ name ∈ builtinCommands, name.utf8ByteSize < 250 := by decide +kernel
  intro hbuiltin
  rw [isBuiltinCommand, List.contains_iff_mem] at hbuiltin
  have hlt := hshort deepKey hbuiltin
  rw [utf8ByteSize_deepKey] at hlt
  exact Nat.lt_irrefl _ hlt

/-- A page that lies too deep for file paths is listed, but it is not found. -/
theorem deep_page_listed :
    let store := deepConfig.store deepMachine
    deepConfig.IsPlain deepMachine ∧ (∀ s ∈ deepConfig.sources, (normalize? s.base).isSome) ∧
      (∃ s l, deepConfig.sources[0]? = some s ∧ (deepConfig.listings store)[0]? = some l ∧
        deepKey ∈ l.keys ∧ isValidKey deepKey ∧ (isBuiltinCommand deepKey ↔ s.kind = .builtin) ∧
        ∃ place, placeOf? l.base deepKey = some place ∧
          deepConfig.fileAt? deepMachine place = some "E".toUTF8) ∧
      (deepConfig.chain.resolveNames store .command none [deepKey]).value =
        [⟨deepKey, .command, none, none⟩] := by
  intro store
  have hbases : ∀ s ∈ deepConfig.sources, (normalize? s.base).isSome := by
    intro s hs
    rw [List.mem_singleton.1 hs]
    exact Option.isSome_of_eq_some normalize?_deepBase
  have hpage : deepConfig.fileAt? deepMachine (deepBase ++ "/" ++ deepKey ++ ".html") =
      some "E".toUTF8 := by
    rw [fileAt?_deepConfig, Files.parts_page slash_not_mem_deepKey, ← List.append_assoc]
    exact fileAt?_deepPage
  have hlisted : deepKey ∈ store.keys deepBase := by
    refine (isPlain_deepConfig.shows.mem_keys normalize?_deepBase).2
      ⟨?_, deepKey_ne_empty, slash_not_mem_deepKey, Option.isSome_of_eq_some hpage⟩
    rw [reaches_deepConfig]
    exact reaches_deepBase
  have hshared : isBuiltinCommand deepKey ↔ SourceKind.external = .builtin :=
    iff_of_false not_isBuiltinCommand_deepKey (by decide)
  refine ⟨isPlain_deepConfig, hbases, ⟨_, _, rfl, rfl, hlisted,
    isValidKey_iff.2 isPlainName_deepKey, hshared, _, placeOf?_deepPage, hpage⟩, ?_⟩
  have hmissing :
      IsResolution deepConfig store .command deepKey ⟨deepKey, .command, none, none⟩ := by
    refine .missing fun s hs text hdoc => ?_
    rw [← sources_eq_askedSources] at hs
    obtain ⟨-, -, -, place, hplace, hreach, -⟩ :=
      (documents_iff_offers isPlain_deepConfig (hbases s hs)).1 hdoc
    rw [List.mem_singleton.1 hs, isPlainName_deepKey.trim_eq] at hplace
    cases placeOf?_deepPage.symm.trans hplace
    exact not_reaches_deepPage hreach
  rw [value_resolveNames, List.map_singleton, (isResolution_iff _ _ _ _).1 hmissing]

end Config

end ShellPages
