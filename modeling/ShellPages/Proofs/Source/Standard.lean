import ShellPages.Page.Pack
import ShellPages.Proofs.Page.Listing
import ShellPages.Proofs.Resolution

/-!
# What the standard chain answers from the pages of the program itself

The two sources of the standard chain share the commands out, so that a text is found exactly if one
of them has it (`value_lookup_standard_eq_some_iff`). The pages of the program itself are filed as
these sources look for them: each stands below the base of a kind, under a plain name that belongs
to this kind (`pack_filed`). So what is found for a command is what is filed under its trimmed name,
and everything that is filed is found: `standard_answers_pack`.
-/

namespace ShellPages

open Page

variable {store : Store} {element : Construct} {asWritten : Option Construct} {kind : SourceKind}
  {text : String}

/-! ## The sources of the standard chain -/

/-- The source of a kind of commands in the standard chain. -/
def SourceKind.stockSource (kind : SourceKind) : Source :=
  .pages kind.name kind.base kind.policy

/-- A source of the standard chain has the text of the page under the trimmed name of a command, if
the command is of its kind and the name is plain. -/
theorem SourceKind.text?_stockSource :
    kind.stockSource.text? store element asWritten = some text ↔
      element.kind = .command ∧ (kind = .builtin ↔ isBuiltinCommand (Text.trim element.text)) ∧
        isValidKey (Text.trim element.text) ∧
        store.find? (kind.base ++ "/" ++ Text.trim element.text ++ ".html") =
          some (.whole text.toUTF8) := by
  have hbase : kind.base ≠ "" := by cases kind <;> decide
  rw [stockSource, Source.text?_stock, applies_policy]
  constructor
  · rintro ⟨⟨hcommand, -, hshared⟩, hkey, -, hfind⟩
    exact ⟨hcommand, hshared, hkey, hfind⟩
  · rintro ⟨hcommand, hshared, hkey, hfind⟩
    exact ⟨⟨hcommand, (isValidKey_iff.1 hkey).ne_empty, hshared⟩, hkey, hbase, hfind⟩

/-- The standard chain finds a text exactly if one of its sources has it. They never both do. -/
theorem Chain.value_lookup_standard_eq_some_iff {source : String} :
    (standard.lookup store element asWritten).value = some (source, text) ↔
      ∃ kind : SourceKind, source = kind.name ∧
        kind.stockSource.text? store element asWritten = some text := by
  let answer (kind : SourceKind) : Option (String × String) :=
    (kind.stockSource.text? store element asWritten).map fun text => (kind.name, text)
  have hsources : standard.sources = SourceKind.all.map SourceKind.stockSource := rfl
  have hvalue : (standard.lookup store element asWritten).value =
      SourceKind.all.findSome? answer := by
    rw [value_lookup, hsources, List.findSome?_map]
    rfl
  rw [hvalue]
  constructor
  · intro h
    obtain ⟨kind, -, hkind⟩ := List.exists_of_findSome?_eq_some h
    obtain ⟨found, hfound, heq⟩ := Option.map_eq_some_iff.1 hkind
    cases heq
    exact ⟨kind, rfl, hfound⟩
  · rintro ⟨kind, rfl, hkind⟩
    have hanswer : answer kind = some (kind.name, text) := Option.map_eq_some_iff.2 ⟨_, hkind, rfl⟩
    cases kind with
    | builtin => rw [SourceKind.all, List.findSome?_cons, hanswer]
    | external =>
      -- the source that is asked first declines what belongs to the other
      have hnone : answer .builtin = none := by
        refine Option.map_eq_none_iff.2 (Option.eq_none_iff_forall_ne_some.2 fun other hother => ?_)
        have hbuiltin := (SourceKind.text?_stockSource.1 hother).2.1.1 rfl
        cases (SourceKind.text?_stockSource.1 hkind).2.1.2 hbuiltin
      rw [SourceKind.all, List.findSome?_cons, hnone]
      exact List.findSome?_cons_of_isSome (by rw [hanswer]; rfl) |>.trans hanswer

/-! ## How the pages are filed -/

namespace Page

/-- **How the pages are filed.** Every page stands below the base of a kind of commands, under a
plain name that belongs to this kind. -/
theorem pack_filed : ∀ page ∈ pack, ∃ (kind : SourceKind) (name : String),
    page.1 = kind.base ++ "/" ++ name ++ ".html" ∧ isValidKey name ∧
      (kind = .builtin ↔ isBuiltinCommand name) := by
  have hcheck : ∀ page ∈ pack, ∃ kind ∈ SourceKind.all,
      (Shelf.keyOfPath? (kind.base ++ "/").toList page.1).any fun name =>
        isValidKey name && (kind == .builtin) == isBuiltinCommand name := by
    decide +kernel
  intro page hpage
  obtain ⟨kind, -, hkind⟩ := hcheck page hpage
  obtain ⟨name, hname, hfiled⟩ := (Option.any_eq_true _ _).1 hkind
  obtain ⟨-, -, hpath⟩ := Shelf.keyOfPath?_eq_some_iff.1 hname
  rw [Bool.and_eq_true, beq_iff_eq, Bool.eq_iff_iff (a := _ == _), beq_iff_eq] at hfiled
  refine ⟨kind, name, ?_, hfiled⟩
  rw [← String.toList_inj, hpath]
  simp

theorem nodup_pack : (pack.map Prod.fst).Nodup := by
  decide +kernel

/-- The page of a plain name below the base of a kind is in normal form. -/
theorem normalize?_filed {name : String} (hname : isValidKey name) :
    normalize? (kind.base ++ "/" ++ name ++ ".html") =
      some (kind.base ++ "/" ++ name ++ ".html") := by
  have hbase : normalize? kind.base = some kind.base := by cases kind <;> decide
  exact normalize?_page hbase (isValidKey_iff.1 hname).slash_not_mem

/-- Pages of different kinds or names are filed at different paths. -/
theorem filed_inj {other : SourceKind} {name otherName : String}
    (h : kind.base ++ "/" ++ name ++ ".html" = other.base ++ "/" ++ otherName ++ ".html") :
    kind = other ∧ name = otherName := by
  rw [← String.toList_inj] at h
  -- the bases are equally long and differ in a letter
  cases kind with
  | builtin =>
    cases other with
    | builtin => exact ⟨rfl, String.toList_inj.1 (by simpa using h)⟩
    | external => simp [SourceKind.base, Chain.builtinBase, Chain.externalBase] at h
  | external =>
    cases other with
    | builtin => simp [SourceKind.base, Chain.builtinBase, Chain.externalBase] at h
    | external => exact ⟨rfl, String.toList_inj.1 (by simpa using h)⟩

/-- The shelf of the program itself has the pages under their own paths, and nothing else. -/
theorem find?_packShelf {path : String} (h : normalize? path = some path) :
    packShelf.store.find? path = some (.whole text.toUTF8) ↔ (path, text) ∈ pack := by
  have hshelf : packShelf = .ofList (pack.map fun page => (page.1, page.2.toUTF8)) := rfl
  have hnormal : ∀ resource ∈ pack.map fun page => (page.1, page.2.toUTF8),
      normalize? resource.1 = some resource.1 := by
    intro resource hresource
    obtain ⟨page, hpage, rfl⟩ := List.mem_map.1 hresource
    obtain ⟨kind, name, hpath, hname, -⟩ := pack_filed page hpage
    rw [hpath]
    exact normalize?_filed hname
  have hnodup : ((pack.map fun page => (page.1, page.2.toUTF8)).map Prod.fst).Nodup := by
    rw [List.map_map]
    exact nodup_pack
  rw [hshelf, Shelf.find?_store, h, Option.bind_some, Option.map_eq_some_iff]
  simp only [Resource.whole.injEq, exists_eq_right]
  rw [Shelf.getElem?_ofList_eq_some_iff hnormal hnodup, List.mem_map]
  constructor
  · rintro ⟨page, hpage, heq⟩
    obtain ⟨rfl, hbytes⟩ := Prod.ext_iff.1 heq
    obtain rfl : page.2 = text := String.toByteArray_inj.1 hbytes
    exact hpage
  · intro hpage
    exact ⟨_, hpage, rfl⟩

end Page

/-! ## Pages and lookups -/

/-- A source of the standard chain has the texts that are filed below its base, each for the name
under which it is filed. -/
theorem SourceKind.text?_stockSource_pack :
    kind.stockSource.text? packShelf.store element asWritten = some text ↔
      element.kind = .command ∧
        (kind.base ++ "/" ++ Text.trim element.text ++ ".html", text) ∈ pack := by
  rw [text?_stockSource]
  constructor
  · rintro ⟨hcommand, -, hkey, hfind⟩
    exact ⟨hcommand, (find?_packShelf (normalize?_filed hkey)).1 hfind⟩
  · rintro ⟨hcommand, hpage⟩
    obtain ⟨other, name, hpath, hname, hshared⟩ := pack_filed _ hpage
    obtain ⟨rfl, rfl⟩ := filed_inj hpath
    exact ⟨hcommand, hshared, hname, (find?_packShelf (normalize?_filed hname)).2 hpage⟩

/-- **The pages of the program itself are what the standard chain answers.** A text is found for a
construct exactly if this is a command and the text is filed under its trimmed name, with the
builtins or with the other commands. Every page is found under the name of its file. -/
theorem Chain.standard_answers_pack :
    (∀ element asWritten source text,
      (standard.lookup packShelf.store element asWritten).value = some (source, text) ↔
        element.kind = .command ∧
          (("documentation/internal" ++ "/" ++ Text.trim element.text ++ ".html", text) ∈ pack ∧
              source = "builtin" ∨
            ("documentation/external" ++ "/" ++ Text.trim element.text ++ ".html", text) ∈ pack ∧
              source = "external")) ∧
    ∀ path text, (path, text) ∈ pack → ∃ (kind : SourceKind) (name : String),
      path = kind.base ++ "/" ++ name ++ ".html" ∧ ∀ asWritten,
        (standard.lookup packShelf.store (.command name) asWritten).value =
          some (kind.name, text) := by
  refine ⟨fun element asWritten source text => ?_, fun path text hpage => ?_⟩
  · rw [value_lookup_standard_eq_some_iff]
    constructor
    · rintro ⟨kind, rfl, hkind⟩
      obtain ⟨hcommand, hpage⟩ := SourceKind.text?_stockSource_pack.1 hkind
      cases kind with
      | builtin => exact ⟨hcommand, .inl ⟨hpage, rfl⟩⟩
      | external => exact ⟨hcommand, .inr ⟨hpage, rfl⟩⟩
    · rintro ⟨hcommand, ⟨hpage, rfl⟩ | ⟨hpage, rfl⟩⟩
      · exact ⟨.builtin, rfl, SourceKind.text?_stockSource_pack.2 ⟨hcommand, hpage⟩⟩
      · exact ⟨.external, rfl, SourceKind.text?_stockSource_pack.2 ⟨hcommand, hpage⟩⟩
  · obtain ⟨kind, name, rfl, hname, -⟩ := pack_filed _ hpage
    have htrim : Text.trim name = name := (isValidKey_iff.1 hname).trim_eq
    refine ⟨kind, name, rfl, fun asWritten => value_lookup_standard_eq_some_iff.2 ⟨kind, rfl, ?_⟩⟩
    refine SourceKind.text?_stockSource_pack.2 ⟨rfl, ?_⟩
    rwa [Construct.command, Construct.ofText, htrim]

end ShellPages
