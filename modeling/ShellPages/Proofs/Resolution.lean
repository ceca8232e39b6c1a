import ShellPages.Config.Discovery
import ShellPages.Proofs.Source.Confinement
import ShellPages.Source.Summary

/-!
# What a configuration resolves names to

A source of a configuration documents a name with a text if it answers for the command that the
name is, the name is plain, and the store has the text as a page below the base of the source
(`SourceConfig.Documents`). A name resolves to the first source that documents it, and to nothing
if there is none (`IsResolution`). The main statement, `resolveNames_exact`, has this for every
configuration, store and list of names, and says what the store of a configuration has.
-/

namespace ShellPages

/-! ## What a configuration selects -/

namespace Config

/-- The sources that are asked for want of others. -/
def stockSources : List SourceConfig :=
  [⟨"builtin", .builtin, none⟩, ⟨"external", .external, none⟩]

/-- The sources that are asked for a name, in order. -/
def askedSources (c : Config) : List SourceConfig :=
  if c.docs.sources = [] then stockSources else c.docs.sources

/-- The bytes at a place of the pages that a configuration selects: those of the regular file there
below its root, or those of a page of the program itself. -/
def bytesAt? (c : Config) (m : Machine) (place : String) : Option ByteArray :=
  match c.docs.root? with
  | some root => m.files.file? m.cwd (Files.join root place)
  | none => Page.packShelf.entries[place]?

theorem sources_chain (c : Config) :
    c.chain.sources = c.askedSources.map SourceConfig.toSource := by
  rw [chain, askedSources]
  cases c.docs.sources with
  | nil => rfl
  | cons source rest => rfl

/-- The store of a configuration has what is at the normal form of a path, as a whole. -/
theorem find?_store (c : Config) (m : Machine) (path : String) :
    (c.store m).find? path = ((Page.normalize? path).bind (c.bytesAt? m)).map .whole := by
  unfold store bytesAt?
  cases c.docs.root? with
  | none => rfl
  | some root => rfl

theorem find?_store_eq_whole_iff {c : Config} {m : Machine} {path : String} {bytes : ByteArray} :
    (c.store m).find? path = some (.whole bytes) ↔
      ∃ place, Page.normalize? path = some place ∧ c.bytesAt? m place = some bytes := by
  rw [find?_store, Option.map_eq_some_iff]
  simp only [Resource.whole.injEq, exists_eq_right, Option.bind_eq_some_iff]

end Config

/-! ## Which source documents a name -/

theorem not_isBuiltinCommand_empty : ¬isBuiltinCommand "" := by
  decide

/-- The stock policies answer for commands with a name; which of them does is a matter of whether
the shell implements the command itself. -/
theorem SourceKind.applies_policy (kind : SourceKind) {element : Construct}
    {asWritten : Option Construct} :
    kind.policy.applies element asWritten ↔ element.kind = .command ∧ Text.trim element.text ≠ "" ∧
      (kind = .builtin ↔ isBuiltinCommand (Text.trim element.text)) := by
  cases kind with
  | builtin =>
    simp only [policy, Policy.builtin, Construct.isCommand, Bool.and_eq_true, beq_iff_eq, true_iff]
    refine and_congr_right fun _ => (and_iff_right_of_imp fun hb he => ?_).symm
    rw [he] at hb
    exact not_isBuiltinCommand_empty hb
  | external =>
    simp [policy, Policy.external, Construct.isCommand, and_assoc]

/-- A source of a configuration documents a name with a text. -/
structure SourceConfig.Documents (s : SourceConfig) (store : Store) (kind : Kind)
    (name text : String) : Prop where
  command : kind = .command
  named : Text.trim name ≠ ""
  shared : s.kind = .builtin ↔ isBuiltinCommand (Text.trim name)
  plain : isValidKey (Text.trim name)
  based : s.base ≠ ""
  held : store.find? (s.base ++ "/" ++ Text.trim name ++ ".html") = some (.whole text.toUTF8)

/-- A described source has the text with which it documents a name. -/
theorem SourceConfig.text?_toSource {s : SourceConfig} {store : Store} {kind : Kind}
    {name text : String} {asWritten : Option Construct} :
    s.toSource.text? store (.ofText kind name) asWritten = some text ↔
      s.Documents store kind name text := by
  rw [toSource, Source.text?_stock, SourceKind.applies_policy]
  constructor
  · rintro ⟨⟨hk, hn, hs⟩, hp, hb, hf⟩
    exact ⟨hk, hn, hs, hp, hb, hf⟩
  · rintro ⟨hk, hn, hs, hp, hb, hf⟩
    exact ⟨⟨hk, hn, hs⟩, hp, hb, hf⟩

/-! ## What a name resolves to -/

/-- What a name resolves to: the name and the text of the first source that documents it, or
neither if there is none. -/
inductive IsResolution (c : Config) (store : Store) (kind : Kind) (name : String) :
    Resolution → Prop
  | found (before after : List SourceConfig) (s : SourceConfig) (text : String)
    (hsplit : c.askedSources = before ++ s :: after)
    (hbefore : ∀ earlier ∈ before, ∀ other, ¬earlier.Documents store kind name other)
    (hdoc : s.Documents store kind name text) :
    IsResolution c store kind name ⟨name, kind, some s.name, some text⟩
  | missing (h : ∀ s ∈ c.askedSources, ∀ text, ¬s.Documents store kind name text) :
    IsResolution c store kind name ⟨name, kind, none, none⟩

namespace Config

variable (c : Config) (store : Store) (kind : Kind) (asWritten : Option String)

/-- The text of a name in a source of a configuration. -/
def textIn? (name : String) (s : SourceConfig) : Option String :=
  s.toSource.text? store (.ofText kind name) (asWritten.map (.ofText kind))

/-- The name of the first source that has a text, with that text. -/
def firstText? (name : String) : Option (String × String) :=
  c.askedSources.findSome? fun s =>
    (textIn? store kind asWritten name s).map fun text => (s.name, text)

variable {c store kind asWritten} {name : String}

theorem textIn?_eq_none_iff {s : SourceConfig} :
    textIn? store kind asWritten name s = none ↔
      ∀ text, ¬s.Documents store kind name text := by
  simp only [Option.eq_none_iff_forall_ne_some, textIn?, ne_eq, SourceConfig.text?_toSource]

theorem firstText?_eq_none_iff : c.firstText? store kind asWritten name = none ↔
    ∀ s ∈ c.askedSources, ∀ text, ¬s.Documents store kind name text := by
  simp only [firstText?, List.findSome?_eq_none_iff, Option.map_eq_none_iff, textIn?_eq_none_iff]

/-- A text is first if its source documents the name and none before that source does. -/
theorem firstText?_eq_some_iff {answer : String × String} :
    c.firstText? store kind asWritten name = some answer ↔
      ∃ before s after, c.askedSources = before ++ s :: after ∧
        (∀ earlier ∈ before, ∀ other, ¬earlier.Documents store kind name other) ∧
        s.Documents store kind name answer.2 ∧ answer.1 = s.name := by
  have hhere (s : SourceConfig) :
      ((textIn? store kind asWritten name s).map fun text => (s.name, text)) = some answer ↔
        s.Documents store kind name answer.2 ∧ answer.1 = s.name := by
    simp only [Option.map_eq_some_iff, textIn?, SourceConfig.text?_toSource]
    constructor
    · rintro ⟨text, hdoc, rfl⟩
      exact ⟨hdoc, rfl⟩
    · rintro ⟨hdoc, hname⟩
      exact ⟨answer.2, hdoc, Prod.ext hname.symm rfl⟩
  simp only [firstText?, List.findSome?_eq_some_iff, hhere, Option.map_eq_none_iff,
    textIn?_eq_none_iff]
  constructor
  · rintro ⟨before, s, after, hsplit, ⟨hdoc, hname⟩, hbefore⟩
    exact ⟨before, s, after, hsplit, hbefore, hdoc, hname⟩
  · rintro ⟨before, s, after, hsplit, hbefore, hdoc, hname⟩
    exact ⟨before, s, after, hsplit, ⟨hdoc, hname⟩, hbefore⟩

variable (c store kind asWritten)

theorem value_resolveName (name : String) :
    (c.chain.resolveName store kind asWritten name).value =
      ⟨name, kind, (c.firstText? store kind asWritten name).map Prod.fst,
        (c.firstText? store kind asWritten name).map Prod.snd⟩ := by
  simp only [Chain.resolveName, Traced.value_bind, Traced.value_pure, Chain.value_lookup,
    sources_chain, List.findSome?_map]
  rfl

/-- A name resolves to what is listed, and to nothing else. -/
theorem isResolution_iff {r : Resolution} :
    IsResolution c store kind name r ↔
      (c.chain.resolveName store kind asWritten name).value = r := by
  rw [value_resolveName]
  constructor
  · intro h
    cases h with
    | found before after s text hsplit hbefore hdoc =>
      have hfirst : c.firstText? store kind asWritten name = some (s.name, text) :=
        firstText?_eq_some_iff.2 ⟨before, s, after, hsplit, hbefore, hdoc, rfl⟩
      rw [hfirst]
      rfl
    | missing hnone =>
      rw [firstText?_eq_none_iff.2 hnone]
      rfl
  · rintro rfl
    cases hfirst : c.firstText? store kind asWritten name with
    | none => exact .missing (firstText?_eq_none_iff.1 hfirst)
    | some answer =>
      obtain ⟨before, s, after, hsplit, hbefore, hdoc, hname⟩ := firstText?_eq_some_iff.1 hfirst
      rw [Option.map_some, Option.map_some, hname]
      exact .found before after s answer.2 hsplit hbefore hdoc

theorem value_resolveNames (names : List String) :
    (c.chain.resolveNames store kind asWritten names).value =
      names.map fun name => (c.chain.resolveName store kind asWritten name).value := by
  induction names with
  | nil => rfl
  | cons name rest ih =>
    simp only [Chain.resolveNames, Traced.value_bind, Traced.value_pure, ih, List.map_cons]

/-- **What names resolve to.** Whatever the store is, names resolve one by one and in order to what
`IsResolution` says of them, which leaves no choice. How the names were written changes nothing.
The store of a configuration has exactly the bytes at the normal form of a path, as a whole. -/
theorem resolveNames_exact :
    (∀ names results, (c.chain.resolveNames store kind asWritten names).value = results ↔
      List.Forall₂ (IsResolution c store kind) names results) ∧
    (∀ names other, (c.chain.resolveNames store kind other names).value =
      (c.chain.resolveNames store kind asWritten names).value) ∧
    ∀ m path bytes, (c.store m).find? path = some (.whole bytes) ↔
      ∃ place, Page.normalize? path = some place ∧ c.bytesAt? m place = some bytes := by
  have hvalue (other : Option String) (names : List String) (results : List Resolution) :
      (c.chain.resolveNames store kind other names).value = results ↔
        List.Forall₂ (IsResolution c store kind) names results := by
    rw [value_resolveNames, ← List.forall₂_eq_eq_eq, List.forall₂_map_left_iff]
    simp only [← isResolution_iff]
  refine ⟨hvalue asWritten, fun names other => ?_, fun m path bytes => find?_store_eq_whole_iff⟩
  exact (hvalue other names _).2 ((hvalue asWritten names _).1 rfl)

end Config

end ShellPages
