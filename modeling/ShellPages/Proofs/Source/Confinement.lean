import ShellPages.Config
import ShellPages.Proofs.Source.Lookup

/-!
# Pages of commands stay below their base

The stock policies give a command the key of its trimmed name, and only if that is a plain file
name (`isValidKey_iff`). A plain name with the ending of pages is one ordinary segment, whatever
the name is made of (`IsPlainName.fileName`). So a source of commands looks at no more than one
path, and that path is one segment below the base: `page_confined`.
-/

namespace ShellPages

/-! ## Plain names -/

/-- The characters of plain names: ASCII letters and digits, and four signs. -/
def IsPlainChar (c : Char) : Prop :=
  ('A' ≤ c ∧ c ≤ 'Z') ∨ ('a' ≤ c ∧ c ≤ 'z') ∨ ('0' ≤ c ∧ c ≤ '9') ∨
    c = '_' ∨ c = '+' ∨ c = '-' ∨ c = '.'

/-- A name that is a plain file name: plain characters without a dot in front. -/
structure IsPlainName (name : String) : Prop where
  ne_empty : name ≠ ""
  plain : ∀ c ∈ name.toList, IsPlainChar c
  not_hidden : name.toList.head? ≠ some '.'

theorem isAlphanum_iff {c : Char} : c.isAlphanum ↔
    ('A' ≤ c ∧ c ≤ 'Z') ∨ ('a' ≤ c ∧ c ≤ 'z') ∨ ('0' ≤ c ∧ c ≤ '9') := by
  have hupper : c.isUpper ↔ 'A' ≤ c ∧ c ≤ 'Z' := decide_eq_true_iff
  have hlower : c.isLower ↔ 'a' ≤ c ∧ c ≤ 'z' :=
    Bool.and_eq_true_iff.trans (and_congr decide_eq_true_iff decide_eq_true_iff)
  have hdigit : c.isDigit ↔ '0' ≤ c ∧ c ≤ '9' :=
    Bool.and_eq_true_iff.trans (and_congr decide_eq_true_iff decide_eq_true_iff)
  change (c.isUpper || c.isLower || c.isDigit) ↔ _
  rw [Bool.or_eq_true, Bool.or_eq_true, hupper, hlower, hdigit, or_assoc]

theorem isKeyPart_iff {c : Char} : isKeyPart c ↔ IsPlainChar c := by
  simp only [isKeyPart, isKeyStart, Bool.or_eq_true, beq_iff_eq, isAlphanum_iff, IsPlainChar,
    or_assoc]

theorem isKeyStart_iff {c : Char} : isKeyStart c ↔ IsPlainChar c ∧ c ≠ '.' := by
  constructor
  · intro h
    refine ⟨isKeyPart_iff.1 (by simp [isKeyPart, h]), ?_⟩
    rintro rfl
    exact absurd h (by decide)
  · rintro ⟨hc, hdot⟩
    simpa [isKeyPart, hdot] using isKeyPart_iff.2 hc

/-- **Valid keys are the plain names.** -/
theorem isValidKey_iff {key : String} : isValidKey key ↔ IsPlainName key := by
  unfold isValidKey
  cases h : key.toList with
  | nil =>
    have hempty : key = "" := String.toList_inj.1 h
    exact ⟨fun hf => absurd hf Bool.false_ne_true, fun hp => absurd hempty hp.ne_empty⟩
  | cons c rest =>
    have hne : key ≠ "" := by
      rintro rfl
      cases h
    simp only [Bool.and_eq_true, List.all_eq_true, isKeyPart_iff, isKeyStart_iff]
    constructor
    · rintro ⟨⟨hc, hdot⟩, hrest⟩
      refine ⟨hne, ?_, ?_⟩
      · rw [h]
        exact List.forall_mem_cons.2 ⟨hc, hrest⟩
      · simpa [h] using hdot
    · rintro ⟨-, hplain, hdot⟩
      rw [h] at hplain hdot
      obtain ⟨hc, hrest⟩ := List.forall_mem_cons.1 hplain
      exact ⟨⟨hc, by simpa using hdot⟩, hrest⟩

theorem not_isPlainChar_slash : ¬IsPlainChar '/' := by
  unfold IsPlainChar
  decide

theorem IsPlainName.slash_not_mem {name : String} (h : IsPlainName name) : '/' ∉ name.toList :=
  fun hmem => not_isPlainChar_slash (h.plain '/' hmem)

theorem IsPlainChar.not_isBlank {c : Char} (h : IsPlainChar c) : ¬Text.isBlank c := by
  -- plain characters are printable ones of ASCII
  have hprintable : 0x20 < c.toNat ∧ c.toNat < 0x80 := by
    have hle : ∀ first last : Char, first ≤ c ∧ c ≤ last →
        first.toNat ≤ c.toNat ∧ c.toNat ≤ last.toNat := fun _ _ hc => hc
    rcases h with h | h | h | rfl | rfl | rfl | rfl
    · have hc := hle 'A' 'Z' h
      exact ⟨Nat.lt_of_lt_of_le (by decide) hc.1, Nat.lt_of_le_of_lt hc.2 (by decide)⟩
    · have hc := hle 'a' 'z' h
      exact ⟨Nat.lt_of_lt_of_le (by decide) hc.1, Nat.lt_of_le_of_lt hc.2 (by decide)⟩
    · have hc := hle '0' '9' h
      exact ⟨Nat.lt_of_lt_of_le (by decide) hc.1, Nat.lt_of_le_of_lt hc.2 (by decide)⟩
    all_goals decide
  simp only [Text.isBlank, Bool.or_eq_true, Bool.and_eq_true, decide_eq_true_eq, beq_iff_eq]
  omega

/-- A plain name has no blanks around it. -/
theorem IsPlainName.trim_eq {name : String} (h : IsPlainName name) : Text.trim name = name :=
  Text.trim_eq_self fun c hc => (h.plain c hc).not_isBlank

/-- The name of a page is a single ordinary segment, and not the one that leads to the parent. -/
theorem IsPlainName.fileName {key : String} (h : IsPlainName key) :
    '/' ∉ (key ++ ".html").toList ∧ Page.isOrdinary (key ++ ".html").toList ∧
      (key ++ ".html").toList ≠ Page.parentSegment := by
  have hlist : (key ++ ".html").toList = key.toList ++ Page.ending.toList := String.toList_append
  rw [hlist]
  refine ⟨?_, Page.isOrdinary_append_ending _, Page.append_ending_ne_parentSegment _⟩
  rw [List.mem_append]
  rintro (hk | hk)
  · exact not_isPlainChar_slash (h.plain '/' hk)
  · exact absurd hk (by decide)

/-! ## The stock policies -/

variable {element : Construct} {asWritten : Option Construct}

/-- Both stock policies have the same keys. -/
theorem SourceKind.key?_policy (kind : SourceKind) :
    kind.policy.key? element =
      if isValidKey (Text.trim element.text) then some (Text.trim element.text) else none := by
  cases kind <;> simp only [SourceKind.policy, Policy.builtin, Policy.external, commandKey?]

/-- A source of commands looks at the page under the trimmed name, if it answers for the command
and the name is plain. -/
theorem Source.pagePath?_stock (kind : SourceKind) (name base : String) :
    (pages name base kind.policy).pagePath? element asWritten =
      if kind.policy.applies element asWritten ∧ isValidKey (Text.trim element.text) ∧ base ≠ ""
      then some (base ++ "/" ++ Text.trim element.text ++ ".html") else none := by
  rw [pagePath?, kind.key?_policy]
  by_cases hkey : isValidKey (Text.trim element.text)
  · have hne := (isValidKey_iff.1 hkey).ne_empty
    simp [hkey, hne]
  · simp [hkey]

/-- The text of a source of commands is that of the page it looks at. -/
theorem Source.text?_stock (store : Store) (kind : SourceKind) (name base : String)
    {text : String} :
    (pages name base kind.policy).text? store element asWritten = some text ↔
      kind.policy.applies element asWritten ∧ isValidKey (Text.trim element.text) ∧ base ≠ "" ∧
        store.find? (base ++ "/" ++ Text.trim element.text ++ ".html") =
          some (.whole text.toUTF8) := by
  have hown : (pages name base kind.policy).text? store element asWritten =
      (((pages name base kind.policy).pagePath? element asWritten).bind store.find?).bind
        Resource.text? := by
    simp [text?, listing, ownText?]
  rw [hown, pagePath?_stock]
  simp only [Option.bind_eq_some_iff, Option.ite_none_right_eq_some, Option.some.injEq,
    Resource.text?_eq_some_iff]
  constructor
  · rintro ⟨_, ⟨_, ⟨⟨ha, hkey, hbase⟩, rfl⟩, hfind⟩, rfl⟩
    exact ⟨ha, hkey, hbase, hfind⟩
  · rintro ⟨ha, hkey, hbase, hfind⟩
    exact ⟨_, ⟨_, ⟨⟨ha, hkey, hbase⟩, rfl⟩, hfind⟩, rfl⟩

theorem Source.paths_ask_pages (store : Store) (place : List Nat) (name base : String)
    (policy : Policy) : (ask store element asWritten place (pages name base policy)).paths =
      ((pages name base policy).pagePath? element asWritten).toList := by
  rw [ask, Traced.paths_bind, paths_findPage name]
  rfl

/-- **Confinement.** A source of commands below a base with a normal form opens one path at most:
that of the page under the trimmed name, which is a plain name then, one segment below the normal
form of the base. It opens that path exactly if it answers for the command and the name is
plain. -/
theorem page_confined (store : Store) (kind : SourceKind) (name : String) {base place : String}
    (hbase : Page.normalize? base = some place) (element : Construct)
    (asWritten : Option Construct) (position : List Nat) :
    let asked := Source.ask store element asWritten position (.pages name base kind.policy)
    let key := Text.trim element.text
    asked.paths.length ≤ 1 ∧
    (∀ path ∈ asked.paths, path = base ++ "/" ++ key ++ ".html" ∧ IsPlainName key ∧
      Page.normalize? path = some (place ++ "/" ++ key ++ ".html") ∧
      Page.segments (place ++ "/" ++ key ++ ".html") =
        Page.segments place ++ [(key ++ ".html").toList]) ∧
    (¬kind.policy.applies element asWritten → asked.paths = []) ∧
    (¬IsPlainName key → asked.paths = []) ∧
    (kind.policy.applies element asWritten → IsPlainName key →
      asked.paths = [base ++ "/" ++ key ++ ".html"]) := by
  intro asked key
  have hpaths : asked.paths = ((Source.pages name base kind.policy).pagePath? element
      asWritten).toList := Source.paths_ask_pages store position name base kind.policy
  have hne : base ≠ "" := Page.ne_empty_of_normalize? hbase
  refine ⟨?_, fun path hpath => ?_, fun ha => ?_, fun hkey => ?_, fun ha hkey => ?_⟩
  · rw [hpaths]
    exact Option.length_toList_le
  · rw [hpaths, Option.mem_toList, Source.pagePath?_stock, Option.ite_none_right_eq_some] at hpath
    obtain ⟨⟨-, hvalid, -⟩, hpath⟩ := hpath
    have hkey : IsPlainName key := isValidKey_iff.1 hvalid
    obtain ⟨hslash, hordinary, hparent⟩ := hkey.fileName
    obtain ⟨hnormal, hsegments⟩ := Page.normalize?_glue_name hbase hslash hordinary hparent
    rw [← String.append_assoc, ← String.append_assoc] at hnormal
    rw [← String.append_assoc] at hsegments
    cases hpath
    exact ⟨rfl, hkey, hnormal, hsegments⟩
  · rw [hpaths, Source.pagePath?_stock, if_neg fun h => ha h.1]
    rfl
  · rw [hpaths, Source.pagePath?_stock, if_neg fun h => hkey (isValidKey_iff.1 h.2.1)]
    rfl
  · rw [hpaths, Source.pagePath?_stock, if_pos ⟨ha, isValidKey_iff.2 hkey, hne⟩]
    rfl

theorem page_confined_between_blanks :
    let asked := Source.ask (.everywhere (.closed "busy")) (.command "\u3000g++\n") none []
      (.pages "tools" "./docs//" SourceKind.external.policy)
    Page.normalize? "./docs//" = some "docs" ∧ asked.paths = ["./docs///g++.html"] ∧
      ∀ path ∈ asked.paths, Page.normalize? path = some "docs/g++.html" := by
  have hbase : Page.normalize? "./docs//" = some "docs" := by decide
  obtain ⟨-, hpath, -, -, hopened⟩ := page_confined (.everywhere (.closed "busy")) .external "tools"
    hbase (.command "\u3000g++\n") none []
  have hkey : Text.trim "\u3000g++\n" = "g++" := by decide
  refine ⟨hbase, hopened (by decide) (isValidKey_iff.1 (by decide)), fun path hp => ?_⟩
  exact (hpath path hp).2.2.1

end ShellPages
