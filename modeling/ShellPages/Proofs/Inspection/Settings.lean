import Mathlib.Data.List.Basic
import ShellPages.Inspection

/-!
# What the switched-off patterns leave switched on

Every id is a pattern, so a text that is no pattern is never an id, and reading the texts for an id
collects their patterns and never ends before (`foldlM_addPattern?`). So an inspection is switched
off exactly if a pattern matches its id, and, where a pattern is too deep, exactly if its id is
among the texts (`disables_iff_of_builds`, `disables_iff_of_not_builds`). What a text does then does
not depend on the others, as long as the patterns of all of them can be matched together: the
texts of two lists leave what each of the lists leaves (`disabled_texts_combine`).
-/

namespace ShellPages

/-! ## Ids as patterns -/

namespace Glob

/-- Whether a character has no meaning in patterns. -/
def isOrdinary (c : Char) : Bool :=
  !List.contains ['?', '*', '[', '\x7b', '\x7d', ',', '\\'] c

theorem State.readPattern_of_isOrdinary {c : Char} (h : isOrdinary c) (s : State)
    (rest : List Char) : s.readPattern c rest = .ok (s.push (.literal c)) := by
  unfold readPattern
  split <;> first | rfl | exact absurd h (by decide)

theorem State.read_of_readPattern {s next : State} {c : Char} {rest : List Char}
    (hmode : s.mode = .pattern) (h : s.readPattern c rest = .ok next) :
    s.read c rest = .ok { next with last := some c } := by
  rw [read, hmode]
  simp only [h]
  rfl

/-- What is left of a text of characters without a meaning stands for itself. -/
theorem parseFrom_of_forall_isOrdinary {text : List Char} (h : ∀ c ∈ text, isOrdinary c)
    {s : State} (hmode : s.mode = .pattern) (hgroups : s.groups = []) :
    parseFrom s text = .ok (s.tokens.reverse ++ text.map .literal) := by
  induction text generalizing s with
  | nil => simp [parseFrom, State.finish, hmode, hgroups]
  | cons c rest ih =>
    obtain ⟨hc, hrest⟩ := List.forall_mem_cons.1 h
    have hread := State.read_of_readPattern hmode (s.readPattern_of_isOrdinary hc rest)
    rw [parseFrom, hread]
    refine (ih hrest (s := { s.push (.literal c) with last := some c }) hmode hgroups).trans ?_
    simp [State.push]

/-- A text of characters without a meaning is a pattern, which stands for the text. -/
theorem parse_of_forall_isOrdinary {text : String} (h : ∀ c ∈ text.toList, isOrdinary c) :
    parse text = .ok (text.toList.map .literal) :=
  parseFrom_of_forall_isOrdinary h rfl rfl

end Glob

namespace Inspection

theorem mem_all (i : Inspection) : i ∈ all := by
  cases i <;> decide

theorem nodup_all : all.Nodup := by
  decide

/-- The ids consist of characters without a meaning in patterns. -/
theorem all_isOrdinary_id (i : Inspection) : i.id.toList.all Glob.isOrdinary := by
  cases i <;> decide +kernel

/-- The id of an inspection is a pattern, which stands for the id. -/
theorem parse_id (i : Inspection) : Glob.parse i.id = .ok (i.id.toList.map .literal) :=
  Glob.parse_of_forall_isOrdinary (List.all_eq_true.1 i.all_isOrdinary_id)

end Inspection

namespace InspectionSettings

open Glob

variable {texts others : List String} {text : String} {i : Inspection}

/-! ## Texts and their patterns -/

/-- The pattern that a text is. -/
def pattern? (text : String) : Option (List Token) :=
  (parse text).toOption

/-- Whether a text is a pattern. -/
def isPattern (text : String) : Bool :=
  (pattern? text).isSome

/-- The patterns among some texts. -/
def patterns (texts : List String) : List (List Token) :=
  texts.filterMap pattern?

/-- Whether the patterns among some texts can be matched together. -/
def Builds (texts : List String) : Prop :=
  (PatternSet.ofList? (patterns texts)).isSome

instance (texts : List String) : Decidable (Builds texts) :=
  inferInstanceAs (Decidable (_ = true))

/-- Whether a text is a pattern that matches an id. -/
def selects (text id : String) : Bool :=
  (pattern? text).any fun tokens => isMatch tokens id.toList

/-- Patterns can be matched together exactly if each of them can be matched. -/
theorem builds_iff :
    Builds texts ↔ ∀ text ∈ texts, ∀ tokens, pattern? text = some tokens → isShallow tokens := by
  rw [Builds, PatternSet.isSome_ofList?_iff]
  constructor
  · intro h text hmem tokens htokens
    exact h tokens (List.mem_filterMap.2 ⟨text, hmem, htokens⟩)
  · intro h tokens htokens
    obtain ⟨text, hmem, htext⟩ := List.mem_filterMap.1 htokens
    exact h text hmem tokens htext

theorem Builds.of_subset (h : Builds others) (hsub : texts ⊆ others) : Builds texts :=
  builds_iff.2 fun text hmem => builds_iff.1 h text (hsub hmem)

theorem patterns_filter_isPattern : patterns (texts.filter isPattern) = patterns texts := by
  rw [patterns, patterns, List.filterMap_filter]
  refine List.filterMap_congr fun text _ => ?_
  rw [isPattern]
  cases pattern? text <;> rfl

theorem any_isMatch_patterns {id : String} :
    ((patterns texts).any fun tokens => isMatch tokens id.toList) =
      texts.any fun text => selects text id :=
  List.any_filterMap

/-! ## Reading the texts -/

/-- A text that is no pattern is not an id. -/
theorem ne_id_of_parse_eq_error {fault : Fault} (h : parse text = .error fault) :
    text ≠ i.id := by
  rintro rfl
  rw [i.parse_id] at h
  cases h

/-- One more text adds its pattern, if it is one. -/
theorem addPattern?_eq (read : List (List Token)) :
    addPattern? i.id read text = some (read ++ patterns [text]) := by
  rw [addPattern?, patterns, List.filterMap_cons, pattern?]
  cases hparse : parse text with
  | ok tokens => rfl
  | error fault =>
    have hid : (text == i.id) = false := beq_false_of_ne (ne_id_of_parse_eq_error hparse)
    simp only [hid, Except.toOption, List.filterMap_nil, List.append_nil]
    rfl

/-- Reading all texts collects their patterns, in order. -/
theorem foldlM_addPattern? (read : List (List Token)) :
    texts.foldlM (addPattern? i.id) read = some (read ++ patterns texts) := by
  induction texts generalizing read with
  | nil => rw [patterns, List.filterMap_nil, List.append_nil]; rfl
  | cons text rest ih =>
    have hcons : patterns (text :: rest) = patterns [text] ++ patterns rest :=
      List.filterMap_append (l := [text])
    rw [List.foldlM_cons, addPattern?_eq, Option.bind_eq_bind, Option.bind_some, ih, hcons,
      List.append_assoc]

/-! ## What is switched off -/

theorem disables_eq :
    disables ⟨texts⟩ i =
      match PatternSet.ofList? (patterns texts) with
      | some set => set.isMatch i.id.toList
      | none => texts.contains i.id := by
  rw [disables, foldlM_addPattern?, List.nil_append]
  cases texts with
  | nil => rfl
  | cons text rest => rfl

/-- Patterns that can be matched together switch off what one of them matches. -/
theorem disables_iff_of_builds (h : Builds texts) :
    disables ⟨texts⟩ i ↔ ∃ text ∈ texts, selects text i.id := by
  obtain ⟨set, hset⟩ := Option.isSome_iff_exists.1 h
  rw [disables_eq, hset, ← List.any_eq_true, ← any_isMatch_patterns,
    ← PatternSet.patterns_of_ofList?_eq_some hset]
  rfl

/-- Patterns of which one is too deep switch off the ids among the texts. -/
theorem disables_iff_of_not_builds (h : ¬Builds texts) :
    disables ⟨texts⟩ i ↔ i.id ∈ texts := by
  rw [disables_eq, Option.not_isSome_iff_eq_none.1 h, List.contains_iff_mem]

/-- What is switched off depends only on which texts there are. -/
theorem disables_congr (h : ∀ text, text ∈ texts ↔ text ∈ others) :
    disables ⟨texts⟩ i = disables ⟨others⟩ i := by
  rw [Bool.eq_iff_iff]
  by_cases hbuilds : Builds texts
  · have hothers : Builds others := hbuilds.of_subset fun text => (h text).2
    rw [disables_iff_of_builds hbuilds, disables_iff_of_builds hothers]
    simp only [h]
  · have hothers : ¬Builds others := mt (Builds.of_subset · fun text => (h text).1) hbuilds
    rw [disables_iff_of_not_builds hbuilds, disables_iff_of_not_builds hothers, h]

/-- Texts that are no patterns switch nothing off. -/
theorem disables_filter_isPattern :
    disables ⟨texts.filter isPattern⟩ i = disables ⟨texts⟩ i := by
  have hmem : (texts.filter isPattern).contains i.id = texts.contains i.id := by
    rw [Bool.eq_iff_iff, List.contains_iff_mem, List.contains_iff_mem, List.mem_filter, isPattern,
      pattern?, i.parse_id]
    exact and_iff_left rfl
  rw [disables_eq, disables_eq, patterns_filter_isPattern, hmem]

/-- What two lists of texts switch off is what one of them does. -/
theorem disables_append (h : Builds (texts ++ others)) :
    disables ⟨texts ++ others⟩ i = (disables ⟨texts⟩ i || disables ⟨others⟩ i) := by
  have htexts : Builds texts := h.of_subset (List.subset_append_left _ _)
  have hothers : Builds others := h.of_subset (List.subset_append_right _ _)
  rw [Bool.eq_iff_iff, Bool.or_eq_true, disables_iff_of_builds h, disables_iff_of_builds htexts,
    disables_iff_of_builds hothers]
  simp only [List.mem_append, or_and_right, exists_or]

/-- More texts switch off more. -/
theorem disables_of_subset (h : Builds others) (hsub : texts ⊆ others)
    (hi : disables ⟨texts⟩ i) : disables ⟨others⟩ i := by
  obtain ⟨text, hmem, hselects⟩ := (disables_iff_of_builds (h.of_subset hsub)).1 hi
  exact (disables_iff_of_builds h).2 ⟨text, hsub hmem, hselects⟩

/-! ## What stays switched on -/

/-- The inspections that some texts leave switched on. -/
def enabledWith (texts : List String) : List Inspection :=
  enabledInspections (.project ⟨texts⟩)

theorem enabledWith_eq : enabledWith texts = Inspection.all.filter fun i => !disables ⟨texts⟩ i :=
  rfl

theorem mem_enabledWith : i ∈ enabledWith texts ↔ disables ⟨texts⟩ i = false := by
  rw [enabledWith_eq, List.mem_filter, Bool.not_eq_true']
  exact and_iff_right i.mem_all

/-- Texts that switch off the same leave the same. -/
theorem enabledWith_congr (h : ∀ i, disables ⟨texts⟩ i = disables ⟨others⟩ i) :
    enabledWith texts = enabledWith others := by
  simp only [enabledWith_eq, h]

/-- Texts that switch off more leave a part. -/
theorem enabledWith_sublist (h : ∀ i, disables ⟨texts⟩ i → disables ⟨others⟩ i) :
    (enabledWith others).Sublist (enabledWith texts) := by
  rw [enabledWith_eq, enabledWith_eq]
  refine List.monotone_filter_right _ fun i hi => ?_
  rw [Bool.not_eq_true', Bool.eq_false_iff] at hi ⊢
  exact mt (h i) hi

/-- Patterns that can be matched together leave what none of them matches. -/
theorem mem_enabledWith_iff_of_builds (h : Builds texts) :
    i ∈ enabledWith texts ↔ ∀ text ∈ texts, ¬selects text i.id := by
  rw [mem_enabledWith, ← Bool.not_eq_true, disables_iff_of_builds h]
  simp only [not_exists, not_and]

/-- **Switched-off texts combine.** Patterns that can be matched together leave the inspections
whose ids none of them matches. So two lists of them together leave exactly the inspections that
both lists leave, in the order of the registry, and none twice. It does not matter in which order
texts are given and how often, a further one never switches an inspection on, and those that are no
patterns can be left out. -/
theorem disabled_texts_combine :
    (∀ texts, Builds texts → ∀ i,
      (i ∈ enabledWith texts ↔ ∀ text ∈ texts, ¬selects text i.id)) ∧
    (∀ texts others, Builds (texts ++ others) →
      enabledWith (texts ++ others) =
        Inspection.all.filter fun i => i ∈ enabledWith texts ∧ i ∈ enabledWith others) ∧
    (∀ texts, (enabledWith texts).Nodup) ∧
    (∀ texts others, (∀ text, text ∈ texts ↔ text ∈ others) →
      enabledWith texts = enabledWith others) ∧
    (∀ texts others, Builds others → texts ⊆ others →
      (enabledWith others).Sublist (enabledWith texts)) ∧
    ∀ texts, enabledWith (texts.filter isPattern) = enabledWith texts := by
  refine ⟨?matched, ?union, ?once, ?order, ?more, ?rejected⟩
  case matched => exact fun texts h i => mem_enabledWith_iff_of_builds h
  case union =>
    intro texts others h
    rw [enabledWith_eq]
    refine List.filter_congr fun i _ => ?_
    rw [disables_append h]
    simp only [mem_enabledWith, Bool.not_or, Bool.decide_and, Bool.decide_eq_false]
  case once =>
    intro texts
    rw [enabledWith_eq]
    exact Inspection.nodup_all.filter _
  case order => exact fun texts others h => enabledWith_congr fun i => disables_congr h
  case more =>
    exact fun texts others h hsub => enabledWith_sublist fun i => disables_of_subset h hsub
  case rejected => exact fun texts => enabledWith_congr fun i => disables_filter_isPattern

/-- Two lists with patterns, ids and texts that are no patterns, mixed. -/
theorem disabled_texts_combine_mixed :
    let texts := ["convert_*", "[", "fix_shebang"]
    let others := ["\x7b", "*_def", "convert_*"]
    Builds (texts ++ others) ∧
      Inspection.functionDef ∉ enabledWith (texts ++ others) ∧
      enabledWith (texts ++ others) =
        Inspection.all.filter (fun i => i ∈ enabledWith texts ∧ i ∈ enabledWith others) ∧
      enabledWith (others ++ texts) = enabledWith (texts ++ others) ∧
      (enabledWith (texts ++ others)).Sublist (enabledWith texts) := by
  intro texts others
  obtain ⟨matched, union, -, order, more, -⟩ := disabled_texts_combine
  have hbuilds : Builds (texts ++ others) := by decide +kernel
  have hselects : selects "*_def" Inspection.functionDef.id := by decide +kernel
  refine ⟨hbuilds, ?_, union _ _ hbuilds, order _ _ ?_, more _ _ hbuilds ?_⟩
  · exact fun hmem => (matched _ hbuilds _).1 hmem "*_def" (by decide) hselects
  · exact fun text => by rw [List.mem_append, List.mem_append, or_comm]
  · exact List.subset_append_left _ _

end InspectionSettings

end ShellPages
