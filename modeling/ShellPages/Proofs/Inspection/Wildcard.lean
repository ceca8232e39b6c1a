import Mathlib.Data.List.Forall2
import Mathlib.Data.List.Infix
import ShellPages.Proofs.Inspection.Settings

/-!
# What patterns with wildcards switch off

In a pattern with wildcards a star stands for any run of characters and a question mark for any one
character (`Wildcard.Matches`). Read as a glob pattern it gives a token for each of its characters
(`parse_eq`), two stars being no more than two stars, except that they alone are the pattern that
matches everything. What is left of a text behind the tokens is what is left behind the runs for
which the characters stand (`mem_sequenceRests_iff`), and there is no group in such a pattern, so
that it is never too deep. So it switches off the inspections whose ids it matches, and no other
(`InspectionSettings.enabledWith_wildcards`).
-/

namespace ShellPages

namespace Wildcard

open Glob

variable {c : Char} {pattern text rest : List Char} {texts : List (List Char)}

/-! ## Matching -/

/-- A star stands for any run of characters, a question mark for any one character, and every
character for itself. -/
def StandsFor (c : Char) (run : List Char) : Prop :=
  c = '*' ∨ (c = '?' ∧ run.length = 1) ∨ run = [c]

instance (c : Char) (run : List Char) : Decidable (StandsFor c run) :=
  inferInstanceAs (Decidable (_ ∨ _))

/-- A pattern matches a text that consists of runs for which its characters stand, one after the
other. -/
def Matches (pattern text : List Char) : Prop :=
  ∃ runs, List.Forall₂ StandsFor pattern runs ∧ runs.flatten = text

theorem matches_nil_iff : Matches [] text ↔ text = [] := by
  simp [Matches, eq_comm]

theorem matches_cons_iff :
    Matches (c :: pattern) text ↔
      ∃ run rest, StandsFor c run ∧ Matches pattern rest ∧ run ++ rest = text := by
  simp only [Matches, List.forall₂_cons_left_iff]
  constructor
  · rintro ⟨_, ⟨run, runs, hrun, hruns, rfl⟩, rfl⟩
    exact ⟨run, runs.flatten, hrun, ⟨runs, hruns, rfl⟩, rfl⟩
  · rintro ⟨run, _, hrun, ⟨runs, hruns, rfl⟩, rfl⟩
    exact ⟨run :: runs, ⟨run, runs, hrun, hruns, rfl⟩, rfl⟩

/-- The first run ends at some position of the text. -/
theorem matches_cons_iff_exists_take :
    Matches (c :: pattern) text ↔
      ∃ n ∈ List.range (text.length + 1),
        StandsFor c (text.take n) ∧ Matches pattern (text.drop n) := by
  rw [matches_cons_iff]
  constructor
  · rintro ⟨run, rest, hrun, hrest, rfl⟩
    refine ⟨run.length, List.mem_range.2 ?_, ?_⟩
    · rw [List.length_append]
      omega
    · rw [List.take_left, List.drop_left]
      exact ⟨hrun, hrest⟩
  · rintro ⟨n, -, hrun, hrest⟩
    exact ⟨text.take n, text.drop n, hrun, hrest, List.take_append_drop n text⟩

instance decidableMatches : (pattern text : List Char) → Decidable (Matches pattern text)
  | [], _ => decidable_of_iff _ matches_nil_iff.symm
  | _ :: pattern, _ =>
    have := decidableMatches pattern
    decidable_of_iff _ matches_cons_iff_exists_take.symm

/-! ## Tokens -/

/-- The token for a character of a pattern. -/
def token (c : Char) : Token :=
  if c = '*' then .run else if c = '?' then .any else .literal c

theorem tails_eq : tails text = text.tails := by
  induction text with
  | nil => rfl
  | cons c rest ih => rw [tails, ih, List.tails_cons]

/-- A token takes a run off for which its character stands. -/
theorem mem_rests_token_iff :
    rest ∈ (token c).rests text ↔ ∃ run, StandsFor c run ∧ run ++ rest = text := by
  by_cases hstar : c = '*'
  · subst hstar
    change rest ∈ tails text ↔ _
    rw [tails_eq, List.mem_tails]
    simp [StandsFor, List.IsSuffix]
  · have hsingle (run : List Char) : StandsFor c run ↔ ∃ d, (c = '?' ∨ c = d) ∧ run = [d] := by
      simp only [StandsFor, hstar, false_or, List.length_eq_one_iff]
      grind
    have hruns : (∃ run, StandsFor c run ∧ run ++ rest = text) ↔
        ∃ d, (c = '?' ∨ c = d) ∧ d :: rest = text := by
      simp only [hsingle]
      grind
    rw [hruns, token, if_neg hstar]
    cases text with
    | nil => split_ifs <;> simp [Token.rests]
    | cons d tail => split_ifs with hany <;> simp [Token.rests, hany]

theorem restsOf_token : (token c).restsOf texts = (texts.flatMap (token c).rests).eraseDups := by
  unfold token
  split_ifs <;> rfl

/-- Tokens, one after the other, take a beginning off that the pattern matches. -/
theorem mem_sequenceRests_iff :
    rest ∈ sequenceRests (pattern.map token) texts ↔
      ∃ text ∈ texts, ∃ start, Matches pattern start ∧ start ++ rest = text := by
  induction pattern generalizing texts with
  | nil => simp [sequenceRests, matches_nil_iff]
  | cons c pattern ih =>
    simp only [List.map_cons, sequenceRests, ih, restsOf_token, List.mem_eraseDups,
      List.mem_flatMap, mem_rests_token_iff, matches_cons_iff]
    constructor
    · rintro ⟨_, ⟨text, htext, run, hrun, hsplit⟩, start, hstart, rfl⟩
      refine ⟨text, htext, run ++ start, ⟨run, start, hrun, hstart, rfl⟩, ?_⟩
      rw [List.append_assoc, hsplit]
    · rintro ⟨text, htext, _, ⟨run, start, hrun, hstart, rfl⟩, hsplit⟩
      refine ⟨start ++ rest, ⟨text, htext, run, hrun, ?_⟩, start, hstart, rfl⟩
      rw [← List.append_assoc, hsplit]

/-- The tokens of a pattern are none of those that stand for path segments. -/
theorem map_token_ne_leading : pattern.map token ≠ [.leading] := by
  rw [ne_eq, List.map_eq_singleton_iff]
  rintro ⟨c, -, hc⟩
  revert hc
  unfold token
  split_ifs <;> exact nofun

theorem isMatch_map_token : isMatch (pattern.map token) text ↔ Matches pattern text := by
  have hmem : [] ∈ sequenceRests (pattern.map token) [text] ↔ Matches pattern text := by
    simp [mem_sequenceRests_iff]
  unfold isMatch
  split
  case h_1 hleading => exact absurd hleading map_token_ne_leading
  case h_2 => rw [List.contains_iff_mem, hmem]

theorem depth_extent_token (c : Char) : (token c).extent.depth ≤ 1 := by
  unfold token
  split_ifs <;> exact Nat.le_of_ble_eq_true rfl

theorem depth_sequenceExtent_le (pattern : List Char) :
    (sequenceExtent (pattern.map token)).depth ≤ 1 := by
  induction pattern with
  | nil => exact Nat.zero_le 1
  | cons c pattern ih => exact Nat.max_le.2 ⟨depth_extent_token c, ih⟩

theorem isShallow_map_token (pattern : List Char) : isShallow (pattern.map token) := by
  have hdepth := depth_sequenceExtent_le pattern
  rw [isShallow, depthLimit, decide_eq_true_iff]
  omega

/-! ## Reading -/

/-- A character that can stand in a pattern with wildcards. Two stars beside a slash have a meaning
of their own. -/
def IsPlain (c : Char) : Prop :=
  (c = '*' ∨ c = '?' ∨ isOrdinary c) ∧ c ≠ '/'

theorem isPlain_of_isLower (h : c.isLower) : IsPlain c := by
  have hmeanings : ['?', '*', '[', '\x7b', '\x7d', ',', '\\'].all fun d => !d.isLower := by decide
  have hslash : ¬ '/'.isLower := by decide
  refine ⟨.inr (.inr ?_), fun hc => hslash (hc ▸ h)⟩
  rw [isOrdinary, Bool.not_eq_true', ← Bool.not_eq_true, List.contains_iff_mem]
  intro hmem
  have hnot := List.all_eq_true.1 hmeanings c hmem
  rw [h] at hnot
  cases hnot

/-- A character that is no star before another one is read as its token. -/
theorem readPattern_eq (hc : IsPlain c) (halone : c = '*' → rest.head? ≠ some '*') (s : State) :
    s.readPattern c rest = .ok (s.push (token c)) := by
  obtain ⟨rfl | rfl | hordinary, -⟩ := hc
  · cases rest with
    | nil => rfl
    | cons d rest =>
      have hd : d ≠ '*' := fun h => halone rfl (h ▸ rfl)
      unfold State.readPattern
      simp [hd, token]
  · rfl
  · have hstar : c ≠ '*' := by rintro rfl; exact absurd hordinary (by decide)
    have hany : c ≠ '?' := by rintro rfl; exact absurd hordinary (by decide)
    rw [State.readPattern_of_isOrdinary hordinary, token, if_neg hstar, if_neg hany]

/-- Two stars that are not all of the pattern, and not beside a slash, are no more than two
stars. -/
theorem twoStars_eq {s : State} (hgroups : s.groups = []) (hlast : s.last ≠ some '/')
    (hnext : rest.head? ≠ some '/') (hmore : s.tokens = [] → rest ≠ []) :
    s.twoStars rest = { s.pushTwoRuns with mode := .skip 0 } := by
  unfold State.twoStars
  by_cases htokens : s.tokens = []
  · have hsome : rest.head? ≠ none := mt List.head?_eq_none_iff.1 (hmore htokens)
    simp [htokens, hsome, hnext, State.pushTwoRuns, State.push]
  · simp [htokens, hgroups, hlast, State.pushTwoRuns, State.push]

/-- What is left of a pattern is read as its tokens. -/
theorem parseFrom_eq {text : List Char} (hplain : ∀ c ∈ text, IsPlain c) {s : State}
    (hmode : s.mode = .pattern) (hgroups : s.groups = []) (hlast : s.last ≠ some '/')
    (hmore : s.tokens = [] → text ≠ ['*', '*']) :
    parseFrom s text = .ok (s.tokens.reverse ++ text.map token) := by
  cases text with
  | nil => simp [parseFrom, State.finish, hmode, hgroups]
  | cons c rest =>
    obtain ⟨hc, hrest⟩ := List.forall_mem_cons.1 hplain
    by_cases hpair : c = '*' ∧ rest.head? = some '*'
    · obtain ⟨rfl, hhead⟩ := hpair
      obtain ⟨after, rfl⟩ := List.head?_eq_some_iff.1 hhead
      obtain ⟨hstar, hafter⟩ := List.forall_mem_cons.1 hrest
      have hnext : after.head? ≠ some '/' := fun h => (hafter _ (List.mem_of_mem_head? h)).2 rfl
      have htwo : s.readPattern '*' ('*' :: after) = .ok { s.pushTwoRuns with mode := .skip 0 } :=
        congrArg Except.ok (twoStars_eq hgroups hlast hnext fun h ha => hmore h (ha ▸ rfl))
      -- the second star is skipped, since it has been read with the first
      let next : State := { s.pushTwoRuns with mode := .pattern, last := some '*' }
      have hread : parseFrom s ('*' :: '*' :: after) = parseFrom next after := by
        rw [parseFrom, State.read_of_readPattern hmode htwo]
        rfl
      have hlast' : next.last ≠ some '/' := fun h => hstar.2 (Option.some.inj h)
      have hmore' : next.tokens = [] → after ≠ ['*', '*'] :=
        fun h => absurd h (List.cons_ne_nil _ _)
      rw [hread]
      refine (parseFrom_eq (s := next) hafter rfl hgroups hlast' hmore').trans ?_
      simp [next, State.pushTwoRuns, State.push, token]
    · have halone : c = '*' → rest.head? ≠ some '*' := fun h => not_and.1 hpair h
      let next : State := { s.push (token c) with last := some c }
      have hlast' : next.last ≠ some '/' := fun h => hc.2 (Option.some.inj h)
      have hmore' : next.tokens = [] → rest ≠ ['*', '*'] :=
        fun h => absurd h (List.cons_ne_nil _ _)
      rw [parseFrom, State.read_of_readPattern hmode (readPattern_eq hc halone s)]
      refine (parseFrom_eq (s := next) hrest hmode hgroups hlast' hmore').trans ?_
      simp [next, State.push]
termination_by text.length

/-- A pattern is read as a token for each of its characters, unless it consists of two stars. -/
theorem parse_eq {pattern : String} (hplain : ∀ c ∈ pattern.toList, IsPlain c) :
    parse pattern =
      .ok (if pattern.toList = ['*', '*'] then [.leading] else pattern.toList.map token) := by
  rw [parse]
  split_ifs with h
  · rw [h]
    rfl
  · exact parseFrom_eq hplain rfl rfl nofun fun _ => h

end Wildcard

namespace InspectionSettings

open Glob

variable {pattern : String} {i : Inspection}

theorem pattern?_wildcards (hplain : ∀ c ∈ pattern.toList, Wildcard.IsPlain c) :
    pattern? pattern =
      some (if pattern.toList = ['*', '*'] then [.leading]
        else pattern.toList.map Wildcard.token) := by
  rw [pattern?, Wildcard.parse_eq hplain]
  rfl

theorem builds_wildcards (hplain : ∀ c ∈ pattern.toList, Wildcard.IsPlain c) :
    Builds [pattern] := by
  rw [builds_iff]
  simp only [List.forall_mem_singleton, pattern?_wildcards hplain, Option.some.injEq,
    forall_eq']
  split_ifs
  · rfl
  · exact Wildcard.isShallow_map_token _

theorem selects_wildcards (hplain : ∀ c ∈ pattern.toList, Wildcard.IsPlain c) (id : String) :
    selects pattern id ↔ Wildcard.Matches pattern.toList id.toList := by
  rw [selects, pattern?_wildcards hplain, Option.any_some]
  split_ifs with h
  · -- the first star may stand for all of the text, and the second for nothing
    have hmatches : Wildcard.Matches ['*', '*'] id.toList :=
      ⟨[id.toList, []], .cons (.inl rfl) (.cons (.inl rfl) .nil), by simp⟩
    rw [h]
    exact iff_of_true rfl hmatches
  · exact Wildcard.isMatch_map_token

/-- **Wildcards switch off what they match.** A pattern of small letters, underscores, stars and
question marks leaves all inspections but those whose ids consist of runs for which the characters
of the pattern stand, one after the other. -/
theorem enabledWith_wildcards
    (h : ∀ c ∈ pattern.toList, c.isLower ∨ c = '_' ∨ c = '*' ∨ c = '?') :
    enabledWith [pattern] =
      Inspection.all.filter fun i => ¬Wildcard.Matches pattern.toList i.id.toList := by
  have hplain : ∀ c ∈ pattern.toList, Wildcard.IsPlain c := by
    intro c hc
    rcases h c hc with hlower | rfl | rfl | rfl
    · exact Wildcard.isPlain_of_isLower hlower
    · exact ⟨.inr (.inr rfl), by decide⟩
    · exact ⟨.inl rfl, by decide⟩
    · exact ⟨.inr (.inl rfl), by decide⟩
  rw [enabledWith_eq]
  refine List.filter_congr fun i _ => ?_
  rw [Bool.eq_iff_iff, Bool.not_eq_true', ← Bool.not_eq_true, decide_eq_true_iff,
    disables_iff_of_builds (builds_wildcards hplain)]
  simp only [List.mem_singleton, exists_eq_left, selects_wildcards hplain]

/-- Stars in a row, at the start and at the end, beside a question mark. -/
theorem enabledWith_wildcards_mixed :
    (∀ c ∈ "**_fun?tion*_**".toList, c.isLower ∨ c = '_' ∨ c = '*' ∨ c = '?') ∧
      enabledWith ["**_fun?tion*_**"] =
        Inspection.all.filter
          (fun i => ¬Wildcard.Matches "**_fun?tion*_**".toList i.id.toList) ∧
      Inspection.unusedFunctionDef ∉ enabledWith ["**_fun?tion*_**"] ∧
      Inspection.functionDef ∈ enabledWith ["**_fun?tion*_**"] := by
  have hall : "**_fun?tion*_**".toList.all fun c =>
      decide (c.isLower ∨ c = '_' ∨ c = '*' ∨ c = '?') := by
    decide
  have hpattern : ∀ c ∈ "**_fun?tion*_**".toList, c.isLower ∨ c = '_' ∨ c = '*' ∨ c = '?' :=
    fun c hc => of_decide_eq_true (List.all_eq_true.1 hall c hc)
  have henabled := enabledWith_wildcards hpattern
  have hmatches :
      Wildcard.Matches "**_fun?tion*_**".toList Inspection.unusedFunctionDef.id.toList := by
    decide +kernel
  have hdiffers :
      ¬Wildcard.Matches "**_fun?tion*_**".toList Inspection.functionDef.id.toList := by
    decide +kernel
  refine ⟨hpattern, henabled, ?_, ?_⟩
  · rw [henabled, List.mem_filter]
    exact fun h => of_decide_eq_true h.2 hmatches
  · rw [henabled]
    exact List.mem_filter.2 ⟨Inspection.mem_all _, decide_eq_true hdiffers⟩

end InspectionSettings

end ShellPages
