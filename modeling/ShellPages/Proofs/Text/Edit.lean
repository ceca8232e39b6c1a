import Mathlib.Data.List.DropRight
import Mathlib.Data.List.Find
import ShellPages.Text.Edit

/-!
# Trimmed and decoded texts

Trimming takes characters off both ends, so that no blank one is left there (`isTrim_trimChars`),
and it leaves text alone that has none there (`trimChars_eq_self`). Nothing is left of a text
exactly if all of it is blank (`isBlankText_iff_trim`).

A code is a text that stands for a character. `decodeOnce` reads codes from left to right and never
looks at what it has written. Substituting the codes one after the other goes through the whole text
once for each of them, and could read again what an earlier substitution has written. Codes are
independent if this cannot happen (`AreIndependent`), and then both ways come to the same:
`foldl_substitute_eq_decodeOnce`. The step moves one code from the substitutions to the pass
(`decodeOnce_substitute`), because a substitution neither makes nor breaks an occurrence of a later
code (`prefix_substitute_iff`).
-/

namespace ShellPages.Text

/-! ## Trimmed text -/

variable {cs : List Char}

/-- Text that neither starts nor ends with a blank character. -/
structure IsTrim (cs : List Char) : Prop where
  head : ∀ c, cs.head? = some c → ¬isBlank c
  last : ∀ c, cs.getLast? = some c → ¬isBlank c

theorem trimEnd_eq_rdropWhile (cs : List Char) : trimEnd cs = cs.rdropWhile isBlank := rfl

theorem trimChars_sublist (cs : List Char) : (trimChars cs).Sublist cs :=
  (List.rdropWhile_prefix isBlank _).sublist.trans (List.dropWhile_sublist isBlank)

theorem not_isBlank_of_trimStart {c : Char} {rest : List Char} (h : trimStart cs = c :: rest) :
    ¬isBlank c := by
  have hfirst := List.head?_dropWhile_not isBlank cs
  rw [← trimStart, h] at hfirst
  simpa using hfirst

/-- **Trimmed text has no blanks at its ends.** -/
theorem isTrim_trimChars (cs : List Char) : IsTrim (trimChars cs) := by
  constructor
  · intro c hc
    obtain ⟨rest, hrest⟩ := List.head?_eq_some_iff.1 hc
    obtain ⟨after, hafter⟩ := List.rdropWhile_prefix isBlank (trimStart cs)
    rw [← trimEnd_eq_rdropWhile, ← trimChars, hrest, List.cons_append] at hafter
    exact not_isBlank_of_trimStart hafter.symm
  · intro c hc
    obtain ⟨front, hfront⟩ := List.getLast?_eq_some_iff.1 hc
    rw [trimChars, trimEnd_eq_rdropWhile] at hfront
    have hne : (trimStart cs).rdropWhile isBlank ≠ [] := by simp [hfront]
    have hlast := List.rdropWhile_last_not isBlank (trimStart cs) hne
    simpa [hfront] using hlast

/-- Text without blanks at its ends is trimmed already. -/
theorem trimChars_eq_self (h : IsTrim cs) : trimChars cs = cs := by
  have hstart : trimStart cs = cs := by
    cases cs with
    | nil => rfl
    | cons c rest => exact List.dropWhile_cons_of_neg (h.head c rfl)
  rw [trimChars, hstart, trimEnd_eq_rdropWhile, List.rdropWhile_eq_self_iff]
  exact fun hne => h.last _ (List.getLast?_eq_some_getLast hne)

/-- A text is blank if nothing is left of it. -/
theorem isBlankText_iff_trim {s : String} : isBlankText s ↔ trim s = "" := by
  rw [isBlankText, trim, List.all_eq_true, ← String.toList_inj, String.toList_ofList]
  constructor
  · intro h
    have hstart : trimStart s.toList = [] := List.dropWhile_eq_nil_iff.2 h
    rw [trimChars, hstart]
    rfl
  · intro h
    have hall := List.rdropWhile_eq_nil_iff.1 h
    have hstart : trimStart s.toList = [] := by
      cases hrest : trimStart s.toList with
      | nil => rfl
      | cons c rest => exact absurd (hall c (by simp [hrest])) (not_isBlank_of_trimStart hrest)
    exact List.dropWhile_eq_nil_iff.1 hstart

/-! ## One substitution -/

/-- Text in which nothing is to be replaced stays. -/
theorem substitute_eq_self {old cs : List Char} (h : ¬old.Sublist cs) (new : List Char) :
    substitute old new cs = cs := by
  induction cs with
  | nil => rfl
  | cons c rest ih =>
    have hstart : ¬old <+: c :: rest := fun hprefix => h hprefix.sublist
    rw [substitute_cons_of_not_isPrefixOf hstart, ih fun hrest => h (hrest.cons c)]

/-- What a substitution leaves was there or is written by it. -/
theorem mem_substitute {old new cs : List Char} {c : Char} (h : c ∈ substitute old new cs) :
    c ∈ new ∨ c ∈ cs := by
  suffices hfrom : ∀ skip, c ∈ substituteFrom old new skip cs → c ∈ new ∨ c ∈ cs from
    hfrom 0 h
  clear h
  induction cs with
  | nil => simp [substituteFrom]
  | cons d rest ih =>
    intro skip h
    cases skip with
    | succ skip => exact (ih skip h).imp_right (List.mem_cons_of_mem d)
    | zero =>
      rw [substituteFrom] at h
      split at h
      · rcases List.mem_append.1 h with hnew | hlater
        · exact .inl hnew
        · exact (ih _ hlater).imp_right (List.mem_cons_of_mem d)
      · rcases List.mem_cons.1 h with rfl | hlater
        · exact .inr List.mem_cons_self
        · exact (ih _ hlater).imp_right (List.mem_cons_of_mem d)

/-! ## Codes -/

/-- The first code that starts a text. -/
def codeAt? (codes : List (String × Char)) (cs : List Char) : Option (String × Char) :=
  codes.find? fun code => code.1.toList.isPrefixOf cs

/-- Replace codes by their characters in a single pass from left to right. What is written is not
read again. -/
def decodeOnce (codes : List (String × Char)) : List Char → List Char
  | [] => []
  | c :: rest =>
    match codeAt? codes (c :: rest) with
    | some code => code.2 :: decodeOnce codes (rest.drop (code.1.toList.length - 1))
    | none => c :: decodeOnce codes rest
termination_by cs => cs.length
decreasing_by all_goals simp only [List.length_drop, List.length_cons]; omega

/-- Codes that do not meddle with each other. The same mark begins all of them and stands nowhere
else in them, and no code has the character of an earlier one in it. -/
structure AreIndependent (mark : Char) (codes : List (String × Char)) : Prop where
  marked : ∀ code ∈ codes, code.1.toList.head? = some mark ∧ mark ∉ code.1.toList.tail
  fresh : codes.Pairwise fun code later => code.2 ∉ later.1.toList

variable {mark : Char} {code : String × Char} {codes : List (String × Char)}

namespace AreIndependent

theorem tail (h : AreIndependent mark (code :: codes)) : AreIndependent mark codes where
  marked later hl := h.marked later (List.mem_cons_of_mem code hl)
  fresh := (List.pairwise_cons.1 h.fresh).2

theorem exists_eq_cons (h : AreIndependent mark codes) (hc : code ∈ codes) :
    ∃ body, code.1.toList = mark :: body ∧ mark ∉ body := by
  obtain ⟨hhead, hbody⟩ := h.marked code hc
  obtain ⟨body, hcode⟩ := List.head?_eq_some_iff.1 hhead
  rw [hcode] at hbody
  exact ⟨body, hcode, hbody⟩

theorem ne_nil (h : AreIndependent mark codes) (hc : code ∈ codes) : code.1.toList ≠ [] := by
  obtain ⟨body, hbody, -⟩ := h.exists_eq_cons hc
  simp [hbody]

theorem not_mem_later (h : AreIndependent mark (code :: codes)) {later : String × Char}
    (hlater : later ∈ codes) : code.2 ∉ later.1.toList :=
  (List.pairwise_cons.1 h.fresh).1 later hlater

end AreIndependent

/-! ## One pass -/

theorem prefix_of_codeAt? (h : codeAt? codes cs = some code) : code.1.toList <+: cs := by
  have hstart := List.find?_some h
  exact List.isPrefixOf_iff_prefix.1 hstart

theorem length_lt_of_append_eq {start after : List Char} (hne : start ≠ [])
    (h : start ++ after = cs) : after.length < cs.length := by
  rw [← h, List.length_append]
  exact Nat.lt_add_of_pos_left (List.length_pos_iff.2 hne)

/-- A code at the start of a text is read. -/
theorem decodeOnce_append {after : List Char} (hne : code.1.toList ≠ [])
    (h : codeAt? codes (code.1.toList ++ after) = some code) :
    decodeOnce codes (code.1.toList ++ after) = code.2 :: decodeOnce codes after := by
  obtain ⟨c, body, hcode⟩ := List.exists_cons_of_ne_nil hne
  rw [hcode, List.cons_append] at h ⊢
  rw [decodeOnce, h]
  simp [hcode]

/-- A character that starts no code stays. -/
theorem decodeOnce_cons_of_none {c : Char} {rest : List Char}
    (h : codeAt? codes (c :: rest) = none) :
    decodeOnce codes (c :: rest) = c :: decodeOnce codes rest := by
  rw [decodeOnce, h]

/-- A character that is no mark starts no code. -/
theorem codeAt?_eq_none (h : AreIndependent mark codes) {c : Char} (hc : c ≠ mark)
    (rest : List Char) : codeAt? codes (c :: rest) = none := by
  refine List.find?_eq_none.2 fun code hcode hp => ?_
  obtain ⟨body, hbody, -⟩ := h.exists_eq_cons hcode
  rw [List.isPrefixOf_iff_prefix, hbody, List.cons_prefix_cons] at hp
  exact hc hp.1.symm

/-- Text without the mark stays. -/
theorem decodeOnce_eq_self (h : AreIndependent mark codes) (hcs : mark ∉ cs) :
    decodeOnce codes cs = cs := by
  induction cs with
  | nil => simp [decodeOnce]
  | cons c rest ih =>
    rw [List.mem_cons, not_or] at hcs
    rw [decodeOnce_cons_of_none (codeAt?_eq_none h (Ne.symm hcs.1) rest), ih hcs.2]

/-! ## A substitution before the pass -/

/-- A substitution neither makes nor breaks an occurrence of a text that has neither the mark nor
the new character in it. -/
theorem prefix_substitute_iff {old part : List Char} {new : Char} (hmark : mark ∉ part)
    (hnew : new ∉ part) (cs : List Char) :
    part <+: substitute (mark :: old) [new] cs ↔ part <+: cs := by
  induction part generalizing cs with
  | nil => simp
  | cons p part ih =>
    rw [List.mem_cons, not_or] at hmark hnew
    cases cs with
    | nil => simp
    | cons c rest =>
      by_cases hstart : mark :: old <+: c :: rest
      · -- neither the mark that stands there nor what replaces it is `p`
        obtain ⟨after, hafter⟩ := hstart
        rw [← hafter, substitute_append_self (List.cons_ne_nil _ _), List.cons_append,
          List.cons_append, List.cons_prefix_cons, List.cons_prefix_cons]
        exact iff_of_false (fun h => hnew.1 h.1.symm) (fun h => hmark.1 h.1.symm)
      · rw [substitute_cons_of_not_isPrefixOf hstart, List.cons_prefix_cons, List.cons_prefix_cons,
          ih hmark.2 hnew.2]

section Step

variable (h : AreIndependent mark (code :: codes))
include h

/-- What a substitution writes starts no later code. -/
theorem codeAt?_written (rest : List Char) : codeAt? codes (code.2 :: rest) = none := by
  refine List.find?_eq_none.2 fun later hlater hp => h.not_mem_later hlater ?_
  obtain ⟨body, hbody, -⟩ := h.tail.exists_eq_cons hlater
  rw [List.isPrefixOf_iff_prefix, hbody, List.cons_prefix_cons] at hp
  rw [hbody, hp.1]
  exact List.mem_cons_self

/-- A substitution further on leaves alone which later code starts a text. -/
theorem codeAt?_substitute (c : Char) (rest : List Char) :
    codeAt? codes (c :: substitute code.1.toList [code.2] rest) = codeAt? codes (c :: rest) := by
  obtain ⟨old, hold, -⟩ := h.exists_eq_cons List.mem_cons_self
  refine List.find?_congr fun later hlater => ?_
  obtain ⟨body, hbody, hmark⟩ := h.tail.exists_eq_cons hlater
  have hnew : code.2 ∉ body := by
    have hfresh := h.not_mem_later hlater
    rw [hbody, List.mem_cons, not_or] at hfresh
    exact hfresh.2
  rw [Bool.eq_iff_iff, List.isPrefixOf_iff_prefix, List.isPrefixOf_iff_prefix, hbody, hold,
    List.cons_prefix_cons, List.cons_prefix_cons, prefix_substitute_iff hmark hnew]

/-- A substitution leaves a later code alone where it replaces nothing at its start. -/
theorem substitute_later {later : String × Char} (hlater : later ∈ codes) {after : List Char}
    (hstart : ¬code.1.toList <+: later.1.toList ++ after) :
    substitute code.1.toList [code.2] (later.1.toList ++ after) =
      later.1.toList ++ substitute code.1.toList [code.2] after := by
  obtain ⟨old, hold, -⟩ := h.exists_eq_cons List.mem_cons_self
  obtain ⟨body, hbody, hmark⟩ := h.tail.exists_eq_cons hlater
  rw [hbody, List.cons_append] at hstart ⊢
  rw [substitute_cons_of_not_isPrefixOf hstart, hold, substitute_append_of_not_mem hmark,
    List.cons_append]

/-- **A code joins the pass.** To substitute a code and then to read the later ones is to read all
of them in a single pass. -/
theorem decodeOnce_substitute (cs : List Char) :
    decodeOnce codes (substitute code.1.toList [code.2] cs) = decodeOnce (code :: codes) cs := by
  have hne : code.1.toList ≠ [] := h.ne_nil List.mem_cons_self
  induction hn : cs.length using Nat.strong_induction_on generalizing cs with
  | _ n ih =>
    subst hn
    cases cs with
    | nil => simp [decodeOnce]
    | cons c rest =>
      by_cases hstart : code.1.toList <+: c :: rest
      · -- the code itself stands here
        obtain ⟨after, hafter⟩ := hstart
        have hfirst : codeAt? (code :: codes) (code.1.toList ++ after) = some code := by
          simp [codeAt?]
        rw [← hafter, substitute_append_self hne, decodeOnce_append hne hfirst,
          List.singleton_append, decodeOnce_cons_of_none (codeAt?_written h _)]
        exact congrArg _ (ih _ (length_lt_of_append_eq hne hafter) after rfl)
      · have hothers : codeAt? (code :: codes) (c :: rest) = codeAt? codes (c :: rest) :=
          List.find?_cons_of_neg (by rwa [List.isPrefixOf_iff_prefix])
        have hkept := codeAt?_substitute h c rest
        rw [← substitute_cons_of_not_isPrefixOf hstart] at hkept
        cases hfound : codeAt? codes (c :: rest) with
        | none =>
          rw [substitute_cons_of_not_isPrefixOf hstart] at hkept ⊢
          rw [decodeOnce_cons_of_none (hothers.trans hfound),
            decodeOnce_cons_of_none (hkept.trans hfound)]
          exact congrArg _ (ih _ (Nat.lt_succ_self _) rest rfl)
        | some later =>
          -- a later code stands here, and nothing in it is replaced
          have hlater : later ∈ codes := List.mem_of_find?_eq_some hfound
          have hlaterne : later.1.toList ≠ [] := h.tail.ne_nil hlater
          obtain ⟨after, hafter⟩ := prefix_of_codeAt? hfound
          have hshorter := length_lt_of_append_eq hlaterne hafter
          rw [← hafter] at hfound hothers hkept hstart ⊢
          rw [substitute_later h hlater hstart] at hkept ⊢
          rw [decodeOnce_append hlaterne (hkept.trans hfound),
            decodeOnce_append hlaterne (hothers.trans hfound)]
          exact congrArg _ (ih _ hshorter after rfl)

end Step

/-- **Independent codes may be substituted one after the other.** The text is the same as after a
single pass that reads all of them. -/
theorem foldl_substitute_eq_decodeOnce (h : AreIndependent mark codes) (cs : List Char) :
    codes.foldl (fun cs code => substitute code.1.toList [code.2] cs) cs = decodeOnce codes cs := by
  induction codes generalizing cs with
  | nil =>
    induction cs with
    | nil => simp [decodeOnce]
    | cons c rest ih =>
      rw [decodeOnce_cons_of_none rfl, ← ih, List.foldl_nil, List.foldl_nil]
  | cons code codes ih =>
    rw [List.foldl_cons, ih h.tail, decodeOnce_substitute h]

end ShellPages.Text
