/-!
# Editing texts

`trim` removes the blank characters from both ends of a text and leaves those inside alone. The
blank characters are the twenty-five of the Unicode property `White_Space`.

`substitute old new` replaces every occurrence of `old` by `new`, from left to right and without
overlaps. `stripEnd?` and `stripStart?` take a known ending or beginning off a text.
-/

namespace ShellPages.Text

/-! ## Trimming -/

/-- The Unicode property `White_Space`. -/
def isBlank (c : Char) : Bool :=
  let n := c.toNat
  (9 ≤ n && n ≤ 13) || n == 0x20 || n == 0x85 || n == 0xA0 || n == 0x1680 ||
    (0x2000 ≤ n && n ≤ 0x200A) || n == 0x2028 || n == 0x2029 || n == 0x202F ||
    n == 0x205F || n == 0x3000

/-- The characters after the blank ones at the start. -/
def trimStart (cs : List Char) : List Char :=
  cs.dropWhile isBlank

/-- The characters before the blank ones at the end. -/
def trimEnd (cs : List Char) : List Char :=
  (cs.reverse.dropWhile isBlank).reverse

/-- The characters between the blank ones at both ends. -/
def trimChars (cs : List Char) : List Char :=
  trimEnd (trimStart cs)

/-- A text without the blank characters at its ends. -/
def trim (s : String) : String :=
  String.ofList (trimChars s.toList)

theorem dropWhile_isBlank_eq_self {cs : List Char} (h : ∀ c ∈ cs, ¬isBlank c) :
    cs.dropWhile isBlank = cs := by
  cases cs with
  | nil => rfl
  | cons c rest => exact List.dropWhile_cons_of_neg (h c List.mem_cons_self)

/-- Trimming leaves a text without blank characters alone. -/
theorem trim_eq_self {s : String} (h : ∀ c ∈ s.toList, ¬isBlank c) : trim s = s := by
  have hreverse : ∀ c ∈ s.toList.reverse, ¬isBlank c := fun c hc => h c (List.mem_reverse.1 hc)
  rw [trim, trimChars, trimStart, dropWhile_isBlank_eq_self h, trimEnd,
    dropWhile_isBlank_eq_self hreverse, List.reverse_reverse, String.ofList_toList]

/-- A text of blank characters only, the empty one included. -/
def isBlankText (s : String) : Bool :=
  s.toList.all isBlank

/-! ## Substituting -/

/-- Replace `old` by `new` after leaving out the next `skip` characters, which belong to an
occurrence that has been replaced already. -/
def substituteFrom (old new : List Char) : Nat → List Char → List Char
  | _, [] => []
  | skip + 1, _ :: rest => substituteFrom old new skip rest
  | 0, c :: rest =>
    if old.isPrefixOf (c :: rest) then new ++ substituteFrom old new (old.length - 1) rest
    else c :: substituteFrom old new 0 rest

/-- Replace every occurrence of `old` by `new`, from left to right and without overlaps. -/
def substitute (old new cs : List Char) : List Char :=
  substituteFrom old new 0 cs

/-- What belongs to a replaced occurrence is left out. -/
theorem substituteFrom_eq (old new : List Char) (skip : Nat) (cs : List Char) :
    substituteFrom old new skip cs = substitute old new (cs.drop skip) := by
  induction cs generalizing skip with
  | nil => cases skip <;> rfl
  | cons c rest ih =>
    cases skip with
    | zero => rfl
    | succ skip => rw [substituteFrom, ih, List.drop_succ_cons]

@[simp] theorem substitute_nil (old new : List Char) : substitute old new [] = [] := rfl

/-- An occurrence at the start is replaced. -/
theorem substitute_append_self {old : List Char} (h : old ≠ []) (new rest : List Char) :
    substitute old new (old ++ rest) = new ++ substitute old new rest := by
  obtain ⟨c, tail, rfl⟩ := List.exists_cons_of_ne_nil h
  have hprefix : (c :: tail).isPrefixOf (c :: tail ++ rest) :=
    List.isPrefixOf_iff_prefix.2 (List.prefix_append _ _)
  rw [List.cons_append] at hprefix
  rw [List.cons_append, substitute, substituteFrom, if_pos hprefix, substituteFrom_eq]
  simp

/-- A character that starts no occurrence stays. -/
theorem substitute_cons_of_not_isPrefixOf {old : List Char} {c : Char} {rest : List Char}
    (h : ¬old <+: c :: rest) (new : List Char) :
    substitute old new (c :: rest) = c :: substitute old new rest := by
  rw [← List.isPrefixOf_iff_prefix] at h
  rw [substitute, substituteFrom, if_neg h, substitute]

/-- What stands before the first character of `old` stays. -/
theorem substitute_append_of_not_mem {c : Char} {cs : List Char} (h : c ∉ cs)
    (old new rest : List Char) :
    substitute (c :: old) new (cs ++ rest) = cs ++ substitute (c :: old) new rest := by
  induction cs with
  | nil => rfl
  | cons d cs ih =>
    rw [List.mem_cons, not_or] at h
    have hstart : ¬c :: old <+: d :: (cs ++ rest) := fun hp => h.1 (List.cons_prefix_cons.1 hp).1
    rw [List.cons_append, substitute_cons_of_not_isPrefixOf hstart, ih h.2, List.cons_append]

/-- A text without the given ending, if it has it. -/
def stripEnd? (ending cs : List Char) : Option (List Char) :=
  if ending.isSuffixOf cs then some (cs.take (cs.length - ending.length)) else none

/-- Taking an ending off undoes putting it on. -/
theorem stripEnd?_eq_some_iff {ending cs stem : List Char} :
    stripEnd? ending cs = some stem ↔ cs = stem ++ ending := by
  rw [stripEnd?, Option.ite_none_right_eq_some, Option.some.injEq, List.isSuffixOf_iff_suffix]
  constructor
  · rintro ⟨⟨front, rfl⟩, rfl⟩
    simp
  · rintro rfl
    simp

/-- A text without the given beginning, if it has it. -/
def stripStart? : List Char → List Char → Option (List Char)
  | [], cs => some cs
  | _ :: _, [] => none
  | b :: beginning, c :: cs => if b = c then stripStart? beginning cs else none

/-- Taking a beginning off undoes putting it on. -/
theorem stripStart?_eq_some_iff {beginning cs rest : List Char} :
    stripStart? beginning cs = some rest ↔ cs = beginning ++ rest := by
  induction beginning generalizing cs with
  | nil => simp [stripStart?]
  | cons b beginning ih =>
    cases cs with
    | nil => simp [stripStart?]
    | cons c cs =>
      rw [stripStart?, Option.ite_none_right_eq_some, ih, List.cons_append, List.cons.injEq,
        eq_comm]

end ShellPages.Text
