import ShellPages.Proofs.Json.Layout
import ShellPages.Proofs.Json.Scalar

/-!
# Reading written values

What is written for a value, in whatever layout, is read as the draft of this value. The induction
is on the value, with the text that comes after it general (`scanValue_write`). Lists and objects go
item by item: one step reads an item and looks at what follows (`scanItems_succ`,
`scanMembers_succ`). The bound of the recursion is never reached, since every step of it goes with
at least half a character. The main statement is `Draft.scan_write`.
-/

namespace ShellPages.Json

/-! ## Values and their drafts -/

mutual

/-- Whether every number of a value fits 64 bits. -/
def InRange : Json → Prop
  | null | string _ => True
  | number n => n ≤ maxNatural
  | array items => ItemsInRange items
  | object members => MembersInRange members

/-- Whether every number of items fits 64 bits. -/
def ItemsInRange : List Json → Prop
  | [] => True
  | item :: rest => InRange item ∧ ItemsInRange rest

/-- Whether every number of members fits 64 bits. -/
def MembersInRange : List (String × Json) → Prop
  | [] => True
  | (_, value) :: rest => InRange value ∧ MembersInRange rest

end

namespace Draft

mutual

/-- The draft of a value. -/
def ofJson : Json → Draft
  | .null => null
  | .number n => number (.natural n)
  | .string s => text s
  | .array items => array (ofItems items) true
  | .object members => object (ofMembers members) true

/-- The drafts of items. -/
def ofItems : List Json → List Draft
  | [] => []
  | item :: rest => ofJson item :: ofItems rest

/-- The drafts of members. -/
def ofMembers : List (String × Json) → List (Draft × Draft)
  | [] => []
  | (name, value) :: rest => (text name, ofJson value) :: ofMembers rest

end

theorem isWhole_ofJson (j : Json) : (ofJson j).isWhole := by
  cases j <;> rfl

end Draft

/-! ## One step of reading -/

theorem skipBlanks_append {blanks : List Char} (h : ∀ c ∈ blanks, isBlank c) (cs : List Char) :
    skipBlanks (blanks ++ cs) = skipBlanks cs :=
  List.dropWhile_append_of_pos h

theorem skipBlanks_cons {c : Char} (h : ¬isBlank c) (cs : List Char) :
    skipBlanks (c :: cs) = c :: cs :=
  List.dropWhile_cons_of_neg h

theorem followsValue_append {blanks : List Char} (h : ∀ c ∈ blanks, isBlank c) {cs : List Char}
    (hcs : FollowsValue cs) : FollowsValue (blanks ++ cs) := by
  cases blanks with
  | nil => exact hcs
  | cons c rest => exact .inl (h c List.mem_cons_self)

/-- Blanks before a value do not matter. -/
theorem scanValue_blanks {blanks : List Char} (h : ∀ c ∈ blanks, isBlank c) {bound : Nat}
    (hbound : 0 < bound) (cs : List Char) :
    scanValue bound (blanks ++ cs) = scanValue bound cs := by
  obtain ⟨bound, rfl⟩ := Nat.exists_eq_add_one.2 hbound
  rw [scanValue, scanValue, skipBlanks_append h]

theorem scanValue_toDigits {n : Nat} (h : n ≤ maxNatural) {rest : List Char}
    (hrest : FollowsValue rest) {bound : Nat} (hbound : 0 < bound) :
    scanValue bound (Nat.toDigits 10 n ++ rest) = (.number (.natural n), rest) := by
  obtain ⟨bound, rfl⟩ := Nat.exists_eq_add_one.2 hbound
  have hscan := Numeral.scan?_toDigits n hrest
  obtain ⟨c, cs, hcs, hdigit⟩ := exists_toDigits_eq n
  have hnumber : scanNumber (c :: (cs ++ rest)) = (.number (.natural n), rest) := by
    rw [← List.cons_append, ← hcs, scanNumber, hscan]
    simp only [Numeral.value?_toDigits h]
  rw [hcs, List.cons_append, scanValue, skipBlanks_cons (not_isBlank_of_isDigit hdigit)]
  split
  case h_7 => exact hnumber
  all_goals
    next heq =>
      obtain ⟨rfl, -⟩ := List.cons.inj heq
      exact absurd hdigit (by decide)

theorem scanValue_writeText (s : String) (rest : List Char) {bound : Nat} (hbound : 0 < bound) :
    scanValue bound (writeText s ++ rest) = (.text s, rest) := by
  obtain ⟨bound, rfl⟩ := Nat.exists_eq_add_one.2 hbound
  rw [writeText, List.append_assoc, List.cons_append, scanValue, skipBlanks_cons (by decide)]
  exact scanText_writeText s rest

/-- A list that does not end at once is read as its items. -/
theorem scanValue_list {bound : Nat} {c : Char} {cs next rest : List Char} {items : List Draft}
    {closed : Bool} (hcs : skipBlanks cs = c :: next) (hc : c ≠ ']')
    (h : scanItems bound (c :: next) = (items, closed, rest)) :
    scanValue (bound + 1) ('[' :: cs) = (.array items closed, rest) := by
  rw [scanValue, skipBlanks_cons (by decide)]
  simp [hcs, hc, h]

/-- An object that does not end at once is read as its members. -/
theorem scanValue_object {bound : Nat} {c : Char} {cs next rest : List Char}
    {members : List (Draft × Draft)} {closed : Bool} (hcs : skipBlanks cs = c :: next)
    (hc : c ≠ '\x7d') (h : scanMembers bound (c :: next) = (members, closed, rest)) :
    scanValue (bound + 1) ('\x7b' :: cs) = (.object members closed, rest) := by
  rw [scanValue, skipBlanks_cons (by decide)]
  simp [hcs, hc, h]

/-- After a whole item, the list goes on or ends. -/
theorem scanItems_succ {bound : Nat} {cs rest : List Char} {item : Draft}
    (hitem : scanValue bound cs = (item, rest)) (hwhole : item.isWhole) :
    scanItems (bound + 1) cs =
      match skipBlanks rest with
      | ',' :: rest =>
        let read := scanItems bound rest
        (item :: read.1, read.2.1, read.2.2)
      | ']' :: rest => ([item], true, rest)
      | rest => ([item], false, rest) := by
  rw [scanItems, hitem]
  exact if_pos hwhole

/-- After a member with a whole value, the object goes on or ends. -/
theorem scanMembers_succ {bound : Nat} {cs rest : List Char} {name : String} {value : Draft}
    (hvalue : scanValue bound cs = (value, rest)) (hwhole : value.isWhole) :
    scanMembers (bound + 1) (writeText name ++ ':' :: cs) =
      match skipBlanks rest with
      | ',' :: rest =>
        let read := scanMembers bound rest
        ((.text name, value) :: read.1, read.2.1, read.2.2)
      | '\x7d' :: rest => ([(.text name, value)], true, rest)
      | rest => ([(.text name, value)], false, rest) := by
  have hname : scanText (name.toList.flatMap escaped ++ '"' :: ':' :: cs) =
      (.text name, ':' :: cs) := scanText_writeText name (':' :: cs)
  have hcolon : skipBlanks (':' :: cs) = ':' :: cs := skipBlanks_cons (by decide) cs
  rw [scanMembers, writeText, List.append_assoc, List.cons_append, skipBlanks_cons (by decide)]
  simp only [List.singleton_append, hname, hcolon, hvalue]
  exact if_pos hwhole

/-- Blanks before a member do not matter. -/
theorem scanMembers_blanks {blanks : List Char} (h : ∀ c ∈ blanks, isBlank c) {bound : Nat}
    (hbound : 0 < bound) (cs : List Char) :
    scanMembers bound (blanks ++ cs) = scanMembers bound cs := by
  obtain ⟨bound, rfl⟩ := Nat.exists_eq_add_one.2 hbound
  rw [scanMembers, scanMembers, skipBlanks_append h]

/-- Blanks before an item do not matter. -/
theorem scanItems_blanks {blanks : List Char} (h : ∀ c ∈ blanks, isBlank c) {bound : Nat}
    (hbound : 1 < bound) (cs : List Char) :
    scanItems bound (blanks ++ cs) = scanItems bound cs := by
  obtain ⟨bound, rfl⟩ := Nat.exists_eq_add_one.2 (Nat.lt_of_succ_lt hbound)
  rw [scanItems, scanItems, scanValue_blanks h (by omega)]

/-- A written value begins with a character that is neither a blank nor the end of a list. -/
theorem exists_write_eq (l : Layout) (level : Nat) (j : Json) :
    ∃ c cs, l.write level j = c :: cs ∧ ¬isBlank c ∧ c ≠ ']' := by
  cases j with
  | null => exact ⟨'n', _, rfl, by decide, by decide⟩
  | number n =>
    obtain ⟨c, cs, hcs, hdigit⟩ := exists_toDigits_eq n
    refine ⟨c, cs, hcs, not_isBlank_of_isDigit hdigit, ?_⟩
    rintro rfl
    exact absurd hdigit (by decide)
  | string s => exact ⟨'"', _, rfl, by decide, by decide⟩
  | array items => cases items <;> exact ⟨'[', _, rfl, by decide, by decide⟩
  | object members => cases members <;> exact ⟨'\x7b', _, rfl, by decide, by decide⟩

theorem length_write_pos (l : Layout) (level : Nat) (j : Json) : 0 < (l.write level j).length := by
  obtain ⟨c, cs, hcs, -⟩ := exists_write_eq l level j
  rw [hcs]
  exact Nat.zero_lt_succ _

/-! ## Written values -/

section Written

variable (l : Layout)

mutual

theorem scanValue_write : ∀ (j : Json) (level bound : Nat) (rest : List Char), InRange j →
    FollowsValue rest → 2 * (l.write level j).length ≤ bound →
    scanValue bound (l.write level j ++ rest) = (.ofJson j, rest)
  | .null, level, bound + 1, rest, _, _, _ => rfl
  | .number n, level, bound + 1, rest, hrange, hrest, _ =>
    scanValue_toDigits hrange hrest (Nat.zero_lt_succ bound)
  | .string s, level, bound + 1, rest, _, _, _ =>
    scanValue_writeText s rest (Nat.zero_lt_succ bound)
  | .array [], level, bound + 1, rest, _, _, _ => rfl
  | .object [], level, bound + 1, rest, _, _, _ => rfl
  | .array (item :: others), level, bound + 1, rest, hrange, _, hbound => by
    simp only [Layout.write, List.length_append, List.length_cons, List.length_nil] at hbound
    have hitems := scanItems_write (item :: others) item others rfl (level + 1) bound
      (l.lineStart level) rest hrange (l.isBlank_lineStart level)
      (by rw [List.length_append]; omega)
    obtain ⟨c, cs, hcs, hblank, hc⟩ := exists_write_eq l (level + 1) item
    simp only [Layout.write, List.append_assoc, List.cons_append, List.nil_append]
    rw [hcs, List.cons_append] at hitems ⊢
    refine scanValue_list ?_ hc hitems
    rw [skipBlanks_append (l.isBlank_lineStart (level + 1)), skipBlanks_cons hblank]
  | .object ((name, value) :: others), level, bound + 1, rest, hrange, _, hbound => by
    simp only [Layout.write, List.length_append, List.length_cons, List.length_nil] at hbound
    have hmembers := scanMembers_write ((name, value) :: others) name value others rfl (level + 1)
      bound (l.lineStart level) rest hrange (l.isBlank_lineStart level)
      (by simp only [List.length_append, List.length_cons]; omega)
    simp only [Layout.write, List.append_assoc, List.cons_append, List.nil_append]
    rw [writeText, List.append_assoc, List.cons_append] at hmembers ⊢
    refine scanValue_object ?_ (by decide) hmembers
    rw [skipBlanks_append (l.isBlank_lineStart (level + 1)), skipBlanks_cons (by decide)]
  | j, level, 0, _, _, _, hbound => by
    have hpos := length_write_pos l level j
    omega

theorem scanItems_write : ∀ (items : List Json) (item : Json) (others : List Json),
    items = item :: others → ∀ (level bound : Nat) (close rest : List Char),
    ItemsInRange items → (∀ c ∈ close, isBlank c) →
    2 * (l.write level item ++ l.writeItems level others).length + 1 ≤ bound →
    scanItems bound (l.write level item ++ (l.writeItems level others ++ (close ++ ']' :: rest))) =
      (Draft.ofItems items, true, rest)
  | item :: others, _, _, rfl, level, bound + 1, close, rest, hrange, hclose, hbound => by
    obtain ⟨hitem, hothers⟩ := hrange
    rw [List.length_append] at hbound
    cases others with
    | nil =>
      have hend : skipBlanks (close ++ ']' :: rest) = ']' :: rest := by
        rw [skipBlanks_append hclose, skipBlanks_cons (by decide)]
      have hfollows : FollowsValue (close ++ ']' :: rest) :=
        followsValue_append hclose (.inr (.inr (.inl rfl)))
      have hread := scanValue_write item level bound _ hitem hfollows (by omega)
      rw [Layout.writeItems, List.nil_append, scanItems_succ hread (Draft.isWhole_ofJson item),
        hend]
      rfl
    | cons next others =>
      have hread := scanValue_write item level bound
        (l.writeItems level (next :: others) ++ (close ++ ']' :: rest)) hitem (.inr (.inl rfl))
        (by omega)
      simp only [Layout.writeItems, List.length_cons, List.length_append] at hbound
      have hpos := length_write_pos l level next
      have hnext := scanItems_write (next :: others) next others rfl level bound close rest hothers
        hclose (by rw [List.length_append]; omega)
      rw [scanItems_succ hread (Draft.isWhole_ofJson item)]
      simp only [Layout.writeItems, List.append_assoc, List.cons_append]
      rw [skipBlanks_cons (by decide)]
      simp only [scanItems_blanks (l.isBlank_lineStart level) (show 1 < bound by omega), hnext]
      rfl

theorem scanMembers_write : ∀ (members : List (String × Json)) (name : String) (value : Json)
    (others : List (String × Json)), members = (name, value) :: others →
    ∀ (level bound : Nat) (close rest : List Char),
    MembersInRange members → (∀ c ∈ close, isBlank c) →
    2 * (writeText name ++ ':' :: (l.gap ++ (l.write level value ++
      l.writeMembers level others))).length + 1 ≤ bound →
    scanMembers bound (writeText name ++ ':' :: (l.gap ++ (l.write level value ++
      (l.writeMembers level others ++ (close ++ '\x7d' :: rest))))) =
      (Draft.ofMembers members, true, rest)
  | (name, value) :: others, _, _, _, rfl, level, bound + 1, close, rest, hrange, hclose,
      hbound => by
    obtain ⟨hvalue, hothers⟩ := hrange
    simp only [List.length_append, List.length_cons] at hbound
    have hpos := length_write_pos l level value
    have hread (after : List Char) (hafter : FollowsValue after) :
        scanValue bound (l.gap ++ (l.write level value ++ after)) = (.ofJson value, after) := by
      rw [scanValue_blanks l.isBlank_gap (by omega)]
      exact scanValue_write value level bound after hvalue hafter (by omega)
    cases others with
    | nil =>
      have hend : skipBlanks (close ++ '\x7d' :: rest) = '\x7d' :: rest := by
        rw [skipBlanks_append hclose, skipBlanks_cons (by decide)]
      have hfollows : FollowsValue (close ++ '\x7d' :: rest) :=
        followsValue_append hclose (.inr (.inr (.inr rfl)))
      rw [Layout.writeMembers, List.nil_append,
        scanMembers_succ (hread _ hfollows) (Draft.isWhole_ofJson value), hend]
      rfl
    | cons next others =>
      obtain ⟨next, nextValue⟩ := next
      have hfollows : FollowsValue
          (l.writeMembers level ((next, nextValue) :: others) ++ (close ++ '\x7d' :: rest)) :=
        .inr (.inl rfl)
      simp only [Layout.writeMembers, List.length_cons, List.length_append] at hbound
      have hnext := scanMembers_write ((next, nextValue) :: others) next nextValue others rfl level
        bound close rest hothers hclose (by simp only [List.length_append, List.length_cons]; omega)
      rw [scanMembers_succ (hread _ hfollows) (Draft.isWhole_ofJson value)]
      simp only [Layout.writeMembers, List.append_assoc, List.cons_append]
      rw [skipBlanks_cons (by decide)]
      simp only [scanMembers_blanks (l.isBlank_lineStart level) (show 0 < bound by omega), hnext]
      rfl

end

end Written

/-- **A written value is read as its draft**, in whatever layout it is written. -/
theorem Draft.scan_write (l : Layout) {j : Json} (h : InRange j) {text : String}
    (htext : text.toList = l.write 0 j) : Draft.scan text = (.ofJson j, []) := by
  have hlength : text.length = (l.write 0 j).length := by
    rw [← htext, String.length_toList]
  have hread := scanValue_write l j 0 (2 * text.length + 2) [] h trivial (by omega)
  rwa [List.append_nil, ← htext] at hread

end ShellPages.Json
