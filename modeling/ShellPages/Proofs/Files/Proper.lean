import Mathlib.Data.List.Induction
import ShellPages.Files.Tree

/-!
# Proper trees

A tree may list anything at any place. In a proper one every entry stands in a directory, under a
name that a directory can hold. The empty tree is proper, and a tree stays so when something new is
put into one of its directories (`IsProper.set`). Nothing stands below a file
(`IsProper.get?_append_eq_none`), and a directory lists exactly what stands in it
(`mem_list_iff`).
-/

namespace ShellPages.Files

/-- A name that a directory can hold. -/
structure IsName (name : String) : Prop where
  not_idle : ¬isIdle name
  not_parent : name ≠ ".."
  no_slash : '/' ∉ name.toList
  no_zero : '\x00' ∉ name.toList
  short : name.utf8ByteSize ≤ Tree.maxName

instance (name : String) : Decidable (IsName name) :=
  decidable_of_iff
    (¬isIdle name ∧ name ≠ ".." ∧ '/' ∉ name.toList ∧ '\x00' ∉ name.toList ∧
      name.utf8ByteSize ≤ Tree.maxName)
    ⟨fun ⟨h₁, h₂, h₃, h₄, h₅⟩ => ⟨h₁, h₂, h₃, h₄, h₅⟩,
      fun ⟨h₁, h₂, h₃, h₄, h₅⟩ => ⟨h₁, h₂, h₃, h₄, h₅⟩⟩

namespace Tree

variable {t : Tree} {place : Place} {name : String} {entry : Entry}

/-! ## What there is at a place -/

theorem get?_of_ne_nil (t : Tree) (h : place ≠ []) : t.get? place = t.entries.lookup place := by
  cases place with
  | nil => exact absurd rfl h
  | cons first rest => rfl

theorem lookup_eq_some_iff {entries : List (Place × Entry)} (h : (entries.map Prod.fst).Nodup) :
    entries.lookup place = some entry ↔ (place, entry) ∈ entries := by
  induction entries with
  | nil => simp
  | cons first rest ih =>
    obtain ⟨p, e⟩ := first
    obtain ⟨hp, hrest⟩ := List.nodup_cons.1 h
    rw [List.lookup_cons, List.mem_cons, Prod.mk.injEq]
    by_cases heq : place = p
    · subst heq
      have hnot : (place, entry) ∉ rest := fun hmem => hp (List.mem_map.2 ⟨_, hmem, rfl⟩)
      simp [hnot, eq_comm]
    · rw [beq_eq_false_iff_ne.2 heq, ih hrest]
      simp [heq]

/-- What there is at a place, other than the root, is what the tree lists there. -/
theorem get?_eq_some_iff (h : place ≠ []) :
    t.get? place = some entry ↔ (place, entry) ∈ t.entries := by
  rw [get?_of_ne_nil t h, lookup_eq_some_iff t.distinct]

theorem lookup_filter {entries : List (Place × Entry)} {p : Place → Bool} (h : p place) :
    (entries.filter fun e => p e.1).lookup place = entries.lookup place := by
  induction entries with
  | nil => rfl
  | cons first rest ih =>
    obtain ⟨q, e⟩ := first
    rw [List.filter_cons]
    by_cases hq : p q
    · rw [if_pos hq, List.lookup_cons, List.lookup_cons, ih]
    · have hne : (place == q) = false := beq_eq_false_iff_ne.2 fun heq => hq (heq ▸ h)
      rw [if_neg hq, List.lookup_cons, hne, ih]

/-- Setting an entry changes what there is at its place and nothing else. -/
theorem get?_set (t : Tree) (place : Place) (name : String) (entry : Entry) (other : Place) :
    (t.set (place ++ [name]) entry).get? other =
      if other = place ++ [name] then some entry else t.get? other := by
  rcases List.eq_nil_or_concat other with rfl | ⟨front, last, rfl⟩
  · simp [get?]
  · rw [List.concat_eq_append, get?_of_ne_nil _ (by simp), get?_of_ne_nil _ (by simp), set,
      List.lookup_cons]
    by_cases h : front ++ [last] = place ++ [name]
    · simp [h]
    · rw [if_neg h, beq_eq_false_iff_ne.2 h]
      exact lookup_filter (p := (· != place ++ [name])) (bne_iff_ne.2 h)

/-- The name of an entry in a directory, with what it stands for. -/
def nameIn? (place : Place) : Place × Entry → Option (String × Entry)
  | (p, entry) =>
    match p.getLast? with
    | some name => if p.dropLast == place then some (name, entry) else none
    | none => none

theorem list_eq_filterMap (t : Tree) (place : Place) :
    t.list place = t.entries.filterMap (nameIn? place) := rfl

theorem nameIn?_eq_some_iff {p : Place} {e : Entry} :
    nameIn? place (p, e) = some (name, entry) ↔ p = place ++ [name] ∧ e = entry := by
  rcases List.eq_nil_or_concat p with rfl | ⟨front, last, rfl⟩
  · simp [nameIn?]
  · rw [List.concat_eq_append, List.append_singleton_inj]
    simp [nameIn?, and_assoc]

/-- A directory lists the names in it, each with what it stands for. -/
theorem mem_list_iff : (name, entry) ∈ t.list place ↔ t.get? (place ++ [name]) = some entry := by
  rw [get?_eq_some_iff (by simp), list_eq_filterMap, List.mem_filterMap]
  simp only [Prod.exists, nameIn?_eq_some_iff]
  constructor
  · rintro ⟨_, _, hmem, rfl, rfl⟩
    exact hmem
  · exact fun hmem => ⟨_, _, hmem, rfl, rfl⟩

/-- No name is listed twice. -/
theorem pairwise_list (t : Tree) (place : Place) :
    (t.list place).Pairwise fun x y => x.1 ≠ y.1 := by
  refine (List.pairwise_map.1 t.distinct).filterMap _ ?_
  rintro ⟨p, e⟩ ⟨q, f⟩ hne ⟨name, entry⟩ hname ⟨other, entry'⟩ hother rfl
  obtain ⟨rfl, -⟩ := nameIn?_eq_some_iff.1 hname
  obtain ⟨rfl, -⟩ := nameIn?_eq_some_iff.1 hother
  exact hne rfl

/-! ## Files below a place -/

/-- The regular files below a place, each with the path that leads to it from there. -/
def filesBelow (t : Tree) (top : Place) : List (String × ByteArray) :=
  t.entries.filterMap fun (place, entry) =>
    match entry with
    | .file bytes =>
      if top.isPrefixOf place && place != top then
        some (joinParts (place.drop top.length), bytes)
      else none
    | _ => none

theorem mem_filesBelow_iff {top : Place} {path : String} {bytes : ByteArray} :
    (path, bytes) ∈ t.filesBelow top ↔
      ∃ names ≠ [], path = joinParts names ∧ t.get? (top ++ names) = some (.file bytes) := by
  rw [filesBelow, List.mem_filterMap]
  constructor
  · rintro ⟨⟨p, e⟩, hmem, h⟩
    cases e with
    | directory => cases h
    | link target => cases h
    | file b =>
      simp only [Option.ite_none_right_eq_some, Bool.and_eq_true, List.isPrefixOf_iff_prefix,
        bne_iff_ne, Option.some.injEq, Prod.mk.injEq] at h
      obtain ⟨⟨⟨names, rfl⟩, hne⟩, rfl, rfl⟩ := h
      have hnames : names ≠ [] := by simpa using hne
      refine ⟨names, hnames, by rw [List.drop_left], ?_⟩
      exact (get?_eq_some_iff (by simp [hnames])).2 hmem
  · rintro ⟨names, hnames, rfl, hget⟩
    refine ⟨_, (get?_eq_some_iff (by simp [hnames])).1 hget, ?_⟩
    simp [hnames]

/-! ## Proper trees -/

/-- A tree in which everything stands in a directory, under a name that a directory can hold. -/
structure IsProper (t : Tree) : Prop where
  name : ∀ {place name entry}, t.get? (place ++ [name]) = some entry → IsName name
  parent : ∀ {place name entry}, t.get? (place ++ [name]) = some entry →
    t.get? place = some .directory

theorem isProper_empty : empty.IsProper := by
  constructor <;> intro place name entry h <;> rw [get?_eq_some_iff (by simp)] at h <;> cases h

/-- A tree stays proper when something new is put into one of its directories. -/
theorem IsProper.set (h : t.IsProper) (place : Place) (name : String) (entry : Entry)
    (hname : IsName name) (hplace : t.get? place = some .directory)
    (hfree : t.get? (place ++ [name]) = none) : (t.set (place ++ [name]) entry).IsProper := by
  -- the new entry has nothing below it, so that what was there before keeps its directory
  have hstep : ∀ {p n e}, (t.set (place ++ [name]) entry).get? (p ++ [n]) = some e →
      IsName n ∧ t.get? p = some .directory := by
    intro p n e hget
    rw [get?_set] at hget
    by_cases heq : p ++ [n] = place ++ [name]
    · obtain ⟨rfl, rfl⟩ := List.append_singleton_inj.1 heq
      exact ⟨hname, hplace⟩
    · rw [if_neg heq] at hget
      exact ⟨h.name hget, h.parent hget⟩
  constructor
  · exact fun hget => (hstep hget).1
  · intro p n e hget
    have hp := (hstep hget).2
    rw [get?_set, if_neg, hp]
    rintro rfl
    rw [hfree] at hp
    cases hp

/-- Nothing stands below a place where there is no directory. -/
theorem IsProper.get?_append_eq_none (h : t.IsProper) (hplace : t.get? place ≠ some .directory)
    {names : List String} (hnames : names ≠ []) : t.get? (place ++ names) = none := by
  induction names using List.reverseRecOn with
  | nil => exact absurd rfl hnames
  | append_singleton front last ih =>
    refine Option.eq_none_iff_forall_ne_some.2 fun entry hget => ?_
    rw [← List.append_assoc] at hget
    have hfront := h.parent hget
    rcases List.eq_nil_or_concat front with rfl | ⟨_, _, rfl⟩
    · rw [List.append_nil] at hfront
      exact hplace hfront
    · rw [ih (by simp)] at hfront
      cases hfront

/-- Every name below a directory is one that a directory can hold. -/
theorem IsProper.isName_of_mem (h : t.IsProper) {names : List String}
    (hget : (t.get? (place ++ names)).isSome) : ∀ name ∈ names, IsName name := by
  induction names using List.reverseRecOn with
  | nil => simp
  | append_singleton front last ih =>
    obtain ⟨entry, hget⟩ := Option.isSome_iff_exists.1 hget
    rw [← List.append_assoc] at hget
    have hfront : (t.get? (place ++ front)).isSome := by rw [h.parent hget]; rfl
    intro name hname
    rcases List.mem_append.1 hname with hmem | hmem
    · exact ih hfront name hmem
    · rw [List.mem_singleton.1 hmem]
      exact h.name hget

end Tree

end ShellPages.Files
