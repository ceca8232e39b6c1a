import ShellPages.Source.Chain

/-!
# The places of a chain

The sources of a chain stand at places, and the chains among them hold further ones below.
`Source.listing` goes through all of them, each chain before its members and the members one after
the other. This is the order of the places themselves (`pairwise_listingFrom`), and it leaves none
out (`mem_listingFrom_zero_iff`). A search through the listing goes up to the first source that
answers: `upTo`.
-/

namespace ShellPages

/-! ## Up to the first hit -/

section UpTo

variable {α β : Type} (p : α → Bool)

/-- The elements of a list up to the first that satisfies a test, with that one. -/
def upTo : List α → List α
  | [] => []
  | a :: rest => if p a then [a] else a :: upTo rest

theorem upTo_cons_of_pos {a : α} (h : p a) (rest : List α) : upTo p (a :: rest) = [a] := by
  rw [upTo, if_pos h]

theorem upTo_cons_of_neg {a : α} (h : ¬p a) (rest : List α) :
    upTo p (a :: rest) = a :: upTo p rest := by
  rw [upTo, if_neg h]

theorem upTo_append_of_any {l : List α} (h : l.any p) (rest : List α) :
    upTo p (l ++ rest) = upTo p l := by
  induction l with
  | nil => simp at h
  | cons a l ih =>
    by_cases ha : p a
    · rw [List.cons_append, upTo_cons_of_pos p ha, upTo_cons_of_pos p ha]
    · have hl : l.any p := by simpa [ha] using h
      rw [List.cons_append, upTo_cons_of_neg p ha, upTo_cons_of_neg p ha, ih hl]

theorem upTo_append_of_not_any {l : List α} (h : ¬l.any p) (rest : List α) :
    upTo p (l ++ rest) = l ++ upTo p rest := by
  induction l with
  | nil => rfl
  | cons a l ih =>
    obtain ⟨ha, hl⟩ : ¬p a ∧ ¬l.any p := by simpa using h
    rw [List.cons_append, upTo_cons_of_neg p ha, ih hl, List.cons_append]

theorem upTo_of_not_any {l : List α} (h : ¬l.any p) : upTo p l = l := by
  simpa [upTo] using upTo_append_of_not_any p h []

theorem upTo_map (f : β → α) (l : List β) :
    upTo p (l.map f) = (upTo (fun b => p (f b)) l).map f := by
  induction l with
  | nil => rfl
  | cons b l ih =>
    by_cases hb : p (f b)
    · simp [upTo, hb]
    · simp [upTo, hb, ih]

theorem upTo_eq_take (l : List α) : upTo p l = l.take (upTo p l).length := by
  induction l with
  | nil => rfl
  | cons a l ih =>
    by_cases ha : p a
    · rw [upTo_cons_of_pos p ha, List.length_singleton, List.take_succ_cons, List.take_zero]
    · rw [upTo_cons_of_neg p ha, List.length_cons, List.take_succ_cons, ← ih]

theorem upTo_sublist (l : List α) : (upTo p l).Sublist l := by
  have h := List.take_sublist (upTo p l).length l
  rwa [← upTo_eq_take] at h

/-- Elements that are no hits may be left out before or after. -/
theorem filter_upTo {q : α → Bool} (h : ∀ a, p a → q a) (l : List α) :
    (upTo p l).filter q = upTo p (l.filter q) := by
  induction l with
  | nil => rfl
  | cons a l ih =>
    by_cases ha : p a
    · rw [upTo_cons_of_pos p ha, List.filter_cons_of_pos (h a ha), List.filter_cons_of_pos (h a ha),
        upTo_cons_of_pos p ha, List.filter_nil]
    · rw [upTo_cons_of_neg p ha]
      by_cases hq : q a
      · rw [List.filter_cons_of_pos hq, List.filter_cons_of_pos hq, upTo_cons_of_neg p ha, ih]
      · rw [List.filter_cons_of_neg hq, List.filter_cons_of_neg hq, ih]

/-- In a list in some order, the elements up to the first hit are those without a hit before. -/
theorem mem_upTo_iff {r : α → α → Prop} (irrefl : ∀ a, ¬r a a) (asymm : ∀ a b, r a b → ¬r b a)
    {l : List α} (h : l.Pairwise r) {a : α} :
    a ∈ upTo p l ↔ a ∈ l ∧ ∀ b ∈ l, r b a → ¬p b := by
  induction l with
  | nil => simp [upTo]
  | cons c l ih =>
    obtain ⟨hc, hl⟩ := List.pairwise_cons.1 h
    by_cases hp : p c
    · rw [upTo_cons_of_pos p hp, List.mem_singleton, List.mem_cons]
      constructor
      · rintro rfl
        refine ⟨.inl rfl, fun b hb hba => ?_⟩
        rcases List.mem_cons.1 hb with rfl | hb
        · exact absurd hba (irrefl b)
        · exact absurd hba (asymm _ _ (hc b hb))
      · rintro ⟨rfl | ha, hbefore⟩
        · rfl
        · exact absurd hp (hbefore c List.mem_cons_self (hc a ha))
    · rw [upTo_cons_of_neg p hp, List.mem_cons, ih hl, List.mem_cons]
      constructor
      · rintro (rfl | ⟨ha, hbefore⟩)
        · refine ⟨.inl rfl, fun b hb hba => ?_⟩
          rcases List.mem_cons.1 hb with rfl | hb
          · exact hp
          · exact absurd hba (asymm _ _ (hc b hb))
        · refine ⟨.inr ha, fun b hb hba => ?_⟩
          rcases List.mem_cons.1 hb with rfl | hb
          · exact hp
          · exact hbefore b hb hba
      · rintro ⟨rfl | ha, hbefore⟩
        · exact .inl rfl
        · exact .inr ⟨ha, fun b hb => hbefore b (List.mem_cons_of_mem c hb)⟩

/-- The first hit is found among the elements up to it. -/
theorem findSome?_upTo (f : α → Option β) (l : List α) :
    (upTo (fun a => (f a).isSome) l).findSome? f = l.findSome? f := by
  induction l with
  | nil => rfl
  | cons a l ih =>
    cases hf : f a with
    | none =>
      rw [upTo_cons_of_neg _ (by simp [hf]), List.findSome?_cons, List.findSome?_cons, hf, ih]
    | some b =>
      rw [upTo_cons_of_pos _ (by simp [hf]), List.findSome?_cons, List.findSome?_cons, hf]

end UpTo

namespace Source

/-! ## All places in order -/

mutual

/-- The places at and below a source, with the source at each: a chain comes before its members.
Places are counted from the source. -/
def listing : Source → List (List Nat × Source)
  | pages name base policy => [([], pages name base policy)]
  | fixed name answer => [([], fixed name answer)]
  | nested members => ([], nested members) :: listingFrom 0 members

/-- The places of sources and below, where the first source has the given position. -/
def listingFrom (position : Nat) : List Source → List (List Nat × Source)
  | [] => []
  | source :: rest =>
    source.listing.map (fun x => (position :: x.1, x.2)) ++ listingFrom (position + 1) rest

end

/-- The source at a place that is counted from a source. -/
def below? (source : Source) : List Nat → Option Source
  | [] => some source
  | position :: place =>
    match source with
    | nested members => at? (position :: place) members
    | _ => none

theorem at?_cons (position : Nat) (place : List Nat) (members : List Source) :
    at? (position :: place) members = members[position]?.bind fun s => s.below? place := by
  cases place with
  | nil => simp [at?, below?]
  | cons next place =>
    rw [at?]
    · rcases members[position]? with _ | source
      · rfl
      · cases source <;> rfl
    · simp

mutual

theorem mem_listing_iff {place : List Nat} {found : Source} :
    ∀ source : Source, (place, found) ∈ source.listing ↔ source.below? place = some found
  | pages name base policy => by
    cases place <;> simp [listing, below?, eq_comm]
  | fixed name answer => by
    cases place <;> simp [listing, below?, eq_comm]
  | nested members => by
    cases place with
    | nil => simp [listing, below?, mem_listingFrom_iff members, eq_comm]
    | cons position place =>
      simp only [listing, below?, List.mem_cons, Prod.mk.injEq, reduceCtorEq, false_and, false_or,
        mem_listingFrom_iff members, Nat.zero_add]
      constructor
      · rintro ⟨i, rest, h, hfound⟩
        cases h
        exact hfound
      · exact fun h => ⟨position, place, rfl, h⟩

theorem mem_listingFrom_iff {place : List Nat} {found : Source} {position : Nat} :
    ∀ members : List Source, (place, found) ∈ listingFrom position members ↔
      ∃ i rest, place = (position + i) :: rest ∧ at? (i :: rest) members = some found
  | [] => by simp [listingFrom, at?_cons]
  | source :: members => by
    rw [listingFrom, List.mem_append, List.mem_map, mem_listingFrom_iff members]
    constructor
    · rintro (⟨⟨inner, s⟩, hs, h⟩ | ⟨i, rest, rfl, h⟩)
      · obtain ⟨rfl, rfl⟩ := Prod.mk.injEq .. ▸ h
        exact ⟨0, inner, rfl, by simpa [at?_cons] using (mem_listing_iff source).1 hs⟩
      · exact ⟨i + 1, rest, by rw [Nat.add_right_comm, Nat.add_assoc], by simpa [at?_cons] using h⟩
    · rintro ⟨i, rest, rfl, h⟩
      rw [at?_cons] at h
      cases i with
      | zero => exact .inl ⟨(rest, found), (mem_listing_iff source).2 (by simpa using h), rfl⟩
      | succ i =>
        exact .inr ⟨i, rest, by rw [Nat.add_right_comm, Nat.add_assoc], by simpa [at?_cons] using h⟩

end

/-- **The listing of a chain has every place, with the source there.** -/
theorem mem_listingFrom_zero_iff {place : List Nat} {found : Source} (members : List Source) :
    (place, found) ∈ listingFrom 0 members ↔ at? place members = some found := by
  rw [mem_listingFrom_iff]
  constructor
  · rintro ⟨i, rest, rfl, h⟩
    rwa [Nat.zero_add]
  · intro h
    cases place with
    | nil => simp [at?] at h
    | cons i rest => exact ⟨i, rest, by rw [Nat.zero_add], h⟩

mutual

/-- The listing of a source is in the order of the places. -/
theorem pairwise_listing : ∀ source : Source, source.listing.Pairwise fun x y => x.1 < y.1
  | pages name base policy => List.pairwise_singleton _ _
  | fixed name answer => List.pairwise_singleton _ _
  | nested members => by
    refine List.pairwise_cons.2 ⟨fun x hx => ?_, pairwise_listingFrom members⟩
    obtain ⟨i, rest, h, -⟩ := (mem_listingFrom_iff members).1 hx
    exact h ▸ List.nil_lt_cons _ _

/-- The listing of sources is in the order of the places. -/
theorem pairwise_listingFrom {position : Nat} :
    ∀ members : List Source, (listingFrom position members).Pairwise fun x y => x.1 < y.1
  | [] => List.Pairwise.nil
  | source :: members => by
    refine List.pairwise_append.2 ⟨?_, pairwise_listingFrom members, fun x hx y hy => ?_⟩
    · refine List.pairwise_map.2 ((pairwise_listing source).imp fun h => ?_)
      exact List.cons_lt_cons_iff.2 (.inr ⟨rfl, h⟩)
    · obtain ⟨z, -, rfl⟩ := List.mem_map.1 hx
      obtain ⟨i, rest, h, -⟩ := (mem_listingFrom_iff members).1 hy
      rw [h]
      exact List.cons_lt_cons_iff.2 (.inl (by omega))

end

end Source

end ShellPages
