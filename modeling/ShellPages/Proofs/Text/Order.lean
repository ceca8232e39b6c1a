/-!
# The order of texts

Texts are compared character by character. A common beginning does not count
(`append_lt_append_iff`), and what stands at the end counts only where one text is a beginning of
the other (`append_lt_append_of_lt`). Comparing the bytes of two texts gives the same order
(`bytes_lt_iff`): of two different characters the greater one has the greater first byte, or as
many bytes as the smaller one and a greater byte where they differ first.
-/

namespace ShellPages.Text

/-! ## Beginnings and endings -/

theorem append_lt_append_iff (front : List Char) {cs ds : List Char} :
    front ++ cs < front ++ ds ↔ cs < ds := by
  induction front with
  | nil => rfl
  | cons c front ih => simp [ih]

theorem prefix_or_append_lt {cs ds : List Char} (h : cs < ds) :
    (∃ more, ds = cs ++ more) ∨ ∀ us vs, cs ++ us < ds ++ vs := by
  induction cs generalizing ds with
  | nil => exact .inl ⟨ds, rfl⟩
  | cons c cs ih =>
    cases ds with
    | nil => exact absurd h (by simp)
    | cons d ds =>
      rcases List.cons_lt_cons_iff.1 h with hlt | ⟨rfl, hrest⟩
      · exact .inr fun us vs => List.cons_lt_cons_iff.2 (.inl hlt)
      · rcases ih hrest with ⟨more, rfl⟩ | hall
        · exact .inl ⟨more, rfl⟩
        · exact .inr fun us vs => List.cons_lt_cons_iff.2 (.inr ⟨rfl, hall us vs⟩)

/-- A text that is less than another is a beginning of it, or stays less whatever is put at the
end of both. -/
theorem eq_append_or_append_lt {s t : String} (h : s < t) :
    (∃ more, t = s ++ more) ∨ ∀ u v, s ++ u < t ++ v := by
  rcases prefix_or_append_lt (String.lt_iff.1 h) with ⟨more, hmore⟩ | hall
  · refine .inl ⟨String.ofList more, ?_⟩
    rw [← String.toList_inj, hmore]
    simp
  · refine .inr fun u v => ?_
    rw [String.lt_iff, String.toList_append, String.toList_append]
    exact hall _ _

theorem append_lt_append_left_iff (s : String) {t u : String} : s ++ t < s ++ u ↔ t < u := by
  rw [String.lt_iff, String.lt_iff, String.toList_append, String.toList_append,
    append_lt_append_iff]

theorem not_append_lt (s more : String) : ¬s ++ more < s := by
  have hempty : ¬more < "" := by
    rw [String.lt_iff]
    exact List.not_lt_nil more.toList
  rw [← String.append_empty (s := s), String.append_assoc, append_lt_append_left_iff,
    String.empty_append]
  exact hempty

/-! ## The bytes of a character -/

variable {a b : Nat} {cs ds : List UInt8}

theorem cons_lt_cons_of_lt (hb : b < 256) (h : a < b) :
    UInt8.ofNat a :: cs < UInt8.ofNat b :: ds := by
  refine List.cons_lt_cons_iff.2 (.inl ?_)
  rw [UInt8.lt_iff_toNat_lt, UInt8.toNat_ofNat', UInt8.toNat_ofNat']
  omega

/-- Bytes that are not out of order are compared by those after them, where they are the same. -/
theorem cons_lt_cons_of_le (hb : b < 256) (hle : a ≤ b) (h : a = b → cs < ds) :
    UInt8.ofNat a :: cs < UInt8.ofNat b :: ds := by
  rcases Nat.eq_or_lt_of_le hle with rfl | hlt
  · exact List.cons_lt_cons_iff.2 (.inr ⟨rfl, h rfl⟩)
  · exact cons_lt_cons_of_lt hb hlt

/-- Characters that differ are compared inside their encodings, whatever comes after these. -/
theorem utf8EncodeChar_append_lt {c d : Char} (h : c < d) (cs ds : List UInt8) :
    String.utf8EncodeChar c ++ cs < String.utf8EncodeChar d ++ ds := by
  have hlt : c.val.toNat < d.val.toNat := h
  have hmax : d.val.toNat < 0x110000 := by
    have hvalid := d.valid
    omega
  simp only [String.utf8EncodeChar]
  generalize c.val.toNat = v at hlt ⊢
  generalize d.val.toNat = w at hlt hmax ⊢
  -- By the number of bytes of the greater character, then by that of the smaller one.
  by_cases hw1 : w ≤ 127
  · rw [if_pos hw1, if_pos (show v ≤ 127 by omega)]
    exact cons_lt_cons_of_lt (by omega) hlt
  rw [if_neg hw1]
  by_cases hw2 : w ≤ 2047
  · rw [if_pos hw2]
    by_cases hv1 : v ≤ 127
    · rw [if_pos hv1]
      exact cons_lt_cons_of_lt (by omega) (by omega)
    · rw [if_neg hv1, if_pos (show v ≤ 2047 by omega)]
      refine cons_lt_cons_of_le (by omega) (by omega) fun h₁ => ?_
      exact cons_lt_cons_of_lt (by omega) (by omega)
  rw [if_neg hw2]
  by_cases hw3 : w ≤ 65535
  · rw [if_pos hw3]
    by_cases hv1 : v ≤ 127
    · rw [if_pos hv1]
      exact cons_lt_cons_of_lt (by omega) (by omega)
    rw [if_neg hv1]
    by_cases hv2 : v ≤ 2047
    · rw [if_pos hv2]
      exact cons_lt_cons_of_lt (by omega) (by omega)
    · rw [if_neg hv2, if_pos (show v ≤ 65535 by omega)]
      refine cons_lt_cons_of_le (by omega) (by omega) fun h₁ => ?_
      refine cons_lt_cons_of_le (by omega) (by omega) fun h₂ => ?_
      exact cons_lt_cons_of_lt (by omega) (by omega)
  rw [if_neg hw3]
  by_cases hv1 : v ≤ 127
  · rw [if_pos hv1]
    exact cons_lt_cons_of_lt (by omega) (by omega)
  rw [if_neg hv1]
  by_cases hv2 : v ≤ 2047
  · rw [if_pos hv2]
    exact cons_lt_cons_of_lt (by omega) (by omega)
  rw [if_neg hv2]
  by_cases hv3 : v ≤ 65535
  · rw [if_pos hv3]
    exact cons_lt_cons_of_lt (by omega) (by omega)
  · rw [if_neg hv3]
    refine cons_lt_cons_of_le (by omega) (by omega) fun h₁ => ?_
    refine cons_lt_cons_of_le (by omega) (by omega) fun h₂ => ?_
    refine cons_lt_cons_of_le (by omega) (by omega) fun h₃ => ?_
    exact cons_lt_cons_of_lt (by omega) (by omega)

/-! ## The bytes of a text -/

/-- The bytes of a text. -/
def bytes (text : String) : List UInt8 :=
  text.toUTF8.data.toList

theorem bytes_eq_flatMap (text : String) :
    bytes text = text.toList.flatMap String.utf8EncodeChar := by
  rw [bytes, String.toUTF8_eq_toByteArray, ← String.utf8Encode_toList, List.utf8Encode,
    List.data_toByteArray]

theorem flatMap_lt_of_lt {cs ds : List Char} (h : cs < ds) :
    cs.flatMap String.utf8EncodeChar < ds.flatMap String.utf8EncodeChar := by
  induction cs generalizing ds with
  | nil =>
    cases ds with
    | nil => exact absurd h (List.lt_irrefl [])
    | cons d ds =>
      obtain ⟨byte, more, hd⟩ := List.exists_cons_of_ne_nil (@String.utf8EncodeChar_ne_nil d)
      rw [List.flatMap_cons, hd]
      exact List.nil_lt_cons _ _
  | cons c cs ih =>
    cases ds with
    | nil => exact absurd h (by simp)
    | cons d ds =>
      rw [List.flatMap_cons, List.flatMap_cons]
      rcases List.cons_lt_cons_iff.1 h with hlt | ⟨rfl, hrest⟩
      · exact utf8EncodeChar_append_lt hlt _ _
      · exact List.append_left_lt (ih hrest)

/-- **The order of texts is that of their bytes.** -/
theorem bytes_lt_iff {s t : String} : bytes s < bytes t ↔ s < t := by
  have hmono : ∀ {s t : String}, s < t → bytes s < bytes t := by
    intro s t h
    rw [bytes_eq_flatMap, bytes_eq_flatMap]
    exact flatMap_lt_of_lt (String.lt_iff.1 h)
  refine ⟨fun h => ?_, hmono⟩
  rcases Std.lt_trichotomy s t with hlt | rfl | hgt
  · exact hlt
  · exact absurd h (List.lt_irrefl _)
  · exact absurd h (List.lt_asymm (hmono hgt))

end ShellPages.Text
