import ShellPages.Json.Draft
import ShellPages.Json.Value

/-!
# Reading written numbers and texts

A number is written by its decimal digits, and these are a numeral that stands for the number as
long as it fits 64 bits (`Numeral.scan?_toDigits`, `Numeral.value?_toDigits`). In a text, each
character is written as itself, as an escape with a letter or as one with a number, and each of them
is read as a part that stands for this character (`exists_scanPieces?_escaped`). So a text is read
as it was, whatever its characters are: `scanText_writeText`.
-/

namespace ShellPages.Json

/-- What may come after a value: nothing, or a character that ends it. -/
def FollowsValue : List Char → Prop
  | [] => True
  | c :: _ => isBlank c ∨ c = ',' ∨ c = ']' ∨ c = '\x7d'

/-- No numeral goes on with what comes after a value. -/
theorem FollowsValue.head_ne {c : Char} {rest : List Char} (h : FollowsValue (c :: rest)) :
    ¬c.isDigit ∧ c ≠ '.' ∧ c ≠ 'e' ∧ c ≠ 'E' := by
  rcases h with h | rfl | rfl | rfl
  · simp only [isBlank, Bool.or_eq_true, beq_iff_eq] at h
    rcases h with ((rfl | rfl) | rfl) | rfl <;> decide
  all_goals decide

/-! ## Numbers -/

theorem not_isBlank_of_isDigit {c : Char} (h : c.isDigit) : ¬isBlank c := by
  intro hblank
  have hfollows : FollowsValue [c] := .inl hblank
  exact hfollows.head_ne.1 h

/-- A written number begins with a digit. -/
theorem exists_toDigits_eq (n : Nat) : ∃ c cs, Nat.toDigits 10 n = c :: cs ∧ c.isDigit := by
  obtain ⟨c, cs, hcs⟩ := List.exists_cons_of_ne_nil (Nat.toDigits_ne_nil (n := n) (b := 10))
  have hmem : c ∈ Nat.toDigits 10 n := hcs ▸ List.mem_cons_self
  exact ⟨c, cs, hcs, Nat.isDigit_of_mem_toDigits (by decide) (by decide) hmem⟩

namespace Numeral

theorem scanDigits?_append {digits rest : List Char} (hdigits : ∀ c ∈ digits, c.isDigit)
    (hne : digits ≠ []) (hrest : FollowsValue rest) :
    scanDigits? (digits ++ rest) = some (digits, rest) := by
  have hstop : rest.takeWhile Char.isDigit = [] ∧ rest.dropWhile Char.isDigit = rest := by
    cases rest with
    | nil => exact ⟨rfl, rfl⟩
    | cons c rest =>
      have hc := hrest.head_ne.1
      exact ⟨List.takeWhile_cons_of_neg hc, List.dropWhile_cons_of_neg hc⟩
  rw [scanDigits?, List.takeWhile_append_of_pos hdigits, List.dropWhile_append_of_pos hdigits,
    hstop.1, hstop.2, List.append_nil]
  obtain ⟨c, cs, rfl⟩ := List.exists_cons_of_ne_nil hne
  rfl

/-- A number above zero has no zero in front. -/
theorem head?_toDigits_ne {n : Nat} (h : 0 < n) : (Nat.toDigits 10 n).head? ≠ some '0' := by
  induction n using Nat.strongRecOn with
  | ind n ih =>
    by_cases hlt : n < 10
    · rw [Nat.toDigits_of_lt_base hlt, List.head?_cons, ne_eq, Option.some.injEq,
        Nat.digitChar_eq_zero]
      exact Nat.ne_of_gt h
    · obtain ⟨c, cs, hcs, -⟩ := exists_toDigits_eq (n / 10)
      have hc := ih (n / 10) (by omega) (by omega)
      rw [Nat.toDigits_of_base_le (by decide) (by omega), hcs]
      rwa [hcs] at hc

theorem scanWhole?_toDigits (n : Nat) {rest : List Char} (h : FollowsValue rest) :
    scanWhole? (Nat.toDigits 10 n ++ rest) = some (Nat.toDigits 10 n, rest) := by
  have hdigits : scanDigits? (Nat.toDigits 10 n ++ rest) = some (Nat.toDigits 10 n, rest) :=
    scanDigits?_append (fun c => Nat.isDigit_of_mem_toDigits (by decide) (by decide))
      Nat.toDigits_ne_nil h
  rw [scanWhole?, hdigits, Option.bind_eq_bind, Option.bind_some]
  rcases Nat.eq_zero_or_pos n with rfl | hn
  · rfl
  · simp [head?_toDigits_ne hn]

theorem scanFraction?_of_follows {rest : List Char} (h : FollowsValue rest) :
    scanFraction? rest = some (none, rest) := by
  cases rest with
  | nil => rfl
  | cons c rest =>
    obtain ⟨-, hpoint, -⟩ := h.head_ne
    rw [scanFraction?]
    simp [hpoint]

theorem scanExponent?_of_follows {rest : List Char} (h : FollowsValue rest) :
    scanExponent? rest = some (none, rest) := by
  cases rest with
  | nil => rfl
  | cons c rest =>
    obtain ⟨-, -, hlower, hupper⟩ := h.head_ne
    simp [scanExponent?, hlower, hupper]

/-- What is written for a number is a numeral of its digits. -/
theorem scan?_toDigits (n : Nat) {rest : List Char} (h : FollowsValue rest) :
    scan? (Nat.toDigits 10 n ++ rest) = some (⟨false, Nat.toDigits 10 n, none, none⟩, rest) := by
  obtain ⟨c, cs, hcs, hdigit⟩ := exists_toDigits_eq n
  have hsign : c ≠ '-' := by
    rintro rfl
    exact absurd hdigit (by decide)
  have hwhole := scanWhole?_toDigits n h
  rw [hcs] at hwhole ⊢
  rw [List.cons_append] at hwhole ⊢
  rw [scan?]
  · simp [hwhole, scanFraction?_of_follows h, scanExponent?_of_follows h]
  · simp [hsign]

theorem absorb_of_le {digits : List Char} {n : Nat}
    (h : Nat.ofDigitChars 10 digits n ≤ maxNatural) :
    absorb n digits = (Nat.ofDigitChars 10 digits n, 0) := by
  induction digits generalizing n with
  | nil => rfl
  | cons c rest ih =>
    have hnext : n * 10 + digitValue c = 10 * n + (c.toNat - '0'.toNat) := by
      rw [Nat.mul_comm, digitValue]
    rw [Nat.ofDigitChars_cons] at h ⊢
    have hle : 10 * n + (c.toNat - '0'.toNat) ≤ maxNatural := by
      refine Nat.le_trans ?_ h
      rw [Nat.ofDigitChars_eq_ofDigitChars_zero]
      exact Nat.le_trans (Nat.le_mul_of_pos_left _ (Nat.pow_pos (by decide))) (Nat.le_add_right _ _)
    simp only [absorb, hnext, if_pos hle]
    exact ih h

theorem value?_toDigits {n : Nat} (h : n ≤ maxNatural) :
    (Numeral.mk false (Nat.toDigits 10 n) none none).value? = some (.natural n) := by
  have habsorb : absorb 0 (Nat.toDigits 10 n) = (n, 0) := by
    have hvalue : Nat.ofDigitChars 10 (Nat.toDigits 10 n) 0 = n :=
      Nat.ofDigitChars_toDigits (by decide) (by decide)
    rw [absorb_of_le, hvalue]
    rwa [hvalue]
  simp [value?, habsorb]

end Numeral

/-! ## Texts -/

theorem hexValue?_hexDigit : ∀ n < 16, Text.hexValue? (hexDigit n) = some n := by
  decide

/-- A control character is written as the number of an escape. -/
theorem hexNumber?_control {n : Nat} (h : n < 0x20) :
    Text.hexNumber? ['0', '0', hexDigit (n / 16), hexDigit (n % 16)] = some n := by
  have hzero : Text.hexValue? '0' = some 0 := rfl
  simp only [Text.hexNumber?, List.foldlM_cons, List.foldlM_nil, hzero,
    hexValue?_hexDigit (n / 16) (by omega), hexValue?_hexDigit (n % 16) (by omega),
    Option.bind_eq_bind, Option.bind_some, Option.pure_def, Option.some.injEq]
  omega

/-- Put a part in front of those that are read. -/
def withPiece (piece : Piece) (read : Option (List Piece × List Char)) :
    Option (List Piece × List Char) :=
  read.map fun x => (piece :: x.1, x.2)

theorem scanPieces?_letter {letter c : Char} (hu : letter ≠ 'u') (h : escapedChar? letter = some c)
    (rest : List Char) :
    scanPieces? ('\\' :: letter :: rest) = withPiece (.char c) (scanPieces? rest) := by
  rw [scanPieces?]
  · rw [h]
    cases scanPieces? rest <;> rfl
  · simp [hu]

theorem scanPieces?_number {a b c d : Char} {n : Nat} (h : Text.hexNumber? [a, b, c, d] = some n)
    (rest : List Char) :
    scanPieces? ('\\' :: 'u' :: a :: b :: c :: d :: rest) =
      withPiece (.unit n) (scanPieces? rest) := by
  rw [scanPieces?, h]
  cases scanPieces? rest <;> rfl

theorem scanPieces?_plain {c : Char} (hquote : c ≠ '"') (hslash : c ≠ '\\')
    (hplain : ¬c.toNat < 0x20) (rest : List Char) :
    scanPieces? (c :: rest) = withPiece (.char c) (scanPieces? rest) := by
  rw [scanPieces?]
  · simp only [hplain, hslash, decide_false, beq_iff_eq, Bool.false_or, if_false]
    cases scanPieces? rest <;> rfl
  all_goals simp [hquote, hslash]

/-- A written character is read as itself or as its number, if it is a control character. -/
theorem exists_scanPieces?_escaped (c : Char) :
    ∃ piece, (piece = .char c ∨ piece = .unit c.toNat ∧ c.toNat < 0x20) ∧
      ∀ rest, scanPieces? (escaped c ++ rest) = withPiece piece (scanPieces? rest) := by
  unfold escaped
  split
  case h_8 hquote hslash _ _ _ _ _ =>
    split
    · next hcontrol =>
      exact ⟨.unit c.toNat, .inr ⟨rfl, hcontrol⟩, scanPieces?_number (hexNumber?_control hcontrol)⟩
    · next hplain => exact ⟨.char c, .inl rfl, scanPieces?_plain hquote hslash hplain⟩
  all_goals exact ⟨_, .inl rfl, scanPieces?_letter (by decide) rfl⟩

/-- A number that is no half of a pair stands for its character. -/
theorem assemble?_unit {n : Nat} (h : n < 0xD800) (pieces : List Piece) :
    assemble? (.unit n :: pieces) = (assemble? pieces).map (Char.ofNat n :: ·) := by
  have hleading : isLeading n = false := by simp [isLeading]; omega
  have htrailing : isTrailing n = false := by simp [isTrailing]; omega
  rcases pieces with _ | ⟨c | m, pieces⟩
  · simp [assemble?, hleading, htrailing]
  · simp only [assemble?, hleading, htrailing, Bool.or_false, Bool.false_eq_true, if_false]
    cases assemble? pieces <;> rfl
  · simp only [assemble?, hleading, htrailing, Bool.or_false, Bool.false_and, Bool.false_eq_true,
      if_false]
    cases assemble? (.unit m :: pieces) <;> rfl

/-- What is written for characters is read as parts that stand for these characters. -/
theorem exists_scanPieces?_flatMap (cs rest : List Char) :
    ∃ pieces, assemble? pieces = some cs ∧
      scanPieces? (cs.flatMap escaped ++ '"' :: rest) = some (pieces, rest) := by
  induction cs with
  | nil => exact ⟨[], rfl, rfl⟩
  | cons c cs ih =>
    obtain ⟨pieces, hassemble, hscan⟩ := ih
    obtain ⟨piece, hpiece, hread⟩ := exists_scanPieces?_escaped c
    refine ⟨piece :: pieces, ?_, ?_⟩
    · rcases hpiece with rfl | ⟨rfl, hcontrol⟩
      · simp [assemble?, hassemble]
      · rw [assemble?_unit (by omega), hassemble, Option.map_some, Char.ofNat_toNat]
    · rw [List.flatMap_cons, List.append_assoc, hread, hscan]
      rfl

theorem scanText_writeText (s : String) (rest : List Char) :
    scanText (s.toList.flatMap escaped ++ '"' :: rest) = (.text s, rest) := by
  obtain ⟨pieces, hassemble, hscan⟩ := exists_scanPieces?_flatMap s.toList rest
  simp only [scanText, hscan, hassemble, String.ofList_toList]

end ShellPages.Json
