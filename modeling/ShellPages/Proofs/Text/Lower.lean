import Mathlib.Data.List.Forall2
import ShellPages.Text.Letter

/-!
# Which texts have a lower-case form in ASCII

Beyond ASCII a single character has a lower-case form in ASCII, and that is the Kelvin sign, whose
form is a small k (`lowerForm_eq_singleton_iff`). The dotted capital I only begins with a letter
of ASCII. So the form of a text is a given text in ASCII exactly if it has as many characters, and
each of them is the character at its place in upper or lower case, or the Kelvin sign in the place
of k (`lower_eq_iff`).
-/

namespace ShellPages.Text

/-- The sign of a unit of temperature, which looks like a capital K. -/
def kelvinSign : Char := '\u212A'

/-- Whether a character stands for one of ASCII: as its lower-case form there, or as the Kelvin
sign for k. -/
def StandsFor (c letter : Char) : Prop :=
  c.toLower = letter ∨ c = kelvinSign ∧ letter = 'k'

instance (c letter : Char) : Decidable (StandsFor c letter) :=
  inferInstanceAs (Decidable (_ ∨ _))

/-! ## Characters -/

/-- Within ASCII, the form of a character is a single one. -/
theorem lowerForm_of_lt {c : Char} (h : c.toNat < 128) : lowerForm c = [c.toLower] := by
  have hall : ∀ n < 128, lowerForm (Char.ofNat n) = [(Char.ofNat n).toLower] := by decide +kernel
  have hc := hall c.toNat h
  rwa [Char.ofNat_toNat] at hc

theorem toLower_of_le {c : Char} (h : 128 ≤ c.toNat) : c.toLower = c := by
  refine dif_neg ?_
  rintro ⟨-, hle⟩
  have hZ : c.toNat ≤ 'Z'.toNat := hle
  exact absurd (Nat.le_trans h hZ) (by decide)

/-- The runs with forms in ASCII are the capital letters of ASCII and the Kelvin sign. -/
theorem last_lt_of_image_lt {r : LowerRun} (hr : r ∈ lowerRuns) (h : r.image < 128) :
    r.last < 128 ∨ r = ⟨kelvinSign.toNat, kelvinSign.toNat, 1, 'k'.toNat⟩ := by
  have hall : ∀ r ∈ lowerRuns, r.image < 128 →
      r.last < 128 ∨ r = ⟨kelvinSign.toNat, kelvinSign.toNat, 1, 'k'.toNat⟩ := by decide +kernel
  exact hall r hr h

/-- The form of every character of a run is a character. -/
theorem isValidChar_of_covers {r : LowerRun} (hr : r ∈ lowerRuns) {n : Nat} (h : r.covers n) :
    (r.image + (n - r.first)).isValidChar := by
  have hall : ∀ r ∈ lowerRuns, r.image + (r.last - r.first) < 0xD800 ∨
      0xDFFF < r.image ∧ r.image + (r.last - r.first) < 0x110000 := by decide +kernel
  simp only [LowerRun.covers, Bool.and_eq_true, decide_eq_true_eq] at h
  have hrun := hall r hr
  unfold Nat.isValidChar
  omega

/-- A form in ASCII of a character outside of it is found in a run. -/
theorem exists_run_of_lowerForm {c letter : Char} (hc : 128 ≤ c.toNat)
    (hletter : letter.toNat < 128) (h : lowerForm c = [letter]) :
    ∃ r ∈ lowerRuns, r.covers c.toNat ∧ letter.toNat = r.image + (c.toNat - r.first) := by
  rw [lowerForm] at h
  split at h
  · cases h
  · split at h
    next r hfind =>
      have hr := List.mem_of_find?_eq_some hfind
      have hcovers := (List.find?_eq_some_iff_append.1 hfind).1
      have hvalue := congrArg Char.toNat (List.singleton_inj.1 h)
      rw [Char.ofNat, dif_pos (isValidChar_of_covers hr hcovers)] at hvalue
      exact ⟨r, hr, hcovers, hvalue.symm⟩
    next =>
      rw [List.singleton_inj.1 h] at hc
      omega

theorem eq_kelvinSign_of_lowerForm {c letter : Char} (hc : 128 ≤ c.toNat)
    (hletter : letter.toNat < 128) (h : lowerForm c = [letter]) :
    c = kelvinSign ∧ letter = 'k' := by
  obtain ⟨r, hr, hcovers, hvalue⟩ := exists_run_of_lowerForm hc hletter h
  simp only [LowerRun.covers, Bool.and_eq_true, decide_eq_true_eq] at hcovers
  rcases last_lt_of_image_lt hr (by omega) with hlast | rfl
  · omega
  · -- the run has a single character
    have hkelvin : c.toNat = kelvinSign.toNat := Nat.le_antisymm hcovers.1.2 hcovers.1.1
    rw [hkelvin, Nat.sub_self] at hvalue
    exact ⟨Char.toNat_inj.1 hkelvin, Char.toNat_inj.1 hvalue⟩

/-- **Which characters have a form in ASCII**, as a single character. -/
theorem lowerForm_eq_singleton_iff {c letter : Char} (hletter : letter.toNat < 128) :
    lowerForm c = [letter] ↔ StandsFor c letter := by
  rcases Nat.lt_or_ge c.toNat 128 with hc | hc
  · have hne : c ≠ kelvinSign := by
      rintro rfl
      exact absurd hc (by decide)
    rw [lowerForm_of_lt hc, List.singleton_inj, StandsFor]
    exact (or_iff_left fun h => hne h.1).symm
  · have hne : c.toLower ≠ letter := by
      rintro rfl
      rw [toLower_of_le hc] at hletter
      omega
    rw [StandsFor, or_iff_right hne]
    constructor
    · exact eq_kelvinSign_of_lowerForm hc hletter
    · rintro ⟨rfl, rfl⟩
      decide +kernel

/-- The form of a character is another character, or it begins with one and has a second one
outside of ASCII. -/
theorem lowerForm_cases (c : Char) :
    (∃ d, lowerForm c = [d]) ∨ lowerForm c = ['i', '\u0307'] := by
  rw [lowerForm]
  split
  · exact .inr rfl
  · split
    · exact .inl ⟨_, rfl⟩
    · exact .inl ⟨_, rfl⟩

/-! ## Texts -/

theorem flatMap_lowerForm_eq_iff {cs letters : List Char}
    (hletters : ∀ letter ∈ letters, letter.toNat < 128) :
    cs.flatMap lowerForm = letters ↔ List.Forall₂ StandsFor cs letters := by
  induction cs generalizing letters with
  | nil => rw [List.flatMap_nil, List.forall₂_nil_left_iff, eq_comm]
  | cons c cs ih =>
    rw [List.flatMap_cons]
    cases letters with
    | nil =>
      rcases lowerForm_cases c with ⟨d, hform⟩ | hform <;> simp [hform]
    | cons letter letters =>
      rw [List.forall_mem_cons] at hletters
      rw [List.forall₂_cons, ← lowerForm_eq_singleton_iff hletters.1, ← ih hletters.2]
      rcases lowerForm_cases c with ⟨d, hform⟩ | hform
      · simp [hform]
      · -- the second character of the form is not in ASCII
        have hne : '\u0307' :: cs.flatMap lowerForm ≠ letters := by
          rintro rfl
          exact absurd (hletters.2 _ List.mem_cons_self) (by decide)
        simp [hform, hne]

/-- **Which texts have a form in ASCII.** They have as many characters, each of which stands for
the one at its place. -/
theorem lower_eq_iff {text name : String} (hname : ∀ letter ∈ name.toList, letter.toNat < 128) :
    lower text = name ↔ List.Forall₂ StandsFor text.toList name.toList := by
  rw [← flatMap_lowerForm_eq_iff hname, lower, ← String.toList_inj, String.toList_ofList]

end ShellPages.Text
