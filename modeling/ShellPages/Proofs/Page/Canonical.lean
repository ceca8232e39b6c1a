import Mathlib.Logic.Basic
import ShellPages.Proofs.Page.Path

/-!
# Normal forms are canonical

Whether a path is in normal form shows in its text alone (`IsNormal`): such a path is its own
normal form, and no other path is (`isNormal_iff`). The normal form of a path consists of its
ordinary segments, so that two paths with normal forms have the same one exactly if they have the
same ordinary segments (`normalize?_canonical`).
-/

namespace ShellPages.Page

/-- A path in normal form: not empty, with slashes only between other characters, and without a
segment that is one dot or two. -/
structure IsNormal (place : String) : Prop where
  ne_empty : place ≠ ""
  leading : ¬['/'] <+: place.toList
  trailing : ¬['/'] <:+ place.toList
  doubled : ¬['/', '/'] <:+: place.toList
  current : ['.'] ∉ segments place
  parent : parentSegment ∉ segments place

/-! ## Empty segments -/

/-- An empty segment before others is a slash before them. -/
theorem toList_joinSegments_nil_cons {parts : List (List Char)} (h : parts ≠ []) :
    (joinSegments ([] :: parts)).toList = '/' :: (joinSegments parts).toList := by
  rw [joinSegments, joinSegments, String.toList_ofList, String.toList_ofList,
    List.intercalate_cons_of_ne_nil h]
  rfl

theorem segments_of_slash {path : String} {front back : List Char}
    (h : path.toList = front ++ '/' :: back) :
    segments path = front.splitOn '/' ++ back.splitOn '/' := by
  rw [segments, h, List.splitOn_append_cons_self]

/-- A path has an empty segment exactly if it is empty, or a slash stands at one of its ends or
next to another one. -/
theorem nil_mem_segments_iff {path : String} :
    [] ∈ segments path ↔ path = "" ∨ ['/'] <+: path.toList ∨ ['/'] <:+ path.toList ∨
      ['/', '/'] <:+: path.toList := by
  constructor
  · intro hmem
    obtain ⟨front, back, hsegments⟩ := List.append_of_mem hmem
    have hpath : path = joinSegments (front ++ [] :: back) := by
      rw [← hsegments, joinSegments_segments]
    rcases eq_or_ne front [] with rfl | hfront <;> rcases eq_or_ne back [] with rfl | hback
    · exact .inl hpath
    · refine .inr (.inl ⟨(joinSegments back).toList, ?_⟩)
      rw [hpath, List.nil_append, toList_joinSegments_nil_cons hback, List.singleton_append]
    · refine .inr (.inr (.inl ⟨(joinSegments front).toList, ?_⟩))
      rw [hpath, joinSegments_append hfront (List.cons_ne_nil _ _)]
      simp [joinSegments]
    · refine .inr (.inr (.inr ⟨(joinSegments front).toList, (joinSegments back).toList, ?_⟩))
      rw [hpath, joinSegments_append hfront (List.cons_ne_nil _ _)]
      simp [toList_joinSegments_nil_cons hback]
  · rintro (rfl | ⟨back, hpath⟩ | ⟨front, hpath⟩ | ⟨front, back, hpath⟩)
    · decide
    · have hslash : path.toList = [] ++ '/' :: back := hpath.symm
      rw [segments_of_slash hslash]
      simp
    · have hslash : path.toList = front ++ '/' :: [] := hpath.symm
      rw [segments_of_slash hslash]
      simp
    · have hslashes : path.toList = front ++ '/' :: ([] ++ '/' :: back) := by
        rw [← hpath]
        simp
      rw [segments_of_slash hslashes, List.splitOn_append_cons_self]
      simp

/-! ## Normal forms -/

/-- **A path is in normal form** exactly if it is its own normal form. -/
theorem isNormal_iff {place : String} : IsNormal place ↔ normalize? place = some place := by
  constructor
  · intro h
    have hempty : [] ∉ segments place := by
      rw [nil_mem_segments_iff]
      rintro (hne | hleading | htrailing | hdoubled)
      · exact h.ne_empty hne
      · exact h.leading hleading
      · exact h.trailing htrailing
      · exact h.doubled hdoubled
    have hordinary : ordinarySegments place = segments place := by
      refine List.filter_eq_self.2 fun part hpart => ?_
      have hnil : part ≠ [] := fun heq => hempty (heq ▸ hpart)
      have hdot : part ≠ ['.'] := fun heq => h.current (heq ▸ hpart)
      simp [isOrdinary, hnil, hdot]
    refine normalize?_eq_some_iff.2 ?_
    rw [hordinary]
    exact ⟨segments_ne_nil place, h.parent, (joinSegments_segments place).symm⟩
  · intro h
    have hordinary : ∀ part ∈ segments place, isOrdinary part := by
      rw [segments_of_normalize? h]
      exact fun part hpart => (List.mem_filter.1 hpart).2
    have hempty : [] ∉ segments place := fun hmem => absurd (hordinary _ hmem) (by decide)
    rw [nil_mem_segments_iff] at hempty
    simp only [not_or] at hempty
    obtain ⟨hne, hleading, htrailing, hdoubled⟩ := hempty
    refine ⟨hne, hleading, htrailing, hdoubled, ?_, ?_⟩
    · exact fun hmem => absurd (hordinary _ hmem) (by decide)
    · exact parentSegment_mem_ordinarySegments.not.1 (normalize?_eq_some_iff.1 h).2.1

/-- A path is known by its segments. -/
theorem segments_injective : Function.Injective segments :=
  Function.LeftInverse.injective joinSegments_segments

/-- **Normal forms are canonical.** A path has none exactly if it has a segment that leads to a
parent, or only segments that are empty or a dot. Else it is the path of the remaining segments;
it is in normal form itself, and two paths have the same one exactly if their remaining segments
are the same. -/
theorem normalize?_canonical (path : String) :
    (normalize? path = none ↔ parentSegment ∈ segments path ∨
      ∀ part ∈ segments path, part = [] ∨ part = ['.']) ∧
    (∀ place, normalize? path = some place →
      segments place = ordinarySegments path ∧ IsNormal place ∧
        normalize? place = some place) ∧
    ∀ other place place', normalize? path = some place → normalize? other = some place' →
      (place = place' ↔ ordinarySegments path = ordinarySegments other) := by
  refine ⟨?_, fun place h => ?_, fun other place place' h h' => ?_⟩
  · rw [normalize?_eq_none_iff, or_comm]
    simp [isOrdinary, or_iff_not_imp_left]
  · have hself := normalize?_of_normalize? h
    exact ⟨segments_of_normalize? h, isNormal_iff.2 hself, hself⟩
  · rw [← segments_of_normalize? h, ← segments_of_normalize? h']
    exact segments_injective.eq_iff.symm

/-- Segments of three dots, and of two dots with an ending, stay. -/
theorem normalize?_canonical_dots :
    normalize? "//..././/..html/" = some ".../..html" ∧ IsNormal ".../..html" ∧
      normalize? ".../..html" = some ".../..html" ∧
      normalize? "./.../..html" = some ".../..html" ∧
      ordinarySegments "//..././/..html/" = ordinarySegments "./.../..html" := by
  have hpath : normalize? "//..././/..html/" = some ".../..html" := by decide
  have hother : normalize? "./.../..html" = some ".../..html" := by decide
  obtain ⟨-, hplace, hsame⟩ := normalize?_canonical "//..././/..html/"
  obtain ⟨-, hnormal, hself⟩ := hplace _ hpath
  exact ⟨hpath, hnormal, hself, hother, (hsame _ _ _ hpath hother).1 rfl⟩

end ShellPages.Page
