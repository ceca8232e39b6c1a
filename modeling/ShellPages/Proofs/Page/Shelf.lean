import ShellPages.Page.Store
import ShellPages.Proofs.Page.Path

/-!
# What a shelf holds

A shelf is filled by putting one resource after the other. One `put` sets what stands at the normal
form of its path and leaves every other place alone (`getElem?_put`). So after a run of puts a
place holds the bytes of the last one that led there (`getElem?_putAll`), and everything that a
shelf answers is read off that: `ofList_exact` says what it has at a path, when it is empty, and
that puts at paths without normal form leave no trace.
-/

namespace ShellPages.Shelf

open Page

variable {place path : String} {bytes : ByteArray} {resources : List (String × ByteArray)}

/-! ## One put -/

theorem put_of_normalize? (s : Shelf) (h : normalize? path = some place) :
    (s.put path bytes).entries = s.entries.insert place bytes := by
  rw [put, h]

/-- A put at a path without normal form changes nothing. -/
theorem put_of_no_normalForm (s : Shelf) (h : normalize? path = none) : s.put path bytes = s := by
  rw [put, h]

/-- A put sets what stands at the normal form of its path and nothing else. -/
theorem getElem?_put (s : Shelf) (path : String) (bytes : ByteArray) (place : String) :
    (s.put path bytes).entries[place]? =
      if normalize? path = some place then some bytes else s.entries[place]? := by
  cases h : normalize? path with
  | none => simp [put_of_no_normalForm s h]
  | some target => simp [put_of_normalize? s h, Std.TreeMap.getElem?_insert]

/-! ## A run of puts -/

/-- The bytes that are put at a place, in order. -/
def putsAt (place : String) (resources : List (String × ByteArray)) : List ByteArray :=
  resources.filterMap fun (path, bytes) =>
    if normalize? path = some place then some bytes else none

theorem putAll_cons (s : Shelf) (path : String) (bytes : ByteArray)
    (resources : List (String × ByteArray)) :
    s.putAll ((path, bytes) :: resources) = (s.put path bytes).putAll resources := rfl

theorem putAll_append (s : Shelf) (resources others : List (String × ByteArray)) :
    s.putAll (resources ++ others) = (s.putAll resources).putAll others :=
  List.foldl_append

/-- After a run of puts a place holds what was put there last, or else what it held before. -/
theorem getElem?_putAll (s : Shelf) (resources : List (String × ByteArray)) (place : String) :
    (s.putAll resources).entries[place]? =
      (putsAt place resources).getLast?.or s.entries[place]? := by
  induction resources generalizing s with
  | nil => rfl
  | cons resource rest ih =>
    obtain ⟨path, bytes⟩ := resource
    rw [putAll_cons, ih (s.put path bytes), getElem?_put]
    -- the first put is what the later ones find at the place, if it led there
    by_cases h : normalize? path = some place
    · have hputs : putsAt place ((path, bytes) :: rest) = bytes :: putsAt place rest := by
        simp [putsAt, h]
      rw [hputs, if_pos h, List.getLast?_cons]
      cases (putsAt place rest).getLast? <;> rfl
    · have hputs : putsAt place ((path, bytes) :: rest) = putsAt place rest := by
        simp [putsAt, h]
      rw [hputs, if_neg h]

/-- What was put at a place last: the bytes of a put that no later one replaces. -/
theorem getLast?_putsAt_eq_some_iff : (putsAt place resources).getLast? = some bytes ↔
    ∃ before other after, resources = before ++ (other, bytes) :: after ∧
      normalize? other = some place ∧ ∀ later ∈ after, normalize? later.1 ≠ some place := by
  rw [putsAt, List.getLast?_filterMap, List.findSome?_eq_some_iff]
  simp only [ite_eq_right_iff, reduceCtorEq, imp_false, Option.ite_none_right_eq_some,
    Option.some.injEq]
  constructor
  · rintro ⟨after, ⟨other, _⟩, before, hsplit, ⟨hother, rfl⟩, hafter⟩
    refine ⟨before.reverse, other, after.reverse, ?_, hother, by simpa using hafter⟩
    rw [← List.reverse_reverse resources, hsplit]
    simp
  · rintro ⟨before, other, after, rfl, hother, hafter⟩
    exact ⟨after.reverse, (other, bytes), before.reverse, by simp, ⟨hother, rfl⟩,
      by simpa using hafter⟩

theorem getLast?_putsAt_eq_none_iff : (putsAt place resources).getLast? = none ↔
    ∀ resource ∈ resources, normalize? resource.1 ≠ some place := by
  rw [List.getLast?_eq_none_iff, putsAt, List.filterMap_eq_nil_iff]
  simp

/-! ## A shelf that starts empty -/

theorem getElem?_ofList (resources : List (String × ByteArray)) (place : String) :
    (ofList resources).entries[place]? = (putsAt place resources).getLast? := by
  rw [ofList, getElem?_putAll]
  simp [empty]

/-- A place is taken if a put led there. -/
theorem mem_ofList_iff : place ∈ (ofList resources).entries ↔
    ∃ resource ∈ resources, normalize? resource.1 = some place := by
  rw [← Std.TreeMap.isSome_getElem?_iff_mem, getElem?_ofList, Option.isSome_iff_ne_none, ne_eq,
    getLast?_putsAt_eq_none_iff]
  simp

/-- Resources that are put under normal forms, no two of them under the same, are held as they
were put. -/
theorem getElem?_ofList_eq_some_iff
    (hnormal : ∀ resource ∈ resources, normalize? resource.1 = some resource.1)
    (hnodup : (resources.map Prod.fst).Nodup) :
    (ofList resources).entries[place]? = some bytes ↔ (place, bytes) ∈ resources := by
  rw [getElem?_ofList, getLast?_putsAt_eq_some_iff]
  constructor
  · rintro ⟨before, other, after, rfl, hother, -⟩
    obtain rfl : other = place := by simpa [hnormal (other, bytes) (by simp)] using hother
    simp
  · intro hmem
    obtain ⟨before, after, rfl⟩ := List.append_of_mem hmem
    have hplace : normalize? place = some place := hnormal (place, bytes) hmem
    refine ⟨before, place, after, rfl, hplace, fun later hlater heq => ?_⟩
    -- a later resource under the same path would be a second one
    have hsame : later.1 = place := by simpa [hnormal later (by simp [hlater])] using heq
    rw [List.map_append, List.map_cons, List.nodup_append] at hnodup
    refine (List.nodup_cons.1 hnodup.2.1).1 ?_
    exact List.mem_map.2 ⟨later, hlater, hsame⟩

theorem find?_store (s : Shelf) (path : String) :
    s.store.find? path = ((normalize? path).bind fun place => s.entries[place]?).map .whole := rfl

/-- **A shelf is a map modulo normal forms.** At a path it has the bytes of the last put whose path
has the same normal form, and nothing where there is no such put. Puts at paths without normal form
leave no trace, the shelf is empty exactly before the first other one, and everything is held under
normal forms. -/
theorem ofList_exact (resources : List (String × ByteArray)) :
    (∀ path bytes, (ofList resources).store.find? path = some (.whole bytes) ↔
      ∃ place, normalize? path = some place ∧
        ∃ before other after, resources = before ++ (other, bytes) :: after ∧
          normalize? other = some place ∧ ∀ later ∈ after, normalize? later.1 ≠ some place) ∧
    (∀ path, (ofList resources).store.find? path = none ↔
      normalize? path = none ∨
        ∀ resource ∈ resources, normalize? resource.1 ≠ normalize? path) ∧
    (∀ before path bytes after, resources = before ++ (path, bytes) :: after →
      normalize? path = none → ofList resources = ofList (before ++ after)) ∧
    ((ofList resources).isEmpty ↔ ∀ resource ∈ resources, normalize? resource.1 = none) ∧
    (∀ place ∈ (ofList resources).entries.keys, normalize? place = some place) := by
  refine ⟨?_, ?_, ?_, ?_, ?_⟩
  · intro path bytes
    rw [find?_store]
    cases h : normalize? path with
    | none => simp
    | some place =>
      simp only [Option.bind_some, getElem?_ofList, Option.map_eq_some_iff, Resource.whole.injEq,
        exists_eq_right, getLast?_putsAt_eq_some_iff, Option.some.injEq, exists_eq_left']
  · intro path
    rw [find?_store]
    cases h : normalize? path with
    | none => simp
    | some place =>
      simp only [Option.bind_some, getElem?_ofList, Option.map_eq_none_iff,
        getLast?_putsAt_eq_none_iff, reduceCtorEq, false_or]
  · rintro before path bytes after rfl hpath
    simp only [ofList, putAll_append, putAll_cons, put_of_no_normalForm _ hpath]
  · have hempty : (ofList resources).isEmpty ↔ ∀ place, place ∉ (ofList resources).entries :=
      Std.TreeMap.isEmpty_iff_forall_not_mem
    simp only [hempty, mem_ofList_iff, not_exists, not_and]
    constructor
    · intro h resource hr
      exact Option.eq_none_iff_forall_ne_some.2 fun place => h place resource hr
    · intro h place resource hr
      simp [h resource hr]
  · intro place hplace
    obtain ⟨resource, -, h⟩ := mem_ofList_iff.1 (Std.TreeMap.mem_keys.1 hplace)
    exact normalize?_of_normalize? h

end ShellPages.Shelf
