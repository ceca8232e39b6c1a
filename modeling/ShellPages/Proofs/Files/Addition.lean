import ShellPages.Files.Change
import ShellPages.Proofs.Files.Anchored

/-!
# Adding a file

A file that is put where nothing was changes little about where paths lead. A path that led
somewhere leads to the same place; one that led nowhere may lead to the new file now, or still
nowhere (`gains_follow`). So the directories stay the same (`isDirectory_addFile`), and a path leads
to another file only if it leads to the new one (`file?_addFile`). One directory has one more name
(`list_addFile`).
-/

namespace ShellPages.Files

/-- What becomes of a result when something new comes in: it stays the same, or a failure turns into
the new thing or another failure. -/
inductive Gains {α : Type} (new : α) : Except Fault α → Except Fault α → Prop
  | same (x : Except Fault α) : Gains new x x
  | found (fault : Fault) : Gains new (.error fault) (.ok new)
  | failed (fault other : Fault) : Gains new (.error fault) (.error other)

/-- A check beforehand lets something new come in or not. -/
theorem Gains.after {α : Type} {new : α} {old added : Except Fault α} (h : Gains new old added)
    (check : Except Fault Unit) :
    Gains new (check >>= fun _ => old) (check >>= fun _ => added) := by
  cases check with
  | error fault => exact .same (.error fault)
  | ok _ => exact h

namespace Tree

/-- A tree with a file of the given name in a directory. -/
def addFile (t : Tree) (directory : Place) (name : String) (bytes : ByteArray) : Tree :=
  t.set (directory ++ [name]) (.file bytes)

section

variable {t : Tree} {directory : Place} {name : String} (bytes : ByteArray)
  (hfree : t.get? (directory ++ [name]) = none)

theorem get?_addFile (place : Place) : (t.addFile directory name bytes).get? place =
    if place = directory ++ [name] then some (.file bytes) else t.get? place :=
  get?_set t directory name (.file bytes) place

theorem erase_of_free {place : Place} (hnil : place ≠ []) (hnone : t.get? place = none) :
    (t.erase place).entries = t.entries := by
  refine List.filter_eq_self.2 fun ⟨p, entry⟩ hmem => bne_iff_ne.2 ?_
  rintro rfl
  rw [(get?_eq_some_iff hnil).2 hmem] at hnone
  cases hnone

include hfree

/-! ## Where paths lead -/

/-- Following parts up to the first link, in a tree with a new file. -/
theorem gains_goOn (here : Place) (parts : List String) :
    Gains (.done (directory ++ [name])) (t.goOn here parts)
      ((t.addFile directory name bytes).goOn here parts) := by
  induction parts generalizing here with
  | nil => exact .same _
  | cons part rest ih =>
    rw [goOn, goOn]
    split
    · exact ih here
    split
    · exact ih here.dropLast
    split
    · exact .same _
    by_cases hnew : here ++ [part] = directory ++ [name]
    · -- nothing was there, and a file does not lead on
      rw [get?_addFile, if_pos hnew, hnew, hfree]
      dsimp only
      split
      · exact .found _
      · exact .failed _ _
    · rw [get?_addFile, if_neg hnew]
      split
      · exact .same _
      · exact ih _
      · exact .same _
      · exact .same _

/-- Following parts through links, in a tree with a new file. -/
theorem gains_followParts (links : Nat) (here : Place) (parts : List String) :
    Gains (directory ++ [name]) (t.followParts links here parts)
      ((t.addFile directory name bytes).followParts links here parts) := by
  induction links using Nat.strongRecOn generalizing here parts with
  | ind links ih =>
    have hgo := gains_goOn bytes hfree here parts
    generalize hold : t.goOn here parts = old at hgo
    generalize hadded : (t.addFile directory name bytes).goOn here parts = added at hgo
    cases hgo with
    | found fault =>
      rw [followParts_of_error hold, followParts_of_done hadded]
      exact .found fault
    | failed fault other =>
      rw [followParts_of_error hold, followParts_of_error hadded]
      exact .failed fault other
    | same =>
      cases old with
      | error fault =>
        rw [followParts_of_error hold, followParts_of_error hadded]
        exact .same _
      | ok stop =>
        cases stop with
        | done place =>
          rw [followParts_of_done hold, followParts_of_done hadded]
          exact .same _
        | link place last target rest =>
          cases links with
          | zero =>
            rw [followParts_zero_of_link hold, followParts_zero_of_link hadded]
            exact .same _
          | succ links =>
            rw [followParts_succ_of_link hold, followParts_succ_of_link hadded]
            exact ih links (Nat.lt_succ_self links) _ _

/-- **Where a path leads in a tree with a new file**: to where it led, or from nowhere to the new
file, or still nowhere. -/
theorem gains_follow (cwd : Place) (path : String) :
    Gains (directory ++ [name]) (t.follow cwd path)
      ((t.addFile directory name bytes).follow cwd path) := by
  rw [follow, follow]
  exact (gains_followParts bytes hfree maxLinks (start cwd path) (parts path)).after _

/-- What is at the end of a path, in a tree with a new file. -/
theorem gains_stat (cwd : Place) (path : String) :
    Gains (.file bytes) (t.stat cwd path) ((t.addFile directory name bytes).stat cwd path) := by
  have hfollow := gains_follow bytes hfree cwd path
  rw [stat, stat]
  generalize t.follow cwd path = old at hfollow ⊢
  generalize (t.addFile directory name bytes).follow cwd path = added at hfollow ⊢
  have hget : ∀ place, (t.addFile directory name bytes).get? place =
      if place = directory ++ [name] then some (.file bytes) else t.get? place :=
    get?_addFile bytes
  cases hfollow with
  | found fault => simp only [bind, Except.bind, hget, if_true, Gains.found]
  | failed fault other => exact .failed fault other
  | same =>
    cases old with
    | error fault => exact .same _
    | ok place =>
      simp only [bind, Except.bind, hget]
      by_cases hnew : place = directory ++ [name]
      · rw [if_pos hnew, hnew, hfree]
        exact .found _
      · rw [if_neg hnew]
        exact .same _

/-- The directories stay the same. -/
theorem isDirectory_addFile (cwd : Place) (path : String) :
    (t.addFile directory name bytes).isDirectory cwd path = t.isDirectory cwd path := by
  have hstat := gains_stat bytes hfree cwd path
  rw [isDirectory, isDirectory]
  generalize t.stat cwd path = old at hstat ⊢
  generalize (t.addFile directory name bytes).stat cwd path = added at hstat ⊢
  cases hstat <;> rfl

/-- A path leads to the same file, or to the new one and to none before. -/
theorem file?_addFile_cases (cwd : Place) (path : String) :
    (t.addFile directory name bytes).file? cwd path = t.file? cwd path ∨
      t.file? cwd path = none ∧ (t.addFile directory name bytes).file? cwd path = some bytes := by
  have hstat := gains_stat bytes hfree cwd path
  rw [file?, file?]
  generalize t.stat cwd path = old at hstat ⊢
  generalize (t.addFile directory name bytes).stat cwd path = added at hstat ⊢
  cases hstat with
  | same => exact .inl rfl
  | found fault => exact .inr ⟨rfl, rfl⟩
  | failed fault other => exact .inl rfl

/-- A path that does not lead to the new file leads to the same file as before. -/
theorem file?_addFile {cwd : Place} {path : String}
    (hother : (t.addFile directory name bytes).follow cwd path ≠ .ok (directory ++ [name])) :
    (t.addFile directory name bytes).file? cwd path = t.file? cwd path := by
  have hfollow := gains_follow bytes hfree cwd path
  rw [file?, file?, stat, stat]
  generalize t.follow cwd path = old at hfollow ⊢
  generalize (t.addFile directory name bytes).follow cwd path = added at hfollow hother ⊢
  cases hfollow with
  | found fault => exact absurd rfl hother
  | failed fault other => rfl
  | same =>
    cases old with
    | error fault => rfl
    | ok place =>
      have hne : place ≠ directory ++ [name] := fun heq => hother (congrArg Except.ok heq)
      simp only [bind, Except.bind, get?_addFile, if_neg hne]

/-! ## What directories list -/

/-- A directory lists the new file in front of what it listed; the others list what they listed. -/
theorem list_addFile (place : Place) : (t.addFile directory name bytes).list place =
    if place = directory then (name, .file bytes) :: t.list place else t.list place := by
  have hnew : nameIn? place (directory ++ [name], Entry.file bytes) =
      if place = directory then some (name, .file bytes) else none := by
    rw [nameIn?, List.getLast?_concat, List.dropLast_concat]
    simp only [beq_iff_eq, @eq_comm _ directory place]
  have hentries : (t.addFile directory name bytes).entries =
      (directory ++ [name], .file bytes) :: t.entries := by
    show (directory ++ [name], Entry.file bytes) :: (t.erase (directory ++ [name])).entries = _
    rw [erase_of_free (by simp) hfree]
  rw [list_eq_filterMap, list_eq_filterMap, hentries]
  by_cases hplace : place = directory
  · rw [if_pos hplace] at hnew ⊢
    exact List.filterMap_cons_some hnew
  · rw [if_neg hplace] at hnew ⊢
    exact List.filterMap_cons_none hnew

/-- Nothing stands in the new file. -/
theorem list_addFile_self (h : t.IsProper) :
    (t.addFile directory name bytes).list (directory ++ [name]) = [] := by
  have hne : directory ++ [name] ≠ directory := by simp
  rw [list_addFile bytes hfree, if_neg hne, List.eq_nil_iff_forall_not_mem]
  rintro ⟨other, entry⟩ hmem
  rw [mem_list_iff, h.get?_append_eq_none (by simp [hfree]) (by simp)] at hmem
  cases hmem

end

/-! ## Writing a file -/

section Write

variable {t : Tree} {name : String} (bytes : ByteArray) (hname : IsName name)

include hname

theorem writeParts_name {here : Place} (hfree : t.get? (here ++ [name]) = none) (links : Nat) :
    t.writeParts bytes links here [name] = .ok (t.addFile here name bytes) := by
  have hgo : t.goOnToWrite here [name] = .ok (.done (here ++ [name])) := by
    rw [goOnToWrite, if_neg hname.not_idle, if_neg (by simpa using hname.not_parent),
      if_neg (by simp), if_neg (Nat.not_lt.2 hname.short), hfree]
    rfl
  rw [writeParts, hgo]
  rfl

/-- Writing to a free name in the working directory adds a file there. -/
theorem write_name {cwd : Place} (hfree : t.get? (cwd ++ [name]) = none) :
    t.write cwd name bytes = .ok (t.addFile cwd name bytes) := by
  rw [write, checkPath_of_isName hname, start, if_neg hname.not_isAbsolute,
    parts_of_not_mem hname.no_slash]
  exact writeParts_name bytes hname hfree maxLinks

end Write

end Tree

end ShellPages.Files
