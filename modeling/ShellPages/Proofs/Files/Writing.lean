import ShellPages.Files.Change
import ShellPages.Proofs.Files.Following

/-!
# Writing a file

Following a path asks of each entry on the way only whether it is a file, a directory or a link. So
in a tree that keeps what there was (`Keeps`) a path leads to the same place, or led nowhere before
because something was missing (`Keeps.followParts_eq`). A file is written where nothing stands or a
file, which keeps the rest (`keeps_set_file`). Its place is the one to which the path leads then,
links followed, and to which it led before if there was a file: `write_eq_ok`.
-/

namespace ShellPages.Files

/-- An entry but for the bytes of a file. -/
def Entry.shape : Entry → Entry
  | .file _ => .file .empty
  | other => other

theorem Entry.shape_eq_directory_iff {entry : Entry} :
    entry.shape = .directory ↔ entry = .directory := by
  cases entry <;> simp [shape]

theorem Entry.shape_eq_link_iff {entry : Entry} {target : String} :
    entry.shape = .link target ↔ entry = .link target := by
  cases entry <;> simp [shape]

theorem Entry.shape_eq_file_iff {entry : Entry} :
    entry.shape = .file .empty ↔ ∃ bytes, entry = .file bytes := by
  cases entry <;> simp [shape]

namespace Tree

variable {t t' t'' : Tree} {here place : Place} {parts : List String} {bytes : ByteArray}

/-- Setting an entry anywhere but at the root changes what there is at its place and nothing
else. -/
theorem get?_set_of_ne_nil (h : place ≠ []) (entry : Entry) (other : Place) :
    (t.set place entry).get? other = if other = place then some entry else t.get? other := by
  rcases List.eq_nil_or_concat place with rfl | ⟨front, last, rfl⟩
  · exact absurd rfl h
  · rw [List.concat_eq_append, get?_set]

theorem fileAt?_set_of_ne {other : Place} (h : place ≠ []) (entry : Entry) (hne : other ≠ place) :
    (t.set place entry).fileAt? other = t.fileAt? other := by
  rw [fileAt?, get?_set_of_ne_nil h, if_neg hne, fileAt?]

/-! ## What a tree keeps -/

/-- Where something stands in the first tree, the like of it stands in the second: directories and
links stay what they are, and files stay files. -/
def Keeps (t t' : Tree) : Prop :=
  ∀ place entry, t.get? place = some entry → (t'.get? place).map Entry.shape = some entry.shape

namespace Keeps

theorem directory (h : t.Keeps t') (hget : t.get? place = some .directory) :
    t'.get? place = some .directory := by
  obtain ⟨entry, hentry, hshape⟩ := Option.map_eq_some_iff.1 (h place _ hget)
  rw [hentry, Entry.shape_eq_directory_iff.1 hshape]

theorem link {target : String} (h : t.Keeps t') (hget : t.get? place = some (.link target)) :
    t'.get? place = some (.link target) := by
  obtain ⟨entry, hentry, hshape⟩ := Option.map_eq_some_iff.1 (h place _ hget)
  rw [hentry, Entry.shape_eq_link_iff.1 hshape]

theorem file (h : t.Keeps t') (hget : t.get? place = some (.file bytes)) :
    ∃ other, t'.get? place = some (.file other) := by
  obtain ⟨entry, hentry, hshape⟩ := Option.map_eq_some_iff.1 (h place _ hget)
  obtain ⟨other, rfl⟩ := Entry.shape_eq_file_iff.1 hshape
  exact ⟨other, hentry⟩

/-- Up to the first link, parts lead to the same end as before, unless something was missing. -/
theorem goOn_eq (h : t.Keeps t') (here : Place) (parts : List String) :
    t.goOn here parts = .error .notFound ∨ t'.goOn here parts = t.goOn here parts := by
  induction parts generalizing here with
  | nil => exact .inr rfl
  | cons part rest ih =>
    by_cases hidle : isIdle part
    · simp only [goOn_cons_of_idle _ here rest hidle]
      exact ih here
    by_cases hparent : part = ".."
    · simp only [hparent, goOn_cons_parent]
      exact ih here.dropLast
    by_cases hshort : part.utf8ByteSize ≤ maxName
    · simp only [goOn_cons_of_not_idle _ here rest hidle hparent hshort]
      cases hget : t.get? (here ++ [part]) with
      | none => exact .inl rfl
      | some entry =>
        cases entry with
        | directory =>
          rw [h.directory hget]
          exact ih _
        | link target =>
          rw [h.link hget]
          exact .inr rfl
        | file bytes =>
          obtain ⟨other, hother⟩ := h.file hget
          rw [hother]
          exact .inr rfl
    · simp only [goOn_cons_of_long _ here rest hidle hparent hshort]
      exact .inr trivial

theorem goOn_of_ok (h : t.Keeps t') {stop : Stop} (hgo : t.goOn here parts = .ok stop) :
    t'.goOn here parts = .ok stop := by
  rcases h.goOn_eq here parts with hmissing | hsame
  · rw [hmissing] at hgo
    cases hgo
  · exact hsame.trans hgo

/-- **A path leads to the same place in a tree that keeps what there was**, unless something was
missing. -/
theorem followParts_eq (h : t.Keeps t') (links : Nat) (here : Place) (parts : List String) :
    t.followParts links here parts = .error .notFound ∨
      t'.followParts links here parts = t.followParts links here parts := by
  induction links using Nat.strongRecOn generalizing here parts with
  | ind links ih =>
    rcases h.goOn_eq here parts with hmissing | hsame
    · exact .inl (followParts_of_error hmissing)
    cases hgo : t.goOn here parts with
    | error fault =>
      exact .inr (by rw [followParts_of_error hgo, followParts_of_error (hsame.trans hgo)])
    | ok stop =>
      rw [hgo] at hsame
      cases stop with
      | done place => exact .inr (by rw [followParts_of_done hgo, followParts_of_done hsame])
      | link directory name target rest =>
        cases links with
        | zero =>
          exact .inr (by rw [followParts_zero_of_link hgo, followParts_zero_of_link hsame])
        | succ links =>
          rw [followParts_succ_of_link hgo, followParts_succ_of_link hsame]
          exact ih links (Nat.lt_succ_self links) _ _

/-- Where a path leads, it still leads. -/
theorem followParts_of_ok (h : t.Keeps t') {links : Nat}
    (hfollow : t.followParts links here parts = .ok place) :
    t'.followParts links here parts = .ok place := by
  rcases h.followParts_eq links here parts with hmissing | hsame
  · rw [hmissing] at hfollow
    cases hfollow
  · exact hsame.trans hfollow

end Keeps

/-! ## Where a file can be written -/

/-- A place at which a file can be written: nothing stands there, or a file. -/
def IsWritable (t : Tree) (place : Place) : Prop :=
  t.get? place = none ∨ ∃ bytes, t.get? place = some (.file bytes)

theorem IsWritable.ne_nil (h : t.IsWritable place) : place ≠ [] := by
  rintro rfl
  rcases h with hnone | ⟨bytes, hfile⟩
  · cases hnone
  · cases hfile

/-- Writing a file keeps the rest. -/
theorem keeps_set_file (h : t.IsWritable place) (bytes : ByteArray) :
    t.Keeps (t.set place (.file bytes)) := by
  intro other entry hget
  rw [get?_set_of_ne_nil h.ne_nil]
  split
  · next hother =>
    rw [hother] at hget
    rcases h with hnone | ⟨old, hfile⟩
    · rw [hnone] at hget
      cases hget
    · rw [hfile] at hget
      cases hget
      rfl
  · rw [hget, Option.map_some]

/-- What can be under a part that names something: a file or nothing, if it is the last part, or a
directory to go on in, or a link. -/
theorem goOnToWrite_cons_eq_ok {part : String} {rest : List String} {stop : Stop}
    (hidle : ¬isIdle part) (hparent : part ≠ "..")
    (hgo : t.goOnToWrite here (part :: rest) = .ok stop) :
    part.utf8ByteSize ≤ maxName ∧
      (rest = [] ∧ stop = .done (here ++ [part]) ∧ t.IsWritable (here ++ [part]) ∨
        t.get? (here ++ [part]) = some .directory ∧
          t.goOnToWrite (here ++ [part]) rest = .ok stop ∨
        ∃ target, t.get? (here ++ [part]) = some (.link target) ∧
          stop = .link here part target rest) := by
  rw [goOnToWrite, if_neg hidle, if_neg (by simpa using hparent)] at hgo
  split at hgo
  · cases hgo
  split at hgo
  · cases hgo
  next hshort =>
  refine ⟨Nat.not_lt.1 hshort, ?_⟩
  split at hgo
  · next hget =>
    split at hgo
    · next hlast =>
      cases hgo
      exact .inl ⟨List.isEmpty_iff.1 hlast, rfl, .inl hget⟩
    · cases hgo
  · next hget => exact .inr (.inl ⟨hget, hgo⟩)
  · next target hget =>
    cases hgo
    exact .inr (.inr ⟨target, hget, rfl⟩)
  · next bytes hget =>
    split at hgo
    · next hlast =>
      cases hgo
      exact .inl ⟨List.isEmpty_iff.1 hlast, rfl, .inr ⟨bytes, hget⟩⟩
    · cases hgo

/-- Where parts lead to a link or to a file to write over, they lead there when they are followed.
To a free place they lead as soon as a file is there. -/
theorem goOnToWrite_eq_ok {stop : Stop} (hgo : t.goOnToWrite here parts = .ok stop) :
    t.goOn here parts = .ok stop ∧ (∀ place, stop = .done place → t.IsWritable place) ∨
      ∃ place, stop = .done place ∧ t.get? place = none ∧
        ∀ bytes, (t.set place (.file bytes)).goOn here parts = .ok stop := by
  induction parts generalizing here with
  | nil => cases hgo
  | cons part rest ih =>
    by_cases hidle : isIdle part
    · rw [goOnToWrite, if_pos hidle] at hgo
      simp only [goOn_cons_of_idle _ here rest hidle]
      exact ih hgo
    by_cases hparent : part = ".."
    · rw [goOnToWrite, if_neg hidle, if_pos (by simpa using hparent)] at hgo
      simp only [hparent, goOn_cons_parent]
      exact ih hgo
    obtain ⟨hshort, hunder⟩ := goOnToWrite_cons_eq_ok hidle hparent hgo
    simp only [goOn_cons_of_not_idle _ here rest hidle hparent hshort]
    rcases hunder with ⟨rfl, rfl, hwritable⟩ | ⟨hget, hgo⟩ | ⟨target, hget, rfl⟩
    · have hne := hwritable.ne_nil
      rcases hwritable with hnone | ⟨old, hfile⟩
      · refine .inr ⟨_, rfl, hnone, fun bytes => ?_⟩
        rw [get?_set_of_ne_nil hne, if_pos rfl]
        rfl
      · refine .inl ⟨by rw [hfile]; rfl, ?_⟩
        rintro _ ⟨⟩
        exact .inr ⟨old, hfile⟩
    · rcases ih hgo with ⟨hfollowed, hwritable⟩ | ⟨place, rfl, hnone, hset⟩
      · exact .inl ⟨by rw [hget]; exact hfollowed, hwritable⟩
      · refine .inr ⟨place, rfl, hnone, fun bytes => ?_⟩
        have hne : here ++ [part] ≠ place := by
          rintro rfl
          rw [hnone] at hget
          cases hget
        rw [get?_set_of_ne_nil (IsWritable.ne_nil (.inl hnone)), if_neg hne, hget]
        exact hset bytes
    · exact .inl ⟨by rw [hget], fun _ hdone => by cases hdone⟩

/-- **Writing at the end of parts** puts a file where they lead then. They led there before if
there was a file. -/
theorem writeParts_eq_ok {links : Nat} (h : t.writeParts bytes links here parts = .ok t') :
    ∃ place, t' = t.set place (.file bytes) ∧ t.IsWritable place ∧
      t'.followParts links here parts = .ok place ∧
      (t.get? place = none ∨ t.followParts links here parts = .ok place) := by
  induction links using Nat.strongRecOn generalizing here parts with
  | ind links ih =>
    cases hgo : t.goOnToWrite here parts with
    | error fault =>
      rw [writeParts, hgo] at h
      cases h
    | ok stop =>
      cases stop with
      | done place =>
        rw [writeParts, hgo] at h
        cases h
        rcases goOnToWrite_eq_ok hgo with ⟨hfollowed, hwritable⟩ | ⟨_, ⟨⟩, hnone, hset⟩
        · have hthere : t.followParts links here parts = .ok place := followParts_of_done hfollowed
          have hwritable := hwritable place rfl
          exact ⟨place, rfl, hwritable, (keeps_set_file hwritable bytes).followParts_of_ok hthere,
            .inr hthere⟩
        · exact ⟨place, rfl, .inl hnone, followParts_of_done (hset bytes), .inl hnone⟩
      | link directory name target rest =>
        rcases goOnToWrite_eq_ok hgo with ⟨hfollowed, -⟩ | ⟨_, ⟨⟩, -⟩
        cases links with
        | zero =>
          rw [writeParts, hgo] at h
          cases h
        | succ links =>
          rw [writeParts, hgo] at h
          obtain ⟨place, rfl, hwritable, hthere, hbefore⟩ := ih links (Nat.lt_succ_self links) h
          have hlink := (keeps_set_file hwritable bytes).goOn_of_ok hfollowed
          rw [followParts_succ_of_link hlink, followParts_succ_of_link hfollowed]
          exact ⟨place, rfl, hwritable, hthere, hbefore⟩

variable {cwd : Place} {path : String}

/-- **Where a file is written**: at the place to which its path leads then, and led before if there
was a file. -/
theorem write_eq_ok (h : t.write cwd path bytes = .ok t') :
    ∃ place, t' = t.set place (.file bytes) ∧ t.IsWritable place ∧
      t'.follow cwd path = .ok place ∧ (t.get? place = none ∨ t.follow cwd path = .ok place) := by
  cases hcheck : checkPath path with
  | error fault =>
    rw [write, hcheck] at h
    cases h
  | ok _ =>
    rw [write, hcheck] at h
    simp only [follow_eq_ok_iff, hcheck, true_and]
    exact writeParts_eq_ok h

end Tree

end ShellPages.Files
