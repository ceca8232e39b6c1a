import ShellPages.Proofs.Files.Path
import ShellPages.Proofs.Files.Proper

/-!
# Where following a path ends

Parts are followed one after the other, so following `xs ++ ys` is following `xs` and then, if that
ended at a directory, following `ys` from there: `goOn_append` up to the first link, and
`exists_followParts_append` with the links. Without links below a directory, following names from it
ends at the place that the names stand for, if there is something, and fails otherwise
(`followParts_names`).
-/

namespace ShellPages.Files.Tree

variable {t : Tree} {here place : Place} {part name : String} {xs ys rest : List String}

/-! ## One part -/

theorem goOn_cons_of_idle (t : Tree) (here : Place) (rest : List String) (h : isIdle part) :
    t.goOn here (part :: rest) = t.goOn here rest := by
  rw [goOn, if_pos h]

/-- Parts that name nothing lead nowhere else. -/
theorem goOn_of_idle (t : Tree) (here : Place) (h : ∀ part ∈ xs, isIdle part) :
    t.goOn here xs = .ok (.done here) := by
  induction xs with
  | nil => rfl
  | cons part rest ih =>
    obtain ⟨hpart, hrest⟩ := List.forall_mem_cons.1 h
    rw [goOn_cons_of_idle t here rest hpart, ih hrest]

theorem goOn_cons_parent (t : Tree) (here : Place) (rest : List String) :
    t.goOn here (".." :: rest) = t.goOn here.dropLast rest := by
  rw [goOn, if_neg (by decide), if_pos (by decide)]

/-- What is above a directory is a directory. -/
theorem IsProper.dropLast (h : t.IsProper) (hhere : t.get? here = some .directory) :
    t.get? here.dropLast = some .directory := by
  rcases List.eq_nil_or_concat here with rfl | ⟨front, last, rfl⟩
  · exact hhere
  · rw [List.concat_eq_append] at hhere ⊢
    rw [List.dropLast_concat]
    exact h.parent hhere

/-- A part that names something leads to what stands under that name. -/
theorem goOn_cons_of_not_idle (t : Tree) (here : Place) (rest : List String)
    (hidle : ¬isIdle part) (hparent : part ≠ "..") (hshort : part.utf8ByteSize ≤ maxName) :
    t.goOn here (part :: rest) =
      match t.get? (here ++ [part]) with
      | none => .error .notFound
      | some .directory => t.goOn (here ++ [part]) rest
      | some (.link target) => .ok (.link here part target rest)
      | some (.file _) =>
        if rest.isEmpty then .ok (.done (here ++ [part])) else .error .notDirectory := by
  rw [goOn, if_neg hidle, if_neg (by simpa using hparent)]
  exact if_neg (Nat.not_lt.2 hshort)

theorem goOn_cons_of_long (t : Tree) (here : Place) (rest : List String) (hidle : ¬isIdle part)
    (hparent : part ≠ "..") (hlong : ¬part.utf8ByteSize ≤ maxName) :
    t.goOn here (part :: rest) = .error .nameTooLong := by
  rw [goOn, if_neg hidle, if_neg (by simpa using hparent), if_pos (Nat.lt_of_not_le hlong)]

/-- What following one part from a directory can do: it leads on to a directory, it fails, it
meets a link, or it ends at a file, which has to be the last part. -/
theorem goOn_cons_cases (h : t.IsProper) (hhere : t.get? here = some .directory) (part : String) :
    (∃ next, t.get? next = some .directory ∧
      ∀ rest, t.goOn here (part :: rest) = t.goOn next rest) ∨
    (∃ fault, ∀ rest, t.goOn here (part :: rest) = .error fault) ∨
    (∃ target, ∀ rest, t.goOn here (part :: rest) = .ok (.link here part target rest)) ∨
    ∃ bytes, t.get? (here ++ [part]) = some (.file bytes) ∧ ∀ rest, t.goOn here (part :: rest) =
      if rest.isEmpty then .ok (.done (here ++ [part])) else .error .notDirectory := by
  by_cases hidle : isIdle part
  · exact .inl ⟨here, hhere, fun rest => goOn_cons_of_idle t here rest hidle⟩
  by_cases hparent : part = ".."
  · rw [hparent]
    exact .inl ⟨_, h.dropLast hhere, fun rest => goOn_cons_parent t here rest⟩
  by_cases hshort : part.utf8ByteSize ≤ maxName
  · have hgo := fun rest => goOn_cons_of_not_idle t here rest hidle hparent hshort
    cases hget : t.get? (here ++ [part]) with
    | none => exact .inr (.inl ⟨.notFound, fun rest => by rw [hgo, hget]⟩)
    | some entry =>
      cases entry with
      | directory => exact .inl ⟨_, hget, fun rest => by rw [hgo, hget]⟩
      | link target => exact .inr (.inr (.inl ⟨target, fun rest => by rw [hgo, hget]⟩))
      | file bytes => exact .inr (.inr (.inr ⟨bytes, rfl, fun rest => by rw [hgo, hget]⟩))
  · exact .inr (.inl ⟨.nameTooLong, fun rest => goOn_cons_of_long t here rest hidle hparent hshort⟩)

/-! ## Up to the first link -/

/-- Go on with further parts from where others ended. A file ends every path. -/
def goOnAfter (t : Tree) (ys : List String) : Stop → Except Fault Stop
  | .done place =>
    match t.get? place with
    | some .directory => t.goOn place ys
    | _ => .error .notDirectory
  | .link directory name target rest => .ok (.link directory name target (rest ++ ys))

/-- **Parts are followed one after the other**, up to the first link. -/
theorem goOn_append (h : t.IsProper) (hhere : t.get? here = some .directory) (hys : ys ≠ []) :
    t.goOn here (xs ++ ys) = t.goOn here xs >>= t.goOnAfter ys := by
  induction xs generalizing here with
  | nil =>
    change t.goOn here ys = t.goOnAfter ys (.done here)
    rw [goOnAfter, hhere]
  | cons part rest ih =>
    rw [List.cons_append]
    rcases goOn_cons_cases h hhere part with
      ⟨next, hnext, hgo⟩ | ⟨fault, hgo⟩ | ⟨target, hgo⟩ | ⟨bytes, hget, hgo⟩
    · rw [hgo, hgo, ih hnext]
    · rw [hgo, hgo]
      rfl
    · rw [hgo, hgo]
      rfl
    · have hmore : (rest ++ ys).isEmpty = false := by simp [hys]
      rw [hgo, hgo, hmore]
      cases rest with
      | nil =>
        change _ = t.goOnAfter ys (.done (here ++ [part]))
        rw [goOnAfter, hget]
        rfl
      | cons next more => rfl

/-- Where parts end, or go over into a link, there is a directory, or a file to end at. -/
theorem goOn_eq_ok (h : t.IsProper) (hhere : t.get? here = some .directory) {stop : Stop}
    (hgo : t.goOn here xs = .ok stop) :
    (∃ place, stop = .done place ∧
      (t.get? place = some .directory ∨ ∃ bytes, t.get? place = some (.file bytes))) ∨
    ∃ directory name target rest, stop = .link directory name target rest ∧
      t.get? directory = some .directory := by
  induction xs generalizing here with
  | nil =>
    cases hgo
    exact .inl ⟨here, rfl, .inl hhere⟩
  | cons part rest ih =>
    rcases goOn_cons_cases h hhere part with
      ⟨next, hnext, hcons⟩ | ⟨fault, hcons⟩ | ⟨target, hcons⟩ | ⟨bytes, hget, hcons⟩
    · rw [hcons] at hgo
      exact ih hnext hgo
    · rw [hcons] at hgo
      cases hgo
    · rw [hcons] at hgo
      cases hgo
      exact .inr ⟨here, part, target, rest, rfl, hhere⟩
    · rw [hcons] at hgo
      cases rest with
      | nil =>
        cases hgo
        exact .inl ⟨_, rfl, .inr ⟨bytes, hget⟩⟩
      | cons next more => cases hgo

/-! ## Through links -/

/-- Only where parts lead up to the first link matters. -/
theorem followParts_congr {other : Place} (links : Nat) (h : t.goOn here xs = t.goOn other ys) :
    t.followParts links here xs = t.followParts links other ys := by
  rw [followParts, followParts, h]

theorem followParts_of_error {links : Nat} {fault : Fault} (h : t.goOn here xs = .error fault) :
    t.followParts links here xs = .error fault := by
  rw [followParts, h]
  rfl

theorem followParts_of_done {links : Nat} (h : t.goOn here xs = .ok (.done place)) :
    t.followParts links here xs = .ok place := by
  rw [followParts, h]
  rfl

theorem followParts_zero_of_link {target : String}
    (h : t.goOn here xs = .ok (.link place name target rest)) :
    t.followParts 0 here xs = .error .tooManyLinks := by
  rw [followParts, h]
  rfl

theorem followParts_succ_of_link {links : Nat} {target : String}
    (h : t.goOn here xs = .ok (.link place name target rest)) :
    t.followParts (links + 1) here xs =
      t.followParts links (start place target) (parts target ++ rest) := by
  rw [followParts, h]
  rfl

theorem get?_start (path : String) (h : t.get? here = some .directory) :
    t.get? (start here path) = some .directory := by
  rw [start]
  split
  · rfl
  · exact h

/-- What following ends at is a directory or a file, since links are followed. -/
theorem followParts_eq_ok (h : t.IsProper) (hhere : t.get? here = some .directory) {links : Nat}
    (hfollow : t.followParts links here xs = .ok place) :
    t.get? place = some .directory ∨ ∃ bytes, t.get? place = some (.file bytes) := by
  induction links using Nat.strongRecOn generalizing here xs with
  | ind links ih =>
    cases hgo : t.goOn here xs with
    | error fault =>
      rw [followParts_of_error hgo] at hfollow
      cases hfollow
    | ok stop =>
      rcases goOn_eq_ok h hhere hgo with ⟨p, rfl, hp⟩ | ⟨directory, name, target, rest, rfl, hd⟩
      · rw [followParts_of_done hgo] at hfollow
        cases hfollow
        exact hp
      · cases links with
        | zero =>
          rw [followParts_zero_of_link hgo] at hfollow
          cases hfollow
        | succ links =>
          rw [followParts_succ_of_link hgo] at hfollow
          exact ih links (Nat.lt_succ_self links) (get?_start target hd) hfollow

/-- Follow parts from where others ended. A file ends every path. -/
def followAfter (t : Tree) (links : Nat) (ys : List String) (place : Place) : Except Fault Place :=
  match t.get? place with
  | some .directory => t.followParts links place ys
  | _ => .error .notDirectory

/-- **Parts are followed one after the other**, with some number of links left for the later
ones. -/
theorem exists_followParts_append (h : t.IsProper) (hhere : t.get? here = some .directory)
    (links : Nat) (xs : List String) : ∃ left, ∀ ys ≠ [],
      t.followParts links here (xs ++ ys) =
        t.followParts links here xs >>= t.followAfter left ys := by
  induction links using Nat.strongRecOn generalizing here xs with
  | ind links ih =>
    cases hgo : t.goOn here xs with
    | error fault =>
      refine ⟨0, fun ys hys => ?_⟩
      have happend : t.goOn here (xs ++ ys) = .error fault := by
        rw [goOn_append h hhere hys, hgo]
        rfl
      rw [followParts_of_error hgo, followParts_of_error happend]
      rfl
    | ok stop =>
      rcases goOn_eq_ok h hhere hgo with ⟨p, rfl, -⟩ | ⟨directory, name, target, rest, rfl, hd⟩
      · refine ⟨links, fun ys hys => ?_⟩
        have happend : t.goOn here (xs ++ ys) = t.goOnAfter ys (.done p) := by
          rw [goOn_append h hhere hys, hgo]
          rfl
        rw [followParts_of_done hgo]
        change _ = t.followAfter links ys p
        rw [followAfter]
        rw [goOnAfter] at happend
        split at happend
        · exact followParts_congr links happend
        · exact followParts_of_error happend
      · have happend : ∀ ys ≠ [],
            t.goOn here (xs ++ ys) = .ok (.link directory name target (rest ++ ys)) := by
          intro ys hys
          rw [goOn_append h hhere hys, hgo]
          rfl
        cases links with
        | zero =>
          refine ⟨0, fun ys hys => ?_⟩
          rw [followParts_zero_of_link hgo, followParts_zero_of_link (happend ys hys)]
          rfl
        | succ links =>
          obtain ⟨left, hleft⟩ := ih links (Nat.lt_succ_self links) (get?_start target hd)
            (parts target ++ rest)
          refine ⟨left, fun ys hys => ?_⟩
          rw [followParts_succ_of_link hgo, followParts_succ_of_link (happend ys hys),
            ← List.append_assoc, hleft ys hys]

/-- From a directory in which parts end, others go on. -/
theorem exists_followParts_of_directory (h : t.IsProper) (hhere : t.get? here = some .directory)
    {links : Nat} (hfollow : t.followParts links here xs = .ok place)
    (hplace : t.get? place = some .directory) : ∃ left, ∀ ys ≠ [],
      t.followParts links here (xs ++ ys) = t.followParts left place ys := by
  obtain ⟨left, happend⟩ := exists_followParts_append h hhere links xs
  refine ⟨left, fun ys hys => ?_⟩
  rw [happend ys hys, hfollow]
  change t.followAfter left ys place = _
  rw [followAfter, hplace]

/-- A slash at the end changes nothing about where a path leads. -/
theorem followParts_of_append_idle (h : t.IsProper) (hhere : t.get? here = some .directory)
    {links : Nat} (hidle : isIdle part)
    (hfollow : t.followParts links here (xs ++ [part]) = .ok place) :
    t.followParts links here xs = .ok place := by
  obtain ⟨left, happend⟩ := exists_followParts_append h hhere links xs
  rw [happend _ (by simp)] at hfollow
  cases hxs : t.followParts links here xs with
  | error fault =>
    rw [hxs] at hfollow
    cases hfollow
  | ok found =>
    rw [hxs] at hfollow
    change t.followAfter left [part] found = _ at hfollow
    rw [followAfter] at hfollow
    split at hfollow
    · rwa [followParts_of_done (goOn_of_idle t found (by simpa using hidle))] at hfollow
    · cases hfollow

/-! ## Names below a directory -/

/-- The bytes of the regular file at a place. -/
def fileAt? (t : Tree) (place : Place) : Option ByteArray :=
  match t.get? place with
  | some (.file bytes) => some bytes
  | _ => none

theorem fileAt?_eq_some_iff {bytes : ByteArray} :
    t.fileAt? place = some bytes ↔ t.get? place = some (.file bytes) := by
  rw [fileAt?]
  split <;> simp_all

/-- A name at the end of a path leads to the file that stands under it, unless it is a link. -/
theorem followParts_append_name (h : t.IsProper) (hhere : t.get? here = some .directory)
    {links : Nat} (hfollow : t.followParts links here xs = .ok place) (hidle : ¬isIdle name)
    (hparent : name ≠ "..") (hlink : ∀ target, t.get? (place ++ [name]) ≠ some (.link target))
    (bytes : ByteArray) :
    (∃ p, t.followParts links here (xs ++ [name]) = .ok p ∧ t.get? p = some (.file bytes)) ↔
      t.get? (place ++ [name]) = some (.file bytes) := by
  obtain ⟨left, happend⟩ := exists_followParts_append h hhere links xs
  have hlast : t.followParts links here (xs ++ [name]) = t.followAfter left [name] place := by
    rw [happend _ (by simp), hfollow]
    rfl
  rw [hlast, followAfter]
  rcases followParts_eq_ok h hhere hfollow with hplace | ⟨other, hplace⟩
  · rw [hplace]
    by_cases hshort : name.utf8ByteSize ≤ maxName
    · have hgo := goOn_cons_of_not_idle t place [] hidle hparent hshort
      cases hget : t.get? (place ++ [name]) with
      | none =>
        rw [hget] at hgo
        simp [followParts_of_error hgo]
      | some entry =>
        rw [hget] at hgo
        cases entry with
        | directory => simp [followParts_of_done hgo, hget]
        | link target => exact absurd hget (hlink target)
        | file bytes => simp [followParts_of_done hgo, hget]
    · have hgo := goOn_cons_of_long t place [] hidle hparent hshort
      rw [followParts_of_error hgo]
      constructor
      · rintro ⟨p, hp, -⟩
        cases hp
      · exact fun hget => absurd (h.name hget).short hshort
  · have hnone : t.get? (place ++ [name]) = none := by
      refine h.get?_append_eq_none ?_ (by simp)
      rw [hplace]
      simp
    simp [hplace, hnone]

/-- No link stands at or below a place. -/
def IsLinkless (t : Tree) (place : Place) : Prop :=
  ∀ names target, t.get? (place ++ names) ≠ some (.link target)

theorem IsLinkless.append (h : t.IsLinkless place) (front : List String) :
    t.IsLinkless (place ++ front) := by
  intro names target
  rw [List.append_assoc]
  exact h _ target

/-- A tree stays without links when something that is no link is put into it. -/
theorem IsLinkless.set (h : t.IsLinkless here) (place : Place) (name : String) (entry : Entry)
    (hentry : ∀ target, entry ≠ .link target) :
    (t.set (place ++ [name]) entry).IsLinkless here := by
  intro names target hget
  rw [get?_set] at hget
  split at hget
  · exact hentry target (Option.some.inj hget)
  · exact h names target hget

theorem isLinkless_empty : empty.IsLinkless [] := by
  intro names target hget
  rw [List.nil_append] at hget
  rcases names with _ | ⟨first, rest⟩ <;> cases hget

/-- **Without links, names lead to the place that they stand for**, if there is something. -/
theorem goOn_names (h : t.IsProper) (hhere : t.get? here = some .directory)
    (hlinks : t.IsLinkless here) (hnames : ∀ name ∈ xs, ¬isIdle name ∧ name ≠ "..") {stop : Stop} :
    t.goOn here xs = .ok stop ↔ stop = .done (here ++ xs) ∧ (t.get? (here ++ xs)).isSome := by
  induction xs generalizing here with
  | nil => simp [goOn, hhere, eq_comm]
  | cons name rest ih =>
    obtain ⟨⟨hidle, hparent⟩, hrest⟩ := List.forall_mem_cons.1 hnames
    rw [List.append_cons here name rest]
    by_cases hshort : name.utf8ByteSize ≤ maxName
    · rw [goOn_cons_of_not_idle t here rest hidle hparent hshort]
      -- names after one that is no directory lead nowhere, and stand for nothing
      have hend : t.get? (here ++ [name]) ≠ some .directory → rest ≠ [] →
          t.get? (here ++ [name] ++ rest) = none := fun hd hr => h.get?_append_eq_none hd hr
      cases hget : t.get? (here ++ [name]) with
      | none =>
        rw [hget] at hend
        by_cases hnil : rest = []
        · simp [hnil, hget]
        · rw [hend (by simp) hnil]
          simp
      | some entry =>
        cases entry with
        | directory => exact ih hget (hlinks.append [name]) hrest
        | link target => exact absurd hget (hlinks [name] target)
        | file bytes =>
          rw [hget] at hend
          by_cases hnil : rest = []
          · simp [hnil, hget, eq_comm]
          · rw [hend (by simp) hnil]
            simp [hnil]
    · rw [goOn_cons_of_long t here rest hidle hparent hshort]
      constructor
      · intro hgo
        cases hgo
      · rintro ⟨-, hget⟩
        rw [← List.append_cons] at hget
        exact absurd (h.isName_of_mem hget name List.mem_cons_self).short hshort

/-- Names that lead through no link need none. -/
theorem followParts_names (h : t.IsProper) (hhere : t.get? here = some .directory)
    (hlinks : t.IsLinkless here) (hnames : ∀ name ∈ xs, ¬isIdle name ∧ name ≠ "..") (links : Nat) :
    t.followParts links here xs = .ok place ↔
      place = here ++ xs ∧ (t.get? (here ++ xs)).isSome := by
  have hgo : ∀ {stop}, t.goOn here xs = .ok stop ↔
      stop = .done (here ++ xs) ∧ (t.get? (here ++ xs)).isSome := goOn_names h hhere hlinks hnames
  cases hstop : t.goOn here xs with
  | error fault =>
    have hnone : ¬(t.get? (here ++ xs)).isSome := fun hsome => by
      rw [hgo.2 ⟨rfl, hsome⟩] at hstop
      cases hstop
    rw [followParts_of_error hstop]
    simp [hnone]
  | ok stop =>
    obtain ⟨rfl, hsome⟩ := hgo.1 hstop
    rw [followParts_of_done hstop]
    simp [hsome, eq_comm]

/-! ## Whole paths -/

variable {path : String} {cwd : Place} {bytes : ByteArray}

theorem checkPath_eq_ok_iff :
    checkPath path = .ok () ↔ '\x00' ∉ path.toList ∧ path ≠ "" ∧ path.utf8ByteSize ≤ maxPath := by
  rw [checkPath]
  split
  · simp_all
  · split
    · simp_all
    · split <;> simp_all

theorem follow_eq_ok_iff : t.follow cwd path = .ok place ↔
    checkPath path = .ok () ∧ t.followParts maxLinks (start cwd path) (parts path) = .ok place := by
  rw [follow]
  cases checkPath path with
  | error fault => simp [bind, Except.bind]
  | ok u => simp [bind, Except.bind]

/-- A dot leads to the working directory. -/
theorem follow_dot (t : Tree) (cwd : Place) : t.follow cwd "." = .ok cwd := by
  have hidle : ∀ part ∈ parts ".", isIdle part := by decide
  exact follow_eq_ok_iff.2 ⟨rfl, followParts_of_done (goOn_of_idle t cwd hidle)⟩

/-- What it is to lead to a directory. -/
theorem isDirectory_iff : t.isDirectory cwd path ↔
    ∃ place, t.follow cwd path = .ok place ∧ t.get? place = some .directory := by
  rw [isDirectory, stat]
  cases t.follow cwd path with
  | error fault => simp [bind, Except.bind]
  | ok place =>
    simp only [bind, Except.bind, Except.ok.injEq, exists_eq_left']
    cases t.get? place with
    | none => simp
    | some entry => cases entry <;> simp

theorem file?_eq_some_iff : t.file? cwd path = some bytes ↔
    ∃ place, t.follow cwd path = .ok place ∧ t.get? place = some (.file bytes) := by
  rw [file?, stat]
  cases t.follow cwd path with
  | error fault => simp [bind, Except.bind]
  | ok place =>
    simp only [bind, Except.bind, Except.ok.injEq, exists_eq_left']
    cases t.get? place with
    | none => simp
    | some entry => cases entry <;> simp

/-! ## A name at the end of a path -/

section Name

variable (h : t.IsProper) (hcwd : t.get? cwd = some .directory) (hpath : path ≠ "")
  (hslash : '/' ∉ name.toList)

include hpath in
theorem checkPath_of_glue (hcheck : checkPath (path ++ "/" ++ name) = .ok ()) :
    checkPath path = .ok () := by
  obtain ⟨hzero, -, hshort⟩ := checkPath_eq_ok_iff.1 hcheck
  simp only [String.toList_append, List.mem_append, not_or] at hzero
  simp only [String.utf8ByteSize_append] at hshort
  exact checkPath_eq_ok_iff.2 ⟨hzero.1.1, hpath, by omega⟩

include hpath hslash in
theorem follow_glue_eq_ok_iff : t.follow cwd (path ++ "/" ++ name) = .ok place ↔
    checkPath (path ++ "/" ++ name) = .ok () ∧
      t.followParts maxLinks (start cwd path) (parts path ++ [name]) = .ok place := by
  have hstart : start cwd (path ++ "/" ++ name) = start cwd path := by
    rw [start, start, String.append_assoc, isAbsolute_append hpath]
  rw [follow_eq_ok_iff, hstart, parts_glue, parts_of_not_mem hslash]

include h hcwd hpath hslash

/-- What can be followed to a name can be followed to its directory. -/
theorem exists_follow_of_glue (hfollow : t.follow cwd (path ++ "/" ++ name) = .ok place) :
    ∃ directory, t.follow cwd path = .ok directory := by
  obtain ⟨hcheck, hparts⟩ := (follow_glue_eq_ok_iff hpath hslash).1 hfollow
  obtain ⟨left, happend⟩ := exists_followParts_append h (get?_start path hcwd) maxLinks (parts path)
  rw [happend _ (by simp)] at hparts
  cases hfront : t.followParts maxLinks (start cwd path) (parts path) with
  | error fault =>
    rw [hfront] at hparts
    cases hparts
  | ok directory =>
    exact ⟨directory, follow_eq_ok_iff.2 ⟨checkPath_of_glue hpath hcheck, hfront⟩⟩

/-- **A name at the end of a path** leads to the file that stands under it in the directory at the
end of the rest, unless it is a link there or the path is too long. -/
theorem file?_glue_eq_some_iff (hidle : ¬isIdle name) (hparent : name ≠ "..")
    (hshort : (path ++ "/" ++ name).utf8ByteSize ≤ maxPath)
    (hfollow : t.follow cwd path = .ok place)
    (hlink : ∀ target, t.get? (place ++ [name]) ≠ some (.link target)) :
    t.file? cwd (path ++ "/" ++ name) = some bytes ↔
      t.get? (place ++ [name]) = some (.file bytes) := by
  obtain ⟨hcheck, hparts⟩ := follow_eq_ok_iff.1 hfollow
  have hlast := followParts_append_name h (get?_start path hcwd) hparts hidle hparent hlink bytes
  simp only [file?_eq_some_iff, follow_glue_eq_ok_iff hpath hslash]
  constructor
  · rintro ⟨p, ⟨-, hp⟩, hget⟩
    exact hlast.1 ⟨p, hp, hget⟩
  · intro hget
    obtain ⟨p, hp, hfile⟩ := hlast.2 hget
    refine ⟨p, ⟨checkPath_eq_ok_iff.2 ⟨?_, by simp, hshort⟩, hp⟩, hfile⟩
    have hzero := (checkPath_eq_ok_iff.1 hcheck).1
    simpa [hzero] using (h.name hget).no_zero

end Name

end ShellPages.Files.Tree
