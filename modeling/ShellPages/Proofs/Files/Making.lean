import ShellPages.Proofs.Files.Parent
import ShellPages.Proofs.Files.Writing

/-!
# Making directories

Making a directory puts it where nothing was, and the path leads there then
(`makeDirectory_eq_ok`). Making those above it too does so again and again, so that there are more
directories and nothing else has changed: `makeDirectories_adds`. If something has been made, the
path leads to a place that is new (`makeDirectories_leadsToNew`), and nothing was below a new place
before. The exception is a path that goes up with `..` from where nothing was
(`ClimbsFromNowhere`): once the missing directories are made, it leads back to what has been there
all along.
-/

namespace ShellPages.Files

/-! ## The last name of a path -/

section LastName

variable {xs : List String} {name : String}

/-- The last name is not empty, and has nothing but slashes after it. -/
theorem exists_eq_of_lastName (h : (lastName xs).name? = some name) :
    name ≠ "" ∧ ∃ after, xs = (lastName xs).before ++ name :: after ∧
      ∀ part ∈ after, isIdle part := by
  cases hdrop : xs.reverse.dropWhile (· == "") with
  | nil => simp [lastName, hdrop] at h
  | cons last before =>
    have hlast := List.head?_dropWhile_not (· == "") xs.reverse
    have hsplit := List.takeWhile_append_dropWhile (p := (· == "")) (l := xs.reverse)
    rw [hdrop] at hlast hsplit
    simp only [lastName, hdrop, Option.some.injEq] at h ⊢
    subst h
    refine ⟨by simpa using hlast, (xs.reverse.takeWhile (· == "")).reverse, ?_, ?_⟩
    · simpa using (congrArg List.reverse hsplit).symm
    · intro part hpart
      have hempty : (part == "") = true :=
        List.mem_takeWhile_imp (p := (· == "")) (List.mem_reverse.1 hpart)
      rw [isIdle, hempty, Bool.true_or]

end LastName

namespace Tree

variable {t t' t'' : Tree} {here cwd place directory : Place} {path : String} {xs : List String}

/-! ## More directories -/

/-- The second tree has what the first has, and maybe more directories. -/
def AddsDirectories (t t' : Tree) : Prop :=
  ∀ place, t'.get? place = t.get? place ∨
    t.get? place = none ∧ t'.get? place = some .directory

namespace AddsDirectories

theorem refl (t : Tree) : t.AddsDirectories t := fun _ => .inl rfl

theorem trans (h : t.AddsDirectories t') (h' : t'.AddsDirectories t'') :
    t.AddsDirectories t'' := by
  intro place
  rcases h' place with heq | ⟨hnone, hnew⟩
  · rw [heq]
    exact h place
  · rcases h place with heq | ⟨-, hdirectory⟩
    · exact .inr ⟨heq ▸ hnone, hnew⟩
    · rw [hnone] at hdirectory
      cases hdirectory

theorem keeps (h : t.AddsDirectories t') : t.Keeps t' := by
  intro place entry hget
  rcases h place with heq | ⟨hnone, -⟩
  · rw [heq, hget, Option.map_some]
  · rw [hnone] at hget
    cases hget

/-- No file comes, goes or changes. -/
theorem fileAt?_eq (h : t.AddsDirectories t') (place : Place) :
    t'.fileAt? place = t.fileAt? place := by
  rcases h place with heq | ⟨hnone, hnew⟩
  · rw [fileAt?, fileAt?, heq]
  · rw [fileAt?, fileAt?, hnone, hnew]

theorem eq_none (h : t.AddsDirectories t') (hnone : t'.get? place = none) :
    t.get? place = none := by
  rcases h place with heq | ⟨hnone, -⟩
  · rwa [← heq]
  · exact hnone

theorem eq_directory_of_new (h : t.AddsDirectories t') (hnone : t.get? place = none)
    (hget : t'.get? place ≠ none) : t'.get? place = some .directory := by
  rcases h place with heq | ⟨-, hnew⟩
  · exact absurd (heq.trans hnone) hget
  · exact hnew

end AddsDirectories

theorem addsDirectories_set (hfree : t.get? place = none) :
    t.AddsDirectories (t.set place .directory) := by
  have hne : place ≠ [] := IsWritable.ne_nil (.inl hfree)
  intro other
  rw [get?_set_of_ne_nil hne]
  split
  · next hother => exact .inr ⟨hother ▸ hfree, rfl⟩
  · exact .inl rfl

/-! ## Making one directory -/

/-- What a path leads to in the second tree is not there in the first. -/
def LeadsToNew (t t' : Tree) (cwd : Place) (path : String) : Prop :=
  ∃ place, t'.followParts maxLinks (start cwd path) (parts path) = .ok place ∧
    t.get? place = none

theorem followToDirectory_eq_ok (h : t.IsProper) (hhere : t.get? here = some .directory)
    (hfollow : t.followToDirectory here xs = .ok place) :
    t.followParts maxLinks here xs = .ok place ∧ t.get? place = some .directory := by
  obtain ⟨left, happend⟩ := exists_followParts_append h hhere maxLinks xs
  rw [followToDirectory, happend _ (by simp)] at hfollow
  cases hxs : t.followParts maxLinks here xs with
  | error fault =>
    rw [hxs] at hfollow
    cases hfollow
  | ok found =>
    rw [hxs] at hfollow
    change t.followAfter left ["."] found = _ at hfollow
    rw [followAfter] at hfollow
    split at hfollow
    · next hfound =>
      rw [followParts_of_done (goOn_of_idle t found (by decide))] at hfollow
      cases hfollow
      exact ⟨rfl, hfound⟩
    · cases hfollow

/-- A path whose last name stands for a place leads to the directory of that place before. -/
theorem placeOf_eq_some (h : t.placeOf here xs = .ok (some place)) :
    ∃ directory name, place = directory ++ [name] ∧
      t.followToDirectory here (lastName xs).before = .ok directory ∧
      (lastName xs).name? = some name ∧ name ≠ "." ∧ name ≠ ".." ∧
      name.utf8ByteSize ≤ maxName := by
  rw [placeOf] at h
  cases hdirectory : t.followToDirectory here (lastName xs).before with
  | error fault =>
    rw [hdirectory] at h
    cases h
  | ok directory =>
    rw [hdirectory] at h
    simp only [bind, Except.bind] at h
    split at h
    · cases h
    · cases h
    · cases h
    · next name hdot hdots hname =>
      split at h
      · cases h
      · next hshort =>
        cases h
        exact ⟨directory, name, rfl, rfl, hname, hdot, hdots, Nat.not_lt.1 hshort⟩

/-- A directory is made at the place for which the last name of its path stands, and nothing is
there before. -/
theorem makeDirectory_eq_ok_iff : t.makeDirectory cwd path = .ok t' ↔
    checkPath path = .ok () ∧ ∃ place, t.placeOf (start cwd path) (parts path) = .ok (some place) ∧
      t.get? place = none ∧ t' = t.set place .directory := by
  rw [makeDirectory]
  cases checkPath path with
  | error fault => simp [bind, Except.bind]
  | ok _ =>
    cases t.placeOf (start cwd path) (parts path) with
    | error fault => simp [bind, Except.bind]
    | ok place? =>
      cases place? with
      | none => simp [bind, Except.bind]
      | some place => cases hget : t.get? place <;> simp [bind, Except.bind, hget, eq_comm]

/-- **Making a directory** puts it where nothing was, and its path leads there then. -/
theorem makeDirectory_eq_ok (h : t.IsProper) (hcwd : t.get? cwd = some .directory)
    (hmake : t.makeDirectory cwd path = .ok t') :
    t'.IsProper ∧ t.AddsDirectories t' ∧ LeadsToNew t t' cwd path := by
  obtain ⟨hcheck, place, hplace, hfree, rfl⟩ := makeDirectory_eq_ok_iff.1 hmake
  obtain ⟨directory, name, rfl, hfollow, hlast, hdot, hdots, hshort⟩ := placeOf_eq_some hplace
  obtain ⟨hempty, after, hparts, hidle⟩ := exists_eq_of_lastName hlast
  obtain ⟨hbefore, hdirectory⟩ := followToDirectory_eq_ok h (get?_start path hcwd) hfollow
  have hmem : name ∈ parts path := by
    rw [hparts]
    simp
  have hname : IsName name :=
    { not_idle := by simp [isIdle, hempty, hdot]
      not_parent := hdots
      no_slash := slash_not_mem_of_mem_parts hmem
      no_zero := fun hzero =>
        (checkPath_eq_ok_iff.1 hcheck).1 (toList_subset_of_mem_parts hmem hzero)
      short := hshort }
  have hproper := h.set directory name .directory hname hdirectory hfree
  have hadds := addsDirectories_set hfree
  obtain ⟨left, hgo⟩ := exists_followParts_of_directory hproper
    (get?_start path (hadds.keeps.directory hcwd)) (hadds.keeps.followParts_of_ok hbefore)
    (hadds.keeps.directory hdirectory)
  refine ⟨hproper, hadds, directory ++ [name], ?_, hfree⟩
  rw [hparts, hgo _ (by simp)]
  refine followParts_of_done ?_
  rw [goOn_cons_of_not_idle _ _ _ hname.not_idle hdots hshort, get?_set, if_pos rfl]
  exact goOn_of_idle _ _ hidle

theorem exists_followParts_of_isDirectory (h : t.isDirectory cwd path) :
    ∃ place, t.followParts maxLinks (start cwd path) (parts path) = .ok place := by
  obtain ⟨place, hfollow, -⟩ := isDirectory_iff.1 h
  exact ⟨place, (follow_eq_ok_iff.1 hfollow).2⟩

/-- Making a directory that may be there already either makes it or does nothing. -/
theorem ensureDirectory_cases (t : Tree) (cwd : Place) (path : String) :
    (∃ t', t.makeDirectory cwd path = .ok t' ∧ t.ensureDirectory cwd path = ⟨t', none⟩) ∨
    (t.ensureDirectory cwd path).tree = t ∧
      ((t.ensureDirectory cwd path).fault? = none → t.isDirectory cwd path) := by
  rw [ensureDirectory]
  cases hmake : t.makeDirectory cwd path with
  | ok t' => exact .inl ⟨t', rfl, rfl⟩
  | error fault => exact .inr ⟨rfl, by simp⟩

/-! ## Going up from where nothing is -/

/-- A path goes up with `..` from where nothing is. -/
def ClimbsFromNowhere (t : Tree) (cwd : Place) (path : String) : Prop :=
  ∃ before after, parts path = before ++ ".." :: after ∧
    t.followParts maxLinks (start cwd path) before = .error .notFound

theorem climbsFromNowhere_iff : t.ClimbsFromNowhere cwd path ↔
    ∃ n < (parts path).length, (parts path)[n]? = some ".." ∧
      t.followParts maxLinks (start cwd path) ((parts path).take n) = .error .notFound := by
  constructor
  · rintro ⟨before, after, hparts, hmissing⟩
    refine ⟨before.length, by simp [hparts], by simp [hparts], ?_⟩
    rwa [hparts, List.take_left]
  · rintro ⟨n, hn, hparent, hmissing⟩
    rw [List.getElem?_eq_getElem hn, Option.some.injEq] at hparent
    refine ⟨_, (parts path).drop (n + 1), ?_, hmissing⟩
    rw [← hparent, ← List.drop_eq_getElem_cons hn, List.take_append_drop]

instance : Decidable (t.ClimbsFromNowhere cwd path) :=
  decidable_of_iff _ climbsFromNowhere_iff.symm

section GoesOn

variable {folder : String} {front after : List String} {name : String}
  (hgoes : GoesOn folder path front name after)

include hgoes

/-- What goes up from nowhere still does when it goes on. -/
theorem ClimbsFromNowhere.of_goesOn (hclimbs : t.ClimbsFromNowhere cwd folder) :
    t.ClimbsFromNowhere cwd path := by
  obtain ⟨before, rest, hparts, hmissing⟩ := hclimbs
  have hidle : ¬isIdle ".." := by decide
  obtain ⟨later, hlater⟩ := exists_dropIdleEnd_append_cons before rest hidle
  obtain ⟨idle, hfront, -⟩ := exists_eq_dropIdleEnd_append front
  rw [hgoes.front_eq, hparts, hlater] at hfront
  refine ⟨before, later ++ idle ++ name :: after, ?_, ?_⟩
  · rw [hgoes.parts_eq, hfront]
    simp
  · rwa [start, ← hgoes.isAbsolute_eq]

variable (h : t.IsProper) (h' : t'.IsProper) (hcwd : t.get? cwd = some .directory)
  (hadds : t.AddsDirectories t')

include h h' hcwd hadds

/-- **Nothing was below what is new.** What a path leads to is not there before if its parent leads
to something new, unless the path goes up from there again. -/
theorem get?_eq_none_of_leadsToNew (hclimbs : ¬t.ClimbsFromNowhere cwd path)
    (hnew : LeadsToNew t t' cwd folder)
    (hfollow : t'.followParts maxLinks (start cwd path) (parts path) = .ok place) :
    t.get? place = none := by
  obtain ⟨directory, hfolder, hnone⟩ := hnew
  have hcwd' := hadds.keeps.directory hcwd
  have hdirectory : t'.get? directory = some .directory := by
    refine hadds.eq_directory_of_new hnone ?_
    rcases followParts_eq_ok h' (get?_start folder hcwd') hfolder with hget | ⟨bytes, hget⟩ <;>
      simp [hget]
  have hfront := (followParts_front_iff h' hcwd' hdirectory hgoes).2 hfolder
  have hparent : name ≠ ".." := by
    rintro rfl
    refine hclimbs ⟨front, after, hgoes.parts_eq, ?_⟩
    refine (hadds.keeps.followParts_eq maxLinks _ front).resolve_right fun hsame => ?_
    rcases followParts_eq_ok h (get?_start path hcwd) (hsame.symm.trans hfront) with
      hget | ⟨bytes, hget⟩ <;> simp [hnone] at hget
  have hbelow : t.get? (directory ++ [name]) = none :=
    h.get?_append_eq_none (by simp [hnone]) (by simp)
  obtain ⟨left, hgo⟩ :=
    exists_followParts_of_directory h' (get?_start path hcwd') hfront hdirectory
  rw [hgoes.parts_eq, hgo _ (by simp)] at hfollow
  by_cases hshort : name.utf8ByteSize ≤ maxName
  · have hstep := goOn_cons_of_not_idle t' directory after hgoes.not_idle hparent hshort
    by_cases hfree : t'.get? (directory ++ [name]) = none
    · rw [hfree] at hstep
      rw [followParts_of_error hstep] at hfollow
      cases hfollow
    · rw [hadds.eq_directory_of_new hbelow hfree] at hstep
      rw [followParts_of_done (hstep.trans (goOn_of_idle t' _ hgoes.idle))] at hfollow
      cases hfollow
      exact hbelow
  · rw [followParts_of_error (goOn_cons_of_long t' directory after hgoes.not_idle hparent hshort)]
      at hfollow
    cases hfollow

end GoesOn

/-! ## Making missing directories -/

theorem makeDirectoriesUpTo_empty (bound : Nat) (t : Tree) (cwd : Place) :
    makeDirectoriesUpTo bound t cwd "" = ⟨t, none⟩ := by
  cases bound <;> rfl

/-- What making directories comes to: there are more of them, and if it has not failed, the path
leads to something new, or nothing has been done. -/
structure MakesWay (t : Tree) (cwd : Place) (path : String) (made : Attempt) : Prop where
  proper : made.tree.IsProper
  adds : t.AddsDirectories made.tree
  leadsToNew : made.fault? = none → ¬t.ClimbsFromNowhere cwd path →
    made.tree = t ∨ LeadsToNew t made.tree cwd path

theorem makesWay_of_eq (h : t.IsProper) {made : Attempt} (heq : made.tree = t) :
    MakesWay t cwd path made where
  proper := heq ▸ h
  adds := heq ▸ .refl t
  leadsToNew _ _ := .inl heq

theorem makesWay_ensureDirectory (h : t.IsProper) (hcwd : t.get? cwd = some .directory)
    (path : String) : MakesWay t cwd path (t.ensureDirectory cwd path) := by
  rcases ensureDirectory_cases t cwd path with ⟨t', hmake, heq⟩ | ⟨heq, -⟩
  · obtain ⟨hproper, hadds, hnew⟩ := makeDirectory_eq_ok h hcwd hmake
    rw [heq]
    exact ⟨hproper, hadds, fun _ _ => .inr hnew⟩
  · exact makesWay_of_eq h heq

/-- Once there is a way to its parent, a directory is made itself. -/
theorem MakesWay.ensureDirectory (h : t.IsProper) (hcwd : t.get? cwd = some .directory)
    {folder : String} {above : Attempt} (hway : MakesWay t cwd folder above)
    (hfault : above.fault? = none) (hparent : parent? path = some folder) (hne : folder ≠ "") :
    MakesWay t cwd path (above.tree.ensureDirectory cwd path) := by
  obtain ⟨front, name, after, hgoes⟩ := exists_goesOn_of_parent? hparent hne
  have hcwd' := hway.adds.keeps.directory hcwd
  rcases ensureDirectory_cases above.tree cwd path with ⟨t', hmake, heq⟩ | ⟨heq, hthere⟩
  · obtain ⟨hproper, hadds, place, hplace, hnone⟩ := makeDirectory_eq_ok hway.proper hcwd' hmake
    rw [heq]
    exact ⟨hproper, hway.adds.trans hadds,
      fun _ _ => .inr ⟨place, hplace, hway.adds.eq_none hnone⟩⟩
  · have hleads : (above.tree.ensureDirectory cwd path).fault? = none →
        ¬t.ClimbsFromNowhere cwd path → above.tree = t ∨ LeadsToNew t above.tree cwd path := by
      intro hdone hclimbs
      refine (hway.leadsToNew hfault (mt (.of_goesOn hgoes) hclimbs)).imp_right fun hnew => ?_
      obtain ⟨place, hplace⟩ := exists_followParts_of_isDirectory (hthere hdone)
      exact ⟨place, hplace,
        get?_eq_none_of_leadsToNew hgoes h hway.proper hcwd hway.adds hclimbs hnew hplace⟩
    generalize above.tree.ensureDirectory cwd path = made at heq hleads ⊢
    rw [← heq] at hleads
    exact ⟨heq ▸ hway.proper, heq ▸ hway.adds, hleads⟩

theorem makesWay_makeDirectoriesUpTo (h : t.IsProper) (hcwd : t.get? cwd = some .directory)
    (bound : Nat) (path : String) :
    MakesWay t cwd path (makeDirectoriesUpTo bound t cwd path) := by
  induction bound generalizing path with
  | zero => exact makesWay_of_eq h rfl
  | succ bound ih =>
    rw [makeDirectoriesUpTo]
    split
    · exact makesWay_of_eq h rfl
    split
    · -- the directories above come first
      generalize hfolder : (parent? path).getD "" = folder
      by_cases hempty : folder = ""
      · rw [hempty, makeDirectoriesUpTo_empty]
        exact makesWay_ensureDirectory h hcwd path
      have habove := ih folder
      dsimp only
      split
      · next hfault =>
        refine ⟨habove.proper, habove.adds, fun hnone => ?_⟩
        rw [hnone] at hfault
        cases hfault
      · next hfault =>
        have hparent : parent? path = some folder := by
          cases hparent : parent? path with
          | none =>
            rw [hparent] at hfolder
            exact absurd hfolder.symm hempty
          | some parent =>
            rw [hparent] at hfolder
            rw [← hfolder, Option.getD_some]
        exact habove.ensureDirectory h hcwd (Option.not_isSome_iff_eq_none.1 hfault) hparent hempty
    · exact makesWay_ensureDirectory h hcwd path

/-- **Making directories** adds directories and does nothing else. If it has not failed, the path
leads to something new, or nothing has been done, unless the path goes up from nowhere. -/
theorem makesWay_makeDirectories (h : t.IsProper) (hcwd : t.get? cwd = some .directory)
    (path : String) : MakesWay t cwd path (t.makeDirectories cwd path) :=
  makesWay_makeDirectoriesUpTo h hcwd _ path

end Tree

end ShellPages.Files
