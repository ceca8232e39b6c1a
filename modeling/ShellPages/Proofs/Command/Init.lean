import ShellPages.Command.Run
import ShellPages.Proofs.Config.Located
import ShellPages.Proofs.Files.Making

/-!
# What making a configuration does to files

A configuration is written only where its path leads to nothing, and directories on the way are made
first. A run that stops leaves every file as it was, and one that succeeds changes nothing but the
file to which the path leads afterwards: `Command.run_init_kept`. That file is new. The exception is
a path that goes up with `..` from where nothing is. It leads to nothing at first, so that the run
goes on, and once the missing directory has been made it may lead to a file that has been there all
along: `Command.init_writes_over`.
-/

namespace ShellPages

open Files

variable {m : Machine} {path : String}

namespace InitRequest

/-- How a run ends: it stops before or after the directories have been made, or the configuration
is written. -/
theorem outcome_cases (r : InitRequest) (m : Machine) :
    ((r.outcome m).status = .fault ∧
      ((r.outcome m).files = m.files ∨ (r.outcome m).files = (makeParent m r.output).tree)) ∨
    ((r.outcome m).status = .success ∧ m.files.leads m.cwd r.output = false ∧
      (makeParent m r.output).fault? = none ∧
      (makeParent m r.output).tree.write m.cwd r.output Config.template.toUTF8 =
        .ok (r.outcome m).files) := by
  rw [outcome]
  split
  · exact .inl ⟨rfl, .inl rfl⟩
  next hleads =>
  dsimp only
  cases hfault : (makeParent m r.output).fault? with
  | some fault => exact .inl ⟨rfl, .inr rfl⟩
  | none =>
    cases hwrite : (makeParent m r.output).tree.write m.cwd r.output Config.template.toUTF8 with
    | error fault => exact .inl ⟨rfl, .inr rfl⟩
    | ok files => exact .inr ⟨rfl, by simpa using hleads, rfl, rfl⟩

/-- What making the parent does: nothing, or directories on the way to it are made. -/
theorem makeParent_cases (m : Machine) (path : String) :
    makeParent m path = ⟨m.files, none⟩ ∨
      ∃ folder ≠ "", parent? path = some folder ∧
        makeParent m path = m.files.makeDirectories m.cwd folder := by
  rw [makeParent]
  split
  · exact .inl rfl
  · exact .inl rfl
  · exact .inl rfl
  · next folder hempty _ hparent => exact .inr ⟨folder, hempty, hparent, rfl⟩

theorem addsDirectories_makeParent (h : m.IsProper) (path : String) :
    m.files.AddsDirectories (makeParent m path).tree := by
  rcases makeParent_cases m path with heq | ⟨folder, -, -, heq⟩
  · rw [heq]
    exact .refl _
  · rw [heq]
    exact (Tree.makesWay_makeDirectories h.files h.cwd folder).adds

/-- Where a path leads once the directories on the way have been made, nothing was before, if it led
to nothing and does not go up from nowhere. -/
theorem get?_eq_none_of_leads (h : m.IsProper) (hleads : m.files.leads m.cwd path = false)
    (hclimbs : ¬m.files.ClimbsFromNowhere m.cwd path)
    (hfault : (makeParent m path).fault? = none) {place : Place}
    (hfollow : (makeParent m path).tree.follow m.cwd path = .ok place) :
    m.files.get? place = none := by
  have hsame : m.files.follow m.cwd path = .ok place → m.files.get? place = none := by
    intro hbefore
    rw [Tree.leads, Tree.stat, hbefore] at hleads
    cases hget : m.files.get? place with
    | none => rfl
    | some entry =>
      simp only [bind, Except.bind, hget] at hleads
      cases hleads
  rcases makeParent_cases m path with heq | ⟨folder, hempty, hparent, heq⟩
  · rw [heq] at hfollow
    exact hsame hfollow
  · rw [heq] at hfollow hfault
    obtain ⟨front, name, after, hgoes⟩ := exists_goesOn_of_parent? hparent hempty
    have hway := Tree.makesWay_makeDirectories h.files h.cwd folder
    rcases hway.leadsToNew hfault (mt (.of_goesOn hgoes) hclimbs) with hsame' | hnew
    · rw [hsame'] at hfollow
      exact hsame hfollow
    · exact Tree.get?_eq_none_of_leadsToNew hgoes h.files hway.proper h.cwd hway.adds hclimbs hnew
        (Tree.follow_eq_ok_iff.1 hfollow).2

/-- What a run leaves: all files as they were, or one new file to which its path leads, or one that
has been there and to which the path leads now, since it goes up from nowhere. -/
theorem outcome_kept (h : m.IsProper) (r : InitRequest) :
    ((r.outcome m).status.code = 2 ∧
      ∀ place, (r.outcome m).files.fileAt? place = m.files.fileAt? place) ∨
    ((r.outcome m).status.code = 0 ∧ m.files.leads m.cwd r.output = false ∧
      ∃ place, (r.outcome m).files.follow m.cwd r.output = .ok place ∧
        (r.outcome m).files.read m.cwd r.output = .ok Config.template.toUTF8 ∧
        (∀ other, other ≠ place →
          (r.outcome m).files.fileAt? other = m.files.fileAt? other) ∧
        (¬m.files.ClimbsFromNowhere m.cwd r.output → m.files.get? place = none)) := by
  have hadds := addsDirectories_makeParent h r.output
  rcases r.outcome_cases m with ⟨hstatus, hfiles⟩ | ⟨hstatus, hleads, hfault, hwrite⟩
  · refine .inl ⟨congrArg ExitStatus.code hstatus, fun place => ?_⟩
    rcases hfiles with hfiles | hfiles
    · rw [hfiles]
    · rw [hfiles, hadds.fileAt?_eq]
  · obtain ⟨place, hset, hwritable, hafter, hbefore⟩ := Tree.write_eq_ok hwrite
    have hfile : (r.outcome m).files.get? place = some (.file Config.template.toUTF8) := by
      rw [hset, Tree.get?_set_of_ne_nil hwritable.ne_nil, if_pos rfl]
    refine .inr ⟨congrArg ExitStatus.code hstatus, hleads, place, hafter, ?_, ?_, ?_⟩
    · exact Tree.read_of_file? (Tree.file?_eq_some_iff.2 ⟨place, hafter, hfile⟩)
    · intro other hother
      rw [hset, Tree.fileAt?_set_of_ne hwritable.ne_nil _ hother, hadds.fileAt?_eq]
    · intro hclimbs
      rcases hbefore with hfree | hfollow
      · exact hadds.eq_none hfree
      · exact get?_eq_none_of_leads h hleads hclimbs hfault hfollow

end InitRequest

/-- **Making a configuration damages no file**, unless its path goes up with `..` from where nothing
is. A run that fails leaves every file as it was. One that succeeds was given a path that led to
nothing. It leads to the new configuration then, and every other file is as it was; without such
`..` nothing was in its place. -/
theorem Command.run_init_kept (h : m.IsProper) (r : InitRequest) (color : Bool) :
    let after := (run m color (.init r)).files
    (¬m.files.ClimbsFromNowhere m.cwd r.output → ∀ place bytes,
      m.files.fileAt? place = some bytes → after.fileAt? place = some bytes) ∧
    (((run m color (.init r)).status.code = 2 ∧
        ∀ place, after.fileAt? place = m.files.fileAt? place) ∨
      ((run m color (.init r)).status.code = 0 ∧ m.files.leads m.cwd r.output = false ∧
        ∃ place, after.follow m.cwd r.output = .ok place ∧
          after.read m.cwd r.output = .ok Config.template.toUTF8 ∧
          (∀ other, other ≠ place → after.fileAt? other = m.files.fileAt? other) ∧
          (¬m.files.ClimbsFromNowhere m.cwd r.output → m.files.get? place = none))) := by
  intro after
  have hkept := InitRequest.outcome_kept h r
  refine ⟨fun hclimbs place bytes hbytes => ?_, hkept⟩
  rcases hkept with ⟨-, hsame⟩ | ⟨-, -, target, -, -, hothers, hfree⟩
  · exact (hsame place).trans hbytes
  · have hother : place ≠ target := by
      rintro rfl
      rw [Tree.fileAt?_eq_some_iff, hfree hclimbs] at hbytes
      cases hbytes
    exact (hothers place hother).trans hbytes

/-- A machine with a file, a directory, and a link in it that leads to nothing. -/
def danglingMachine : Machine where
  files := ((Tree.empty.set ["keep.yaml"] (.file "keep me".toUTF8)).set ["sub"] .directory).set
    ["sub", "link"] (.link "../fresh.yaml")

theorem isProper_danglingMachine : danglingMachine.IsProper where
  files := by
    have hkeep := Tree.isProper_empty.set [] "keep.yaml" (.file "keep me".toUTF8) (by decide)
      rfl rfl
    have hsub := hkeep.set [] "sub" .directory (by decide) rfl rfl
    exact hsub.set ["sub"] "link" (.link "../fresh.yaml") (by decide) rfl rfl
  cwd := rfl

/-- Going up from a directory that is there, and through a link, makes a new file. -/
theorem Command.run_init_kept_danglingMachine :
    let r : InitRequest := { output := "sub/../sub/link" }
    let after := (run danglingMachine false (.init r)).files
    danglingMachine.IsProper ∧ ¬danglingMachine.files.ClimbsFromNowhere [] r.output ∧
      (run danglingMachine false (.init r)).status.code = 0 ∧
      after.fileAt? ["keep.yaml"] = some "keep me".toUTF8 ∧
      after.read [] r.output = .ok Config.template.toUTF8 := by
  intro r after
  have hclimbs : ¬danglingMachine.files.ClimbsFromNowhere [] r.output := by decide +kernel
  have hcode : (run danglingMachine false (.init r)).status.code = 0 := by decide +kernel
  obtain ⟨hkept, hends⟩ := run_init_kept isProper_danglingMachine r false
  refine ⟨isProper_danglingMachine, hclimbs, hcode, hkept hclimbs _ _ rfl, ?_⟩
  rcases hends with ⟨htwo, -⟩ | ⟨-, -, _, -, hread, -⟩
  · rw [hcode] at htwo
    cases htwo
  · exact hread

/-- A path that goes up from a directory that is only then made leads to a file that has been there
all along, and the configuration is written over it. -/
theorem Command.init_writes_over :
    let r : InitRequest := { output := "new/../keep.yaml" }
    let outcome := run danglingMachine false (.init r)
    danglingMachine.IsProper ∧ outcome.status.code = 0 ∧
      danglingMachine.files.fileAt? ["keep.yaml"] = some "keep me".toUTF8 ∧
      outcome.files.fileAt? ["keep.yaml"] ≠ some "keep me".toUTF8 := by
  intro r outcome
  have hcode : outcome.status.code = 0 := by decide +kernel
  have hfollow : outcome.files.follow [] r.output = .ok ["keep.yaml"] := by decide +kernel
  have hother : "keep me".toUTF8 ≠ Config.template.toUTF8 := by decide +kernel
  refine ⟨isProper_danglingMachine, hcode, rfl, fun hold => hother ?_⟩
  rcases InitRequest.outcome_kept isProper_danglingMachine r with ⟨htwo, -⟩ | ⟨-, -, _, -, hread, -⟩
  · cases hcode.symm.trans htwo
  · have hfile := Tree.file?_eq_some_iff.2 ⟨_, hfollow, Tree.fileAt?_eq_some_iff.1 hold⟩
    exact Except.ok.inj ((Tree.read_of_file? hfile).symm.trans hread)

end ShellPages
