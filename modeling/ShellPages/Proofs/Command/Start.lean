import ShellPages.Proofs.Command.Alike
import ShellPages.Proofs.Config.Located
import ShellPages.Proofs.Config.Template
import ShellPages.Proofs.Files.Addition
import ShellPages.Proofs.Page.Directory

/-!
# Starting with a configuration

Where no configuration is found, one can be made to start from. It is written to the working
directory and nothing else changes (`InitRequest.run_of_free`), so that it is what is found from
then on, if anything is (`Machine.IsBare.holds_of_discover_started`). It says what holds without it,
so that a command that names no configuration ends as it did before: `Command.run_started`. There is
one exception. The new file may be a page itself, if a link among the pages in a given directory
leads to it, and is shown then (`DocRequest.MeetsNew.exists_documents`).
-/

namespace ShellPages

open Files Page

/-- A machine on which a configuration to start from has been made. -/
def Machine.started (m : Machine) : Machine :=
  { m with files := m.files.addFile m.cwd Config.fileName Config.template.toUTF8 }

/-- A machine on which a run finds no configuration, with a working directory in which one can be
made. -/
structure Machine.IsBare (m : Machine) : Prop extends m.IsProper where
  free : m.files.get? (m.cwd ++ [Config.fileName]) = none
  undiscovered : m.discover m.cwdPath = none

/-- A page that a request looks up in a given directory leads to the configuration that has been
made. -/
def DocRequest.MeetsNew (r : DocRequest) (m : Machine) : Prop :=
  ∃ directory page place, r.docsDirectory = some directory ∧ r.LooksUp {} page ∧
    normalize? page = some place ∧
    m.started.files.follow m.cwd (join directory place) = .ok (m.cwd ++ [Config.fileName])

variable {m : Machine} {path : String} {c : Config}

/-! ## Making the configuration -/

/-- Where the name is free, a configuration is made and nothing else happens to the files. -/
theorem InitRequest.run_of_free (hfree : m.files.get? (m.cwd ++ [Config.fileName]) = none)
    (color : Bool) :
    (Command.run m color (.init {})).status = .success ∧
      (Command.run m color (.init {})).files = m.started.files := by
  have hleads : m.files.leads m.cwd Config.fileName = false := by
    rw [Tree.leads, Tree.stat, Tree.follow_name_of_none Config.isName_fileName hfree]
    rfl
  have hparent : makeParent m Config.fileName = ⟨m.files, none⟩ := by
    have hempty : parent? Config.fileName = some "" := by decide
    rw [makeParent, hempty]
    rfl
  have hwrite : m.files.write m.cwd Config.fileName Config.template.toUTF8 =
      .ok m.started.files :=
    Tree.write_name _ Config.isName_fileName hfree
  have houtcome : outcome { output := Config.fileName } m =
      (pure { output := nextSteps Config.fileName } : Task Answer).outcome m.started.files := by
    rw [outcome, hleads, hparent]
    dsimp only
    rw [hwrite]
    rfl
  exact ⟨congrArg Outcome.status houtcome, congrArg Outcome.files houtcome⟩

/-! ## What is found then -/

/-- Whatever is found on a machine on which a configuration has been made is this one. -/
theorem Machine.IsBare.holds_of_discover_started (h : m.IsBare)
    (hpath : m.started.discover m.started.cwdPath = some path) :
    m.started.Holds path Config.ofTemplate := by
  have hmem : path ∈ m.configPaths m.cwdPath := List.mem_of_find?_eq_some hpath
  have hbefore : m.files.file? m.cwd path = none :=
    Option.not_isSome_iff_eq_none.1 (List.find?_eq_none.1 h.undiscovered path hmem)
  have hafter : m.started.isFile path := List.find?_some hpath
  rw [isFile] at hafter
  have hfile : m.started.files.file? m.cwd path = some Config.template.toUTF8 := by
    rcases Tree.file?_addFile_cases Config.template.toUTF8 h.free m.cwd path with hsame | ⟨-, hnew⟩
    · have hnone : m.started.files.file? m.started.cwd path = none := hsame.trans hbefore
      rw [hnone] at hafter
      cases hafter
    · exact hnew
  exact holds_of_file? hfile Config.parse_template

/-- Without configuration, a run uses the empty one. -/
theorem Machine.loads_iff_of_undiscovered (h : m.discover m.cwdPath = none) :
    m.Loads none c ↔ c = {} := by
  constructor
  · rintro ⟨hreads, -⟩
    cases hreads with
    | found hpath _ =>
      rw [h] at hpath
      cases hpath
    | default _ => rfl
  · rintro rfl
    exact ⟨.default h, Config.isValid_empty _⟩

/-- What a run uses once a configuration has been made: the empty one, or what has been made. -/
theorem Machine.IsBare.exists_loads_started (h : m.IsBare) :
    ∃ d, (d = {} ∨ d = Config.ofTemplate) ∧ ∀ c, m.started.Loads none c ↔ c = d := by
  cases hpath : m.started.discover m.started.cwdPath with
  | none => exact ⟨{}, .inl rfl, fun c => loads_iff_of_undiscovered hpath⟩
  | some path =>
    have hholds := h.holds_of_discover_started hpath
    have hlocated : Config.ofTemplate.locatedAt path = Config.ofTemplate :=
      Config.locatedAt_of_no_root rfl
    refine ⟨Config.ofTemplate, .inr rfl, fun c => ?_⟩
    rw [loads_iff_of_path ((configPath?_none _).trans hpath)]
    constructor
    · rintro ⟨held, hheld, rfl, -⟩
      rw [hheld.unique hholds, hlocated]
    · rintro rfl
      exact ⟨_, hholds, hlocated.symm, Config.isValid_ofTemplate _⟩

/-- What a run uses before a configuration has been made, and what it uses then. -/
def Config.IsStart (c d : Config) : Prop :=
  c = {} ∧ (d = {} ∨ d = Config.ofTemplate)

theorem Machine.IsBare.loadAlike (h : m.IsBare) :
    m.LoadAlike Config.IsStart none m.started none := by
  obtain ⟨d, hd, hloads⟩ := h.exists_loads_started
  constructor
  · intro c hc
    exact ⟨d, (hloads d).2 rfl, (loads_iff_of_undiscovered h.undiscovered).1 hc, hd⟩
  · intro other hother
    obtain rfl := (hloads other).1 hother
    exact ⟨{}, (loads_iff_of_undiscovered h.undiscovered).2 rfl, rfl, hd⟩

/-- Neither chain nor root nor inspections tell them apart. -/
theorem Config.IsStart.chain_eq {d : Config} (h : Config.IsStart c d) : c.chain = d.chain := by
  obtain ⟨rfl, rfl | rfl⟩ := h
  · rfl
  · exact Config.chain_ofTemplate.symm

/-! ## The pages in a given directory -/

/-- A new file that is not named like a page is not listed. -/
theorem PageDirectory.keys_addFile {t : Tree} {directory cwd : Place} {name root base : String}
    {bytes : ByteArray} (ht : t.IsProper) (hfree : t.get? (directory ++ [name]) = none)
    (hname : keyOfName? name.toList = none) :
    keys ⟨t.addFile directory name bytes, cwd, root⟩ base = keys ⟨t, cwd, root⟩ base := by
  have hfollow := Tree.gains_follow bytes hfree cwd (pathOf ⟨t, cwd, root⟩ base)
  have hpath : pathOf ⟨t.addFile directory name bytes, cwd, root⟩ base =
      pathOf ⟨t, cwd, root⟩ base := rfl
  unfold keys
  dsimp only
  rw [hpath]
  generalize t.follow cwd (pathOf ⟨t, cwd, root⟩ base) = old at hfollow ⊢
  generalize (t.addFile directory name bytes).follow cwd (pathOf ⟨t, cwd, root⟩ base) = added
    at hfollow ⊢
  cases hfollow with
  | found fault =>
    dsimp only
    rw [Tree.list_addFile_self bytes hfree ht, List.filterMap_nil, List.mergeSort_nil]
  | failed fault other => rfl
  | same =>
    cases old with
    | error fault => rfl
    | ok place =>
      dsimp only
      rw [Tree.list_addFile bytes hfree]
      split
      · have hentry : keyOfEntry? (name, Entry.file bytes) = none := hname
        rw [List.filterMap_cons_none hentry]
      · rfl

/-- The pages are the same to a request that does not meet the new file. -/
theorem DocRequest.seesAlike_started {r : DocRequest} {d : Config} (h : m.IsBare)
    (hpages : ¬r.MeetsNew m) (hstart : Config.IsStart c d) :
    r.SeesAlike (r.configured c) ((r.configured c).store m)
      ((r.configured d).store m.started) := by
  obtain ⟨rfl, hd⟩ := hstart
  have hroot : d.docs.root? = none := by
    rcases hd with rfl | rfl <;> rfl
  rw [configured, configured, hroot]
  cases hdirectory : r.docsDirectory with
  | none => exact .refl r _ _
  | some directory =>
    have hlisted : keyOfName? Config.fileName.toList = none := by decide
    show r.SeesAlike _ (PageDirectory.store ⟨m.files, m.cwd, directory⟩)
      (PageDirectory.store ⟨m.started.files, m.cwd, directory⟩)
    constructor
    · intro base _
      rw [PageDirectory.keys_store, PageDirectory.keys_store]
      exact (PageDirectory.keys_addFile h.files h.free hlisted).symm
    · intro page hpage
      rw [PageDirectory.find?_store, PageDirectory.find?_store]
      cases hplace : normalize? page with
      | none => rfl
      | some place =>
        have hother : m.started.files.follow m.cwd (join directory place) ≠
            .ok (m.cwd ++ [Config.fileName]) :=
          fun hnew => hpages ⟨directory, page, place, hdirectory, hpage, hplace, hnew⟩
        exact congrArg (Option.map Resource.whole)
          (Tree.file?_addFile Config.template.toUTF8 h.free hother).symm

/-- A request that meets the new file is shown it, as the page of one of its names. -/
theorem DocRequest.MeetsNew.exists_documents {r : DocRequest} {d : Config} (h : r.MeetsNew m)
    (hd : d = {} ∨ d = Config.ofTemplate) :
    ∃ name ∈ r.names, (r.configured d).Documents m.started .command name := by
  obtain ⟨directory, _, place, hdirectory, hlooks, hplace, hnew⟩ := h
  obtain ⟨-, -, s, hs, name, hname, hplain, hshared, rfl⟩ := hlooks
  obtain ⟨asked, hasked, hkind, hbase⟩ : ∃ asked ∈ (r.configured d).askedSources,
      asked.kind = s.kind ∧ asked.base = s.base := by
    rcases hd with rfl | rfl
    · exact ⟨s, hs, rfl, rfl⟩
    · rcases List.mem_pair.1 hs with rfl | rfl
      · exact ⟨_, List.mem_cons_self, rfl, rfl⟩
      · exact ⟨_, List.mem_cons_of_mem _ List.mem_cons_self, rfl, rfl⟩
  have hbased : s.base ≠ "" := by
    rcases List.mem_pair.1 hs with rfl | rfl <;> decide
  have hroot : (r.configured d).docs.root? = some directory := by
    rw [configured, hdirectory]
    rfl
  have hbytes : (r.configured d).bytesAt? m.started place = some Config.template.toUTF8 := by
    rw [Config.bytesAt?, hroot]
    refine Tree.file?_eq_some_iff.2 ⟨_, hnew, ?_⟩
    rw [Machine.started, Tree.get?_addFile, if_pos rfl]
  refine ⟨name, hname, asked, hasked, Config.template, rfl, ?_, ?_, hplain, ?_, ?_⟩
  · exact (isValidKey_iff.1 hplain).ne_empty
  · rwa [hkind]
  · rwa [hbase]
  · rw [hbase]
    exact Config.find?_store_eq_whole_iff.2 ⟨place, hplace, hbytes⟩

/-- **Making a configuration to start from changes no behaviour.** Where none is found, one can be
made, and a command that names no configuration ends as it did before. The one exception is a
request for pages that are looked up in a given directory, if one of them leads to the new file. -/
theorem Command.run_started (h : m.IsBare) (color : Bool) :
    (run m color (.init {})).status.code = 0 ∧
    let after : Machine := { m with files := (run m color (.init {})).files }
    (∀ r : DocRequest, r.config = none → ¬r.MeetsNew m →
      (run m color (.doc r)).EndsLike (run after color (.doc r))) ∧
    ∀ r : InspectionsRequest, r.config = none →
      (run m color (.inspections r)).EndsLike (run after color (.inspections r)) := by
  obtain ⟨hstatus, hfiles⟩ := InitRequest.run_of_free h.free color
  refine ⟨by rw [hstatus]; rfl, ?_⟩
  intro after
  have hafter : after = m.started := congrArg (fun files => { m with files := files }) hfiles
  constructor
  · intro r hconfig hpages
    have hload : m.LoadAlike Config.IsStart r.config m.started r.config := by
      rw [hconfig]
      exact h.loadAlike
    have hdirectory : (∀ path, r.docsDirectory = some path → m.isDirectory path) ↔
        ∀ path, r.docsDirectory = some path → m.started.isDirectory path := by
      refine forall_congr' fun path => imp_congr_right fun _ => ?_
      rw [Machine.isDirectory, Machine.isDirectory, Machine.started,
        Tree.isDirectory_addFile Config.template.toUTF8 h.free]
    rw [hafter]
    exact endsLike_doc r.docsDirectory hload hdirectory (fun c d hstart =>
      ⟨hstart.chain_eq, DocRequest.seesAlike_started h hpages hstart⟩) color
  · intro r hconfig
    have hload : m.LoadAlike Config.IsStart r.config m.started r.config := by
      rw [hconfig]
      exact h.loadAlike
    rw [hafter]
    refine endsLike_inspections hload ?_ color
    rintro _ _ ⟨rfl, rfl | rfl⟩ <;> rfl

/-- A machine with two pages, one of which is a link to where a configuration would be made. -/
def linkedMachine : Machine where
  files := (((Tree.empty.set ["documentation"] .directory).set
    ["documentation", "internal"] .directory).set
    ["documentation", "internal", "cd.html"] (.file "C".toUTF8)).set
    ["documentation", "internal", "echo.html"] (.link "../../shelldoc.yaml")

theorem isBare_linkedMachine : linkedMachine.IsBare where
  files := by
    have hbase := Tree.isProper_empty.set [] "documentation" .directory (by decide) rfl rfl
    have hinternal := hbase.set ["documentation"] "internal" .directory (by decide) rfl rfl
    have hpage := hinternal.set ["documentation", "internal"] "cd.html" (.file "C".toUTF8)
      (by decide) rfl rfl
    exact hpage.set ["documentation", "internal"] "echo.html" (.link "../../shelldoc.yaml")
      (by decide) rfl rfl
  cwd := rfl
  free := rfl
  undiscovered := by decide +kernel

/-- A page that is no link is shown as before. -/
theorem Command.run_started_linkedMachine :
    let request : DocRequest := { names := ["cd"], docsDirectory := some "." }
    let after : Machine :=
      { linkedMachine with files := (run linkedMachine false (.init {})).files }
    linkedMachine.IsBare ∧ ¬request.MeetsNew linkedMachine ∧
      (run linkedMachine false (.doc request)).EndsLike (run after false (.doc request)) ∧
      (run linkedMachine false (.doc request)).status.code = 0 := by
  intro request after
  have hmeets : ¬request.MeetsNew linkedMachine := by
    rintro ⟨_, _, place, ⟨⟩, ⟨-, -, s, hs, name, hname, -, -, rfl⟩, hplace, hnew⟩
    have hall : ∀ s ∈ Config.stockSources, ∀ name ∈ request.names,
        ∀ place ∈ normalize? (s.base ++ "/" ++ Text.trim name ++ ".html"),
          linkedMachine.started.files.follow [] (join "." place) ≠ .ok ["shelldoc.yaml"] := by
      decide +kernel
    exact hall s hs name hname place hplace hnew
  obtain ⟨-, hdoc, -⟩ := run_started isBare_linkedMachine false
  exact ⟨isBare_linkedMachine, hmeets, hdoc request rfl hmeets, by decide +kernel⟩

/-- A page that is a link to the configuration is shown once that has been made, and not before. -/
theorem Command.page_made_by_start :
    let request : DocRequest := { names := ["echo"], docsDirectory := some "." }
    let after : Machine :=
      { linkedMachine with files := (run linkedMachine false (.init {})).files }
    linkedMachine.IsBare ∧ (run linkedMachine false (.init {})).status.code = 0 ∧
      (run linkedMachine false (.doc request)).status.code = 1 ∧
      (run after false (.doc request)).status.code = 0 := by
  intro request after
  obtain ⟨hstatus, hfiles⟩ := InitRequest.run_of_free isBare_linkedMachine.free false
  have hafter : after = linkedMachine.started :=
    congrArg (fun files => { linkedMachine with files := files }) hfiles
  refine ⟨isBare_linkedMachine, by rw [hstatus]; rfl, by decide +kernel, ?_⟩
  obtain ⟨d, hd, hloads⟩ := isBare_linkedMachine.exists_loads_started
  have hready : request.IsReady linkedMachine.started .pretty .command d := by
    refine ⟨rfl, by decide, .inl (by simp [request]), (hloads d).2 rfl, ?_⟩
    rintro _ ⟨⟩
    decide +kernel
  have hmeets : request.MeetsNew linkedMachine :=
    ⟨".", _, "documentation/internal/echo.html", rfl,
      ⟨by decide, by decide, _, List.mem_cons_self, _, List.mem_cons_self, by decide, by decide,
        rfl⟩,
      by decide, by decide +kernel⟩
  obtain ⟨name, hname, hdocuments⟩ := hmeets.exists_documents hd
  obtain rfl : name = "echo" := List.mem_singleton.1 hname
  have hsuccess : (request.answer linkedMachine.started false .pretty .command
      (request.configured d)).status = .success := by
    refine DocRequest.status_answer_eq_success_iff.2 (.inr fun name hname => ?_)
    rw [List.mem_singleton.1 hname]
    exact hdocuments
  rw [hafter, (DocRequest.run_of_isReady false hready).1, hsuccess]
  rfl

end ShellPages
