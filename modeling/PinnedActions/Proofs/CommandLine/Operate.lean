import PinnedActions.Proofs.CommandLine.Job
import PinnedActions.Proofs.CommandLine.Report
import PinnedActions.Proofs.Disk.Discovery
import PinnedActions.Proofs.Pinning.Revision

/-!
# How a command runs

A command that ends has one of four ends (`JobRun`).  It met a trouble, and saved nothing; there was
no usage to work on; or it carried out its operation on the files of the project and saved those with
a changed line, and then it printed its report, or the report was refused.

So an operation that fails saves nothing, however far it came in the files at hand: saving comes
after the operation.  Saving itself cannot fail in a tree with proper names, as the files are saved
where they were found.  But the report comes after saving.  It is refused if it is printed as JSON and
a warning in it is about a file whose path is no text, and then the command fails although the files
are saved.

* `Command.Edits` — what a command makes of the files of a project, and the paths that its report
  names.
* `Program.jobRun_of_run` — every run of a command is one of these.
-/

set_option autoImplicit false

namespace PinnedActions

/-- What a command makes of files, when its operation ends well, and the paths that its report names: a
resolver without memory is asked.  A command that only checks makes nothing of them. -/
inductive Command.Edits (source : Source) (settings : Settings) (files : List WorkflowFile) :
    Command → List WorkflowFile → List Bytes → Prop where
  | verify : Edits source settings files .verify files []
  | fix {report : FixReport} {files' : List WorkflowFile} {t : Session}
      (h : (Pinning.fix source settings files).run .empty = some ((report, files'), t)) :
      Edits source settings files .fix files' (report.warnings.map Warning.path)
  | upgradeAll {report : UpgradeReport} {files' : List WorkflowFile} {t : Session}
      (h : (Pinning.upgrade source settings .everything none files).run .empty =
        some ((.ok report, files'), t)) :
      Edits source settings files .upgradeAll files' []
  | upgrade {argument : Text} {version : Option Text} {target : Target} {report : UpgradeReport}
      {files' : List WorkflowFile} {t : Session} (htarget : Target.ofArgument argument = .ok target)
      (h : (Pinning.upgrade source settings target version files).run .empty =
        some ((.ok report, files'), t)) :
      Edits source settings files (.upgrade argument version) files' []
  | updateAll {report : UpdateReport} {files' : List WorkflowFile} {t : Session}
      (h : (Pinning.update source settings .everything files).run .empty =
        some ((.ok report, files'), t)) :
      Edits source settings files .updateAll files' (report.warnings.map Warning.path)
  | update {argument : Text} {target : Target} {report : UpdateReport}
      {files' : List WorkflowFile} {t : Session} (htarget : Target.ofArgument argument = .ok target)
      (h : (Pinning.update source settings target files).run .empty =
        some ((.ok report, files'), t)) :
      Edits source settings files (.update argument) files' (report.warnings.map Warning.path)

/-- Whether a report that names some paths can be printed in the way that was asked for. -/
def Options.CanTell (o : Options) (named : List Bytes) : Prop :=
  o.json = true → Path.AreTexts named

namespace Program

open Job Progress

variable {s : Surroundings} {o : Options} {root : Bytes} {p q : Progress} {files : List WorkflowFile}
  {r : Except Trouble Unit}

/-! ## Loading a project -/

/-- The settings with the base address among the options in place of theirs. -/
def overridden (o : Options) (settings : Settings) : Settings :=
  { settings with apiUrl := o.apiUrl.getD settings.apiUrl }

theorem speaks_loadSettings (root : Bytes) (apiUrl : Option Text) :
    Speaks (loadSettings root apiUrl) :=
  speaks_bind speaks_progress fun _ => speaks_bind (speaks_orTrouble _ _) fun _ =>
    speaks_bind (speaks_sayAdvice _) fun _ => speaks_pure _

theorem speaks_loadProject (root : Bytes) (o : Options) : Speaks (loadProject root o) :=
  speaks_bind (speaks_loadSettings root o.apiUrl) fun _ => speaks_bind speaks_progress fun _ =>
    speaks_bind (speaks_orTrouble _ _) fun _ => speaks_pure _

theorem load_of_runFrom_loadSettings {settings : Settings}
    (h : (loadSettings root o.apiUrl).runFrom p = some (.ok settings, q)) :
    ∃ given, Settings.load p.disk root = .ok given ∧ settings = overridden o given := by
  obtain ⟨_, p1, h1, h⟩ := exists_of_runFrom_bind_ok h
  obtain ⟨given, p2, h2, h⟩ := exists_of_runFrom_bind_ok h
  obtain ⟨_, p3, -, h⟩ := exists_of_runFrom_bind_ok h
  cases h
  cases h1
  exact ⟨given, (eq_of_runFrom_orTrouble_ok h2).1, rfl⟩

/-- What a command works on, and the client for it, come from the disk. -/
structure IsReady (s : Surroundings) (o : Options) (root : Bytes) (d : Disk) (project : Project)
    (client : Client) : Prop where
  place : project.root = root
  settings : ∃ given, Settings.load d root = .ok given ∧ project.settings = overridden o given
  files : Discovery.loadAll d root = .ok project.files
  client : Client.create? project.settings.apiUrl (token? s o) = .ok client

/-- What comes of loading a project: there is no usage in its files, or it is there to work on. -/
theorem cases_of_runFrom_loadProject {project : Option Project}
    (h : (loadProject root o).runFrom p = some (.ok project, q)) :
    ∃ given files, Settings.load p.disk root = .ok given ∧
      Discovery.loadAll p.disk root = .ok files ∧
      project = if WorkflowFile.usageCount files = 0 then none
        else some ⟨root, overridden o given, files⟩ := by
  obtain ⟨settings, p1, h1, h⟩ := exists_of_runFrom_bind_ok h
  obtain ⟨_, p2, h2, h⟩ := exists_of_runFrom_bind_ok h
  obtain ⟨files, p3, h3, h⟩ := exists_of_runFrom_bind_ok h
  obtain ⟨given, hgiven, rfl⟩ := load_of_runFrom_loadSettings h1
  have hprints := speaks_loadSettings root o.apiUrl p _ p1 h1
  cases h
  cases h2
  refine ⟨given, files, hgiven, ?_, rfl⟩
  rw [← hprints.disk]
  exact (eq_of_runFrom_orTrouble_ok h3).1

/-- What a command can be before its work begins: it has a trouble, there is no usage, or all is
ready. -/
inductive ProjectRun (s : Surroundings) (o : Options) (root : Bytes)
    (work : Project → Client → Source → Job Unit) (p : Progress) :
    Except Trouble Unit → Progress → Prop where
  | failed {t : Trouble} {q : Progress} (hprints : OnlyPrints p q) :
      ProjectRun s o root work p (.error t) q
  | idle {files : List WorkflowFile} {q : Progress} (hfiles : Discovery.loadAll p.disk root = .ok files)
      (hcount : WorkflowFile.usageCount files = 0) (hprints : OnlyPrints p q) :
      ProjectRun s o root work p (.ok ()) q
  | working {project : Project} {client : Client} {p' q : Progress} {r : Except Trouble Unit}
      (hready : IsReady s o root p.disk project client) (hprints : OnlyPrints p p')
      (hwork : (work project client ⟨client.catalog s.network, s.patience⟩).runFrom p' =
        some (r, q)) :
      ProjectRun s o root work p r q

theorem projectRun_of_run {empty : Option Json} (hempty : empty.isSome = true)
    {work : Project → Client → Source → Job Unit}
    (h : (withProject s o root empty work).runFrom p = some (r, q)) :
    ProjectRun s o root work p r q := by
  rcases runFrom_bind_cases h with ⟨t, h1, rfl⟩ | ⟨project, p1, h1, h⟩
  · exact .failed (speaks_loadProject root o p _ q h1)
  obtain ⟨given, files, hgiven, hfiles, rfl⟩ := cases_of_runFrom_loadProject h1
  have hloaded := speaks_loadProject root o p _ p1 h1
  split at h
  · rename_i hnone
    obtain ⟨rfl, hprints⟩ := prints_sayReport o hempty _ p1 r q h
    refine .idle hfiles (Decidable.byContradiction fun hcount => ?_) (hloaded.trans hprints)
    rw [if_neg hcount] at hnone
    cases hnone
  · rename_i project hsome
    have hproject : project = ⟨root, overridden o given, files⟩ := by
      split_ifs at hsome
      exact (Option.some.inj hsome).symm
    subst hproject
    rcases runFrom_bind_cases h with ⟨t, h2, rfl⟩ | ⟨client, p2, h2, hwork⟩
    · exact .failed (hloaded.trans (speaks_orTrouble _ _ p1 _ q h2))
    · obtain ⟨hclient, rfl⟩ := eq_of_runFrom_orTrouble_ok h2
      exact .working ⟨rfl, ⟨given, hgiven, rfl⟩, hfiles, hclient⟩ hloaded hwork

/-! ## Saving -/

/-- Whether files were saved one after the other: the disk shows it, and the paths of those with a
changed line were taken down. -/
structure Saves (files : List WorkflowFile) (p q : Progress) : Prop where
  disk : Discovery.Saved p.disk files q.disk
  saved : q.saved = p.saved ++ (files.filter WorkflowFile.isDirty).map WorkflowFile.path

/-- Files without a changed line are saved by doing nothing. -/
theorem saves_of_clean (hclean : ∀ f ∈ files, f.isDirty = false) (hsame : SameDisk p q) :
    Saves files p q where
  disk := hsame.disk ▸ .of_clean hclean
  saved := by
    have hnone : files.filter WorkflowFile.isDirty = [] :=
      List.filter_eq_nil_iff.2 fun f hf => by rw [hclean f hf]; exact Bool.false_ne_true
    rw [hsame.saved, hnone, List.map_nil, List.append_nil]

theorem runFrom_write {f : WorkflowFile} {names : List Bytes} {mode : Nat} {name : Bytes}
    (hholds : p.disk.Holds f.path names mode) :
    (write name f).runFrom p = some (.ok (), { p with
      disk := Discovery.rewrite p.disk names mode f
      saved := p.saved ++ if f.isDirty then [f.path] else [] }) := by
  have hprogress : progress.runFrom p = some (.ok p, p) := rfl
  rw [write, runFrom_bind, hprogress, Option.bind_some]
  simp only [Discovery.save_of_holds hholds]
  rfl

/-- Saving files where they were found meets no trouble. -/
theorem saves_of_runFrom_saveAll
    (hholds : ∀ f ∈ files, ∃ names mode, p.disk.Holds f.path names mode)
    (h : (saveAll root files).runFrom p = some (r, q)) : r = .ok () ∧ Saves files p q := by
  induction files generalizing p with
  | nil =>
    cases h
    exact ⟨rfl, saves_of_clean nofun (.refl _)⟩
  | cons f rest ih =>
    obtain ⟨⟨names, mode, hfirst⟩, hrest⟩ := List.forall_mem_cons.1 hholds
    rw [saveAll, runFrom_bind, runFrom_write hfirst] at h
    have halike := Discovery.alike_rewrite hfirst
    obtain ⟨rfl, hsaves⟩ := ih (fun g hg => by
      obtain ⟨names', mode', hg⟩ := hrest g hg
      exact ⟨names', mode', halike.holds hg⟩) h
    refine ⟨rfl, .cons hfirst hsaves.disk, hsaves.saved.trans ?_⟩
    cases hdirty : f.isDirty <;> simp [hdirty]

/-- Files are saved, and then something is printed, if it is not refused. -/
theorem saves_of_runFrom_saveAll_bind {refused : Prop} {print : Job Unit}
    (hprint : PrintsUnless refused print)
    (hholds : ∀ f ∈ files, ∃ names mode, p.disk.Holds f.path names mode)
    (h : (do saveAll root files; print).runFrom p = some (r, q)) :
    Saves files p q ∧ (r = .ok () ∧ ¬refused ∨ r = .error .unprintable ∧ refused) := by
  rcases runFrom_bind_cases h with ⟨t, h1, -⟩ | ⟨⟨⟩, p1, h1, h2⟩
  · cases (saves_of_runFrom_saveAll hholds h1).1
  · obtain ⟨-, hsaves⟩ := saves_of_runFrom_saveAll hholds h1
    obtain ⟨hprints, hr⟩ := hprint p1 r q h2
    exact ⟨⟨hprints.disk ▸ hsaves.disk, hprints.saved.trans hsaves.saved⟩, hr⟩

/-! ## Commands -/

/-- Loaded files are as they were read. -/
theorem justRead_of_loadAll {d : Disk} (h : Discovery.loadAll d root = .ok files) :
    Pinning.JustRead files where
  apart f hf := by
    obtain ⟨-, content, -, hparse⟩ := Discovery.exists_content_of_loadAll h hf
    rw [hparse]
    exact WorkflowFile.linesApart_parse f.path content
  clean f hf := by
    obtain ⟨-, content, -, hparse⟩ := Discovery.exists_content_of_loadAll h hf
    rw [hparse]
    rfl

/-- **A command revises the files.** -/
theorem revised_of_command {source : Source} {settings : Settings} {command : Command}
    {files' : List WorkflowFile} {named : List Bytes} (hread : Pinning.JustRead files)
    (h : command.Edits source settings files files' named) :
    List.Forall₂ WorkflowFile.Revised files files' := by
  cases h with
  | verify => exact Pinning.revised_of_edits hread [] List.nodup_nil
  | fix h => exact Pinning.revised_of_fix hread h
  | upgradeAll h => exact Pinning.revised_of_upgrade hread h
  | upgrade _ h => exact Pinning.revised_of_upgrade hread h
  | updateAll h => exact Pinning.revised_of_update hread h
  | update _ h => exact Pinning.revised_of_update hread h

/-- **The paths that a report names are paths of files.** -/
theorem mem_paths_of_command {source : Source} {settings : Settings} {command : Command}
    {files' : List WorkflowFile} {named : List Bytes}
    (h : command.Edits source settings files files' named) :
    ∀ path ∈ named, path ∈ files.map WorkflowFile.path := by
  have hwarned : ∀ warnings : List Warning, (∀ w ∈ warnings, Pinning.IsAbout w files) →
      ∀ path ∈ warnings.map Warning.path, path ∈ files.map WorkflowFile.path :=
    fun warnings habout => List.forall_mem_map.2 fun w hw => by
      obtain ⟨f, hf, -, -, hpath, -⟩ := habout w hw
      exact List.mem_map.2 ⟨f, hf, hpath.symm⟩
  cases h with
  | verify | upgradeAll _ | upgrade _ _ => exact List.forall_mem_nil _
  | fix h => exact hwarned _ fun _ => Pinning.isAbout_of_fix h
  | updateAll h => exact hwarned _ fun _ => Pinning.isAbout_of_update h
  | update _ h => exact hwarned _ fun _ => Pinning.isAbout_of_update h

/-- Revised files are where the files were found. -/
theorem holds_of_revised {d : Disk} (hproper : d.tree.isProper = true)
    (hfiles : Discovery.loadAll d root = .ok files) {files' : List WorkflowFile}
    (h : List.Forall₂ WorkflowFile.Revised files files') :
    ∀ f ∈ files', ∃ names mode, d.Holds f.path names mode := by
  intro f' hf'
  obtain ⟨f, hf, hpath⟩ := List.mem_map.1
    (WorkflowFile.map_path_of_revised h ▸ List.mem_map_of_mem hf')
  rw [← hpath]
  exact Discovery.exists_holds_of_mem_discover hproper
    (Discovery.exists_content_of_loadAll hfiles hf).1

/-- All that a run of a command can be. -/
inductive JobRun (s : Surroundings) (o : Options) (root : Bytes) (command : Command) (p : Progress) :
    Except Trouble Unit → Progress → Prop where
  | failed {t : Trouble} {q : Progress} (hsame : SameDisk p q) :
      JobRun s o root command p (.error t) q
  | idle {files : List WorkflowFile} {q : Progress}
      (hfiles : Discovery.loadAll p.disk root = .ok files)
      (hcount : WorkflowFile.usageCount files = 0) (hsame : SameDisk p q) :
      JobRun s o root command p (.ok ()) q
  | done {project : Project} {client : Client} {files' : List WorkflowFile} {named : List Bytes}
      {q : Progress} (hready : IsReady s o root p.disk project client)
      (hedits : command.Edits ⟨client.catalog s.network, s.patience⟩ project.settings project.files
        files' named)
      (hsaves : Saves files' p q) (htold : o.CanTell named) : JobRun s o root command p (.ok ()) q
  | refused {project : Project} {client : Client} {files' : List WorkflowFile} {named : List Bytes}
      {q : Progress} (hready : IsReady s o root p.disk project client)
      (hedits : command.Edits ⟨client.catalog s.network, s.patience⟩ project.settings project.files
        files' named)
      (hsaves : Saves files' p q) (huntold : ¬o.CanTell named) :
      JobRun s o root command p (.error .unprintable) q

variable {command : Command}

theorem jobRun_of_projectRun {work : Project → Client → Source → Job Unit}
    (hwork : ∀ {project client p' r q}, IsReady s o root p.disk project client → OnlyPrints p p' →
      (work project client ⟨client.catalog s.network, s.patience⟩).runFrom p' = some (r, q) →
        JobRun s o root command p r q)
    (h : ProjectRun s o root work p r q) : JobRun s o root command p r q := by
  cases h with
  | failed hprints => exact .failed hprints.sameDisk
  | idle hfiles hcount hprints => exact .idle hfiles hcount hprints.sameDisk
  | working hready hprints hrun => exact hwork hready hprints hrun

/-- A command that saves the files as its operation left them is done, or its report is refused. -/
theorem jobRun_of_saveAll (hproper : p.disk.tree.isProper = true) {project : Project}
    {client : Client} {files' : List WorkflowFile} {named : List Bytes} {p' : Progress}
    {print : Job Unit} (hready : IsReady s o root p.disk project client)
    (hedits : command.Edits ⟨client.catalog s.network, s.patience⟩ project.settings project.files
      files' named) (hsame : SameDisk p p') (hprint : PrintsUnless (¬o.CanTell named) print)
    (h : (do saveAll root files'; print).runFrom p' = some (r, q)) :
    JobRun s o root command p r q := by
  have hrevised := revised_of_command (justRead_of_loadAll hready.files) hedits
  have hholds := holds_of_revised hproper hready.files hrevised
  rw [← hsame.disk] at hholds
  obtain ⟨hsaves, hr⟩ := saves_of_runFrom_saveAll_bind hprint hholds h
  have hsaves : Saves files' p q := ⟨hsame.disk ▸ hsaves.disk, hsame.saved ▸ hsaves.saved⟩
  rcases hr with ⟨rfl, htold⟩ | ⟨rfl, huntold⟩
  · exact .done hready hedits hsaves (not_not.1 htold)
  · exact .refused hready hedits hsaves huntold

/-- What a command that only checks does with its project. -/
theorem checks_of_run {project : Project} {client : Client} {source : Source}
    (h : (do
      let issues ← consult client (Pinning.verify source project.settings project.files)
      sayReport o (Report.ofIssues issues) (Report.issueLines root issues)
      if issues.isEmpty then return () else fail (.unverified issues.length)).runFrom p =
        some (r, q)) : SameDisk p q := by
  obtain ⟨issues, p1, -, hsame, hrest⟩ := exists_of_runFrom_consult_bind h
  refine hsame.trans (OnlyPrints.sameDisk (speaks_bind (speaks_sayReport o _ _)
    (fun _ => ?_) p1 r q hrest))
  split
  · exact speaks_pure ()
  · exact speaks_fail _

theorem jobRun_verify (h : (verify s o root).runFrom p = some (r, q)) :
    JobRun s o root .verify p r q := by
  refine jobRun_of_projectRun (@fun _ _ _ r _ hready hprints hrun => ?_) (projectRun_of_run rfl h)
  have hsame := hprints.sameDisk.trans (checks_of_run hrun)
  cases r with
  | error t => exact .failed hsame
  | ok =>
    exact .done hready .verify (saves_of_clean (justRead_of_loadAll hready.files).clean hsame)
      fun _ => List.forall_mem_nil _

/-- **A command that only checks saves nothing.** -/
theorem sameDisk_of_verify (h : (verify s o root).runFrom p = some (r, q)) : SameDisk p q := by
  cases projectRun_of_run rfl h with
  | failed hprints => exact hprints.sameDisk
  | idle _ _ hprints => exact hprints.sameDisk
  | working _ hprints hwork => exact hprints.sameDisk.trans (checks_of_run hwork)

/-- A report is printed in one of two ways, and refused if it is to be JSON and cannot be told. -/
theorem printsUnless_report {json : Option Json} {named : List Bytes}
    (htold : json.isSome = true ↔ Path.AreTexts named) {lines : Job Unit} (hlines : Prints lines) :
    PrintsUnless (¬o.CanTell named) (if o.json then sayJson json else lines) := by
  rw [Options.CanTell, ← htold]
  split
  · rename_i hjson
    rw [forall_prop_of_true hjson]
    exact printsUnless_sayJson json
  · rename_i hplain
    exact hlines.unless (not_not_intro fun hjson => absurd hjson hplain)

theorem jobRun_fix (hproper : p.disk.tree.isProper = true) (hfresh : p.session = .empty)
    (h : (fix s o root).runFrom p = some (r, q)) : JobRun s o root .fix p r q := by
  refine jobRun_of_projectRun (fun hready hprints hrun => ?_) (projectRun_of_run rfl h)
  obtain ⟨⟨report, files'⟩, p1, hfix, hsame, hrest⟩ := exists_of_runFrom_consult_bind hrun
  rw [hprints.session, hfresh] at hfix
  exact jobRun_of_saveAll hproper hready (.fix hfix) (hprints.sameDisk.trans hsame)
    (printsUnless_report (Report.isSome_ofFix report)
      (prints_bind (prints_remarkLines _) (prints_say _))) hrest

/-- An operation that can fail, and what is printed after it. -/
theorem jobRun_of_operation (hproper : p.disk.tree.isProper = true) (hfresh : p.session = .empty)
    {ρ : Type} {operation : Source → Settings → List WorkflowFile →
      Sure (Except Failure ρ × List WorkflowFile)} {print : ρ → Job Unit} {named : ρ → List Bytes}
    (hprint : ∀ report, PrintsUnless (¬o.CanTell (named report)) (print report))
    (hedits : ∀ {source settings files report files' t},
      (operation source settings files).run .empty = some ((.ok report, files'), t) →
        command.Edits source settings files files' (named report))
    {empty : Option Json} (hempty : empty.isSome = true)
    (h : (withProject s o root empty fun project client source => do
      let (report, files) ← consult client (operation source project.settings project.files)
      let report ← orTrouble .operation report
      saveAll root files
      print report).runFrom p = some (r, q)) : JobRun s o root command p r q := by
  refine jobRun_of_projectRun (fun hready hprints hrun => ?_) (projectRun_of_run hempty h)
  obtain ⟨⟨result, files'⟩, p1, hoperation, hsame, hrest⟩ := exists_of_runFrom_consult_bind hrun
  rw [hprints.session, hfresh] at hoperation
  have hsame := hprints.sameDisk.trans hsame
  rcases runFrom_bind_cases hrest with ⟨t, h1, rfl⟩ | ⟨report, p2, h1, h2⟩
  · exact .failed (eq_of_runFrom_orTrouble h1 ▸ hsame)
  · obtain ⟨rfl, rfl⟩ := eq_of_runFrom_orTrouble_ok h1
    exact jobRun_of_saveAll hproper hready (hedits hoperation) hsame (hprint report) h2

/-- An argument that names no repository is a trouble; else the work for the repository begins. -/
theorem jobRun_of_argument {argument : Text} {work : Target → Job Unit}
    (hwork : ∀ {target}, Target.ofArgument argument = .ok target →
      (work target).runFrom p = some (r, q) → JobRun s o root command p r q)
    (h : (do work (← orTrouble .operation (Target.ofArgument argument))).runFrom p =
      some (r, q)) : JobRun s o root command p r q := by
  rcases runFrom_bind_cases h with ⟨t, h1, rfl⟩ | ⟨target, p1, h1, h2⟩
  · exact .failed (speaks_orTrouble _ _ p _ q h1).sameDisk
  · obtain ⟨htarget, rfl⟩ := eq_of_runFrom_orTrouble_ok h1
    exact hwork htarget h2

/-- **What a command does with the disk**: nothing in a trouble before its report, else it saves the
files as its operation left them. -/
theorem jobRun_of_run (hproper : p.disk.tree.isProper = true) (hfresh : p.session = .empty)
    (h : (job s o root command).runFrom p = some (r, q)) : JobRun s o root command p r q := by
  -- what an upgrade reports names no path, so it can always be told
  have hupgraded : ∀ report, PrintsUnless (¬o.CanTell []) (sayReport o
      (some (Report.ofUpgrade report)) (Report.upgradeLines report)) := fun _ =>
    printsUnless_report (iff_of_true rfl (List.forall_mem_nil _)) (prints_sayLines _)
  have hupdated : ∀ report : UpdateReport,
      PrintsUnless (¬o.CanTell (report.warnings.map Warning.path))
        (if o.json then sayJson (Report.ofUpdate report) else do
          remarkLines (Report.warningLines root report.warnings)
          sayLines (Report.updateLines report)) := fun report =>
    printsUnless_report (Report.isSome_ofUpdate report)
      (prints_bind (prints_remarkLines _) (prints_sayLines _))
  cases command with
  | verify => exact jobRun_verify h
  | fix => exact jobRun_fix hproper hfresh h
  | upgradeAll => exact jobRun_of_operation hproper hfresh hupgraded .upgradeAll rfl h
  | upgrade argument version =>
    exact jobRun_of_argument (fun htarget hwork =>
      jobRun_of_operation hproper hfresh hupgraded (.upgrade htarget) rfl hwork) h
  | updateAll => exact jobRun_of_operation hproper hfresh hupdated .updateAll rfl h
  | update argument =>
    exact jobRun_of_argument (fun htarget hwork =>
      jobRun_of_operation hproper hfresh hupdated (.update htarget) rfl hwork) h

end Program

end PinnedActions
