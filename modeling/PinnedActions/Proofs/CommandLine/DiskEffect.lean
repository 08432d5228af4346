import PinnedActions.Proofs.CommandLine.Operate
import PinnedActions.Proofs.Text.Utf8

/-!
# The effect of a run on the disk

A run that only checks leaves the disk as it was.  Any other command either fails and leaves the disk
as it was, or it rewrites those of the loaded files in which the line of some usage has another text,
and leaves all else as it was (`Rewrites`).  A rewritten file has the content that was read, with those
lines replaced, line feeds for breaks, and one at its end.

Nothing needs to be assumed about writing: files are saved where they were found, and there writing
meets no trouble.  But a run that has rewritten files can still fail.  Its report comes last, and it is
refused if it is to be JSON and names a path that is no text (`Effect.exit`); `fix_fails_after_saving`
is such a run.  Where all discovered paths are texts, or the report is no JSON, a run that fails leaves
the disk as it was.

`disk_effect` says this of every run in a tree with proper names.  What is printed is taken to be read:
a run whose output is closed is not considered.
-/

set_option autoImplicit false

namespace PinnedActions

namespace Program

open Job Progress WorkflowFile

variable {s : Surroundings} {o : Options} {root : Bytes} {p q : Progress} {d d' : Disk}
  {files files' : List WorkflowFile} {f f' : WorkflowFile}

/-! ## Files on the disk -/

/-- Whether the line of some usage of a file has another text in the other file. -/
def LineChanged (f f' : WorkflowFile) : Prop :=
  ∃ u ∈ f.usages, f'.lines.line? u.line ≠ f.lines.line? u.line

/-- What was a file on the disk before and is its revision now.  The text that was read has the lines
of usages replaced.  The bytes are not the same, unless some such line is not read back as it is,
because there is a line feed in it or a carriage return at its end. -/
structure IsRewritten (d d' : Disk) (f f' : WorkflowFile) (names : List Bytes) : Prop where
  place : d.place? f.path = some names
  bytes : ∃ before old mode, d.tree.get? names = some (.file before mode) ∧
    Utf8.decode? before = some old ∧ f = parse f.path old ∧
    d'.tree.get? names =
      some (.file (Utf8.encode (replaceLines (usageLine? f f') old)) mode) ∧
    ((∀ u ∈ f.usages, ∀ text, f'.lines.line? u.line = some text → Lines.IsWhole text) →
      Utf8.encode (replaceLines (usageLine? f f') old) ≠ before)

/-- What became of a disk on which files were revised.  Directories, links and permissions are as
before.  A file is as before unless the path of a file with a changed line leads to it; then it is
rewritten, by the last one if there are several. -/
structure Rewrites (d : Disk) (files files' : List WorkflowFile) (d' : Disk) : Prop where
  alike : Disk.Alike d d'
  kept : ∀ names content mode, d.tree.get? names = some (.file content mode) →
    (∀ p ∈ files.zip files', LineChanged p.1 p.2 → d.place? p.1.path ≠ some names) →
      d'.tree.get? names = some (.file content mode)
  rewritten : ∀ before f f' after, files.zip files' = before ++ (f, f') :: after →
    LineChanged f f' →
    (∀ p ∈ after, LineChanged p.1 p.2 → d.place? p.1.path ≠ d.place? f.path) →
      ∃ names, IsRewritten d d' f f' names

theorem revised_of_mem_zip (h : List.Forall₂ Revised files files') {p : WorkflowFile × WorkflowFile}
    (hp : p ∈ files.zip files') : Revised p.1 p.2 :=
  (List.forall₂_iff_zip.1 h).2 hp

theorem map_snd_zip_of_revised (h : List.Forall₂ Revised files files') :
    (files.zip files').map Prod.snd = files' :=
  List.map_snd_zip h.length_eq.ge

/-- **Saving revised files rewrites those with a changed line.** -/
theorem rewrites_of_saved (hloaded : Discovery.loadAll d root = .ok files)
    (hrevised : List.Forall₂ Revised files files') (h : Discovery.Saved d files' d') :
    Rewrites d files files' d' where
  alike := h.alike
  kept names content mode hfile hnone := by
    refine h.kept names content mode hfile fun f' hf' hdirty => ?_
    rw [← map_snd_zip_of_revised hrevised] at hf'
    obtain ⟨p, hp, rfl⟩ := List.mem_map.1 hf'
    have hp' := revised_of_mem_zip hrevised hp
    rw [hp'.path]
    exact hnone p hp (hp'.dirty.1 hdirty)
  rewritten before f f' after heq hchanged hlast := by
    have hpair := revised_of_mem_zip hrevised (heq ▸ List.mem_append_right before List.mem_cons_self)
    have hafter : ∀ p ∈ after, Revised p.1 p.2 := fun p hp =>
      revised_of_mem_zip hrevised
        (heq ▸ List.mem_append_right before (List.mem_cons_of_mem (f, f') hp))
    obtain ⟨names, content, mode, hplace, hfile, hnew⟩ :=
      h.rewritten (before.map Prod.snd) f' (after.map Prod.snd)
        (by rw [← map_snd_zip_of_revised hrevised, heq, List.map_append, List.map_cons])
        (hpair.dirty.2 hchanged) fun g hg hdirty => by
          obtain ⟨p, hp, rfl⟩ := List.mem_map.1 hg
          rw [(hafter p hp).path, hpair.path]
          exact hlast p hp ((hafter p hp).dirty.1 hdirty)
    rw [hpair.path] at hplace
    have hmem : f ∈ files :=
      (List.of_mem_zip (heq ▸ List.mem_append_right before List.mem_cons_self)).1
    obtain ⟨-, old, hread, hparse⟩ := Discovery.exists_content_of_loadAll hloaded hmem
    have hdecode := Disk.decode?_of_readText hplace hfile hread
    have hrevised' : Revised (parse f.path old) f' := hparse ▸ hpair
    have hcontent : f'.content = replaceLines (usageLine? f f') old := by
      rw [hrevised'.content_eq, ← hparse]
    refine ⟨names, hplace, content, old, mode, hfile, hdecode, hparse, hcontent ▸ hnew, ?_⟩
    intro hwhole hsame
    rw [← hcontent] at hsame
    have hback := congrArg Utf8.decode? hsame
    rw [Utf8.decode?_encode, hdecode, Option.some_inj] at hback
    exact hrevised'.content_ne (hpair.dirty.2 hchanged) (hparse ▸ hwhole) hback

/-! ## Whole runs -/

/-- The root of the project that a run works on. -/
def rootOf (s : Surroundings) (o : Options) : Bytes := o.root.getD s.disk.projectRoot

/-- The files that a command loads, what it makes of them when its operation ends well, and the paths
that its report names. -/
inductive WorksOn (s : Surroundings) (o : Options) (command : Command) :
    List WorkflowFile → List WorkflowFile → List Bytes → Prop where
  | idle {files : List WorkflowFile}
      (hfiles : Discovery.loadAll s.disk (rootOf s o) = .ok files)
      (hcount : WorkflowFile.usageCount files = 0) : WorksOn s o command files files []
  | edited {project : Project} {client : Client} {files' : List WorkflowFile} {named : List Bytes}
      (hready : IsReady s o (rootOf s o) s.disk project client)
      (hedits : command.Edits ⟨client.catalog s.network, s.patience⟩ project.settings project.files
        files' named) : WorksOn s o command project.files files' named

section WorksOn

variable {command : Command} {named : List Bytes}

theorem WorksOn.loadAll_eq (h : WorksOn s o command files files' named) :
    Discovery.loadAll s.disk (rootOf s o) = .ok files := by
  cases h with
  | idle hfiles _ => exact hfiles
  | edited hready _ => exact hready.files

theorem WorksOn.revised (h : WorksOn s o command files files' named) :
    List.Forall₂ Revised files files' := by
  have hread := justRead_of_loadAll h.loadAll_eq
  cases h with
  | idle _ _ => exact Pinning.revised_of_edits hread [] List.nodup_nil
  | edited _ hedits => exact revised_of_command hread hedits

/-- The paths that a report names are discovered ones. -/
theorem WorksOn.mem_discover (h : WorksOn s o command files files' named) :
    ∀ path ∈ named, path ∈ Discovery.discover s.disk (rootOf s o) := by
  intro path hpath
  have hfile : path ∈ files.map WorkflowFile.path := by
    cases h with
    | idle _ _ => cases hpath
    | edited _ hedits => exact mem_paths_of_command hedits path hpath
  obtain ⟨f, hf, rfl⟩ := List.mem_map.1 hfile
  exact (Discovery.exists_content_of_loadAll h.loadAll_eq hf).1

end WorksOn

/-- What a command did with the disk when its operation ended well: it loaded the discovered files that
are text, made something of each, saved those with a changed line, and rewrote them by that.  Then it
reported, and failed just if it could not tell a path. -/
structure Effect (s : Surroundings) (o : Options) (command : Command)
    (files files' : List WorkflowFile) (named : List Bytes) (outcome : Outcome) : Prop where
  works : WorksOn s o command files files' named
  loaded : files =
    (Discovery.discover s.disk (rootOf s o)).filterMap (Discovery.file? s.disk)
  paths : files'.map WorkflowFile.path = files.map WorkflowFile.path
  saved : ∀ path, path ∈ outcome.saved ↔
    ∃ p ∈ files.zip files', LineChanged p.1 p.2 ∧ p.1.path = path
  disk : Rewrites s.disk files files' outcome.disk
  places : ∀ path ∈ named, path ∈ Discovery.discover s.disk (rootOf s o)
  exit : outcome.exitCode = 0 ↔ o.CanTell named

theorem mem_paths_iff (h : List.Forall₂ Revised files files') {path : Bytes} :
    path ∈ (files'.filter isDirty).map WorkflowFile.path ↔
      ∃ p ∈ files.zip files', LineChanged p.1 p.2 ∧ p.1.path = path := by
  rw [List.mem_map]
  constructor
  · rintro ⟨f', hf', rfl⟩
    obtain ⟨hf', hdirty⟩ := List.mem_filter.1 hf'
    rw [← map_snd_zip_of_revised h] at hf'
    obtain ⟨p, hp, rfl⟩ := List.mem_map.1 hf'
    have hrevised := revised_of_mem_zip h hp
    exact ⟨p, hp, hrevised.dirty.1 hdirty, hrevised.path.symm⟩
  · rintro ⟨p, hp, hchanged, rfl⟩
    have hrevised := revised_of_mem_zip h hp
    have hmem : p.2 ∈ files' := (List.of_mem_zip hp).2
    exact ⟨p.2, List.mem_filter.2 ⟨hmem, hrevised.dirty.2 hchanged⟩, hrevised.path⟩

theorem effect_of_saves {command : Command} {named : List Bytes} {outcome : Outcome}
    (hworks : WorksOn s o command files files' named) (hdisk : outcome.disk = q.disk)
    (hsaved : outcome.saved = q.saved) (hexit : outcome.exitCode = 0 ↔ o.CanTell named)
    (h : Saves files' (beginning s) q) : Effect s o command files files' named outcome where
  works := hworks
  loaded := Discovery.eq_of_loadAll hworks.loadAll_eq
  paths := map_path_of_revised hworks.revised
  saved path := by
    rw [hsaved, h.saved, ← mem_paths_iff hworks.revised]
    exact Iff.of_eq (congrArg _ (List.nil_append _))
  disk := hdisk ▸ rewrites_of_saved hworks.loadAll_eq hworks.revised h.disk
  places := hworks.mem_discover
  exit := hexit

/-- The effect of a command on the disk. -/
theorem effect_of_job {command : Command} {r : Except Trouble Unit}
    (hproper : s.disk.tree.isProper = true)
    (h : (job s o (rootOf s o) command).runFrom (beginning s) = some (r, q)) :
    (outcomeOf (r, q)).exitCode ≠ 0 ∧ q.disk = s.disk ∨
      ∃ files files' named, Effect s o command files files' named (outcomeOf (r, q)) := by
  cases jobRun_of_run hproper rfl h with
  | failed hsame => exact .inl ⟨Nat.one_ne_zero, hsame.disk⟩
  | idle hfiles hcount hsame =>
    have hclean := (justRead_of_loadAll hfiles).clean
    exact .inr ⟨_, _, _, effect_of_saves (.idle hfiles hcount) rfl rfl
      (iff_of_true rfl fun _ => List.forall_mem_nil _) (saves_of_clean hclean hsame)⟩
  | done hready hedits hsaves htold =>
    exact .inr ⟨_, _, _, effect_of_saves (.edited hready hedits) rfl rfl (iff_of_true rfl htold)
      hsaves⟩
  | refused hready hedits hsaves huntold =>
    exact .inr ⟨_, _, _, effect_of_saves (.edited hready hedits) rfl rfl
      (iff_of_false Nat.one_ne_zero huntold) hsaves⟩

theorem disk_of_no_command {arguments : List Bytes} {outcome : Outcome}
    (hnone : ∀ o command, Invocation.parse s.environment arguments ≠ .run o command)
    (hrun : run s arguments = some outcome) : outcome.disk = s.disk := by
  rw [run] at hrun
  cases hparse : Invocation.parse s.environment arguments with
  | run o command => exact absurd hparse (hnone o command)
  | help | version | misuse =>
    rw [hparse] at hrun
    cases hrun
    rfl

theorem exists_job_of_command {arguments : List Bytes} {outcome : Outcome} {command : Command}
    (hparse : Invocation.parse s.environment arguments = .run o command)
    (hrun : run s arguments = some outcome) :
    ∃ r q, (job s o (rootOf s o) command).runFrom (beginning s) = some (r, q) ∧
      outcome = outcomeOf (r, q) ∧ outcome.disk = q.disk := by
  rw [run, hparse] at hrun
  obtain ⟨⟨r, q⟩, hjob, rfl⟩ := Option.map_eq_some_iff.1 hrun
  exact ⟨r, q, hjob, rfl, by cases r <;> rfl⟩

/-- **The effect of a run on the disk.**  A run that only checks leaves the disk as it was, and so does
one without a command.  A command either fails and leaves the disk as it was, or it rewrites the files
in which the line of some usage has another text, and leaves all else as it was; then it exits with
zero unless it is to tell a path in JSON that is no text.  So if all discovered paths are texts, or
nobody asks for JSON, a run that exits with anything but zero leaves the disk as it was. -/
theorem disk_effect {arguments : List Bytes} {outcome : Outcome}
    (hproper : s.disk.tree.isProper = true) (hrun : run s arguments = some outcome) :
    ((∀ o command, Invocation.parse s.environment arguments = .run o command →
        command = .verify) → outcome.disk = s.disk) ∧
      ∀ o command, Invocation.parse s.environment arguments = .run o command →
        (outcome.exitCode ≠ 0 ∧ outcome.disk = s.disk ∨
          ∃ files files' named, Effect s o command files files' named outcome) ∧
        (o.CanTell (Discovery.discover s.disk (rootOf s o)) →
          (outcome.exitCode ≠ 0 → outcome.disk = s.disk) ∧
            (outcome.exitCode = 0 →
              ∃ files files' named, Effect s o command files files' named outcome)) := by
  by_cases hcommand : ∃ o command, Invocation.parse s.environment arguments = .run o command
  · obtain ⟨o, command, hparse⟩ := hcommand
    obtain ⟨r, q, hjob, rfl, hdisk⟩ := exists_job_of_command hparse hrun
    refine ⟨fun h => ?_, fun o' command' hparse' => ?_⟩
    · obtain rfl := h o command hparse
      exact hdisk.trans (sameDisk_of_verify hjob).disk
    · rw [hparse] at hparse'
      cases hparse'
      have heffect := effect_of_job hproper hjob
      rw [← hdisk] at heffect
      refine ⟨heffect, fun htexts => ?_⟩
      rcases heffect with ⟨hexit, hsame⟩ | ⟨files, files', named, heffect⟩
      · exact ⟨fun _ => hsame, fun hzero => absurd hzero hexit⟩
      · have hzero := heffect.exit.2 fun hjson path hpath =>
          htexts hjson path (heffect.places path hpath)
        exact ⟨fun hexit => absurd hzero hexit, fun _ => ⟨files, files', named, heffect⟩⟩
  · have hnone : ∀ o command, Invocation.parse s.environment arguments ≠ .run o command :=
      fun o command hparse => hcommand ⟨o, command, hparse⟩
    exact ⟨fun _ => disk_of_no_command hnone hrun,
      fun o command hparse => absurd hparse (hnone o command)⟩

/-- The path of a workflow. -/
def workflowPath : Bytes := Utf8.bytes "/p/.github/workflows/ci.yml"

/-- A project with a workflow that has one usage, and beside it a file that is not text.  The network
says to every request that there is a tag. -/
def oneWorkflow : Surroundings where
  disk.tree := .dir [(Utf8.bytes "p", .dir [(Utf8.bytes ".github", .dir [
    (Utf8.bytes "workflows", .dir [
      (Utf8.bytes "ci.yml", .file (Utf8.bytes "on: push\r\n- uses: a/b@v1.0.0\r\n") 0o644),
      (Utf8.bytes "notes.txt", .file [0xFF] 0o644)])])])]
  disk.current := [Utf8.bytes "p"]
  environment := []
  helper := none
  network _ := .response 200 (Utf8.encode (("\x7b\"object\":\x7b\"type\":\"commit\",\"sha\":\"" ++
    "aaaaaaaaaaaaaaaaaaaaaaaaaaaaaaaaaaaaaaaa\"\x7d\x7d").toList))
  patience := 10

/-- The options of a run without any. -/
def noOptions : Options := ⟨none, false, none, none⟩

theorem disk_effect_of_oneWorkflow :
    oneWorkflow.disk.tree.isProper = true ∧
      (∃ outcome, run oneWorkflow [Utf8.bytes "verify"] = some outcome ∧ outcome.exitCode = 1 ∧
        outcome.disk = oneWorkflow.disk) ∧
      ∃ outcome, run oneWorkflow [Utf8.bytes "fix"] = some outcome ∧ outcome.exitCode = 0 ∧
        outcome.saved = [workflowPath] ∧
        (outcome.disk.readText workflowPath).toOption = some ("on: push\n- uses: a/b@".toList ++
          "aaaaaaaaaaaaaaaaaaaaaaaaaaaaaaaaaaaaaaaa # v1.0.0\n".toList) ∧
        ∃ files files' named, Effect oneWorkflow noOptions .fix files files' named outcome := by
  have hproper : oneWorkflow.disk.tree.isProper = true := by decide +kernel
  have hverify : (run oneWorkflow [Utf8.bytes "verify"]).map Outcome.exitCode = some 1 := by
    decide +kernel
  have hfix : (run oneWorkflow [Utf8.bytes "fix"]).map (fun outcome => (outcome.exitCode,
      outcome.saved, (outcome.disk.readText workflowPath).toOption)) =
      some (0, [workflowPath], some ("on: push\n- uses: a/b@".toList ++
        "aaaaaaaaaaaaaaaaaaaaaaaaaaaaaaaaaaaaaaaa # v1.0.0\n".toList)) := by
    decide +kernel
  have hparse : Invocation.parse oneWorkflow.environment [Utf8.bytes "fix"] =
      .run noOptions .fix := by
    decide +kernel
  have hchecks : Invocation.parse oneWorkflow.environment [Utf8.bytes "verify"] =
      .run noOptions .verify := by
    decide +kernel
  refine ⟨hproper, ?_, ?_⟩
  · obtain ⟨outcome, hrun, hexit⟩ := Option.map_eq_some_iff.1 hverify
    refine ⟨outcome, hrun, hexit, (disk_effect hproper hrun).1 fun o command h => ?_⟩
    rw [hchecks] at h
    cases h
    rfl
  · obtain ⟨outcome, hrun, hsame⟩ := Option.map_eq_some_iff.1 hfix
    obtain ⟨hexit, hsaved, hread⟩ := Prod.ext_iff.1 hsame |>.imp_right Prod.ext_iff.1
    obtain ⟨-, htold⟩ := (disk_effect hproper hrun).2 _ _ hparse
    exact ⟨outcome, hrun, hexit, hsaved, hread, (htold nofun).2 hexit⟩

/-- The path of a workflow with a name that is no text. -/
def oddPath : Bytes := Utf8.bytes "/p/.github/workflows/" ++ 0xFF :: Utf8.bytes ".yml"

/-- A workflow before a fix. -/
def oddBefore : Text := ("- uses: a/b@v0 # aaaaaaaaaaaaaaaaaaaaaaaaaaaaaaaaaaaaaaaa\n" ++
  "- uses: a/b@v0 # v9\n").toList

/-- The workflow after the fix. -/
def oddAfter : Text := ("- uses: a/b@aaaaaaaaaaaaaaaaaaaaaaaaaaaaaaaaaaaaaaaa # " ++
  "aaaaaaaaaaaaaaaaaaaaaaaaaaaaaaaaaaaaaaaa\n- uses: a/b@v0 # v9\n").toList

/-- A project with a workflow of such a name.  One usage in it names a commit as its version, which
needs no network; another names a version that cannot be found, as the network says nothing. -/
def oddWorkflow : Surroundings where
  disk.tree := .dir [(Utf8.bytes "p", .dir [(Utf8.bytes ".github", .dir [
    (Utf8.bytes "workflows", .dir [
      (0xFF :: Utf8.bytes ".yml", .file (Utf8.encode oddBefore) 0o644)])])])]
  disk.current := [Utf8.bytes "p"]
  environment := []
  helper := none
  network _ := .silence
  patience := 10

/-- **A run can fail after it has rewritten a file.**  The report of this one is to tell a warning
about a path that is no text. -/
theorem fix_fails_after_saving :
    oddWorkflow.disk.tree.isProper = true ∧
      ∃ outcome, run oddWorkflow [Utf8.bytes "--json", Utf8.bytes "fix"] = some outcome ∧
        outcome.exitCode = 1 ∧
        outcome.remarks = "error: path contains invalid UTF-8 characters\n".toList ∧
        outcome.saved = [oddPath] ∧
        (outcome.disk.readText oddPath).toOption = some oddAfter ∧
        outcome.disk ≠ oddWorkflow.disk := by
  have hfix : (run oddWorkflow [Utf8.bytes "--json", Utf8.bytes "fix"]).map (fun outcome =>
      (outcome.exitCode, outcome.remarks, outcome.saved,
        (outcome.disk.readText oddPath).toOption)) =
      some (1, "error: path contains invalid UTF-8 characters\n".toList, [oddPath],
        some oddAfter) := by
    decide +kernel
  obtain ⟨outcome, hrun, hsame⟩ := Option.map_eq_some_iff.1 hfix
  obtain ⟨hexit, hremarks, hsaved, hread⟩ :=
    Prod.ext_iff.1 hsame |>.imp_right fun h => Prod.ext_iff.1 h |>.imp_right Prod.ext_iff.1
  refine ⟨by decide +kernel, outcome, hrun, hexit, hremarks, hsaved, hread, fun hdisk => ?_⟩
  have hbefore : (oddWorkflow.disk.readText oddPath).toOption = some oddBefore := by decide +kernel
  have hchanged : oddBefore ≠ oddAfter := by decide +kernel
  rw [hdisk, hbefore] at hread
  exact hchanged (Option.some.inj hread)

end Program

end PinnedActions
