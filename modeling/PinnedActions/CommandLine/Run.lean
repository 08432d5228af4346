import PinnedActions.CommandLine.Arguments
import PinnedActions.CommandLine.Job
import PinnedActions.CommandLine.Report
import PinnedActions.Disk.Root
import PinnedActions.Settings.Document

/-!
# Running a command

`Program.run` is the whole program: from its surroundings and its arguments it computes the outcome.
The surroundings are the disk, the environment, the network, and a helper that may know a token; the
outcome is the exit code, what was printed, and the disk afterwards.

Every command does the same: it loads the settings and the files of the project, says what is wrong
with the settings, and stops if there is no usage at all.  Then it runs its operation, saves the files
that have a changed line, and reports.  An operation that fails is not followed by saving; but a report
that cannot be made comes after it.

A walk through the catalog of a network has no end that is known beforehand, so the run has a
patience; a run that needs more has no outcome.
-/

set_option autoImplicit false

namespace PinnedActions

/-- A helper that was asked for a token: how it exited, and what it printed. -/
structure Helper where
  exitCode : Nat
  printed : List UInt8
deriving DecidableEq, Repr

/-- All that a run depends on besides its arguments. -/
structure Surroundings where
  disk : Disk
  environment : Environment
  helper : Option Helper
  network : Network
  patience : Nat

/-- How a run ended. -/
structure Outcome where
  exitCode : Nat
  output : Text
  remarks : Text
  trouble : Option Trouble
  /-- The requests that were made, in their order. -/
  asked : List Request
  /-- The paths of the files that were saved, in their order. -/
  saved : List Bytes
  disk : Disk

namespace Program

/-! ## The token -/

/-- What a helper says about the token. -/
def helperToken? (h : Helper) : Option Text :=
  if h.exitCode = 0 then some (Utf8.decodeLossy h.printed) else none

/-- The value of a variable, when it is a text. -/
def textOf? (s : Surroundings) (name : Text) : Option Text :=
  (s.environment.lookup name).bind Utf8.decode?

/-- The token: the first of those given that is not blank. -/
def token? (s : Surroundings) (o : Options) : Option Text :=
  [o.token, textOf? s "GH_TOKEN".toList, textOf? s "GITHUB_TOKEN".toList,
    s.helper.bind helperToken?].findSome? fun candidate => candidate.bind Client.usableToken

/-! ## Loading and saving -/

/-- What a command works on. -/
structure Project where
  root : Bytes
  settings : Settings
  files : List WorkflowFile

/-- Says what is wrong with the settings, up to the first error. -/
def sayAdvice : List Advice → Job Unit
  | [] => return ()
  | a :: rest =>
    match a.severity with
    | .error => Job.fail (.advice a.message)
    | .warning => do
      Job.remark ("warning: ".toList ++ a.message)
      sayAdvice rest

/-- The settings of the project at a root, with a base address that takes the place of theirs. -/
def loadSettings (root : Bytes) (apiUrl : Option Text) : Job Settings := do
  let p ← Job.progress
  let settings ← Job.orTrouble .settings (Settings.load p.disk root)
  let settings := { settings with apiUrl := apiUrl.getD settings.apiUrl }
  sayAdvice settings.advice
  return settings

/-- The project at a root, if it has a usage. -/
def loadProject (root : Bytes) (o : Options) : Job (Option Project) := do
  let settings ← loadSettings root o.apiUrl
  let p ← Job.progress
  let files ← Job.orTrouble .loading (Discovery.loadAll p.disk root)
  return if WorkflowFile.usageCount files = 0 then none else some ⟨root, settings, files⟩

/-- The client for a project. -/
def connect (s : Surroundings) (o : Options) (p : Project) : Job Client :=
  Job.orTrouble .client (Client.create? p.settings.apiUrl (token? s o))

/-- Saves files one after the other. -/
def saveAll (root : Bytes) : List WorkflowFile → Job Unit
  | [] => return ()
  | f :: rest => do
    Job.write (Path.relativeTo root f.path) f
    saveAll root rest

/-! ## Printing -/

/-- Prints lines among the results. -/
def sayLines : List Text → Job Unit
  | [] => return ()
  | line :: rest => do
    Job.say line
    sayLines rest

/-- Prints lines among the remarks. -/
def remarkLines : List Text → Job Unit
  | [] => return ()
  | line :: rest => do
    Job.remark line
    remarkLines rest

/-- Prints a JSON value among the results, if there is one. -/
def sayJson : Option Json → Job Unit
  | some json => Job.say json.pretty
  | none => Job.fail .unprintable

/-- Prints a report in one of the two ways. -/
def sayReport (o : Options) (json : Option Json) (lines : List Text) : Job Unit :=
  if o.json then sayJson json else sayLines lines

/-! ## Commands -/

/-- Works on the project at a root, or says that there is nothing to work on. -/
def withProject (s : Surroundings) (o : Options) (root : Bytes) (empty : Option Json)
    (work : Project → Client → Source → Job Unit) : Job Unit := do
  match ← loadProject root o with
  | none => sayReport o empty [Report.nothingFound]
  | some p =>
    let client ← connect s o p
    work p client ⟨client.catalog s.network, s.patience⟩

/-- Checks every usage. -/
def verify (s : Surroundings) (o : Options) (root : Bytes) : Job Unit :=
  withProject s o root (Report.ofIssues []) fun p client source => do
    let issues ← Job.consult client (Pinning.verify source p.settings p.files)
    sayReport o (Report.ofIssues issues) (Report.issueLines root issues)
    if issues.isEmpty then return () else Job.fail (.unverified issues.length)

/-- Pins every usage. -/
def fix (s : Surroundings) (o : Options) (root : Bytes) : Job Unit :=
  withProject s o root (Report.ofFix ⟨0, 0, []⟩) fun p client source => do
    let (report, files) ← Job.consult client (Pinning.fix source p.settings p.files)
    saveAll root files
    if o.json then sayJson (Report.ofFix report)
    else do
      remarkLines (Report.warningLines root report.warnings)
      Job.say (Report.summary report.updated report.filesChanged)

/-- Moves the usages that a target includes to another version. -/
def upgrade (s : Surroundings) (o : Options) (root : Bytes) (target : Target)
    (version : Option Text) : Job Unit :=
  withProject s o root (some (Report.ofUpgrade ⟨[], 0, 0⟩)) fun p client source => do
    let (report, files) ←
      Job.consult client (Pinning.upgrade source p.settings target version p.files)
    let report ← Job.orTrouble .operation report
    saveAll root files
    sayReport o (some (Report.ofUpgrade report)) (Report.upgradeLines report)

/-- Moves the usages that a target includes within their versions. -/
def update (s : Surroundings) (o : Options) (root : Bytes) (target : Target) : Job Unit :=
  withProject s o root (Report.ofUpdate ⟨[], 0, 0, []⟩) fun p client source => do
    let (report, files) ← Job.consult client (Pinning.update source p.settings target p.files)
    let report ← Job.orTrouble .operation report
    saveAll root files
    if o.json then sayJson (Report.ofUpdate report)
    else do
      remarkLines (Report.warningLines root report.warnings)
      sayLines (Report.updateLines report)

/-- What a command does for the project at a root. -/
def job (s : Surroundings) (o : Options) (root : Bytes) : Command → Job Unit
  | .verify => verify s o root
  | .fix => fix s o root
  | .upgradeAll => upgrade s o root .everything none
  | .upgrade argument version => do
    upgrade s o root (← Job.orTrouble .operation (Target.ofArgument argument)) version
  | .updateAll => update s o root .everything
  | .update argument => do
    update s o root (← Job.orTrouble .operation (Target.ofArgument argument))

/-! ## The whole run -/

/-- The outcome of a run that only prints something. -/
def printing (s : Surroundings) (exitCode : Nat) (output remarks : Text) : Outcome :=
  { exitCode, output, remarks, trouble := none, asked := [], saved := [], disk := s.disk }

/-- The version of the program. -/
def versionLine : Text := "actpin 0.1.0\n".toList

/-- How the program is used. -/
def usageLines : Text :=
  ("Usage: actpin [--root DIR] [--json] [--api-url URL] [--token TOKEN] [--verbose] COMMAND\n\n" ++
    "Commands:\n" ++
    "  verify                               check every pin\n" ++
    "  fix                                  pin every usage\n" ++
    "  upgrade OWNER/REPO [--version TAG]   move a repository to another version\n" ++
    "  upgrade --all                        move every repository to its latest version\n" ++
    "  update OWNER/REPO                    move a repository within its versions\n" ++
    "  update --all                         move every repository within its versions\n").toList

/-- What was done when a job begins. -/
def beginning (s : Surroundings) : Progress := ⟨s.disk, .empty, [], [], [], []⟩

/-- The outcome of a job. -/
def outcomeOf : Except Trouble Unit × Progress → Outcome
  | (.ok (), p) =>
    { exitCode := 0, output := p.output, remarks := p.remarks, trouble := none, asked := p.asked
      saved := p.saved, disk := p.disk }
  | (.error t, p) =>
    { exitCode := 1, output := p.output
      remarks := p.remarks ++ "error: ".toList ++ t.message ++ ['\n']
      trouble := some t, asked := p.asked, saved := p.saved, disk := p.disk }

/-- What becomes of a command line. -/
def run (s : Surroundings) (arguments : List Bytes) : Option Outcome :=
  match Invocation.parse s.environment arguments with
  | .help => some (printing s 0 usageLines [])
  | .version => some (printing s 0 versionLine [])
  | .misuse => some (printing s 2 [] usageLines)
  | .run options command =>
    let root := options.root.getD s.disk.projectRoot
    ((job s options root command).run.run (beginning s)).map outcomeOf

end Program

end PinnedActions
