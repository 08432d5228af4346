import PinnedActions.Disk.Write
import PinnedActions.Workflow.File

/-!
# Finding the files of a project

Workflows and composite actions live in two directories of a project.  Every regular file with the
ending of YAML in the first, and every action manifest in the second, is a workflow file, however deep
it lies.  The directories themselves may be links; a link below them leads nowhere.

* `Discovery.discover` — the paths of all workflow files, in the order of paths.
* `Discovery.loadAll` — the files themselves.  One that is not text is passed over.
* `Discovery.save` — writes a file back when it has a changed line.
-/

set_option autoImplicit false

namespace PinnedActions

namespace Discovery

/-! ## Where things are -/

/-- The directory that holds everything of a project that matters here. -/
def settingsDirectory : Bytes := Utf8.bytes ".github"

/-- The path of the settings of a project. -/
def settingsPath (root : Bytes) : Bytes := Path.join root (Utf8.bytes ".github/actpin.yaml")

/-- The directory of the workflows of a project. -/
def workflowsPath (root : Bytes) : Bytes := Path.join root (Utf8.bytes ".github/workflows")

/-- The directory of the composite actions of a project. -/
def actionsPath (root : Bytes) : Bytes := Path.join root (Utf8.bytes ".github/actions")

/-! ## Which files count -/

/-- Whether a path has the ending of a workflow. -/
def isWorkflowFile (path : Bytes) : Bool :=
  let ending := Path.extension? path
  ending = some (Utf8.bytes "yml") || ending = some (Utf8.bytes "yaml")

/-- Whether a path has the name of an action manifest. -/
def isActionManifest (path : Bytes) : Bool :=
  let name := Path.fileName? path
  name = some (Utf8.bytes "action.yml") || name = some (Utf8.bytes "action.yaml")

/-! ## Going through directories -/

mutual

/-- The paths of all regular files at or below a node.  Links are not followed. -/
def filesBelow (path : Bytes) : Node → List Bytes
  | .file .. => [path]
  | .link _ => []
  | .dir entries => filesIn path entries
  | .other .. => []

/-- The paths of all regular files at or below the entries of a directory. -/
def filesIn (path : Bytes) : List (Bytes × Node) → List Bytes
  | [] => []
  | (name, node) :: rest => filesBelow (Path.join path name) node ++ filesIn path rest

end

/-- The paths of the files below a directory that are to be kept. -/
def scan (d : Disk) (path : Bytes) (keep : Bytes → Bool) : List Bytes :=
  match d.node? path with
  | some (.dir entries) => (filesIn path entries).filter keep
  | _ => []

/-- The paths of all workflow files of a project, in the order of paths. -/
def discover (d : Disk) (root : Bytes) : List Bytes :=
  (scan d (workflowsPath root) isWorkflowFile ++ scan d (actionsPath root) isActionManifest).mergeSort
    fun a b => !Path.before b a

/-! ## Loading and saving -/

/-- The workflow files at some paths.  A file that is not text is passed over. -/
def loadPaths (d : Disk) : List Bytes → Except DiskFault (List WorkflowFile)
  | [] => .ok []
  | path :: rest =>
    match d.readText path with
    | .ok content => (loadPaths d rest).map (WorkflowFile.parse path content :: ·)
    | .error .notText => loadPaths d rest
    | .error e => .error e

/-- All workflow files of a project. -/
def loadAll (d : Disk) (root : Bytes) : Except DiskFault (List WorkflowFile) :=
  loadPaths d (discover d root)

/-- Writes a file back when it has a changed line, and says whether it was written. -/
def save (d : Disk) (f : WorkflowFile) : Except DiskFault (Disk × Bool) :=
  if f.isDirty then (d.write f.path (Utf8.encode f.content)).map (·, true) else .ok (d, false)

end Discovery

end PinnedActions
