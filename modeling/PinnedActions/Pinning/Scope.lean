import PinnedActions.Failure
import PinnedActions.Settings.Basic
import PinnedActions.Version.Comment
import PinnedActions.Workflow.File

/-!
# What an operation is about

An operation goes through the usages of all files in order.  An `Occurrence` is a usage together with
the place where it stands, so that it can be changed later.  Two things take an occurrence out of
scope: the settings may say that its action is to be left alone, and the operation may be aimed at
another repository.

* `Target` — everything, or one repository.
* `occurrences` — all usages of the files, in order.
* `inScope` — those that an operation is about.
-/

set_option autoImplicit false

namespace PinnedActions

/-- What an operation is aimed at. -/
inductive Target where
  | everything
  /-- The repository with a key: `owner/repo` in lowercase. -/
  | repository (key : Text)
deriving DecidableEq, Repr

namespace Target

/-- The target that an argument names: two nonempty parts with a slash between them. -/
def ofArgument (argument : Text) : Except Failure Target :=
  let key := Text.lowercase (Text.trim argument)
  match key.splitOn '/' with
  | [owner, repo] =>
    if owner.isEmpty || repo.isEmpty then .error (.invalidRepository argument)
    else .ok (.repository key)
  | _ => .error (.invalidRepository argument)

/-- Whether a repository is aimed at. -/
def includes (t : Target) (repoKey : Text) : Bool :=
  match t with
  | everything => true
  | repository key => key == repoKey

end Target

/-- A usage and its place: the position of the file and, in the file, that of the usage. -/
structure Occurrence where
  file : Nat
  index : Nat
  path : Bytes
  usage : Usage
deriving DecidableEq, Repr

namespace Pinning

/-- The usages of a file from a position on, with the place of each. -/
def occurrencesIn (file : Nat) (path : Bytes) : Nat → List Usage → List Occurrence
  | _, [] => []
  | i, u :: rest => ⟨file, i, path, u⟩ :: occurrencesIn file path (i + 1) rest

/-- The usages of files, the first of which has the given position. -/
def occurrencesFrom : Nat → List WorkflowFile → List Occurrence
  | _, [] => []
  | i, f :: rest => occurrencesIn i f.path 0 f.usages ++ occurrencesFrom (i + 1) rest

/-- All usages of the files, in order. -/
def occurrences (files : List WorkflowFile) : List Occurrence := occurrencesFrom 0 files

/-- Whether an operation with these settings and this target is about an action. -/
def isInScope (settings : Settings) (target : Target) (a : Action) : Bool :=
  target.includes a.repoKey && !settings.ignores a

/-- The usages that an operation is about, in order. -/
def inScope (settings : Settings) (target : Target) (files : List WorkflowFile) :
    List Occurrence :=
  (occurrences files).filter fun o => isInScope settings target o.usage.action

end Pinning

end PinnedActions
