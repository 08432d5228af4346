import PinnedActions.Disk.Basic

/-!
# Writing to a disk

A file is written in one step: its new content is put beside it and then takes its place, so a write
that fails leaves the old content.  Directories on the way that are missing are made first.  The new
file has the permissions of the old one, and those of a private file when there was none.  Whatever
was there is replaced by the file, a link as well; only a directory is not.
-/

set_option autoImplicit false

namespace PinnedActions

namespace Disk

/-- The permissions of a file that did not exist. -/
def privateMode : Nat := 0o600

/-- The disk with another node at a place. -/
def setNode (d : Disk) (names : List Bytes) (node : Node) : Disk :=
  { d with tree := Node.put node names d.tree }

/-- Makes one directory. -/
def makeDir (d : Disk) (parts : List Part) : Except DiskFault Disk := do
  match ← d.locateParts false parts with
  | (_, some _) => .error .exists
  | (names, none) => .ok (d.setNode names (.dir []))

/-- Whether a sequence of parts leads to a directory. -/
def isDirAt (d : Disk) (parts : List Part) : Bool :=
  match d.locateParts true parts with
  | .ok (_, some node) => node.isDir
  | _ => false

/-- Makes a directory, and first those on the way to it that are missing, going up at most a number
of steps. -/
def makeDirs (d : Disk) : Nat → List Part → Except DiskFault Disk
  | _, [] => .ok d
  | levels, parts =>
    match d.makeDir parts with
    | .ok d => .ok d
    | .error .missing =>
      match levels, Path.parent? parts with
      | levels + 1, some above => do
        let d ← makeDirs d levels above
        match d.makeDir parts with
        | .ok d => .ok d
        | .error e => if d.isDirAt parts then .ok d else .error e
      | _, _ => .error .missing
    | .error e => if d.isDirAt parts then .ok d else .error e

/-- The permissions that a file written to a path will have. -/
def modeFor (d : Disk) (path : Bytes) : Nat :=
  match d.node? path with
  | some (.file _ mode) => mode
  | some (.other mode _) => mode
  | _ => privateMode

/-- Writes a file. -/
def write (d : Disk) (path : Bytes) (content : Bytes) : Except DiskFault Disk := do
  let parts := Path.parts path
  let d ← match Path.parent? parts with
    | some above => d.makeDirs above.length above
    | none => .ok d
  match ← d.locate false path with
  | (_, some (.dir _)) => .error .isDirectory
  | (names, _) => .ok (d.setNode names (.file content (d.modeFor path)))

end Disk

end PinnedActions
