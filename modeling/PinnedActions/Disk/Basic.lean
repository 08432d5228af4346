import PinnedActions.Disk.Node
import PinnedActions.Disk.Path
import PinnedActions.Failure
import PinnedActions.Text.Utf8

/-!
# Reading a disk

A `Disk` is a tree and the directory in it where a command runs.  A path leads from there, or from
the root when it is absolute, to a place in the tree.  On the way links are followed; at the end they
are followed or not, as the purpose wants it.  A path that needs too many links leads nowhere.

* `Disk.locate` — the place that a path leads to, and the node there.
* `Disk.isDir`, `Disk.exists` — questions about that node.
* `Disk.readText` — the text of a file.
-/

set_option autoImplicit false

namespace PinnedActions

/-- A tree, and the names that lead from its root to the current directory. -/
structure Disk where
  tree : Node
  current : List Bytes

namespace Disk

/-! ## Following paths -/

/-- Where going along a path came to a halt: at its end, or at a link to be followed.  Positions are
names from the last to the first. -/
inductive Halt where
  | arrived (position : List Bytes)
  | atLink (position : List Bytes) (target : Bytes) (rest : List Part)

/-- Goes along the parts of a path up to the end or to the first link.  The last part may be a name
that is not there; a link at the end counts as the end unless it is to be followed. -/
def advance (tree : Node) (followLast : Bool) : List Bytes → List Part → Except DiskFault Halt
  | position, [] => .ok (.arrived position)
  | _, .root :: rest => advance tree followLast [] rest
  | position, .here :: rest => advance tree followLast position rest
  | position, .up :: rest => advance tree followLast position.tail rest
  | position, .named name :: rest =>
    match tree.get? position.reverse with
    | none => .error .missing
    | some (.dir entries) =>
      match entries.lookup name with
      | none => if rest.isEmpty then .ok (.arrived (name :: position)) else .error .missing
      | some (.file ..) | some (.other ..) =>
        if rest.isEmpty then .ok (.arrived (name :: position)) else .error .notDirectory
      | some (.link target) =>
        if rest.isEmpty && !followLast then .ok (.arrived (name :: position))
        else .ok (.atLink position target rest)
      | some (.dir _) => advance tree followLast (name :: position) rest
    | some _ => .error .notDirectory

/-- How many links may be followed on the way. -/
def linkLimit : Nat := 40

/-- Goes along a path and follows a number of links.  Gives the names from the root. -/
def travel (tree : Node) (followLast : Bool) :
    Nat → List Bytes → List Part → Except DiskFault (List Bytes)
  | links, position, parts =>
    match advance tree followLast position parts with
    | .error e => .error e
    | .ok (.arrived position) => .ok position.reverse
    | .ok (.atLink position target rest) =>
      match links with
      | 0 => .error .tooManyLinks
      | links + 1 => travel tree followLast links position (Path.parts target ++ rest)

/-- The place that a sequence of parts leads to, and the node there. -/
def locateParts (d : Disk) (followLast : Bool) (parts : List Part) :
    Except DiskFault (List Bytes × Option Node) := do
  let names ← travel d.tree followLast linkLimit d.current.reverse parts
  return (names, d.tree.get? names)

/-- The place that a path leads to, and the node there. -/
def locate (d : Disk) (followLast : Bool) (path : Bytes) :
    Except DiskFault (List Bytes × Option Node) :=
  if path.isEmpty then .error .missing else d.locateParts followLast (Path.parts path)

/-- The node that a path leads to, links being followed. -/
def node? (d : Disk) (path : Bytes) : Option Node :=
  match d.locate true path with
  | .ok (_, node) => node
  | .error _ => none

/-! ## Questions -/

/-- Whether there is something at the end of a path. -/
def exists? (d : Disk) (path : Bytes) : Bool := (d.node? path).isSome

/-- Whether there is a directory at the end of a path. -/
def isDir (d : Disk) (path : Bytes) : Bool :=
  match d.node? path with
  | some node => node.isDir
  | none => false

/-- The bytes of a file, or what comes of reading something else. -/
def readBytes (d : Disk) (path : Bytes) : Except DiskFault Bytes := do
  match (← d.locate true path).2 with
  | none => .error .missing
  | some (.file content _) => .ok content
  | some (.other _ (some content)) => .ok content
  | some (.other _ none) => .error .noDevice
  | some _ => .error .isDirectory

/-- The text of a file. -/
def readText (d : Disk) (path : Bytes) : Except DiskFault Text := do
  match Utf8.decode? (← d.readBytes path) with
  | some t => .ok t
  | none => .error .notText

end Disk

end PinnedActions
