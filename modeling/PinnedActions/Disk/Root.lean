import PinnedActions.Disk.Basic

/-!
# The root of a project

When nobody says where a project is, it is looked for from the current directory upwards: the nearest
directory that has a directory `.github` in it, else the nearest that has a directory `.git`, else
the current directory itself.
-/

set_option autoImplicit false

namespace PinnedActions

namespace Disk

/-- The path of a directory that is given by names from the root. -/
def absolute (names : List Bytes) : Bytes := Path.slash :: [Path.slash].intercalate names

/-- A directory and those above it, the nearest first.  Names go from the last to the first. -/
def upwards : List Bytes → List (List Bytes)
  | [] => [[]]
  | name :: above => (name :: above) :: upwards above

/-- The nearest directory that has a directory of a name in it. -/
def nearestWith? (d : Disk) (name : Bytes) : Option Bytes :=
  ((upwards d.current.reverse).map fun names => absolute names.reverse).find? fun path =>
    d.isDir (Path.join path name)

/-- The root of the project around the current directory. -/
def projectRoot (d : Disk) : Bytes :=
  (d.nearestWith? (Utf8.bytes ".github") <|> d.nearestWith? (Utf8.bytes ".git")).getD
    (absolute d.current)

end Disk

end PinnedActions
