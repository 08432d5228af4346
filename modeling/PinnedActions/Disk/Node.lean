import PinnedActions.Text.Utf8

/-!
# Trees of files

The state of a disk is a tree.  A node is a file with its bytes and its permissions, a symbolic link
with its target, a directory with named entries, or something else: a pipe, a socket or a device.
Names and targets are bytes, which need not be text.  Everything that a command reads or writes is a
function of such a tree, so the effect of a command on the disk is a statement about two values.

Nothing is said about a directory that must not be listed or a file that must not be read, nor about a
pipe from which nothing ever comes.
-/

set_option autoImplicit false

namespace PinnedActions

/-- A file, a link, a directory, or something else. -/
inductive Node where
  /-- A regular file with its bytes and its permissions. -/
  | file (content : Bytes) (mode : Nat)
  | link (target : Bytes)
  | dir (entries : List (Bytes × Node))
  /-- A pipe, a socket or a device: its permissions, and what comes of reading it, if anything. -/
  | other (mode : Nat) (reading : Option Bytes)

namespace Node

/-- The node at the end of a sequence of names.  Links are not followed. -/
def get? : List Bytes → Node → Option Node
  | [], node => some node
  | name :: rest, .dir entries => (entries.lookup name).bind (get? rest)
  | _ :: _, _ => none

/-- The entries of a directory with another node under one name. -/
def setEntry (name : Bytes) (node : Node) : List (Bytes × Node) → List (Bytes × Node)
  | [] => [(name, node)]
  | (n, old) :: rest =>
    if n = name then (n, node) :: rest else (n, old) :: setEntry name node rest

/-- The tree with another node at the end of a sequence of names.  Directories on the way that are
not there are made; anything but a directory on the way stops it. -/
def put (new : Node) : List Bytes → Node → Node
  | [], _ => new
  | name :: rest, .dir entries =>
    .dir (setEntry name (put new rest ((entries.lookup name).getD (.dir []))) entries)
  | _ :: _, node => node

/-- Whether a node is a directory. -/
def isDir : Node → Bool
  | .dir _ => true
  | _ => false

end Node

end PinnedActions
