import PinnedActions.Text.Utf8
import PinnedActions.Usage.Line
import PinnedActions.Workflow.Lines

/-!
# Workflow files

A workflow, or the manifest of a composite action, is a file whose lines may be usages.  It is held
as its lines together with the usages found on them; a usage knows the position of its line, and a
change of pin changes the line and the usage in step.

* `WorkflowFile.parse` reads a content.
* `WorkflowFile.repin` gives a usage another reference and another comment.
-/

set_option autoImplicit false

namespace PinnedActions

/-- Puts the line of a usage with a new reference and a new comment into the lines.  Gives the
lines, the usage as it is then, and whether the text of the line is another one. -/
def Lines.repin (ls : Lines) (u : Usage) (reference comment : Text) : Lines × Usage × Bool :=
  let text := u.render reference comment
  (ls.setLine u.line text,
    { u with reference := Text.lowercase reference, comment },
    decide (ls.line? u.line ≠ some text))

/-- A file and the usages on its lines. -/
structure WorkflowFile where
  path : Bytes
  lines : Lines
  usages : List Usage
deriving DecidableEq, Repr

namespace WorkflowFile

/-- The usages on a sequence of lines, the first of which has the given position. -/
def usagesFrom : Nat → List Text → List Usage
  | _, [] => []
  | i, text :: rest =>
    match Usage.parse? text with
    | some u => { u with line := i } :: usagesFrom (i + 1) rest
    | none => usagesFrom (i + 1) rest

/-- The file at a path with a content. -/
def parse (path : Bytes) (content : Text) : WorkflowFile :=
  let lines := Lines.ofContent content
  { path, lines, usages := usagesFrom 0 lines.texts }

/-- Whether a line was changed since the file was read. -/
def isDirty (f : WorkflowFile) : Bool := f.lines.dirty

/-- The content to write for the file. -/
def content (f : WorkflowFile) : Text := f.lines.content

/-- Gives the usage at a position another reference and another comment, and says whether the text
of its line is another one.  There may be no usage at the position; then nothing happens. -/
def repin (f : WorkflowFile) (i : Nat) (reference comment : Text) : WorkflowFile × Bool :=
  match f.usages[i]? with
  | none => (f, false)
  | some u =>
    let (lines, u, changed) := f.lines.repin u reference comment
    ({ f with lines, usages := f.usages.set i u }, changed)

/-- How many usages a list of files has. -/
def usageCount (files : List WorkflowFile) : Nat :=
  (files.map fun f => f.usages.length).foldr (· + ·) 0

end WorkflowFile

end PinnedActions
