import PinnedActions.Disk.Path
import PinnedActions.Pinning.Scope
import PinnedActions.Resolver.Spec

/-!
# Edits

What an operation wants to change it says in **edits**: the place of a usage, and the reference and
the comment that it is to have.  Edits are carried out one after the other.

A usage already **agrees** with a reference and a comment when it differs from them in nothing but
the case of ASCII letters; then there is nothing to edit.
-/

set_option autoImplicit false

namespace PinnedActions

/-- A usage, by its place, and what it is to become. -/
structure Edit where
  file : Nat
  index : Nat
  reference : Text
  comment : Text
deriving DecidableEq, Repr

/-- Something to tell about a usage that was passed over. -/
structure Warning where
  path : Bytes
  line : Nat
  message : Text
deriving DecidableEq, Repr

/-- The wording of a remark about a line of a file. -/
def remark (path : Bytes) (line : Nat) (message : Text) : Text :=
  Path.shown path ++ ':' :: Text.decimal line ++ ' ' :: message

/-- A warning on one line. -/
def Warning.toText (w : Warning) : Text := remark w.path w.line w.message

namespace Pinning

/-- Carries out one edit. -/
def applyEdit (files : List WorkflowFile) (e : Edit) : List WorkflowFile :=
  files.modify e.file fun f => (f.repin e.index e.reference e.comment).1

/-- Carries out edits one after the other. -/
def applyEdits (files : List WorkflowFile) (edits : List Edit) : List WorkflowFile :=
  edits.foldl applyEdit files

/-- How many files have a changed line. -/
def countDirty (files : List WorkflowFile) : Nat := files.countP WorkflowFile.isDirty

/-- Whether a usage has a reference and a comment already, up to the case of ASCII letters. -/
def agrees (u : Usage) (reference comment : Text) : Bool :=
  Text.sameIgnoringCase reference u.reference && Text.sameIgnoringCase comment u.comment

/-- The edit that gives an occurrence a reference and a comment, when it does not have them. -/
def editFor (o : Occurrence) (reference comment : Text) : Option Edit :=
  if agrees o.usage reference comment then none
  else some ⟨o.file, o.index, reference, comment⟩

/-- A warning about an occurrence. -/
def warn (o : Occurrence) (message : Text) : Warning := ⟨o.path, o.usage.lineNumber, message⟩

/-- Resolves a version for the repository of an action. -/
def resolveFor (source : Source) (a : Action) (version : Text) :
    Sure (Except Failure Resolution) :=
  (Resolver.resolveSpec source a.owner a.repo version).attempt

end Pinning

end PinnedActions
