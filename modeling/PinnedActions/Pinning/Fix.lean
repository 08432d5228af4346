import PinnedActions.Pinning.Edit

/-!
# Pinning what is not pinned

`Pinning.fix` gives every usage that is not ignored the commit of the version in its comment.  A
usage whose comment names no version takes its reference for one, and gets it as its comment; if that
reference is a commit already there is nothing to go by, and the usage stays as it is.  A version
that does not resolve gives a warning, and the run goes on.

The run first finds out what it wants to do with each usage, which is a `Verdict`, and then carries
out the edits among the verdicts.
-/

set_option autoImplicit false

namespace PinnedActions

/-- What a run wants to do with a usage. -/
inductive Verdict where
  /-- Nothing, because there is nothing to go by. -/
  | pass
  /-- Nothing, because something is in the way. -/
  | warned (warning : Warning)
  /-- The version resolves; there may be something to edit. -/
  | resolved (version : Text) (resolution : Resolution) (edit : Option Edit)
deriving DecidableEq, Repr

namespace Verdict

/-- The edit of a verdict. -/
def edit? : Verdict → Option Edit
  | resolved _ _ edit => edit
  | _ => none

/-- The warning of a verdict. -/
def warning? : Verdict → Option Warning
  | warned w => some w
  | _ => none

end Verdict

/-- What a run of `fix` has to report. -/
structure FixReport where
  updated : Nat
  filesChanged : Nat
  warnings : List Warning
deriving DecidableEq, Repr

namespace Pinning

/-- The verdict on an occurrence with a version and a remark after it. -/
def settle (source : Source) (o : Occurrence) (version remark : Text)
    (unresolved : Failure → Text) : Sure Verdict := do
  match ← resolveFor source o.usage.action version with
  | .error f => return .warned (warn o (unresolved f))
  | .ok r => return .resolved version r (editFor o r.commit (Comment.join version remark))

/-- The wording for a version that `fix` cannot resolve. -/
def unfixableMessage (u : Usage) (version : Text) (f : Failure) : Text :=
  "unable to resolve ".toList ++ u.action.fullPath ++ " version ".toList ++ version ++
    ": ".toList ++ f.message

/-- What `fix` wants to do with an occurrence. -/
def judgeFix (source : Source) (o : Occurrence) : Sure Verdict :=
  let u := o.usage
  let (version, remark) := Comment.split u.comment
  if !version.isEmpty then settle source o version remark (unfixableMessage u version)
  else if Version.isFullHash u.reference then return .pass
  else settle source o u.reference [] (unfixableMessage u u.reference)

/-- The verdicts on several occurrences, in their order. -/
def judgeAll (judge : Occurrence → Sure Verdict) : List Occurrence → Sure (List Verdict)
  | [] => return []
  | o :: rest => do
    let v ← judge o
    let vs ← judgeAll judge rest
    return v :: vs

/-- The edits among verdicts. -/
def editsOf (verdicts : List Verdict) : List Edit := verdicts.filterMap Verdict.edit?

/-- The warnings among verdicts. -/
def warningsOf (verdicts : List Verdict) : List Warning := verdicts.filterMap Verdict.warning?

/-- Pins every usage that is not ignored to the commit of its version. -/
def fix (source : Source) (settings : Settings) (files : List WorkflowFile) :
    Sure (FixReport × List WorkflowFile) := do
  let verdicts ← judgeAll (judgeFix source) (inScope settings .everything files)
  let files := applyEdits files (editsOf verdicts)
  return (⟨(editsOf verdicts).length, countDirty files, warningsOf verdicts⟩, files)

end Pinning

end PinnedActions
