import PinnedActions.Pinning.Edit

/-!
# Checking pins

`Pinning.verify` checks every usage that is not ignored.  Its reference has to be a full commit hash,
its comment has to name a version, and that version has to resolve to that commit.  The first of
these that fails is an `Issue`; a usage has at most one.  Issues are listed by path and then by line,
paths being compared part by part.
-/

set_option autoImplicit false

namespace PinnedActions

/-- What can be wrong with a usage. -/
inductive IssueKind where
  /-- The reference is not a full commit hash. -/
  | notPinned
  /-- The comment names no version. -/
  | missingVersion
  /-- The version does not resolve. -/
  | unresolved
  /-- The version resolves to another commit. -/
  | mismatch
deriving DecidableEq, Repr

/-- The word for what is wrong. -/
def IssueKind.name : IssueKind → Text
  | .notPinned => "not_pinned".toList
  | .missingVersion => "missing_version".toList
  | .unresolved => "unresolved".toList
  | .mismatch => "mismatch".toList

/-- A usage that is not as it should be. -/
structure Issue where
  path : Bytes
  line : Nat
  kind : IssueKind
  message : Text
deriving DecidableEq, Repr

/-- An issue on one line. -/
def Issue.toText (i : Issue) : Text := remark i.path i.line i.message

namespace Pinning

/-! ## One usage -/

/-- An issue with an occurrence. -/
def issueAt (o : Occurrence) (kind : IssueKind) (message : Text) : Issue :=
  ⟨o.path, o.usage.lineNumber, kind, message⟩

/-- The wording for a reference that is not a hash. -/
def notPinnedMessage (u : Usage) : Text :=
  "uses ".toList ++ u.action.fullPath ++ " is not pinned to a full commit SHA (".toList ++
    u.reference ++ [')']

/-- The wording for a comment without a version. -/
def missingVersionMessage (u : Usage) : Text :=
  "uses ".toList ++ u.action.fullPath ++ " is missing a version comment".toList

/-- The wording for a version that does not resolve. -/
def unresolvedMessage (u : Usage) (version : Text) (f : Failure) : Text :=
  "failed to resolve ".toList ++ u.action.fullPath ++ " spec ".toList ++ version ++ ": ".toList ++
    f.message

/-- The wording for a version that resolves to another commit. -/
def mismatchMessage (u : Usage) (version : Text) (r : Resolution) : Text :=
  "pinned SHA ".toList ++ u.reference ++ " does not match ".toList ++ r.tag ++ " (".toList ++
    r.commit ++ ") for ".toList ++ u.action.fullPath ++ " spec ".toList ++ version

/-- What is wrong with an occurrence, if something is. -/
def check (source : Source) (o : Occurrence) : Sure (Option Issue) := do
  let u := o.usage
  if !Version.isFullHash u.reference then
    return some (issueAt o .notPinned (notPinnedMessage u))
  let (version, _) := Comment.split u.comment
  if version.isEmpty then
    return some (issueAt o .missingVersion (missingVersionMessage u))
  match ← resolveFor source u.action version with
  | .error f => return some (issueAt o .unresolved (unresolvedMessage u version f))
  | .ok r =>
    if Text.sameIgnoringCase r.commit u.reference then return none
    else return some (issueAt o .mismatch (mismatchMessage u version r))

/-- What is wrong with several occurrences, in their order. -/
def checkAll (source : Source) : List Occurrence → Sure (List Issue)
  | [] => return []
  | o :: rest => do
    let issue ← check source o
    let issues ← checkAll source rest
    return issue.toList ++ issues

/-! ## All files -/

/-- Whether an issue may stand before another: its path comes first, or it is on the same path and
its line does not come later. -/
def issueLe (a b : Issue) : Bool :=
  if Path.before a.path b.path then true
  else if Path.before b.path a.path then false
  else a.line ≤ b.line

/-- Everything that is wrong with the files, by path and line. -/
def verify (source : Source) (settings : Settings) (files : List WorkflowFile) :
    Sure (List Issue) := do
  let issues ← checkAll source (inScope settings .everything files)
  return issues.mergeSort issueLe

end Pinning

end PinnedActions
