import PinnedActions.Pinning.Fix

/-!
# Moving pins within their versions

`Pinning.update` resolves the version in the comment of every usage in scope once more and moves the
usage to the commit found.  A usage without a version, and one whose version does not resolve, gives
a warning.

The report has a record for every repository and version, in the order of their keys.  A record
counts the usages that were moved and those that were where they should be; its tag and its commit
are those found last.
-/

set_option autoImplicit false

namespace PinnedActions

/-- What became of one version of one repository. -/
structure UpdateRecord where
  repository : Text
  spec : Text
  tag : Text
  commit : Text
  updated : Nat
  unchanged : Nat
deriving DecidableEq, Repr

/-- What a run of `update` has to report. -/
structure UpdateReport where
  records : List UpdateRecord
  updated : Nat
  filesChanged : Nat
  warnings : List Warning
deriving DecidableEq, Repr

namespace Pinning

/-! ## One usage -/

/-- The wording for a comment without a version. -/
def unversionedMessage (u : Usage) : Text :=
  "missing version comment for ".toList ++ u.action.fullPath

/-- The wording for a version that `update` cannot resolve. -/
def unresolvableMessage (u : Usage) (version : Text) (f : Failure) : Text :=
  "unable to resolve ".toList ++ u.action.fullPath ++ " spec ".toList ++ version ++ ": ".toList ++
    f.message

/-- What `update` wants to do with an occurrence. -/
def judgeUpdate (source : Source) (o : Occurrence) : Sure Verdict :=
  let u := o.usage
  let (version, remark) := Comment.split u.comment
  if version.isEmpty then return .warned (warn o (unversionedMessage u))
  else settle source o version remark (unresolvableMessage u version)

/-! ## Records -/

/-- The key of the record for a version of an action. -/
def recordKey (a : Action) (version : Text) : Text := a.repoKey ++ '|' :: Text.lowercase version

/-- A record that counts nothing yet. -/
def newRecord (a : Action) (version : Text) : UpdateRecord :=
  ⟨a.repository, version, [], [], 0, 0⟩

/-- A record after one more usage. -/
def UpdateRecord.count (record : UpdateRecord) (r : Resolution) (edit : Option Edit) :
    UpdateRecord :=
  let record := { record with tag := r.tag, commit := r.commit }
  if edit.isSome then { record with updated := record.updated + 1 }
  else { record with unchanged := record.unchanged + 1 }

/-- The records in the order of keys, with the one of a key changed.  A record that is not there is
put in first. -/
def changeRecord (key : Text) (new : UpdateRecord) (change : UpdateRecord → UpdateRecord) :
    List (Text × UpdateRecord) → List (Text × UpdateRecord)
  | [] => [(key, change new)]
  | (k, record) :: rest =>
    if key = k then (k, change record) :: rest
    else if Text.before key k then (key, change new) :: (k, record) :: rest
    else (k, record) :: changeRecord key new change rest

/-- The records with the verdict on one more occurrence counted. -/
def addRecord (records : List (Text × UpdateRecord)) : Occurrence × Verdict →
    List (Text × UpdateRecord)
  | (o, .resolved version r edit) =>
    changeRecord (recordKey o.usage.action version) (newRecord o.usage.action version)
      (UpdateRecord.count · r edit) records
  | _ => records

/-! ## All files -/

/-- Moves every usage in scope to the newest commit of its version.  A repository that is aimed at
has to have a usage in scope. -/
def update (source : Source) (settings : Settings) (target : Target) (files : List WorkflowFile) :
    Sure (Except Failure UpdateReport × List WorkflowFile) := do
  let scope := inScope settings target files
  let verdicts ← judgeAll (judgeUpdate source) scope
  let report := fun files => {
    records := ((scope.zip verdicts).foldl addRecord []).map Prod.snd
    updated := (editsOf verdicts).length
    filesChanged := countDirty files
    warnings := warningsOf verdicts }
  match target, scope with
  | .repository key, [] => return (.error (.repositoryNotReferenced key), files)
  | _, _ =>
    let files := applyEdits files (editsOf verdicts)
    return (.ok (report files), files)

end Pinning

end PinnedActions
