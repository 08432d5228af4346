import PinnedActions.Pinning.Edit

/-!
# Moving to another version

`Pinning.upgrade` moves all usages of a repository to its latest version, or to a version that is
asked for.  The usages in scope are taken together by repository, in the order in which repositories
first occur, and the first usage of a repository decides how it is spelled.  One question to the
catalog settles a whole repository.

A repository that cannot be settled ends the run with a failure.  What was done for the repositories
before it stays done in the files at hand; they are not written in that case.
-/

set_option autoImplicit false

namespace PinnedActions

/-- What became of one repository. -/
structure RepoUpgrade where
  repository : Text
  tag : Text
  commit : Text
  updated : Nat
deriving DecidableEq, Repr

/-- What a run of `upgrade` has to report. -/
structure UpgradeReport where
  repos : List RepoUpgrade
  updated : Nat
  filesChanged : Nat
deriving DecidableEq, Repr

/-- The usages of one repository. -/
structure RepoUsages where
  key : Text
  owner : Text
  repo : Text
  occurrences : List Occurrence
deriving DecidableEq, Repr

namespace Pinning

/-! ## Groups -/

/-- The groups with one more occurrence, in the group of its repository or in a new one at the
end. -/
def addToGroup (o : Occurrence) : List RepoUsages → List RepoUsages
  | [] => [⟨o.usage.action.repoKey, o.usage.action.owner, o.usage.action.repo, [o]⟩]
  | g :: rest =>
    if g.key = o.usage.action.repoKey then { g with occurrences := g.occurrences ++ [o] } :: rest
    else g :: addToGroup o rest

/-- The occurrences by repository, in the order in which repositories first occur. -/
def groupByRepository (os : List Occurrence) : List RepoUsages :=
  os.foldl (fun groups o => addToGroup o groups) []

/-! ## One repository -/

/-- The edit that moves an occurrence to a resolution, when there is one to make.  The remark in its
comment stays. -/
def upgradeEdit (r : Resolution) (o : Occurrence) : Option Edit :=
  let (_, remark) := Comment.split o.usage.comment
  editFor o r.commit (Comment.join r.tag remark)

/-- The edits for a group. -/
def groupEdits (r : Resolution) (g : RepoUsages) : List Edit :=
  g.occurrences.filterMap (upgradeEdit r)

/-- The record of a group. -/
def groupRecord (r : Resolution) (g : RepoUsages) : RepoUpgrade :=
  ⟨g.owner ++ '/' :: g.repo, r.tag, r.commit, (groupEdits r g).length⟩

/-! ## All files -/

/-- Settles groups one after the other up to the first failure.  Gives the edits of those that were
settled, with their records or the failure. -/
def upgradeGroups (source : Source) (version : Option Text) :
    List RepoUsages → Sure (List Edit × Except Failure (List RepoUpgrade))
  | [] => return ([], .ok [])
  | g :: rest => do
    match ← (Resolver.latest source g.owner g.repo version).attempt with
    | .error f => return ([], .error f)
    | .ok r =>
      let (edits, records) ← upgradeGroups source version rest
      return (groupEdits r g ++ edits, records.map (groupRecord r g :: ·))

/-- Moves every usage in scope to the latest version of its repository, or to the version given.  A
repository that is aimed at has to have a usage in scope. -/
def upgrade (source : Source) (settings : Settings) (target : Target) (version : Option Text)
    (files : List WorkflowFile) : Sure (Except Failure UpgradeReport × List WorkflowFile) := do
  let groups := groupByRepository (inScope settings target files)
  match target, groups with
  | .repository key, [] => return (.error (.repositoryNotReferenced key), files)
  | _, _ =>
    let (edits, records) ← upgradeGroups source version groups
    let files := applyEdits files edits
    let updated := fun rs => (rs.map RepoUpgrade.updated).foldr (· + ·) 0
    return (records.map fun rs => ⟨rs, updated rs, countDirty files⟩, files)

end Pinning

end PinnedActions
