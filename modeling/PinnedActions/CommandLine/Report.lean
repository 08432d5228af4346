import PinnedActions.CommandLine.Table
import PinnedActions.Json.Printer
import PinnedActions.Pinning.Update
import PinnedActions.Pinning.Upgrade
import PinnedActions.Pinning.Verify

/-!
# Reports

What an operation found or did is told in one of two ways: as one JSON value, whose members stand in
a fixed order, or as lines for a reader.  In lines a path is shown as it is seen from the root of the
project, with replacement characters for what is no text in it.  In JSON it is told in full, which can
only be done if it is a text; a report that names another path is no JSON value at all.
-/

set_option autoImplicit false

namespace PinnedActions

namespace Report

/-! ## As JSON -/

/-- An object with members in the given order. -/
def object (members : List (String × Json)) : Json :=
  .obj (members.map fun (key, value) => (key.toList, value))

/-- A count. -/
def count (n : Nat) : Json := .int n

/-- Something that is wrong with a usage, if its path is a text. -/
def ofIssue (i : Issue) : Option Json := do
  let path ← Utf8.decode? i.path
  return object [("path", .str path), ("line", count i.line), ("kind", .str i.kind.name),
    ("message", .str i.message)]

/-- Everything that is wrong, if all paths are texts. -/
def ofIssues (issues : List Issue) : Option Json := (issues.mapM ofIssue).map .arr

/-- Something to tell about a usage that was passed over, if its path is a text. -/
def ofWarning (w : Warning) : Option Json := do
  let path ← Utf8.decode? w.path
  return object [("path", .str path), ("line", count w.line), ("message", .str w.message)]

/-- All there is to tell about usages that were passed over, if all paths are texts. -/
def ofWarnings (warnings : List Warning) : Option Json := (warnings.mapM ofWarning).map .arr

/-- What `fix` did, if the warnings can be told. -/
def ofFix (r : FixReport) : Option Json := do
  let warnings ← ofWarnings r.warnings
  return object [("updated", count r.updated), ("files_changed", count r.filesChanged),
    ("warnings", warnings)]

/-- What `upgrade` did for one repository. -/
def ofRepoUpgrade (r : RepoUpgrade) : Json :=
  object [("repository", .str r.repository), ("tag", .str r.tag), ("commit", .str r.commit),
    ("updated", count r.updated)]

/-- What `upgrade` did. -/
def ofUpgrade (r : UpgradeReport) : Json :=
  object [("repos", .arr (r.repos.map ofRepoUpgrade)), ("updated", count r.updated),
    ("files_changed", count r.filesChanged)]

/-- What `update` did for one version of one repository. -/
def ofRecord (r : UpdateRecord) : Json :=
  object [("repository", .str r.repository), ("spec", .str r.spec), ("tag", .str r.tag),
    ("commit", .str r.commit), ("updated", count r.updated), ("unchanged", count r.unchanged)]

/-- What `update` did, if the warnings can be told. -/
def ofUpdate (r : UpdateReport) : Option Json := do
  let warnings ← ofWarnings r.warnings
  return object [("records", .arr (r.records.map ofRecord)), ("updated", count r.updated),
    ("files_changed", count r.filesChanged), ("warnings", warnings)]

/-! ## As lines -/

/-- What is said when there is nothing to work on. -/
def nothingFound : Text := "No workflow or composite action usages found.".toList

/-- The first characters of a text, if they take up a number of bytes. -/
def takeBytes? : Nat → Text → Option Text
  | 0, _ => some []
  | _ + 1, [] => none
  | n + 1, c :: rest =>
    if c.utf8Size ≤ n + 1 then (takeBytes? (n + 1 - c.utf8Size) rest).map (c :: ·) else none

/-- The first seven characters of a commit hash. -/
def shortHash (hash : Text) : Text := (takeBytes? 7 hash).getD hash

/-- A remark with its path as seen from the root of the project. -/
def remarkBelow (root path : Bytes) (line : Nat) (message : Text) : Text :=
  remark (Path.relativeTo root path) line message

/-- One line for each issue, or one line to say that there is none. -/
def issueLines (root : Bytes) (issues : List Issue) : List Text :=
  if issues.isEmpty then
    ["All workflows and composite actions are pinned to matching commit SHAs.".toList]
  else issues.map fun i => remarkBelow root i.path i.line i.message

/-- One line for each warning. -/
def warningLines (root : Bytes) (warnings : List Warning) : List Text :=
  warnings.map fun w => remarkBelow root w.path w.line w.message

/-- How much was changed. -/
def summary (updated filesChanged : Nat) : Text :=
  if updated = 0 then "No changes were required.".toList
  else "Updated ".toList ++ Text.decimal updated ++ " action reference(s) across ".toList ++
    Text.decimal filesChanged ++ " file(s).".toList

/-- A line for one repository after `upgrade`. -/
def repoLine (r : RepoUpgrade) : Text :=
  let goal := r.tag ++ " (".toList ++ shortHash r.commit ++ ").".toList
  if 0 < r.updated then "Upgraded ".toList ++ r.repository ++ " to ".toList ++ goal
  else r.repository ++ " is already at ".toList ++ goal

/-- The lines after `upgrade`. -/
def upgradeLines (r : UpgradeReport) : List Text :=
  if r.repos.isEmpty then ["No remote actions to upgrade.".toList]
  else r.repos.map repoLine ++ [summary r.updated r.filesChanged]

/-- The headings of the table of records. -/
def recordHeadings : List Text :=
  ["REPOSITORY", "SPEC", "TAG", "COMMIT", "UPDATED", "UNCHANGED"].map String.toList

/-- The row of a record. -/
def recordRow (r : UpdateRecord) : List Text :=
  [r.repository, r.spec, r.tag, shortHash r.commit, Text.decimal r.updated,
    Text.decimal r.unchanged]

/-- The lines after `update`. -/
def updateLines (r : UpdateReport) : List Text :=
  (if r.records.isEmpty then [] else Table.lines recordHeadings (r.records.map recordRow)) ++
    [summary r.updated r.filesChanged]

end Report

end PinnedActions
