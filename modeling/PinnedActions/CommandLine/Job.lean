import PinnedActions.Disk.Discovery
import PinnedActions.Http.Client
import PinnedActions.Resolver.Session

/-!
# Jobs

A **job** is what a command does: it prints lines, consults a catalog, writes files, and goes on until
it is done or meets a `Trouble`.  What it did before the trouble stays done.  Like every walk through
a catalog it may also not end.

* `Trouble.message` — the wording of what ends a job.
* `Job.say`, `Job.remark` — print a line, among the results or among the remarks.
* `Job.consult` — uses a catalog that is on the network.
* `Job.write` — saves a file.
-/

set_option autoImplicit false

namespace PinnedActions

/-- What ends a job before it is done. -/
inductive Trouble where
  /-- The settings file cannot be read. -/
  | settings (cause : Failure)
  /-- The settings cannot be used. -/
  | advice (message : Text)
  /-- The workflow files cannot be read. -/
  | loading (cause : DiskFault)
  /-- There can be no client. -/
  | client (cause : Failure)
  /-- The operation failed. -/
  | operation (cause : Failure)
  /-- A file cannot be written. -/
  | saving (path : Bytes) (cause : DiskFault)
  /-- A report names a path that is no text. -/
  | unprintable
  /-- Some usages are not as they should be. -/
  | unverified (count : Nat)
deriving DecidableEq, Repr

/-- The wording of a trouble. -/
def Trouble.message : Trouble → Text
  | .settings cause => "failed to load .github/actpin.yaml: ".toList ++ cause.chain
  | .advice m => "invalid config: ".toList ++ m
  | .loading cause => "failed to load workflow files: ".toList ++ cause.message
  | .client cause => "failed to create GitHub client: ".toList ++ cause.chain
  | .operation cause => cause.chain
  | .saving path cause =>
    "failed to write ".toList ++ Path.shown path ++ ": ".toList ++ cause.message
  | .unprintable => "path contains invalid UTF-8 characters".toList
  | .unverified count => Text.decimal count ++ " action reference(s) failed verification".toList

/-- What a job has done so far. -/
structure Progress where
  disk : Disk
  /-- What the resolver remembers. -/
  session : Session
  /-- The requests that were made. -/
  asked : List Request
  /-- The paths of the files that were saved. -/
  saved : List Bytes
  /-- The results that were printed. -/
  output : Text
  /-- The remarks that were printed. -/
  remarks : Text

/-- A computation that ends with a value or a trouble, if it ends. -/
abbrev Job (α : Type) := ExceptT Trouble (StateT Progress Option) α

namespace Job

variable {α : Type}

/-- Changes what was done so far. -/
def change (f : Progress → Progress) : Job Unit := ExceptT.mk fun p => some (.ok (), f p)

/-- What was done so far. -/
def progress : Job Progress := ExceptT.mk fun p => some (.ok p, p)

/-- Ends with a trouble. -/
def fail (t : Trouble) : Job α := ExceptT.mk fun p => some (.error t, p)

/-- The value of a result, or the trouble that its failure makes. -/
def orTrouble {ε : Type} (trouble : ε → Trouble) : Except ε α → Job α
  | .ok a => return a
  | .error e => fail (trouble e)

/-- Prints a line among the results.  They are taken to be read: nothing is said about a run whose
output is closed. -/
def say (line : Text) : Job Unit := change fun p => { p with output := p.output ++ line ++ ['\n'] }

/-- Prints a line among the remarks. -/
def remark (line : Text) : Job Unit :=
  change fun p => { p with remarks := p.remarks ++ line ++ ['\n'] }

/-- The paths that were fetched since an earlier session, in their order. -/
def fetchedSince (before after : Session) : List Text :=
  (after.fetched.take (after.fetched.length - before.fetched.length)).reverse

/-- Uses the catalog that a client reaches. -/
def consult (client : Client) (computation : Sure α) : Job α := ExceptT.mk fun p => do
  let (a, session) ← computation.run p.session
  let asked := client.requests (fetchedSince p.session session)
  some (.ok a, { p with session, asked := p.asked ++ asked })

/-- Saves a file, if it has a changed line.  In a trouble it has the name given. -/
def write (name : Bytes) (f : WorkflowFile) : Job Unit := do
  let p ← progress
  match Discovery.save p.disk f with
  | .ok (disk, written) =>
    change fun p => { p with disk, saved := p.saved ++ if written then [f.path] else [] }
  | .error cause => fail (.saving name cause)

end Job

end PinnedActions
