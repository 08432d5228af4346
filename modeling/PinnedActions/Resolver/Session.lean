import PinnedActions.Catalog.Basic
import PinnedActions.Version.Basic

/-!
# Sessions with a catalog

A **session** is what a resolver remembers: the commits of the references it has looked up, the
results for the version specs it has resolved, and every path it has fetched.  A computation in a
session is a `Walk`: it changes the session, and ends with a value or a failure.  What it changed
before a failure stays changed.

A walk may also not end.  It then has no result at all, not even a failure, and nothing that comes
after it is reached; that is the only way in which running out of patience shows.

* `Walk.fetch` asks the catalog and reads the answer.
* `Walk.ifFound` turns a failure that means "not found" into a value.
* `Walk.attempt` turns every failure into a value.
-/

set_option autoImplicit false

namespace PinnedActions

/-- What a remembered result is filed under: a repository in lowercase, and a name. -/
structure CacheKey where
  owner : Text
  repo : Text
  name : Text
deriving DecidableEq, Repr

/-- A tag and the commit that it stands for. -/
structure Resolution where
  tag : Text
  commit : Text
deriving DecidableEq, Repr

/-- What a resolver remembers. -/
structure Session where
  /-- The commits of references, the newest entry first. -/
  references : List (CacheKey × Text)
  /-- The results for version specs, the newest entry first. -/
  specs : List (CacheKey × Resolution)
  /-- The paths that were fetched, the last one first. -/
  fetched : List Text
deriving DecidableEq, Repr

namespace Session

/-- A session that remembers nothing. -/
def empty : Session := ⟨[], [], []⟩

/-- The key of a name in a repository.  The repository counts in lowercase. -/
def key (owner repo name : Text) : CacheKey := ⟨Text.lowercase owner, Text.lowercase repo, name⟩

/-- The session with one more reference. -/
def addReference (s : Session) (k : CacheKey) (commit : Text) : Session :=
  { s with references := (k, commit) :: s.references }

/-- The session with one more version spec. -/
def addSpec (s : Session) (k : CacheKey) (r : Resolution) : Session :=
  { s with specs := (k, r) :: s.specs }

/-- The session with one more fetched path. -/
def addFetch (s : Session) (path : Text) : Session := { s with fetched := path :: s.fetched }

end Session

/-- A computation that uses a session, and ends with a value or a failure if it ends. -/
abbrev Walk (α : Type) := ExceptT Failure (StateT Session Option) α

/-- A computation that uses a session, and ends with a value if it ends. -/
abbrev Sure (α : Type) := StateT Session Option α

namespace Walk

variable {α : Type}

/-- The result of a walk from a session on: the value or the failure, and the session then. -/
def runFrom (w : Walk α) (s : Session) : Option (Except Failure α × Session) := w.run.run s

/-- The walk that does not end. -/
def endless : Walk α := ExceptT.mk fun _ => none

/-- Changes the session. -/
def change (f : Session → Session) : Walk Unit := ExceptT.mk fun s => some (.ok (), f s)

/-- The session as it is. -/
def session : Walk Session := ExceptT.mk fun s => some (.ok s, s)

/-- Fails. -/
def fail (f : Failure) : Walk α := ExceptT.mk fun s => some (.error f, s)

/-- A walk whose failures are values. -/
def attempt (w : Walk α) : Sure (Except Failure α) := w.run

/-- A walk that gives `none` where the other fails because something is not found. -/
def ifFound (w : Walk α) : Walk (Option α) := ExceptT.mk do
  match ← w.attempt with
  | .ok a => return .ok (some a)
  | .error f => return if f.isNotFound then .ok none else .error f

/-- Asks the catalog about a path and reads the answer. -/
def fetch (source : Source) (path : Text) (read : Json → Except Mismatch α) : Walk α := do
  change (·.addFetch path)
  match source.catalog path with
  | .error f => fail f
  | .ok answer =>
    match read answer with
    | .error m => fail (.decode path (.mismatch m))
    | .ok a => return a

end Walk

end PinnedActions
