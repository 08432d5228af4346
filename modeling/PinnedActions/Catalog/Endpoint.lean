import PinnedActions.Text.Percent

/-!
# What can be asked of the catalog

The catalog is asked about one repository at a time.  An `Endpoint` is a question: which object a
tag points to, what a tag object says, a page of the releases or of the tags, the latest release, the
newest tag.  `Endpoint.path` is the path of the question below the root of the API.

The name of a tag is free text, so it is escaped: only letters and digits of ASCII, the four marks
`-`, `.`, `_`, `~`, and the slashes between its parts stand for themselves.
-/

set_option autoImplicit false

namespace PinnedActions

/-- How many entries a full page of a listing has. -/
def pageSize : Nat := 100

/-- A question about a repository. -/
inductive Endpoint where
  /-- The object that a tag points to. -/
  | tagReference (name : Text)
  /-- The object that a tag object points to. -/
  | tagObject (hash : Text)
  /-- A page of the releases, counted from one. -/
  | releases (page : Nat)
  /-- A page of the tags, counted from one. -/
  | tags (page : Nat)
  /-- The release that counts as the latest. -/
  | latestRelease
  /-- The first entry of the listing of tags. -/
  | newestTag
deriving DecidableEq, Repr

namespace Endpoint

/-- Whether a character of a tag name stands for itself in a path. -/
def isPlain (c : Char) : Bool :=
  Text.isAsciiLetter c || Text.isAsciiDigit c
    || c = '-' || c = '.' || c = '_' || c = '~' || c = '/'

/-- The name of a tag as a part of a path. -/
def escape (name : Text) : Text := Percent.encode isPlain name

/-- The part of the path after the repository. -/
def suffix : Endpoint → Text
  | tagReference name => "git/ref/tags/".toList ++ escape name
  | tagObject hash => "git/tags/".toList ++ hash
  | releases page =>
    "releases?per_page=".toList ++ Text.decimal pageSize ++ "&page=".toList ++ Text.decimal page
  | tags page =>
    "tags?per_page=".toList ++ Text.decimal pageSize ++ "&page=".toList ++ Text.decimal page
  | latestRelease => "releases/latest".toList
  | newestTag => "tags?per_page=1".toList

/-- The path of a question about a repository. -/
def path (owner repo : Text) (e : Endpoint) : Text :=
  "repos/".toList ++ owner ++ '/' :: repo ++ '/' :: e.suffix

end Endpoint

end PinnedActions
