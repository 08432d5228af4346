import PinnedActions.Text.Lowercase

/-!
# Usages of actions

A **usage** is one line of a workflow that runs an action of another repository:

```text
      - uses: owner/repo/path@reference # comment
```

It is kept together with everything that is needed to write the line again as it was: the text in
front of the keyword, the blanks after it, and the quotes around the value.
-/

set_option autoImplicit false

namespace PinnedActions

/-- An action, whatever its version: a repository, and the path inside it when there is one. -/
structure Action where
  owner : Text
  repo : Text
  subpath : Option Text
deriving DecidableEq, Repr

namespace Action

/-- The repository as `owner/repo`, spelled as it is. -/
def repository (a : Action) : Text := a.owner ++ '/' :: a.repo

/-- The repository as `owner/repo` in lowercase, by which repositories are told apart. -/
def repoKey (a : Action) : Text := Text.lowercase a.repository

/-- The action as it is written: `owner/repo`, and the path inside when there is one. -/
def fullPath (a : Action) : Text :=
  match a.subpath with
  | some path => a.repository ++ '/' :: path
  | none => a.repository

end Action

/-- The quotes around a value. -/
inductive Quote where
  | bare
  | single
  | double
deriving DecidableEq, Repr

/-- A value inside its quotes. -/
def Quote.wrap (quote : Quote) (value : Text) : Text :=
  match quote with
  | .bare => value
  | .single => Text.between '\'' value
  | .double => Text.between '"' value

/-- One use of an action, and the shape of the line that it stands on. -/
structure Usage where
  /-- The position of the line in its file, counted from zero. -/
  line : Nat
  /-- Everything in front of the keyword. -/
  indent : Text
  /-- The spaces and tabs after the keyword. -/
  separator : Text
  quote : Quote
  action : Action
  /-- What follows the last at sign, in lowercase. -/
  reference : Text
  /-- What follows the number sign, trimmed. -/
  comment : Text
deriving DecidableEq, Repr

/-- The number of the line as people count. -/
def Usage.lineNumber (u : Usage) : Nat := u.line + 1

end PinnedActions
