import PinnedActions.Text.Blank
import PinnedActions.Usage.Basic

/-!
# Reading and writing a usage line

`Usage.parse?` reads one line and `Usage.render` writes the line of a usage with a new reference and
a new comment.

Not every line with the keyword is a usage.  An expression, a path inside the same repository, a
container image and a value without `owner/repo@reference` are left alone, and so is every line that
is not about an action at all.  What counts as the comment is decided before anything else: it
starts at the first number sign that is not inside quotes.
-/

set_option autoImplicit false

namespace PinnedActions

namespace Usage

/-- The keyword of a usage. -/
def keyword : Text := "uses:".toList

/-! ## The value and its comment -/

/-- What stands before the first number sign outside quotes, and what stands after it when there is
one.  The two flags say whether the text starts inside single or inside double quotes. -/
def cutComment (single double : Bool) : Text → Text × Option Text
  | [] => ([], none)
  | c :: rest =>
    if c = '#' ∧ !single ∧ !double then ([], some rest)
    else
      let single' := if c = '\'' ∧ !double then !single else single
      let double' := if c = '"' ∧ !single then !double else double
      let (before, after) := cutComment single' double' rest
      (c :: before, after)

/-- The value and the comment of what follows the keyword, both trimmed. -/
def splitValue (t : Text) : Text × Text :=
  let (value, comment) := cutComment false false t
  (Text.trim value, Text.trim (comment.getD []))

/-! ## Quotes -/

/-- What stands between a first and a last character equal to `mark`. -/
def between? (mark : Char) (t : Text) : Option Text :=
  match t with
  | [] => none
  | c :: rest =>
    if c = mark ∧ rest.getLast? = some mark then some rest.dropLast else none

/-- The quotes around a value and the value without them. -/
def unwrap (t : Text) : Quote × Text :=
  match between? '"' t with
  | some inner => (.double, inner)
  | none =>
    match between? '\'' t with
    | some inner => (.single, inner)
    | none => (.bare, t)

/-! ## The action and its reference -/

/-- Whether a value names something other than an action of a repository: an expression, a local
path, an absolute path, or a container image. -/
def isForeign (value : Text) : Bool :=
  Text.contains ['$', '{', '{'] value
    || "./".toList.isPrefixOf value || "../".toList.isPrefixOf value
    || "/".toList.isPrefixOf value || "docker://".toList.isPrefixOf value

/-- The action that a path names: two nonempty parts, and whatever follows them. -/
def action? (path : Text) : Option Action :=
  match path.splitOn '/' with
  | owner :: repo :: more =>
    if owner.isEmpty || repo.isEmpty then none
    else some ⟨owner, repo, if more.isEmpty then none else some (Text.join ['/'] more)⟩
  | _ => none

/-- The action and the reference that a value names. -/
def target? (value : Text) : Option (Action × Text) := do
  if isForeign value then none
  let (path, reference) ← Text.cutLast? '@' value
  if reference.isEmpty then none
  let action ← action? path
  some (action, reference)

/-! ## Lines -/

/-- Whether a character may separate the keyword from its value. -/
def isSeparator (c : Char) : Bool := c = ' ' || c = '\t'

/-- The usage on a line, as the first line of a file. -/
def parse? (line : Text) : Option Usage := do
  let (indent, after) ← Text.cut? keyword line
  let (value, comment) := splitValue (Text.trim (after.dropWhile isSeparator))
  if value.isEmpty then none
  let (quote, value) := unwrap value
  let (action, reference) ← target? value
  some {
    line := 0
    indent
    separator := after.takeWhile isSeparator
    quote
    action
    reference := Text.lowercase reference
    comment
  }

/-- The line of a usage with another reference and another comment. -/
def render (u : Usage) (reference comment : Text) : Text :=
  let value := u.quote.wrap (u.action.fullPath ++ '@' :: Text.lowercase reference)
  let separator := if u.separator.isEmpty then [' '] else u.separator
  let line := u.indent ++ keyword ++ separator ++ value
  if comment.isEmpty then line else line ++ " # ".toList ++ comment

end Usage

end PinnedActions
