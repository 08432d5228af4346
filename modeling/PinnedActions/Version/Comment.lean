import PinnedActions.Text.Blank

/-!
# The version in a comment

The comment after a reference starts with the version that the reference stands for; whatever
follows is a remark that nobody interprets.  `Comment.split` takes the two apart and `Comment.join`
puts them together again, with one space between them.
-/

set_option autoImplicit false

namespace PinnedActions

namespace Comment

/-- The first word of a comment, and the trimmed rest. -/
def split (comment : Text) : Text × Text :=
  let comment := Text.trim comment
  (Text.firstWord comment, Text.trim (Text.afterFirstWord comment))

/-- A comment made of a version and a remark.  An empty part leaves no space behind. -/
def join (version remark : Text) : Text :=
  let remark := Text.trim remark
  if version.isEmpty then remark
  else if remark.isEmpty then version
  else version ++ ' ' :: remark

end Comment

end PinnedActions
