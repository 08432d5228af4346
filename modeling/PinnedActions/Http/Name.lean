import PinnedActions.Http.Name.Label

/-!
# Names of hosts

A name of a host has one written form, in ASCII and in lowercase, whatever its spelling.  Every
character gives way to its image, the text is composed, and each label is written by itself.  If one
label has characters that are written from right to left, all labels have to keep their direction.
-/

set_option autoImplicit false

namespace PinnedActions

namespace Name

/-- Whether a name is written with ASCII characters alone and has no label in Punycode. -/
def isSimple (name : Text) : Bool :=
  name.all Punycode.isAscii
    && (name.splitOn '.').all fun label => !Label.mark.isPrefixOf (label.map Text.asciiLower)

/-- The labels of a name. -/
def labels? (name : Text) : Option (List Label) := do
  let t := Text.composed (← name.mapM image?).flatten
  let labels ← (t.splitOn '.').mapM Label.ofText?
  if labels.any (Text.hasRightToLeft ·.spelling) && !labels.all (Text.keepsDirection ·.spelling) then
    none
  return labels

/-- The written form of a name. -/
def written? (name : Text) : Option Text :=
  if isSimple name then some (name.map Text.asciiLower)
  else (labels? name).map fun labels => Text.join ['.'] (labels.map Label.written)

end Name

end PinnedActions
