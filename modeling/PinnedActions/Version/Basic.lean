import PinnedActions.Text.Digit
import PinnedActions.Text.Lowercase

/-!
# Versions

A **version spec** is what somebody writes after a `uses:` reference to say which version is meant:
`v4`, `1.2`, `v1.2.3-rc.1`, or the literal name of a tag.  `Version.classify` recognises how precise
it is and brings it into a normal form; `Version.satisfies` says which tags satisfy it.

* `Kind` — how precise a spec is.
* `Version.classify` — trims, recognises the lowercase form, and puts a `v` in front of a number.  A
  spec that is not recognised keeps its letter case, because it is the name of a reference.
* `Version.satisfies` — an exact spec is satisfied by the tag that spells the same number, a shorter
  one also by every tag that continues it after a dot, and a literal one by its own name.
* `Version.isFullHash` — a reference that is a commit already.
-/

set_option autoImplicit false

namespace PinnedActions

namespace Version

/-- How precise a version spec is. -/
inductive Kind where
  /-- Three numbers, with or without a suffix for a pre-release or a build. -/
  | exact
  /-- Two numbers. -/
  | minor
  /-- One number. -/
  | major
  /-- Anything else, taken literally. -/
  | literal
deriving DecidableEq, Repr

/-- The word for a kind. -/
def Kind.name : Kind → Text
  | .exact => "exact".toList
  | .minor => "minor".toList
  | .major => "major".toList
  | .literal => "unknown".toList

/-! ## Commit hashes -/

/-- Whether a reference is a full commit hash: forty digits of base sixteen, in either case. -/
def isFullHash (reference : Text) : Bool :=
  reference.length == 40 && reference.all Text.isHexDigit

/-! ## Recognition -/

/-- Whether a character may stand in the suffix of an exact version, after its first. -/
def isSuffixChar (c : Char) : Bool :=
  Text.isAsciiDigit c || Text.isAsciiLetter c || c = '_' || c = '.' || c = '-'

/-- Whether a text is the suffix of an exact version: a minus or plus sign and at least one more
character. -/
def isSuffix : Text → Bool
  | c :: rest => (c = '-' || c = '+') && !rest.isEmpty && rest.all isSuffixChar
  | [] => false

/-- What follows the number at the front; `none` when the text does not start with a digit. -/
def afterNumber? : Text → Option Text
  | c :: rest => if Text.isDigit c then some (rest.dropWhile Text.isDigit) else none
  | [] => none

/-- What follows a dot at the front. -/
def afterDot? : Text → Option Text
  | '.' :: rest => some rest
  | _ => none

/-- The kind of a spec without a leading `v`. -/
def kindOfNumbers (t : Text) : Kind :=
  match afterNumber? t with
  | none => .literal
  | some [] => .major
  | some rest =>
    match afterDot? rest >>= afterNumber? with
    | none => .literal
    | some [] => .minor
    | some rest =>
      match afterDot? rest >>= afterNumber? with
      | none => .literal
      | some [] => .exact
      | some suffix => if isSuffix suffix then .exact else .literal

/-- The kind of a spec that is trimmed and in lowercase. -/
def kindOf (t : Text) : Kind := kindOfNumbers (Text.dropOne 'v' t)

/-! ## The normal form -/

/-- The version with a small `v` in front, when it starts with a `v` in either case or with an ASCII
digit. -/
def withLeadingV : Text → Text
  | [] => []
  | c :: rest =>
    if c = 'v' ∨ c = 'V' then 'v' :: rest
    else if Text.isAsciiDigit c then 'v' :: c :: rest
    else c :: rest

/-- The kind of a spec and its normal form. -/
def classify (spec : Text) : Kind × Text :=
  let spec := Text.trim spec
  let lower := Text.lowercase spec
  match kindOf lower with
  | .literal => (.literal, spec)
  | kind => (kind, withLeadingV lower)

/-! ## Satisfaction -/

/-- A version in lowercase and without its leading `v`. -/
def digitsOf (t : Text) : Text := Text.dropOne 'v' (Text.lowercase t)

/-- Whether a tag spells the number `wanted`, or continues it after a dot. -/
def continues (wanted tag : Text) : Bool :=
  match wanted.isPrefixOf? tag with
  | some [] => true
  | some (c :: _) => c = '.'
  | none => false

/-- Whether a tag satisfies a spec of a given kind and normal form. -/
def satisfies (tag normalized : Text) : Kind → Bool
  | .exact => digitsOf tag == digitsOf normalized
  | .minor | .major => continues (digitsOf normalized) (digitsOf tag)
  | .literal => Text.lowercase tag == Text.lowercase normalized

end Version

end PinnedActions
