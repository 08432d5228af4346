import PinnedActions.Disk.Discovery
import PinnedActions.Settings.Basic
import PinnedActions.Yaml.Node

/-!
# The settings file

The settings of a project stand in a YAML file.  It holds a mapping, or nothing at all.  Three keys
mean something, each may stand once, and what is missing has its default; other keys are ignored.

* `api_url` is any scalar, taken as it is.
* `timeout_secs` is an integer that is not negative, written plainly in base ten, or in another base
  with `0x`, `0o` or `0b`.
* `ignore` is a sequence of scalars; when its value is left out it is empty.
-/

set_option autoImplicit false

namespace PinnedActions

namespace Settings

/-! ## Values -/

/-- The text of a scalar. -/
def text? : Yaml.Node → Option Text
  | .scalar t _ _ => some t
  | _ => none

/-- Whether a node is a value that was left out. -/
def isLeftOut : Yaml.Node → Bool
  | .scalar [] .plain _ => true
  | _ => false

/-- The texts of a sequence of scalars. -/
def texts? : Yaml.Node → Option (List Text)
  | .sequence items => items.mapM text?
  | n => if isLeftOut n then some [] else none

/-- Whether a text is a number with leading zeros. -/
def hasLeadingZeros : Text → Bool
  | '0' :: rest => !rest.isEmpty && rest.all Text.isAsciiDigit
  | _ => false

/-- The number after a mark for its base. -/
def markedNumber? (t : Text) : Option Nat :=
  match t with
  | '0' :: 'x' :: digits => Text.number? 16 digits
  | '0' :: 'o' :: digits => Text.number? 8 digits
  | '0' :: 'b' :: digits => Text.number? 2 digits
  | _ => none

/-- The number that a text stands for, a plus sign at its front not counted. -/
def natural? (t : Text) : Option Nat :=
  let t := Text.dropOne '+' t
  let n := match markedNumber? t with
    | some n => some n
    | none => if hasLeadingZeros t then none else Text.number? 10 t
  n.filter (· < Nat.pow 2 64)

/-- The tag of integers. -/
def integerTag : Text := "tag:yaml.org,2002:int".toList

/-- The number that a scalar stands for.  It is written plainly, or as a literal block that is tagged
as an integer. -/
def number? : Yaml.Node → Option Nat
  | .scalar t .plain _ => natural? t
  | .scalar t .literal tag => if tag = some integerTag then natural? t else none
  | _ => none

/-! ## The mapping -/

/-- What was read of a mapping so far. -/
structure Draft where
  apiUrl : Option Text
  timeoutSeconds : Option Nat
  ignore : Option (List Text)

/-- A draft with one more pair.  A key that means something must not have stood before. -/
def Draft.add (d : Draft) (pair : Yaml.Node × Yaml.Node) : Option Draft := do
  let key ← text? pair.1
  if key = "api_url".toList then
    if d.apiUrl.isSome then none else some { d with apiUrl := some (← text? pair.2) }
  else if key = "timeout_secs".toList then
    if d.timeoutSeconds.isSome then none
    else some { d with timeoutSeconds := some (← number? pair.2) }
  else if key = "ignore".toList then
    if d.ignore.isSome then none else some { d with ignore := some (← texts? pair.2) }
  else some d

/-- The settings of a draft. -/
def Draft.finish (d : Draft) : Settings :=
  ⟨d.apiUrl.getD Settings.default.apiUrl,
    d.timeoutSeconds.getD Settings.default.timeoutSeconds,
    d.ignore.getD Settings.default.ignore⟩

/-- The settings that a node stands for. -/
def ofNode? : Yaml.Node → Option Settings
  | .mapping pairs => (pairs.foldlM Draft.add ⟨none, none, none⟩).map Draft.finish
  | n => if isLeftOut n then some Settings.default else none

/-- The settings in a text.  A text without a document says nothing. -/
def ofText? (t : Text) : Option Settings :=
  if Text.isBlankText t then some Settings.default
  else do
    match ← Yaml.document? t with
    | none => some Settings.default
    | some n => ofNode? n

/-- The settings of a project.  A project without the file says nothing. -/
def load (d : Disk) (root : Bytes) : Except Failure Settings :=
  let path := Discovery.settingsPath root
  if !d.exists? path then .ok Settings.default
  else match d.readText path with
    | .error e => .error (.disk e)
    | .ok t =>
      match ofText? t with
      | some s => .ok s
      | none => .error .settings

end Settings

end PinnedActions
