import PinnedActions.Json.Basic
import PinnedActions.Text.Quoted

/-!
# What the catalog answers

The answers of the catalog are JSON values; this module reads the few facts that matter out of them.

* `GitObject` — what a tag or a tag object points to: a hash and a type.
* `Release` and `Tag` — entries of the two listings.

A record may be given as an object, whose other members are ignored, or as an array with its fields
in order.  Reading an object goes through the members that are there, in the order of their keys,
and only then looks for fields that are missing.  An array has to be long enough for the fields that
may not be absent, and no longer than the record.  A `Mismatch` says what was wrong first.
-/

set_option autoImplicit false

namespace PinnedActions

/-- Why a JSON value is not the record that was expected. -/
inductive Mismatch where
  | missingField (name : Text)
  | wrongType (found wanted : Text)
  /-- An array of `given` items, for a record called `record` with `size` fields. -/
  | tooShort (given : Nat) (record : Text) (size : Nat)
  | tooLong (given : Nat)
deriving DecidableEq, Repr

/-- The wording of a mismatch. -/
def Mismatch.message : Mismatch → Text
  | .missingField name => "missing field `".toList ++ name ++ ['`']
  | .wrongType found wanted => "invalid type: ".toList ++ found ++ ", expected ".toList ++ wanted
  | .tooShort given record size =>
    "invalid length ".toList ++ Text.decimal given ++ ", expected struct ".toList ++ record ++
      " with ".toList ++ Text.decimal size ++
      (if size = 1 then " element".toList else " elements".toList)
  | .tooLong given =>
    "invalid length ".toList ++ Text.decimal given ++ ", expected fewer elements in array".toList

/-! ## Reading simple values -/

/-- A JSON value as a message names it. -/
def Json.describe : Json → Text
  | .null => "null".toList
  | .bool true => "boolean `true`".toList
  | .bool false => "boolean `false`".toList
  | .int n => "integer `".toList ++ Text.signedDecimal n ++ ['`']
  | .real x => "floating point `".toList ++ x.toText ++ ['`']
  | .str s => "string ".toList ++ Text.quoted s
  | .arr _ => "sequence".toList
  | .obj _ => "map".toList

namespace Payload

/-- The refusal of a value of another type. -/
def refuse {α : Type} (v : Json) (wanted : String) : Except Mismatch α :=
  .error (.wrongType v.describe wanted.toList)

/-- A string. -/
def text : Json → Except Mismatch Text
  | .str s => .ok s
  | v => refuse v "a string"

/-- A boolean. -/
def bool : Json → Except Mismatch Bool
  | .bool b => .ok b
  | v => refuse v "a boolean"

/-- A list, all of whose items are read alike. -/
def list {α : Type} (item : Json → Except Mismatch α) : Json → Except Mismatch (List α)
  | .arr items => items.mapM item
  | v => refuse v "a sequence"

/-- A value that may be null. -/
def optional {α : Type} (value : Json → Except Mismatch α) : Json → Except Mismatch (Option α)
  | .null => .ok none
  | v => (value v).map some

/-! ## Reading records -/

/-- Goes through the members of an object in their order and lets each one change what has been read
so far. -/
def members {σ : Type} (member : Text → Json → σ → Except Mismatch σ) :
    List (Text × Json) → σ → Except Mismatch σ
  | [], s => .ok s
  | (key, v) :: rest, s => member key v s >>= members member rest

/-- A field that has to be there. -/
def required {α : Type} (name : String) (field : Option α) : Except Mismatch α :=
  match field with
  | some a => .ok a
  | none => .error (.missingField name.toList)

/-- The refusal of an array that is longer than a record of `size` fields. -/
def checkLength (items : List Json) (size : Nat) : Except Mismatch Unit :=
  if size < items.length then .error (.tooLong items.length) else .ok ()

/-- The item of an array for a field that has to be there. -/
def item {α : Type} (record : String) (size : Nat) (items : List Json) (i : Nat)
    (value : Json → Except Mismatch α) : Except Mismatch α :=
  match items[i]? with
  | some v => value v
  | none => .error (.tooShort items.length record.toList size)

/-- The item of an array for a field that may be absent. -/
def itemOr {α : Type} (default : α) (items : List Json) (i : Nat)
    (value : Json → Except Mismatch α) : Except Mismatch α :=
  match items[i]? with
  | some v => value v
  | none => .ok default

end Payload

/-! ## The records -/

/-- What a tag, or a tag object, points to. -/
structure GitObject where
  hash : Text
  type : Text
deriving DecidableEq, Repr

/-- An entry of the listing of releases. -/
structure Release where
  tagName : Text
  prerelease : Bool
deriving DecidableEq, Repr

/-- An entry of the listing of tags. -/
structure Tag where
  name : Text
  commit : Option Text
deriving DecidableEq, Repr

namespace Payload

/-- An object with a hash and a type. -/
def gitObject : Json → Except Mismatch GitObject
  | .obj ms => do
    let (hash, type) ← members (fun key v (hash, type) => do
      if key = "sha".toList then return (some (← text v), type)
      else if key = "type".toList then return (hash, some (← text v))
      else return (hash, type)) ms (none, none)
    return ⟨← required "sha" hash, ← required "type" type⟩
  | .arr items => do
    let hash ← item "GitObject" 2 items 0 text
    let type ← item "GitObject" 2 items 1 text
    checkLength items 2
    return ⟨hash, type⟩
  | v => refuse v "struct GitObject"

/-- The answer about a tag or a tag object: what it points to. -/
def gitReference : Json → Except Mismatch GitObject
  | .obj ms => do
    let object ← members (fun key v object => do
      if key = "object".toList then return some (← gitObject v) else return object) ms none
    required "object" object
  | .arr items => do
    let object ← item "GitRef" 1 items 0 gitObject
    checkLength items 1
    return object
  | v => refuse v "struct GitRef"

/-- A release.  Without a tag name it has the empty one, and unless it says so it is no
pre-release. -/
def release : Json → Except Mismatch Release
  | .obj ms => do
    members (fun key v r => do
      if key = "tag_name".toList then return { r with tagName := ← text v }
      else if key = "prerelease".toList then return { r with prerelease := ← bool v }
      else return r) ms ⟨[], false⟩
  | .arr items => do
    let tagName ← itemOr [] items 0 text
    let prerelease ← itemOr false items 1 bool
    checkLength items 2
    return ⟨tagName, prerelease⟩
  | v => refuse v "struct Release"

/-- The commit of an entry of the listing of tags: its hash. -/
def tagCommit : Json → Except Mismatch Text
  | .obj ms => do
    let hash ← members (fun key v hash => do
      if key = "sha".toList then return some (← text v) else return hash) ms none
    required "sha" hash
  | .arr items => do
    let hash ← item "TagCommit" 1 items 0 text
    checkLength items 1
    return hash
  | v => refuse v "struct TagCommit"

/-- An entry of the listing of tags.  Its commit may be absent or null. -/
def tag : Json → Except Mismatch Tag
  | .obj ms => do
    let (name, commit) ← members (fun key v (name, commit) => do
      if key = "name".toList then return (some (← text v), commit)
      else if key = "commit".toList then return (name, ← optional tagCommit v)
      else return (name, commit)) ms (none, none)
    return ⟨← required "name" name, commit⟩
  | .arr items => do
    let name ← item "Tag" 2 items 0 text
    let commit ← itemOr none items 1 (optional tagCommit)
    checkLength items 2
    return ⟨name, commit⟩
  | v => refuse v "struct Tag"

/-- A page of the releases. -/
def releases : Json → Except Mismatch (List Release) := list release

/-- A page of the tags. -/
def tags : Json → Except Mismatch (List Tag) := list tag

end Payload

end PinnedActions
