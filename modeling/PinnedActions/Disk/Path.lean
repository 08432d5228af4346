import PinnedActions.Text.Utf8

/-!
# Paths

A path is a sequence of bytes, but what it means is the sequence of its **parts**.  Slashes separate
the parts; several slashes in a row count as one, a single dot says nothing except at the very start of
a relative path, and two dots go up.  Paths are compared part by part, so `a/b` stands before `a-b`
although a slash stands after a minus sign.

The name of a file need not be a text.  A path that is not one can be shown, with a replacement
character for what is no text in it, but it cannot be told in full.

* `Path.parts` — the parts of a path.
* `Path.before` — the order of paths.
* `Path.fileName?` and `Path.extension?` — the last part and its ending.
* `Path.join` and `Path.relativeTo` — one path below another.
* `Path.shown` — a path as it is shown to a reader.
-/

set_option autoImplicit false

namespace PinnedActions

namespace Path

/-- What stands between the parts of a path. -/
def slash : UInt8 := 0x2F

/-- What stands before the ending of a name. -/
def dot : UInt8 := 0x2E

end Path

/-- A part of a path. -/
inductive Part where
  /-- The root directory. -/
  | root
  /-- The directory that a relative path starts from, when that is said. -/
  | here
  /-- The directory above. -/
  | up
  | named (name : Bytes)
deriving DecidableEq, Repr

namespace Part

/-- Parts of different sorts stand in this order. -/
def rank : Part → Nat
  | root => 0
  | here => 1
  | up => 2
  | named _ => 3

/-- Whether a part stands strictly before another.  Names are compared byte by byte. -/
def before (a b : Part) : Bool :=
  match a, b with
  | named m, named n => decide (m < n)
  | a, b => a.rank < b.rank

/-- How a part is written. -/
def toBytes : Part → Bytes
  | root => [Path.slash]
  | here => [Path.dot]
  | up => [Path.dot, Path.dot]
  | named name => name

end Part

namespace Path

/-! ## Parts -/

/-- The part that stands between slashes, when something does. -/
def partOf? (piece : Bytes) : Option Part :=
  if piece = [] ∨ piece = [dot] then none
  else if piece = [dot, dot] then some .up
  else some (.named piece)

/-- The parts of a path. -/
def parts (path : Bytes) : List Part :=
  let pieces := path.splitOn slash
  let start :=
    if path.head? = some slash then [Part.root]
    else if pieces.head? = some [dot] then [Part.here]
    else []
  start ++ pieces.filterMap partOf?

/-- A path with the given parts. -/
def ofParts : List Part → Bytes
  | [] => []
  | .root :: rest => slash :: [slash].intercalate (rest.map Part.toBytes)
  | parts => [slash].intercalate (parts.map Part.toBytes)

/-! ## Order -/

/-- Whether a sequence of parts stands strictly before another: the first difference decides. -/
def partsBefore : List Part → List Part → Bool
  | _, [] => false
  | [], _ :: _ => true
  | a :: as, b :: bs => if a = b then partsBefore as bs else Part.before a b

/-- Whether a path stands strictly before another. -/
def before (a b : Bytes) : Bool := partsBefore (parts a) (parts b)

/-! ## The last part -/

/-- The name at the end of a path. -/
def fileName? (path : Bytes) : Option Bytes :=
  match (parts path).getLast? with
  | some (.named name) => some name
  | _ => none

/-- The ending of the name at the end of a path: what follows its last dot, unless nothing stands
before that dot. -/
def extension? (path : Bytes) : Option Bytes := do
  let name ← fileName? path
  let (stem, ending) ← Text.cutLast? dot name
  if stem.isEmpty then none else some ending

/-! ## One path below another -/

/-- A path below a directory.  An absolute path stays as it is. -/
def join (directory path : Bytes) : Bytes :=
  if path.head? = some slash then path
  else match directory.getLast? with
    | none => path
    | some last => if last = slash then directory ++ path else directory ++ slash :: path

/-- The parts of the directory that a path is in; `none` when it is a root or has no parts. -/
def parent? (parts : List Part) : Option (List Part) :=
  match parts.getLast? with
  | none | some .root => none
  | some _ => some parts.dropLast

/-- The path as seen from a directory, and the path itself when it is not below it. -/
def relativeTo (directory path : Bytes) : Bytes :=
  match (parts directory).isPrefixOf? (parts path) with
  | some rest => ofParts rest
  | none => path

/-! ## Showing -/

/-- A path as it is shown.  What is no text in it is replaced. -/
def shown (path : Bytes) : Text := Utf8.decodeLossy path

end Path

end PinnedActions
