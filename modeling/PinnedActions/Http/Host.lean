import PinnedActions.Http.Name
import PinnedActions.Text.Percent

/-!
# Hosts

The host of a URL is a domain name, an address of four bytes, or an address of eight groups in
brackets.  All have one written form: a domain name is in lowercase and in ASCII, an address of four
bytes has its bytes in base ten whatever its spelling was, and an address of eight groups leaves out
the longest run of zeros.

* `Host.parse?` — the written form of a host under a scheme of the web.
* `Host.parseOther?` — the written form of a host under another scheme.
-/

set_option autoImplicit false

namespace PinnedActions

namespace Host

/-! ## Addresses of four bytes -/

/-- The number that a part of an address stands for: base sixteen after `0x`, base eight after `0`,
else base ten. -/
def partNumber? : Text → Option Nat
  | '0' :: 'x' :: digits | '0' :: 'X' :: digits =>
    if digits.isEmpty then some 0 else Text.number? 16 digits
  | '0' :: d :: digits => Text.number? 8 (d :: digits)
  | digits => Text.number? 10 digits

/-- The parts between the dots of a name.  A dot at the very end does not count. -/
def dotted (name : Text) : List Text :=
  let parts := name.splitOn '.'
  if parts.getLast? = some [] then parts.dropLast else parts

/-- Whether the last part of a name is a number, so that the name has to be an address. -/
def endsInNumber (name : Text) : Bool :=
  match (dotted name).getLast? with
  | none => false
  | some part => (!part.isEmpty && part.all Text.isAsciiDigit) || (partNumber? part).isSome

/-- The number that an address stands for.  The last part fills the bytes that are left. -/
def addressNumber? (name : Text) : Option Nat := do
  let numbers ← (dotted name).mapM partNumber?
  let last ← numbers.getLast?
  let front := numbers.dropLast
  if numbers.length ≤ 4 ∧ front.all (· < 256) ∧ last < Nat.pow 256 (5 - numbers.length) then
    some (front.foldl (fun n byte => n * 256 + byte) 0 * Nat.pow 256 (5 - numbers.length) + last)
  else none

/-- An address of four bytes as it is written. -/
def addressText (n : Nat) : Text :=
  Text.join ['.'] ([n / 0x1000000, n / 0x10000 % 256, n / 256 % 256, n % 256].map Text.decimal)

/-! ## Addresses of eight groups -/

/-- A group of at most four digits of base sixteen. -/
def group? (t : Text) : Option Nat := if t.length ≤ 4 then Text.number? 16 t else none

/-- A byte in base ten without leading zeros. -/
def byte? (t : Text) : Option Nat := do
  let n ← Text.number? 10 t
  if n < 256 ∧ Text.decimal n = t then some n else none

/-- The groups at the end of an address, which may be written as four bytes. -/
def lastGroups? (t : Text) : Option (List Nat) :=
  match (t.splitOn '.').mapM byte? with
  | some [a, b, c, d] => some [a * 256 + b, c * 256 + d]
  | _ => (group? t).map fun n => [n]

/-- The groups between colons. -/
def groups? (last? : Text → Option (List Nat)) (t : Text) : Option (List Nat) :=
  if t.isEmpty then some []
  else do
    let pieces := t.splitOn ':'
    return (← pieces.dropLast.mapM group?) ++ (← pieces.getLast? >>= last?)

/-- The eight groups of an address.  Two colons stand once for as many zeros as are missing. -/
def eightGroups? (t : Text) : Option (List Nat) :=
  match Text.cut? "::".toList t with
  | none => (groups? lastGroups? t).filter (·.length = 8)
  | some (before, after) => do
    let left ← groups? (fun t => (group? t).map fun n => [n]) before
    let right ← groups? lastGroups? after
    if left.length + right.length < 8 then
      some (left ++ List.replicate (8 - left.length - right.length) 0 ++ right)
    else none

/-- Groups with colons between them. -/
def groupsText (groups : List Nat) : Text := Text.join [':'] (groups.map Text.hexadecimal)

/-- Eight groups as they are written: the longest run of zeros, the first of several, is left out
when it has more than one. -/
def eightGroupsText (groups : List Nat) : Text :=
  let runs := (List.range groups.length).map fun i =>
    ((groups.drop i).takeWhile (· == 0)).length
  let longest := runs.foldl max 0
  if longest < 2 then groupsText groups
  else
    let start := runs.idxOf longest
    groupsText (groups.take start) ++ "::".toList ++ groupsText (groups.drop (start + longest))

/-- A host in brackets. -/
def bracketed? (t : Text) : Option Text := do
  let inner ← Text.dropEnd? [']'] t
  return '[' :: (eightGroupsText (← eightGroups? inner) ++ [']'])

/-! ## Names -/

/-- Whether a character ends or confuses a URL when it stands in its host. -/
def isDelimiter (c : Char) : Bool :=
  c.toNat = 0 || "\t\n\r #/:<>?@[\\]^|".toList.contains c

/-- Whether a character may not stand in a domain name. -/
def isForbidden (c : Char) : Bool :=
  isDelimiter c || c.toNat < 0x20 || c = '%' || c.toNat = 0x7F

/-- A name with what its percent signs stand for. -/
def unescape (name : Text) : Text :=
  if '%' ∈ name then Utf8.decodeLossy (Percent.decode name) else name

/-- The written form of a host under a scheme of the web. -/
def parse? : Text → Option Text
  | '[' :: rest => bracketed? rest
  | t => do
    let name ← Name.written? (unescape t)
    if name.isEmpty || name.any isForbidden then none
    else if endsInNumber name then (addressNumber? name).map addressText
    else some name

/-- The written form of a host under another scheme. -/
def parseOther? : Text → Option Text
  | '[' :: rest => bracketed? rest
  | t =>
    if t.any isDelimiter then none
    else some (Percent.encode (fun c => 0x20 ≤ c.toNat && c.toNat < 0x7F) t)

end Host

end PinnedActions
