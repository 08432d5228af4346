import PinnedActions.Json.Basic

/-!
# Printing JSON

`Json.compact` writes a value on one line without spaces.  `Json.pretty` puts every item and member
on a line of its own, two spaces deeper than what encloses it; an empty array or object stays on one
line.
-/

set_option autoImplicit false

namespace PinnedActions

namespace Json

/-- How one character stands in a JSON string: quotes, backslashes and control characters are
escaped, and nothing else is. -/
def escapeChar (c : Char) : Text :=
  if c = '"' then ['\\', '"']
  else if c = '\\' then ['\\', '\\']
  else if c = '\n' then ['\\', 'n']
  else if c = '\r' then ['\\', 'r']
  else if c = '\t' then ['\\', 't']
  else if c.toNat = 8 then ['\\', 'b']
  else if c.toNat = 12 then ['\\', 'f']
  else if c.toNat < 32 then
    ['\\', 'u', '0', '0', Text.hexDigit (c.toNat / 16), Text.hexDigit c.toNat]
  else [c]

/-- A JSON string. -/
def printString (s : Text) : Text := Text.between '"' (s.flatMap escapeChar)

mutual

/-- A value on one line, without spaces. -/
def compact : Json → Text
  | .null => "null".toList
  | .bool true => "true".toList
  | .bool false => "false".toList
  | .int n => Text.signedDecimal n
  | .real x => x.toText
  | .str s => printString s
  | .arr items => '[' :: (Text.join [','] (compactItems items) ++ [']'])
  | .obj members => '{' :: (Text.join [','] (compactMembers members) ++ ['}'])

/-- The items of an array, each on one line. -/
def compactItems : List Json → List Text
  | [] => []
  | v :: rest => compact v :: compactItems rest

/-- The members of an object, each on one line. -/
def compactMembers : List (Text × Json) → List Text
  | [] => []
  | (k, v) :: rest => (printString k ++ ':' :: compact v) :: compactMembers rest

end

/-- The break between two lines, with the indent of the second. -/
def breakTo (depth : Nat) : Text := '\n' :: List.replicate (2 * depth) ' '

/-- Items or members between brackets, one on each line. -/
def bracketed (opening closing : Char) (depth : Nat) (parts : List Text) : Text :=
  if parts.isEmpty then [opening, closing]
  else opening :: (parts.map (breakTo (depth + 1) ++ ·) |> Text.join [',']) ++
    breakTo depth ++ [closing]

mutual

/-- A value over several lines, at a given depth. -/
def prettyAt (depth : Nat) : Json → Text
  | .null => compact .null
  | .bool b => compact (.bool b)
  | .int n => compact (.int n)
  | .real x => compact (.real x)
  | .str s => compact (.str s)
  | .arr items => bracketed '[' ']' depth (prettyItems (depth + 1) items)
  | .obj members => bracketed '{' '}' depth (prettyMembers (depth + 1) members)

/-- The items of an array, at a given depth. -/
def prettyItems (depth : Nat) : List Json → List Text
  | [] => []
  | v :: rest => prettyAt depth v :: prettyItems depth rest

/-- The members of an object, at a given depth. -/
def prettyMembers (depth : Nat) : List (Text × Json) → List Text
  | [] => []
  | (k, v) :: rest => (printString k ++ ':' :: ' ' :: prettyAt depth v) :: prettyMembers depth rest

end

/-- A value over several lines. -/
def pretty (v : Json) : Text := prettyAt 0 v

end Json

end PinnedActions
