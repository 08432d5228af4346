import PinnedActions.Text.Numeral

/-!
# A place in a YAML text

Layout matters in YAML, so a reader has to know where it is.  A `Cursor` is the text that is left,
with the number of bytes passed, the line and the column.  Bytes are those of UTF-8, and columns
are counted in characters.  A line ends at a line feed, a
carriage return, the two together, a next-line character, or one of the two Unicode separators.
-/

set_option autoImplicit false

namespace PinnedActions

namespace Yaml

/-- What is left of a text, and where that begins. -/
structure Cursor where
  rest : Text
  /-- The size of what was passed. -/
  offset : Nat
  line : Nat
  column : Nat

/-- Whether a character ends a line. -/
def isBreak (c : Char) : Bool :=
  c = '\r' || c = '\n' || c = '\u0085' || c = '\u2028' || c = '\u2029'

/-- Whether a character is a space or a tab. -/
def isWhite (c : Char) : Bool := c = ' ' || c = '\t'

/-- Whether a character may stand in the name of an anchor, a tag handle or a directive. -/
def isNameChar (c : Char) : Bool :=
  Text.isAsciiLetter c || Text.isAsciiDigit c || c = '_' || c = '-'

/-- Whether a character may stand in a YAML text at all. -/
def isPrintable (c : Char) : Bool :=
  let n := c.toNat
  n = 0x09 || n = 0x0A || n = 0x0D || (0x20 ≤ n && n ≤ 0x7E) || n = 0x85
    || (0xA0 ≤ n && n ≤ 0xD7FF) || (0xE000 ≤ n && n ≤ 0xFFFD) || 0x10000 ≤ n

namespace Cursor

/-- The character at a distance. -/
def at? (c : Cursor) (distance : Nat) : Option Char := c.rest[distance]?

/-- The next character. -/
def peek? (c : Cursor) : Option Char := c.rest.head?

/-- Whether a given character stands at a distance. -/
def has (c : Cursor) (distance : Nat) (x : Char) : Bool := c.at? distance = some x

/-- Whether the text ends at a distance. -/
def endsAt (c : Cursor) (distance : Nat) : Bool := (c.at? distance).isNone

/-- Whether the character at a distance ends a line. -/
def breaksAt (c : Cursor) (distance : Nat) : Bool := (c.at? distance).any isBreak

/-- Whether the character at a distance is a space or a tab. -/
def whiteAt (c : Cursor) (distance : Nat) : Bool := (c.at? distance).any isWhite

/-- Whether a word ends at a distance: by white space, by a line break or with the text. -/
def gapAt (c : Cursor) (distance : Nat) : Bool :=
  c.endsAt distance || c.breaksAt distance || c.whiteAt distance

/-- Whether a line, or the text, ends here. -/
def atLineEnd (c : Cursor) : Bool := c.endsAt 0 || c.breaksAt 0

/-- The cursor after the next character, which is not a line break. -/
def skip (c : Cursor) : Cursor :=
  match c.rest with
  | [] => c
  | x :: rest => ⟨rest, c.offset + x.utf8Size, c.line, c.column + 1⟩

/-- The number of bytes of a text. -/
def size (t : Text) : Nat := (t.map Char.utf8Size).foldr (· + ·) 0

/-- The cursor after a number of characters, none of which is a line break. -/
def skipMany (c : Cursor) (n : Nat) : Cursor :=
  ⟨c.rest.drop n, c.offset + size (c.rest.take n), c.line, c.column + n⟩

/-- The cursor after a line break, and what the break contributes to a scalar. -/
def takeBreak (c : Cursor) : Text × Cursor :=
  match c.rest with
  | '\r' :: '\n' :: rest => (['\n'], ⟨rest, c.offset + 2, c.line + 1, 0⟩)
  | b :: rest =>
    (if b = '\u2028' ∨ b = '\u2029' then [b] else ['\n'],
      ⟨rest, c.offset + b.utf8Size, c.line + 1, 0⟩)
  | [] => ([], c)

/-- The cursor after a line break. -/
def skipBreak (c : Cursor) : Cursor := c.takeBreak.2

/-- The characters of a class at the front, and the cursor after them. -/
def takeWhile (c : Cursor) (p : Char → Bool) : Text × Cursor :=
  let taken := c.rest.takeWhile p
  (taken, c.skipMany taken.length)

/-- The cursor after spaces and tabs. -/
def skipWhite (c : Cursor) : Cursor := (c.takeWhile isWhite).2

/-- The cursor at the end of the line when a comment stands here, and unchanged otherwise. -/
def skipComment (c : Cursor) : Cursor :=
  if c.has 0 '#' then (c.takeWhile fun x => !isBreak x).2 else c

/-- Whether a line starts here that marks the start or the end of a document. -/
def atDocumentMark (c : Cursor) : Bool :=
  c.column = 0 && (['-', '-', '-'].isPrefixOf c.rest || ['.', '.', '.'].isPrefixOf c.rest)
    && c.gapAt 3

end Cursor

end Yaml

end PinnedActions
