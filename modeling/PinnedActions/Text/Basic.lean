/-!
# Text as a sequence of characters

Workflow lines, references, comments and messages are all **texts**: finite sequences of Unicode
scalar values.  Working on the characters themselves, rather than on an encoding of them,
makes every cut a cut between characters, so the reader of a line and the writer of a line can be
compared by equations between lists.

* `Text.cut?` splits at the first occurrence of a text.
* `Text.cutLast?` splits at the last occurrence of a mark.
* `Text.endsWith` and `Text.dropEnd?` look at the other end.
* `Text.before` is the order of code points, which is also the order of UTF-8 bytes.
-/

set_option autoImplicit false

namespace PinnedActions

/-- A sequence of Unicode scalar values. -/
abbrev Text := List Char

namespace Text

/-! ## Cutting -/

/-- What stands before and after the first occurrence of `needle`. -/
def cut? (needle : Text) : Text → Option (Text × Text)
  | [] => if needle.isEmpty then some ([], []) else none
  | c :: rest =>
    match needle.isPrefixOf? (c :: rest) with
    | some after => some ([], after)
    | none => (cut? needle rest).map fun (before, after) => (c :: before, after)

/-- Whether `needle` occurs somewhere in the text. -/
def contains (needle t : Text) : Bool := (cut? needle t).isSome

/-- What stands before and after the last occurrence of `mark`, be it in a text or in another
sequence. -/
def cutLast? {α : Type} [DecidableEq α] (mark : α) : List α → Option (List α × List α)
  | [] => none
  | c :: rest =>
    match cutLast? mark rest with
    | some (before, after) => some (c :: before, after)
    | none => if c = mark then some ([], rest) else none

/-- The text without the ending `suffix`, when it ends so. -/
def dropEnd? (suffix t : Text) : Option Text := suffix.isSuffixOf? t

/-- The text without leading characters of a class. -/
def dropLeading (p : Char → Bool) (t : Text) : Text := t.dropWhile p

/-- The text without trailing characters of a class. -/
def dropTrailing (p : Char → Bool) (t : Text) : Text := (t.reverse.dropWhile p).reverse

/-- The text without a first character `c`, and the text itself when it starts otherwise. -/
def dropOne (c : Char) : Text → Text
  | [] => []
  | d :: rest => if d = c then rest else d :: rest

/-! ## Order and letter case within ASCII -/

/-- Strict order by code point, the first difference deciding. -/
def before (a b : Text) : Bool := decide (a < b)

/-- The lowercase form of an ASCII capital; every other character is itself. -/
def asciiLower (c : Char) : Char :=
  if 'A' ≤ c ∧ c ≤ 'Z' then Char.ofNat (c.toNat + 32) else c

/-- Equality up to the case of ASCII letters. -/
def sameIgnoringCase (a b : Text) : Bool := a.map asciiLower == b.map asciiLower

/-- Whether a character is one of the ten ASCII digits. -/
def isAsciiDigit (c : Char) : Bool := '0' ≤ c && c ≤ '9'

/-- Whether a character is an ASCII hexadecimal digit, in either case. -/
def isHexDigit (c : Char) : Bool :=
  isAsciiDigit c || ('a' ≤ c && c ≤ 'f') || ('A' ≤ c && c ≤ 'F')

/-- Whether a character is an ASCII letter. -/
def isAsciiLetter (c : Char) : Bool := ('a' ≤ c && c ≤ 'z') || ('A' ≤ c && c ≤ 'Z')

/-! ## Joining -/

/-- The parts one after the other, with `separator` between neighbours. -/
def join (separator : Text) (parts : List Text) : Text := separator.intercalate parts

/-- The text in quotes of one kind. -/
def between (mark : Char) (t : Text) : Text := mark :: (t ++ [mark])

end Text

end PinnedActions
