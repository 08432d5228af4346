import PinnedActions.Text.Basic

/-!
# Blank characters

A character is **blank** when Unicode gives it the property `White_Space`.  Trimming, the split of
a comment into its first word and the rest, and the check for an empty setting all use this one
class, so a no-break space or an ideographic space separates words just as a space does.  A zero
width space and a byte order mark are not blank.
-/

set_option autoImplicit false

namespace PinnedActions

namespace Text

/-- The ranges of code points with the property `White_Space`. -/
def blankRanges : List (Nat × Nat) :=
  [(0x09, 0x0D), (0x20, 0x20), (0x85, 0x85), (0xA0, 0xA0), (0x1680, 0x1680), (0x2000, 0x200A),
   (0x2028, 0x2029), (0x202F, 0x202F), (0x205F, 0x205F), (0x3000, 0x3000)]

/-- Whether a code point lies in one of the ranges. -/
def inRanges (ranges : List (Nat × Nat)) (n : Nat) : Bool :=
  ranges.any fun (first, last) => first ≤ n && n ≤ last

/-- Whether a character is white space. -/
def isBlank (c : Char) : Bool := inRanges blankRanges c.toNat

/-- The text without leading white space. -/
def trimStart (t : Text) : Text := dropLeading isBlank t

/-- The text without trailing white space. -/
def trimEnd (t : Text) : Text := dropTrailing isBlank t

/-- The text without white space at either end. -/
def trim (t : Text) : Text := trimEnd (trimStart t)

/-- Whether nothing but white space is there. -/
def isBlankText (t : Text) : Bool := t.all isBlank

/-- The longest part at the front without white space. -/
def firstWord (t : Text) : Text := t.takeWhile fun c => !isBlank c

/-- What follows the first word. -/
def afterFirstWord (t : Text) : Text := t.dropWhile fun c => !isBlank c

end Text

end PinnedActions
