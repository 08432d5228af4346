import PinnedActions.Text.CaseTable

/-!
# Lowercase text

`Text.lowercase` is the full Unicode lowercase mapping.  Each character goes to its own lowercase
form, with two exceptions.

* A capital I with a dot above becomes two characters, a plain i and a combining dot.
* A capital sigma becomes a final sigma at the end of a word, and an ordinary small sigma anywhere
  else.  It ends a word when the nearest character before it that is not case-ignorable is a cased
  letter, and the nearest such character after it is not.

Because of the second rule the mapping looks at the neighbours of a character, and the lowercase
form of a text is in general not the lowercase form of its parts.  A character that is neither
cased nor case-ignorable, such as a slash, separates: nothing across it is looked at.
-/

set_option autoImplicit false

namespace PinnedActions

namespace Text

/-! ## Single characters -/

/-- The lowercase form that one run gives to a code point, when the point belongs to the run. -/
def lowerInRun (n : Nat) : Nat × Nat × Nat × Nat → Option Nat
  | (first, last, step, image) =>
    if first ≤ n ∧ n ≤ last ∧ (n - first) % step = 0 then some (image + (n - first)) else none

/-- The lowercase form of a character taken by itself.  The two characters with a rule of their own
are left alone here. -/
def lowerChar (c : Char) : Char :=
  if c.toNat < 0x80 then asciiLower c
  else match lowercaseRuns.findSome? (lowerInRun c.toNat) with
    | some n => Char.ofNat n
    | none => c

/-- Whether a character is a letter with case. -/
def isCased (c : Char) : Bool := inRanges casedRanges c.toNat

/-- Whether a character is passed over when the neighbours of a sigma are looked at. -/
def isCaseIgnorable (c : Char) : Bool := inRanges caseIgnorableRanges c.toNat

/-! ## Texts -/

/-- Whether the first character that is not case-ignorable is a letter with case. -/
def meetsCased (t : Text) : Bool :=
  match t.dropWhile isCaseIgnorable with
  | [] => false
  | c :: _ => isCased c

/-- The lowercase form of one character, given what precedes it, nearest first, and what follows. -/
def lowerAt (before : Text) (c : Char) (after : Text) : Text :=
  if c = '\u0130' then ['i', '\u0307']
  else if c = '\u03A3' then
    if meetsCased before && !meetsCased after then ['\u03C2'] else ['\u03C3']
  else [lowerChar c]

/-- The lowercase form of a text that stands after `before`, given nearest character first. -/
def lowerAfter : Text → Text → Text
  | _, [] => []
  | before, c :: after => lowerAt before c after ++ lowerAfter (c :: before) after

/-- The lowercase form of a text. -/
def lowercase (t : Text) : Text := lowerAfter [] t

end Text

end PinnedActions
