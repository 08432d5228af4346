import PinnedActions.Http.Name.Image
import PinnedActions.Http.Punycode
import PinnedActions.Text.Composition
import PinnedActions.Text.Direction

/-!
# Labels

The parts of a name between its dots are its **labels**.  A label with characters outside ASCII has a
written form in ASCII: `xn--` and the label in Punycode.  A label is well formed when it does not
begin with a mark, its joiners are in place, and it does not look like a written form itself.
-/

set_option autoImplicit false

namespace PinnedActions

/-- A label as it is spelled, and its written form. -/
structure Label where
  spelling : Text
  written : Text
deriving DecidableEq, Repr

namespace Label

/-- What the written form of a label outside ASCII begins with. -/
def mark : Text := "xn--".toList

/-- Whether a label with characters outside ASCII is well formed. -/
def isWellFormed (t : Text) : Bool :=
  !t.head?.any Text.isMark && Text.joinersFit t && !mark.isPrefixOf t

/-- Whether a text is composed, of characters that all stand for themselves. -/
def isPlain (t : Text) : Bool := t.all (fun c => Name.image? c = some [c]) && Text.composed t = t

/-- The most characters that a label outside ASCII may have. -/
def spellingLimit : Nat := 1000

/-- The most characters that may follow `xn--`. -/
def punycodeLimit : Nat := 2000

/-- The label whose written form is `xn--` and a text. -/
def ofPunycode? (t : Text) : Option Label := do
  if t.isEmpty || t.getLast? = some '-' || punycodeLimit < t.length then none
  let spelling ← Punycode.decode? t
  if isPlain spelling && isWellFormed spelling then some ⟨spelling, mark ++ t⟩ else none

/-- The label in a composed text of characters that may stand in a name. -/
def ofText? (t : Text) : Option Label :=
  if t.all Punycode.isAscii then
    match mark.isPrefixOf? t with
    | some code => ofPunycode? code
    | none => some ⟨t, t⟩
  else if isWellFormed t && t.length ≤ spellingLimit then some ⟨t, mark ++ Punycode.encode t⟩
  else none

end Label

end PinnedActions
