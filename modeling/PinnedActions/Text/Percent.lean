import PinnedActions.Text.Numeral
import PinnedActions.Text.Utf8

/-!
# Percent encoding

A byte that may not stand in some part of a URL is written as a percent sign and two digits of base
sixteen.  `Percent.encode keep` writes a text so, leaving the characters of the class `keep` as they
are; `Percent.decode` gives the bytes of a text that was written so.
-/

set_option autoImplicit false

namespace PinnedActions

namespace Percent

/-- A byte as a percent sign and two digits, in capitals. -/
def byte (b : UInt8) : Text :=
  ['%', Text.upperHexDigit (b.toNat / 16), Text.upperHexDigit b.toNat]

/-- A character as it is, or its bytes one by one. -/
def encodeChar (keep : Char → Bool) (c : Char) : Text :=
  if keep c then [c] else (String.utf8EncodeChar c).flatMap byte

/-- A text in which only characters of a class stand for themselves. -/
def encode (keep : Char → Bool) (t : Text) : Text := t.flatMap (encodeChar keep)

/-- The byte written by two digits of base sixteen. -/
def pair? (high low : Char) : Option UInt8 := do
  let h ← Text.digitValue? 16 high
  let l ← Text.digitValue? 16 low
  some (UInt8.ofNat (h * 16 + l))

/-- The bytes of a text.  A percent sign without two digits after it stands for itself. -/
def decode : Text → List UInt8
  | '%' :: high :: low :: rest =>
    match pair? high low with
    | some b => b :: decode rest
    | none => String.utf8EncodeChar '%' ++ decode (high :: low :: rest)
  | c :: rest => String.utf8EncodeChar c ++ decode rest
  | [] => []

end Percent

end PinnedActions
