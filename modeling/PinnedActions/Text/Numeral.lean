import PinnedActions.Text.Basic

/-!
# Numerals

Natural numbers written in base ten and base sixteen, and read back.
-/

set_option autoImplicit false

namespace PinnedActions

namespace Text

/-- A natural number in base ten, without leading zeros. -/
def decimal (n : Nat) : Text := Nat.toDigits 10 n

/-- An integer in base ten. -/
def signedDecimal : Int → Text
  | .ofNat n => decimal n
  | .negSucc n => '-' :: decimal (n + 1)

/-- The digit for a number below sixteen, with small letters. -/
def hexDigit (n : Nat) : Char := Nat.digitChar (n % 16)

/-- The digit for a number below sixteen, with capital letters. -/
def upperHexDigit (n : Nat) : Char :=
  if n % 16 < 10 then Char.ofNat (48 + n % 16) else Char.ofNat (55 + n % 16)

/-- A natural number in base sixteen with small letters, without leading zeros. -/
def hexadecimal (n : Nat) : Text := Nat.toDigits 16 n

/-- The value of an ASCII digit in a base up to sixteen. -/
def digitValue? (base : Nat) (c : Char) : Option Nat :=
  let value :=
    if isAsciiDigit c then some (c.toNat - 48)
    else if 'a' ≤ c ∧ c ≤ 'f' then some (c.toNat - 87)
    else if 'A' ≤ c ∧ c ≤ 'F' then some (c.toNat - 55)
    else none
  value.filter (· < base)

/-- The number that a nonempty sequence of digits stands for. -/
def number? (base : Nat) (t : Text) : Option Nat :=
  if t.isEmpty then none
  else t.foldl (fun n c => n.bind fun n => (digitValue? base c).map (n * base + ·)) (some 0)

end Text

end PinnedActions
