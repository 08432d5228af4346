import PinnedActions.Text.Basic

/-!
# Punycode

A label of a domain name that has characters outside ASCII is written with ASCII characters alone.
The ASCII characters of the label come first, and a minus sign after them.  Then follow, in the order
of their code points, the places where the others have to be put in, as differences; a difference is
written in base thirty-six with a threshold that adapts to the differences before it.

`Punycode.encode` writes a label so, and `Punycode.decode?` reads it back.
-/

set_option autoImplicit false

namespace PinnedActions

namespace Punycode

/-! ## Differences -/

/-- The digit for a number below thirty-six: the letters come first. -/
def digit (n : Nat) : Char := if n < 26 then Char.ofNat (97 + n) else Char.ofNat (22 + n)

/-- The threshold for the digit at a weight. -/
def threshold (weight bias : Nat) : Nat :=
  if weight ≤ bias then 1 else if bias + 26 ≤ weight then 26 else weight - bias

theorem threshold_pos (weight bias : Nat) : 1 ≤ threshold weight bias := by
  unfold threshold
  split
  · omega
  · split <;> omega

theorem threshold_le (weight bias : Nat) : threshold weight bias ≤ 26 := by
  unfold threshold
  split
  · omega
  · split <;> omega

/-- The digits of a difference, from a weight on. -/
def difference (bias weight n : Nat) : Text :=
  let t := threshold weight bias
  if n < t then [digit n]
  else digit (t + (n - t) % (36 - t)) :: difference bias (weight + 36) ((n - t) / (36 - t))
termination_by n
decreasing_by
  have low := threshold_pos weight bias
  have high := threshold_le weight bias
  calc (n - threshold weight bias) / (36 - threshold weight bias)
      ≤ n - threshold weight bias := Nat.div_le_self _ _
    _ < n := by omega

/-- Divides by thirty-five until the number is small, and counts thirty-six for each time. -/
def shrink (n weight : Nat) : Nat × Nat :=
  if 455 < n then shrink (n / 35) (weight + 36) else (n, weight)
termination_by n
decreasing_by exact Nat.div_lt_self (by omega) (by omega)

/-- The bias after a difference, when so many characters are in place. -/
def adapt (n placed : Nat) (isFirst : Bool) : Nat :=
  let n := if isFirst then n / 700 else n / 2
  let (n, weight) := shrink (n + n / placed) 0
  weight + 36 * n / (n + 38)

/-! ## Writing labels -/

/-- The state of writing a label. -/
structure Writer where
  output : Text
  delta : Nat
  bias : Nat
  placed : Nat

/-- Goes past one character of the label while the characters with a code point are put in.  The
label has a number of ASCII characters. -/
def Writer.pass (basic point : Nat) (w : Writer) (c : Char) : Writer :=
  if c.toNat < point then { w with delta := w.delta + 1 }
  else if c.toNat = point then
    { output := w.output ++ difference w.bias 36 w.delta
      delta := 0
      bias := adapt w.delta (w.placed + 1) (w.placed = basic)
      placed := w.placed + 1 }
  else w

/-- Puts in the characters with each of some code points, which rise.  Those below a bound are in
place. -/
def Writer.fill (label : Text) (basic : Nat) : List Nat → Nat → Writer → Writer
  | [], _, w => w
  | point :: rest, bound, w =>
    let w := { w with delta := w.delta + (point - bound) * (w.placed + 1) }
    let w := label.foldl (Writer.pass basic point) w
    fill label basic rest (point + 1) { w with delta := w.delta + 1 }

/-- Whether a character is one of ASCII. -/
def isAscii (c : Char) : Bool := c.toNat < 128

/-- A label in ASCII characters. -/
def encode (label : Text) : Text :=
  let basic := label.filter isAscii
  let points := (label.filter (!isAscii ·)).map Char.toNat
  let start := if basic.isEmpty then [] else basic ++ ['-']
  (Writer.fill label basic.length (points.mergeSort (· ≤ ·)).eraseDups 128
    ⟨start, 0, 72, basic.length⟩).output

/-! ## Reading labels -/

/-- The number below thirty-six that a digit stands for. -/
def digitValue? (c : Char) : Option Nat :=
  if 'a' ≤ c ∧ c ≤ 'z' then some (c.toNat - 97)
  else if 'A' ≤ c ∧ c ≤ 'Z' then some (c.toNat - 65)
  else if Text.isAsciiDigit c then some (c.toNat - 22)
  else none

/-- The state of reading a label: what is in place, the code point that was put in last and the place
after it, the bias, and of the difference being read the weight of the next digit, the factor of that
digit and the sum of the digits before it. -/
structure Reader where
  output : Text
  point : Nat
  place : Nat
  bias : Nat
  weight : Nat
  factor : Nat
  sum : Nat

/-- Puts in a character after its difference has been read. -/
def Reader.put? (r : Reader) : Option Reader :=
  let count := r.output.length + 1
  let place := r.place + r.sum
  let point := r.point + place / count
  if 0xD800 ≤ point ∧ point ≤ 0xDFFF ∨ 0x10FFFF < point then none
  else some {
    output := r.output.insertIdx (place % count) (Char.ofNat point)
    point
    place := place % count + 1
    bias := adapt r.sum count (r.place = 0)
    weight := 36
    factor := 1
    sum := 0 }

/-- Reads one digit.  A digit below the threshold is the last one of its difference; a difference has
to fit in thirty-two bits. -/
def Reader.take? (r : Reader) (c : Char) : Option Reader := do
  let d ← digitValue? c
  let t := threshold r.weight r.bias
  let r := { r with sum := r.sum + d * r.factor }
  if Nat.pow 2 32 ≤ r.place + r.sum then none
  else if d < t then r.put?
  else
    let factor := r.factor * (36 - t)
    if Nat.pow 2 32 ≤ factor then none else some { r with weight := r.weight + 36, factor }

/-- The label that was written in ASCII characters.  The last difference has to be complete. -/
def decode? (t : Text) : Option Text := do
  let (basic, digits) := match Text.cutLast? '-' t with
    | some (c :: basic, digits) => (c :: basic, digits)
    | _ => ([], t)
  let r ← digits.foldlM Reader.take? ⟨basic, 128, 0, 72, 36, 1, 0⟩
  if r.factor = 1 then some r.output else none

end Punycode

end PinnedActions
