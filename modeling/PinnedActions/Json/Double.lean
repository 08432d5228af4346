import PinnedActions.Text.Numeral

/-!
# Numbers with a fraction

A JSON number that is not an integer is kept as a **double**: a sign, a significand of at most 53
bits and a power of two.

* `Double.nearest` rounds a quotient to a double, half to even.
* `Double.ofParts?` is the double that is read from digits and a power of ten.  It rounds more than
  once, to the digits as a double and then to their product with a power of ten, so what is read may
  be a neighbour of the double closest to the decimal.
* `Double.shortest` finds the fewest digits that stand for a double: it tries the two neighbours of
  the double on the grid of one digit, then of two digits, and so on, and takes the first that lies
  in the interval of numbers rounding to that double.
* `Double.toText` writes those digits, positionally or with an exponent.
-/

set_option autoImplicit false

namespace PinnedActions

namespace Json

/-- The number `± significand · 2 ^ power`. -/
structure Double where
  negative : Bool
  significand : Nat
  power : Int
deriving DecidableEq, Repr

namespace Double

/-- Zero. -/
def zero : Double := ⟨false, 0, 0⟩

/-- The number with the other sign. -/
def negate (x : Double) : Double := { x with negative := !x.negative }

/-- The number without its sign, as a quotient of natural numbers. -/
def ratio (x : Double) : Nat × Nat :=
  (x.significand * Nat.pow 2 x.power.toNat, Nat.pow 2 (-x.power).toNat)

/-! ## Rounding -/

/-- The quotient of two natural numbers, rounded to the nearest and in a tie to the even one. -/
def roundDiv (num den : Nat) : Nat :=
  let q := num / den
  let twice := 2 * (num % den)
  if twice < den then q else if den < twice then q + 1 else q + q % 2

/-- The quotient scaled by a power of two, as a fraction. -/
def scaled (num den : Nat) (power : Int) : Nat × Nat :=
  (num * Nat.pow 2 (-power).toNat, den * Nat.pow 2 power.toNat)

/-- The power of two of the last bit of the double closest to a positive quotient. -/
def lastBit (num den : Nat) : Int :=
  let guess := max ((num.log2 : Int) - (den.log2 : Int) - 52) (-1074)
  let (n, d) := scaled num den guess
  if n / d < Nat.pow 2 52 ∧ -1074 < guess then guess - 1
  else if Nat.pow 2 53 ≤ n / d then guess + 1
  else guess

/-- The double closest to a quotient; one that rounds to nothing is zero. -/
def nearest (num den : Nat) : Double :=
  if num = 0 then zero else
  let power := lastBit num den
  let (n, d) := scaled num den power
  let m := roundDiv n d
  if m = 0 then zero
  else if m = Nat.pow 2 53 then ⟨false, Nat.pow 2 52, power + 1⟩
  else ⟨false, m, power⟩

/-- Whether the number is beyond the largest double. -/
def isTooLarge (x : Double) : Bool := 971 < x.power

/-! ## Reading -/

/-- The exponent of the largest power of ten that can be a double. -/
def lastPower : Nat := 308

/-- The double closest to a power of ten. -/
def tenTo (k : Nat) : Double := nearest (Nat.pow 10 k) 1

/-- The product of two doubles without signs, rounded. -/
def times (x y : Double) : Double :=
  nearest (x.ratio.1 * y.ratio.1) (x.ratio.2 * y.ratio.2)

/-- The quotient of two doubles without signs, rounded. -/
def dividedBy (x y : Double) : Double :=
  nearest (x.ratio.1 * y.ratio.2) (x.ratio.2 * y.ratio.1)

/-- The double divided by `10 ^ k`, in as many divisions as there are powers of ten needed. -/
def shrink (x : Double) (k : Nat) : Double :=
  if k ≤ lastPower then x.dividedBy (tenTo k)
  else if x.significand = 0 then x
  else shrink (x.dividedBy (tenTo lastPower)) (k - lastPower)
termination_by k
decreasing_by simp only [lastPower] at *; omega

/-- The double read from `digits · 10 ^ exponent`; nothing for one that is too large. -/
def ofParts? (digits : Nat) (exponent : Int) : Option Double :=
  let x := nearest digits 1
  if exponent < 0 then some (x.shrink exponent.natAbs)
  else if lastPower < exponent.natAbs then if digits = 0 then some x else none
  else
    let y := x.times (tenTo exponent.natAbs)
    if y.isTooLarge then none else some y

/-! ## Writing -/

/-- Whether `n · 10 ^ k` rounds to the double. -/
def standsFor (x : Double) (n : Nat) (k : Int) : Bool :=
  -- all three numbers in units of a quarter of the last bit, times a common factor
  let unit (m : Nat) : Nat := m * Nat.pow 2 x.power.toNat * Nat.pow 10 (-k).toNat
  let here := 4 * n * Nat.pow 10 k.toNat * Nat.pow 2 (-x.power).toNat
  let low :=
    if x.significand = Nat.pow 2 52 ∧ -1074 < x.power then unit (4 * x.significand - 1)
    else unit (4 * x.significand - 2)
  let high := unit (4 * x.significand + 2)
  if x.significand % 2 = 0 then low ≤ here && here ≤ high else low < here && here < high

/-- The neighbours of the double on the grid of multiples of `10 ^ k`, as multiples, with the nearer
one first, and of two equally near ones the even one. -/
def neighbours (x : Double) (k : Int) : List Nat :=
  let num := x.ratio.1 * Nat.pow 10 (-k).toNat
  let den := x.ratio.2 * Nat.pow 10 k.toNat
  let below := num / den
  if roundDiv num den = below then [below, below + 1] else [below + 1, below]

/-- The first grid on which a neighbour rounds to the double, starting from the grid of `10 ^ k` and
going to finer ones. -/
def search (x : Double) : Nat → Int → Nat × Int
  | 0, k => ((neighbours x k).headD 0, k)
  | finer + 1, k =>
    match (neighbours x k).find? fun n => x.standsFor n k with
    | some n => (n, k)
    | none => search x finer (k - 1)

/-- A power of ten that is not below the leading decimal digit of a positive quotient. -/
def leadingExponent (num den : Nat) : Int :=
  let whole := num / den
  if whole = 0 then -((den / num).log2 * 3 / 10 : Nat) else ((Nat.toDigits 10 whole).length : Nat)

/-- The fewest digits, and the power of ten of the last of them, that stand for the double. -/
def shortest (x : Double) : Nat × Int :=
  if x.significand = 0 then (0, 0) else
  search x 800 (leadingExponent x.ratio.1 x.ratio.2)

/-- Digits with a decimal point before the last `places` of them, and at least one digit on either
side of it. -/
def pointed (digits : Text) (places : Int) : Text :=
  if places ≤ 0 then digits ++ List.replicate (-places).toNat '0' ++ ['.', '0']
  else
    let padded := List.replicate (places.toNat + 1 - digits.length) '0' ++ digits
    padded.take (padded.length - places.toNat) ++ '.' :: padded.drop (padded.length - places.toNat)

/-- Digits with a decimal point after the first of them, when there are more, and an exponent with
its sign. -/
def withExponent (digits : Text) (exponent : Int) : Text :=
  let mantissa := match digits with
    | first :: second :: more => first :: '.' :: second :: more
    | _ => digits
  mantissa ++ 'e' :: (if exponent < 0 then '-' else '+') :: Text.decimal exponent.natAbs

/-- The number in the fewest digits that stand for it: positionally from `10 ^ -5` up to but not
including `10 ^ 16`, and with an exponent otherwise. -/
def toText (x : Double) : Text :=
  let (n, k) := x.shortest
  let digits := Text.decimal n
  let leading := (digits.length : Int) + k - 1
  let body :=
    if -5 ≤ leading ∧ leading < 16 then pointed digits (-k) else withExponent digits leading
  if x.negative then '-' :: body else body

end Double

end Json

end PinnedActions
