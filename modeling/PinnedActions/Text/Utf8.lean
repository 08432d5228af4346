import PinnedActions.Text.Basic

/-!
# UTF-8

Files and responses hold bytes, and so do the names of files.  `Utf8.encode` gives the bytes of a text.
There are two ways back:

* `Utf8.decode?` accepts exactly the encodings of texts, so it refuses overlong forms, surrogates,
  numbers above the last code point and sequences that break off;
* `Utf8.decodeLossy` accepts anything, and puts one replacement character for every maximal part
  that could still have become a character.
-/

set_option autoImplicit false

namespace PinnedActions

/-- A sequence of bytes, which need not be the encoding of a text. -/
abbrev Bytes := List UInt8

namespace Utf8

/-- The bytes of a text. -/
def encode (t : Text) : Bytes := t.flatMap String.utf8EncodeChar

/-- The bytes of a word that is written out. -/
def bytes (word : String) : Bytes := encode word.toList

/-! ## One character -/

/-- What a lead byte announces: how many bytes follow, the bits that it contributes, and the range
in which the first of the following bytes has to lie. -/
structure Lead where
  following : Nat
  bits : Nat
  lowest : Nat
  highest : Nat

/-- The meaning of a lead byte.  The range of the second byte excludes overlong forms, surrogates
and numbers above the last code point. -/
def lead? (b : Nat) : Option Lead :=
  if b < 0x80 then some ⟨0, b, 0x80, 0xBF⟩
  else if 0xC2 ≤ b ∧ b ≤ 0xDF then some ⟨1, b - 0xC0, 0x80, 0xBF⟩
  else if b = 0xE0 then some ⟨2, 0, 0xA0, 0xBF⟩
  else if b = 0xED then some ⟨2, 0xD, 0x80, 0x9F⟩
  else if 0xE1 ≤ b ∧ b ≤ 0xEF then some ⟨2, b - 0xE0, 0x80, 0xBF⟩
  else if b = 0xF0 then some ⟨3, 0, 0x90, 0xBF⟩
  else if 0xF1 ≤ b ∧ b ≤ 0xF3 then some ⟨3, b - 0xF0, 0x80, 0xBF⟩
  else if b = 0xF4 then some ⟨3, 4, 0x80, 0x8F⟩
  else none

/-- Reads the bytes that follow a lead byte.  Gives the code point when all of them are there and
`none` when one is missing or out of range, and in either case the bytes that were not used. -/
def continueFrom : Nat → Nat → Nat → Nat → List UInt8 → Option Nat × List UInt8
  | 0, bits, _, _, rest => (some bits, rest)
  | _ + 1, _, _, _, [] => (none, [])
  | n + 1, bits, lowest, highest, b :: rest =>
    if lowest ≤ b.toNat ∧ b.toNat ≤ highest then
      continueFrom n (bits * 64 + (b.toNat - 0x80)) 0x80 0xBF rest
    else (none, b :: rest)

/-- Reading the rest of a character uses up bytes and adds none. -/
theorem length_continueFrom (n bits lowest highest : Nat) (bytes : List UInt8) :
    (continueFrom n bits lowest highest bytes).2.length ≤ bytes.length := by
  induction n generalizing bits lowest highest bytes with
  | zero => simp [continueFrom]
  | succ n ih =>
    cases bytes with
    | nil => simp [continueFrom]
    | cons b rest =>
      simp only [continueFrom]
      split
      · exact Nat.le_trans (ih ..) (by simp)
      · simp

/-- Reads one character, or one part that cannot become a character, from a nonempty sequence. -/
def step (b : UInt8) (rest : List UInt8) : Option Char × List UInt8 :=
  match lead? b.toNat with
  | none => (none, rest)
  | some lead =>
    let (point, rest) := continueFrom lead.following lead.bits lead.lowest lead.highest rest
    (point.map Char.ofNat, rest)

/-- A step leaves no more bytes than followed the first one. -/
theorem length_step (b : UInt8) (rest : List UInt8) : (step b rest).2.length ≤ rest.length := by
  unfold step
  cases lead? b.toNat with
  | none => simp
  | some lead => exact length_continueFrom ..

/-! ## Sequences of characters -/

/-- The characters of a sequence of bytes, with `none` for each part that is not one. -/
def pieces : List UInt8 → List (Option Char)
  | [] => []
  | b :: rest => (step b rest).1 :: pieces (step b rest).2
termination_by bytes => bytes.length
decreasing_by exact Nat.lt_succ_of_le (length_step b rest)

/-- The text that a sequence of bytes encodes, if it encodes one. -/
def decode? (bytes : List UInt8) : Option Text := (pieces bytes).mapM id

/-- The text of a sequence of bytes, with a replacement character for each part that is not one. -/
def decodeLossy (bytes : List UInt8) : Text := (pieces bytes).map (·.getD '\uFFFD')

end Utf8

end PinnedActions
