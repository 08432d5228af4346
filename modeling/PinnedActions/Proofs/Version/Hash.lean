import PinnedActions.Proofs.Text.Lowercase
import PinnedActions.Text.Blank
import PinnedActions.Version.Basic

/-!
# Full commit hashes

A full commit hash is a full commit hash in either letter case (`isFullHash_lowercase`,
`isFullHash_congr`), and none of its characters is one that the reader of a line looks for
(`isOrdinary_of_isFullHash`).  A text without such characters has none in lowercase either
(`isOrdinary_of_mem_lowercase`).
-/

set_option autoImplicit false

namespace PinnedActions

namespace Text

theorem isHexDigit_iff {c : Char} : isHexDigit c = true ↔
    0x30 ≤ c.toNat ∧ c.toNat ≤ 0x39 ∨ 0x61 ≤ c.toNat ∧ c.toNat ≤ 0x66 ∨
      0x41 ≤ c.toNat ∧ c.toNat ≤ 0x46 := by
  simp only [isHexDigit, isAsciiDigit, Bool.or_eq_true, Bool.and_eq_true, decide_eq_true_eq,
    Char.le_def, UInt32.le_iff_toNat_le, or_assoc]
  exact Iff.rfl

theorem toNat_lt_of_isHexDigit {c : Char} (h : isHexDigit c = true) : c.toNat < 0x80 := by
  rw [isHexDigit_iff] at h
  omega

theorem isHexDigit_asciiLower (c : Char) : isHexDigit (asciiLower c) = isHexDigit c := by
  rw [Bool.eq_iff_iff, isHexDigit_iff, isHexDigit_iff, toNat_asciiLower]
  split <;> omega

/-! ## Ordinary characters -/

/-- Whether a character means nothing to the reader of a line: it is neither white space nor one of
the marks around a reference. -/
def isOrdinary (c : Char) : Bool :=
  !isBlank c && c != '@' && c != '#' && c != '$' && c != '\'' && c != '"'

theorem isBlank_of_isOrdinary {c : Char} (h : isOrdinary c = true) : isBlank c = false := by
  simp only [isOrdinary, Bool.and_eq_true, Bool.not_eq_true'] at h
  exact h.1.1.1.1.1

/-- The digits and the letters of ASCII are ordinary. -/
theorem isOrdinary_of_toNat {c : Char}
    (h : 0x30 ≤ c.toNat ∧ c.toNat ≤ 0x39 ∨ 0x41 ≤ c.toNat ∧ c.toNat ≤ 0x7A) :
    isOrdinary c = true := by
  have hfree : isBlankFree 0x30 0x7A = true := by decide
  have hblank : isBlank c = false := isBlank_of_isBlankFree hfree (by omega)
  have hmark : ∀ mark : Char,
      ¬(0x30 ≤ mark.toNat ∧ mark.toNat ≤ 0x39 ∨ 0x41 ≤ mark.toNat ∧ mark.toNat ≤ 0x7A) →
        c ≠ mark := by
    rintro mark hmark rfl
    exact hmark h
  simp only [isOrdinary, hblank, Bool.not_false, Bool.true_and, Bool.and_eq_true, bne_iff_ne]
  refine ⟨⟨⟨⟨?_, ?_⟩, ?_⟩, ?_⟩, ?_⟩ <;> exact hmark _ (by decide)

theorem isOrdinary_lowerChar {c : Char} (h : isOrdinary c = true) :
    isOrdinary (lowerChar c) = true := by
  by_cases hc : c.toNat < 0x80
  · rw [lowerChar, if_pos hc]
    by_cases hA : 'A' ≤ c ∧ c ≤ 'Z'
    · refine isOrdinary_of_toNat (.inr ?_)
      have := asciiCapital_iff.1 hA
      rw [toNat_asciiLower, if_pos this]
      omega
    · rwa [asciiLower, if_neg hA]
  · -- the marks are ASCII characters, and none of them is the lowercase form of a character beyond
    have hmark : ∀ mark : Char, mark.toNat < 0x80 → mark ≠ 'k' → lowerChar c ≠ mark := by
      rintro mark hmark hk rfl
      exact hc (lt_of_lowerChar_lt hmark hk)
    simp only [isOrdinary, isBlank_lowerChar hc (isBlank_of_isOrdinary h), Bool.not_false,
      Bool.true_and, Bool.and_eq_true, bne_iff_ne]
    refine ⟨⟨⟨⟨?_, ?_⟩, ?_⟩, ?_⟩, ?_⟩ <;> exact hmark _ (by decide) (by decide)

/-- **A text of ordinary characters is one in lowercase too.** -/
theorem isOrdinary_of_mem_lowercase {t : Text} (h : ∀ c ∈ t, isOrdinary c = true) :
    ∀ d ∈ lowercase t, isOrdinary d = true := by
  intro d hd
  rcases exists_of_mem_lowercase hd with ⟨c, hc, rfl⟩ | hrule
  · exact isOrdinary_lowerChar (h c hc)
  · have hordinary : ['i', '\u0307', '\u03C2', '\u03C3'].all isOrdinary = true := by decide
    exact List.all_eq_true.1 hordinary d hrule

theorem isOrdinary_of_isHexDigit {c : Char} (h : isHexDigit c = true) : isOrdinary c = true := by
  rw [isHexDigit_iff] at h
  exact isOrdinary_of_toNat (by omega)

theorem sameIgnoringCase_iff {a b : Text} :
    sameIgnoringCase a b = true ↔ a.map asciiLower = b.map asciiLower :=
  beq_iff_eq

end Text

namespace Version

theorem isFullHash_iff {t : Text} :
    isFullHash t = true ↔ t.length = 40 ∧ ∀ c ∈ t, Text.isHexDigit c = true := by
  simp [isFullHash]

/-- The letter case of a hash does not matter. -/
theorem isFullHash_congr {a b : Text} (h : Text.sameIgnoringCase a b = true) :
    isFullHash a = isFullHash b := by
  have hmap : ∀ t : Text, isFullHash t = isFullHash (t.map Text.asciiLower) := fun t => by
    simp [isFullHash, List.all_map, Function.comp_def, Text.isHexDigit_asciiLower]
  rw [hmap a, hmap b, Text.sameIgnoringCase_iff.1 h]

theorem lowercase_of_isFullHash {t : Text} (h : isFullHash t = true) :
    Text.lowercase t = t.map Text.asciiLower := by
  have hascii : ∀ c ∈ t, c.toNat < 0x80 := fun c hc =>
    Text.toNat_lt_of_isHexDigit ((isFullHash_iff.1 h).2 c hc)
  rw [Text.lowercase_eq_map fun c hc => ?_]
  · exact List.map_congr_left fun c hc => by rw [Text.lowerChar, if_pos (hascii c hc)]
  · have := hascii c hc
    constructor <;> rintro rfl <;> revert this <;> decide

theorem sameIgnoringCase_lowercase {t : Text} (h : isFullHash t = true) :
    Text.sameIgnoringCase t (Text.lowercase t) = true := by
  rw [lowercase_of_isFullHash h, Text.sameIgnoringCase_iff, List.map_map]
  exact List.map_congr_left fun c _ => (Text.asciiLower_asciiLower c).symm

/-- **A hash in lowercase is a hash.** -/
theorem isFullHash_lowercase {t : Text} (h : isFullHash t = true) :
    isFullHash (Text.lowercase t) = true :=
  (isFullHash_congr (sameIgnoringCase_lowercase h)).symm.trans h

theorem isOrdinary_of_isFullHash {t : Text} (h : isFullHash t = true) :
    ∀ c ∈ t, Text.isOrdinary c = true := fun c hc =>
  Text.isOrdinary_of_isHexDigit ((isFullHash_iff.1 h).2 c hc)

end Version

end PinnedActions
