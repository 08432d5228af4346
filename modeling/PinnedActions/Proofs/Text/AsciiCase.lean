import PinnedActions.Proofs.Version.Comment
import PinnedActions.Proofs.Version.Hash
import PinnedActions.Proofs.Version.Kind

/-!
# The case of ASCII letters

Two texts that differ in nothing but the case of ASCII letters are the same for everything that does
not look at the case of ASCII letters: whether a character is blank, what its lowercase form is, and
how its neighbours see it (`apply_asciiLower`).  So such texts have their blanks in the same places
and the same lowercase form (`lowercase_congr`), and as version specs they are filed under the same
form (`foldedForm_congr`).
-/

set_option autoImplicit false

namespace PinnedActions

namespace Text

/-- What does not look at the case of ASCII letters is checked for the letters alone. -/
theorem apply_asciiLower {β : Type} {f : Char → β}
    (h : ∀ n < 26, f (Char.ofNat (0x61 + n)) = f (Char.ofNat (0x41 + n))) (c : Char) :
    f (asciiLower c) = f c := by
  by_cases hc : 'A' ≤ c ∧ c ≤ 'Z'
  · obtain ⟨hA, hZ⟩ := asciiCapital_iff.1 hc
    have hsmall : 0x61 + (c.toNat - 0x41) = c.toNat + 32 := by omega
    have hcapital : 0x41 + (c.toNat - 0x41) = c.toNat := by omega
    have hletter := h (c.toNat - 0x41) (by omega)
    rw [hsmall, hcapital, Char.ofNat_toNat] at hletter
    rw [asciiLower, if_pos hc, hletter]
  · rw [asciiLower, if_neg hc]

theorem isBlank_asciiLower (c : Char) : isBlank (asciiLower c) = isBlank c := by
  by_cases hc : 'A' ≤ c ∧ c ≤ 'Z'
  · have hletters : isBlankFree 0x41 0x7A = true := by decide
    have hcode := asciiCapital_iff.1 hc
    have hlower : (asciiLower c).toNat = c.toNat + 32 := by rw [toNat_asciiLower, if_pos hcode]
    rw [isBlank_of_isBlankFree hletters (c := c) (by omega), isBlank_of_isBlankFree hletters]
    omega
  · rw [asciiLower, if_neg hc]

theorem isCased_asciiLower : ∀ c, isCased (asciiLower c) = isCased c :=
  apply_asciiLower (by decide +kernel)

theorem lowerChar_asciiLower (c : Char) : lowerChar (asciiLower c) = lowerChar c := by
  by_cases hc : 'A' ≤ c ∧ c ≤ 'Z'
  · have hcode := asciiCapital_iff.1 hc
    have hlower : (asciiLower c).toNat < 0x80 := by
      rw [toNat_asciiLower]
      split <;> omega
    rw [lowerChar, if_pos hlower, lowerChar, if_pos (by omega), asciiLower_asciiLower]
  · rw [asciiLower, if_neg hc]

/-- No letter is case-ignorable.  The table is gone through once, as it is long. -/
theorem isCaseIgnorable_of_letter {n : Nat} (h : 0x41 ≤ n ∧ n ≤ 0x5A ∨ 0x61 ≤ n ∧ n ≤ 0x7A) :
    inRanges caseIgnorableRanges n = false := by
  have hall : ∀ r ∈ caseIgnorableRanges,
      r.2 < 0x41 ∨ 0x5A < r.1 ∧ r.2 < 0x61 ∨ 0x7A < r.1 := by decide +kernel
  rw [inRanges, List.any_eq_false]
  intro r hr
  have := hall r hr
  simp only [Bool.and_eq_true, decide_eq_true_eq]
  omega

theorem isCaseIgnorable_asciiLower : ∀ c, isCaseIgnorable (asciiLower c) = isCaseIgnorable c := by
  refine apply_asciiLower fun n hn => ?_
  rw [isCaseIgnorable, isCaseIgnorable, toNat_ofNat (.inl (by omega)),
    toNat_ofNat (.inl (by omega)), isCaseIgnorable_of_letter (by omega),
    isCaseIgnorable_of_letter (by omega)]

/-! ## Lowercase forms -/

theorem meetsCased_map_asciiLower (t : Text) : meetsCased (t.map asciiLower) = meetsCased t := by
  have hpass : isCaseIgnorable ∘ asciiLower = isCaseIgnorable := funext isCaseIgnorable_asciiLower
  rw [meetsCased, meetsCased, List.dropWhile_map, hpass]
  cases t.dropWhile isCaseIgnorable with
  | nil => rfl
  | cons c rest => exact isCased_asciiLower c

/-- Lowering ASCII capitals makes no character beyond ASCII. -/
theorem asciiLower_eq_iff {c d : Char} (hd : 0x80 ≤ d.toNat) : asciiLower c = d ↔ c = d := by
  rw [← Char.toNat_inj, ← Char.toNat_inj, toNat_asciiLower]
  split <;> omega

theorem lowerAt_asciiLower (before after : Text) (c : Char) :
    lowerAt (before.map asciiLower) (asciiLower c) (after.map asciiLower) =
      lowerAt before c after := by
  have hI : asciiLower c = '\u0130' ↔ c = '\u0130' := asciiLower_eq_iff (by decide)
  have hS : asciiLower c = '\u03A3' ↔ c = '\u03A3' := asciiLower_eq_iff (by decide)
  simp only [lowerAt, hI, hS, meetsCased_map_asciiLower, lowerChar_asciiLower]

theorem lowerAfter_map_asciiLower (before t : Text) :
    lowerAfter (before.map asciiLower) (t.map asciiLower) = lowerAfter before t := by
  induction t generalizing before with
  | nil => rfl
  | cons c rest ih =>
    rw [List.map_cons, lowerAfter, lowerAfter, lowerAt_asciiLower, ← List.map_cons, ih]

theorem lowercase_map_asciiLower (t : Text) : lowercase (t.map asciiLower) = lowercase t :=
  lowerAfter_map_asciiLower [] t

/-- **Texts that differ in the case of ASCII letters have one lowercase form.** -/
theorem lowercase_congr {a b : Text} (h : sameIgnoringCase a b = true) :
    lowercase a = lowercase b := by
  rw [← lowercase_map_asciiLower a, ← lowercase_map_asciiLower b, sameIgnoringCase_iff.1 h]

/-! ## Blanks -/

theorem trim_map_asciiLower (t : Text) : trim (t.map asciiLower) = (trim t).map asciiLower := by
  have hblank : isBlank ∘ asciiLower = isBlank := funext isBlank_asciiLower
  simp only [trim, trimStart, trimEnd, dropLeading, dropTrailing, List.dropWhile_map,
    ← List.map_reverse, hblank]

theorem firstWord_map_asciiLower (t : Text) :
    firstWord (t.map asciiLower) = (firstWord t).map asciiLower := by
  have hblank : (fun c => !isBlank c) ∘ asciiLower = fun c => !isBlank c :=
    funext fun c => congrArg Bool.not (isBlank_asciiLower c)
  rw [firstWord, firstWord, List.takeWhile_map, hblank]

theorem afterFirstWord_map_asciiLower (t : Text) :
    afterFirstWord (t.map asciiLower) = (afterFirstWord t).map asciiLower := by
  have hblank : (fun c => !isBlank c) ∘ asciiLower = fun c => !isBlank c :=
    funext fun c => congrArg Bool.not (isBlank_asciiLower c)
  rw [afterFirstWord, afterFirstWord, List.dropWhile_map, hblank]

/-- Texts that differ in the case of ASCII letters do so without the blanks around them. -/
theorem trim_congr {a b : Text} (h : sameIgnoringCase a b = true) :
    sameIgnoringCase (trim a) (trim b) = true := by
  rw [sameIgnoringCase_iff] at h ⊢
  rw [← trim_map_asciiLower, h, trim_map_asciiLower]

/-! ## Marks -/

/-- Whether a character is an ASCII character that is no small letter. -/
def IsMark (m : Char) : Prop := m.toNat < 0x80 ∧ ¬('a' ≤ m ∧ m ≤ 'z')

instance (m : Char) : Decidable (IsMark m) := inferInstanceAs (Decidable (_ ∧ _))

theorem lowerChar_eq_mark {m c : Char} (hm : IsMark m) (h : lowerChar c = m) : c = m := by
  have hk : lowerChar c ≠ 'k' := fun hk => hm.2 (by rw [← h, hk]; decide)
  have hascii : c.toNat < 0x80 := lt_of_lowerChar_lt (h ▸ hm.1) hk
  rw [lowerChar, if_pos hascii] at h
  by_cases hc : 'A' ≤ c ∧ c ≤ 'Z'
  · have hcode := asciiCapital_iff.1 hc
    have hletter : m.toNat = c.toNat + 32 := by rw [← h, toNat_asciiLower, if_pos hcode]
    have hsmall : 0x61 ≤ m.toNat ∧ m.toNat ≤ 0x7A := by omega
    exact absurd hsmall hm.2
  · rwa [asciiLower, if_neg hc] at h

/-- A mark in a lowercase form is a mark of the text. -/
theorem mark_mem_of_mem_lowercase {m : Char} (hm : IsMark m) {t : Text} (h : m ∈ lowercase t) :
    m ∈ t := by
  rcases exists_of_mem_lowercase h with ⟨c, hc, hmark⟩ | hrule
  · exact lowerChar_eq_mark hm hmark.symm ▸ hc
  · simp only [List.mem_cons, List.not_mem_nil, or_false] at hrule
    rcases hrule with rfl | rfl | rfl | rfl <;> exact absurd hm (by decide)

end Text

namespace Version

/-- **Specs that differ in the case of ASCII letters are filed under the same form.** -/
theorem foldedForm_congr {a b : Text} (h : Text.sameIgnoringCase a b = true) :
    foldedForm a = foldedForm b :=
  foldedForm_eq_of_lowercase_eq (Text.lowercase_congr (Text.trim_congr h))

end Version

namespace Comment

/-- Comments that differ in the case of ASCII letters have versions that do so. -/
theorem split_fst_congr {a b : Text} (h : Text.sameIgnoringCase a b = true) :
    Text.sameIgnoringCase (split a).1 (split b).1 = true := by
  have htrim := Text.sameIgnoringCase_iff.1 (Text.trim_congr h)
  rw [Text.sameIgnoringCase_iff, split, split]
  dsimp only
  rw [← Text.firstWord_map_asciiLower, htrim, Text.firstWord_map_asciiLower]

/-- They have remarks that do so, too. -/
theorem split_snd_congr {a b : Text} (h : Text.sameIgnoringCase a b = true) :
    Text.sameIgnoringCase (split a).2 (split b).2 = true := by
  have htrim := Text.sameIgnoringCase_iff.1 (Text.trim_congr h)
  rw [split, split]
  refine Text.trim_congr (Text.sameIgnoringCase_iff.2 ?_)
  rw [← Text.afterFirstWord_map_asciiLower, htrim, Text.afterFirstWord_map_asciiLower]

end Comment

end PinnedActions
