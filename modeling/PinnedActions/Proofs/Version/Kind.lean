import PinnedActions.Proofs.Text.Lowercase
import PinnedActions.Proofs.Text.Trim
import PinnedActions.Proofs.Version.Grammar

/-!
# The kind of a version is in its folded form

A resolver remembers what it found for a version spec under the lowercase of its normal form, here
called the **folded form**.  Specs that are spelled differently may share it.  This file says what
they then have in common.

* `kindOf_foldedForm` — their kind, which can be read off the folded form alone.
* `satisfies_congr` — the tags that satisfy them.
* `digitsOf_normal`, `digitsOf_of_leadingV` — the number that they spell, with or without its `v`.

Only digits, ASCII and no sigma make up a version that is recognised (`isVersionChar`), so nothing
in it depends on its neighbours when it is lowercased.
-/

set_option autoImplicit false

namespace PinnedActions

namespace Version

/-! ## What recognised versions are made of -/

/-- Whether a character may stand in a recognised version. -/
def isVersionChar (c : Char) : Bool := Text.isDigit c || isSuffixChar c || c = '+'

theorem isVersionChar_of_isDigit {c : Char} (h : Text.isDigit c = true) :
    isVersionChar c = true := by
  simp [isVersionChar, h]

theorem IsNumber.forall_isVersionChar {t : Text} (h : IsNumber t) :
    ∀ c ∈ t, isVersionChar c = true :=
  fun c hc => isVersionChar_of_isDigit (h.isDigit c hc)

theorem IsLabel.forall_isVersionChar {t : Text} (h : IsLabel t) :
    ∀ c ∈ t, isVersionChar c = true := by
  obtain ⟨hsign, -, hname⟩ := h
  refine List.forall_mem_cons.2 ⟨?_, fun c hc => by simp [isVersionChar, hname c hc]⟩
  rcases hsign with rfl | rfl <;> decide

/-- No form of the grammar has any other character. -/
theorem Numbered.forall_isVersionChar {kind : Kind} {t : Text} (h : Numbered kind t) :
    ∀ c ∈ t, isVersionChar c = true := by
  have hdot : isVersionChar '.' = true := by decide
  cases h with
  | major ha => exact ha.forall_isVersionChar
  | minor ha hb =>
    simpa [or_imp, forall_and, hdot] using ⟨ha.forall_isVersionChar, hb.forall_isVersionChar⟩
  | exact ha hb hc =>
    simpa [or_imp, forall_and, hdot] using
      ⟨ha.forall_isVersionChar, hb.forall_isVersionChar, hc.forall_isVersionChar⟩
  | labelled ha hb hc hlabel =>
    simpa [or_imp, forall_and, hdot] using ⟨ha.forall_isVersionChar, hb.forall_isVersionChar,
      hc.forall_isVersionChar, hlabel.forall_isVersionChar⟩

theorem Written.forall_isVersionChar {kind : Kind} {t : Text} (h : Written kind t) :
    ∀ c ∈ t, isVersionChar c = true := by
  cases h with
  | plain h => exact h.forall_isVersionChar
  | leadingV h => exact List.forall_mem_cons.2 ⟨by decide, h.forall_isVersionChar⟩

theorem forall_isVersionChar_of_kindOf {t : Text} (h : kindOf t ≠ .literal) :
    ∀ c ∈ t, isVersionChar c = true :=
  (written_iff.2 ⟨h, rfl⟩).forall_isVersionChar

theorem mem_of_mem_dropOne {c d : Char} {t : Text} (h : d ∈ Text.dropOne c t) : d ∈ t := by
  cases t with
  | nil => exact h
  | cons e rest =>
    rw [Text.dropOne] at h
    split at h
    · exact List.mem_cons_of_mem e h
    · exact h

/-- A text whose lowercase form is a recognised version has neither of the two characters with a
rule of their own in it. -/
theorem forall_plain_of_kindOf {t : Text} (h : kindOf (Text.lowercase t) ≠ .literal) :
    ∀ c ∈ t, c ≠ '\u0130' ∧ c ≠ '\u03A3' := by
  intro c hc
  obtain ⟨before, after, hsub⟩ := Text.exists_lowerAt_subset hc
  have hall : ∀ d ∈ Text.lowerAt before c after, isVersionChar d = true :=
    fun d hd => forall_isVersionChar_of_kindOf h d (hsub hd)
  -- each of the two would leave a character in the lowercase form that no version contains
  constructor
  · rintro rfl
    exact absurd (hall '\u0307' (by simp [Text.lowerAt])) (by decide)
  · rintro rfl
    rw [Text.lowerAt, if_neg (by decide), if_pos rfl] at hall
    split at hall
    · exact absurd (hall '\u03C2' (by simp)) (by decide)
    · exact absurd (hall '\u03C3' (by simp)) (by decide)

/-- No character of a recognised version is blank. -/
theorem isBlank_of_isVersionChar {c : Char} (h : isVersionChar c = true) :
    Text.isBlank c = false := by
  have hdigits : (Text.digitRanges.all fun d => Text.isBlankFree d.1 d.2) = true := by
    decide +kernel
  have hmarks : Text.isBlankFree 0x2B 0x7A = true := by decide
  cases hdigit : Text.isDigit c with
  | true =>
    obtain ⟨d, hd, hc⟩ := List.any_eq_true.1 hdigit
    simp only [Bool.and_eq_true, decide_eq_true_eq] at hc
    exact Text.isBlank_of_isBlankFree (List.all_eq_true.1 hdigits d hd) hc
  | false =>
    refine Text.isBlank_of_isBlankFree hmarks ?_
    simp only [isVersionChar, hdigit, isSuffixChar, Text.isAsciiDigit, Text.isAsciiLetter,
      Bool.false_or, Bool.or_eq_true, Bool.and_eq_true, decide_eq_true_eq, Char.le_def,
      UInt32.le_iff_toNat_le, ← Char.toNat_inj] at h
    change ((((0x30 ≤ c.toNat ∧ c.toNat ≤ 0x39 ∨ 0x61 ≤ c.toNat ∧ c.toNat ≤ 0x7A ∨
      0x41 ≤ c.toNat ∧ c.toNat ≤ 0x5A) ∨ c.toNat = 0x5F) ∨ c.toNat = 0x2E) ∨ c.toNat = 0x2D) ∨
      c.toNat = 0x2B at h
    omega

/-- **A recognised version has no white space in it.** -/
theorem noBlanks_of_kindOf {t : Text} (h : kindOf (Text.lowercase t) ≠ .literal) :
    t.NoBlanks := by
  intro c hc
  cases hblank : Text.isBlank c with
  | false => rfl
  | true =>
    have hversion := forall_isVersionChar_of_kindOf h (Text.lowerChar c)
      (Text.lowercase_eq_map (forall_plain_of_kindOf h) ▸ List.mem_map_of_mem hc)
    rw [Text.lowerChar_of_isBlank hblank] at hversion
    exact hblank.symm.trans (isBlank_of_isVersionChar hversion)

/-! ## The normal form -/

theorem ne_capitalV_of_isSmall {c : Char} (h : Text.IsSmall c) : c ≠ 'V' := by
  rintro rfl
  exact absurd h.lowerChar (by decide)

/-- Putting a `v` in front changes nothing once a leading `v` does not count. -/
theorem dropOne_withLeadingV {t : Text} (h : ∀ c ∈ t, Text.IsSmall c) :
    Text.dropOne 'v' (withLeadingV t) = Text.dropOne 'v' t := by
  cases t with
  | nil => rfl
  | cons c rest =>
    have hV : c ≠ 'V' := ne_capitalV_of_isSmall (h c (by simp))
    rw [withLeadingV]
    by_cases hv : c = 'v'
    · rw [if_pos (.inl hv), hv]
    · rw [if_neg (by simp [hv, hV])]
      split
      · simp [Text.dropOne, hv]
      · rfl

theorem isSmall_of_mem_withLeadingV {t : Text} (h : ∀ c ∈ t, Text.IsSmall c) :
    ∀ c ∈ withLeadingV t, Text.IsSmall c := by
  have hv : Text.IsSmall 'v' := Text.isSmall_of_ascii (by decide) (by decide)
  cases t with
  | nil => simp [withLeadingV]
  | cons c rest =>
    rw [withLeadingV]
    split
    · intro d hd
      rcases List.mem_cons.1 hd with rfl | hd
      · exact hv
      · exact h d (by simp [hd])
    · split
      · intro d hd
        rcases List.mem_cons.1 hd with rfl | hd
        · exact hv
        · exact h d hd
      · exact h

theorem classify_of_literal {spec : Text}
    (h : kindOf (Text.lowercase (Text.trim spec)) = .literal) :
    classify spec = (.literal, Text.trim spec) := by
  simp only [classify, h]

theorem classify_of_recognised {spec : Text}
    (h : kindOf (Text.lowercase (Text.trim spec)) ≠ .literal) :
    classify spec =
      (kindOf (Text.lowercase (Text.trim spec)),
        withLeadingV (Text.lowercase (Text.trim spec))) := by
  simp only [classify]

theorem classify_fst (spec : Text) :
    (classify spec).1 = kindOf (Text.lowercase (Text.trim spec)) := by
  by_cases h : kindOf (Text.lowercase (Text.trim spec)) = .literal
  · rw [classify_of_literal h, h]
  · rw [classify_of_recognised h]

/-! ## The folded form -/

/-- What a version spec is remembered under: the lowercase of its normal form. -/
def foldedForm (spec : Text) : Text := Text.lowercase (classify spec).2

theorem foldedForm_of_recognised {spec : Text} (h : (classify spec).1 ≠ .literal) :
    foldedForm spec = (classify spec).2 := by
  rw [classify_fst] at h
  rw [foldedForm, classify_of_recognised h]
  exact Text.lowercase_eq_self
    (isSmall_of_mem_withLeadingV fun _ => Text.isSmall_of_mem_lowercase)

theorem foldedForm_of_literal {spec : Text} (h : (classify spec).1 = .literal) :
    foldedForm spec = Text.lowercase (Text.trim spec) := by
  rw [classify_fst] at h
  rw [foldedForm, classify_of_literal h]

/-- Specs with one lowercase form are filed under one folded form. -/
theorem foldedForm_eq_of_lowercase_eq {a b : Text}
    (h : Text.lowercase (Text.trim a) = Text.lowercase (Text.trim b)) :
    foldedForm a = foldedForm b := by
  have hkind : (classify a).1 = (classify b).1 := by rw [classify_fst, classify_fst, h]
  by_cases ha : (classify a).1 = .literal
  · rw [foldedForm_of_literal ha, foldedForm_of_literal (hkind ▸ ha), h]
  · have hb : (classify b).1 ≠ .literal := hkind ▸ ha
    rw [foldedForm_of_recognised ha, foldedForm_of_recognised hb]
    rw [classify_fst] at ha hb
    rw [classify_of_recognised ha, classify_of_recognised hb, h]

/-- **The kind of a spec is in its folded form**, so specs that share the form share the kind. -/
theorem kindOf_foldedForm (spec : Text) : kindOf (foldedForm spec) = (classify spec).1 := by
  by_cases h : (classify spec).1 = .literal
  · rw [foldedForm_of_literal h, classify_fst]
  · rw [foldedForm_of_recognised h, classify_fst]
    rw [classify_fst] at h
    rw [classify_of_recognised h, kindOf, kindOf,
      dropOne_withLeadingV fun _ => Text.isSmall_of_mem_lowercase]

theorem kind_eq_of_foldedForm_eq {a b : Text} (h : foldedForm a = foldedForm b) :
    (classify a).1 = (classify b).1 := by
  rw [← kindOf_foldedForm, ← kindOf_foldedForm, h]

/-- Recognised specs with one folded form have one normal form. -/
theorem normal_eq_of_foldedForm_eq {a b : Text} (h : foldedForm a = foldedForm b)
    (ha : (classify a).1 ≠ .literal) : (classify a).2 = (classify b).2 := by
  have hb : (classify b).1 ≠ .literal := kind_eq_of_foldedForm_eq h ▸ ha
  rw [← foldedForm_of_recognised ha, ← foldedForm_of_recognised hb, h]

theorem withLeadingV_eq_nil_iff {t : Text} : withLeadingV t = [] ↔ t = [] := by
  cases t with
  | nil => simp [withLeadingV]
  | cons c rest =>
    rw [withLeadingV]
    split
    · simp
    · split <;> simp

/-- Nothing but white space has an empty folded form. -/
theorem foldedForm_eq_nil_iff {spec : Text} : foldedForm spec = [] ↔ Text.trim spec = [] := by
  by_cases h : (classify spec).1 = .literal
  · rw [foldedForm_of_literal h, Text.lowercase_eq_nil_iff]
  · rw [foldedForm_of_recognised h]
    rw [classify_fst] at h
    rw [classify_of_recognised h, withLeadingV_eq_nil_iff, Text.lowercase_eq_nil_iff]

theorem classify_trim (spec : Text) : classify (Text.trim spec) = classify spec := by
  simp only [classify, Text.trim_trim]

/-! ## Satisfaction -/

/-- Whether a tag satisfies a spec depends on the folded form alone. -/
theorem satisfies_congr {a b : Text} (h : Text.lowercase a = Text.lowercase b) (tag : Text)
    (kind : Kind) : satisfies tag a kind = satisfies tag b kind := by
  cases kind <;> simp [satisfies, digitsOf, h]

theorem digitsOf_normal {spec : Text} (h : (classify spec).1 ≠ .literal) :
    digitsOf (classify spec).2 = digitsOf (Text.trim spec) := by
  have hl : Text.lowercase (classify spec).2 = (classify spec).2 := foldedForm_of_recognised h
  rw [classify_fst] at h
  rw [digitsOf, hl, classify_of_recognised h,
    dropOne_withLeadingV fun _ => Text.isSmall_of_mem_lowercase, digitsOf]

/-- A `v` in front is lowered by itself. -/
theorem lowercase_cons_of_leadingV {c : Char} {rest : Text} (hc : c = 'v' ∨ c = 'V')
    (h : ∀ d ∈ rest, d ≠ '\u0130' ∧ d ≠ '\u03A3') :
    Text.lowercase (c :: rest) = 'v' :: Text.lowercase rest := by
  have hplain : ∀ d ∈ c :: rest, d ≠ '\u0130' ∧ d ≠ '\u03A3' := by
    refine List.forall_mem_cons.2 ⟨?_, h⟩
    rcases hc with rfl | rfl <;> decide
  rw [Text.lowercase_eq_map hplain, List.map_cons, Text.lowerChar_eq_v_iff.2 hc,
    Text.lowercase_eq_map h]

/-- A recognised version spells the same number without its `v`. -/
theorem digitsOf_of_leadingV {c : Char} {rest : Text} (hc : c = 'v' ∨ c = 'V')
    (h : kindOf (Text.lowercase (c :: rest)) ≠ .literal) :
    digitsOf rest = digitsOf (c :: rest) := by
  have hplain := forall_plain_of_kindOf h
  have hall := lowercase_cons_of_leadingV hc fun d hd => hplain d (List.mem_cons_of_mem c hd)
  rw [hall, kindOf, Text.dropOne, if_pos rfl] at h
  rw [digitsOf, digitsOf, hall, Text.dropOne, if_pos rfl]
  exact dropOne_of_numbered (numbered_iff.2 ⟨h, rfl⟩)

end Version

end PinnedActions
