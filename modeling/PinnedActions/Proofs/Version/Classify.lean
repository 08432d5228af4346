import PinnedActions.Proofs.Version.Kind

/-!
# What classifying a version comes to

`Version.classify` puts a spec into one of four kinds and gives it a normal form.  The kind is read
off the grammar of versions, and the normal form keeps it.

* `classify_follows_grammar` — a spec is of a kind exactly when its trimmed form is, in lowercase, a
  version of that kind.  No text is a version of two kinds, so it does not matter which is tried
  first.
* `classify_classify` — the normal form of a spec is classified as the spec is.
* `normal_form_is_stable` — so what a spec is remembered under has its kind in it, and specs that
  are remembered under one form are of one kind.
-/

set_option autoImplicit false

namespace PinnedActions

namespace Version

variable {kind : Kind} {spec t : Text}

/-! ## Kinds -/

/-- A spec is of a kind that is recognised exactly when it is a version of that kind. -/
theorem classify_fst_eq_iff (hkind : kind ≠ .literal) :
    (classify spec).1 = kind ↔ Written kind (Text.lowercase (Text.trim spec)) := by
  rw [classify_fst, written_iff]
  exact (and_iff_right hkind).symm

theorem classify_fst_eq_literal_iff :
    (classify spec).1 = .literal ↔ ∀ kind, ¬Written kind (Text.lowercase (Text.trim spec)) := by
  rw [classify_fst, kindOf_eq_literal_iff]

/-- The first of some kinds that a text is a version of, and literal when it is none of theirs. -/
def firstKind (tests : List Kind) (t : Text) : Kind :=
  (tests.find? fun kind => decide (Written kind t)).getD .literal

/-- Trying the kinds one after the other, in any order, finds the one that there is. -/
theorem firstKind_eq {tests : List Kind} (h : kindOf t ∈ tests ∨ kindOf t = .literal) :
    firstKind tests t = kindOf t := by
  rw [firstKind]
  cases hfound : tests.find? fun kind => decide (Written kind t) with
  | some kind =>
    have hwritten : Written kind t := by simpa using List.find?_some hfound
    exact (written_iff.1 hwritten).2.symm
  | none =>
    rw [List.find?_eq_none] at hfound
    by_contra hne
    have hkind : kindOf t ≠ .literal := fun h => hne h.symm
    exact hfound _ (h.resolve_right hkind) (decide_eq_true (written_iff.2 ⟨hkind, rfl⟩))

/-- **Specs are classified by the grammar of versions.**  Let `s` be the trimmed spec in lowercase.

* A spec is exact, minor or major when `s` is a version of that kind, and literal when it is a
  version of none.
* No text is a version of two kinds, so all orders in which they may be tried come to the same.
* The normal form of a literal spec is the trimmed spec. -/
theorem classify_follows_grammar (spec : Text) :
    ((classify spec).1 = .exact ↔ Written .exact (Text.lowercase (Text.trim spec))) ∧
    ((classify spec).1 = .minor ↔ Written .minor (Text.lowercase (Text.trim spec))) ∧
    ((classify spec).1 = .major ↔ Written .major (Text.lowercase (Text.trim spec))) ∧
    ((classify spec).1 = .literal ↔ ∀ kind, ¬Written kind (Text.lowercase (Text.trim spec))) ∧
    (∀ (t : Text) (kind kind' : Kind), Written kind t → Written kind' t → kind = kind') ∧
    (∀ tests : List Kind, tests.Perm [.exact, .minor, .major] →
      firstKind tests (Text.lowercase (Text.trim spec)) = (classify spec).1) ∧
    ((classify spec).1 = .literal → (classify spec).2 = Text.trim spec) := by
  refine ⟨classify_fst_eq_iff (by decide), classify_fst_eq_iff (by decide),
    classify_fst_eq_iff (by decide), classify_fst_eq_literal_iff, fun _ _ _ => Written.kind_eq,
    fun tests htests => ?_, fun h => ?_⟩
  · rw [classify_fst]
    refine firstKind_eq ?_
    cases kindOf (Text.lowercase (Text.trim spec)) <;> simp [htests.mem_iff]
  · rw [classify_fst] at h
    rw [classify_of_literal h]

/-- The Kelvin sign is a letter `k` in lowercase, so it may stand in the label of an exact version.
Two numbers with a label are no version. -/
theorem classify_follows_grammar_of_kelvin :
    (classify " V1.2.3-\u212A ".toList).1 = .exact ∧
    Written .exact (Text.lowercase (Text.trim " V1.2.3-\u212A ".toList)) ∧
    ¬Written .minor (Text.lowercase (Text.trim " V1.2.3-\u212A ".toList)) ∧
    [Kind.major, .minor, .exact].Perm [.exact, .minor, .major] ∧
    firstKind [.major, .minor, .exact] (Text.lowercase (Text.trim " V1.2.3-\u212A ".toList)) =
      .exact ∧
    (classify " V1.2-\u212A ".toList).1 = .literal ∧
    (classify " V1.2-\u212A ".toList).2 = Text.trim " V1.2-\u212A ".toList := by
  have hkind : (classify " V1.2.3-\u212A ".toList).1 = .exact := by decide +kernel
  have hliteral : (classify " V1.2-\u212A ".toList).1 = .literal := by decide +kernel
  have htests : [Kind.major, .minor, .exact].Perm [.exact, .minor, .major] := by decide
  obtain ⟨hexact, -, -, -, hunique, horder, -⟩ := classify_follows_grammar " V1.2.3-\u212A ".toList
  obtain ⟨-, -, -, -, -, -, hnormal⟩ := classify_follows_grammar " V1.2-\u212A ".toList
  have hwritten := hexact.1 hkind
  exact ⟨hkind, hwritten, fun h => absurd (hunique _ _ _ hwritten h) (by decide), htests,
    (horder _ htests).trans hkind, hliteral, hnormal hliteral⟩

/-! ## Normal forms -/

/-- A version with a `v` in front is left as it is. -/
theorem withLeadingV_withLeadingV (t : Text) : withLeadingV (withLeadingV t) = withLeadingV t := by
  cases t with
  | nil => rfl
  | cons c rest =>
    by_cases hv : c = 'v' ∨ c = 'V'
    · simp [withLeadingV, hv]
    · by_cases hdigit : Text.isAsciiDigit c = true <;> simp [withLeadingV, hv, hdigit]

/-- What is a version in lowercase needs no trimming. -/
theorem classify_of_written (h : Written kind (Text.lowercase t)) :
    classify t = (kind, withLeadingV (Text.lowercase t)) := by
  obtain ⟨hkind, hwritten⟩ := written_iff.1 h
  have hrecognised : kindOf (Text.lowercase t) ≠ .literal := hwritten ▸ hkind
  have htrim : Text.trim t = t :=
    Text.trim_of_isTrimmed (Text.isTrimmed_of_noBlanks (noBlanks_of_kindOf hrecognised))
  rw [classify_of_recognised (by rwa [htrim]), htrim, hwritten]

/-- What a recognised spec is remembered under is a version of its kind. -/
theorem written_foldedForm (h : (classify spec).1 ≠ .literal) :
    Written (classify spec).1 (foldedForm spec) :=
  written_iff.2 ⟨h, kindOf_foldedForm spec⟩

/-- **A normal form is its own normal form, of the same kind.** -/
theorem classify_classify (spec : Text) : classify (classify spec).2 = classify spec := by
  by_cases h : (classify spec).1 = .literal
  · have hnormal : (classify spec).2 = Text.trim spec := by
      rw [classify_of_literal (classify_fst spec ▸ h)]
    rw [hnormal, classify_trim]
  · have hnormal : (classify spec).2 = withLeadingV (Text.lowercase (Text.trim spec)) := by
      rw [classify_of_recognised (classify_fst spec ▸ h)]
    have hlower : Text.lowercase (classify spec).2 = (classify spec).2 := foldedForm_of_recognised h
    rw [classify_of_written (written_foldedForm h), hlower, hnormal, withLeadingV_withLeadingV,
      ← hnormal]

/-- **Normal forms are stable, and they keep the kinds apart.**

* A normal form is classified as the spec that it is the normal form of.
* The kind of a spec is the one that the normal form is a version of in lowercase.
* So specs with the same normal form in lowercase, for which one result is remembered, are of the
  same kind. -/
theorem normal_form_is_stable :
    (∀ spec : Text, classify (classify spec).2 = classify spec) ∧
    (∀ (spec : Text) (kind : Kind), kind ≠ .literal →
      ((classify spec).1 = kind ↔ Written kind (Text.lowercase (classify spec).2))) ∧
    ∀ a b : Text, Text.lowercase (classify a).2 = Text.lowercase (classify b).2 →
      (classify a).1 = (classify b).1 := by
  refine ⟨classify_classify, fun spec kind hkind => ?_, fun a b h => kind_eq_of_foldedForm_eq h⟩
  rw [← kindOf_foldedForm, written_iff]
  exact (and_iff_right hkind).symm

/-- `V1.2` and ` 1.2` are remembered under one form.  A capital sigma is another letter in lowercase
where a word ends, and no version has any of them. -/
theorem normal_form_is_stable_of_twoSpellings :
    Text.lowercase (classify "V1.2".toList).2 = Text.lowercase (classify " 1.2".toList).2 ∧
    (classify "V1.2".toList).1 = (classify " 1.2".toList).1 ∧
    Written .minor (Text.lowercase (classify "V1.2".toList).2) ∧
    classify (classify " 1.2.3-x\u03A3".toList).2 = (.literal, "1.2.3-x\u03A3".toList) := by
  obtain ⟨hstable, hwritten, hkinds⟩ := normal_form_is_stable
  have hforms : Text.lowercase (classify "V1.2".toList).2 =
      Text.lowercase (classify " 1.2".toList).2 := by decide +kernel
  exact ⟨hforms, hkinds _ _ hforms, (hwritten _ _ (by decide)).1 (by decide +kernel),
    (hstable _).trans (by decide +kernel)⟩

end Version

end PinnedActions
