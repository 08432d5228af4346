import PinnedActions.Proofs.Resolver.WriteOnce
import PinnedActions.Proofs.Version.Classify
import PinnedActions.Proofs.Version.Hash

/-!
# Versions with and without their `v`

A version that is recognised may be written with a small `v`, with a capital `V` or without either,
and all three are meant to be one version: of one kind, with one normal form, filed under one key.
Two parts of the program decide on what that rests.  The grammar takes the decimal digits of every
script for digits, and what puts the `v` in front of a number takes those of ASCII only.

* `exists_number` — a recognised version is a number, in a wide sense, with or without a `v`.
* `classify_cons_v` and `classify_number` — what the three spellings are classified as.
* `OneVersion` — what two spellings of one version have in common.
* `leading_v_does_not_matter` — the three spellings are one version if the number starts with a
  digit of ASCII.  If it starts with another digit, only the two with a `v` are.
* `foreign_digit_gets_no_v` — there is such a version.
-/

set_option autoImplicit false

namespace PinnedActions

namespace Version

variable {kind : Kind} {spec number rest : Text} {v digit : Char}

/-- The spellings of a version with a `v`. -/
def withV (number : Text) : List Text := ['v' :: number, 'V' :: number]

theorem forall_mem_withV {p : Text → Prop} :
    (∀ a ∈ withV number, p a) ↔ ∀ v, v = 'v' ∨ v = 'V' → p (v :: number) := by
  simp [withV]

/-- A recognised version is a number with or without a `v`. -/
theorem exists_number (h : (classify spec).1 ≠ .literal) : ∃ number,
    Text.trim spec ∈ number :: withV number ∧
      Numbered (classify spec).1 (Text.lowercase number) := by
  have hwritten : Written (classify spec).1 (Text.lowercase (Text.trim spec)) :=
    (classify_fst_eq_iff h).1 rfl
  have hplain := forall_plain_of_kindOf (classify_fst spec ▸ h)
  generalize hlower : Text.lowercase (Text.trim spec) = lower at hwritten
  cases hwritten with
  | plain hnumber => exact ⟨Text.trim spec, List.mem_cons_self, hlower ▸ hnumber⟩
  | leadingV hnumber =>
    cases htrim : Text.trim spec with
    | nil =>
      rw [htrim] at hlower
      cases hlower
    | cons c number =>
      rw [htrim] at hlower hplain
      rw [Text.lowercase_eq_map hplain, List.map_cons, List.cons.injEq] at hlower
      have hrest : Text.lowercase number = number.map Text.lowerChar :=
        Text.lowercase_eq_map fun d hd => hplain d (List.mem_cons_of_mem c hd)
      refine ⟨number, List.mem_cons_of_mem _ ?_, hrest.trans hlower.2 ▸ hnumber⟩
      rcases Text.lowerChar_eq_v_iff.1 hlower.1 with rfl | rfl <;> simp [withV]

/-- With a `v`, a number is a version whose normal form has a small `v`. -/
theorem classify_cons_v (hv : v = 'v' ∨ v = 'V') (h : Numbered kind (Text.lowercase number)) :
    classify (v :: number) = (kind, 'v' :: Text.lowercase number) := by
  obtain ⟨hkind, hnumbers⟩ := written_iff.1 (.plain h)
  have hlower : Text.lowercase (v :: number) = 'v' :: Text.lowercase number :=
    lowercase_cons_of_leadingV hv (forall_plain_of_kindOf (hnumbers ▸ hkind))
  have hwritten : Written kind (Text.lowercase (v :: number)) := hlower ▸ .leadingV h
  rw [classify_of_written hwritten, hlower, withLeadingV, if_pos (.inl rfl)]

/-- Without one, the normal form has a `v` if the first digit is one of ASCII. -/
theorem classify_number (h : Numbered kind (Text.lowercase number))
    (hlower : Text.lowercase number = digit :: rest) :
    classify number =
      (kind, if Text.isAsciiDigit digit = true then 'v' :: digit :: rest else digit :: rest) := by
  have hdigit : ¬(digit = 'v' ∨ digit = 'V') := by
    obtain ⟨d, more, hcons, hd⟩ := h.exists_digit
    obtain rfl : d = digit := (List.cons.inj (hcons.symm.trans hlower)).1
    rintro (rfl | rfl) <;> exact absurd hd (by decide)
  rw [classify_of_written (.plain h), hlower, withLeadingV, if_neg hdigit]

end Version

namespace Resolver

open Version

variable {spec number a b : Text}

/-- What two spellings of one version have in common: their kind and their normal form, what their
results are filed under, and that after one of them is resolved the other has the same result, with
nothing fetched. -/
structure OneVersion (a b : Text) : Prop where
  classified : classify a = classify b
  key (owner repo : Text) : specKey owner repo a = specKey owner repo b
  answered (source : Source) (owner repo : Text) (s t : Session) (r : Resolution) :
    (resolveSpec source owner repo a).runFrom s = some (.ok r, t) →
      (resolveSpec source owner repo b).runFrom t = some (.ok r, t)

theorem oneVersion_of_classify_eq (h : classify a = classify b) : OneVersion a b := by
  have hkey : ∀ owner repo, specKey owner repo a = specKey owner repo b := fun owner repo => by
    rw [specKey, specKey, foldedForm, foldedForm, h]
  refine ⟨h, hkey, fun source owner repo s t r hrun => ?_⟩
  have hspec : Text.trim a ≠ [] := fun hblank => by
    rw [resolveSpec_of_blank hblank] at hrun
    cases hrun
  exact runFrom_resolveSpec_of_specKey_eq hspec (lookup_of_resolveSpec hrun) (hkey owner repo).symm

/-- What starts with a digit in lowercase has no `v` to be taken off. -/
theorem withoutV_of_digit {digit : Char} {rest : Text} (hdigit : Text.isDigit digit = true)
    (hlower : Text.lowercase number = digit :: rest) : withoutV number = number := by
  have hv : 'v' ≠ digit := by
    rintro rfl
    exact absurd hdigit (by decide)
  cases number with
  | nil => rfl
  | cons c more =>
    rw [withoutV, if_neg]
    rintro (rfl | rfl) <;> exact hv (List.cons.inj hlower).1

/-- **All spellings are looked for under the same names**, if the number differs from its lowercase
form in nothing but the case of ASCII letters. -/
theorem spellings_of_digit {digit : Char} {rest : Text} (hdigit : Text.isDigit digit = true)
    (hlower : Text.lowercase number = digit :: rest)
    (hsame : Text.sameIgnoringCase (digit :: rest) number = true) :
    ∀ a ∈ number :: withV number, spellings a ('v' :: digit :: rest) =
      ['v' :: digit :: rest, number] := by
  have hbare : withoutV number = number := withoutV_of_digit hdigit hlower
  have hne : number ≠ [] := by
    rintro rfl
    cases hlower
  have hmap := Text.sameIgnoringCase_iff.1 hsame
  have hself : Text.sameIgnoringCase number number = true := Text.sameIgnoringCase_iff.2 rfl
  have hlonger : Text.sameIgnoringCase ('v' :: digit :: rest) number = false := by
    rw [Bool.eq_false_iff, Ne, Text.sameIgnoringCase_iff, ← hmap]
    exact fun h => absurd (congrArg List.length h) (by simp)
  have hv : ∀ v, v = 'v' ∨ v = 'V' →
      Text.sameIgnoringCase ('v' :: digit :: rest) (v :: number) = true := by
    rintro v (rfl | rfl) <;> rw [Text.sameIgnoringCase_iff, List.map_cons, hmap] <;> rfl
  refine List.forall_mem_cons.2 ⟨?_, forall_mem_withV.2 fun v hcase => ?_⟩
  · simp [spellings, distinctIgnoringCase, hbare, hne, hself, hlonger]
  · simp [spellings, distinctIgnoringCase, withoutV, hcase, hne, hv v hcase, hlonger]

/-- **The leading `v` of a version does not matter if its number starts with a digit of ASCII.**  A
version that is recognised is, up to white space around it, a number that starts with some digit,
with or without a `v`.

* The spellings with and without a `v` are of one kind.
* Those with a `v` are one version, and its normal form is a `v` and the number in lowercase.
* If the digit is one of ASCII, all are that version.  They are looked for under the same names,
  too, if the number differs from its lowercase form in nothing but the case of ASCII letters.
* If it is another digit, the spelling without a `v` has a normal form without a `v`, and is filed
  under another key. -/
theorem leading_v_does_not_matter (h : (classify spec).1 ≠ .literal) :
    ∃ (number : Text) (digit : Char) (rest : Text),
      Text.trim spec ∈ number :: withV number ∧ Text.lowercase number = digit :: rest ∧
        Text.isDigit digit = true ∧
      (∀ a, Text.trim a ∈ number :: withV number → (classify a).1 = (classify spec).1) ∧
      (∀ a, Text.trim a ∈ withV number → (classify a).2 = 'v' :: digit :: rest ∧
        ∀ b, Text.trim b ∈ withV number → OneVersion a b) ∧
      (Text.isAsciiDigit digit = true → ∀ a, Text.trim a ∈ number :: withV number →
        (classify a).2 = 'v' :: digit :: rest ∧
          (∀ b, Text.trim b ∈ number :: withV number → OneVersion a b) ∧
          (Text.sameIgnoringCase (digit :: rest) number = true →
            spellings (Text.trim a) (classify a).2 = ['v' :: digit :: rest, number])) ∧
      (Text.isAsciiDigit digit = false → ∀ a, Text.trim a = number →
        (classify a).2 = digit :: rest ∧ ∀ b, Text.trim b ∈ withV number →
          ∀ owner repo, specKey owner repo a ≠ specKey owner repo b) := by
  obtain ⟨number, hmem, hnumbered⟩ := exists_number h
  obtain ⟨digit, rest, hlower, hdigit⟩ := hnumbered.exists_digit
  have hbare : ∀ a, Text.trim a = number → classify a = ((classify spec).1,
      if Text.isAsciiDigit digit = true then 'v' :: digit :: rest else digit :: rest) :=
    fun a ha => by rw [← classify_trim, ha, classify_number hnumbered hlower]
  have hwithV : ∀ a, Text.trim a ∈ withV number →
      classify a = ((classify spec).1, 'v' :: digit :: rest) := fun a ha => by
    have hall : ∀ b ∈ withV number, classify b = ((classify spec).1, 'v' :: digit :: rest) :=
      forall_mem_withV.2 fun v hv => by rw [classify_cons_v hv hnumbered, hlower]
    rw [← classify_trim, hall _ ha]
  have hkind : ∀ a, Text.trim a ∈ number :: withV number → (classify a).1 = (classify spec).1 :=
    fun a ha => by
      rcases List.mem_cons.1 ha with ha | ha
      · rw [hbare a ha]
      · rw [hwithV a ha]
  refine ⟨number, digit, rest, hmem, hlower, hdigit, hkind, fun a ha => ⟨by rw [hwithV a ha],
    fun b hb => oneVersion_of_classify_eq ((hwithV a ha).trans (hwithV b hb).symm)⟩,
    fun hascii => ?_, fun hforeign a ha => ?_⟩
  · have hall : ∀ a, Text.trim a ∈ number :: withV number →
        classify a = ((classify spec).1, 'v' :: digit :: rest) := fun a ha => by
      rcases List.mem_cons.1 ha with ha | ha
      · rw [hbare a ha, if_pos hascii]
      · exact hwithV a ha
    refine fun a ha => ⟨by rw [hall a ha], fun b hb => ?_, fun hsame => ?_⟩
    · exact oneVersion_of_classify_eq ((hall a ha).trans (hall b hb).symm)
    · rw [hall a ha]
      exact spellings_of_digit hdigit hlower hsame _ ha
  · have hnormal : (classify a).2 = digit :: rest := by
      rw [hbare a ha, if_neg (by simp [hforeign])]
    refine ⟨hnormal, fun b hb owner repo hkey => ?_⟩
    have hsame := normal_eq_of_foldedForm_eq (key_eq_key_iff.1 hkey).2.2
      (by rwa [hkind a (ha ▸ List.mem_cons_self)])
    rw [hnormal, hwithV b hb] at hsame
    exact absurd (congrArg List.length hsame) (by simp)

/-- `V1.2.3-RC1` is one version with `1.2.3-RC1`, and both are looked for under two names. -/
theorem leading_v_does_not_matter_capital :
    (classify " V1.2.3-RC1".toList).1 ≠ .literal ∧ Text.isAsciiDigit '1' = true ∧
    Text.sameIgnoringCase "1.2.3-rc1".toList "1.2.3-RC1".toList = true ∧
    OneVersion "1.2.3-RC1".toList " V1.2.3-RC1".toList ∧
    spellings (Text.trim " V1.2.3-RC1".toList) (classify " V1.2.3-RC1".toList).2 =
      ["v1.2.3-rc1".toList, "1.2.3-RC1".toList] := by
  have hkind : (classify " V1.2.3-RC1".toList).1 ≠ .literal := by decide +kernel
  have hcapital : Text.trim " V1.2.3-RC1".toList = 'V' :: "1.2.3-RC1".toList := by decide +kernel
  have hplain : Text.trim "1.2.3-RC1".toList = "1.2.3-RC1".toList := by decide +kernel
  have hsame : Text.sameIgnoringCase "1.2.3-rc1".toList "1.2.3-RC1".toList = true := by decide
  obtain ⟨number, digit, rest, hmem, hlower, hdigit, -, -, hascii, -⟩ :=
    leading_v_does_not_matter hkind
  have hnumber : "1.2.3-RC1".toList = number := by
    rw [hcapital] at hmem
    rcases List.mem_cons.1 hmem with rfl | hmem
    · obtain rfl : 'v' = digit := (List.cons.inj hlower).1
      exact absurd hdigit (by decide)
    · rcases List.mem_pair.1 hmem with h | h
      · exact absurd (List.cons.inj h).1 (by decide)
      · exact (List.cons.inj h).2
  subst hnumber
  have hcons : '1' :: ".2.3-rc1".toList = digit :: rest :=
    (by decide +kernel : _ = Text.lowercase "1.2.3-RC1".toList).trans hlower
  obtain ⟨rfl, rfl⟩ := List.cons.inj hcons
  have hall := hascii (by decide)
  exact ⟨hkind, by decide, hsame, (hall _ (hplain ▸ List.mem_cons_self)).2.1 _ hmem,
    (hall _ hmem).2.2 hsame⟩

/-- The Arabic digit three is a major version that gets no `v`; with a `v` it has another normal
form, and is filed under another key. -/
theorem foreign_digit_gets_no_v :
    (classify "\u0663".toList).1 = .major ∧ (classify "v\u0663".toList).1 = .major ∧
    (¬∃ digit rest, (classify "\u0663".toList).2 = 'v' :: digit :: rest) ∧
    (classify "\u0663".toList).2 ≠ (classify "v\u0663".toList).2 ∧
    specKey ['o'] ['r'] "\u0663".toList ≠ specKey ['o'] ['r'] "v\u0663".toList := by
  have hbare : classify "\u0663".toList = (.major, "\u0663".toList) := by decide +kernel
  have hwithV : classify "v\u0663".toList = (.major, "v\u0663".toList) := by decide +kernel
  refine ⟨by rw [hbare], by rw [hwithV], ?_, by rw [hbare, hwithV]; decide, by decide +kernel⟩
  rintro ⟨digit, rest, h⟩
  rw [hbare] at h
  exact absurd h (by simp)

end Resolver

end PinnedActions
