import PinnedActions.Proofs.Text.Cut
import PinnedActions.Proofs.Version.Kind

/-!
# Versions, component by component

The **components** of a version are what stands between its dots once it is in lowercase and without
its leading `v`.  A minor or a major version is satisfied by the tags whose components begin with
its own (`satisfies_iff_prefix`).  What decides this looks at the characters: the tag has to be the
version, or to go on with a dot.  Splitting at the dots turns the one into the other
(`continues_iff`), also where components are empty.

So `v2` does not take in `v20`, a version takes in all that a longer one takes in, and no tag is of
two major versions (`satisfies_by_components`).
-/

set_option autoImplicit false

namespace PinnedActions

/-! ## Lowercase beginnings -/

namespace Text

theorem lowerAt_of_ne_sigma {c : Char} (hc : c ≠ '\u03A3') (before before' after after' : Text) :
    lowerAt before c after = lowerAt before' c after' := by
  rw [lowerAt, lowerAt, if_neg hc, if_neg hc]

/-- A beginning without a capital sigma is lowered whatever comes after it. -/
theorem lowerAfter_append {t : Text} (ht : '\u03A3' ∉ t) (before rest : Text) :
    lowerAfter before (t ++ rest) =
      lowerAfter before t ++ lowerAfter (t.reverse ++ before) rest := by
  induction t generalizing before with
  | nil => rfl
  | cons c t ih =>
    obtain ⟨hc, ht⟩ := not_or.1 (List.mem_cons.not.1 ht)
    rw [List.cons_append, lowerAfter, lowerAfter, ih ht, List.append_assoc, List.reverse_cons,
      List.append_assoc, List.singleton_append,
      lowerAt_of_ne_sigma (Ne.symm hc) before before (t ++ rest) t]

end Text

namespace Version

/-! ## Components -/

/-- The components of a version: what stands between the dots of the number that it spells. -/
def components (t : Text) : List Text := (digitsOf t).splitOn '.'

theorem splitOn_dot_injective {a b : Text} (h : a.splitOn '.' = b.splitOn '.') : a = b := by
  calc a = ['.'].intercalate (a.splitOn '.') := (List.intercalate_splitOn '.').symm
    _ = ['.'].intercalate (b.splitOn '.') := by rw [h]
    _ = b := List.intercalate_splitOn '.'

theorem prefix_of_continues {wanted tag : Text} (h : continues wanted tag = true) :
    wanted <+: tag := by
  by_contra hnot
  rw [continues, Text.isPrefixOf?_eq_none_iff.2 hnot] at h
  cases h

/-- **A number continues another exactly when its components begin with those of the other.** -/
theorem continues_iff {wanted tag : Text} :
    continues wanted tag = true ↔ wanted.splitOn '.' <+: tag.splitOn '.' := by
  constructor
  · intro h
    unfold continues at h
    split at h
    · rename_i hwhole
      rw [Text.isPrefixOf?_eq_some_iff.1 hwhole, List.append_nil]
    · rename_i c rest hrest
      rw [Text.isPrefixOf?_eq_some_iff.1 hrest, of_decide_eq_true h,
        List.splitOn_append_cons_self]
      exact List.prefix_append _ _
    · cases h
  · rintro ⟨more, hmore⟩
    by_cases hnil : more = []
    · rw [hnil, List.append_nil] at hmore
      have hwhole : wanted.isPrefixOf? tag = some [] :=
        Text.isPrefixOf?_eq_some_iff.2 (by rw [splitOn_dot_injective hmore, List.append_nil])
      rw [continues, hwhole]
    · -- the components that are left are those of what is left of the tag after a dot
      have hrest : (['.'].intercalate more).splitOn '.' = more :=
        List.splitOn_intercalate '.' (fun part hpart =>
          Text.not_mem_of_mem_splitOn (hmore ▸ List.mem_append_right _ hpart)) hnil
      have htag : tag = wanted ++ '.' :: ['.'].intercalate more := splitOn_dot_injective (by
        rw [List.splitOn_append_cons_self, hrest, hmore])
      rw [continues, Text.isPrefixOf?_eq_some_iff.2 htag]
      rfl

/-- Whether versions of a kind are satisfied by every tag that continues them. -/
def Kind.IsOpen (kind : Kind) : Prop := kind = .minor ∨ kind = .major

/-- **A minor or major version is satisfied by the tags whose components begin with its own.** -/
theorem satisfies_iff_prefix {kind : Kind} (hkind : kind.IsOpen) (tag normalized : Text) :
    satisfies tag normalized kind = true ↔ components normalized <+: components tag := by
  rcases hkind with rfl | rfl <;> exact continues_iff

/-! ## Versions with one component -/

theorem isSmall_of_mem_digitsOf {t : Text} {c : Char} (h : c ∈ digitsOf t) : Text.IsSmall c :=
  Text.isSmall_of_mem_lowercase (mem_of_mem_dropOne h)

/-- The first component of a version, behind a `v`, is a version with that component only. -/
theorem components_cons_v {t part : Text} {rest : List Text} (h : components t = part :: rest) :
    components ('v' :: part) = [part] := by
  have hdot : '.' ∉ part :=
    Text.not_mem_of_mem_splitOn (h ▸ List.mem_cons_self : part ∈ components t)
  have hpart : part.splitOn '.' = [part] := List.splitOn_eq_singleton hdot
  have hbegins : part <+: digitsOf t :=
    prefix_of_continues (continues_iff.2 (by rw [hpart, ← components, h]; exact ⟨rest, rfl⟩))
  have hv : Text.IsSmall 'v' := Text.isSmall_of_ascii (by decide) (by decide)
  have hsmall : ∀ c ∈ 'v' :: part, Text.IsSmall c :=
    List.forall_mem_cons.2 ⟨hv, fun c hc => isSmall_of_mem_digitsOf (hbegins.subset hc)⟩
  rw [components, digitsOf, Text.lowercase_eq_self hsmall, Text.dropOne, if_pos rfl, hpart]

/-- What precedes a dot in a version begins its components, if there is no capital sigma in it. -/
theorem components_prefix_append {x : Text} (hx : '\u03A3' ∉ x) (y : Text) :
    components ('v' :: x) <+: components ('v' :: (x ++ '.' :: y)) := by
  have hv : '\u03A3' ∉ 'v' :: x := List.mem_cons.not.2 (not_or.2 ⟨by decide, hx⟩)
  have hlower : ∀ t, Text.lowercase ('v' :: t) = 'v' :: Text.lowerAfter ['v'] t := fun _ => rfl
  have hdot : ∀ before, Text.lowerAfter before ('.' :: y) =
      '.' :: Text.lowerAfter ('.' :: before) y := fun _ => rfl
  rw [components, components, digitsOf, digitsOf, hlower, hlower, Text.dropOne, if_pos rfl,
    Text.dropOne, if_pos rfl, Text.lowerAfter_append hx, hdot, List.splitOn_append_cons_self]
  exact List.prefix_append _ _

theorem forall_isDigit_of_major {t : Text} (h : kindOfNumbers t = .major) :
    ∀ c ∈ t, Text.isDigit c = true := by
  cases numbered_of_kindOfNumbers h (by decide) with
  | major ha => exact ha.isDigit

/-- A major version has one component: its normal form without the `v`. -/
theorem components_of_major {spec : Text} (h : (classify spec).1 = .major) :
    components (classify spec).2 = [Text.dropOne 'v' (classify spec).2] := by
  have hrecognised : (classify spec).1 ≠ .literal := by
    rw [h]
    decide
  have hlower : Text.lowercase (classify spec).2 = (classify spec).2 :=
    foldedForm_of_recognised hrecognised
  have hdigits : ∀ c ∈ Text.dropOne 'v' (classify spec).2, Text.isDigit c = true := by
    rw [classify_fst] at h hrecognised
    rw [classify_of_recognised hrecognised,
      dropOne_withLeadingV fun _ => Text.isSmall_of_mem_lowercase]
    exact forall_isDigit_of_major h
  rw [components, digitsOf, hlower]
  exact List.splitOn_eq_singleton fun hdot => absurd (hdigits '.' hdot) (by decide)

/-! ## What follows -/

/-- **Minor and major versions go by components.**

* Such a version is satisfied by the tags whose components begin with its own.
* Hence what satisfies a version satisfies the major version with its first component, however many
  components it has; and what satisfies `vX.Y` satisfies `vX`, whatever `X` and `Y` are.  Only a
  capital sigma in `X` is left out, because it is another letter in lowercase before a dot than it
  is at the end.
* Hence what satisfies two major versions satisfies one: they have one normal form, up to the
  leading `v`. -/
theorem satisfies_by_components :
    (∀ (tag normalized : Text) (kind : Kind), kind = .minor ∨ kind = .major →
      (satisfies tag normalized kind = true ↔ components normalized <+: components tag)) ∧
    (∀ (tag normalized x : Text) (rest : List Text), components normalized = x :: rest →
      satisfies tag normalized .minor = true → satisfies tag ('v' :: x) .major = true) ∧
    (∀ tag x y : Text, '\u03A3' ∉ x →
      satisfies tag ('v' :: (x ++ '.' :: y)) .minor = true →
        satisfies tag ('v' :: x) .major = true) ∧
    ∀ tag a b : Text, (classify a).1 = .major → (classify b).1 = .major →
      satisfies tag (classify a).2 .major = true → satisfies tag (classify b).2 .major = true →
        Text.dropOne 'v' (classify a).2 = Text.dropOne 'v' (classify b).2 := by
  have hminor := satisfies_iff_prefix (.inl rfl : Kind.minor.IsOpen)
  have hmajor := satisfies_iff_prefix (.inr rfl : Kind.major.IsOpen)
  refine ⟨fun tag normalized kind hkind => satisfies_iff_prefix hkind tag normalized,
    fun tag normalized x rest hx h => ?_, fun tag x y hx h => ?_, fun tag a b ha hb hta htb => ?_⟩
  · rw [hmajor, components_cons_v hx]
    rw [hminor, hx] at h
    exact (List.prefix_append [x] rest).trans h
  · rw [hmajor]
    rw [hminor] at h
    exact (components_prefix_append hx y).trans h
  · rw [hmajor, components_of_major ha] at hta
    rw [hmajor, components_of_major hb] at htb
    -- both are the first component of the tag
    obtain ⟨rest, hrest⟩ := hta
    obtain ⟨rest', hrest'⟩ := htb
    rw [← hrest', List.singleton_append, List.singleton_append] at hrest
    exact (List.cons.inj hrest).1

/-- `V2.1.0` satisfies `2.1`, but not `2.1.`, which has an empty component more.  With `v2.1` it
satisfies `v2`, and `2` has the same normal form. -/
theorem satisfies_by_components_of_twoOne :
    (components "2.1".toList <+: components "V2.1.0".toList) ∧
    ¬ components "2.1.".toList <+: components "V2.1.0".toList ∧
    satisfies "V2.1.0".toList "v2".toList .major = true ∧
    Text.dropOne 'v' (classify "v2".toList).2 = Text.dropOne 'v' (classify "2".toList).2 := by
  obtain ⟨hiff, -, hshorter, hunique⟩ := satisfies_by_components
  refine ⟨(hiff _ _ .minor (.inl rfl)).1 (by decide +kernel), fun h => ?_,
    hshorter _ "2".toList "1".toList (by decide +kernel) (by decide +kernel),
    hunique "V2.1.0".toList _ _ (by decide +kernel) (by decide +kernel) (by decide +kernel)
      (by decide +kernel)⟩
  have hsatisfies := (hiff _ _ .major (.inr rfl)).2 h
  revert hsatisfies
  decide +kernel

end Version

end PinnedActions
