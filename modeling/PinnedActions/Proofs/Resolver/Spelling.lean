import PinnedActions.Proofs.Resolver.OwnName

/-!
# Which exact versions find their tag

An exact version is looked for under up to three spellings: its normal form, which is in lowercase,
the version as it was given, and that without its `v`.  Of spellings that differ only in the case of
ASCII letters one is tried.  So a version with capitals, such as `v1.2.3-RC1`, is looked for as
`v1.2.3-rc1` and not as it was given, though the names of tags are told apart by their case.

* `mem_spellings_iff` — when the version as it was given is among the spellings.
* `HasTag` and `LacksTag` — what a catalog says about the name of a tag.
* `exact_version_is_found_iff` — with a catalog that says no more than that, an exact version with a
  tag of its very name is not found just when the name is not tried and all that is tried is missing.
* `exact_version_with_capitals_is_missed` — there is such a version.
-/

set_option autoImplicit false

namespace PinnedActions

namespace Version

/-! ## Exact versions are no hashes -/

/-- An exact version has dots between its numbers. -/
theorem dot_mem_of_kindOfNumbers {t : Text} (h : kindOfNumbers t = .exact) : '.' ∈ t := by
  cases numbered_of_kindOfNumbers h (by decide) with
  | exact => exact List.mem_append_right _ List.mem_cons_self
  | labelled => exact List.mem_append_right _ List.mem_cons_self

/-- What spells the number of an exact version is no hash. -/
theorem isFullHash_of_exact {t : Text} (h : kindOfNumbers (digitsOf t) = .exact) :
    isFullHash t = false := by
  by_contra hhash
  have hlower := isFullHash_lowercase (Bool.not_eq_false _ ▸ hhash)
  have hdot := mem_of_mem_dropOne (dot_mem_of_kindOfNumbers h)
  exact absurd ((isFullHash_iff.1 hlower).2 '.' hdot) (by decide)

end Version

namespace Resolver

open Walk

variable {source : Source} {owner repo name spec : Text} {s t : Session}

/-! ## Spellings -/

/-- The version as it was given is tried if it is the normal form, or differs from that in more than
the case of ASCII letters. -/
theorem mem_spellings_iff {normalized : Text} (hnormal : normalized ≠ []) (hspec : spec ≠ []) :
    spec ∈ spellings spec normalized ↔
      spec = normalized ∨ Text.sameIgnoringCase normalized spec = false := by
  have hfirst : normalized.isEmpty = false := by simpa using hnormal
  have hsecond : spec.isEmpty = false := by simpa using hspec
  simp only [spellings, distinctIgnoringCase, List.foldl_cons, List.foldl_nil, hfirst, hsecond,
    List.any_nil, List.any_cons, Bool.or_false, Bool.false_or, Bool.false_eq_true, if_false]
  cases hsame : Text.sameIgnoringCase normalized spec with
  | false =>
    simp only [Bool.false_eq_true, if_false, or_true, iff_true]
    split <;> simp
  | true =>
    -- what is left is tried only if it differs from the normal form in more than case
    simp only [if_true, Bool.true_eq_false, or_false, List.any_cons, List.any_nil]
    split
    · simp
    · rename_i hthird
      have hne : spec ≠ withoutV spec := fun h => hthird (by simp [← h, hsame])
      simp [hne]

/-- No spelling of an exact version is a hash. -/
theorem isFullHash_of_mem_spellings (htrim : Text.trim spec = spec)
    (hexact : (Version.classify spec).1 = .exact)
    (h : name ∈ spellings spec (Version.classify spec).2) : Version.isFullHash name = false := by
  have hkind : (Version.classify spec).1 ≠ .literal := by
    rw [hexact]
    decide
  refine Version.isFullHash_of_exact ?_
  rw [digitsOf_of_mem_spellings htrim hkind h, Version.digitsOf_normal hkind]
  rw [Version.classify_fst] at hexact
  exact hexact

/-! ## What a catalog says about tags -/

/-- Whether a name is that of a tag, with the commit that its chain ends at. -/
def HasTag (source : Source) (owner repo name commit : Text) : Prop :=
  (dereference source owner repo name).answer .empty = some (.ok commit)

/-- Whether no tag of a name is to be found. -/
def LacksTag (source : Source) (owner repo name : Text) : Prop :=
  ∃ f, (dereference source owner repo name).answer .empty = some (.error f) ∧ f.isNotFound = true

theorem HasTag.not_lacksTag {commit : Text} (h : HasTag source owner repo name commit) :
    ¬LacksTag source owner repo name := by
  rintro ⟨f, hf, -⟩
  cases (Option.some.inj (h.symm.trans hf))

theorem LacksTag.isMissing (h : LacksTag source owner repo name)
    (hname : Version.isFullHash name = false) : IsMissing source owner repo name := by
  obtain ⟨f, hf, hmissing⟩ := h
  exact ⟨f, (freshCommit_of_not_isFullHash hname .empty).trans hf, hmissing⟩

/-- A tag that points to a commit. -/
theorem hasTag_of_reply {hash : Text}
    (h : reply source (Endpoint.path owner repo (.tagReference name)) Payload.gitReference =
      .ok ⟨hash, commitType⟩) : HasTag source owner repo name (Text.lowercase hash) := by
  have hfetch := runFrom_fetch source (Endpoint.path owner repo (.tagReference name))
    Payload.gitReference .empty
  rw [h] at hfetch
  rw [HasTag, answer, dereference, runFrom_bind_of_ok hfetch]
  cases source.patience <;> rfl

/-- A tag that is not there. -/
theorem lacksTag_of_reply {f : Failure} (hf : f.isNotFound = true)
    (h : reply source (Endpoint.path owner repo (.tagReference name)) Payload.gitReference =
      .error f) : LacksTag source owner repo name := by
  have hfetch := runFrom_fetch source (Endpoint.path owner repo (.tagReference name))
    Payload.gitReference .empty
  rw [h] at hfetch
  exact ⟨f, answer_of_runFrom (runFrom_bind_of_error hfetch _), hf⟩

/-- Of several names that are all told apart, either all are missing or one is the first that
exists. -/
theorem forall_lacksTag_or_exists_first (names : List Text)
    (h : ∀ name ∈ names, (∃ commit, HasTag source owner repo name commit) ∨
      LacksTag source owner repo name) :
    (∀ name ∈ names, LacksTag source owner repo name) ∨
      ∃ before name rest commit, names = before ++ name :: rest ∧
        (∀ other ∈ before, LacksTag source owner repo other) ∧
          HasTag source owner repo name commit := by
  induction names with
  | nil => exact .inl nofun
  | cons name names ih =>
    obtain ⟨hname, hnames⟩ := List.forall_mem_cons.1 h
    rcases hname with ⟨commit, hhas⟩ | hlacks
    · exact .inr ⟨[], name, names, commit, rfl, nofun, hhas⟩
    rcases ih hnames with hall | ⟨before, found, rest, commit, rfl, hbefore, hhas⟩
    · exact .inl (List.forall_mem_cons.2 ⟨hlacks, hall⟩)
    · exact .inr ⟨name :: before, found, rest, commit, rfl,
        List.forall_mem_cons.2 ⟨hlacks, hbefore⟩, hhas⟩

/-! ## Exact versions -/

theorem ne_nil_of_exact (hexact : (Version.classify spec).1 = .exact) : spec ≠ [] := by
  rintro rfl
  exact absurd hexact (by decide)

/-- A new resolver looks an exact version up under its spellings. -/
theorem answer_resolveSpec_of_exact (htrim : Text.trim spec = spec)
    (hexact : (Version.classify spec).1 = .exact) :
    (resolveSpec source owner repo spec).answer .empty =
      (resolveExact source owner repo spec (Version.classify spec).2).answer .empty := by
  rw [answer_resolveSpec_miss (by rw [htrim]; exact ne_nil_of_exact hexact) rfl, htrim, hexact,
    lookUp]

/-- The tag is the first spelling that exists. -/
theorem answer_resolveSpec_of_first (htrim : Text.trim spec = spec)
    (hexact : (Version.classify spec).1 = .exact) {before rest : List Text} {commit : Text}
    (hspellings : spellings spec (Version.classify spec).2 = before ++ name :: rest)
    (hbefore : ∀ other ∈ before, LacksTag source owner repo other)
    (h : HasTag source owner repo name commit) :
    (resolveSpec source owner repo spec).answer .empty = some (.ok ⟨name, commit⟩) := by
  have hhash : ∀ other ∈ before ++ name :: rest, Version.isFullHash other = false := fun other hmem =>
    isFullHash_of_mem_spellings htrim hexact (hspellings ▸ hmem)
  have hmissing : ∀ other ∈ before, IsMissing source owner repo other := fun other hmem =>
    (hbefore other hmem).isMissing (hhash other (List.mem_append_left _ hmem))
  have hcommit : freshCommit source owner repo name = some (.ok commit) :=
    (freshCommit_of_not_isFullHash (hhash name (by simp)) .empty).trans h
  obtain ⟨t, hrun⟩ : ∃ t, (firstExisting source owner repo (before ++ name :: rest)).runFrom .empty =
      some (.ok (some ⟨name, commit⟩), t) :=
    exists_runFrom_firstExisting hmissing hcommit (.refl .empty)
  rw [answer_resolveSpec_of_exact htrim hexact, resolveExact, hspellings]
  exact answer_of_runFrom (runFrom_bind_of_ok hrun _)

/-- Without one, there is no release. -/
theorem answer_resolveSpec_of_forall_lacksTag (htrim : Text.trim spec = spec)
    (hexact : (Version.classify spec).1 = .exact)
    (h : ∀ name ∈ spellings spec (Version.classify spec).2, LacksTag source owner repo name) :
    (resolveSpec source owner repo spec).answer .empty =
      some (.error (.noReleaseFound owner repo spec)) := by
  obtain ⟨t, -, hrun⟩ := exists_runFrom_firstExisting_append
    (fun name hmem => (h name hmem).isMissing (isFullHash_of_mem_spellings htrim hexact hmem)) []
    (.refl .empty)
  rw [List.append_nil] at hrun
  rw [answer_resolveSpec_of_exact htrim hexact, resolveExact]
  exact answer_of_runFrom (runFrom_bind_of_ok hrun _)

/-- **An exact version finds a tag unless it differs from its normal form in case alone.**  Let a
catalog have a tag of the very name of an exact version, and of every other name either have a tag or
know nothing.  Then a new resolver finds the first spelling of the version that is a tag, and finds
none just when the version is not tried as it was given, because it differs from its normal form in
the case of ASCII letters alone, and whatever else is tried is missing. -/
theorem exact_version_is_found_iff (htrim : Text.trim spec = spec)
    (hexact : (Version.classify spec).1 = .exact)
    (hspec : ∃ commit, HasTag source owner repo spec commit)
    (hothers : ∀ name, (∃ commit, HasTag source owner repo name commit) ∨
      LacksTag source owner repo name) :
    ((∃ r before rest, (resolveSpec source owner repo spec).answer .empty = some (.ok r) ∧
        spellings spec (Version.classify spec).2 = before ++ r.tag :: rest ∧
        (∀ name ∈ before, LacksTag source owner repo name) ∧
          HasTag source owner repo r.tag r.commit) ∨
      (resolveSpec source owner repo spec).answer .empty =
        some (.error (.noReleaseFound owner repo spec))) ∧
    ((resolveSpec source owner repo spec).answer .empty =
        some (.error (.noReleaseFound owner repo spec)) ↔
      spec ≠ (Version.classify spec).2 ∧
        Text.sameIgnoringCase (Version.classify spec).2 spec = true ∧
          ∀ name ∈ spellings spec (Version.classify spec).2, LacksTag source owner repo name) := by
  have hnil := ne_nil_of_exact hexact
  have hnormal : (Version.classify spec).2 ≠ [] := by
    rw [← Version.foldedForm_of_recognised (by rw [hexact]; decide), Ne,
      Version.foldedForm_eq_nil_iff, htrim]
    exact hnil
  have hmem := mem_spellings_iff hnormal hnil
  obtain ⟨commit, hspec⟩ := hspec
  rcases forall_lacksTag_or_exists_first (spellings spec (Version.classify spec).2)
      fun name _ => hothers name with
    hall | ⟨before, name, rest, commit', hspellings, hbefore, hhas⟩
  · have hnone := answer_resolveSpec_of_forall_lacksTag htrim hexact hall
    have hnot : spec ∉ spellings spec (Version.classify spec).2 := fun h =>
      hspec.not_lacksTag (hall spec h)
    rw [hmem, not_or, Bool.not_eq_false] at hnot
    exact ⟨.inr hnone, iff_of_true hnone ⟨hnot.1, hnot.2, hall⟩⟩
  · have hfound := answer_resolveSpec_of_first htrim hexact hspellings hbefore hhas
    refine ⟨.inl ⟨⟨name, commit'⟩, before, rest, hfound, hspellings, hbefore, hhas⟩,
      iff_of_false ?_ ?_⟩
    · rw [hfound]
      simp
    · rintro ⟨-, -, hall⟩
      exact hhas.not_lacksTag (hall name (by simp [hspellings]))

/-- A catalog with one tag, and nothing else. -/
def oneTag (name : Text) : Source :=
  ⟨fun path =>
    if path = Endpoint.path ['o'] ['r'] (.tagReference name) then
      .ok (.obj [("object".toList,
        .obj [("sha".toList, .str ['c']), ("type".toList, .str commitType)])])
    else .error (.notFound path), 1⟩

theorem hasTag_or_lacksTag_oneTag (name other : Text) :
    (∃ commit, HasTag (oneTag name) ['o'] ['r'] other commit) ∨
      LacksTag (oneTag name) ['o'] ['r'] other := by
  by_cases hpath : Endpoint.path ['o'] ['r'] (.tagReference other) =
      Endpoint.path ['o'] ['r'] (.tagReference name)
  · have hreply : reply (oneTag name) (Endpoint.path ['o'] ['r'] (.tagReference other))
        Payload.gitReference = .ok ⟨['c'], commitType⟩ := by
      simp only [reply, oneTag, if_pos hpath]
      rfl
    exact .inl ⟨_, hasTag_of_reply hreply⟩
  · have hreply : reply (oneTag name) (Endpoint.path ['o'] ['r'] (.tagReference other))
        Payload.gitReference =
          .error (.notFound (Endpoint.path ['o'] ['r'] (.tagReference other))) := by
      simp only [reply, oneTag, if_neg hpath]
    exact .inr (lacksTag_of_reply rfl hreply)

theorem hasTag_oneTag (name : Text) : HasTag (oneTag name) ['o'] ['r'] name ['c'] := by
  have hreply : reply (oneTag name) (Endpoint.path ['o'] ['r'] (.tagReference name))
      Payload.gitReference = .ok ⟨['c'], commitType⟩ := by
    simp only [reply, oneTag, if_true]
    rfl
  exact hasTag_of_reply hreply

/-- Without its `v` a version is looked for as it was given, and found. -/
theorem exact_version_is_found_without_v :
    Text.trim "1.2.3-RC1".toList = "1.2.3-RC1".toList ∧
    (Version.classify "1.2.3-RC1".toList).1 = .exact ∧
    ∃ r, (resolveSpec (oneTag "1.2.3-RC1".toList) ['o'] ['r'] "1.2.3-RC1".toList).answer .empty =
      some (.ok r) := by
  have htrim : Text.trim "1.2.3-RC1".toList = "1.2.3-RC1".toList := by decide +kernel
  have hexact : (Version.classify "1.2.3-RC1".toList).1 = .exact := by decide +kernel
  obtain ⟨⟨r, -, -, hr, -⟩ | hnone, hiff⟩ := exact_version_is_found_iff htrim hexact
    ⟨_, hasTag_oneTag _⟩ (hasTag_or_lacksTag_oneTag _)
  · exact ⟨htrim, hexact, r, hr⟩
  · exact absurd (hiff.1 hnone).2.1 (by decide +kernel)

/-- With its `v` it is not, though the only tag there is has its very name. -/
theorem exact_version_with_capitals_is_missed :
    Text.trim "v1.2.3-RC1".toList = "v1.2.3-RC1".toList ∧
    (Version.classify "v1.2.3-RC1".toList).1 = .exact ∧
    HasTag (oneTag "v1.2.3-RC1".toList) ['o'] ['r'] "v1.2.3-RC1".toList ['c'] ∧
    (∀ name, (∃ commit, HasTag (oneTag "v1.2.3-RC1".toList) ['o'] ['r'] name commit) ∨
      LacksTag (oneTag "v1.2.3-RC1".toList) ['o'] ['r'] name) ∧
    (resolveSpec (oneTag "v1.2.3-RC1".toList) ['o'] ['r'] "v1.2.3-RC1".toList).answer .empty =
      some (.error (.noReleaseFound ['o'] ['r'] "v1.2.3-RC1".toList)) :=
  ⟨by decide +kernel, by decide +kernel, hasTag_oneTag _, hasTag_or_lacksTag_oneTag _,
    by decide +kernel⟩

end Resolver

end PinnedActions
