import PinnedActions.Proofs.Pinning.Accounts
import PinnedActions.Proofs.Settings.Ignore

/-!
# When two repositories are one

Whether two usages are of one repository is asked in many places, each of which has a text or a key
of its own to compare.  What they should find out is the same: the owners are one up to letter case,
and so are the names (`Action.SameRepository`).

* The resolver keeps owner and name apart in its keys, so it is right by definition
  (`Resolver.key_eq_key_iff`).
* `repoKey_eq_iff` — the groups of an upgrade and the target compare `owner/repo` in lowercase.  A
  slash ends what lowercasing looks at, and is in neither part, so nothing is lost by this.
* `includes_iff_of_hasSides`, `ignoredBy_iff_of_hasSides` — an argument and an ignore pattern are
  lowered as a whole, with the same result.  A pattern whose name is a star is about all of its
  owner.
* `recordKey_eq_iff` — the key of a record has the version behind the repository, with a bar between
  them.  A bar ends what lowercasing looks at as well, but a name may have one in it.  Then the key
  does not say where the name ends, and two repositories may share a record (`Straddles`).

`RepositoryTests` has all of it.
-/

set_option autoImplicit false

namespace PinnedActions

/-! ## The keys of repositories -/

namespace Action

/-- Whether two actions are of one repository.  Letter case does not count, in the owner and in the
name apart. -/
def SameRepository (a b : Action) : Prop :=
  Text.lowercase a.owner = Text.lowercase b.owner ∧ Text.lowercase a.repo = Text.lowercase b.repo

instance (a b : Action) : Decidable (a.SameRepository b) := inferInstanceAs (Decidable (_ ∧ _))

instance (a : Action) : Decidable a.IsPlain := inferInstanceAs (Decidable (_ ∧ _))

variable {a b : Action}

/-- **Repositories are one when their keys are.** -/
theorem repoKey_eq_iff (ha : a.IsPlain) : a.repoKey = b.repoKey ↔ a.SameRepository b := by
  refine ⟨lowercase_eq_of_repoKey_eq ha, fun h => ?_⟩
  rw [a.repoKey_eq, b.repoKey_eq, h.1, h.2]

end Action

/-! ## What a text says about a repository -/

section Spelled

open Settings

variable {a b : Action} {text : Text}

/-- An argument that spells a repository is accepted, and aims at it. -/
theorem Target.ofArgument_of_hasSides (h : HasSides text a.owner a.repo)
    (hne : a.owner ≠ [] ∧ a.repo ≠ []) :
    Target.ofArgument text = .ok (.repository a.repoKey) := by
  have hkey : Text.lowercase (Text.trim text) = a.repoKey := congrArg Text.lowercase h.trim
  have hsplit : a.repoKey.splitOn '/' = [Text.lowercase a.owner, Text.lowercase a.repo] :=
    Text.splitOn_eq_pair_iff.2 ⟨a.repoKey_eq, Text.slash_mem_lowercase_iff.not.2 h.left,
      Text.slash_mem_lowercase_iff.not.2 h.right⟩
  rw [Target.ofArgument, hkey]
  simp only [hsplit]
  rw [if_neg]
  simpa [Text.lowercase_eq_nil_iff] using hne

/-- An argument that spells a repository aims at the usages of that repository. -/
theorem Target.includes_iff_of_hasSides (h : HasSides text a.owner a.repo)
    (hne : a.owner ≠ [] ∧ a.repo ≠ []) :
    ∃ target, Target.ofArgument text = .ok target ∧
      (target.includes b.repoKey = true ↔ a.SameRepository b) :=
  ⟨_, ofArgument_of_hasSides h hne, beq_iff_eq.trans (Action.repoKey_eq_iff ⟨h.left, h.right⟩)⟩

/-- A pattern that spells a repository is about its usages, and about those of the whole owner when
the name is a star. -/
theorem Settings.ignoredBy_iff_of_hasSides (h : HasSides text a.owner a.repo) (hb : b.IsPlain) :
    ignoredBy text b = true ↔ a.SameRepository b ∨
      a.repo = ['*'] ∧ Text.lowercase a.owner = Text.lowercase b.owner := by
  have hsides : ignoredBy text b = true ↔ Text.lowercase a.owner = Text.lowercase b.owner ∧
      (a.repo = ['*'] ∨ Text.lowercase a.repo = Text.lowercase b.repo) := by
    rw [ignoredBy_iff hb]
    constructor
    · rintro ⟨owner, repo, hsides, hsame⟩
      obtain ⟨rfl, rfl⟩ := h.unique hsides
      exact hsame
    · exact fun hsame => ⟨_, _, h, hsame⟩
  rw [hsides, and_or_left, or_comm, Action.SameRepository, and_comm (a := a.repo = ['*'])]

/-- The settings say the same about all actions of a repository. -/
theorem Settings.ignores_congr (ha : a.IsPlain) (hb : b.IsPlain) (h : a.SameRepository b)
    (s : Settings) : s.ignores a = s.ignores b := by
  have hpattern : ∀ pattern, ignoredBy pattern a = ignoredBy pattern b := fun pattern => by
    rw [Bool.eq_iff_iff, ignoredBy_eq_true_iff ha, ignoredBy_eq_true_iff hb, h.1, h.2]
  simp only [ignores, hpattern]

end Spelled

namespace Pinning

/-! ## The keys of records -/

variable {a b : Action} {v w : Text}

/-- Whether the name of a repository goes on with a bar where that of another one ends, and what
follows the bar stands in front of the version that is filed with the other one.  The key of a
record cannot tell this from the shorter name with the longer version. -/
def Straddles (a : Action) (v : Text) (b : Action) (w : Text) : Prop :=
  ∃ piece, Text.lowercase a.owner = Text.lowercase b.owner ∧
    Text.lowercase a.repo = Text.lowercase b.repo ++ '|' :: piece ∧
    Text.lowercase w = piece ++ '|' :: Text.lowercase v

/-- A version stands in front of itself nowhere. -/
theorem not_straddles_self : ¬Straddles a v b v := by
  rintro ⟨piece, -, -, hversion⟩
  have hlength := congrArg List.length hversion
  rw [List.length_append, List.length_cons] at hlength
  omega

/-- **Versions share a record** when they are one version of one repository, each up to letter case,
or when a name with a bar straddles the border between them. -/
theorem recordKey_eq_iff (ha : a.IsPlain) (hb : b.IsPlain) :
    recordKey a v = recordKey b w ↔
      (a.SameRepository b ∧ Text.lowercase v = Text.lowercase w) ∨
        Straddles a v b w ∨ Straddles b w a v := by
  have hkey : ∀ (a : Action) (v : Text), recordKey a v =
      Text.lowercase a.owner ++ '/' :: (Text.lowercase a.repo ++ '|' :: Text.lowercase v) :=
    fun a v => by rw [recordKey, a.repoKey_eq, List.append_assoc, List.cons_append]
  rw [hkey, hkey, Text.append_mark_inj (Text.slash_mem_lowercase_iff.not.2 ha.1)
    (Text.slash_mem_lowercase_iff.not.2 hb.1), Text.append_mark_eq_iff]
  simp only [Action.SameRepository, Straddles, exists_and_left, and_or_left, and_assoc,
    eq_comm (a := Text.lowercase b.owner)]

/-! ## All tests -/

/-- What the tests say about the actions `a` and `b`, each compared with the one notion of a
repository that they should have. -/
structure RepositoryTests (a b : Action) : Prop where
  /-- The keys of repositories. -/
  repoKey : a.repoKey = b.repoKey ↔ a.SameRepository b
  /-- The keys of remembered references. -/
  references : ∀ name name', Session.key a.owner a.repo name = Session.key b.owner b.repo name' ↔
    a.SameRepository b ∧ name = name'
  /-- The keys of remembered version specs. -/
  specs : ∀ spec spec',
    Resolver.specKey a.owner a.repo spec = Resolver.specKey b.owner b.repo spec' ↔
      a.SameRepository b ∧ Version.foldedForm spec = Version.foldedForm spec'
  /-- The groups of an upgrade. -/
  groups : ∀ os, ∀ o ∈ os, ∀ o' ∈ os, o.usage.action = a → o'.usage.action = b →
    ((∃ g ∈ groupByRepository os, o ∈ g.occurrences ∧ o' ∈ g.occurrences) ↔ a.SameRepository b)
  /-- An argument that spells the first repository. -/
  target : ∀ argument, Settings.HasSides argument a.owner a.repo → a.owner ≠ [] ∧ a.repo ≠ [] →
    ∃ target, Target.ofArgument argument = .ok target ∧
      (target.includes b.repoKey = true ↔ a.SameRepository b)
  /-- A pattern that spells the first repository. -/
  pattern : ∀ pattern, Settings.HasSides pattern a.owner a.repo →
    (Settings.ignoredBy pattern b = true ↔ a.SameRepository b ∨
      a.repo = ['*'] ∧ Text.lowercase a.owner = Text.lowercase b.owner)
  /-- The settings as a whole. -/
  ignores : a.SameRepository b → ∀ s : Settings, s.ignores a = s.ignores b
  /-- The keys of records for one version. -/
  record : ∀ v, recordKey a v = recordKey b v ↔ a.SameRepository b
  /-- The keys of records for any two versions. -/
  records : ∀ v w, recordKey a v = recordKey b w ↔
    (a.SameRepository b ∧ Text.lowercase v = Text.lowercase w) ∨
      Straddles a v b w ∨ Straddles b w a v

/-- **All tests have one notion of a repository**, up to a star for the name in an ignore pattern
and a bar in the name in the key of a record. -/
theorem one_notion_of_repository {a b : Action} (ha : a.IsPlain) (hb : b.IsPlain) :
    RepositoryTests a b where
  repoKey := Action.repoKey_eq_iff ha
  references name name' := by rw [Resolver.key_eq_key_iff, Action.SameRepository, and_assoc]
  specs spec spec' := by
    rw [Resolver.specKey, Resolver.specKey, Resolver.key_eq_key_iff, Action.SameRepository,
      and_assoc]
  groups os o ho o' ho' h h' := by
    rw [together_iff ho ho', keyOf, keyOf, h, h', Action.repoKey_eq_iff ha]
  target argument h hne := Target.includes_iff_of_hasSides h hne
  pattern pattern h := Settings.ignoredBy_iff_of_hasSides h hb
  ignores h s := Settings.ignores_congr ha hb h s
  record v := by
    rw [recordKey_eq_iff ha hb, or_iff_left (not_or.2 ⟨not_straddles_self, not_straddles_self⟩),
      and_iff_left rfl]
  records v w := recordKey_eq_iff ha hb

/-- A repository whose name ends in a capital sigma, which is a final one in lowercase. -/
def capitalSigma : Action := ⟨"My-Org".toList, "\u0391\u03A3".toList, none⟩

/-- The same repository in lowercase. -/
def finalSigma : Action := ⟨"my-org".toList, "\u03B1\u03C2".toList, some "sub".toList⟩

theorem one_notion_of_repository_of_capitalSigma :
    capitalSigma.IsPlain ∧ finalSigma.IsPlain ∧ capitalSigma.SameRepository finalSigma ∧
    RepositoryTests capitalSigma finalSigma :=
  have hcapital : capitalSigma.IsPlain := by decide
  have hfinal : finalSigma.IsPlain := by decide
  ⟨hcapital, hfinal, by decide +kernel, one_notion_of_repository hcapital hfinal⟩

/-! ## A name with a bar -/

/-- A repository with a bar in its name. -/
def barred : Action := ⟨['o'], "r|x".toList, none⟩

/-- The repository whose name ends before the bar. -/
def unbarred : Action := ⟨['o'], ['r'], none⟩

/-- The tags of two repositories, each with a commit of its own. -/
def barSource : Source := Source.ofTable
  [("repos/o/r|x/git/ref/tags/y".toList, .ok (.obj [("object".toList, .obj
      [("sha".toList, .str (List.replicate 40 'a')), ("type".toList, .str Resolver.commitType)])])),
    ("repos/o/r/git/ref/tags/x%7Cy".toList, .ok (.obj [("object".toList, .obj
      [("sha".toList, .str (List.replicate 40 'b')), ("type".toList, .str Resolver.commitType)])]))]

/-- A usage of each, with these tags for versions. -/
def barContents : List (Bytes × Text) :=
  [(Utf8.bytes "ci.yml", "- uses: o/r|x@v0 # y\n- uses: o/r@v0 # x|y\n".toList)]

/-- What the update of both has to report: one record, with the name of the first repository and the
commit of the second. -/
def barReport : UpdateReport where
  records := [⟨"o/r|x".toList, ['y'], "x|y".toList, List.replicate 40 'b', 2, 0⟩]
  updated := 2
  filesChanged := 1
  warnings := []

/-- **Two repositories may share a record.**  Nothing else takes them for one. -/
theorem bar_joins_two_repositories :
    (occurrences (load barContents)).map (·.usage.action) = [barred, unbarred] ∧
    barred.IsPlain ∧ unbarred.IsPlain ∧ ¬barred.SameRepository unbarred ∧
    barred.repoKey ≠ unbarred.repoKey ∧
    (∀ name name', Session.key barred.owner barred.repo name ≠
      Session.key unbarred.owner unbarred.repo name') ∧
    recordKey barred ['y'] = recordKey unbarred "x|y".toList ∧
    ((update barSource .default .everything (load barContents)).run .empty).map (·.1.1) =
      some (.ok barReport) := by
  have hne : ¬barred.SameRepository unbarred := by decide +kernel
  refine ⟨by decide +kernel, by decide, by decide, hne, by decide +kernel, fun name name' h => ?_,
    by decide +kernel, by decide +kernel⟩
  obtain ⟨howner, hrepo, -⟩ := Resolver.key_eq_key_iff.1 h
  exact hne ⟨howner, hrepo⟩

end Pinning

end PinnedActions
