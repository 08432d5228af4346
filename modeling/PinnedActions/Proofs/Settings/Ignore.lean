import PinnedActions.Proofs.Pinning.Group
import PinnedActions.Proofs.Text.AsciiCase
import PinnedActions.Proofs.Usage.Anatomy
import PinnedActions.Settings.Basic

/-!
# What an ignore pattern means

Two functions look at an ignore pattern, and in different ways.  `Settings.isWellFormed` splits it at
its slashes; `Settings.ignoredBy` lowers it as a whole, takes a `/*` off its end, and compares what is
left with a name in lowercase.  Both are stated here by the two sides of a slash.

* `isWellFormed_iff` — a pattern has the right shape when it has one slash, something on both sides
  of it, and not a star before it.
* `ignoredBy_iff` — a pattern is about an action when it has one slash, what is before it is the
  owner, and what is after it is the repository or a star, up to letter case.
* `shapeAdvice_mem_advice_iff` — there is advice about exactly the patterns of another shape.

So a pattern that is advised against ignores nothing, and one that is not says what it ignores
(`patterns_mean_what_advice_says`).  The exception is an owner that is a star: `*/*` is advised
against, and is about all of its repositories.
-/

set_option autoImplicit false

namespace PinnedActions

/-! ## The two sides of a slash -/

namespace Text

theorem slash_mem_lowercase_iff {t : Text} : '/' ∈ lowercase t ↔ '/' ∈ t := by
  refine ⟨mark_mem_of_mem_lowercase (by decide), fun h => ?_⟩
  obtain ⟨before, after, rfl, -⟩ := List.eq_append_cons_of_mem h
  rw [lowercase_append_barrier isBarrier_slash]
  simp

/-- A lowercase form with one slash comes from a text with one slash. -/
theorem lowercase_eq_append_iff {t left right : Text} (hleft : '/' ∉ left) (hright : '/' ∉ right) :
    lowercase t = left ++ '/' :: right ↔ ∃ before after, t = before ++ '/' :: after ∧
      '/' ∉ before ∧ '/' ∉ after ∧ lowercase before = left ∧ lowercase after = right := by
  constructor
  · intro h
    have hmem : '/' ∈ t := by
      rw [← slash_mem_lowercase_iff, h]
      simp
    obtain ⟨before, after, rfl, hbefore⟩ := List.eq_append_cons_of_mem hmem
    rw [lowercase_append_barrier isBarrier_slash, eq_comm,
      List.append_cons_inj_of_notMem hleft hright] at h
    obtain ⟨rfl, -, rfl⟩ := h
    exact ⟨before, after, rfl, hbefore, slash_mem_lowercase_iff.not.1 hright, rfl, rfl⟩
  · rintro ⟨before, after, rfl, -, -, rfl, rfl⟩
    exact lowercase_append_barrier isBarrier_slash before after

theorem isBarrier_star : IsBarrier '*' where
  cased := by decide
  ignorable := by decide +kernel
  small := isSmall_of_ascii (by decide) (by decide)

/-- Nothing but a star has a star for its lowercase form. -/
theorem lowercase_eq_star_iff {t : Text} : lowercase t = ['*'] ↔ t = ['*'] := by
  constructor
  · intro h
    have hmem : '*' ∈ t := mark_mem_of_mem_lowercase (m := '*') (by decide) (by rw [h]; simp)
    obtain ⟨before, after, rfl⟩ := List.append_of_mem hmem
    rw [lowercase_append_barrier isBarrier_star, List.append_eq_singleton_iff] at h
    rcases h with ⟨hbefore, hafter⟩ | ⟨-, hafter⟩
    · rw [lowercase_eq_nil_iff.1 hbefore, lowercase_eq_nil_iff.1 (List.cons.inj hafter).2,
        List.nil_append]
    · cases hafter
  · rintro rfl
    exact lowercase_append_barrier isBarrier_star [] []

theorem splitOn_eq_pair_iff {t left right : Text} {mark : Char} :
    t.splitOn mark = [left, right] ↔ t = left ++ mark :: right ∧ mark ∉ left ∧ mark ∉ right := by
  constructor
  · intro h
    have hjoin : [mark].intercalate (t.splitOn mark) = t := List.intercalate_splitOn mark
    rw [h, List.intercalate_cons_cons, List.intercalate_singleton] at hjoin
    refine ⟨by simpa using hjoin.symm, ?_, ?_⟩ <;>
      exact not_mem_of_mem_splitOn (t := t) (by rw [h]; simp)
  · rintro ⟨rfl, hleft, hright⟩
    rw [List.splitOn_append_cons_self_of_not_mem hleft, List.splitOn_eq_singleton hright]

end Text

namespace Settings

open Text

/-- Whether a pattern has one slash and these two sides, once the blanks around it are left out. -/
structure HasSides (pattern owner repo : Text) : Prop where
  trim : Text.trim pattern = owner ++ '/' :: repo
  left : '/' ∉ owner
  right : '/' ∉ repo

theorem hasSides_iff {pattern owner repo : Text} :
    HasSides pattern owner repo ↔ (Text.trim pattern).splitOn '/' = [owner, repo] := by
  rw [splitOn_eq_pair_iff]
  exact ⟨fun h => ⟨h.trim, h.left, h.right⟩, fun h => ⟨h.1, h.2.1, h.2.2⟩⟩

/-- A pattern has one pair of sides. -/
theorem HasSides.unique {pattern owner repo owner' repo' : Text} (h : HasSides pattern owner repo)
    (h' : HasSides pattern owner' repo') : owner = owner' ∧ repo = repo' := by
  rw [hasSides_iff] at h h'
  rw [h] at h'
  cases h'
  exact ⟨rfl, rfl⟩

/-! ## The shape of a pattern -/

theorem isWellFormed_iff {pattern : Text} :
    isWellFormed pattern = true ↔ ∃ owner repo, HasSides pattern owner repo ∧
      owner ≠ [] ∧ repo ≠ [] ∧ owner ≠ ['*'] := by
  simp only [hasSides_iff]
  constructor
  · intro h
    unfold isWellFormed at h
    split at h
    · rename_i owner repo hsplit
      exact ⟨owner, repo, hsplit, by simpa [and_assoc] using h⟩
    · cases h
  · rintro ⟨owner, repo, hsplit, hne⟩
    rw [isWellFormed, hsplit]
    simpa [and_assoc] using hne

/-- What is said about a pattern of another shape. -/
def shapeAdvice (pattern : Text) : Advice :=
  ⟨.warning, "ignore pattern '".toList ++ pattern ++ "' should be 'owner/repo' or 'owner/*'".toList⟩

theorem patternAdvice_eq (pattern : Text) :
    patternAdvice pattern = if isWellFormed pattern then none else some (shapeAdvice pattern) :=
  rfl

theorem shapeAdvice_injective : Function.Injective shapeAdvice := by
  intro p q h
  rw [shapeAdvice, shapeAdvice, Advice.mk.injEq] at h
  exact List.append_cancel_left (List.append_cancel_right h.2)

/-- **There is advice about exactly the patterns of another shape.** -/
theorem shapeAdvice_mem_advice_iff {s : Settings} {pattern : Text} :
    shapeAdvice pattern ∈ s.advice ↔ pattern ∈ s.ignore ∧ isWellFormed pattern = false := by
  have htimeout : shapeAdvice pattern ∉ s.timeoutAdvice := by
    rw [timeoutAdvice]
    split
    · rw [List.mem_singleton]
      intro h
      have hhead := congrArg (fun advice => advice.message.head?) h
      cases hhead
    · exact List.not_mem_nil
  have hurl : shapeAdvice pattern ∉ s.apiUrlAdvice := by
    rw [apiUrlAdvice]
    split
    · exact List.not_mem_nil
    · rw [List.mem_singleton]
      intro h
      cases congrArg Advice.severity h
  rw [advice, List.mem_append, List.mem_append, or_iff_right htimeout, or_iff_right hurl,
    List.mem_filterMap]
  constructor
  · rintro ⟨q, hq, h⟩
    rw [patternAdvice_eq] at h
    split at h
    · cases h
    · rename_i hshape
      rw [Option.some_inj] at h
      exact shapeAdvice_injective h ▸ ⟨hq, Bool.eq_false_iff.2 hshape⟩
  · rintro ⟨hp, hshape⟩
    exact ⟨pattern, hp, by rw [patternAdvice_eq, hshape]; rfl⟩

/-! ## What a pattern is about -/

theorem dropEnd?_eq_some_iff {suffix t front : Text} :
    dropEnd? suffix t = some front ↔ t = front ++ suffix := by
  rw [dropEnd?, List.isSuffixOf?_eq_some_iff_append_eq, eq_comm]

/-- In lowercase a pattern is the owner and a star, or the key of the repository. -/
theorem ignoredBy_eq_true_iff {pattern : Text} {a : Action} (ha : a.IsPlain) :
    ignoredBy pattern a = true ↔
      lowercase (Text.trim pattern) = lowercase a.owner ++ '/' :: ['*'] ∨
        lowercase (Text.trim pattern) = lowercase a.owner ++ '/' :: lowercase a.repo := by
  have howner : '/' ∉ lowercase a.owner := slash_mem_lowercase_iff.not.2 ha.1
  have hrepo : '/' ∉ lowercase a.repo := slash_mem_lowercase_iff.not.2 ha.2
  unfold ignoredBy
  simp only [a.repoKey_eq]
  split
  · rename_i owner hend
    rw [dropEnd?_eq_some_iff] at hend
    rw [beq_iff_eq, hend]
    constructor
    · rintro rfl
      exact .inl rfl
    · rintro (h | h)
      · exact List.append_cancel_right h
      · exact ((List.append_cons_inj_of_notMem howner hrepo).1 h.symm).1.symm
  · rename_i hend
    rw [beq_iff_eq]
    refine (or_iff_right fun h => ?_).symm
    cases hend.symm.trans (dropEnd?_eq_some_iff.2 h)

/-- **A pattern is about an action** when its two sides are those of the repository. -/
theorem ignoredBy_iff {pattern : Text} {a : Action} (ha : a.IsPlain) :
    ignoredBy pattern a = true ↔ ∃ owner repo, HasSides pattern owner repo ∧
      lowercase owner = lowercase a.owner ∧
      (repo = ['*'] ∨ lowercase repo = lowercase a.repo) := by
  have howner : '/' ∉ lowercase a.owner := slash_mem_lowercase_iff.not.2 ha.1
  have hrepo : '/' ∉ lowercase a.repo := slash_mem_lowercase_iff.not.2 ha.2
  rw [ignoredBy_eq_true_iff ha, lowercase_eq_append_iff howner (by decide),
    lowercase_eq_append_iff howner hrepo]
  constructor
  · rintro (⟨owner, repo, htrim, hleft, hright, h, hstar⟩ | ⟨owner, repo, htrim, hleft, hright, h, hr⟩)
    · exact ⟨owner, repo, ⟨htrim, hleft, hright⟩, h, .inl (lowercase_eq_star_iff.1 hstar)⟩
    · exact ⟨owner, repo, ⟨htrim, hleft, hright⟩, h, .inr hr⟩
  · rintro ⟨owner, repo, hsides, h, rfl | hr⟩
    · exact .inl ⟨owner, _, hsides.trim, hsides.left, hsides.right, h, lowercase_eq_star_iff.2 rfl⟩
    · exact .inr ⟨owner, repo, hsides.trim, hsides.left, hsides.right, h, hr⟩

/-- A pattern about an action has the right shape, unless its owner is a star. -/
theorem isWellFormed_of_ignoredBy {pattern : Text} {a : Action} (ha : a.IsPlain)
    (hne : a.owner ≠ [] ∧ a.repo ≠ []) (hstar : a.owner ≠ ['*'])
    (h : ignoredBy pattern a = true) : isWellFormed pattern = true := by
  obtain ⟨owner, repo, hsides, howner, hrepo⟩ := (ignoredBy_iff ha).1 h
  refine isWellFormed_iff.2 ⟨owner, repo, hsides, ?_, ?_, ?_⟩
  · rintro rfl
    exact hne.1 (lowercase_eq_nil_iff.1 howner.symm)
  · rintro rfl
    rcases hrepo with hrepo | hrepo
    · cases hrepo
    · exact hne.2 (lowercase_eq_nil_iff.1 hrepo.symm)
  · rintro rfl
    exact hstar (lowercase_eq_star_iff.1 (howner.symm.trans (lowercase_eq_star_iff.2 rfl)))

/-- The exception. -/
example : isWellFormed "*/*".toList = false ∧ ignoredBy "*/*".toList ⟨['*'], ['r'], none⟩ = true := by
  decide +kernel

/-- **Patterns mean what the advice about them says.**  One that is advised against ignores no usage,
and one that is not ignores the repository that it spells, or all of an owner. -/
theorem patterns_mean_what_advice_says {line : Text} {u : Usage}
    (h : Usage.parse? line = some u) (hstar : u.action.owner ≠ ['*']) (s : Settings) :
    (∀ pattern ∈ s.ignore, shapeAdvice pattern ∈ s.advice → ignoredBy pattern u.action = false) ∧
    (∀ pattern ∈ s.ignore, shapeAdvice pattern ∉ s.advice →
      (∃ owner repo, Text.trim pattern = owner ++ '/' :: repo) ∧
      ∀ owner repo, Text.trim pattern = owner ++ '/' :: repo →
        (ignoredBy pattern u.action = true ↔ lowercase owner = lowercase u.action.owner ∧
          (repo = ['*'] ∨ lowercase repo = lowercase u.action.repo))) ∧
    (s.ignores u.action = true ↔ ∃ pattern ∈ s.ignore, ignoredBy pattern u.action = true) := by
  obtain ⟨after, inner, written, hline⟩ := Usage.parse?_eq_some_iff.1 h
  obtain ⟨-, -, -, -, haction⟩ := Usage.target?_eq_some_iff.1 hline.target
  have hplain := Action.isPlain_of_action? haction
  refine ⟨fun pattern _ hadvice => ?_, fun pattern hmem hadvice => ?_, List.any_eq_true⟩
  · by_contra hignored
    rw [Bool.not_eq_false] at hignored
    have hshape := isWellFormed_of_ignoredBy hplain (Action.ne_nil_of_action? haction) hstar hignored
    rw [(shapeAdvice_mem_advice_iff.1 hadvice).2] at hshape
    cases hshape
  · rw [shapeAdvice_mem_advice_iff, not_and, Bool.not_eq_false] at hadvice
    obtain ⟨owner, repo, hsides, -⟩ := isWellFormed_iff.1 (hadvice hmem)
    refine ⟨⟨owner, repo, hsides.trim⟩, fun owner' repo' htrim => ?_⟩
    rw [hsides.trim, List.append_cons_inj_of_notMem hsides.left hsides.right] at htrim
    obtain ⟨rfl, -, rfl⟩ := htrim
    rw [ignoredBy_iff hplain]
    constructor
    · rintro ⟨owner', repo', hsides', hsame⟩
      obtain ⟨rfl, rfl⟩ := hsides.unique hsides'
      exact hsame
    · exact fun hsame => ⟨owner, repo, hsides, hsame⟩

/-- Settings with a pattern for an owner, one for a repository, and three that are advised against. -/
def mixedSettings : Settings where
  apiUrl := "https://api.github.com".toList
  timeoutSeconds := 30
  ignore := [" My-Org/*\u00A0".toList, "my-org/\u03B1\u03A3".toList, "my-org".toList,
    "My-Org/\u0391\u03A3/*".toList, "*/*".toList]

/-- A usage of a repository whose name ends in a capital sigma. -/
def sigmaUsage : Usage where
  line := 0
  indent := "- ".toList
  separator := [' ']
  quote := .bare
  action := ⟨"My-Org".toList, "\u0391\u03A3".toList, some "sub".toList⟩
  reference := "v1".toList
  comment := []

theorem patterns_mean_what_advice_says_of_mixedSettings :
    Usage.parse? "- uses: My-Org/\u0391\u03A3/sub@v1".toList = some sigmaUsage ∧
    sigmaUsage.action.owner ≠ ['*'] ∧
    (∀ pattern ∈ mixedSettings.ignore, shapeAdvice pattern ∈ mixedSettings.advice →
      ignoredBy pattern sigmaUsage.action = false) ∧
    (∀ pattern ∈ mixedSettings.ignore, shapeAdvice pattern ∉ mixedSettings.advice →
      (∃ owner repo, Text.trim pattern = owner ++ '/' :: repo) ∧
      ∀ owner repo, Text.trim pattern = owner ++ '/' :: repo →
        (ignoredBy pattern sigmaUsage.action = true ↔
          lowercase owner = lowercase sigmaUsage.action.owner ∧
            (repo = ['*'] ∨ lowercase repo = lowercase sigmaUsage.action.repo))) ∧
    (mixedSettings.ignores sigmaUsage.action = true ↔
      ∃ pattern ∈ mixedSettings.ignore, ignoredBy pattern sigmaUsage.action = true) :=
  have h : Usage.parse? "- uses: My-Org/\u0391\u03A3/sub@v1".toList = some sigmaUsage := by
    decide +kernel
  have hstar : sigmaUsage.action.owner ≠ ['*'] := by decide
  ⟨h, hstar, patterns_mean_what_advice_says h hstar mixedSettings⟩

end Settings

end PinnedActions
