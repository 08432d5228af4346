import PinnedActions.Proofs.Resolver.Replay
import PinnedActions.Proofs.Resolver.Soundness

/-!
# Versions that are names of tags

A tag is found by one way and its name is resolved as a version by another.  The second way leads
back to the tag when the name is a version that is looked for under this name (`IsOwnName`): a
literal one, or an exact one of which no spelling that is tried before exists
(`answer_resolveSpec_of_isOwnName`).  Minor and major versions are not among them, as they stand for
the newest release that continues them.

`Catalog.WordTags` says that the tags that a repository may be moved to are words, so that they can
be put into a comment; then the latest version of a repository is a word, too
(`latest_ensures_isWord`).
-/

set_option autoImplicit false

namespace PinnedActions

/-- Whether a text is one word. -/
def Text.IsWord (t : Text) : Prop := t ≠ [] ∧ t.NoBlanks

/-- Whether the tags that a catalog gives as the latest ones of a repository are words.  A release
may have no tag. -/
structure Catalog.WordTags (catalog : Catalog) : Prop where
  release : ∀ owner repo answer release,
    catalog (Endpoint.path owner repo .latestRelease) = .ok answer →
      Payload.release answer = .ok release → release.tagName.NoBlanks
  newest : ∀ owner repo answer tags,
    catalog (Endpoint.path owner repo .newestTag) = .ok answer →
      Payload.tags answer = .ok tags → ∀ tag ∈ tags, tag.name.IsWord

namespace Resolver

open Walk

variable {source : Source} {owner repo : Text} {s t : Session}

/-! ## Looking versions up under their own names -/

/-- Whether a catalog has no reference of a name. -/
def IsMissing (source : Source) (owner repo name : Text) : Prop :=
  ∃ f, freshCommit source owner repo name = some (.error f) ∧ f.isNotFound = true

/-- Whether a version is looked for under its own name, all names that are tried before being
missing. -/
inductive IsOwnName (source : Source) (owner repo version : Text) : Prop where
  | literal (hkind : (Version.classify version).1 = .literal)
  | exact {before rest : List Text} (hkind : (Version.classify version).1 = .exact)
      (hspellings : spellings version (Version.classify version).2 = before ++ version :: rest)
      (hbefore : ∀ name ∈ before, IsMissing source owner repo name)

/-- A session that remembers nothing finds what a new one finds. -/
theorem answer_resolveReference_of_sameMemory (hs : Session.SameMemory .empty s) (name : Text) :
    (resolveReference source owner repo name).answer s = freshCommit source owner repo name :=
  (((closed_parallel agreement_sameMemory).resolveReference_related name).answer_eq hs).symm

/-- Names that are missing are passed over, as long as nothing is remembered, and then nothing is
remembered still. -/
theorem exists_runFrom_firstExisting_append {before : List Text}
    (hbefore : ∀ other ∈ before, IsMissing source owner repo other) (rest : List Text)
    (hs : Session.SameMemory .empty s) :
    ∃ t, Session.SameMemory .empty t ∧
      (firstExisting source owner repo (before ++ rest)).runFrom s =
        (firstExisting source owner repo rest).runFrom t := by
  induction before generalizing s with
  | nil => exact ⟨s, hs, rfl⟩
  | cons other before ih =>
    obtain ⟨⟨f, hmissing, hf⟩, hbefore⟩ := List.forall_mem_cons.1 hbefore
    obtain ⟨u, hrun⟩ := exists_runFrom_of_answer
      ((answer_resolveReference_of_sameMemory hs other).trans hmissing)
    have hskipped : (resolveReference source owner repo other).ifFound.runFrom s =
        some (.ok none, u) := by
      simp only [runFrom_ifFound, hrun, Option.map_some, hf, if_true]
    -- what is missing leaves nothing behind
    obtain ⟨t, ht, hrest⟩ := ih hbefore (hs.trans (sameMemory_of_resolveReference hrun))
    refine ⟨t, ht, ?_⟩
    rw [List.cons_append, firstExisting, runFrom_bind_of_ok hskipped]
    exact hrest

/-- The first of several names that exists is found. -/
theorem exists_runFrom_firstExisting {name commit : Text} {before rest : List Text}
    (hbefore : ∀ other ∈ before, IsMissing source owner repo other)
    (h : freshCommit source owner repo name = some (.ok commit))
    (hs : Session.SameMemory .empty s) :
    ∃ t, (firstExisting source owner repo (before ++ name :: rest)).runFrom s =
      some (.ok (some ⟨name, commit⟩), t) := by
  obtain ⟨u, hu, hrest⟩ := exists_runFrom_firstExisting_append hbefore (name :: rest) hs
  obtain ⟨t, hrun⟩ := exists_runFrom_of_answer
    ((answer_resolveReference_of_sameMemory hu name).trans h)
  have hfound : (resolveReference source owner repo name).ifFound.runFrom u =
      some (.ok (some commit), t) := by
    rw [runFrom_ifFound, hrun]
    rfl
  refine ⟨t, ?_⟩
  rw [hrest, firstExisting, runFrom_bind_of_ok hfound]
  rfl

/-- **A version that is the name of a tag leads to the commit of the tag**, when it is looked for
under its own name. -/
theorem answer_resolveSpec_of_isOwnName {name commit : Text} (hword : name.IsWord)
    (hown : IsOwnName source owner repo name)
    (h : freshCommit source owner repo name = some (.ok commit)) :
    (resolveSpec source owner repo name).answer .empty = some (.ok ⟨name, commit⟩) := by
  have htrim : Text.trim name = name :=
    Text.trim_of_isTrimmed (Text.isTrimmed_of_noBlanks hword.2)
  rw [answer_resolveSpec_miss (by rw [htrim]; exact hword.1) rfl, htrim]
  cases hown with
  | literal hkind =>
    obtain ⟨t, hrun⟩ := exists_runFrom_of_answer h
    refine answer_of_runFrom (t := t) ?_
    rw [hkind, lookUp, runFrom_bind_of_ok hrun]
    rfl
  | exact hkind hspellings hbefore =>
    obtain ⟨t, hrun⟩ := exists_runFrom_firstExisting hbefore h (.refl .empty)
    refine answer_of_runFrom (t := t) ?_
    rw [hkind, lookUp, resolveExact, hspellings, runFrom_bind_of_ok hrun]
    rfl

/-! ## The tag of the latest version -/

theorem isWord_of_latestRelease (hwords : source.catalog.WordTags) {r : Resolution}
    (h : (latestRelease source owner repo).runFrom s = some (.ok (some r), t)) : r.tag.IsWord := by
  obtain ⟨answer, release, hanswer, hread, htag, hne⟩ := exists_release_of_latestRelease h
  exact ⟨hne, htag ▸ hwords.release owner repo answer release hanswer hread⟩

theorem isWord_of_newestTag (hwords : source.catalog.WordTags) {r : Resolution}
    (h : (newestTag source owner repo).runFrom s = some (.ok r, t)) : r.tag.IsWord := by
  obtain ⟨answer, name, hash, rest, hanswer, hread, rfl⟩ := exists_tag_of_newestTag h
  exact hwords.newest owner repo answer _ hanswer hread _ List.mem_cons_self

/-- **A tag that is found as the latest version is a word.** -/
theorem latest_ensures_isWord (hwords : source.catalog.WordTags) :
    Ensures (fun _ => True) (fun r => r.tag.IsWord) (latest source owner repo none) := by
  intro s result t _ h
  refine ⟨trivial, ?_⟩
  rintro r rfl
  obtain ⟨found, u, hrelease, h⟩ := runFrom_bind_eq_ok h
  cases found with
  | none => exact isWord_of_newestTag hwords h
  | some r' =>
    cases h
    exact isWord_of_latestRelease hwords hrelease

/-- Where a release counts as the latest, the latest version has the commit of its tag. -/
theorem IsLatest.freshCommit_eq {r : Resolution} (h : IsLatest source owner repo r)
    (hrelease : ¬LacksRelease source owner repo) :
    freshCommit source owner repo r.tag = some (.ok r.commit) := by
  cases h with
  | release _ _ hcommit => exact hcommit
  | tag hlacks => exact absurd hlacks hrelease

end Resolver

end PinnedActions
