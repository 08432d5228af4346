import PinnedActions.Proofs.Resolver.Commits

/-!
# Where tags come from

A tag that a resolver answers with is an entry of a listing, the version that was asked for in one of
its spellings, or something that it remembers.  If no entry of a listing has white space in its name
(`Catalog.UnspacedTags`), then no tag has white space at its ends, whatever was asked for before
(`resolveSpec_ensures_isTrimmed`, `latest_ensures_isTrimmed`).  There may be some inside: any text may
be asked for, and it may be the name of a tag.
-/

set_option autoImplicit false

namespace PinnedActions

/-- Whether a catalog lists no tag with white space in its name. -/
structure Catalog.UnspacedTags (catalog : Catalog) : Prop where
  latest : ∀ owner repo answer release,
    catalog (Endpoint.path owner repo .latestRelease) = .ok answer →
      Payload.release answer = .ok release → release.tagName.NoBlanks
  newest : ∀ owner repo answer tags,
    catalog (Endpoint.path owner repo .newestTag) = .ok answer →
      Payload.tags answer = .ok tags → ∀ tag ∈ tags, tag.name.NoBlanks
  releases : ∀ owner repo page answer releases,
    catalog (Endpoint.path owner repo (.releases page)) = .ok answer →
      Payload.releases answer = .ok releases → ∀ release ∈ releases, release.tagName.NoBlanks
  tags : ∀ owner repo page answer tags,
    catalog (Endpoint.path owner repo (.tags page)) = .ok answer →
      Payload.tags answer = .ok tags → ∀ tag ∈ tags, tag.name.NoBlanks

/-- Whether no remembered tag has white space at its ends. -/
def Session.TrimmedTags (s : Session) : Prop :=
  ∀ k r, s.specs.lookup k = some r → Text.IsTrimmed r.tag

namespace Session

variable {s t : Session}

theorem trimmedTags_empty : TrimmedTags .empty := nofun

theorem TrimmedTags.of_sameSpecs (hs : s.TrimmedTags) (h : Resolver.SameSpecs s t) :
    t.TrimmedTags := by
  intro k r hk
  rw [h] at hk
  exact hs k r hk

theorem TrimmedTags.addSpec {r : Resolution} (hs : s.TrimmedTags) (h : Text.IsTrimmed r.tag)
    (k : CacheKey) : (s.addSpec k r).TrimmedTags := by
  intro k' r' hk
  rw [lookup_addSpec] at hk
  split at hk
  · exact Option.some_inj.1 hk ▸ h
  · exact hs k' r' hk

end Session

namespace Resolver

open Walk

variable {source : Source} {owner repo : Text} {s t : Session}

/-- What remembers no more specs ensures what it ends with. -/
theorem ensures_of_sameSpecs {α : Type} {w : Walk α} {Q : α → Prop} (hw : Moves SameSpecs w)
    (hQ : ∀ s a t, w.runFrom s = some (.ok a, t) → Q a) : Ensures Session.TrimmedTags Q w := by
  intro s result t hs h
  refine ⟨hs.of_sameSpecs (hw s result t h), ?_⟩
  rintro a rfl
  exact hQ s a t h

/-! ## One version -/

theorem tag_mem_of_firstExisting {names : List Text} {r : Resolution}
    (h : (firstExisting source owner repo names).runFrom s = some (.ok (some r), t)) :
    r.tag ∈ names := by
  induction names generalizing s with
  | nil => cases h
  | cons name rest ih =>
    rw [firstExisting] at h
    obtain ⟨found, u, -, h⟩ := runFrom_bind_eq_ok h
    cases found with
    | none => exact List.mem_cons_of_mem name (ih h)
    | some commit =>
      cases h
      exact List.mem_cons_self

/-- The spellings of an exact version are versions themselves. -/
theorem noBlanks_of_mem_spellings {spec name : Text} (hspec : Text.trim spec = spec)
    (hkind : (Version.classify spec).1 ≠ .literal)
    (h : name ∈ spellings spec (Version.classify spec).2) : name.NoBlanks := by
  have hdigits := (digitsOf_of_mem_spellings hspec hkind h).trans (Version.digitsOf_normal hkind)
  refine Version.noBlanks_of_kindOf ?_
  rw [Version.classify_fst, hspec] at hkind
  rw [hspec] at hdigits
  rwa [Version.kindOf, ← Version.digitsOf, hdigits]

/-- What is found in a listing is made of an entry of one of its pages. -/
theorem exists_entry_of_searchFrom {α : Type} {path : Nat → Text}
    {read : Json → Except Mismatch (List α)} {pick : α → Option Text} {patience page : Nat}
    {name : Text}
    (h : (searchFrom source path read pick patience page).runFrom s = some (.ok (some name), t)) :
    ∃ page answer entries, source.catalog (path page) = .ok answer ∧ read answer = .ok entries ∧
      ∃ entry ∈ entries, pick entry = some name := by
  induction patience generalizing page s with
  | zero => cases h
  | succ patience ih =>
    rw [searchFrom] at h
    obtain ⟨entries?, u, hfetch, h⟩ := runFrom_bind_eq_ok h
    rcases runFrom_ifFound_eq_ok hfetch with ⟨entries, rfl, hrun⟩ | ⟨rfl, -⟩
    · obtain ⟨answer, hanswer, hread⟩ := exists_answer_of_fetch hrun
      simp only at h
      split at h
      · rename_i hsome
        cases h
        exact ⟨page, answer, entries, hanswer, hread, List.exists_of_findSome?_eq_some hsome⟩
      · split at h
        · cases h
        · exact ih h
    · cases h

theorem noBlanks_of_findMatchingTag (htags : source.catalog.UnspacedTags) {normalized tag : Text}
    {kind : Version.Kind}
    (h : (findMatchingTag source owner repo normalized kind).runFrom s = some (.ok tag, t)) :
    tag.NoBlanks := by
  unfold findMatchingTag at h
  obtain ⟨name, u, h1, h2⟩ := runFrom_bind_eq_ok h
  cases name with
  | some name =>
    cases h2
    obtain ⟨page, answer, releases, hanswer, hread, r, hr, hpick⟩ := exists_entry_of_searchFrom h1
    rw [pickRelease] at hpick
    split at hpick
    · cases hpick
      exact htags.releases owner repo page answer releases hanswer hread r hr
    · cases hpick
  | none =>
    obtain ⟨name, v, h3, h4⟩ := runFrom_bind_eq_ok h2
    cases name with
    | some name =>
      cases h4
      obtain ⟨page, answer, tags, hanswer, hread, tag, htag, hpick⟩ := exists_entry_of_searchFrom h3
      rw [pickTag] at hpick
      split at hpick
      · cases hpick
        exact htags.tags owner repo page answer tags hanswer hread tag htag
      · cases hpick
    | none => cases h4

theorem isTrimmed_of_resolveListed (htags : source.catalog.UnspacedTags) {normalized : Text}
    {kind : Version.Kind} {r : Resolution}
    (h : (resolveListed source owner repo normalized kind).runFrom s = some (.ok r, t)) :
    Text.IsTrimmed r.tag := by
  unfold resolveListed at h
  obtain ⟨tag, u, htag, h⟩ := runFrom_bind_eq_ok h
  obtain ⟨commit, v, -, h⟩ := runFrom_bind_eq_ok h
  cases h
  exact Text.isTrimmed_of_noBlanks (noBlanks_of_findMatchingTag htags htag)

/-- **A tag that is looked up has no white space at its ends.** -/
theorem isTrimmed_of_lookUp (htags : source.catalog.UnspacedTags) {spec : Text}
    (hspec : Text.trim spec = spec) {r : Resolution}
    (h : (lookUp source owner repo spec (Version.classify spec).2
      (Version.classify spec).1).runFrom s = some (.ok r, t)) : Text.IsTrimmed r.tag := by
  cases hkind : (Version.classify spec).1 with
  | exact =>
    rw [hkind, lookUp, resolveExact] at h
    obtain ⟨found, u, hfound, h⟩ := runFrom_bind_eq_ok h
    cases found with
    | none => cases h
    | some r' =>
      cases h
      exact Text.isTrimmed_of_noBlanks (noBlanks_of_mem_spellings hspec
        (by rw [hkind]; decide) (tag_mem_of_firstExisting hfound))
  | literal =>
    rw [hkind, lookUp] at h
    obtain ⟨commit, u, -, h⟩ := runFrom_bind_eq_ok h
    cases h
    exact hspec ▸ Text.isTrimmed_trim spec
  | minor =>
    rw [hkind] at h
    exact isTrimmed_of_resolveListed htags h
  | major =>
    rw [hkind] at h
    exact isTrimmed_of_resolveListed htags h

/-- **What a spec resolves to is a tag without white space at its ends.** -/
theorem resolveSpec_ensures_isTrimmed (htags : source.catalog.UnspacedTags) (spec : Text) :
    Ensures Session.TrimmedTags (fun r => Text.IsTrimmed r.tag)
      (resolveSpec source owner repo spec) := by
  by_cases hblank : Text.trim spec = []
  · rw [resolveSpec_of_blank hblank]
    exact .fail _
  · rw [resolveSpec_eq_memo hblank, ← Version.classify_trim]
    exact .memo (fun _ r hs h => hs _ r h)
      (ensures_of_sameSpecs (lookUp_sameSpecs _ _ _)
        fun _ _ _ => isTrimmed_of_lookUp htags (Text.trim_trim spec))
      fun _ _ htrimmed hs => hs.addSpec htrimmed _

/-! ## The latest version -/

theorem isTrimmed_of_latestRelease (htags : source.catalog.UnspacedTags) {r : Resolution}
    (h : (latestRelease source owner repo).runFrom s = some (.ok (some r), t)) :
    Text.IsTrimmed r.tag := by
  obtain ⟨answer, release, hanswer, hread, htag, -⟩ := exists_release_of_latestRelease h
  exact htag ▸ Text.isTrimmed_of_noBlanks (htags.latest owner repo answer release hanswer hread)

theorem isTrimmed_of_newestTag (htags : source.catalog.UnspacedTags) {r : Resolution}
    (h : (newestTag source owner repo).runFrom s = some (.ok r, t)) : Text.IsTrimmed r.tag := by
  obtain ⟨answer, name, hash, rest, hanswer, hread, rfl⟩ := exists_tag_of_newestTag h
  exact Text.isTrimmed_of_noBlanks
    (htags.newest owner repo answer _ hanswer hread _ List.mem_cons_self)

/-- **What an upgrade moves to is a tag without white space at its ends.** -/
theorem latest_ensures_isTrimmed (htags : source.catalog.UnspacedTags) (version : Option Text) :
    Ensures Session.TrimmedTags (fun r => Text.IsTrimmed r.tag)
      (latest source owner repo version) := by
  have hcongruence := progress_sameSpecs.congruence source owner repo
  cases h : version.filter fun v => !(Text.trim v).isEmpty with
  | some spec =>
    rw [latest_of_asked h]
    exact resolveSpec_ensures_isTrimmed htags spec
  | none =>
    rw [latest_of_not_asked h]
    have hrelease : Ensures Session.TrimmedTags (fun found => ∀ r, found = some r →
        Text.IsTrimmed r.tag) (latestRelease source owner repo) :=
      ensures_of_sameSpecs (hcongruence.latestRelease resolveReference_sameSpecs)
        fun _ _ _ h r hr => isTrimmed_of_latestRelease htags (hr ▸ h)
    refine .bind hrelease fun found hfound => ?_
    split
    · exact .pure (hfound _ rfl)
    · exact ensures_of_sameSpecs hcongruence.newestTag fun _ _ _ => isTrimmed_of_newestTag htags

/-! ## Any history -/

/-- No call on a resolver brings in a tag with white space at its ends. -/
theorem respected_trimmedTags (htags : source.catalog.UnspacedTags) :
    Respected source fun s t => s.TrimmedTags → t.TrimmedTags where
  refl _ h := h
  trans _ _ _ h h' hs := h' (h hs)
  reference _ _ name :=
    (ensures_of_sameSpecs (Q := fun _ => True) (resolveReference_sameSpecs name)
      fun _ _ _ _ => trivial).moves
  spec _ _ wanted := (resolveSpec_ensures_isTrimmed htags wanted).moves
  latest _ _ version := (latest_ensures_isTrimmed htags version).moves

theorem trimmedTags_of_isReached (htags : source.catalog.UnspacedTags) (h : s.IsReached source) :
    s.TrimmedTags := by
  obtain ⟨calls, hcalls⟩ := h
  exact (respected_trimmedTags htags).afterCalls hcalls Session.trimmedTags_empty

end Resolver

end PinnedActions
