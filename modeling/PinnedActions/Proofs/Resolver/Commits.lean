import PinnedActions.Proofs.Resolver.History
import PinnedActions.Proofs.Version.Hash

/-!
# Where commits come from

A commit that a resolver answers with is a reference that was a commit already, the end of a chain
of tag objects, an entry of the listing of tags, or something that it remembers.  A property `P` of
commits that holds of the first three (`Supplies`) holds of all answers, as long as it held of
everything remembered at the start (`CommitsAre`).

Two such properties are of use: commits are in lowercase, whatever the catalog says
(`supplies_lowercase`), and they are full hashes if the catalog speaks of full hashes only
(`supplies_isFullHash`).
-/

set_option autoImplicit false

namespace PinnedActions

namespace Session

variable {P : Text → Prop} {s : Session}

/-- Whether all remembered commits have a property. -/
structure CommitsAre (P : Text → Prop) (s : Session) : Prop where
  references : ∀ k commit, s.references.lookup k = some commit → P commit
  specs : ∀ k r, s.specs.lookup k = some r → P r.commit

theorem commitsAre_empty : CommitsAre P .empty where
  references _ _ h := by cases h
  specs _ _ h := by cases h

theorem CommitsAre.addFetches {paths : List Text} (hs : s.CommitsAre P) :
    (s.addFetches paths).CommitsAre P :=
  ⟨hs.references, hs.specs⟩

theorem CommitsAre.addReference {commit : Text} (hs : s.CommitsAre P) (h : P commit)
    (k : CacheKey) : (s.addReference k commit).CommitsAre P := by
  refine ⟨fun k' c hk => ?_, hs.specs⟩
  rw [lookup_addReference] at hk
  split at hk
  · exact Option.some_inj.1 hk ▸ h
  · exact hs.references k' c hk

theorem CommitsAre.addSpec {r : Resolution} (hs : s.CommitsAre P) (h : P r.commit)
    (k : CacheKey) : (s.addSpec k r).CommitsAre P := by
  refine ⟨hs.references, fun k' r' hk => ?_⟩
  rw [lookup_addSpec] at hk
  split at hk
  · exact Option.some_inj.1 hk ▸ h
  · exact hs.specs k' r' hk

end Session

/-- Whether the objects that references end at are full hashes. -/
def Catalog.HexCommits (catalog : Catalog) : Prop :=
  ∀ path answer object, catalog path = .ok answer → Payload.gitReference answer = .ok object →
    object.type = Resolver.commitType → Version.isFullHash object.hash = true

theorem Catalog.hexCommits_ofEnding (ending : Text) {hash : Text}
    (h : Version.isFullHash hash = true) : (ofEnding ending hash).HexCommits := by
  intro path answer object hanswer hread _
  rw [ofEnding] at hanswer
  split at hanswer
  · cases hanswer
    have hobject : object = ⟨hash, Resolver.commitType⟩ := (Except.ok.inj hread).symm
    rw [hobject]
    exact h
  · cases hanswer

namespace Resolver

open Walk

variable {source : Source} {owner repo : Text} {P : Text → Prop} {s t : Session}

/-- Whether references that are commits, and those that have to be looked up, have commits with a
property. -/
structure Supplies (source : Source) (P : Text → Prop) : Prop where
  hash : ∀ name, Version.isFullHash name = true → P (Text.lowercase name)
  chain : ∀ owner repo name s commit t,
    (dereference source owner repo name).runFrom s = some (.ok commit, t) → P commit

theorem resolveReference_ensures (hP : Supplies source P) (name : Text) :
    Ensures (Session.CommitsAre P) P (resolveReference source owner repo name) := by
  cases hhash : Version.isFullHash name with
  | true =>
    rw [resolveReference_of_hash hhash]
    exact .pure (hP.hash name hhash)
  | false =>
    have hchain : Ensures (Session.CommitsAre P) P (dereference source owner repo name) :=
      .of_onlyAsks (fun _ _ hs => hs.addFetches) (dereference_onlyAsks name)
        (hP.chain owner repo name)
    rw [resolveReference_eq_memo hhash]
    exact .memo (fun _ commit hs h => hs.references _ commit h) hchain
      fun _ _ hcommit hs => hs.addReference hcommit _

theorem firstExisting_ensures (hP : Supplies source P) (names : List Text) :
    Ensures (Session.CommitsAre P) (fun found => ∀ r, found = some r → P r.commit)
      (firstExisting source owner repo names) := by
  induction names with
  | nil => exact .pure nofun
  | cons name rest ih =>
    rw [firstExisting]
    refine .bind (.ifFound (resolveReference_ensures hP name)) fun found hfound => ?_
    split
    · rename_i commit
      exact .pure fun r hr => Option.some_inj.1 hr ▸ hfound commit rfl
    · exact ih

theorem resolveListed_ensures (hP : Supplies source P) (normalized : Text)
    (kind : Version.Kind) :
    Ensures (Session.CommitsAre P) (fun r => P r.commit)
      (resolveListed source owner repo normalized kind) :=
  .bind (Q := fun _ => True) (.of_onlyAsks (fun _ _ hs => hs.addFetches)
    (findMatchingTag_onlyAsks ..) fun _ _ _ _ => trivial) fun tag _ =>
      .bind (resolveReference_ensures hP tag) fun _ hcommit => .pure hcommit

theorem lookUp_ensures (hP : Supplies source P) (spec normalized : Text) (kind : Version.Kind) :
    Ensures (Session.CommitsAre P) (fun r => P r.commit)
      (lookUp source owner repo spec normalized kind) := by
  cases kind with
  | exact =>
    refine .bind (firstExisting_ensures hP _) fun found hfound => ?_
    split
    · exact .pure (hfound _ rfl)
    · exact .fail _
  | literal => exact .bind (resolveReference_ensures hP spec) fun _ hcommit => .pure hcommit
  | minor => exact resolveListed_ensures hP normalized .minor
  | major => exact resolveListed_ensures hP normalized .major

/-- **What a spec resolves to has a commit with the property.** -/
theorem resolveSpec_ensures (hP : Supplies source P) (spec : Text) :
    Ensures (Session.CommitsAre P) (fun r => P r.commit)
      (resolveSpec source owner repo spec) := by
  by_cases hblank : Text.trim spec = []
  · rw [resolveSpec_of_blank hblank]
    exact .fail _
  · rw [resolveSpec_eq_memo hblank]
    exact .memo (fun _ r hs h => hs.specs _ r h) (lookUp_ensures hP _ _ _)
      fun _ _ hcommit hs => hs.addSpec hcommit _

/-- **What an upgrade moves to has a commit with the property**, if the listing of tags gives such
commits too. -/
theorem latest_ensures (hP : Supplies source P)
    (hlisting : ∀ s r t, (newestTag source owner repo).runFrom s = some (.ok r, t) → P r.commit)
    (version : Option Text) :
    Ensures (Session.CommitsAre P) (fun r => P r.commit)
      (latest source owner repo version) := by
  cases h : version.filter fun v => !(Text.trim v).isEmpty with
  | some spec =>
    rw [latest_of_asked h]
    exact resolveSpec_ensures hP spec
  | none =>
    rw [latest_of_not_asked h]
    have hrelease : Ensures (Session.CommitsAre P) (fun found => ∀ r, found = some r → P r.commit)
        (latestRelease source owner repo) := by
      unfold latestRelease
      refine .bind (Q := fun _ => True) (.of_onlyAsks (fun _ _ hs => hs.addFetches)
        (.ifFound (.fetch ..)) fun _ _ _ _ => trivial) fun release _ => ?_
      split
      · exact .pure nofun
      · split
        · exact .pure nofun
        · refine .bind (.ifFound (resolveReference_ensures hP _)) fun found hfound => ?_
          split
          · exact .pure nofun
          · exact .pure fun r hr => Option.some_inj.1 hr ▸ hfound _ rfl
    refine .bind hrelease fun found hfound => ?_
    split
    · exact .pure (hfound _ rfl)
    · exact .of_onlyAsks (fun _ _ hs => hs.addFetches) newestTag_onlyAsks hlisting

/-- The property of all commits in memory outlasts every call. -/
theorem respected_commitsAre (hP : Supplies source P)
    (hlisting : ∀ owner repo s r t,
      (newestTag source owner repo).runFrom s = some (.ok r, t) → P r.commit) :
    Respected source fun s t => s.CommitsAre P → t.CommitsAre P where
  refl _ h := h
  trans _ _ _ h h' hs := h' (h hs)
  reference _ _ name := (resolveReference_ensures hP name).moves
  spec _ _ wanted := (resolveSpec_ensures hP wanted).moves
  latest owner repo version := (latest_ensures hP (hlisting owner repo) version).moves

/-! ## What the catalog says -/

/-- A fetch gives what the catalog says about a path. -/
theorem exists_answer_of_fetch {α : Type} {path : Text} {read : Json → Except Mismatch α} {a : α}
    (h : (fetch source path read).runFrom s = some (.ok a, t)) :
    ∃ answer, source.catalog path = .ok answer ∧ read answer = .ok a := by
  rw [runFrom_fetch, reply] at h
  cases hanswer : source.catalog path with
  | error f =>
    rw [hanswer] at h
    cases h
  | ok answer =>
    cases hread : read answer with
    | error m =>
      simp only [hanswer, hread] at h
      cases h
    | ok b =>
      simp only [hanswer, hread] at h
      cases h
      exact ⟨answer, rfl, hread⟩

/-- What is found as the latest release is the tag that the catalog says it has. -/
theorem exists_release_of_latestRelease {r : Resolution}
    (h : (latestRelease source owner repo).runFrom s = some (.ok (some r), t)) :
    ∃ answer release, source.catalog (Endpoint.path owner repo .latestRelease) = .ok answer ∧
      Payload.release answer = .ok release ∧ release.tagName = r.tag ∧ r.tag ≠ [] := by
  unfold latestRelease at h
  obtain ⟨release?, u, hfetch, h⟩ := runFrom_bind_eq_ok h
  rcases runFrom_ifFound_eq_ok hfetch with ⟨release, rfl, hrun⟩ | ⟨rfl, -⟩
  · obtain ⟨answer, hanswer, hread⟩ := exists_answer_of_fetch hrun
    simp only at h
    split at h
    · cases h
    · rename_i hname
      obtain ⟨commit?, v, -, h⟩ := runFrom_bind_eq_ok h
      cases commit? with
      | none => cases h
      | some commit =>
        cases h
        exact ⟨answer, release, hanswer, hread, rfl, by simpa using hname⟩
  · cases h

/-- What is found as the newest tag is the first that the catalog lists, and has its commit. -/
theorem exists_tag_of_newestTag {r : Resolution}
    (h : (newestTag source owner repo).runFrom s = some (.ok r, t)) :
    ∃ answer name hash rest, source.catalog (Endpoint.path owner repo .newestTag) = .ok answer ∧
      Payload.tags answer = .ok (⟨name, some hash⟩ :: rest) ∧ r = ⟨name, Text.lowercase hash⟩ := by
  unfold newestTag at h
  obtain ⟨tags, u, hfetch, h⟩ := runFrom_bind_eq_ok h
  obtain ⟨answer, hanswer, hread⟩ := exists_answer_of_fetch hfetch
  split at h
  · rename_i name hash rest
    cases h
    exact ⟨answer, name, hash, rest, hanswer, hread, rfl⟩
  · cases h

/-! ## Lowercase -/

theorem supplies_lowercase : Supplies source fun c => Text.lowercase c = c where
  hash name _ := Text.lowercase_lowercase name
  chain owner repo name s commit t h := by
    obtain ⟨hash, rfl⟩ := exists_lowercase_of_dereference h
    exact Text.lowercase_lowercase hash

theorem lowercase_of_newestTag {r : Resolution}
    (h : (newestTag source owner repo).runFrom s = some (.ok r, t)) :
    Text.lowercase r.commit = r.commit := by
  obtain ⟨-, -, hash, -, -, -, rfl⟩ := exists_tag_of_newestTag h
  exact Text.lowercase_lowercase hash

/-- No call on a resolver brings in a commit that is not in lowercase. -/
theorem respected_lowercase :
    Respected source fun s t => (s.CommitsAre fun c => Text.lowercase c = c) →
      t.CommitsAre fun c => Text.lowercase c = c :=
  respected_commitsAre supplies_lowercase fun _ _ _ _ _ => lowercase_of_newestTag

/-- **Only lowercase commits are remembered**, after any history of calls. -/
theorem commitsAre_lowercase_of_isReached (h : s.IsReached source) :
    s.CommitsAre fun c => Text.lowercase c = c := by
  obtain ⟨calls, hcalls⟩ := h
  exact respected_lowercase.afterCalls hcalls Session.commitsAre_empty

/-! ## Full hashes -/

/-- Whether an object that is a commit is a full hash. -/
def IsHexObject (o : GitObject) : Prop :=
  o.type = commitType → Version.isFullHash o.hash = true

theorem isHexObject_of_fetch (hhex : source.catalog.HexCommits) {path : Text} {o : GitObject}
    (h : (fetch source path Payload.gitReference).runFrom s = some (.ok o, t)) :
    IsHexObject o := by
  obtain ⟨answer, hanswer, hread⟩ := exists_answer_of_fetch h
  exact hhex path answer o hanswer hread

theorem isHexObject_of_follow (hhex : source.catalog.HexCommits) {patience : Nat}
    {first last : GitObject} (hfirst : IsHexObject first)
    (h : (follow source owner repo patience first).runFrom s = some (.ok last, t)) :
    IsHexObject last := by
  induction patience generalizing first s with
  | zero =>
    rw [follow] at h
    split at h
    · cases h
      exact hfirst
    · cases h
  | succ patience ih =>
    rw [follow] at h
    split at h
    · cases h
      exact hfirst
    · obtain ⟨next, u, hfetch, h⟩ := runFrom_bind_eq_ok h
      exact ih (isHexObject_of_fetch hhex hfetch) h

theorem supplies_isFullHash (hhex : source.catalog.HexCommits) :
    Supplies source fun c => Version.isFullHash c = true where
  hash _ h := Version.isFullHash_lowercase h
  chain owner repo name s commit t h := by
    unfold dereference at h
    obtain ⟨first, u, hfirst, h⟩ := runFrom_bind_eq_ok h
    obtain ⟨last, v, hlast, h⟩ := runFrom_bind_eq_ok h
    split at h
    · cases h
    · rename_i htype
      cases h
      exact Version.isFullHash_lowercase
        (isHexObject_of_follow hhex (isHexObject_of_fetch hhex hfirst) hlast (not_not.1 htype))

end Resolver

end PinnedActions
