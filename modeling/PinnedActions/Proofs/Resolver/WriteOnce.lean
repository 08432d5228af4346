import PinnedActions.Proofs.Resolver.History
import PinnedActions.Proofs.Resolver.Outage
import PinnedActions.Proofs.Resolver.Replay
import Mathlib.Logic.Relation

/-!
# What is remembered stays

A resolver writes to its two memories only under keys that have no entry yet, and a call writes at
its end or not at all.

* `Session.KeptIn` — all that one session remembers is remembered by another one.  Every call leads
  to a session that keeps what there was (`IsCall.keptIn`).
* `IsCall.sameMemory_of_error` — a call that fails leaves what is remembered as it is, however far
  it came.
* `memory_is_write_once` — what these say about a history of calls.

What is remembered is not asked for again, so nothing here depends on the catalog: every call of a
history may find another one (`OneCall`).
-/

set_option autoImplicit false

namespace PinnedActions

namespace Session

/-- Whether all that one session remembers is remembered by another one, with the same values. -/
structure KeptIn (s t : Session) : Prop where
  references : ∀ k commit, s.references.lookup k = some commit → t.references.lookup k = some commit
  specs : ∀ k r, s.specs.lookup k = some r → t.specs.lookup k = some r

namespace KeptIn

variable {s t u : Session}

theorem of_sameMemory (h : s.SameMemory t) : s.KeptIn t where
  references k commit hk := by rwa [← h.1]
  specs k r hk := by rwa [← h.2]

theorem trans (h : s.KeptIn t) (h' : t.KeptIn u) : s.KeptIn u where
  references k commit hk := h'.references k commit (h.references k commit hk)
  specs k r hk := h'.specs k r (h.specs k r hk)

/-- A reference without an entry can be added. -/
theorem addReference {k : CacheKey} (hk : s.references.lookup k = none) (commit : Text) :
    s.KeptIn (s.addReference k commit) where
  references k' commit' h := by
    rw [lookup_addReference, if_neg, h]
    rintro rfl
    rw [hk] at h
    cases h
  specs _ _ h := h

/-- So can a spec. -/
theorem addSpec {k : CacheKey} (hk : s.specs.lookup k = none) (r : Resolution) :
    s.KeptIn (s.addSpec k r) where
  references _ _ h := h
  specs k' r' h := by
    rw [lookup_addSpec, if_neg, h]
    rintro rfl
    rw [hk] at h
    cases h

end KeptIn

end Session

namespace Resolver

open Walk

variable {source : Source} {owner repo : Text} {s t : Session} {α : Type}

/-! ## Nothing is lost -/

theorem progress_keptIn : Progress Session.KeptIn where
  refl s := .of_sameMemory (.refl s)
  trans _ _ _ := .trans
  fetches _ _ := .of_sameMemory ⟨rfl, rfl⟩

theorem resolveReference_keptIn (name : Text) :
    Moves Session.KeptIn (resolveReference source owner repo name) :=
  resolveReference_moves progress_keptIn fun _ commit _ hk _ => .addReference hk commit

theorem resolveSpec_keptIn (spec : Text) :
    Moves Session.KeptIn (resolveSpec source owner repo spec) := by
  intro s r t h
  by_cases hblank : Text.trim spec = []
  · rw [resolveSpec_of_blank hblank] at h
    cases h
    exact progress_keptIn.refl s
  rw [resolveSpec_eq_memo hblank] at h
  have hkept : Moves Session.KeptIn (lookUp source owner repo (Text.trim spec)
      (Version.classify spec).2 (Version.classify spec).1) :=
    (progress_keptIn.congruence source owner repo).lookUp resolveReference_keptIn _ _ _
  cases memoRun_of_runFrom h with
  | hit => exact progress_keptIn.refl s
  | failed _ hrun => exact hkept s _ t hrun
  | @found r u hnone hrun =>
    -- looking up adds no specs, so there still is no entry
    have hspecs : u.specs = s.specs := lookUp_sameSpecs _ _ _ s _ u hrun
    exact (hkept s _ u hrun).trans (.addSpec (by rw [hspecs, hnone]) r)

/-- **A call forgets nothing.** -/
theorem IsCall.keptIn {call : Source → Walk α} (h : IsCall owner repo call) (source : Source) :
    Moves Session.KeptIn (call source) := by
  cases h with
  | reference name => exact resolveReference_keptIn name
  | spec spec => exact resolveSpec_keptIn spec
  | search normalized kind =>
    exact .of_onlyAsks progress_keptIn.fetches (findMatchingTag_onlyAsks normalized kind)
  | latest version =>
    exact (progress_keptIn.congruence source owner repo).latest resolveReference_keptIn
      fun spec _ => resolveSpec_keptIn spec

theorem respected_keptIn : Respected source Session.KeptIn where
  refl := progress_keptIn.refl
  trans := progress_keptIn.trans
  reference _ _ name := (IsCall.reference name).keptIn source
  spec _ _ wanted := (IsCall.spec wanted).keptIn source
  latest _ _ version := (IsCall.latest version).keptIn source

/-! ## Nothing is written by a call that fails -/

/-- A latest release that is not to be had leaves nothing behind. -/
theorem sameMemory_of_latestRelease {r : Except Failure (Option Resolution)}
    (hr : ∀ found, r ≠ .ok (some found))
    (h : (latestRelease source owner repo).runFrom s = some (r, t)) : s.SameMemory t := by
  have hasks := (OnlyAsks.fetch source (Endpoint.path owner repo .latestRelease)
    Payload.release).ifFound
  rw [latestRelease] at h
  rcases runFrom_bind_eq_some h with ⟨f, -, hrun⟩ | ⟨release, u, hrun, h⟩
  · exact hasks.sameMemory hrun
  have hu := hasks.sameMemory hrun
  cases release with
  | none =>
    cases h
    exact hu
  | some release =>
    simp only at h
    split at h
    · cases h
      exact hu
    rcases runFrom_bind_eq_some h with ⟨f, -, hrun⟩ | ⟨commit, v, hrun, h⟩
    · exact hu.trans (sameMemory_of_missing (by simp) hrun)
    · cases commit with
      | none =>
        cases h
        exact hu.trans (sameMemory_of_missing (by simp) hrun)
      | some commit =>
        cases h
        exact absurd rfl (hr _)

theorem sameMemory_of_latest {version : Option Text} {f : Failure}
    (h : (latest source owner repo version).runFrom s = some (.error f, t)) : s.SameMemory t := by
  cases hversion : version.filter fun v => !(Text.trim v).isEmpty with
  | some spec =>
    rw [latest_of_asked hversion] at h
    exact sameMemory_of_resolveSpec h
  | none =>
    rw [latest_of_not_asked hversion] at h
    rcases runFrom_bind_eq_error h with h | ⟨found, u, hrun, h⟩
    · exact sameMemory_of_latestRelease (by simp) h
    · cases found with
      | some r => cases h
      | none =>
        exact (sameMemory_of_latestRelease (by simp) hrun).trans (newestTag_onlyAsks.sameMemory h)

/-- **A call that fails leaves nothing behind.** -/
theorem IsCall.sameMemory_of_error {call : Source → Walk α} (hcall : IsCall owner repo call)
    {f : Failure} (h : (call source).runFrom s = some (.error f, t)) : s.SameMemory t := by
  cases hcall with
  | reference name => exact sameMemory_of_resolveReference h
  | spec spec => exact sameMemory_of_resolveSpec h
  | search normalized kind => exact (findMatchingTag_onlyAsks normalized kind).sameMemory h
  | latest version => exact sameMemory_of_latest h

/-! ## Histories -/

/-- Whether a call leads from one session to another, whatever catalog it asks. -/
def OneCall (s t : Session) : Prop :=
  ∃ (source : Source) (owner repo : Text) (α : Type) (call : Source → Walk α) (r : Except Failure α),
    IsCall owner repo call ∧ (call source).runFrom s = some (r, t)

/-- A history of calls forgets nothing. -/
theorem keptIn_of_calls (h : Relation.ReflTransGen OneCall s t) : s.KeptIn t := by
  induction h with
  | refl => exact progress_keptIn.refl s
  | tail _ hcall ih =>
    obtain ⟨source, owner, repo, α, call, r, hcall, hrun⟩ := hcall
    exact ih.trans (hcall.keptIn source _ r _ hrun)

/-- What is remembered under the key of a spec is what the spec resolves to, whatever the catalog
says. -/
theorem runFrom_resolveSpec_of_specKey_eq {owner' repo' spec spec' : Text} {r : Resolution}
    (hspec : Text.trim spec ≠ []) (hlookup : s.specs.lookup (specKey owner repo spec) = some r)
    (hkey : specKey owner' repo' spec' = specKey owner repo spec) :
    (resolveSpec source owner' repo' spec').runFrom s = some (.ok r, s) := by
  have hspec' : Text.trim spec' ≠ [] := by
    rwa [Ne, ← Version.foldedForm_eq_nil_iff, (key_eq_key_iff.1 hkey).2.2,
      Version.foldedForm_eq_nil_iff]
  exact runFrom_resolveSpec_of_lookup hspec' (hkey ▸ hlookup)

/-- **What a resolver remembers is written once.**  After a history of calls, with another catalog
at each of them, all entries are still there; a call that fails then changes none and adds none; and
a spec that was resolved before is answered as it was then, under every spelling with the same
lowercase form, with nothing fetched. -/
theorem memory_is_write_once (h : Relation.ReflTransGen OneCall s t) :
    ((∀ k commit, s.references.lookup k = some commit → t.references.lookup k = some commit) ∧
      ∀ k r, s.specs.lookup k = some r → t.specs.lookup k = some r) ∧
    (∀ (source : Source) (owner repo : Text) (α : Type) (call : Source → Walk α) (f : Failure)
      (u : Session), IsCall owner repo call → (call source).runFrom t = some (.error f, u) →
        u.references = t.references ∧ u.specs = t.specs) ∧
    ∀ (source : Source) (owner repo spec : Text) (s₀ : Session) (r : Resolution),
      (resolveSpec source owner repo spec).runFrom s₀ = some (.ok r, s) →
      ∀ (source' : Source) (owner' repo' spec' : Text),
        Text.lowercase owner' = Text.lowercase owner → Text.lowercase repo' = Text.lowercase repo →
        Text.lowercase (Version.classify spec').2 = Text.lowercase (Version.classify spec).2 →
          (resolveSpec source' owner' repo' spec').runFrom t = some (.ok r, t) := by
  have hkept := keptIn_of_calls h
  refine ⟨⟨hkept.references, hkept.specs⟩, fun source owner repo α call f u hcall hrun => ?_,
    fun source owner repo spec s₀ r hrun source' owner' repo' spec' howner hrepo hform => ?_⟩
  · have hsame := hcall.sameMemory_of_error hrun
    exact ⟨hsame.1.symm, hsame.2.symm⟩
  · have hspec : Text.trim spec ≠ [] := fun hblank => by
      rw [resolveSpec_of_blank hblank] at hrun
      cases hrun
    have hlookup := hkept.specs _ r (lookup_of_resolveSpec hrun)
    exact runFrom_resolveSpec_of_specKey_eq hspec hlookup
      (key_eq_key_iff.2 ⟨howner, hrepo, hform⟩)

/-- What a resolver remembers that resolved `stable`, failed to find the latest release while the
catalog was out of order, and then found the tag `edge` in another repository. -/
def edgeSession : Session where
  references := (Session.key ['o'] ['q'] "edge".toList, List.replicate 40 'b') ::
    stableSession.references
  specs := stableSession.specs
  fetched := ["repos/o/q/git/ref/tags/edge".toList, "repos/o/r/releases/latest".toList] ++
    stableSession.fetched

theorem memory_is_write_once_of_edgeSession :
    Relation.ReflTransGen OneCall stableSession edgeSession ∧
    (resolveSpec stableOnly ['o'] ['r'] "stable".toList).runFrom .empty =
      some (.ok ⟨"stable".toList, List.replicate 40 'a'⟩, stableSession) ∧
    (resolveSpec (brokenAt []) ['O'] ['R'] " STABLE".toList).runFrom edgeSession =
      some (.ok ⟨"stable".toList, List.replicate 40 'a'⟩, edgeSession) :=
  have hstable : (resolveSpec stableOnly ['o'] ['r'] "stable".toList).runFrom .empty =
      some (.ok ⟨"stable".toList, List.replicate 40 'a'⟩, stableSession) := by rfl
  have houtage : OneCall stableSession
      (stableSession.addFetch "repos/o/r/releases/latest".toList) :=
    ⟨brokenAt "repos/o/r/releases/latest".toList, ['o'], ['r'], _, _, _, .latest none, by rfl⟩
  have hedge : OneCall (stableSession.addFetch "repos/o/r/releases/latest".toList) edgeSession :=
    ⟨⟨Catalog.ofEnding "/edge".toList (List.replicate 40 'b'), 1⟩, ['o'], ['q'], _, _, _,
      .reference "edge".toList, by rfl⟩
  have hcalls := (Relation.ReflTransGen.single houtage).tail hedge
  ⟨hcalls, hstable, (memory_is_write_once hcalls).2.2 _ _ _ _ _ _ hstable _ _ _ _
    (by decide +kernel) (by decide +kernel) (by decide +kernel)⟩

end Resolver

end PinnedActions
