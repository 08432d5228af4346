import PinnedActions.Proofs.Resolver.Congruence

/-!
# How the resolver looks things up

What the walks of the resolver do, so that nothing below has to unfold them.

* Following a chain of tag objects and searching the listings only ask (`dereference_onlyAsks`,
  `findMatchingTag_onlyAsks`).
* `resolveReference` is the only place where a reference is remembered (`resolveReference_moves`),
  and everything else inherits from it what it does to a session (`Progress.congruence`).
* `Kin` says that two spellings of a repository get the same answers.  Looking something up under
  one and under the other is then parallel (`Kin.congruence`), whenever resolving references is.
-/

set_option autoImplicit false

namespace PinnedActions

namespace Resolver

open Walk

variable {source : Source} {owner repo owner' repo' : Text} {s t : Session}

/-! ## Walks that only ask -/

theorem congruence_onlyAsks (source : Source) (owner repo : Text) :
    Congruence source source owner repo owner repo fun _ w _ => OnlyAsks w where
  patience := rfl
  pure _ a := .pure a
  fail _ f _ _ := .fail f
  endless _ := .endless
  fetch _ _ _ _ := .fetch ..
  bind _ _ _ _ _ _ hw hk := .bind hw hk
  ifFound _ _ _ hw := .ifFound hw

theorem dereference_onlyAsks (name : Text) : OnlyAsks (dereference source owner repo name) :=
  (congruence_onlyAsks source owner repo).dereference name

theorem findMatchingTag_onlyAsks (normalized : Text) (kind : Version.Kind) :
    OnlyAsks (findMatchingTag source owner repo normalized kind) :=
  (congruence_onlyAsks source owner repo).findMatchingTag normalized kind

theorem newestTag_onlyAsks : OnlyAsks (newestTag source owner repo) :=
  (congruence_onlyAsks source owner repo).newestTag

/-- The commit that a chain ends at is given in lowercase. -/
theorem exists_lowercase_of_dereference {name commit : Text}
    (h : (dereference source owner repo name).runFrom s = some (.ok commit, t)) :
    ∃ hash, commit = Text.lowercase hash := by
  unfold dereference at h
  obtain ⟨first, u, -, h⟩ := runFrom_bind_eq_ok h
  obtain ⟨last, v, -, h⟩ := runFrom_bind_eq_ok h
  split at h
  · cases h
  · cases h
    exact ⟨last.hash, rfl⟩

/-! ## Where looking up leads -/

/-- A relation between sessions that every sequence of fetches respects. -/
structure Progress (rel : Session → Session → Prop) : Prop where
  refl : ∀ s, rel s s
  trans : ∀ s t u, rel s t → rel t u → rel s u
  fetches : ∀ s paths, rel s (s.addFetches paths)

section Moves

variable {rel : Session → Session → Prop}

theorem Progress.congruence (hrel : Progress rel) (source : Source) (owner repo : Text) :
    Congruence source source owner repo owner repo fun _ w _ => Moves rel w where
  patience := rfl
  pure _ a := .pure hrel.refl a
  fail _ f _ _ := .fail hrel.refl f
  endless _ := .endless
  fetch _ _ _ _ := .of_onlyAsks hrel.fetches (.fetch ..)
  bind _ _ _ _ _ _ hw hk := .bind hrel.trans hw hk
  ifFound _ _ _ hw := .ifFound hw

/-- The only change is a new reference with the commit that the catalog gives for it. -/
theorem resolveReference_moves (hrel : Progress rel) {name : Text}
    (hadd : ∀ s commit, Version.isFullHash name = false →
      s.references.lookup (Session.key owner repo name) = none →
      (dereference source owner repo name).answer s = some (.ok commit) →
        rel s (s.addReference (Session.key owner repo name) commit)) :
    Moves rel (resolveReference source owner repo name) := by
  intro s r t h
  cases hhash : Version.isFullHash name with
  | true =>
    rw [resolveReference_of_hash hhash] at h
    exact Moves.pure hrel.refl _ s r t h
  | false =>
    rw [resolveReference_eq_memo hhash] at h
    cases memoRun_of_runFrom h with
    | hit => exact hrel.refl s
    | found hs hrun =>
      obtain ⟨paths, rfl⟩ := (dereference_onlyAsks name).exists_addFetches hrun
      refine hrel.trans _ _ _ (hrel.fetches s paths) (hadd _ _ hhash hs ?_)
      rw [(dereference_onlyAsks name).answer_eq _ s, answer_of_runFrom hrun]
    | failed _ hrun =>
      obtain ⟨paths, rfl⟩ := (dereference_onlyAsks name).exists_addFetches hrun
      exact hrel.fetches s paths

end Moves

/-! ## Two spellings of a repository -/

/-- Two spellings of a repository about which the catalog says the same, up to failures that stand
in a relation. -/
structure Kin (source : Source) (R : Failure → Failure → Prop)
    (owner repo owner' repo' : Text) : Prop where
  isNotFound : ∀ f f', R f f' → f.isNotFound = f'.isNotFound
  answers : ∀ e : Endpoint,
    Alike R (source.catalog (e.path owner repo)) (source.catalog (e.path owner' repo'))
  decode : ∀ (e : Endpoint) cause,
    R (.decode (e.path owner repo) cause) (.decode (e.path owner' repo') cause)
  raises : ∀ f f', Raises owner repo owner' repo' f f' → R f f'

/-- A repository under one spelling. -/
theorem Kin.self (source : Source) (owner repo : Text) : Kin source Eq owner repo owner repo where
  isNotFound _ _ h := by rw [h]
  answers e := by
    cases source.catalog (e.path owner repo) with
    | ok a => exact .value a
    | error f => exact .failure rfl
  decode _ _ := rfl
  raises f f' h := by cases h <;> rfl

/-- A relation between sessions that does not look at what was fetched. -/
def IgnoresFetches (S : Session → Session → Prop) : Prop :=
  ∀ s s' path path', S s s' → S (s.addFetch path) (s'.addFetch path')

section Parallel

variable {S : Session → Session → Prop} {R : Failure → Failure → Prop}

theorem fetch_parallel {α : Type} (hS : IgnoresFetches S)
    (hkin : Kin source R owner repo owner' repo') (e : Endpoint) (read : Json → Except Mismatch α) :
    Parallel S R (fetch source (e.path owner repo) read)
      (fetch source (e.path owner' repo') read) := by
  refine .fetch hS ?_
  have h := hkin.answers e
  unfold reply
  generalize source.catalog (e.path owner repo) = a,
    source.catalog (e.path owner' repo') = a' at h ⊢
  cases h with
  | failure hf => exact .failure hf
  | value answer =>
    simp only
    cases read answer with
    | error m => exact .failure (hkin.decode e _)
    | ok x => exact .value x

/-- **Walks for two spellings are parallel** whenever resolving references is. -/
theorem Kin.congruence (hkin : Kin source R owner repo owner' repo') (hS : IgnoresFetches S) :
    Congruence source source owner repo owner' repo' fun _ w w' => Parallel S R w w' where
  patience := rfl
  pure _ a := .pure a
  fail _ _ _ hf := .fail (hkin.raises _ _ hf)
  endless _ := .endless
  fetch _ e read _ := fetch_parallel hS hkin e read
  bind _ _ _ _ _ _ hw hk := .bind hw hk
  ifFound _ _ _ hw := .ifFound hkin.isNotFound hw

end Parallel

end Resolver

end PinnedActions
