import PinnedActions.Proofs.Resolver.Memory

/-!
# What all walks of a resolver have in common

What a relation between walks says about resolving references and version specs depends on what is
remembered.  A congruence that is also kept by remembering is **closed** (`Closed`), and holds of
every walk of the resolver (`Closed.resolveSpec_related`, `Closed.latest_related`).

* `closed_failsOnly` — a property that the failures of the catalog have, and those of the resolver
  itself, all failures have.
* `closed_parallel` — from two sessions that remember the same about a repository, a walk goes the
  same way.
-/

set_option autoImplicit false

namespace PinnedActions

namespace Resolver

open Walk

/-- Whether a relation between walks is a congruence for a repository and is kept by remembering. -/
structure Closed (source source' : Source) (owner repo : Text)
    (C : ∀ α : Type, Walk α → Walk α → Prop) :
    Prop extends Congruence source source' owner repo owner repo C where
  reference : ∀ (name : Text) (w w' : Walk Text), C Text w w' →
    C Text
      (memo (fun s => s.references.lookup (Session.key owner repo name))
        (fun commit s => s.addReference (Session.key owner repo name) commit) w)
      (memo (fun s => s.references.lookup (Session.key owner repo name))
        (fun commit s => s.addReference (Session.key owner repo name) commit) w')
  spec : ∀ (spec : Text) (w w' : Walk Resolution), C Resolution w w' →
    C Resolution
      (memo (fun s => s.specs.lookup (specKey owner repo spec))
        (fun r s => s.addSpec (specKey owner repo spec) r) w)
      (memo (fun s => s.specs.lookup (specKey owner repo spec))
        (fun r s => s.addSpec (specKey owner repo spec) r) w')

namespace Closed

variable {source source' : Source} {owner repo : Text} {C : ∀ α : Type, Walk α → Walk α → Prop}

theorem resolveReference_related (hC : Closed source source' owner repo C) (name : Text) :
    C Text (resolveReference source owner repo name)
      (resolveReference source' owner repo name) := by
  cases hhash : Version.isFullHash name with
  | true =>
    rw [resolveReference_of_hash hhash, resolveReference_of_hash hhash]
    exact hC.pure _ _
  | false =>
    rw [resolveReference_eq_memo hhash, resolveReference_eq_memo hhash]
    exact hC.reference _ _ _ (hC.dereference name)

/-- **Resolving a version belongs to every relation that is closed.** -/
theorem resolveSpec_related (hC : Closed source source' owner repo C) (spec : Text) :
    C Resolution (resolveSpec source owner repo spec) (resolveSpec source' owner repo spec) := by
  by_cases hblank : Text.trim spec = []
  · rw [resolveSpec_of_blank hblank, resolveSpec_of_blank hblank]
    exact hC.fail _ _ _ .emptySpec
  · rw [resolveSpec_eq_memo hblank, resolveSpec_eq_memo hblank]
    exact hC.spec _ _ _ (hC.lookUp hC.resolveReference_related ..)

/-- **So does looking for what an upgrade moves to.** -/
theorem latest_related (hC : Closed source source' owner repo C) (version : Option Text) :
    C Resolution (latest source owner repo version) (latest source' owner repo version) :=
  hC.latest hC.resolveReference_related fun spec _ => hC.resolveSpec_related spec

end Closed

/-! ## Failures -/

theorem failsOnly_fetch {source : Source} {P : Failure → Prop}
    (hcatalog : ∀ path f, source.catalog path = .error f → P f)
    (hdecode : ∀ path m, P (.decode path (.mismatch m))) {α : Type} (path : Text)
    (read : Json → Except Mismatch α) : FailsOnly P (fetch source path read) := by
  intro s f t h
  rw [runFrom_fetch, reply] at h
  have hreply := (Prod.mk.inj (Option.some.inj h)).1
  split at hreply
  · rename_i f' hanswer
    cases hreply
    exact hcatalog path f hanswer
  · split at hreply
    · cases hreply
      exact hdecode path _
    · cases hreply

/-- **All failures have what those of the catalog and of the resolver itself have.** -/
theorem closed_failsOnly {source : Source} {P : Failure → Prop}
    (hcatalog : ∀ path f, source.catalog path = .error f → P f)
    (hdecode : ∀ path m, P (.decode path (.mismatch m))) {owner repo : Text}
    (hraises : ∀ f f', Raises owner repo owner repo f f' → P f) :
    Closed source source owner repo fun _ w _ => FailsOnly P w where
  patience := rfl
  pure _ a := .pure a
  fail _ f f' hf := .fail (hraises f f' hf)
  endless _ := .endless
  fetch _ e read _ := failsOnly_fetch hcatalog hdecode (e.path owner repo) read
  bind _ _ _ _ _ _ hw hk := .bind hw hk
  ifFound _ _ _ hw := .ifFound hw
  reference _ _ _ hw := .memo hw
  spec _ _ _ hw := .memo hw

/-! ## Related sessions -/

/-- A relation between sessions that agree on what is remembered about a repository, whatever is
fetched or remembered about it next. -/
structure Agreement (owner repo : Text) (S : Session → Session → Prop) : Prop where
  fetch : IgnoresFetches S
  references : ∀ s s' name, S s s' → s.references.lookup (Session.key owner repo name) =
    s'.references.lookup (Session.key owner repo name)
  specs : ∀ s s' spec, S s s' →
    s.specs.lookup (specKey owner repo spec) = s'.specs.lookup (specKey owner repo spec)
  addReference : ∀ s s' name commit, S s s' →
    S (s.addReference (Session.key owner repo name) commit)
      (s'.addReference (Session.key owner repo name) commit)
  addSpec : ∀ s s' spec r, S s s' →
    S (s.addSpec (specKey owner repo spec) r) (s'.addSpec (specKey owner repo spec) r)

/-- **Where the same is remembered about a repository, every walk for it goes the same way.** -/
theorem closed_parallel {source : Source} {owner repo : Text} {S : Session → Session → Prop}
    (hS : Agreement owner repo S) :
    Closed source source owner repo fun _ w w' => Parallel S Eq w w' where
  toCongruence := (Kin.self source owner repo).congruence hS.fetch
  reference name _ _ hw := .memo (fun s s' h => hS.references s s' name h) hw
    fun commit s s' h => hS.addReference s s' name commit h
  spec spec _ _ hw := .memo (fun s s' h => hS.specs s s' spec h) hw
    fun r s s' h => hS.addSpec s s' spec r h

end Resolver

end PinnedActions
