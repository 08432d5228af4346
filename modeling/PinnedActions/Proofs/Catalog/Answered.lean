import PinnedActions.Proofs.Catalog.Paths
import PinnedActions.Proofs.Resolver.Walk
import Mathlib.Data.Set.Card

/-!
# How much a catalog answers

A walk of a resolver that asks for one page after the other, or for one tag object after the other,
has no bound of its own.  What bounds it is the catalog: pages with different numbers, and tag objects
with different hashes, have different paths (`Endpoint.path_injective`), so a catalog that answers only
so many paths answers only so many of them (`Catalog.length_le_ncard_answered`).

The catalog of a table answers fewer paths than the patience that its source has
(`Source.ncard_answered_lt_patience`).
-/

set_option autoImplicit false

namespace PinnedActions

/-! ## Catalogs that answer only so much -/

namespace Catalog

/-- The paths about which a catalog has something to say. -/
def answered (catalog : Catalog) : Set Text := {path | ∃ answer, catalog path = .ok answer}

/-- What a catalog says about a path, once it is read. -/
def tells {α : Type} (catalog : Catalog) (path : Text) (read : Json → Except Mismatch α) :
    Except Failure α :=
  Walk.reply ⟨catalog, 0⟩ path read

variable {catalog : Catalog} {α : Type} {path : Text} {read : Json → Except Mismatch α}

/-- A fetch gives what the catalog says, with whatever patience it is made. -/
theorem runFrom_fetch (patience : Nat) (s : Session) :
    (Walk.fetch ⟨catalog, patience⟩ path read).runFrom s =
      some (catalog.tells path read, s.addFetch path) :=
  Walk.runFrom_fetch ⟨catalog, patience⟩ path read s

theorem mem_answered_of_tells {a : α} (h : catalog.tells path read = .ok a) :
    path ∈ catalog.answered := by
  rw [tells, Walk.reply] at h
  split at h
  · cases h
  · rename_i answer hanswer
    exact ⟨answer, hanswer⟩

/-- **Only so many different paths are answered.** -/
theorem length_le_ncard_answered (hfinite : catalog.answered.Finite) {paths : List Text}
    (hnodup : paths.Nodup) (h : ∀ path ∈ paths, path ∈ catalog.answered) :
    paths.length ≤ catalog.answered.ncard := by
  have hsub : (paths.toFinset : Set Text) ⊆ catalog.answered := fun path hpath =>
    h path (List.mem_toFinset.1 hpath)
  calc paths.length = (paths.toFinset : Set Text).ncard := by
        rw [Set.ncard_coe_finset, List.toFinset_card_of_nodup hnodup]
    _ ≤ catalog.answered.ncard := Set.ncard_le_ncard hsub hfinite

/-! ## Tables -/

theorem answered_ofTable_subset (table : List (Text × Answer)) :
    (ofTable table).answered ⊆ ((table.map Prod.fst).toFinset : Set Text) := by
  rintro path ⟨answer, h⟩
  rw [ofTable] at h
  split at h
  · rename_i found hfound
    obtain ⟨before, after, rfl, -⟩ := List.lookup_eq_some_iff.1 hfound
    simp
  · cases h

theorem finite_answered_ofTable (table : List (Text × Answer)) :
    (ofTable table).answered.Finite :=
  (Finset.finite_toSet _).subset (answered_ofTable_subset table)

end Catalog

/-- **The source of a table is patient enough** for walks that use up an answer with every step. -/
theorem Source.ncard_answered_lt_patience (table : List (Text × Answer)) :
    (Source.ofTable table).catalog.answered.ncard < (Source.ofTable table).patience := by
  have hle := Set.ncard_le_ncard (Catalog.answered_ofTable_subset table) (Finset.finite_toSet _)
  rw [Set.ncard_coe_finset] at hle
  have hcard := (List.toFinset_card_le (table.map Prod.fst)).trans_eq (List.length_map Prod.fst)
  exact Nat.lt_succ_of_le (hle.trans hcard)

end PinnedActions
