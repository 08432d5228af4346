import PinnedActions.Proofs.Resolver.Closed

/-!
# Resolving a spec again

What a spec resolves to depends on what is remembered and on nothing else in a session
(`resolveSpec_parallel`), and a spec that does not resolve leaves nothing behind
(`sameMemory_of_resolveSpec`).  So a second run over the same specs repeats the first, even where it
leaves out some of those that failed.
-/

set_option autoImplicit false

namespace PinnedActions

namespace Walk

variable {α : Type} {S : Session → Session → Prop} {R : Failure → Failure → Prop} {s t : Session}

/-- A walk whose value is not found ended with a failure. -/
theorem exists_error_of_ifFound {w : Walk α} {r : Except Failure (Option α)}
    (hr : ∀ a, r ≠ .ok (some a)) (h : w.ifFound.runFrom s = some (r, t)) :
    ∃ f, w.runFrom s = some (.error f, t) := by
  rw [runFrom_ifFound] at h
  obtain ⟨⟨r', u⟩, hrun, heq⟩ := Option.map_eq_some_iff.1 h
  cases r' with
  | ok a =>
    cases heq
    exact absurd rfl (hr a)
  | error f =>
    obtain ⟨-, rfl⟩ := Prod.mk.inj heq
    exact ⟨f, hrun⟩

end Walk

namespace Resolver

open Walk

variable {source : Source} {owner repo : Text} {s t : Session} {f : Failure}

/-! ## Equal memories -/

theorem agreement_sameMemory : Agreement owner repo Session.SameMemory where
  fetch _ _ _ _ h := h
  references _ _ _ h := by rw [h.1]
  specs _ _ _ h := by rw [h.2]
  addReference _ _ name commit h :=
    ⟨congrArg ((Session.key owner repo name, commit) :: ·) h.1, h.2⟩
  addSpec _ _ spec r h := ⟨h.1, congrArg ((specKey owner repo spec, r) :: ·) h.2⟩

/-- **What a spec resolves to depends on what is remembered and on nothing else.** -/
theorem resolveSpec_parallel (spec : Text) :
    Parallel Session.SameMemory Eq (resolveSpec source owner repo spec)
      (resolveSpec source owner repo spec) :=
  (closed_parallel agreement_sameMemory).resolveSpec_related spec

/-- A spec resolves again to what it resolved to where the same is remembered. -/
theorem exists_runFrom_resolveSpec {s' : Session} {spec : Text} {r : Except Failure Resolution}
    (h : (resolveSpec source owner repo spec).runFrom s = some (r, t)) (hmem : s.SameMemory s') :
    ∃ t', (resolveSpec source owner repo spec).runFrom s' = some (r, t') ∧ t.SameMemory t' := by
  have hend : EndAlike Session.SameMemory Eq ((resolveSpec source owner repo spec).runFrom s)
      ((resolveSpec source owner repo spec).runFrom s') := resolveSpec_parallel spec s s' hmem
  rw [h] at hend
  generalize (resolveSpec source owner repo spec).runFrom s' = p' at hend ⊢
  cases hend with
  | @ended r r' t t' hr ht =>
    refine ⟨t', ?_, ht⟩
    cases hr with
    | value a => rfl
    | failure hf => rw [hf]

/-! ## Failures -/

/-- A reference that is not found leaves nothing behind. -/
theorem sameMemory_of_resolveReference {name : Text}
    (h : (resolveReference source owner repo name).runFrom s = some (.error f, t)) :
    s.SameMemory t := by
  cases hhash : Version.isFullHash name with
  | true =>
    rw [resolveReference_of_hash hhash] at h
    cases h
  | false =>
    rw [resolveReference_eq_memo hhash] at h
    cases memoRun_of_runFrom h with
    | failed _ hrun => exact (dereference_onlyAsks name).sameMemory hrun

/-- Nor does one that is asked for in case it is there. -/
theorem sameMemory_of_missing {name : Text} {r : Except Failure (Option Text)}
    (hr : ∀ commit, r ≠ .ok (some commit))
    (h : (resolveReference source owner repo name).ifFound.runFrom s = some (r, t)) :
    s.SameMemory t := by
  obtain ⟨f, hrun⟩ := exists_error_of_ifFound hr h
  exact sameMemory_of_resolveReference hrun

/-- Neither do several references of which none is found. -/
theorem sameMemory_of_firstExisting {names : List Text} {r : Except Failure (Option Resolution)}
    (hr : ∀ found, r ≠ .ok (some found))
    (h : (firstExisting source owner repo names).runFrom s = some (r, t)) : s.SameMemory t := by
  induction names generalizing s with
  | nil =>
    cases h
    exact .refl _
  | cons name rest ih =>
    rw [firstExisting] at h
    rcases runFrom_bind_eq_some h with ⟨f, -, hrun⟩ | ⟨commit, u, hrun, h⟩
    · exact sameMemory_of_missing (by simp) hrun
    · cases commit with
      | some commit =>
        cases h
        exact absurd rfl (hr _)
      | none => exact (sameMemory_of_missing (by simp) hrun).trans (ih h)

theorem sameMemory_of_resolveListed {normalized : Text} {kind : Version.Kind}
    (h : (resolveListed source owner repo normalized kind).runFrom s = some (.error f, t)) :
    s.SameMemory t := by
  rcases runFrom_bind_eq_error h with h | ⟨tag, u, h1, h⟩
  · exact (findMatchingTag_onlyAsks normalized kind).sameMemory h
  · have hu := (findMatchingTag_onlyAsks normalized kind).sameMemory h1
    rcases runFrom_bind_eq_error h with h | ⟨commit, v, -, h⟩
    · exact hu.trans (sameMemory_of_resolveReference h)
    · cases h

theorem sameMemory_of_lookUp {spec normalized : Text} {kind : Version.Kind}
    (h : (lookUp source owner repo spec normalized kind).runFrom s = some (.error f, t)) :
    s.SameMemory t := by
  cases kind with
  | exact =>
    rcases runFrom_bind_eq_error h with h | ⟨found, u, h1, h⟩
    · exact sameMemory_of_firstExisting (by simp) h
    · cases found with
      | some r => cases h
      | none =>
        cases h
        exact sameMemory_of_firstExisting (by simp) h1
  | literal =>
    rcases runFrom_bind_eq_error h with h | ⟨commit, u, -, h⟩
    · exact sameMemory_of_resolveReference h
    · cases h
  | minor => exact sameMemory_of_resolveListed h
  | major => exact sameMemory_of_resolveListed h

/-- **A spec that does not resolve leaves nothing behind.** -/
theorem sameMemory_of_resolveSpec {spec : Text}
    (h : (resolveSpec source owner repo spec).runFrom s = some (.error f, t)) : s.SameMemory t := by
  by_cases hblank : Text.trim spec = []
  · rw [resolveSpec_of_blank hblank] at h
    cases h
    exact .refl _
  rw [resolveSpec_eq_memo hblank] at h
  cases memoRun_of_runFrom h with
  | failed _ hrun => exact sameMemory_of_lookUp hrun

end Resolver

end PinnedActions
