import PinnedActions.Proofs.Resolver.Closed

/-!
# Repositories do not get in each other's way

What is remembered is filed under a repository in lowercase.  So what a resolver does for one
repository leaves alone what it remembers about another (`closed_sameAbout`), and whatever it
remembers about others makes no difference to what it finds for one
(`exists_runFrom_latest_of_sameAbout`).
-/

set_option autoImplicit false

namespace PinnedActions

/-- Whether two sessions remember the same about a repository. -/
structure Session.SameAbout (owner repo : Text) (s t : Session) : Prop where
  references : ∀ name, s.references.lookup (Session.key owner repo name) =
    t.references.lookup (Session.key owner repo name)
  specs : ∀ name, s.specs.lookup (Session.key owner repo name) =
    t.specs.lookup (Session.key owner repo name)

namespace Session.SameAbout

variable {owner repo : Text} {s t u : Session}

theorem refl (s : Session) : SameAbout owner repo s s := ⟨fun _ => rfl, fun _ => rfl⟩

theorem symm (h : SameAbout owner repo s t) : SameAbout owner repo t s :=
  ⟨fun name => (h.references name).symm, fun name => (h.specs name).symm⟩

theorem trans (h : SameAbout owner repo s t) (h' : SameAbout owner repo t u) :
    SameAbout owner repo s u :=
  ⟨fun name => (h.references name).trans (h'.references name),
    fun name => (h.specs name).trans (h'.specs name)⟩

end Session.SameAbout

namespace Resolver

open Walk

variable {source : Source} {owner repo owner' repo' : Text} {version : Option Text} {s s' t : Session}

theorem agreement_sameAbout : Agreement owner repo (Session.SameAbout owner repo) where
  fetch _ _ _ _ h := ⟨h.references, h.specs⟩
  references _ _ name h := h.references name
  specs _ _ spec h := h.specs (Version.foldedForm spec)
  addReference s s' name commit h := by
    refine ⟨fun name' => ?_, h.specs⟩
    rw [Session.lookup_addReference, Session.lookup_addReference, h.references]
  addSpec s s' spec r h := by
    refine ⟨h.references, fun name' => ?_⟩
    rw [Session.lookup_addSpec, Session.lookup_addSpec, h.specs]

/-- **What is remembered about others makes no difference** to what an upgrade moves to. -/
theorem exists_runFrom_latest_of_sameAbout {r : Except Failure Resolution}
    (h : (latest source owner repo version).runFrom s = some (r, t))
    (hsame : Session.SameAbout owner repo s s') :
    ∃ t', (latest source owner repo version).runFrom s' = some (r, t') := by
  have hanswer : (latest source owner repo version).answer s =
      (latest source owner repo version).answer s' :=
    ((closed_parallel agreement_sameAbout).latest_related version).answer_eq hsame
  rw [answer_of_runFrom h] at hanswer
  exact exists_runFrom_of_answer hanswer.symm

/-- Whether two repositories differ in more than letter case. -/
def Apart (owner repo owner' repo' : Text) : Prop :=
  ¬(Text.lowercase owner = Text.lowercase owner' ∧ Text.lowercase repo = Text.lowercase repo')

theorem Apart.key_ne (h : Apart owner repo owner' repo') (name name' : Text) :
    Session.key owner' repo' name' ≠ Session.key owner repo name := by
  intro hkey
  obtain ⟨ho, hr, -⟩ := key_eq_key_iff.1 hkey
  exact h ⟨ho.symm, hr.symm⟩

theorem progress_sameAbout : Progress (Session.SameAbout owner repo) where
  refl := .refl
  trans _ _ _ := .trans
  fetches _ _ := ⟨fun _ => rfl, fun _ => rfl⟩

/-- **What is done for a repository leaves alone what is remembered about others.** -/
theorem closed_sameAbout (h : Apart owner repo owner' repo') :
    Closed source source owner repo fun _ w _ => Moves (Session.SameAbout owner' repo') w where
  toCongruence := progress_sameAbout.congruence source owner repo
  reference name _ _ hw := by
    refine .memo .refl (fun _ _ _ => .trans) hw fun commit s => ⟨fun name' => ?_, fun _ => rfl⟩
    rw [Session.lookup_addReference, if_neg (h.key_ne name name')]
  spec spec _ _ hw := by
    refine .memo .refl (fun _ _ _ => .trans) hw fun r s => ⟨fun _ => rfl, fun name' => ?_⟩
    rw [Session.lookup_addSpec, specKey, if_neg (h.key_ne _ name')]

end Resolver

end PinnedActions
