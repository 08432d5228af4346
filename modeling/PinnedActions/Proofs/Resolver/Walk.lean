import PinnedActions.Resolver.Session
import Mathlib.Tactic.Choose

/-!
# Laws of walks

How the walks that a resolver is made of run, and five ways to say what a walk does without
unfolding it.  Each is closed under the operations of walks, so for a particular walk it is proved
by following its definition.

* `OnlyAsks w` — the walk fetches, but neither reads nor changes what is remembered.
* `Moves rel w` — every run leads from a session to one that stands in `rel` to it.
* `Ensures I Q w` — every run from a session with `I` leads to one with `I`, and a value has `Q`.
* `FailsOnly P w` — every failure in which a run ends has `P`.
* `Parallel S R w w'` — run from sessions related by `S`, two walks end alike: both with the same
  value, both with failures related by `R`, or both not at all, and in sessions related by `S`.

With `w' = w` the last says that a walk depends on no more of a session than `S` preserves; with two
walks it compares, for instance, questions about one repository under two spellings.
-/

set_option autoImplicit false

namespace PinnedActions

namespace Session

/-- The session with several more fetched paths, the last one first. -/
def addFetches (s : Session) (paths : List Text) : Session :=
  { s with fetched := paths ++ s.fetched }

theorem addFetches_addFetches (s : Session) (paths paths' : List Text) :
    (s.addFetches paths).addFetches paths' = s.addFetches (paths' ++ paths) := by
  rw [addFetches, addFetches, addFetches, List.append_assoc]

/-- Whether two sessions remember the same, whatever was fetched. -/
def SameMemory (s t : Session) : Prop := s.references = t.references ∧ s.specs = t.specs

theorem SameMemory.refl (s : Session) : s.SameMemory s := ⟨rfl, rfl⟩

theorem SameMemory.symm {s t : Session} (h : s.SameMemory t) : t.SameMemory s :=
  ⟨h.1.symm, h.2.symm⟩

theorem SameMemory.trans {s t u : Session} (h : s.SameMemory t) (h' : t.SameMemory u) :
    s.SameMemory u :=
  ⟨h.1.trans h'.1, h.2.trans h'.2⟩

end Session

namespace Walk

variable {α β : Type} {s t : Session}

/-! ## Runs -/

theorem runFrom_change (f : Session → Session) (s : Session) :
    (change f).runFrom s = some (.ok (), f s) := rfl

theorem runFrom_session (s : Session) : session.runFrom s = some (.ok s, s) := rfl

/-- What comes after a walk is reached when that ends with a value. -/
theorem runFrom_bind (w : Walk α) (k : α → Walk β) (s : Session) :
    (w >>= k).runFrom s = (w.runFrom s).bind fun
      | (.ok a, t) => (k a).runFrom t
      | (.error f, t) => some (.error f, t) := by
  show (w.run s).bind _ = _
  congr 1
  funext p
  obtain ⟨r, t⟩ := p
  cases r <;> rfl

theorem runFrom_ifFound (w : Walk α) (s : Session) :
    w.ifFound.runFrom s = (w.runFrom s).map fun
      | (.ok a, t) => (.ok (some a), t)
      | (.error f, t) => (if f.isNotFound then .ok none else .error f, t) := by
  show (w.run s).bind _ = (w.run s).map _
  rw [Option.map_eq_bind]
  congr 1
  funext p
  obtain ⟨r, t⟩ := p
  cases r <;> rfl

/-- A walk asked for what it may not find found it, or failed because it is not there. -/
theorem runFrom_ifFound_eq_ok {w : Walk α} {found : Option α}
    (h : w.ifFound.runFrom s = some (.ok found, t)) :
    (∃ a, found = some a ∧ w.runFrom s = some (.ok a, t)) ∨
      found = none ∧ ∃ f, f.isNotFound = true ∧ w.runFrom s = some (.error f, t) := by
  rw [runFrom_ifFound] at h
  obtain ⟨⟨r, u⟩, hrun, heq⟩ := Option.map_eq_some_iff.1 h
  cases r with
  | ok a =>
    cases heq
    exact .inl ⟨a, rfl, hrun⟩
  | error f =>
    obtain ⟨hf, rfl⟩ := Prod.mk.inj heq
    split at hf
    · rename_i hmissing
      cases hf
      exact .inr ⟨rfl, f, hmissing, hrun⟩
    · cases hf

/-- What the catalog says about a path, once it is read. -/
def reply (source : Source) (path : Text) (read : Json → Except Mismatch α) : Except Failure α :=
  match source.catalog path with
  | .error f => .error f
  | .ok answer =>
    match read answer with
    | .error m => .error (.decode path (.mismatch m))
    | .ok a => .ok a

theorem runFrom_fetch (source : Source) (path : Text) (read : Json → Except Mismatch α)
    (s : Session) :
    (fetch source path read).runFrom s = some (reply source path read, s.addFetch path) := by
  unfold fetch reply
  rw [runFrom_bind, runFrom_change]
  cases source.catalog path with
  | error f => rfl
  | ok answer =>
    cases h : read answer with
    | error m => simp only [Option.bind_some, h]; rfl
    | ok a => simp only [Option.bind_some, h]; rfl

theorem runFrom_bind_of_ok {w : Walk α} {a : α} (h : w.runFrom s = some (.ok a, t))
    (k : α → Walk β) : (w >>= k).runFrom s = (k a).runFrom t := by
  rw [runFrom_bind, h]
  rfl

theorem runFrom_bind_of_error {w : Walk α} {f : Failure} (h : w.runFrom s = some (.error f, t))
    (k : α → Walk β) : (w >>= k).runFrom s = some (.error f, t) := by
  rw [runFrom_bind, h]
  rfl

theorem runFrom_bind_of_none {w : Walk α} (h : w.runFrom s = none) (k : α → Walk β) :
    (w >>= k).runFrom s = none := by
  rw [runFrom_bind, h]
  rfl

/-- A composed walk that ends failed in its first part, or went on with its second. -/
theorem runFrom_bind_eq_some {w : Walk α} {k : α → Walk β} {r : Except Failure β}
    (h : (w >>= k).runFrom s = some (r, t)) :
    (∃ f, r = .error f ∧ w.runFrom s = some (.error f, t)) ∨
      ∃ a u, w.runFrom s = some (.ok a, u) ∧ (k a).runFrom u = some (r, t) := by
  cases hw : w.runFrom s with
  | none =>
    rw [runFrom_bind_of_none hw] at h
    cases h
  | some p =>
    obtain ⟨result, u⟩ := p
    cases result with
    | ok a => exact .inr ⟨a, u, rfl, by rwa [runFrom_bind_of_ok hw] at h⟩
    | error f =>
      rw [runFrom_bind_of_error hw] at h
      cases h
      exact .inl ⟨f, rfl, rfl⟩

/-- A composed walk that ends with a value went through its parts. -/
theorem runFrom_bind_eq_ok {w : Walk α} {k : α → Walk β} {b : β}
    (h : (w >>= k).runFrom s = some (.ok b, t)) :
    ∃ a u, w.runFrom s = some (.ok a, u) ∧ (k a).runFrom u = some (.ok b, t) :=
  (runFrom_bind_eq_some h).resolve_left fun ⟨_, hf, _⟩ => nomatch hf

/-- A composed walk that fails failed in one of its parts. -/
theorem runFrom_bind_eq_error {w : Walk α} {k : α → Walk β} {f : Failure}
    (h : (w >>= k).runFrom s = some (.error f, t)) :
    w.runFrom s = some (.error f, t) ∨
      ∃ a u, w.runFrom s = some (.ok a, u) ∧ (k a).runFrom u = some (.error f, t) := by
  refine (runFrom_bind_eq_some h).imp_left fun ⟨g, hg, hrun⟩ => ?_
  rwa [Except.error.inj hg]

/-- What a walk ends with, whatever becomes of the session. -/
def answer (w : Walk α) (s : Session) : Option (Except Failure α) := (w.runFrom s).map Prod.fst

theorem answer_of_runFrom {w : Walk α} {r : Except Failure α} (h : w.runFrom s = some (r, t)) :
    w.answer s = some r := by
  rw [answer, h]
  rfl

theorem exists_runFrom_of_answer {w : Walk α} {r : Except Failure α} (h : w.answer s = some r) :
    ∃ t, w.runFrom s = some (r, t) := by
  obtain ⟨⟨r', t⟩, hrun, rfl⟩ := Option.map_eq_some_iff.1 h
  exact ⟨t, hrun⟩

/-! ## Walks that only ask -/

/-- Whether a walk neither reads nor changes what is remembered. -/
def OnlyAsks (w : Walk α) : Prop :=
  ∃ o : Option (Except Failure α × List Text),
    ∀ s, w.runFrom s = o.map fun p => (p.1, s.addFetches p.2)

namespace OnlyAsks

theorem pure (a : α) : OnlyAsks (Pure.pure a : Walk α) :=
  ⟨some (.ok a, []), fun _ => rfl⟩

theorem fail (f : Failure) : OnlyAsks (Walk.fail f : Walk α) :=
  ⟨some (.error f, []), fun _ => rfl⟩

theorem endless : OnlyAsks (Walk.endless : Walk α) :=
  ⟨none, fun _ => rfl⟩

theorem fetch (source : Source) (path : Text) (read : Json → Except Mismatch α) :
    OnlyAsks (Walk.fetch source path read) :=
  ⟨some (reply source path read, [path]), fun s => runFrom_fetch source path read s⟩

theorem bind {w : Walk α} {k : α → Walk β} (hw : OnlyAsks w) (hk : ∀ a, OnlyAsks (k a)) :
    OnlyAsks (w >>= k) := by
  obtain ⟨o, ho⟩ := hw
  choose q hq using hk
  refine ⟨o.bind fun
    | (.ok a, ps) => (q a).map fun p => (p.1, p.2 ++ ps)
    | (.error f, ps) => some (.error f, ps), fun s => ?_⟩
  rw [runFrom_bind, ho s]
  match o with
  | none => rfl
  | some (.error f, ps) => rfl
  | some (.ok a, ps) =>
    show (k a).runFrom (s.addFetches ps) = ((q a).map _).map _
    rw [hq a, Option.map_map]
    congr 1
    funext p
    simp [Session.addFetches]

theorem ifFound {w : Walk α} (hw : OnlyAsks w) : OnlyAsks w.ifFound := by
  obtain ⟨o, ho⟩ := hw
  refine ⟨o.map fun
    | (.ok a, ps) => (.ok (some a), ps)
    | (.error f, ps) => (if f.isNotFound then .ok none else .error f, ps), fun s => ?_⟩
  rw [runFrom_ifFound, ho s]
  match o with
  | none => rfl
  | some (.error f, ps) => rfl
  | some (.ok a, ps) => rfl

/-- Such a walk ends in the same way everywhere. -/
theorem answer_eq {w : Walk α} (hw : OnlyAsks w) (s t : Session) : w.answer s = w.answer t := by
  obtain ⟨o, ho⟩ := hw
  rw [answer, answer, ho, ho, Option.map_map, Option.map_map]
  rfl

/-- Such a walk leaves what is remembered as it is. -/
theorem exists_addFetches {w : Walk α} (hw : OnlyAsks w) {r : Except Failure α}
    (h : w.runFrom s = some (r, t)) : ∃ paths, t = s.addFetches paths := by
  obtain ⟨o, ho⟩ := hw
  rw [ho] at h
  obtain ⟨p, -, hp⟩ := Option.map_eq_some_iff.1 h
  exact ⟨p.2, (congrArg Prod.snd hp).symm⟩

theorem sameMemory {w : Walk α} (hw : OnlyAsks w) {r : Except Failure α}
    (h : w.runFrom s = some (r, t)) : s.SameMemory t := by
  obtain ⟨paths, rfl⟩ := hw.exists_addFetches h
  exact ⟨rfl, rfl⟩

end OnlyAsks

/-! ## Where runs lead -/

/-- Whether every run of a walk leads to a session that stands in a relation to the one before. -/
def Moves (rel : Session → Session → Prop) (w : Walk α) : Prop :=
  ∀ s r t, w.runFrom s = some (r, t) → rel s t

namespace Moves

variable {rel : Session → Session → Prop}

theorem pure (hrefl : ∀ s, rel s s) (a : α) : Moves rel (Pure.pure a : Walk α) := by
  intro s r t h
  cases h
  exact hrefl s

theorem fail (hrefl : ∀ s, rel s s) (f : Failure) : Moves rel (Walk.fail f : Walk α) := by
  intro s r t h
  cases h
  exact hrefl s

theorem endless : Moves rel (Walk.endless : Walk α) := by
  intro s r t h
  cases h

theorem of_onlyAsks (hfetch : ∀ s paths, rel s (s.addFetches paths)) {w : Walk α}
    (hw : OnlyAsks w) : Moves rel w := by
  intro s r t h
  obtain ⟨paths, rfl⟩ := hw.exists_addFetches h
  exact hfetch s paths

theorem bind (htrans : ∀ s t u, rel s t → rel t u → rel s u) {w : Walk α} {k : α → Walk β}
    (hw : Moves rel w) (hk : ∀ a, Moves rel (k a)) : Moves rel (w >>= k) := by
  intro s r t h
  rcases runFrom_bind_eq_some h with ⟨f, -, h1⟩ | ⟨a, u, h1, h2⟩
  · exact hw s _ t h1
  · exact htrans s u t (hw s _ u h1) (hk a u _ t h2)

theorem ifFound {w : Walk α} (hw : Moves rel w) : Moves rel w.ifFound := by
  intro s r t h
  rw [runFrom_ifFound] at h
  obtain ⟨⟨r', u⟩, h1, h2⟩ := Option.map_eq_some_iff.1 h
  cases r' <;> cases h2 <;> exact hw s _ _ h1

end Moves

/-! ## What runs give -/

/-- Whether a walk keeps an invariant of sessions and ends, if with a value, with one of a kind. -/
def Ensures (I : Session → Prop) (Q : α → Prop) (w : Walk α) : Prop :=
  ∀ s r t, I s → w.runFrom s = some (r, t) → I t ∧ ∀ a, r = .ok a → Q a

namespace Ensures

variable {I : Session → Prop} {Q : α → Prop} {Q' : β → Prop}

theorem pure {a : α} (ha : Q a) : Ensures I Q (Pure.pure a : Walk α) := by
  intro s r t hs h
  cases h
  exact ⟨hs, fun b hb => Except.ok.inj hb ▸ ha⟩

theorem fail (f : Failure) : Ensures I Q (Walk.fail f : Walk α) := by
  intro s r t hs h
  cases h
  exact ⟨hs, nofun⟩

theorem bind {w : Walk α} {k : α → Walk β} (hw : Ensures I Q w)
    (hk : ∀ a, Q a → Ensures I Q' (k a)) : Ensures I Q' (w >>= k) := by
  intro s r t hs h
  rcases runFrom_bind_eq_some h with ⟨f, rfl, h1⟩ | ⟨a, u, h1, h2⟩
  · exact ⟨(hw s _ t hs h1).1, nofun⟩
  · obtain ⟨hu, ha⟩ := hw s _ u hs h1
    exact hk a (ha a rfl) u _ t hu h2

theorem ifFound {w : Walk α} (hw : Ensures I Q w) :
    Ensures I (fun found => ∀ a, found = some a → Q a) w.ifFound := by
  intro s r t hs h
  rw [runFrom_ifFound] at h
  obtain ⟨⟨r', u⟩, hrun, hr⟩ := Option.map_eq_some_iff.1 h
  obtain ⟨hu, ha⟩ := hw s r' u hs hrun
  cases r' with
  | ok a =>
    cases hr
    exact ⟨hu, fun b hb c hc => ha c (by rw [← Option.some_inj.1 ((Except.ok.inj hb).trans hc)])⟩
  | error f =>
    obtain ⟨rfl, rfl⟩ := Prod.mk.inj hr
    refine ⟨hu, fun b hb c hc => ?_⟩
    rw [hc] at hb
    split at hb <;> cases hb

theorem of_onlyAsks (hI : ∀ s paths, I s → I (s.addFetches paths)) {w : Walk α}
    (hw : OnlyAsks w) (hQ : ∀ s a t, w.runFrom s = some (.ok a, t) → Q a) : Ensures I Q w := by
  intro s r t hs h
  obtain ⟨paths, rfl⟩ := hw.exists_addFetches h
  exact ⟨hI s paths hs, fun a ha => hQ s a _ (ha ▸ h)⟩

theorem moves {w : Walk α} (hw : Ensures I Q w) : Moves (fun s t => I s → I t) w :=
  fun s r t h hs => (hw s r t hs h).1

end Ensures

/-! ## How runs fail -/

/-- Whether every failure in which a walk ends has a property. -/
def FailsOnly (P : Failure → Prop) (w : Walk α) : Prop :=
  ∀ s f t, w.runFrom s = some (.error f, t) → P f

namespace FailsOnly

variable {P : Failure → Prop}

theorem pure (a : α) : FailsOnly P (Pure.pure a : Walk α) := by
  intro s f t h
  cases h

theorem fail {f : Failure} (hf : P f) : FailsOnly P (Walk.fail f : Walk α) := by
  intro s f' t h
  cases h
  exact hf

theorem endless : FailsOnly P (Walk.endless : Walk α) := by
  intro s f t h
  cases h

theorem bind {w : Walk α} {k : α → Walk β} (hw : FailsOnly P w) (hk : ∀ a, FailsOnly P (k a)) :
    FailsOnly P (w >>= k) := by
  intro s f t h
  rcases runFrom_bind_eq_error h with h | ⟨a, u, -, h⟩
  · exact hw s f t h
  · exact hk a u f t h

theorem ifFound {w : Walk α} (hw : FailsOnly P w) : FailsOnly P w.ifFound := by
  intro s f t h
  rw [runFrom_ifFound] at h
  obtain ⟨⟨r, u⟩, hrun, heq⟩ := Option.map_eq_some_iff.1 h
  cases r with
  | ok a => cases heq
  | error f' =>
    obtain ⟨hf, rfl⟩ := Prod.mk.inj heq
    split at hf
    · cases hf
    · cases hf
      exact hw s f u hrun

end FailsOnly

/-! ## Two walks side by side -/

/-- Two results that are alike: one value, or two related failures. -/
inductive Alike (R : Failure → Failure → Prop) : Except Failure α → Except Failure α → Prop where
  | value (a : α) : Alike R (.ok a) (.ok a)
  | failure {f f' : Failure} (h : R f f') : Alike R (.error f) (.error f')

/-- Two runs that end alike, in related sessions, or do not end. -/
inductive EndAlike (S : Session → Session → Prop) (R : Failure → Failure → Prop) :
    Option (Except Failure α × Session) → Option (Except Failure α × Session) → Prop where
  | ended {r r' : Except Failure α} {t t' : Session} (hr : Alike R r r') (h : S t t') :
      EndAlike S R (some (r, t)) (some (r', t'))
  | endless : EndAlike S R none none

/-- How runs end depends on their results, apart from where they lead. -/
theorem EndAlike.of_results {S S' : Session → Session → Prop} {R : Failure → Failure → Prop}
    {p p' q q' : Option (Except Failure α × Session)} (h : EndAlike S R p p')
    (hp : p.map Prod.fst = q.map Prod.fst) (hp' : p'.map Prod.fst = q'.map Prod.fst)
    (hS : ∀ r r' t t', q = some (r, t) → q' = some (r', t') → S' t t') : EndAlike S' R q q' := by
  cases h with
  | endless =>
    rw [Option.map_eq_none_iff.1 hp.symm, Option.map_eq_none_iff.1 hp'.symm]
    exact .endless
  | ended hr _ =>
    obtain ⟨⟨r, t⟩, rfl, rfl⟩ := Option.map_eq_some_iff.1 hp.symm
    obtain ⟨⟨r', t'⟩, rfl, rfl⟩ := Option.map_eq_some_iff.1 hp'.symm
    exact .ended hr (hS r r' t t' rfl rfl)

/-- Whether two walks end alike from related sessions. -/
def Parallel (S : Session → Session → Prop) (R : Failure → Failure → Prop) (w w' : Walk α) : Prop :=
  ∀ s s', S s s' → EndAlike S R (w.runFrom s) (w'.runFrom s')

namespace Parallel

variable {S : Session → Session → Prop} {R : Failure → Failure → Prop}

theorem pure (a : α) : Parallel S R (Pure.pure a : Walk α) (Pure.pure a) :=
  fun _ _ h => .ended (.value a) h

theorem fail {f f' : Failure} (hf : R f f') : Parallel S R (Walk.fail f : Walk α) (Walk.fail f') :=
  fun _ _ h => .ended (.failure hf) h

theorem endless : Parallel S R (Walk.endless : Walk α) Walk.endless :=
  fun _ _ _ => .endless

theorem fetch (hS : ∀ s s' path path', S s s' → S (s.addFetch path) (s'.addFetch path'))
    {source : Source} {path path' : Text} {read : Json → Except Mismatch α}
    (h : Alike R (reply source path read) (reply source path' read)) :
    Parallel S R (Walk.fetch source path read) (Walk.fetch source path' read) := by
  intro s s' hs
  rw [runFrom_fetch, runFrom_fetch]
  exact .ended h (hS s s' path path' hs)

theorem bind {w w' : Walk α} {k k' : α → Walk β} (hw : Parallel S R w w')
    (hk : ∀ a, Parallel S R (k a) (k' a)) : Parallel S R (w >>= k) (w' >>= k') := by
  intro s s' hs
  have h := hw s s' hs
  rw [runFrom_bind, runFrom_bind]
  generalize w.runFrom s = p, w'.runFrom s' = p' at h ⊢
  cases h with
  | ended hr h =>
    cases hr with
    | value a => exact hk a _ _ h
    | failure hf => exact .ended (.failure hf) h
  | endless => exact .endless

theorem ifFound (hR : ∀ f f', R f f' → f.isNotFound = f'.isNotFound) {w w' : Walk α}
    (hw : Parallel S R w w') : Parallel S R w.ifFound w'.ifFound := by
  intro s s' hs
  have h := hw s s' hs
  rw [runFrom_ifFound, runFrom_ifFound]
  generalize w.runFrom s = p, w'.runFrom s' = p' at h ⊢
  cases h with
  | ended hr h =>
    cases hr with
    | value a => exact .ended (.value _) h
    | @failure f f' hf =>
      simp only [Option.map_some, hR f f' hf]
      cases f'.isNotFound with
      | true => exact .ended (.value _) h
      | false => exact .ended (.failure hf) h
  | endless => exact .endless

/-- Parallel walks end with the same where related failures are the same. -/
theorem answer_eq {w w' : Walk α} (h : Parallel S Eq w w') {s s' : Session} (hs : S s s') :
    w.answer s = w'.answer s' := by
  have hend := h s s' hs
  rw [answer, answer]
  generalize w.runFrom s = p, w'.runFrom s' = p' at hend ⊢
  cases hend with
  | ended hr h =>
    cases hr with
    | value a => rfl
    | failure hf => rw [hf]; rfl
  | endless => rfl

/-- Parallel walks end with the same value when one of them ends with a value. -/
theorem answer_ok {w w' : Walk α} (h : Parallel S R w w') {s s' : Session} (hs : S s s') {a : α}
    (ha : w.answer s = some (.ok a)) : w'.answer s' = some (.ok a) := by
  obtain ⟨t, hrun⟩ := exists_runFrom_of_answer ha
  have hend := h s s' hs
  rw [hrun] at hend
  rw [answer]
  generalize w'.runFrom s' = p' at hend ⊢
  cases hend with
  | ended hr h =>
    cases hr
    rfl

end Parallel

end Walk

namespace Sure

variable {α β : Type} {s t : Session}

/-- A composed walk that ends went through its parts. -/
theorem run_bind_eq_some {w : Sure α} {k : α → Sure β} {b : β}
    (h : (w >>= k).run s = some (b, t)) :
    ∃ a u, w.run s = some (a, u) ∧ (k a).run u = some (b, t) := by
  obtain ⟨⟨a, u⟩, h1, h2⟩ := Option.bind_eq_some_iff.1 h
  exact ⟨a, u, h1, h2⟩

/-- What comes after a walk matters only for the values that it ends with. -/
theorem bind_congr {w : Sure α} {k k' : α → Sure β}
    (h : ∀ s a t, w.run s = some (a, t) → k a = k' a) : w >>= k = w >>= k' := by
  refine StateT.ext fun s => ?_
  rw [StateT.run_bind, StateT.run_bind]
  cases hrun : w.run s with
  | none => rfl
  | some p =>
    obtain ⟨a, t⟩ := p
    exact congrArg (StateT.run · t) (h s a t hrun)

theorem run_bind_of_eq_some {w : Sure α} {a : α} (h : w.run s = some (a, t)) (k : α → Sure β) :
    (w >>= k).run s = (k a).run t := by
  rw [StateT.run_bind, h]
  rfl

end Sure

end PinnedActions
