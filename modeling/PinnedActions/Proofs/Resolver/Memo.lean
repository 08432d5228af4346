import PinnedActions.Proofs.Resolver.Walk

/-!
# Walks with a memory

A resolver remembers two kinds of things, the commits of references and the results for version
specs, and it does both in the same way: what is in the session is taken from there, and what is not
is found out and put there.  `memo` is that way.

`MemoRun` lists what a run of such a walk can do, with the cases `hit`, `found` and `failed`; a
proof about one run goes through these.  The closure lemmas `Moves.memo`, `Ensures.memo`,
`FailsOnly.memo` and `Parallel.memo` are for all runs.
-/

set_option autoImplicit false

namespace PinnedActions

namespace Walk

variable {α : Type} {s t : Session} {find : Session → Option α} {put : α → Session → Session}
  {w : Walk α}

/-- A walk that changes the session for the value it ends with. -/
def remember (put : α → Session → Session) (w : Walk α) : Walk α := do
  let a ← w
  change (put a)
  return a

/-- A walk that takes its value from the session, or puts it there. -/
def memo (find : Session → Option α) (put : α → Session → Session) (w : Walk α) : Walk α := do
  match find (← session) with
  | some a => return a
  | none => remember put w

theorem runFrom_memo_of_some {a : α} (h : find s = some a) :
    (memo find put w).runFrom s = some (.ok a, s) := by
  rw [memo, runFrom_bind_of_ok (runFrom_session s), h]
  rfl

theorem runFrom_memo_of_none (h : find s = none) :
    (memo find put w).runFrom s = (remember put w).runFrom s := by
  rw [memo, runFrom_bind_of_ok (runFrom_session s), h]

/-- What is not in the session is answered as if nothing were remembered. -/
theorem answer_memo_of_none (h : find s = none) : (memo find put w).answer s = w.answer s := by
  rw [answer, runFrom_memo_of_none h, remember, runFrom_bind, answer]
  cases w.runFrom s with
  | none => rfl
  | some p =>
    obtain ⟨r, t⟩ := p
    cases r <;> rfl

/-! ## The runs -/

/-- What a run of a walk with a memory can do.  Here `known` is what the session has for it. -/
inductive MemoRun (known : Option α) (put : α → Session → Session) (w : Walk α) (s : Session) :
    Except Failure α → Session → Prop where
  | hit {a : α} (h : known = some a) : MemoRun known put w s (.ok a) s
  | found {a : α} {t : Session} (h : known = none) (hrun : w.runFrom s = some (.ok a, t)) :
      MemoRun known put w s (.ok a) (put a t)
  | failed {f : Failure} {t : Session} (h : known = none)
      (hrun : w.runFrom s = some (.error f, t)) : MemoRun known put w s (.error f) t

theorem memoRun_of_runFrom {r : Except Failure α}
    (h : (memo find put w).runFrom s = some (r, t)) : MemoRun (find s) put w s r t := by
  cases hfind : find s with
  | some a =>
    rw [runFrom_memo_of_some hfind] at h
    cases h
    exact .hit rfl
  | none =>
    rw [runFrom_memo_of_none hfind] at h
    cases r with
    | ok a =>
      obtain ⟨a', u, hrun, h⟩ := runFrom_bind_eq_ok h
      cases h
      exact .found rfl hrun
    | error f =>
      rcases runFrom_bind_eq_error h with hrun | ⟨a, u, -, h⟩
      · exact .failed rfl hrun
      · cases h

/-! ## What every run does -/

/-- An invariant that gives what is found in a session, and that putting it there keeps. -/
theorem Ensures.memo {I : Session → Prop} {Q : α → Prop}
    (hfind : ∀ s a, I s → find s = some a → Q a) (hw : Ensures I Q w)
    (hput : ∀ a s, Q a → I s → I (put a s)) : Ensures I Q (memo find put w) := by
  intro s r t hs h
  cases memoRun_of_runFrom h with
  | @hit a hfound => exact ⟨hs, fun b hb => Except.ok.inj hb ▸ hfind s a hs hfound⟩
  | @found a u _ hrun =>
    obtain ⟨hu, ha⟩ := hw s _ u hs hrun
    exact ⟨hput a u (ha a rfl) hu, ha⟩
  | failed _ hrun => exact hw s _ t hs hrun

theorem Moves.memo {rel : Session → Session → Prop} (hrefl : ∀ s, rel s s)
    (htrans : ∀ s t u, rel s t → rel t u → rel s u) (hw : Moves rel w)
    (hput : ∀ a s, rel s (put a s)) : Moves rel (memo find put w) := by
  intro s r t h
  cases memoRun_of_runFrom h with
  | hit _ => exact hrefl s
  | @found a u _ hrun => exact htrans s u _ (hw s _ u hrun) (hput a u)
  | failed _ hrun => exact hw s _ t hrun

theorem FailsOnly.memo {P : Failure → Prop} (hw : FailsOnly P w) :
    FailsOnly P (memo find put w) := by
  intro s f t h
  cases memoRun_of_runFrom h with
  | failed _ hrun => exact hw s f t hrun

/-- Related sessions in which the same is found. -/
theorem Parallel.memo {S : Session → Session → Prop} {R : Failure → Failure → Prop} {w' : Walk α}
    (hfind : ∀ s s', S s s' → find s = find s') (hw : Parallel S R w w')
    (hput : ∀ a s s', S s s' → S (put a s) (put a s')) :
    Parallel S R (memo find put w) (memo find put w') := by
  intro s s' hs
  have heq := hfind s s' hs
  cases hfound : find s with
  | some a =>
    rw [runFrom_memo_of_some hfound, runFrom_memo_of_some (heq ▸ hfound)]
    exact .ended (.value a) hs
  | none =>
    rw [runFrom_memo_of_none hfound, runFrom_memo_of_none (heq ▸ hfound)]
    refine (hw.bind fun a => ?_) s s' hs
    exact fun t t' ht => .ended (.value a) (hput a t t' ht)

end Walk

end PinnedActions
