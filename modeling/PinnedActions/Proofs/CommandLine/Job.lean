import PinnedActions.CommandLine.Run

/-!
# What jobs do

A job that ends, from some progress, does so with a value or a trouble, and with more progress
(`Job.runFrom`).  Of a sequence of jobs the first trouble is the end.

Most jobs of a command leave the disk alone.  Two properties say so, and both are closed under
sequences, so they are proved of a job by following its definition.

* `Speaks j` — the job does no more than print, though it may meet a trouble.
* `Prints j` — the job prints, and meets no trouble either.

A report that is printed as JSON may be refused, and that is all that can happen to it
(`PrintsUnless`).
-/

set_option autoImplicit false

namespace PinnedActions

namespace Progress

/-- Whether nothing happened but printing. -/
structure OnlyPrints (p q : Progress) : Prop where
  disk : q.disk = p.disk
  session : q.session = p.session
  asked : q.asked = p.asked
  saved : q.saved = p.saved

/-- Whether no file was saved. -/
structure SameDisk (p q : Progress) : Prop where
  disk : q.disk = p.disk
  saved : q.saved = p.saved

variable {p q r : Progress}

theorem OnlyPrints.refl (p : Progress) : OnlyPrints p p := ⟨rfl, rfl, rfl, rfl⟩

theorem OnlyPrints.trans (h : OnlyPrints p q) (h' : OnlyPrints q r) : OnlyPrints p r :=
  ⟨h'.disk.trans h.disk, h'.session.trans h.session, h'.asked.trans h.asked,
    h'.saved.trans h.saved⟩

theorem OnlyPrints.sameDisk (h : OnlyPrints p q) : SameDisk p q := ⟨h.disk, h.saved⟩

theorem SameDisk.refl (p : Progress) : SameDisk p p := ⟨rfl, rfl⟩

theorem SameDisk.trans (h : SameDisk p q) (h' : SameDisk q r) : SameDisk p r :=
  ⟨h'.disk.trans h.disk, h'.saved.trans h.saved⟩

end Progress

namespace Job

open Progress

variable {α β : Type} {j : Job α} {k : α → Job β} {p q : Progress}

/-! ## Runs -/

/-- How a job ends that begins with some progress. -/
abbrev runFrom (j : Job α) (p : Progress) : Option (Except Trouble α × Progress) := j.run.run p

/-- What comes after a job is reached when that ends with a value. -/
theorem runFrom_bind (j : Job α) (k : α → Job β) (p : Progress) :
    (j >>= k).runFrom p = (j.runFrom p).bind fun
      | (.ok a, q) => (k a).runFrom q
      | (.error t, q) => some (.error t, q) := by
  show (j.run p).bind _ = _
  congr 1
  funext result
  obtain ⟨r, q⟩ := result
  cases r <;> rfl

/-- A sequence of jobs ends where its first trouble is, or at its end. -/
theorem runFrom_bind_cases {r : Except Trouble β} (h : (j >>= k).runFrom p = some (r, q)) :
    (∃ t, j.runFrom p = some (.error t, q) ∧ r = .error t) ∨
      ∃ a p', j.runFrom p = some (.ok a, p') ∧ (k a).runFrom p' = some (r, q) := by
  rw [runFrom_bind] at h
  obtain ⟨⟨first, p'⟩, hj, hk⟩ := Option.bind_eq_some_iff.1 h
  cases first with
  | error t =>
    cases hk
    exact .inl ⟨t, hj, rfl⟩
  | ok a => exact .inr ⟨a, p', hj, hk⟩

theorem exists_of_runFrom_bind_ok {b : β} (h : (j >>= k).runFrom p = some (.ok b, q)) :
    ∃ a p', j.runFrom p = some (.ok a, p') ∧ (k a).runFrom p' = some (.ok b, q) := by
  rcases runFrom_bind_cases h with ⟨t, -, hne⟩ | hrun
  · cases hne
  · exact hrun

/-- What a client is used for is computed in the session of the job, and the job goes on. -/
theorem exists_of_runFrom_consult_bind {client : Client} {computation : Sure α}
    {r : Except Trouble β} (h : (consult client computation >>= k).runFrom p = some (r, q)) :
    ∃ a p', computation.run p.session = some (a, p'.session) ∧ SameDisk p p' ∧
      (k a).runFrom p' = some (r, q) := by
  rcases runFrom_bind_cases h with ⟨t, h, -⟩ | ⟨a, p', h, hrest⟩
  · obtain ⟨⟨a, session⟩, -, heq⟩ := Option.bind_eq_some_iff.1 h
    cases heq
  · obtain ⟨⟨a, session⟩, hrun, heq⟩ := Option.bind_eq_some_iff.1 h
    cases heq
    refine ⟨a, _, ?_, ?_, hrest⟩
    · exact hrun
    · exact ⟨rfl, rfl⟩

/-- A result is looked at, and nothing happens. -/
theorem eq_of_runFrom_orTrouble {ε : Type} {trouble : ε → Trouble} {result : Except ε α}
    {r : Except Trouble α} (h : (orTrouble trouble result).runFrom p = some (r, q)) : q = p := by
  cases result <;> cases h <;> rfl

theorem eq_of_runFrom_orTrouble_ok {ε : Type} {trouble : ε → Trouble} {result : Except ε α} {a : α}
    (h : (orTrouble trouble result).runFrom p = some (.ok a, q)) : result = .ok a ∧ q = p := by
  cases result <;> cases h
  exact ⟨rfl, rfl⟩

/-! ## Saying something -/

/-- Whether a job does no more than print.  It may meet a trouble. -/
def Speaks (j : Job α) : Prop := ∀ p r q, j.runFrom p = some (r, q) → OnlyPrints p q

theorem speaks_pure (a : α) : Speaks (pure a : Job α) := fun p r q h => by
  cases h
  exact .refl p

theorem speaks_bind (hj : Speaks j) (hk : ∀ a, Speaks (k a)) : Speaks (j >>= k) := by
  intro p r q hrun
  rcases runFrom_bind_cases hrun with ⟨t, h, -⟩ | ⟨a, p', h, hrest⟩
  · exact hj p _ q h
  · exact (hj p _ p' h).trans (hk a p' r q hrest)

theorem speaks_progress : Speaks progress := fun p r q h => by
  cases h
  exact .refl p

theorem speaks_fail (t : Trouble) : Speaks (fail t : Job α) := fun p r q h => by
  cases h
  exact .refl p

theorem speaks_orTrouble {ε : Type} (trouble : ε → Trouble) (result : Except ε α) :
    Speaks (orTrouble trouble result) := fun p r q h => by
  rw [eq_of_runFrom_orTrouble h]
  exact .refl p

/-- Whether a job does nothing but print, and meets no trouble. -/
def Prints (j : Job Unit) : Prop :=
  ∀ p r q, j.runFrom p = some (r, q) → r = .ok () ∧ OnlyPrints p q

variable {j k : Job Unit}

theorem Prints.speaks (h : Prints j) : Speaks j := fun p r q hrun => (h p r q hrun).2

theorem prints_pure : Prints (pure ()) := fun p r q h => by
  cases h
  exact ⟨rfl, .refl p⟩

theorem prints_bind (hj : Prints j) (hk : Prints k) : Prints (do j; k) := by
  intro p r q hrun
  rcases runFrom_bind_cases hrun with ⟨t, h, -⟩ | ⟨⟨⟩, p', h, hrest⟩
  · cases (hj p _ q h).1
  · obtain ⟨rfl, hprinted⟩ := hk p' r q hrest
    exact ⟨rfl, (hj p _ p' h).2.trans hprinted⟩

theorem prints_say (line : Text) : Prints (say line) := fun p r q h => by
  cases h
  exact ⟨rfl, rfl, rfl, rfl, rfl⟩

theorem prints_remark (line : Text) : Prints (remark line) := fun p r q h => by
  cases h
  exact ⟨rfl, rfl, rfl, rfl, rfl⟩

/-- Whether a job does nothing but print, and meets a trouble just if what it has to print is
refused. -/
def PrintsUnless (refused : Prop) (j : Job Unit) : Prop :=
  ∀ p r q, j.runFrom p = some (r, q) →
    OnlyPrints p q ∧ (r = .ok () ∧ ¬refused ∨ r = .error .unprintable ∧ refused)

theorem Prints.unless {refused : Prop} (h : Prints j) (hnot : ¬refused) : PrintsUnless refused j :=
  fun p r q hrun => ⟨(h p r q hrun).2, .inl ⟨(h p r q hrun).1, hnot⟩⟩

end Job

namespace Program

open Job

theorem prints_sayLines (lines : List Text) : Prints (sayLines lines) := by
  induction lines with
  | nil => exact prints_pure
  | cons line rest ih => exact prints_bind (prints_say line) ih

theorem prints_remarkLines (lines : List Text) : Prints (remarkLines lines) := by
  induction lines with
  | nil => exact prints_pure
  | cons line rest ih => exact prints_bind (prints_remark line) ih

/-- A report that can be told is printed. -/
theorem prints_sayReport (o : Options) {json : Option Json} (htold : json.isSome = true)
    (lines : List Text) : Prints (sayReport o json lines) := by
  obtain ⟨json, rfl⟩ := Option.isSome_iff_exists.1 htold
  rw [sayReport]
  split
  · exact prints_say _
  · exact prints_sayLines lines

theorem speaks_sayReport (o : Options) (json : Option Json) (lines : List Text) :
    Speaks (sayReport o json lines) := by
  rw [sayReport]
  split
  · cases json with
    | none => exact speaks_fail _
    | some json => exact (prints_say _).speaks
  · exact (prints_sayLines lines).speaks

theorem printsUnless_sayJson (json : Option Json) :
    PrintsUnless (¬json.isSome = true) (sayJson json) := by
  cases json with
  | none =>
    intro p r q h
    cases h
    exact ⟨.refl p, .inr ⟨rfl, Bool.false_ne_true⟩⟩
  | some json => exact (prints_say _).unless (not_not_intro rfl)

theorem speaks_sayAdvice (advice : List Advice) : Speaks (sayAdvice advice) := by
  induction advice with
  | nil => exact speaks_pure ()
  | cons a rest ih =>
    rw [sayAdvice]
    split
    · exact speaks_fail _
    · exact speaks_bind (prints_remark _).speaks fun _ => ih

end Program

end PinnedActions
