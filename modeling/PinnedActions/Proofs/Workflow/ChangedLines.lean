import Mathlib.Algebra.GroupWithZero.Nat
import PinnedActions.Proofs.Workflow.Revision

/-!
# How many lines have changed

`WorkflowFile.changedLines` counts the lines of a file that have another text in a second one.  When
a file is revised, each change of a pin that gives its line another text adds one to the count
(`Revises.changedLines_repin`), and the file is dirty exactly when the count is not zero
(`Revised.isDirty_iff`).
-/

set_option autoImplicit false

namespace PinnedActions

/-- Whether two texts differ, as a number. -/
def Text.difference (old new : Text) : Nat := if old = new then 0 else 1

theorem Text.difference_self (t : Text) : Text.difference t t = 0 := if_pos rfl

/-- How many lines of a file have another text in a second file, line by line. -/
def WorkflowFile.changedLines (f f' : WorkflowFile) : Nat :=
  (List.zipWith Text.difference f.lines.texts f'.lines.texts).sum

/-! ## Sums over two lists -/

section

variable {α β : Type} {amount : α → β → Nat}

/-- Where one entry adds one more, the sum is one more. -/
theorem sum_zipWith_set {as : List α} {bs : List β} {k : Nat} {a : α} {b b' : β}
    (ha : as[k]? = some a) (hb : bs[k]? = some b) (hamount : amount a b' = amount a b + 1) :
    (List.zipWith amount as (bs.set k b')).sum = (List.zipWith amount as bs).sum + 1 := by
  induction k generalizing as bs with
  | zero =>
    obtain ⟨as, rfl⟩ := List.head?_eq_some_iff.1 (List.head?_eq_getElem?.trans ha)
    obtain ⟨bs, rfl⟩ := List.head?_eq_some_iff.1 (List.head?_eq_getElem?.trans hb)
    simp only [List.set_cons_zero, List.zipWith_cons_cons, List.sum_cons, hamount]
    omega
  | succ k ih =>
    cases as with
    | nil => cases ha
    | cons a₀ as =>
      cases bs with
      | nil => cases hb
      | cons b₀ bs =>
        simp only [List.set_cons_succ, List.zipWith_cons_cons, List.sum_cons, ih ha hb]
        omega

theorem sum_zipWith_self {amount : α → α → Nat} (h : ∀ a, amount a a = 0) (as : List α) :
    (List.zipWith amount as as).sum = 0 := by
  induction as with
  | nil => rfl
  | cons a as ih => rw [List.zipWith_cons_cons, List.sum_cons, h, ih]

end

namespace WorkflowFile

variable {touched : List Nat} {f f' : WorkflowFile} {i : Nat}

theorem changedLines_self (f : WorkflowFile) : changedLines f f = 0 :=
  sum_zipWith_self Text.difference_self f.lines.texts

/-- No line has changed when all texts are what they were. -/
theorem changedLines_eq_zero_iff (h : f'.lines.texts.length = f.lines.texts.length) :
    changedLines f f' = 0 ↔ f'.lines.texts = f.lines.texts := by
  rw [changedLines]
  generalize f.lines.texts = olds, f'.lines.texts = news at h ⊢
  induction olds generalizing news with
  | nil => simp [List.length_eq_zero_iff.1 h]
  | cons old olds ih =>
    cases news with
    | nil => cases h
    | cons new news =>
      rw [List.zipWith_cons_cons, List.sum_cons, Nat.add_eq_zero_iff, ih news (Nat.succ.inj h),
        List.cons.injEq, Text.difference, eq_comm (a := new)]
      split <;> simp_all

/-- **A change of a pin that gives its line another text adds one changed line**, when the pin was
not changed before. -/
theorem Revises.changedLines_repin (h : Revises touched f f') (hf : f.LinesApart)
    (hi : i ∉ touched) {u : Usage} (hu : f.usages[i]? = some u) {text : Text}
    (htext : f.lines.line? u.line = some text) {reference comment : Text}
    (hnew : u.render reference comment ≠ text) :
    changedLines f (f'.repin i reference comment).1 = changedLines f f' + 1 := by
  have htext' : f'.lines.texts[u.line]? = some text :=
    (h.line?_of_not_mem hf hi hu).trans htext
  rw [changedLines, h.lines_repin hu, Lines.texts_setLine]
  refine sum_zipWith_set htext htext' ?_
  rw [Text.difference_self, Text.difference, if_neg hnew.symm]

/-- **A revised file is dirty when one of its lines has changed.** -/
theorem Revised.isDirty_iff (h : Revised f f') :
    f'.isDirty = true ↔ changedLines f f' ≠ 0 := by
  rw [Ne, changedLines_eq_zero_iff h.length, h.dirty]
  constructor
  · rintro ⟨u, -, hdiffers⟩ hsame
    exact hdiffers (congrArg (·[u.line]?) hsame)
  · intro hdiffers
    by_contra hnone
    refine hdiffers (List.ext_getElem? fun k => ?_)
    -- a line with a usage is not the one that differs, and the others stay
    by_cases husage : ∃ u ∈ f.usages, u.line = k
    · obtain ⟨u, hu, rfl⟩ := husage
      exact not_not.1 fun hne => hnone ⟨u, hu, hne⟩
    · exact h.lines k fun u hu hk => husage ⟨u, hu, hk⟩

end WorkflowFile

end PinnedActions
