import PinnedActions.Proofs.Workflow.File

/-!
# What a change of pin leaves alone

A change of pin gives one usage another reference and another comment, and its line another text.
Everything else of a usage stays (`map_unpinned_repin`), and so does every line that is not that of
the usage (`line?_repin_of_ne`).

No two usages of a file that was read stand on one line, and a change of pin keeps it so
(`LinesApart`).  Hence the pins of two usages can be changed in either order (`repin_comm`).
-/

set_option autoImplicit false

namespace PinnedActions

namespace Usage

/-- The usage without its pin. -/
def unpinned (u : Usage) : Usage := { u with reference := [], comment := [] }

theorem unpinned_eq_iff {u v : Usage} :
    u.unpinned = v.unpinned ↔ u.line = v.line ∧ u.indent = v.indent ∧
      u.separator = v.separator ∧ u.quote = v.quote ∧ u.action = v.action := by
  simp [unpinned]

end Usage

namespace Lines

theorem line?_setLine_of_ne {i j : Nat} (h : i ≠ j) (ls : Lines) (text : Text) :
    (ls.setLine i text).line? j = ls.line? j := by
  rw [line?, texts_setLine, List.getElem?_set_ne h, line?]

theorem line?_setLine_self {ls : Lines} {i : Nat} (h : i < ls.texts.length) (text : Text) :
    (ls.setLine i text).line? i = some text := by
  rw [line?, texts_setLine, List.getElem?_set_self h]

/-- Lines become dirty when one of them is given another text. -/
theorem dirty_setLine (ls : Lines) (i : Nat) (text : Text) :
    (ls.setLine i text).dirty = (ls.dirty || (ls.line? i).any (· ≠ text)) := by
  rw [setLine]
  cases h : ls.line? i with
  | none => simp
  | some old =>
    by_cases hold : old = text
    · simp [hold]
    · simp [hold]

/-- Lines are dirty once one of them is set, if they were before or it has another text now. -/
theorem dirty_setLine_iff (ls : Lines) (i : Nat) (text : Text) :
    (ls.setLine i text).dirty = true ↔
      ls.dirty = true ∨ (ls.setLine i text).line? i ≠ ls.line? i := by
  rw [dirty_setLine, Bool.or_eq_true, line?, line?, texts_setLine, List.getElem?_set_self']
  cases ls.texts[i]? with
  | none => simp
  | some old => exact or_congr_right (by simpa using ne_comm)

/-- Two lines can be set in either order. -/
theorem setLine_comm {i j : Nat} (h : i ≠ j) (ls : Lines) (text text' : Text) :
    (ls.setLine i text).setLine j text' = (ls.setLine j text').setLine i text := by
  have htexts : ((ls.setLine i text).setLine j text').texts =
      ((ls.setLine j text').setLine i text).texts := by
    simp only [texts_setLine]
    exact List.set_comm _ _ h
  have hdirty : ((ls.setLine i text).setLine j text').dirty =
      ((ls.setLine j text').setLine i text).dirty := by
    simp only [dirty_setLine, line?_setLine_of_ne h, line?_setLine_of_ne h.symm]
    exact Bool.or_right_comm ..
  calc (ls.setLine i text).setLine j text'
      = ⟨((ls.setLine i text).setLine j text').texts,
          ((ls.setLine i text).setLine j text').dirty⟩ := rfl
    _ = (ls.setLine j text').setLine i text := by rw [htexts, hdirty]

end Lines

namespace WorkflowFile

open Usage

/-! ## What stays of a file -/

theorem map_unpinned_repin (f : WorkflowFile) (i : Nat) (reference comment : Text) :
    (f.repin i reference comment).1.usages.map unpinned = f.usages.map unpinned := by
  refine List.ext_getElem? fun j => ?_
  rw [usages_repin, List.getElem?_map, List.getElem?_map, List.getElem?_modify]
  cases f.usages[j]? with
  | none => split <;> rfl
  | some u => split <;> rfl

/-- What depends on nothing but what stays of usages. -/
theorem map_map_unpinned {α : Type} {g : Usage → α} (hg : ∀ u, g u.unpinned = g u)
    (us : List Usage) : (us.map unpinned).map g = us.map g := by
  rw [List.map_map]
  exact List.map_congr_left fun u _ => hg u

theorem map_repin_of_unpinned {α : Type} {g : Usage → α} (hg : ∀ u, g u.unpinned = g u)
    (f : WorkflowFile) (i : Nat) (reference comment : Text) :
    (f.repin i reference comment).1.usages.map g = f.usages.map g := by
  rw [← map_map_unpinned hg, map_unpinned_repin, map_map_unpinned hg]

theorem line?_repin_of_ne {f : WorkflowFile} {i k : Nat}
    (h : ∀ u, f.usages[i]? = some u → u.line ≠ k) (reference comment : Text) :
    (f.repin i reference comment).1.lines.line? k = f.lines.line? k := by
  cases hu : f.usages[i]? with
  | none => rw [repin_of_none hu]
  | some u =>
    rw [repin_of_some hu]
    exact Lines.line?_setLine_of_ne (h u hu) ..

theorem length_texts_repin (f : WorkflowFile) (i : Nat) (reference comment : Text) :
    (f.repin i reference comment).1.lines.texts.length = f.lines.texts.length := by
  cases hu : f.usages[i]? with
  | none => rw [repin_of_none hu]
  | some u => rw [repin_of_some hu, Lines.texts_setLine, List.length_set]

/-! ## The lines of usages -/

/-- The usages on a sequence of lines are in the order of their lines. -/
theorem pairwise_line_usagesFrom (i : Nat) (texts : List Text) :
    (usagesFrom i texts).Pairwise fun u v => u.line < v.line := by
  induction texts generalizing i with
  | nil => exact .nil
  | cons text rest ih =>
    rw [usagesFrom]
    split
    · refine .cons (fun v hv => ?_) (ih (i + 1))
      obtain ⟨k, hk⟩ := List.mem_iff_getElem?.1 hv
      exact line_of_getElem?_usagesFrom hk
    · exact ih (i + 1)

/-- Whether no two usages of a file stand on one line. -/
def LinesApart (f : WorkflowFile) : Prop := (f.usages.map Usage.line).Nodup

theorem linesApart_parse (path : Bytes) (content : Text) : (parse path content).LinesApart :=
  List.pairwise_map.2 ((pairwise_line_usagesFrom 0 _).imp Nat.ne_of_lt)

theorem LinesApart.repin {f : WorkflowFile} (hf : f.LinesApart) (i : Nat)
    (reference comment : Text) : (f.repin i reference comment).1.LinesApart := by
  rw [LinesApart, map_repin_of_unpinned fun _ => rfl]
  exact hf

theorem LinesApart.line_ne {f : WorkflowFile} (hf : f.LinesApart) {i j : Nat} {u v : Usage}
    (hu : f.usages[i]? = some u) (hv : f.usages[j]? = some v) (h : i ≠ j) : u.line ≠ v.line := by
  intro hline
  have hi : (f.usages.map Usage.line)[i]? = some u.line := by rw [List.getElem?_map, hu]; rfl
  have hj : (f.usages.map Usage.line)[j]? = some u.line := by
    rw [List.getElem?_map, hv, hline]
    rfl
  obtain ⟨hlt, -⟩ := List.getElem?_eq_some_iff.1 hi
  exact h ((List.getElem?_inj hlt hf).1 (hi.trans hj.symm))

/-- **The pins of two usages can be changed in either order.** -/
theorem repin_comm {f : WorkflowFile} (hf : f.LinesApart) {i j : Nat} (h : i ≠ j)
    (reference comment reference' comment' : Text) :
    ((f.repin i reference comment).1.repin j reference' comment').1 =
      ((f.repin j reference' comment').1.repin i reference comment).1 := by
  cases hu : f.usages[i]? with
  | none =>
    have hnone : (f.repin j reference' comment').1.usages[i]? = none := by
      rw [usages_repin, List.getElem?_modify_ne _ _ h.symm, hu]
    rw [repin_of_none hu, repin_of_none hnone]
  | some u =>
    cases hv : f.usages[j]? with
    | none =>
      have hnone : (f.repin i reference comment).1.usages[j]? = none := by
        rw [usages_repin, List.getElem?_modify_ne _ _ h, hv]
      rw [repin_of_none hv, repin_of_none hnone]
    | some v =>
      have hu' : (f.repin j reference' comment').1.usages[i]? = some u := by
        rw [usages_repin, List.getElem?_modify_ne _ _ h.symm, hu]
      have hv' : (f.repin i reference comment).1.usages[j]? = some v := by
        rw [usages_repin, List.getElem?_modify_ne _ _ h, hv]
      rw [repin_of_some hu', repin_of_some hv', repin_of_some hu, repin_of_some hv]
      simp only
      rw [Lines.setLine_comm (hf.line_ne hu hv h), List.set_comm _ _ h]

end WorkflowFile

end PinnedActions
