import PinnedActions.Proofs.Workflow.Shape

/-!
# What changes of pins keep up

The pins of a file may be changed any number of times, at any positions, also at positions without a
usage, and with any references and comments.  `changePins` makes several changes one after the other
and collects what each of them says.

All that holds of such a file, compared with the file that was loaded, is `Upkeep`.  A file that was
just read has it (`upkeep_parse`), one more change keeps it (`Upkeep.repin`), and so any number of
changes does (`upkeep_changePins`).  What carries the step is that no two usages stand on one line,
so a change writes over no other usage, and that lowercase text is its own lowercase form, so the
line that was written for a pin is still the line of the usage with that pin.
-/

set_option autoImplicit false

namespace PinnedActions

/-- A change of a pin: the position of a usage in its file, and the reference and the comment that
the usage is to have. -/
structure PinChange where
  index : Nat
  reference : Text
  comment : Text
deriving DecidableEq, Repr

namespace WorkflowFile

open Usage

/-- One more change of a pin, after some that have said whether they changed a line. -/
def changePin (p : WorkflowFile × List Bool) (c : PinChange) : WorkflowFile × List Bool :=
  let (f, changed) := p.1.repin c.index c.reference c.comment
  (f, p.2 ++ [changed])

/-- A file after several changes of pins, and whether each of them gave a line another text. -/
def changePins (f : WorkflowFile) (changes : List PinChange) : WorkflowFile × List Bool :=
  changes.foldl changePin (f, [])

theorem changePins_concat (f : WorkflowFile) (changes : List PinChange) (c : PinChange) :
    f.changePins (changes ++ [c]) = changePin (f.changePins changes) c :=
  List.foldl_concat ..

/-- What holds of a file that was loaded, and whose pins were changed since. -/
structure Upkeep (loaded f : WorkflowFile) (said : List Bool) : Prop where
  length : f.lines.texts.length = loaded.lines.texts.length
  /-- There are as many usages, and each keeps all but its reference and its comment. -/
  unpinned : f.usages.map unpinned = loaded.usages.map unpinned
  increasing : (f.usages.map Usage.line).Pairwise (· < ·)
  inRange : ∀ k ∈ f.usages.map Usage.line, k < f.lines.texts.length
  others : ∀ k ∉ f.usages.map Usage.line, f.lines.line? k = loaded.lines.line? k
  /-- A usage and its line are as they were loaded, or the line is the one that is written for the
  usage as it is. -/
  own : ∀ (i : Nat) (u : Usage), f.usages[i]? = some u →
    (loaded.usages[i]? = some u ∧ f.lines.line? u.line = loaded.lines.line? u.line) ∨
      f.lines.line? u.line = some (u.render u.reference u.comment)
  /-- The file is dirty when some change has said that it gave a line another text. -/
  dirty : f.isDirty = true ↔ true ∈ said
  clean : f.isDirty = false → f.lines = loaded.lines

theorem upkeep_parse (path : Bytes) (content : Text) :
    Upkeep (parse path content) (parse path content) [] where
  length := rfl
  unpinned := rfl
  increasing := List.pairwise_map.2 (pairwise_line_usagesFrom 0 _)
  inRange k hk := by
    obtain ⟨u, hu, rfl⟩ := List.mem_map.1 hk
    obtain ⟨i, hi⟩ := List.mem_iff_getElem?.1 hu
    obtain ⟨text, htext, -⟩ := exists_text_of_getElem?_usagesFrom hi
    exact (List.getElem?_eq_some_iff.1 htext).1
  others _ _ := rfl
  own _ _ hu := .inl ⟨hu, rfl⟩
  dirty := by simp [parse, isDirty, Lines.ofContent]
  clean _ := rfl

namespace Upkeep

variable {loaded f : WorkflowFile} {said : List Bool}

theorem linesApart (h : Upkeep loaded f said) : f.LinesApart := h.increasing.imp Nat.ne_of_lt

theorem line_lt (h : Upkeep loaded f said) {i : Nat} {u : Usage} (hu : f.usages[i]? = some u) :
    u.line < f.lines.texts.length :=
  h.inRange _ (List.mem_map_of_mem (List.mem_of_getElem? hu))

/-- A change says that it gave a line another text when it makes the file dirty. -/
theorem isDirty_repin (h : Upkeep loaded f said) (i : Nat) (reference comment : Text) :
    (f.repin i reference comment).1.isDirty =
      (f.isDirty || (f.repin i reference comment).2) := by
  cases hu : f.usages[i]? with
  | none =>
    rw [repin, hu]
    exact (Bool.or_false _).symm
  | some u =>
    have hlt := h.line_lt hu
    have hline : f.lines.line? u.line = some f.lines.texts[u.line] := List.getElem?_eq_getElem hlt
    have hchanged : (f.repin i reference comment).2 =
        decide (f.lines.line? u.line ≠ some (u.render reference comment)) := by
      rw [repin, hu]
      rfl
    rw [repin_of_some hu, hchanged, isDirty, Lines.dirty_setLine, hline]
    simp [isDirty]

/-- What is on the line of a usage after a change of a pin, be it that of the usage or another. -/
theorem own_repin (h : Upkeep loaded f said) {i j : Nat} {reference comment : Text} {v : Usage}
    (hv : (f.repin i reference comment).1.usages[j]? = some v) :
    (loaded.usages[j]? = some v ∧
      (f.repin i reference comment).1.lines.line? v.line = loaded.lines.line? v.line) ∨
      (f.repin i reference comment).1.lines.line? v.line =
        some (v.render v.reference v.comment) := by
  cases hu : f.usages[i]? with
  | none =>
    rw [repin_of_none hu] at hv ⊢
    exact h.own j v hv
  | some u =>
    rw [repin_of_some hu] at hv ⊢
    simp only at hv ⊢
    by_cases hij : i = j
    · subst hij
      rw [List.getElem?_set_self (List.getElem?_eq_some_iff.1 hu).1] at hv
      cases hv
      right
      rw [render_repinned]
      exact Lines.line?_setLine_self (h.line_lt hu) _
    · rw [List.getElem?_set_ne hij] at hv
      rw [Lines.line?_setLine_of_ne (h.linesApart.line_ne hu hv hij)]
      exact h.own j v hv

/-- **One more change of a pin keeps a file up.** -/
theorem repin (h : Upkeep loaded f said) (i : Nat) (reference comment : Text) :
    Upkeep loaded (f.repin i reference comment).1
      (said ++ [(f.repin i reference comment).2]) := by
  have hlines : (f.repin i reference comment).1.usages.map Usage.line = f.usages.map Usage.line :=
    map_repin_of_unpinned (fun _ => rfl) f i reference comment
  have hlength := length_texts_repin f i reference comment
  constructor
  case length => exact hlength.trans h.length
  case unpinned => exact (map_unpinned_repin ..).trans h.unpinned
  case increasing => exact hlines ▸ h.increasing
  case inRange => exact hlines ▸ hlength ▸ h.inRange
  case others =>
    intro k hk
    rw [hlines] at hk
    rw [line?_repin_of_ne fun u hu hline =>
      hk (List.mem_map.2 ⟨u, List.mem_of_getElem? hu, hline⟩)]
    exact h.others k hk
  case own => exact fun _ _ => h.own_repin
  case dirty =>
    rw [h.isDirty_repin, Bool.or_eq_true, h.dirty, List.mem_append, List.mem_singleton]
    exact or_congr_right eq_comm
  case clean =>
    intro hclean
    have hsame := lines_repin_of_not_dirty hclean
    rw [isDirty, hsame] at hclean
    exact hsame.trans (h.clean hclean)

end Upkeep

/-- **Any changes of pins keep a file up.** -/
theorem upkeep_changePins (path : Bytes) (content : Text) (changes : List PinChange) :
    Upkeep (parse path content) ((parse path content).changePins changes).1
      ((parse path content).changePins changes).2 := by
  induction changes using List.reverseRecOn with
  | nil => exact upkeep_parse path content
  | append_singleton changes c ih =>
    rw [changePins_concat]
    exact ih.repin c.index c.reference c.comment

/-- There is no second usage; the first has the first reference already, up to letter case. -/
example : ((parse [] "- uses: o/r@v1\n".toList).changePins [⟨1, "v2".toList, []⟩,
    ⟨0, "V1".toList, []⟩, ⟨0, "v2".toList, []⟩]).2 = [false, false, true] := by
  decide +kernel

end WorkflowFile

end PinnedActions
