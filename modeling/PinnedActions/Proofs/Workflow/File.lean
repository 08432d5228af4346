import PinnedActions.Proofs.Usage.Line
import PinnedActions.Proofs.Workflow.Lines
import PinnedActions.Workflow.File

/-!
# A file that is written is read back

A file holds its lines and the usages on them, and both are changed in step.  It is **faithful**
when reading its lines gives its usages (`Faithful`), up to the separator that is written for a
usage without one.  A file that was just read is faithful (`faithful_parse`), a change of pin keeps
it so (`Faithful.repin`), and reading the content of a faithful file gives its usages
(`Faithful.usages_parse_content`).
-/

set_option autoImplicit false

namespace PinnedActions

namespace Usage

/-- The usage with another reference and another comment. -/
def repinned (u : Usage) (reference comment : Text) : Usage :=
  { u with reference := Text.lowercase reference, comment }

/-- The usage with the separator that is written for it. -/
def respaced (u : Usage) : Usage := { u with separator := u.writtenSeparator }

@[simp] theorem writtenSeparator_respaced (u : Usage) :
    u.respaced.writtenSeparator = u.writtenSeparator := by
  simp only [respaced, writtenSeparator]
  split <;> simp_all

@[simp] theorem respaced_respaced (u : Usage) : u.respaced.respaced = u.respaced := by
  rw [respaced, writtenSeparator_respaced]
  rfl

@[simp] theorem render_respaced (u : Usage) (reference comment : Text) :
    u.respaced.render reference comment = u.render reference comment := by
  rw [render_eq, render_eq, writtenSeparator_respaced]
  rfl

/-- The line that was written for a pin is the line of the usage with that pin. -/
theorem render_repinned (u : Usage) (reference comment : Text) :
    (u.repinned reference comment).render (u.repinned reference comment).reference
      (u.repinned reference comment).comment = u.render reference comment := by
  have hlower : Text.lowercase (u.repinned reference comment).reference = Text.lowercase reference :=
    Text.lowercase_lowercase reference
  rw [render_eq, render_eq, hlower]
  rfl

end Usage

namespace Lines

theorem texts_setLine (ls : Lines) (i : Nat) (text : Text) :
    (ls.setLine i text).texts = ls.texts.set i text := by
  rw [setLine, line?]
  split
  · rename_i h
    exact (List.set_eq_of_length_le (List.getElem?_eq_none_iff.1 h)).symm
  · rename_i old h
    split
    · rename_i hold
      obtain ⟨hi, rfl⟩ := List.getElem?_eq_some_iff.1 h
      rw [← hold, List.set_getElem_self]
    · rfl

/-- Lines are as they were unless they are said to be changed. -/
theorem setLine_of_not_dirty {ls : Lines} {i : Nat} {text : Text}
    (h : (ls.setLine i text).dirty = false) : ls.setLine i text = ls := by
  rw [setLine] at h ⊢
  split at h
  · rfl
  · split at h
    · rename_i hold
      exact if_pos hold
    · cases h

end Lines

namespace WorkflowFile

open Usage

/-! ## The usages on lines -/

theorem parse?_dropReturn (line : Text) : parse? (Lines.dropReturn line) = parse? line := by
  rw [Lines.dropReturn]
  split
  · rename_i h
    have hline := List.dropLast_append_getLast? '\r' h
    rw [← parse?_append_blank (b := '\r') (by decide) (by decide) line.dropLast, hline]
  · rfl

theorem usagesFrom_map_dropReturn (i : Nat) (texts : List Text) :
    usagesFrom i (texts.map Lines.dropReturn) = usagesFrom i texts := by
  induction texts generalizing i with
  | nil => rfl
  | cons text rest ih =>
    rw [List.map_cons, usagesFrom, usagesFrom, parse?_dropReturn, ih]

theorem usagesFrom_concat_nil (i : Nat) (texts : List Text) :
    usagesFrom i (texts ++ [[]]) = usagesFrom i texts := by
  have hnil : parse? [] = none := rfl
  induction texts generalizing i with
  | nil => simp [usagesFrom, hnil]
  | cons text rest ih => rw [List.cons_append, usagesFrom, usagesFrom, ih]

/-- A usage is on the line that it gives as its own. -/
theorem mem_usagesFrom {i : Nat} {texts : List Text} {u : Usage} (h : u ∈ usagesFrom i texts) :
    ∃ text ∈ texts, ∃ v, parse? text = some v ∧ u = { v with line := u.line } := by
  induction texts generalizing i with
  | nil => cases h
  | cons text rest ih =>
    have hrest : u ∈ usagesFrom (i + 1) rest → ∃ text' ∈ text :: rest, ∃ v,
        parse? text' = some v ∧ u = { v with line := u.line } := fun h => by
      obtain ⟨text', htext, v, hv⟩ := ih h
      exact ⟨text', List.mem_cons_of_mem text htext, v, hv⟩
    rw [usagesFrom] at h
    split at h
    · rename_i v hv
      rcases List.mem_cons.1 h with rfl | h
      · exact ⟨text, List.mem_cons_self, v, hv, rfl⟩
      · exact hrest h
    · exact hrest h

theorem line_of_getElem?_usagesFrom {i k : Nat} {texts : List Text} {u : Usage}
    (h : (usagesFrom i texts)[k]? = some u) : i ≤ u.line := by
  induction texts generalizing i k with
  | nil => cases h
  | cons text rest ih =>
    rw [usagesFrom] at h
    split at h
    · cases k with
      | zero =>
        cases h
        exact Nat.le_refl i
      | succ k => exact Nat.le_of_succ_le (ih h)
    · exact Nat.le_of_succ_le (ih h)

/-- A usage is read from the text of its line. -/
theorem exists_text_of_getElem?_usagesFrom {i k : Nat} {texts : List Text} {u : Usage}
    (h : (usagesFrom i texts)[k]? = some u) :
    ∃ text, texts[u.line - i]? = some text ∧ parse? text = some { u with line := 0 } := by
  induction texts generalizing i k with
  | nil => cases h
  | cons text rest ih =>
    have hrest : ∀ {k : Nat}, (usagesFrom (i + 1) rest)[k]? = some u →
        ∃ text', (text :: rest)[u.line - i]? = some text' ∧
          parse? text' = some { u with line := 0 } := fun h => by
      obtain ⟨text', htext, hparse⟩ := ih h
      have hle := line_of_getElem?_usagesFrom h
      refine ⟨text', ?_, hparse⟩
      rwa [show u.line - i = u.line - (i + 1) + 1 by omega, List.getElem?_cons_succ]
    rw [usagesFrom] at h
    split at h
    · rename_i v hv
      cases k with
      | zero =>
        cases h
        refine ⟨text, by simp, ?_⟩
        rw [hv, ← line_of_parse? hv]
      | succ k => exact hrest h
    · exact hrest h

/-- Another usage on the line of a usage takes its place. -/
theorem usagesFrom_set {i k : Nat} {texts : List Text} {text : Text} {u v : Usage}
    (h : (usagesFrom i texts)[k]? = some u) (hv : parse? text = some v) :
    usagesFrom i (texts.set (u.line - i) text) =
      (usagesFrom i texts).set k { v with line := u.line } := by
  induction texts generalizing i k with
  | nil => cases h
  | cons first rest ih =>
    have hrest : ∀ {k : Nat}, (usagesFrom (i + 1) rest)[k]? = some u →
        u.line - i = (u.line - (i + 1)) + 1 := fun h => by
      have := line_of_getElem?_usagesFrom h
      omega
    rw [usagesFrom] at h
    cases hfirst : parse? first with
    | some w =>
      rw [hfirst] at h
      cases k with
      | zero =>
        cases h
        simp only [Nat.sub_self, List.set_cons_zero, usagesFrom, hv, hfirst]
      | succ k =>
        rw [hrest h, List.set_cons_succ, usagesFrom, usagesFrom, ih h, hfirst]
        rfl
    | none =>
      rw [hfirst] at h
      rw [hrest h, List.set_cons_succ, usagesFrom, usagesFrom, ih h, hfirst]

/-! ## Another pin -/

theorem repin_of_none {f : WorkflowFile} {i : Nat} (h : f.usages[i]? = none)
    (reference comment : Text) : (f.repin i reference comment).1 = f := by
  rw [repin, h]

theorem repin_of_some {f : WorkflowFile} {i : Nat} {u : Usage} (h : f.usages[i]? = some u)
    (reference comment : Text) : (f.repin i reference comment).1 =
      { f with
        lines := f.lines.setLine u.line (u.render reference comment)
        usages := f.usages.set i (u.repinned reference comment) } := by
  rw [repin, h]
  rfl

theorem usages_repin (f : WorkflowFile) (i : Nat) (reference comment : Text) :
    (f.repin i reference comment).1.usages = f.usages.modify i (·.repinned reference comment) := by
  rw [List.modify_eq_set_getElem?]
  cases h : f.usages[i]? with
  | none => rw [repin_of_none h]; rfl
  | some u => rw [repin_of_some h]; rfl

theorem path_repin (f : WorkflowFile) (i : Nat) (reference comment : Text) :
    (f.repin i reference comment).1.path = f.path := by
  rw [repin]
  split <;> rfl

/-- The lines of a file that is not dirty are as they were. -/
theorem lines_repin_of_not_dirty {f : WorkflowFile} {i : Nat} {reference comment : Text}
    (h : (f.repin i reference comment).1.isDirty = false) :
    (f.repin i reference comment).1.lines = f.lines := by
  cases hu : f.usages[i]? with
  | none => rw [repin_of_none hu]
  | some u =>
    rw [repin_of_some hu] at h ⊢
    exact Lines.setLine_of_not_dirty h

/-! ## Faithful files -/

/-- Whether reading the lines of a file gives its usages, and all of them can be written again. -/
structure Faithful (f : WorkflowFile) : Prop where
  nonempty : f.lines.texts ≠ []
  unbroken : ∀ text ∈ f.lines.texts, '\n' ∉ text
  usages : (usagesFrom 0 f.lines.texts).map respaced = f.usages.map respaced
  readable : ∀ u ∈ f.usages, u.Readable
  oneLine : ∀ u ∈ f.usages, u.OneLine

/-- A usage of a file that was just read is on one of its lines. -/
theorem exists_parse?_of_mem {path : Bytes} {content : Text} {u : Usage}
    (hu : u ∈ (parse path content).usages) :
    ∃ text v, parse? text = some v ∧ '\n' ∉ text ∧ u = { v with line := u.line } := by
  obtain ⟨text, htext, v, hv, huv⟩ := mem_usagesFrom hu
  exact ⟨text, v, hv, Lines.not_mem_of_mem_ofContent htext, huv⟩

/-- A file that was just read is faithful. -/
theorem faithful_parse {path : Bytes} {content : Text}
    (h : ∀ u ∈ (parse path content).usages, Text.NoQuotes u.action.fullPath) :
    (parse path content).Faithful := by
  refine ⟨Lines.ofContent_ne_nil content, fun _ => Lines.not_mem_of_mem_ofContent, rfl,
    fun u hu => ?_, fun u hu => ?_⟩
  · have hquotes := h u hu
    obtain ⟨text, v, hv, -, huv⟩ := exists_parse?_of_mem hu
    rw [huv] at hquotes ⊢
    have hv := readable_of_parse? hv hquotes
    exact ⟨hv.indent, hv.separator, hv.action, hv.quotes, hv.foreign, hv.bare⟩
  · obtain ⟨text, v, hv, hbreak, huv⟩ := exists_parse?_of_mem hu
    have hv := oneLine_of_parse? hv hbreak
    rw [huv]
    exact ⟨hv.indent, hv.path, hv.comment⟩

namespace Faithful

variable {f : WorkflowFile}

/-- A usage of a faithful file is found on its line. -/
theorem exists_line (hf : f.Faithful) {i : Nat} {u : Usage} (hu : f.usages[i]? = some u) :
    ∃ w, (usagesFrom 0 f.lines.texts)[i]? = some w ∧ w.line = u.line := by
  have hline : ((usagesFrom 0 f.lines.texts).map respaced)[i]? = some u.respaced := by
    rw [hf.usages, List.getElem?_map, hu]
    rfl
  rw [List.getElem?_map] at hline
  obtain ⟨w, hw, hwu⟩ := Option.map_eq_some_iff.1 hline
  have hsame : w.respaced.line = u.respaced.line := congrArg Usage.line hwu
  exact ⟨w, hw, hsame⟩

/-- The usages on the lines after a change of pin. -/
theorem usagesFrom_setLine (hf : f.Faithful) {i : Nat} {u : Usage} (hu : f.usages[i]? = some u)
    {reference comment : Text} (h : Writable reference comment) :
    usagesFrom 0 (f.lines.setLine u.line (u.render reference comment)).texts =
      (usagesFrom 0 f.lines.texts).set i (u.repinned reference comment).respaced := by
  obtain ⟨w, hw, hline⟩ := hf.exists_line hu
  have hset := usagesFrom_set hw (parse?_render (hf.readable u (List.mem_of_getElem? hu)) h)
  rw [Nat.sub_zero, hline] at hset
  rw [Lines.texts_setLine]
  exact hset

/-- **A change of pin keeps a file faithful.** -/
theorem repin (hf : f.Faithful) {reference comment : Text} (h : Writable reference comment)
    (i : Nat) : (f.repin i reference comment).1.Faithful := by
  cases hu : f.usages[i]? with
  | none =>
    rw [repin_of_none hu]
    exact hf
  | some u =>
    have hmem : u ∈ f.usages := List.mem_of_getElem? hu
    have hreadable := hf.readable u hmem
    rw [repin_of_some hu]
    constructor
    · simpa [Lines.texts_setLine] using hf.nonempty
    · intro text htext
      rw [Lines.texts_setLine] at htext
      rcases List.mem_or_eq_of_mem_set htext with htext | rfl
      · exact hf.unbroken text htext
      · exact not_mem_render hreadable (hf.oneLine u hmem) h
    · rw [hf.usagesFrom_setLine hu h, List.map_set, respaced_respaced, hf.usages, List.map_set]
    · intro v hv
      rcases List.mem_or_eq_of_mem_set hv with hv | rfl
      · exact hf.readable v hv
      · exact ⟨hreadable.indent, hreadable.separator, hreadable.action, hreadable.quotes,
          hreadable.foreign, hreadable.bare⟩
    · intro v hv
      rcases List.mem_or_eq_of_mem_set hv with hv | rfl
      · exact hf.oneLine v hv
      · exact ⟨(hf.oneLine u hmem).indent, (hf.oneLine u hmem).path, h.unbroken⟩

/-- Reading the content of a faithful file gives the usages on its lines. -/
theorem usages_parse (hf : f.Faithful) (path : Bytes) :
    (parse path f.content).usages = usagesFrom 0 f.lines.texts := by
  rcases Lines.texts_ofContent_content hf.nonempty hf.unbroken with h | h
  · rw [parse, content, h, usagesFrom_map_dropReturn]
  · rw [parse, content, h, usagesFrom_concat_nil, usagesFrom_map_dropReturn]

/-- **Reading the content of a faithful file gives its usages.** -/
theorem usages_parse_content (hf : f.Faithful) (path : Bytes) :
    (parse path f.content).usages.map respaced = f.usages.map respaced := by
  rw [hf.usages_parse, hf.usages]

end Faithful

end WorkflowFile

end PinnedActions
