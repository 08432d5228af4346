import PinnedActions.Proofs.Workflow.Shape
import Mathlib.Data.List.Forall2

/-!
# Memory and text stay in step

A file is held as its lines and as the usages on them, and a change of pin changes both.  They stay
**in step** (`InStep`): what is read from the lines is what is in memory, usage by usage
(`ReadBack`).  There is one difference.  A usage without a separator is written with one space, so
once its line was rewritten, that space is read back.

A file that was just read is in step (`inStep_parse`), and a change of pin that can be read back
keeps it so (`InStep.repin`).
-/

set_option autoImplicit false

namespace PinnedActions

namespace WorkflowFile

open Usage

/-- How a usage in memory is read from the lines of its file, which was loaded with other lines: as
it is, or else with one space for a separator, when it has none and its line was rewritten. -/
def ReadBack (loaded lines : Lines) (u v : Usage) : Prop :=
  v = u ∨ u.separator = [] ∧ v = { u with separator := [' '] } ∧
    lines.line? u.line ≠ loaded.line? u.line

/-- Whether a file that was loaded from a content is in step with its lines. -/
structure InStep (content : Text) (f : WorkflowFile) : Prop where
  faithful : f.Faithful
  unpinned : f.usages.map unpinned = (parse f.path content).usages.map unpinned
  readBack : List.Forall₂ (ReadBack (Lines.ofContent content) f.lines) f.usages
    (usagesFrom 0 f.lines.texts)

theorem inStep_parse {path : Bytes} {content : Text}
    (h : ∀ u ∈ (parse path content).usages, Text.NoQuotes u.action.fullPath) :
    (parse path content).InStep content where
  faithful := faithful_parse h
  unpinned := rfl
  readBack := List.forall₂_same.2 fun _ _ => .inl rfl

/-- Two lists that are changed at one position stay related where the others do. -/
theorem forall₂_set {α β : Type} {R S : α → β → Prop} {l : List α} {l' : List β} {i : Nat} {a : α}
    {b : β} (h : List.Forall₂ R l l') (ha : S a b)
    (hother : ∀ j x y, i ≠ j → l[j]? = some x → R x y → S x y) :
    List.Forall₂ S (l.set i a) (l'.set i b) := by
  obtain ⟨hlength, hget⟩ := List.forall₂_iff_get.1 h
  refine List.forall₂_iff_get.2 ⟨by simpa using hlength, fun j hj hj' => ?_⟩
  simp only [List.get_eq_getElem, List.getElem_set]
  rw [List.length_set] at hj hj'
  by_cases hij : i = j
  · rwa [if_pos hij, if_pos hij]
  · rw [if_neg hij, if_neg hij]
    exact hother j _ _ hij (List.getElem?_eq_getElem hj) (hget j hj hj')

namespace InStep

variable {content : Text} {f : WorkflowFile}

theorem linesApart (hf : f.InStep content) : f.LinesApart := by
  have hline : ∀ u : Usage, u.unpinned.line = u.line := fun _ => rfl
  rw [LinesApart, ← map_map_unpinned hline, hf.unpinned, map_map_unpinned hline]
  exact linesApart_parse f.path content

/-- The line of a usage without a separator was loaded without one. -/
theorem exists_loaded (hf : f.InStep content) {i : Nat} {u : Usage} (hu : f.usages[i]? = some u) :
    ∃ text v, (Lines.ofContent content).line? u.line = some text ∧ parse? text = some v ∧
      v.separator = u.separator := by
  have hunpinned : ((parse f.path content).usages.map Usage.unpinned)[i]? = some u.unpinned := by
    rw [← hf.unpinned, List.getElem?_map, hu]
    rfl
  rw [List.getElem?_map] at hunpinned
  obtain ⟨u₀, hu₀, hsame⟩ := Option.map_eq_some_iff.1 hunpinned
  obtain ⟨hline, -, hseparator, -, -⟩ := unpinned_eq_iff.1 hsame
  obtain ⟨text, htext, hparse⟩ := exists_text_of_getElem?_usagesFrom hu₀
  rw [hline, Nat.sub_zero] at htext
  exact ⟨text, _, htext, hparse, hseparator⟩

/-- The line of a usage has the text that it is given. -/
theorem line?_setLine (hf : f.InStep content) {i : Nat} {u : Usage} (hu : f.usages[i]? = some u)
    (text : Text) : (f.lines.setLine u.line text).line? u.line = some text := by
  obtain ⟨w, hw, hline⟩ := hf.faithful.exists_line hu
  obtain ⟨old, hold, -⟩ := exists_text_of_getElem?_usagesFrom hw
  rw [hline, Nat.sub_zero] at hold
  exact Lines.line?_setLine_self (List.getElem?_eq_some_iff.1 hold).1 text

/-- A usage whose pin was changed is read back. -/
theorem readBack_repinned (hf : f.InStep content) {i : Nat} {u : Usage}
    (hu : f.usages[i]? = some u) {reference comment : Text} (h : Writable reference comment) :
    ReadBack (Lines.ofContent content) (f.lines.setLine u.line (u.render reference comment))
      (u.repinned reference comment) (u.repinned reference comment).respaced := by
  by_cases hseparator : u.separator = []
  · right
    have hwritten : (u.repinned reference comment).writtenSeparator = [' '] :=
      if_pos (List.isEmpty_iff.2 hseparator)
    refine ⟨hseparator, by rw [respaced, hwritten], fun hsame => ?_⟩
    -- what was loaded has no separator, and what is written has one
    obtain ⟨text, v, htext, hv, hloaded⟩ := hf.exists_loaded hu
    have hparse := parse?_render (hf.faithful.readable u (List.mem_of_getElem? hu)) h
    have hline : (u.repinned reference comment).line = u.line := rfl
    rw [hline, hf.line?_setLine hu, htext] at hsame
    rw [Option.some_inj.1 hsame, hv] at hparse
    have hwritten' : v.separator = u.writtenSeparator :=
      congrArg Usage.separator (Option.some_inj.1 hparse)
    rw [hloaded, hseparator] at hwritten'
    exact absurd (hwritten'.trans hwritten) (by decide)
  · left
    have hwritten : (u.repinned reference comment).writtenSeparator =
        (u.repinned reference comment).separator :=
      if_neg fun hempty => hseparator (List.isEmpty_iff.1 hempty)
    rw [respaced, hwritten]

/-- **A change of pin keeps memory and text in step.** -/
theorem repin (hf : f.InStep content) {reference comment : Text} (h : Writable reference comment)
    (i : Nat) : (f.repin i reference comment).1.InStep content := by
  refine ⟨hf.faithful.repin h i, (map_unpinned_repin ..).trans hf.unpinned, ?_⟩
  cases hu : f.usages[i]? with
  | none =>
    rw [repin_of_none hu]
    exact hf.readBack
  | some u =>
    rw [repin_of_some hu, hf.faithful.usagesFrom_setLine hu h]
    refine forall₂_set hf.readBack (hf.readBack_repinned hu h) fun j v w hij hv hvw => ?_
    rwa [ReadBack, Lines.line?_setLine_of_ne (hf.linesApart.line_ne hu hv hij)]

/-- **What is read from the content of a file is what is in memory.** -/
theorem readBack_content (hf : f.InStep content) :
    List.Forall₂ (ReadBack (Lines.ofContent content) f.lines) f.usages
      (parse f.path f.content).usages := by
  rw [hf.faithful.usages_parse]
  exact hf.readBack

end InStep

end WorkflowFile

end PinnedActions
