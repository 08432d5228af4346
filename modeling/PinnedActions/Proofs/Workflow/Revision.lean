import PinnedActions.Proofs.Workflow.Lines
import PinnedActions.Proofs.Workflow.Shape

/-!
# Revising a file

Each pin of a file is changed at most once.  So the file is dirty in the end exactly when the line of
some usage has another text than before: no later change undoes an earlier one (`Revised`).  All other
lines are what they were.

* `Revises.repin` — one more change of a pin.
* `Revised.content_eq` — the content of a revised file, made from the content that was read.
* `Revised.content_ne` — it is another content, if the new lines are read back as they are.
-/

set_option autoImplicit false

namespace PinnedActions

namespace WorkflowFile

/-! ## Changes of pins -/

/-- Whether a file comes from another by changes of the pins at some positions, one for each.  The
other lines stay, and the file is dirty when it was before or the line of a changed pin has another
text now. -/
structure Revises (touched : List Nat) (f f' : WorkflowFile) : Prop where
  path : f'.path = f.path
  unpinned : f'.usages.map Usage.unpinned = f.usages.map Usage.unpinned
  length : f'.lines.texts.length = f.lines.texts.length
  lines : ∀ k, (∀ i ∈ touched, ∀ u, f.usages[i]? = some u → u.line ≠ k) →
    f'.lines.line? k = f.lines.line? k
  dirty : f'.isDirty = true ↔ f.isDirty = true ∨
    ∃ i ∈ touched, ∃ u, f.usages[i]? = some u ∧ f'.lines.line? u.line ≠ f.lines.line? u.line

/-- Whether a file that was just read became another by changes of pins: the lines without a usage
are what they were, and the file is dirty exactly when the line of some usage is not. -/
structure Revised (f f' : WorkflowFile) : Prop where
  path : f'.path = f.path
  length : f'.lines.texts.length = f.lines.texts.length
  lines : ∀ k, (∀ u ∈ f.usages, u.line ≠ k) → f'.lines.line? k = f.lines.line? k
  dirty : f'.isDirty = true ↔ ∃ u ∈ f.usages, f'.lines.line? u.line ≠ f.lines.line? u.line

namespace Revises

variable {touched : List Nat} {f f' : WorkflowFile} {i : Nat}

theorem nil (f : WorkflowFile) : Revises [] f f where
  path := rfl
  unpinned := rfl
  length := rfl
  lines _ _ := rfl
  dirty := by simp

/-- The line of a usage whose pin was not changed is what it was. -/
theorem line?_of_not_mem (h : Revises touched f f') (hf : f.LinesApart) (hi : i ∉ touched) {u : Usage}
    (hu : f.usages[i]? = some u) : f'.lines.line? u.line = f.lines.line? u.line :=
  h.lines u.line fun _ hj _ hv => hf.line_ne hv hu fun hji => hi (hji ▸ hj)

/-- A change of a pin writes the line of the usage that was read. -/
theorem lines_repin (h : Revises touched f f') {u : Usage} (hu : f.usages[i]? = some u)
    (reference comment : Text) : (f'.repin i reference comment).1.lines =
      f'.lines.setLine u.line (u.render reference comment) := by
  have hunpinned : (f'.usages.map Usage.unpinned)[i]? = some u.unpinned := by
    rw [h.unpinned, List.getElem?_map, hu]
    rfl
  rw [List.getElem?_map] at hunpinned
  obtain ⟨u', hu', hsame⟩ := Option.map_eq_some_iff.1 hunpinned
  have hrender : u'.render reference comment = u.render reference comment :=
    calc u'.render reference comment = u'.unpinned.render reference comment := rfl
      _ = u.unpinned.render reference comment := by rw [hsame]
  rw [repin_of_some hu', hrender, (Usage.unpinned_eq_iff.1 hsame).1]

/-- A position without a usage changes nothing. -/
theorem touch (h : Revises touched f f') (hi : f.usages[i]? = none) :
    Revises (touched ++ [i]) f f' := by
  refine ⟨h.path, h.unpinned, h.length, fun k hk => h.lines k fun j hj => ?_, h.dirty.trans ?_⟩
  · exact hk j (List.mem_append_left _ hj)
  · refine or_congr_right ⟨fun ⟨j, hj, hline⟩ => ⟨j, List.mem_append_left _ hj, hline⟩, ?_⟩
    rintro ⟨j, hj, u, hu, hline⟩
    rcases List.mem_append.1 hj with hj | hj
    · exact ⟨j, hj, u, hu, hline⟩
    · rw [List.mem_singleton.1 hj, hi] at hu
      cases hu

/-- **One more change of a pin.** -/
theorem repin (h : Revises touched f f') (hf : f.LinesApart) (hi : i ∉ touched)
    (reference comment : Text) :
    Revises (touched ++ [i]) f (f'.repin i reference comment).1 := by
  cases hu : f.usages[i]? with
  | none =>
    have hlength := congrArg List.length h.unpinned
    rw [List.length_map, List.length_map] at hlength
    rw [repin_of_none (List.getElem?_eq_none_iff.2 (hlength ▸ List.getElem?_eq_none_iff.1 hu))]
    exact h.touch hu
  | some u =>
    have hlines := h.lines_repin hu reference comment
    -- the line of this usage was what it was at first, so another text is a change
    have hdirty : (f'.repin i reference comment).1.isDirty = true ↔ f'.isDirty = true ∨
        (f'.repin i reference comment).1.lines.line? u.line ≠ f.lines.line? u.line := by
      rw [isDirty, hlines, Lines.dirty_setLine_iff, h.line?_of_not_mem hf hi hu]
      rfl
    have hother : ∀ k, u.line ≠ k →
        (f'.repin i reference comment).1.lines.line? k = f'.lines.line? k := fun k hk => by
      rw [hlines, Lines.line?_setLine_of_ne hk]
    have hbefore : ∀ j ∈ touched, ∀ v, f.usages[j]? = some v →
        (f'.repin i reference comment).1.lines.line? v.line = f'.lines.line? v.line :=
      fun j hj v hv => hother _ (hf.line_ne hu hv fun hij => hi (hij ▸ hj))
    refine ⟨(path_repin ..).trans h.path, (map_unpinned_repin ..).trans h.unpinned,
      (length_texts_repin ..).trans h.length, fun k hk => ?_, hdirty.trans ?_⟩
    · have hne : u.line ≠ k := hk i (List.mem_append_right _ List.mem_cons_self) u hu
      rw [hother k hne]
      exact h.lines k fun j hj => hk j (List.mem_append_left _ hj)
    · rw [h.dirty, or_assoc]
      refine or_congr_right ⟨?_, ?_⟩
      · rintro (⟨j, hj, v, hv, hdiffers⟩ | hdiffers)
        · exact ⟨j, List.mem_append_left _ hj, v, hv, hbefore j hj v hv ▸ hdiffers⟩
        · exact ⟨i, List.mem_append_right _ List.mem_cons_self, u, hu, hdiffers⟩
      · rintro ⟨j, hj, v, hv, hdiffers⟩
        rcases List.mem_append.1 hj with hj | hj
        · exact .inl ⟨j, hj, v, hv, hbefore j hj v hv ▸ hdiffers⟩
        · rw [List.mem_singleton.1 hj, hu] at hv
          cases hv
          exact .inr hdiffers

end Revises

/-- After changes of different pins, a file that was not dirty is revised. -/
theorem Revises.revised {touched : List Nat} {f f' : WorkflowFile} (h : Revises touched f f')
    (hclean : f.isDirty = false) : Revised f f' := by
  refine ⟨h.path, h.length, fun k hk => h.lines k fun i _ u hu => hk u (List.mem_of_getElem? hu), ?_⟩
  rw [h.dirty, hclean]
  constructor
  · rintro (hdirty | ⟨i, -, u, hu, hdiffers⟩)
    · cases hdirty
    · exact ⟨u, List.mem_of_getElem? hu, hdiffers⟩
  · rintro ⟨u, hu, hdiffers⟩
    -- some change was on the line of the usage, or it would be what it was
    by_contra hnone
    refine hdiffers (h.lines u.line fun i hi v hv hline => hnone (.inr ⟨i, hi, v, hv, ?_⟩))
    rwa [hline]

theorem map_path_of_revised {files files' : List WorkflowFile}
    (h : List.Forall₂ Revised files files') :
    files'.map WorkflowFile.path = files.map WorkflowFile.path := by
  induction h with
  | nil => rfl
  | cons hrevised _ ih => rw [List.map_cons, List.map_cons, hrevised.path, ih]

/-! ## Its content -/

/-- A content with other texts for some of its lines.  Its breaks are line feeds, and it ends with
one. -/
def replaceLines (text? : Nat → Option Text) (content : Text) : Text :=
  Lines.endLine (Text.join ['\n'] (((Lines.unifyBreaks content).splitOn '\n').mapIdx fun k line =>
    (text? k).getD line))

/-- The text that a file has on the line of a usage of another file. -/
def usageLine? (f f' : WorkflowFile) (k : Nat) : Option Text :=
  if ∃ u ∈ f.usages, u.line = k then f'.lines.line? k else none

namespace Revised

variable {path : Bytes} {old : Text} {f' : WorkflowFile}

/-- **The content of a revised file** is the one that was read, with other texts on the lines of
usages. -/
theorem content_eq (h : Revised (parse path old) f') :
    f'.content = replaceLines (usageLine? (parse path old) f') old := by
  have htexts : f'.lines.texts = ((Lines.unifyBreaks old).splitOn '\n').mapIdx fun k line =>
      (usageLine? (parse path old) f' k).getD line := by
    refine List.ext_getElem? fun k => ?_
    rw [List.getElem?_mapIdx, usageLine?]
    split_ifs with husage
    · rw [Lines.line?]
      have hlength : f'.lines.texts.length = ((Lines.unifyBreaks old).splitOn '\n').length := h.length
      cases hnew : f'.lines.texts[k]? with
      | none =>
        rw [List.getElem?_eq_none_iff, hlength, ← List.getElem?_eq_none_iff] at hnew
        rw [hnew]
        rfl
      | some text =>
        obtain ⟨hlt, -⟩ := List.getElem?_eq_some_iff.1 hnew
        rw [List.getElem?_eq_getElem (hlength ▸ hlt)]
        rfl
    · have hline := h.lines k fun u hu hk => husage ⟨u, hu, hk⟩
      exact hline.trans Option.map_id'.symm
  rw [content, Lines.content, htexts, replaceLines]

/-- **A revised file with a changed line has another content**, if the lines of usages are read back
as they are. -/
theorem content_ne (h : Revised (parse path old) f') (hdirty : f'.isDirty = true)
    (hwhole : ∀ u ∈ (parse path old).usages, ∀ text, f'.lines.line? u.line = some text →
      Lines.IsWhole text) : f'.content ≠ old := by
  intro hsame
  have hbreaks : ∀ text ∈ f'.lines.texts, '\n' ∉ text := by
    intro text htext
    obtain ⟨k, hk⟩ := List.mem_iff_getElem?.1 htext
    by_cases husage : ∃ u ∈ (parse path old).usages, u.line = k
    · obtain ⟨u, hu, rfl⟩ := husage
      exact (hwhole u hu text hk).1
    · have hline := h.lines k fun u hu hk => husage ⟨u, hu, hk⟩
      rw [Lines.line?, hk] at hline
      exact Lines.not_mem_of_mem_ofContent (List.mem_of_getElem? hline.symm)
  have hlength : f'.lines.texts.length = (Lines.ofContent old).texts.length := h.length
  have hne : f'.lines.texts ≠ [] := fun hnil =>
    Lines.ofContent_ne_nil old (List.length_eq_zero_iff.1 (by rw [← hlength, hnil]; rfl))
  -- what was read is what is read back
  have hread : (Lines.ofContent old).texts = f'.lines.texts.map Lines.dropReturn := by
    have hcontent : f'.lines.content = old := hsame
    rcases Lines.texts_ofContent_content hne hbreaks with hback | hback
    · rw [← hcontent, hback]
    · rw [hcontent] at hback
      rw [hback] at hlength
      simp at hlength
  obtain ⟨u, hu, hdiffers⟩ := h.dirty.1 hdirty
  have hline : (parse path old).lines.line? u.line =
      (f'.lines.line? u.line).map Lines.dropReturn := by
    rw [Lines.line?, Lines.line?, ← List.getElem?_map, ← hread]
    rfl
  cases hnew : f'.lines.line? u.line with
  | none => rw [hline, hnew] at hdiffers; exact hdiffers rfl
  | some text =>
    rw [hline, hnew, Option.map_some, (hwhole u hu text hnew).dropReturn_eq] at hdiffers
    exact hdiffers rfl

end Revised

end WorkflowFile

end PinnedActions
