import PinnedActions.Pinning.Edit
import PinnedActions.Proofs.Pinning.Scope
import PinnedActions.Proofs.Workflow.File

/-!
# What edits do to occurrences

An edit changes the usage at its place and no other (`occurrences_applyEdit`), and of a usage only
the reference and the comment.  So after several edits every occurrence is what the edits make of it
one after the other, and with no two edits at one place that is what the edit at its place makes of
it, if there is one (`edited_of_mem`, `edited_of_not_mem`).
-/

set_option autoImplicit false

namespace PinnedActions

/-- The place of an edit. -/
def Edit.place (e : Edit) : Nat × Nat := (e.file, e.index)

namespace Pinning

/-- Edits that are made for occurrences one by one, at most one for each, are at their places. -/
theorem sublist_place_filterMap {α : Type} {edit? : α → Option Edit} {os : List Occurrence}
    {as : List α} (h : List.Forall₂ (fun o a => ∀ e, edit? a = some e → e.place = o.place) os as) :
    List.Sublist ((as.filterMap edit?).map Edit.place) (os.map Occurrence.place) := by
  induction h with
  | nil => exact List.Sublist.refl _
  | @cons o a os as ha _ ih =>
    cases he : edit? a with
    | none =>
      rw [List.filterMap_cons_none he, List.map_cons]
      exact ih.cons _
    | some e =>
      rw [List.filterMap_cons_some he, List.map_cons, List.map_cons, ha e he]
      exact ih.cons_cons _

/-- What an edit makes of an occurrence. -/
def edit (o : Occurrence) (e : Edit) : Occurrence :=
  if o.place = e.place then { o with usage := o.usage.repinned e.reference e.comment } else o

/-- What several edits make of an occurrence, one after the other. -/
def edited (edits : List Edit) (o : Occurrence) : Occurrence := edits.foldl edit o

section

variable {o : Occurrence} {e : Edit} {edits : List Edit}

@[simp] theorem place_edit : (edit o e).place = o.place := by
  rw [edit]
  split <;> rfl

@[simp] theorem action_edit : (edit o e).usage.action = o.usage.action := by
  rw [edit]
  split <;> rfl

@[simp] theorem place_edited : (edited edits o).place = o.place := by
  rw [edited]
  induction edits generalizing o with
  | nil => rfl
  | cons e rest ih => rw [List.foldl_cons, ih, place_edit]

@[simp] theorem action_edited : (edited edits o).usage.action = o.usage.action := by
  rw [edited]
  induction edits generalizing o with
  | nil => rfl
  | cons e rest ih => rw [List.foldl_cons, ih, action_edit]

theorem edited_of_not_mem (h : ∀ e ∈ edits, e.place ≠ o.place) : edited edits o = o := by
  rw [edited]
  induction edits with
  | nil => rfl
  | cons e rest ih =>
    have he : edit o e = o := if_neg (Ne.symm (h e List.mem_cons_self))
    rw [List.foldl_cons, he, ih fun e' he' => h e' (List.mem_cons_of_mem e he')]

/-- With no two edits at one place, the edit at the place of an occurrence is what counts. -/
theorem edited_of_mem (hnodup : (edits.map Edit.place).Nodup) (he : e ∈ edits)
    (hplace : e.place = o.place) :
    edited edits o = { o with usage := o.usage.repinned e.reference e.comment } := by
  induction edits generalizing o with
  | nil => cases he
  | cons e' rest ih =>
    rw [List.map_cons, List.nodup_cons] at hnodup
    rw [edited, List.foldl_cons]
    rcases List.mem_cons.1 he with rfl | he
    · rw [← edited, edited_of_not_mem, edit, if_pos hplace.symm]
      intro e' he' hsame
      rw [place_edit, ← hplace] at hsame
      exact hnodup.1 (List.mem_map.2 ⟨e', he', hsame⟩)
    · have hne : edit o e' = o := if_neg fun h =>
        hnodup.1 (List.mem_map.2 ⟨e, he, hplace.trans h⟩)
      rw [hne]
      exact ih hnodup.2 he hplace

end

/-! ## All files -/

theorem applyEdit_of_none {files : List WorkflowFile} {e : Edit} (h : files[e.file]? = none) :
    applyEdit files e = files := by
  rw [applyEdit, List.modify_eq_set_getElem?, h]
  rfl

theorem applyEdit_of_some {files : List WorkflowFile} {e : Edit} {f : WorkflowFile}
    (h : files[e.file]? = some f) :
    applyEdit files e = files.set e.file (f.repin e.index e.reference e.comment).1 := by
  rw [applyEdit, List.modify_eq_set_getElem?, h]
  rfl

/-- What a change of pin keeps true of the file of an edit, the edit keeps true of all files. -/
theorem forall₂_applyEdit {α : Type} {P : α → WorkflowFile → Prop} {l : List α}
    {files : List WorkflowFile} (h : List.Forall₂ P l files) {e : Edit}
    (hrepin : ∀ a f, files[e.file]? = some f → P a f →
      P a (f.repin e.index e.reference e.comment).1) :
    List.Forall₂ P l (applyEdit files e) := by
  rw [applyEdit]
  generalize e.file = k at hrepin ⊢
  induction h generalizing k with
  | nil => cases k <;> exact .nil
  | cons hp hrest ih =>
    cases k with
    | zero => exact .cons (hrepin _ _ rfl hp) hrest
    | succ k => exact .cons hp (ih k hrepin)

theorem occurrencesIn_modify (file : Nat) (path : Bytes) (i j : Nat) (us : List Usage)
    (reference comment : Text) :
    occurrencesIn file path i (us.modify j (·.repinned reference comment)) =
      (occurrencesIn file path i us).map (edit · ⟨file, i + j, reference, comment⟩) := by
  induction us generalizing i j with
  | nil => rw [List.modify_nil]; rfl
  | cons u rest ih =>
    cases j with
    | zero =>
      rw [List.modify_zero_cons, occurrencesIn, occurrencesIn, List.map_cons]
      congr 1
      · simp [edit, Occurrence.place, Edit.place]
      · refine (List.map_id' _).symm.trans (List.map_congr_left fun o ho => ?_)
        have := (mem_occurrencesIn.1 ho).2.2.1
        rw [edit, if_neg]
        intro h
        have : o.index = i + 0 := congrArg Prod.snd h
        omega
    | succ j =>
      rw [List.modify_succ_cons, occurrencesIn, occurrencesIn, List.map_cons, ih]
      congr 1
      · rw [edit, if_neg]
        intro h
        have : i = i + (j + 1) := congrArg Prod.snd h
        omega
      · rw [show i + 1 + j = i + (j + 1) by omega]

theorem occurrencesIn_edit_of_ne {file : Nat} {e : Edit} (h : e.file ≠ file) (path : Bytes) (i : Nat)
    (us : List Usage) :
    (occurrencesIn file path i us).map (edit · e) = occurrencesIn file path i us := by
  refine (List.map_congr_left fun o ho => ?_).trans (List.map_id' _)
  rw [edit, if_neg]
  intro hplace
  exact h ((congrArg Prod.fst hplace).symm.trans (mem_occurrencesIn.1 ho).1)

/-- **An edit changes the occurrence at its place and no other.** -/
theorem occurrences_applyEdit (files : List WorkflowFile) (e : Edit) :
    occurrences (applyEdit files e) = (occurrences files).map (edit · e) := by
  suffices h : ∀ i k, i + k = e.file →
      occurrencesFrom i (files.modify k fun f => (f.repin e.index e.reference e.comment).1) =
        (occurrencesFrom i files).map (edit · e) from h 0 e.file (Nat.zero_add _)
  induction files with
  | nil => intro i k _; rw [List.modify_nil]; rfl
  | cons f rest ih =>
    intro i k hk
    cases k with
    | zero =>
      have hrest : (occurrencesFrom (i + 1) rest).map (edit · e) =
          occurrencesFrom (i + 1) rest := by
        refine (List.map_congr_left fun o ho => ?_).trans (List.map_id' _)
        have := (mem_occurrencesFrom.1 ho).1
        rw [edit, if_neg]
        intro hplace
        have : o.file = e.file := congrArg Prod.fst hplace
        omega
      have he : e = ⟨i, 0 + e.index, e.reference, e.comment⟩ := by
        cases e
        simp_all
      rw [List.modify_zero_cons, occurrencesFrom, occurrencesFrom, List.map_append, hrest,
        WorkflowFile.path_repin, WorkflowFile.usages_repin, occurrencesIn_modify, ← he]
    | succ k =>
      rw [List.modify_succ_cons, occurrencesFrom, occurrencesFrom, List.map_append,
        occurrencesIn_edit_of_ne (by omega), ih (i + 1) k (by omega)]

/-- **After several edits every occurrence is what they make of it.** -/
theorem occurrences_applyEdits (files : List WorkflowFile) (edits : List Edit) :
    occurrences (applyEdits files edits) = (occurrences files).map (edited edits) := by
  induction edits generalizing files with
  | nil => exact (List.map_id' _).symm
  | cons e rest ih =>
    rw [applyEdits, List.foldl_cons, ← applyEdits, ih, occurrences_applyEdit, List.map_map]
    rfl

/-- What is in scope stays so. -/
theorem inScope_applyEdits (settings : Settings) (target : Target) (files : List WorkflowFile)
    (edits : List Edit) :
    inScope settings target (applyEdits files edits) =
      (inScope settings target files).map (edited edits) := by
  rw [inScope, inScope, occurrences_applyEdits, List.filter_map]
  congr 1
  refine List.filter_congr fun o _ => ?_
  rw [Function.comp_apply, action_edited]

/-! ## Making edits -/

theorem editFor_eq_some {o : Occurrence} {reference comment : Text} {e : Edit} :
    editFor o reference comment = some e ↔
      agrees o.usage reference comment = false ∧ e = ⟨o.file, o.index, reference, comment⟩ := by
  rw [editFor]
  split
  · rename_i h
    simp [h]
  · rename_i h
    simp [Bool.eq_false_iff.2 h, eq_comm]

theorem editFor_eq_none {o : Occurrence} {reference comment : Text} :
    editFor o reference comment = none ↔ agrees o.usage reference comment = true := by
  rw [editFor]
  split <;> simp_all

end Pinning

end PinnedActions
