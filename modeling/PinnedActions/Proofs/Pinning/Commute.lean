import PinnedActions.Proofs.Pinning.Reload
import PinnedActions.Proofs.Workflow.Shape

/-!
# Edits of different usages commute

Two edits at different places can be made in either order, as long as no two usages of a file stand
on one line (`applyEdit_comm`).  So can any number of edits of which no two are at one place
(`applyEdits_perm`).
-/

set_option autoImplicit false

namespace PinnedActions

namespace Pinning

variable {files : List WorkflowFile}

/-- Whether no two usages of a file stand on one line, in any of several files. -/
def AllApart (files : List WorkflowFile) : Prop := ∀ f ∈ files, f.LinesApart

theorem allApart_load (contents : List (Bytes × Text)) : AllApart (load contents) := by
  intro f hf
  obtain ⟨p, -, rfl⟩ := List.mem_map.1 hf
  exact WorkflowFile.linesApart_parse p.1 p.2

theorem AllApart.applyEdit (h : AllApart files) (e : Edit) : AllApart (applyEdit files e) := by
  cases hf : files[e.file]? with
  | none => rwa [applyEdit_of_none hf]
  | some f =>
    rw [applyEdit_of_some hf]
    intro f' hf'
    rcases List.mem_or_eq_of_mem_set hf' with hf' | rfl
    · exact h f' hf'
    · exact (h f (List.mem_of_getElem? hf)).repin e.index e.reference e.comment

theorem AllApart.applyEdits (h : AllApart files) (edits : List Edit) :
    AllApart (applyEdits files edits) := by
  induction edits generalizing files with
  | nil => exact h
  | cons e rest ih => exact ih (h.applyEdit e)

/-- **Two edits at different places can be made in either order.** -/
theorem applyEdit_comm (h : AllApart files) {e e' : Edit} (hplace : e.place ≠ e'.place) :
    applyEdit (applyEdit files e) e' = applyEdit (applyEdit files e') e := by
  by_cases hfile : e.file = e'.file
  · have hindex : e.index ≠ e'.index := fun heq => hplace (Prod.ext hfile heq)
    cases hf : files[e.file]? with
    | none =>
      have hf' : files[e'.file]? = none := hfile ▸ hf
      rw [applyEdit_of_none hf, applyEdit_of_none hf', applyEdit_of_none hf]
    | some f =>
      have hf' : files[e'.file]? = some f := hfile ▸ hf
      obtain ⟨hlt, -⟩ := List.getElem?_eq_some_iff.1 hf
      have hset : ∀ g : WorkflowFile, (files.set e.file g)[e.file]? = some g := fun g =>
        List.getElem?_set_self hlt
      have hset' : ∀ g : WorkflowFile, (files.set e.file g)[e'.file]? = some g := fun g => by
        rw [← hfile, hset]
      rw [applyEdit_of_some hf, applyEdit_of_some hf', ← hfile,
        applyEdit_of_some (hset' _), applyEdit_of_some (hset _), ← hfile,
        List.set_set, List.set_set,
        WorkflowFile.repin_comm (h f (List.mem_of_getElem? hf)) hindex]
  · rw [Pinning.applyEdit, Pinning.applyEdit, Pinning.applyEdit, Pinning.applyEdit]
    exact List.modify_modify_ne _ _ files hfile

/-- **Edits at different places can be made in any order.** -/
theorem applyEdits_perm {edits edits' : List Edit} (hperm : edits.Perm edits')
    (h : AllApart files) (hnodup : (edits.map Edit.place).Nodup) :
    applyEdits files edits = applyEdits files edits' := by
  induction hperm generalizing files with
  | nil => rfl
  | cons e _ ih =>
    rw [List.map_cons, List.nodup_cons] at hnodup
    exact ih (h.applyEdit e) hnodup.2
  | swap e e' rest =>
    rw [List.map_cons, List.map_cons, List.nodup_cons, List.mem_cons, not_or] at hnodup
    rw [Pinning.applyEdits, Pinning.applyEdits, List.foldl_cons, List.foldl_cons, List.foldl_cons,
      List.foldl_cons, applyEdit_comm h hnodup.1.1]
  | trans hperm _ ih ih' =>
    exact (ih h hnodup).trans (ih' h ((hperm.map Edit.place).nodup_iff.1 hnodup))

end Pinning

end PinnedActions
