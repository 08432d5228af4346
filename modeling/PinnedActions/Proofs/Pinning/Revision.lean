import PinnedActions.Proofs.Pinning.Commute
import PinnedActions.Proofs.Pinning.Upgrade
import PinnedActions.Proofs.Pinning.Verdict
import PinnedActions.Proofs.Workflow.Revision

/-!
# Operations revise files

An operation edits every usage at most once, so it revises the files that it is given: those with a
changed line are the ones in which the line of some usage has another text (`revised_of_edits`).
The edits of an operation are at different places because the usages in scope are
(`revised_of_fix`, `revised_of_update`, `revised_of_upgrade`).
-/

set_option autoImplicit false

namespace PinnedActions

namespace Pinning

open Resolver Walk WorkflowFile

variable {source : Source} {settings : Settings} {target : Target} {version : Option Text}
  {files files' : List WorkflowFile} {s t : Session}

/-! ## All files -/

/-- A file with edits carried out one after the other, whatever files they are for. -/
def repinAll (f : WorkflowFile) (edits : List Edit) : WorkflowFile :=
  edits.foldl (fun f e => (f.repin e.index e.reference e.comment).1) f

/-- Edits change each file by those that are for it. -/
theorem applyEdits_eq_mapIdx (files : List WorkflowFile) (edits : List Edit) :
    applyEdits files edits =
      files.mapIdx fun k f => repinAll f (edits.filter fun e => e.file = k) := by
  refine List.ext_getElem? fun k => ?_
  rw [List.getElem?_mapIdx]
  induction edits generalizing files with
  | nil => exact Option.map_id'.symm
  | cons e rest ih =>
    have hstep : applyEdits files (e :: rest) = applyEdits (applyEdit files e) rest := rfl
    rw [hstep, ih, applyEdit, List.getElem?_modify, List.filter_cons]
    cases files[k]? with
    | none => rfl
    | some f => by_cases h : e.file = k <;> simp [h, repinAll]

theorem revises_repinAll {f : WorkflowFile} (hf : f.LinesApart) {edits : List Edit}
    (hnodup : (edits.map Edit.index).Nodup) :
    Revises (edits.map Edit.index) f (repinAll f edits) := by
  induction edits using List.reverseRecOn with
  | nil => exact .nil f
  | append_singleton edits e ih =>
    rw [List.map_append, List.map_singleton, List.nodup_append] at hnodup
    have hnew : e.index ∉ edits.map Edit.index := fun hmem =>
      hnodup.2.2 _ hmem _ List.mem_cons_self rfl
    rw [List.map_append, List.map_singleton, repinAll, List.foldl_append]
    exact (ih hnodup.1).repin hf hnew e.reference e.comment

/-- Edits at different places are at different positions in a file. -/
theorem nodup_index_of_place {edits : List Edit} (hnodup : (edits.map Edit.place).Nodup) (k : Nat) :
    ((edits.filter fun e => e.file = k).map Edit.index).Nodup := by
  have hplaces : (edits.filter fun e => e.file = k).map Edit.place =
      ((edits.filter fun e => e.file = k).map Edit.index).map (k, ·) := by
    rw [List.map_map]
    refine List.map_congr_left fun e he => ?_
    have hfile : e.file = k := of_decide_eq_true (List.mem_filter.1 he).2
    rw [Edit.place, hfile]
    rfl
  have hfiltered : ((edits.filter fun e => e.file = k).map Edit.place).Nodup :=
    hnodup.sublist (List.filter_sublist.map Edit.place)
  rw [hplaces] at hfiltered
  exact hfiltered.of_map

/-- Whether files are as they are right after reading: no two usages stand on one line, and no line
was changed. -/
structure JustRead (files : List WorkflowFile) : Prop where
  apart : AllApart files
  clean : ∀ f ∈ files, f.isDirty = false

/-- **Edits at different places revise files that were just read.** -/
theorem revised_of_edits (hread : JustRead files) (edits : List Edit)
    (hnodup : (edits.map Edit.place).Nodup) :
    List.Forall₂ Revised files (applyEdits files edits) := by
  rw [applyEdits_eq_mapIdx]
  refine List.forall₂_iff_get.2 ⟨List.length_mapIdx.symm, fun k hk _ => ?_⟩
  have hmem : files[k] ∈ files := List.getElem_mem hk
  rw [List.get_eq_getElem, List.get_eq_getElem, List.getElem_mapIdx]
  exact (revises_repinAll (hread.apart _ hmem) (nodup_index_of_place hnodup k)).revised
    (hread.clean _ hmem)

/-! ## Operations -/

/-- The edits among the verdicts on what is in scope are at different places. -/
theorem nodup_place_of_judgeAll {judge : Occurrence → Sure Verdict}
    (hjudge : ∀ o s v t, (judge o).run s = some (v, t) → IsFor o v) {vs : List Verdict}
    (h : (judgeAll judge (inScope settings target files)).run s = some (vs, t)) :
    ((editsOf vs).map Edit.place).Nodup :=
  (nodup_place_inScope settings target files).sublist
    (sublist_place_filterMap (isFor_of_judgeAll hjudge h))

/-- **A fix revises the files.** -/
theorem revised_of_fix (hread : JustRead files) {report : FixReport}
    (h : (fix source settings files).run s = some ((report, files'), t)) :
    List.Forall₂ Revised files files' := by
  obtain ⟨vs, hrun, rfl⟩ := fix_run h
  exact revised_of_edits hread _ (nodup_place_of_judgeAll (fun _ _ _ _ => isFor_of_judgeFix) hrun)

/-- **An update revises the files.** -/
theorem revised_of_update (hread : JustRead files) {report : Except Failure UpdateReport}
    (h : (update source settings target files).run s = some ((report, files'), t)) :
    List.Forall₂ Revised files files' := by
  cases updateRun_of_run h with
  | refused => exact revised_of_edits hread [] List.nodup_nil
  | judged _ hrun =>
    exact revised_of_edits hread _
      (nodup_place_of_judgeAll (fun _ _ _ _ => isFor_of_judgeUpdate) hrun)

/-- **An upgrade revises the files**, also one that fails. -/
theorem revised_of_upgrade (hread : JustRead files) {report : Except Failure UpgradeReport}
    (h : (upgrade source settings target version files).run s = some ((report, files'), t)) :
    List.Forall₂ Revised files files' := by
  cases upgradeRun_of_run h with
  | refused => exact revised_of_edits hread [] List.nodup_nil
  | grouped _ hrun =>
    obtain ⟨done, -, -, hprefix, rfl⟩ := (groupsRun_of_run hrun).exists_settles
    exact revised_of_edits hread _ (nodup_place_of_firstGroups hprefix)

end Pinning

end PinnedActions
