import PinnedActions.Proofs.Pinning.FixThenVerify
import PinnedActions.Proofs.Pinning.Upgrade
import PinnedActions.Proofs.Workflow.Upkeep
import Mathlib.Logic.Relation

/-!
# Operations keep files up

A fix, an update and an upgrade change files by changes of pins and by nothing else, whether they
end well or not, and whatever the catalog says (`Operates.exists_edits`).  So after any sequence of
them each file is what some changes of pins made of it (`isChanged_of_operations`), and what holds
after any changes of pins holds of it (`files_are_kept_up`).
-/

set_option autoImplicit false

namespace PinnedActions

namespace Pinning

open WorkflowFile

variable {files files' : List WorkflowFile} {contents : List (Bytes × Text)}

/-- Whether some operation makes other files of files, with any catalog, any settings and any aim,
in any session. -/
inductive Operates (files files' : List WorkflowFile) : Prop where
  | fix {source : Source} {settings : Settings} {report : FixReport} {s t : Session}
      (h : (fix source settings files).run s = some ((report, files'), t))
  | update {source : Source} {settings : Settings} {target : Target}
      {report : Except Failure UpdateReport} {s t : Session}
      (h : (update source settings target files).run s = some ((report, files'), t))
  | upgrade {source : Source} {settings : Settings} {target : Target} {version : Option Text}
      {report : Except Failure UpgradeReport} {s t : Session}
      (h : (upgrade source settings target version files).run s = some ((report, files'), t))

/-- **An operation changes files by edits alone.** -/
theorem Operates.exists_edits (h : Operates files files') :
    ∃ edits, files' = applyEdits files edits := by
  cases h with
  | fix h =>
    obtain ⟨vs, -, rfl⟩ := fix_run h
    exact ⟨_, rfl⟩
  | update h =>
    cases updateRun_of_run h with
    | refused => exact ⟨[], rfl⟩
    | judged => exact ⟨_, rfl⟩
  | upgrade h =>
    cases upgradeRun_of_run h with
    | refused => exact ⟨[], rfl⟩
    | grouped => exact ⟨_, rfl⟩

/-- Whether a file is what some changes of pins made of a content that was read. -/
def IsChanged (p : Bytes × Text) (f : WorkflowFile) : Prop :=
  ∃ changes, ((parse p.1 p.2).changePins changes).1 = f

theorem isChanged_load (contents : List (Bytes × Text)) :
    List.Forall₂ IsChanged contents (load contents) := by
  rw [load, List.forall₂_map_right_iff, List.forall₂_same]
  exact fun p _ => ⟨[], rfl⟩

theorem IsChanged.repin {p : Bytes × Text} {f : WorkflowFile} (h : IsChanged p f) (i : Nat)
    (reference comment : Text) : IsChanged p (f.repin i reference comment).1 := by
  obtain ⟨changes, rfl⟩ := h
  exact ⟨changes ++ [⟨i, reference, comment⟩], by rw [changePins_concat]; rfl⟩

theorem isChanged_applyEdits (h : List.Forall₂ IsChanged contents files) (edits : List Edit) :
    List.Forall₂ IsChanged contents (applyEdits files edits) := by
  induction edits generalizing files with
  | nil => exact h
  | cons e rest ih => exact ih (forall₂_applyEdit h fun _ _ _ hf => hf.repin e.index _ _)

/-- After any operations each file is what some changes of pins made of it. -/
theorem isChanged_of_operations (h : Relation.ReflTransGen Operates (load contents) files) :
    List.Forall₂ IsChanged contents files := by
  induction h with
  | refl => exact isChanged_load contents
  | tail _ hstep ih =>
    obtain ⟨edits, rfl⟩ := hstep.exists_edits
    exact isChanged_applyEdits ih edits

/-- **Files are kept up**: by any changes of the pins of a file that was read, and so by any fixes,
updates and upgrades of files that were read. -/
theorem files_are_kept_up :
    (∀ (path : Bytes) (content : Text) (changes : List PinChange),
      Upkeep (parse path content) ((parse path content).changePins changes).1
        ((parse path content).changePins changes).2) ∧
    ∀ (contents : List (Bytes × Text)) (files : List WorkflowFile),
      Relation.ReflTransGen Operates (load contents) files →
        List.Forall₂ (fun p f => ∃ changes, ((parse p.1 p.2).changePins changes).1 = f ∧
          Upkeep (parse p.1 p.2) f ((parse p.1 p.2).changePins changes).2) contents files := by
  refine ⟨upkeep_changePins, fun contents files h => (isChanged_of_operations h).imp ?_⟩
  rintro p f ⟨changes, rfl⟩
  exact ⟨changes, rfl, upkeep_changePins p.1 p.2 changes⟩

theorem files_are_kept_up_of_mixedContents :
    Relation.ReflTransGen Operates (load mixedContents) mixedFixed ∧
    List.Forall₂ (fun p f => ∃ changes, ((parse p.1 p.2).changePins changes).1 = f ∧
      Upkeep (parse p.1 p.2) f ((parse p.1 p.2).changePins changes).2) mixedContents mixedFixed :=
  have hrun : ((fix onlyExact .default (load mixedContents)).run .empty).map Prod.fst =
      some (mixedReport, mixedFixed) := by decide +kernel
  have ⟨⟨_, _⟩, hfix, hfixed⟩ := Option.map_eq_some_iff.1 hrun
  have hsteps : Relation.ReflTransGen Operates (load mixedContents) mixedFixed := by
    cases hfixed
    exact .single (.fix hfix)
  ⟨hsteps, files_are_kept_up.2 _ _ hsteps⟩

end Pinning

end PinnedActions
