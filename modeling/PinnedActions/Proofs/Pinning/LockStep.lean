import Mathlib.Data.Option.Basic
import PinnedActions.Proofs.Pinning.FixThenVerify

/-!
# Fixing and updating in lock step

`fix` looks for a version in the comment first, and in the reference if the comment has none;
`update` looks in the comment only.  Where all comments have a version, the two operations come to
the same verdicts, and differ in the wording of their warnings.

Every step of an operation has a lemma that says so, up to `Verdict.unworded`.  For the steps that
ask the catalog this is an equation between computations, so it includes what is asked, what is
remembered, and that the one ends if the other does.
-/

set_option autoImplicit false

namespace PinnedActions

/-- Where a warning is about. -/
def Warning.place (w : Warning) : Bytes × Nat := (w.path, w.line)

/-- The verdict without the wording of its warning. -/
def Verdict.unworded : Verdict → Verdict
  | warned w => warned { w with message := [] }
  | v => v

namespace Pinning

variable {source : Source} {settings : Settings}

/-! ## Verdicts -/

/-- How a failure is worded makes no other difference to a verdict. -/
theorem settle_unworded (o : Occurrence) (version remark : Text) (a b : Failure → Text) :
    Verdict.unworded <$> settle source o version remark a =
      Verdict.unworded <$> settle source o version remark b := by
  unfold settle
  rw [map_bind, map_bind]
  refine bind_congr fun result => ?_
  cases result <;> rfl

/-- **Both operations settle a usage on the version in its comment, if there is one.** -/
theorem judge_unworded {o : Occurrence} (h : (Comment.split o.usage.comment).1 ≠ []) :
    Verdict.unworded <$> judgeFix source o = Verdict.unworded <$> judgeUpdate source o := by
  have hversion : (Comment.split o.usage.comment).1.isEmpty = false :=
    Bool.eq_false_iff.2 fun hempty => h (List.isEmpty_iff.1 hempty)
  simp only [judgeFix, judgeUpdate, hversion, Bool.not_false, if_true, Bool.false_eq_true, if_false]
  exact settle_unworded o _ _ _ _

theorem judgeAll_unworded {judge judge' : Occurrence → Sure Verdict} {os : List Occurrence}
    (h : ∀ o ∈ os, Verdict.unworded <$> judge o = Verdict.unworded <$> judge' o) :
    List.map Verdict.unworded <$> judgeAll judge os =
      List.map Verdict.unworded <$> judgeAll judge' os := by
  induction os with
  | nil => rfl
  | cons o rest ih =>
    have hrest := ih fun o' ho' => h o' (List.mem_cons_of_mem o ho')
    -- both sides are what becomes of the verdicts without their wording
    have hjudged : ∀ judge : Occurrence → Sure Verdict,
        List.map Verdict.unworded <$> judgeAll judge (o :: rest) = do
          let v ← Verdict.unworded <$> judge o
          let vs ← List.map Verdict.unworded <$> judgeAll judge rest
          return v :: vs := fun judge => by
      simp only [judgeAll, map_bind, bind_map_left, map_pure, List.map_cons]
    rw [hjudged, hjudged, h o List.mem_cons_self, hrest]

theorem editsOf_unworded (vs : List Verdict) : editsOf (vs.map Verdict.unworded) = editsOf vs := by
  rw [editsOf, editsOf, List.filterMap_map]
  congr 1
  funext v
  cases v <;> rfl

theorem place_warningsOf_unworded (vs : List Verdict) :
    (warningsOf (vs.map Verdict.unworded)).map Warning.place =
      (warningsOf vs).map Warning.place := by
  rw [warningsOf, warningsOf, List.filterMap_map, List.map_filterMap, List.map_filterMap]
  congr 1
  funext v
  cases v <;> rfl

/-! ## Whole runs -/

/-- What a run of `fix` and a run of `update` have in common that do the same: the update is not
refused, the reports count alike and have warnings about the same places, and the files and the
sessions are the same in the end. -/
structure LockStep (fixed : (FixReport × List WorkflowFile) × Session)
    (updated : (Except Failure UpdateReport × List WorkflowFile) × Session) : Prop where
  report : ∃ report, updated.1.1 = .ok report ∧ fixed.1.1.updated = report.updated ∧
    fixed.1.1.filesChanged = report.filesChanged ∧
    fixed.1.1.warnings.map Warning.place = report.warnings.map Warning.place
  files : fixed.1.2 = updated.1.2
  session : fixed.2 = updated.2

/-- What is carried out is the edits, and the places of warnings are those of verdicts. -/
theorem lockStep_of_unworded {files : List WorkflowFile} {vs vs' : List Verdict} (t : Session)
    (h : vs.map Verdict.unworded = vs'.map Verdict.unworded) :
    LockStep ((⟨(editsOf vs).length, countDirty (applyEdits files (editsOf vs)), warningsOf vs⟩,
        applyEdits files (editsOf vs)), t)
      ((.ok (updateReport (inScope settings .everything files) vs'
        (applyEdits files (editsOf vs'))), applyEdits files (editsOf vs')), t) := by
  have hedits : editsOf vs = editsOf vs' := by
    rw [← editsOf_unworded vs, h, editsOf_unworded]
  have hplaces : (warningsOf vs).map Warning.place = (warningsOf vs').map Warning.place := by
    rw [← place_warningsOf_unworded vs, h, place_warningsOf_unworded]
  rw [hedits]
  exact ⟨⟨_, rfl, rfl, rfl, hplaces⟩, rfl, rfl⟩

/-- **Where every usage that is not ignored has a version in its comment, fixing and updating
everything do the same**, from any session: the one ends if the other does, they change the files in
the same way and count the same changes, and they warn about the same places.  The sessions in which
they end are the same too, so the same paths were fetched in the same order, and the same is
remembered. -/
theorem fix_and_update_in_lock_step {files : List WorkflowFile}
    (hversions : ∀ o ∈ inScope settings .everything files, (Comment.split o.usage.comment).1 ≠ [])
    (s : Session) :
    Option.Rel LockStep ((fix source settings files).run s)
      ((update source settings .everything files).run s) := by
  have hjudged : List.map Verdict.unworded <$>
        judgeAll (judgeFix source) (inScope settings .everything files) =
      List.map Verdict.unworded <$>
        judgeAll (judgeUpdate source) (inScope settings .everything files) :=
    judgeAll_unworded fun o ho => judge_unworded (hversions o ho)
  have hverdicts := congrArg (StateT.run · s) hjudged
  simp only [StateT.run_map, Option.map_eq_map] at hverdicts
  have hreferenced : Referenced settings .everything files := nofun
  rw [update_of_referenced hreferenced, fix, StateT.run_bind, StateT.run_bind]
  cases hfix : (judgeAll (judgeFix source) (inScope settings .everything files)).run s with
  | none =>
    rw [hfix, Option.map_none, eq_comm, Option.map_eq_none_iff] at hverdicts
    rw [hverdicts]
    exact .none
  | some p =>
    rw [hfix, Option.map_some, eq_comm, Option.map_eq_some_iff] at hverdicts
    obtain ⟨p', hupdate, hsame⟩ := hverdicts
    obtain ⟨vs, t⟩ := p
    obtain ⟨vs', t'⟩ := p'
    obtain ⟨hvs, rfl⟩ := Prod.mk.inj hsame
    rw [hupdate]
    exact .some (lockStep_of_unworded t' hvs.symm)

/-- A usage that moves to the commit of its version, one whose version is unknown, and one that is
without a version. -/
def versionedContents : List (Bytes × Text) := [(Utf8.bytes "ci.yml",
  "- uses: o/r@main # v1.0.0 (old)\n- uses: O/r/c@v2 # v2.0.0\n- uses: x/y@v1\n".toList)]

/-- The settings that leave the last of them alone. -/
def leavingAlone : Settings := ⟨[], 30, ["x/y".toList]⟩

theorem fix_and_update_in_lock_step_of_versionedContents :
    (∀ o ∈ inScope leavingAlone .everything (load versionedContents),
      (Comment.split o.usage.comment).1 ≠ []) ∧
    ((fix onlyExact leavingAlone (load versionedContents)).run .empty).map (fun p => p.1.1) = some
      ⟨1, 1, [⟨Utf8.bytes "ci.yml", 2, ("unable to resolve O/r/c version v2.0.0: " ++
        "no release found for O/r with tag v2.0.0").toList⟩]⟩ ∧
    Option.Rel LockStep ((fix onlyExact leavingAlone (load versionedContents)).run .empty)
      ((update onlyExact leavingAlone .everything (load versionedContents)).run .empty) := by
  have hversions : ∀ o ∈ inScope leavingAlone .everything (load versionedContents),
      (Comment.split o.usage.comment).1 ≠ [] := by decide +kernel
  exact ⟨hversions, by decide +kernel, fix_and_update_in_lock_step hversions .empty⟩

end Pinning

end PinnedActions
