import PinnedActions.Pinning.Update
import PinnedActions.Proofs.Pinning.Edit
import PinnedActions.Proofs.Resolver.Walk

/-!
# Verdicts and what becomes of them

`fix` and `update` come to a verdict on one usage after the other, and then carry out the edits among
the verdicts.  What a run makes of a usage it therefore says in the verdict, and there are few ways
to come to one (`SettleRun`).

* `forall₂_of_judgeAll` lifts what is true of each verdict to all of them.
* `fix_run` and `updateRun_of_run` say what a whole run is: verdicts on what is in scope, and their
  edits.
* `isAbout_of_fix` and `isAbout_of_update` say what warnings are about: lines with a usage on them.
-/

set_option autoImplicit false

namespace PinnedActions

namespace Pinning

open Resolver Walk

variable {source : Source} {settings : Settings} {target : Target}
  {files files' : List WorkflowFile} {s t : Session}

/-! ## One usage -/

/-- What a run can do that settles a usage on a version: the version does not resolve, or it
does. -/
inductive SettleRun (source : Source) (o : Occurrence) (version remark : Text)
    (unresolved : Failure → Text) (s : Session) : Verdict → Session → Prop where
  | warned {f : Failure} {t : Session}
      (hrun : (resolveSpec source o.usage.action.owner o.usage.action.repo version).runFrom s =
        some (.error f, t)) :
      SettleRun source o version remark unresolved s (.warned (warn o (unresolved f))) t
  | resolved {r : Resolution} {t : Session}
      (hrun : (resolveSpec source o.usage.action.owner o.usage.action.repo version).runFrom s =
        some (.ok r, t)) :
      SettleRun source o version remark unresolved s
        (.resolved version r (editFor o r.commit (Comment.join version remark))) t

theorem settleRun_of_run {o : Occurrence} {version remark : Text} {unresolved : Failure → Text}
    {v : Verdict} (h : (settle source o version remark unresolved).run s = some (v, t)) :
    SettleRun source o version remark unresolved s v t := by
  obtain ⟨result, u, hrun, h⟩ := Sure.run_bind_eq_some h
  cases result with
  | error f =>
    cases h
    exact .warned hrun
  | ok r =>
    cases h
    exact .resolved hrun

/-- Whether a verdict has no edit but one for an occurrence. -/
def IsFor (o : Occurrence) (v : Verdict) : Prop := ∀ e, v.edit? = some e → e.place = o.place

theorem SettleRun.isFor {o : Occurrence} {version remark : Text} {unresolved : Failure → Text}
    {v : Verdict} (h : SettleRun source o version remark unresolved s v t) : IsFor o v := by
  intro e he
  cases h with
  | warned => cases he
  | resolved =>
    obtain ⟨-, rfl⟩ := editFor_eq_some.1 he
    rfl

theorem isFor_of_judgeFix {o : Occurrence} {v : Verdict}
    (h : (judgeFix source o).run s = some (v, t)) : IsFor o v := by
  rw [judgeFix] at h
  simp only at h
  split at h
  · exact (settleRun_of_run h).isFor
  · split at h
    · cases h
      exact nofun
    · exact (settleRun_of_run h).isFor

/-- All that an update can make of a usage: its comment has no version, or it is settled on the
version in its comment. -/
inductive JudgesUpdate (source : Source) (o : Occurrence) (s : Session) :
    Verdict → Session → Prop where
  | unversioned (h : (Comment.split o.usage.comment).1 = []) :
      JudgesUpdate source o s (.warned (warn o (unversionedMessage o.usage))) s
  | settled {v : Verdict} {t : Session}
      (h : SettleRun source o (Comment.split o.usage.comment).1 (Comment.split o.usage.comment).2
        (unresolvableMessage o.usage (Comment.split o.usage.comment).1) s v t) :
      JudgesUpdate source o s v t

theorem judgesUpdate_of_run {o : Occurrence} {v : Verdict}
    (h : (judgeUpdate source o).run s = some (v, t)) : JudgesUpdate source o s v t := by
  rw [judgeUpdate] at h
  simp only at h
  split at h
  · rename_i hempty
    cases h
    exact .unversioned (List.isEmpty_iff.1 hempty)
  · exact .settled (settleRun_of_run h)

theorem isFor_of_judgeUpdate {o : Occurrence} {v : Verdict}
    (h : (judgeUpdate source o).run s = some (v, t)) : IsFor o v := by
  cases judgesUpdate_of_run h with
  | unversioned => exact nofun
  | settled h => exact h.isFor

/-! ## All usages -/

/-- What is true of each verdict, as long as the session has an invariant, is true of all. -/
theorem forall₂_of_judgeAll {judge : Occurrence → Sure Verdict} {I : Session → Prop}
    {P : Occurrence → Verdict → Prop} {os : List Occurrence}
    (hjudge : ∀ o ∈ os, ∀ s v t, I s → (judge o).run s = some (v, t) → P o v ∧ I t) (hs : I s)
    {vs : List Verdict} (h : (judgeAll judge os).run s = some (vs, t)) :
    List.Forall₂ P os vs := by
  induction os generalizing s vs with
  | nil =>
    cases h
    exact .nil
  | cons o rest ih =>
    obtain ⟨v, u, h1, h⟩ := Sure.run_bind_eq_some h
    obtain ⟨others, w, h2, h⟩ := Sure.run_bind_eq_some h
    cases h
    obtain ⟨hv, hu⟩ := hjudge o List.mem_cons_self s v u hs h1
    exact .cons hv (ih (fun o' ho' => hjudge o' (List.mem_cons_of_mem o ho')) hu h2)

/-- What is picked from verdicts is picked from the verdict on some occurrence. -/
theorem exists_verdict_of_mem_filterMap {γ : Type} {pick : Verdict → Option γ}
    {P : Occurrence → Verdict → Prop} {os : List Occurrence} {vs : List Verdict}
    (h : List.Forall₂ P os vs) {c : γ} (hc : c ∈ vs.filterMap pick) :
    ∃ o ∈ os, ∃ v, P o v ∧ pick v = some c := by
  induction h with
  | nil => cases hc
  | @cons o v os vs hv _ ih =>
    obtain ⟨v', hv', hc'⟩ := List.mem_filterMap.1 hc
    rcases List.mem_cons.1 hv' with rfl | hv'
    · exact ⟨o, List.mem_cons_self, v', hv, hc'⟩
    · obtain ⟨o', ho', h⟩ := ih (List.mem_filterMap.2 ⟨v', hv', hc'⟩)
      exact ⟨o', List.mem_cons_of_mem o ho', h⟩

theorem isFor_of_judgeAll {judge : Occurrence → Sure Verdict}
    (hjudge : ∀ o s v t, (judge o).run s = some (v, t) → IsFor o v) {os : List Occurrence}
    {vs : List Verdict} (h : (judgeAll judge os).run s = some (vs, t)) :
    List.Forall₂ IsFor os vs :=
  forall₂_of_judgeAll (I := fun _ => True) (fun o _ s v t _ h => ⟨hjudge o s v t h, trivial⟩)
    trivial h

/-- The edits among verdicts are for the occurrences that were judged. -/
theorem exists_place_of_judgeAll {judge : Occurrence → Sure Verdict}
    (hjudge : ∀ o s v t, (judge o).run s = some (v, t) → IsFor o v) {os : List Occurrence}
    {vs : List Verdict} (h : (judgeAll judge os).run s = some (vs, t)) :
    ∀ e ∈ editsOf vs, ∃ o ∈ os, e.place = o.place := by
  intro e he
  obtain ⟨o, ho, v, hv, hedit⟩ := exists_verdict_of_mem_filterMap (isFor_of_judgeAll hjudge h) he
  exact ⟨o, ho, hv e hedit⟩

/-! ## Whole runs -/

theorem fix_run {report : FixReport}
    (h : (fix source settings files).run s = some ((report, files'), t)) :
    ∃ vs, (judgeAll (judgeFix source) (inScope settings .everything files)).run s = some (vs, t) ∧
      files' = applyEdits files (editsOf vs) := by
  obtain ⟨vs, u, hrun, h⟩ := Sure.run_bind_eq_some h
  cases h
  exact ⟨vs, hrun, rfl⟩

/-- What an update reports. -/
def updateReport (scope : List Occurrence) (verdicts : List Verdict) (files : List WorkflowFile) :
    UpdateReport where
  records := ((scope.zip verdicts).foldl addRecord []).map Prod.snd
  updated := (editsOf verdicts).length
  filesChanged := countDirty files
  warnings := warningsOf verdicts

theorem update_of_not_referenced {key : Text}
    (h : inScope settings (.repository key) files = []) :
    update source settings (.repository key) files =
      pure (.error (.repositoryNotReferenced key), files) := by
  rw [update, h]
  rfl

theorem update_of_referenced (h : Referenced settings target files) :
    update source settings target files = do
      let verdicts ← judgeAll (judgeUpdate source) (inScope settings target files)
      let after := applyEdits files (editsOf verdicts)
      return (.ok (updateReport (inScope settings target files) verdicts after), after) := by
  rw [update]
  refine bind_congr fun verdicts => ?_
  simp only
  split
  · rename_i key hempty
    exact absurd hempty (h key rfl)
  · rfl

/-- All that a run of `update` can be: it complains that nothing is in scope, or it carries out its
verdicts. -/
inductive UpdateRun (source : Source) (settings : Settings) (target : Target)
    (files : List WorkflowFile) (s : Session) :
    Except Failure UpdateReport → List WorkflowFile → Session → Prop where
  | refused {key : Text} (htarget : target = .repository key)
      (hempty : inScope settings (.repository key) files = []) :
      UpdateRun source settings target files s (.error (.repositoryNotReferenced key)) files s
  | judged {vs : List Verdict} {t : Session} (hreferenced : Referenced settings target files)
      (hrun : (judgeAll (judgeUpdate source) (inScope settings target files)).run s =
        some (vs, t)) :
      UpdateRun source settings target files s
        (.ok (updateReport (inScope settings target files) vs (applyEdits files (editsOf vs))))
        (applyEdits files (editsOf vs)) t

theorem updateRun_of_run {report : Except Failure UpdateReport}
    (h : (update source settings target files).run s = some ((report, files'), t)) :
    UpdateRun source settings target files s report files' t := by
  by_cases hreferenced : Referenced settings target files
  · rw [update_of_referenced hreferenced] at h
    obtain ⟨vs, u, hrun, h⟩ := Sure.run_bind_eq_some h
    cases h
    exact .judged hreferenced hrun
  · obtain ⟨key, rfl, hempty⟩ := exists_of_not_referenced hreferenced
    rw [update_of_not_referenced hempty] at h
    cases h
    exact .refused rfl hempty

/-! ## Warnings -/

/-- Whether a warning is about a line of a file with a usage on it. -/
def IsAbout (w : Warning) (files : List WorkflowFile) : Prop :=
  ∃ f ∈ files, ∃ u ∈ f.usages, w.path = f.path ∧ w.line = u.lineNumber

/-- Whether a verdict has no warning but one about an occurrence. -/
def WarnsOf (o : Occurrence) (v : Verdict) : Prop :=
  ∀ w, v.warning? = some w → w.path = o.path ∧ w.line = o.usage.lineNumber

theorem warnsOf_warned (o : Occurrence) (message : Text) :
    WarnsOf o (.warned (warn o message)) := by
  intro w hw
  cases hw
  exact ⟨rfl, rfl⟩

theorem SettleRun.warnsOf {o : Occurrence} {version remark : Text} {unresolved : Failure → Text}
    {v : Verdict} (h : SettleRun source o version remark unresolved s v t) : WarnsOf o v := by
  cases h with
  | warned => exact warnsOf_warned o _
  | resolved => exact nofun

theorem warnsOf_of_judgeFix {o : Occurrence} {v : Verdict}
    (h : (judgeFix source o).run s = some (v, t)) : WarnsOf o v := by
  rw [judgeFix] at h
  simp only at h
  split at h
  · exact (settleRun_of_run h).warnsOf
  · split at h
    · cases h
      exact nofun
    · exact (settleRun_of_run h).warnsOf

theorem warnsOf_of_judgeUpdate {o : Occurrence} {v : Verdict}
    (h : (judgeUpdate source o).run s = some (v, t)) : WarnsOf o v := by
  cases judgesUpdate_of_run h with
  | unversioned => exact warnsOf_warned o _
  | settled h => exact h.warnsOf

/-- The warnings among verdicts on what is in scope are about usages of the files. -/
theorem isAbout_of_judgeAll {judge : Occurrence → Sure Verdict}
    (hjudge : ∀ o s v t, (judge o).run s = some (v, t) → WarnsOf o v) {vs : List Verdict}
    (h : (judgeAll judge (inScope settings target files)).run s = some (vs, t)) {w : Warning}
    (hw : w ∈ warningsOf vs) : IsAbout w files := by
  have hwarns : List.Forall₂ WarnsOf (inScope settings target files) vs :=
    forall₂_of_judgeAll (I := fun _ => True) (fun o _ s v t _ h => ⟨hjudge o s v t h, trivial⟩)
      trivial h
  obtain ⟨o, ho, v, hv, hwarning⟩ := exists_verdict_of_mem_filterMap hwarns hw
  obtain ⟨⟨f, hf, hpath, husage⟩, -⟩ := mem_inScope.1 ho
  obtain ⟨hwpath, hwline⟩ := hv w hwarning
  exact ⟨f, List.mem_of_getElem? hf, o.usage, List.mem_of_getElem? husage, hwpath.trans hpath,
    hwline⟩

/-- **The warnings of a fix are about usages of the files.** -/
theorem isAbout_of_fix {report : FixReport}
    (h : (fix source settings files).run s = some ((report, files'), t)) {w : Warning}
    (hw : w ∈ report.warnings) : IsAbout w files := by
  obtain ⟨vs, u, hrun, h⟩ := Sure.run_bind_eq_some h
  cases h
  exact isAbout_of_judgeAll (fun _ _ _ _ => warnsOf_of_judgeFix) hrun hw

/-- **The warnings of an update are about usages of the files.** -/
theorem isAbout_of_update {report : UpdateReport}
    (h : (update source settings target files).run s = some ((.ok report, files'), t)) {w : Warning}
    (hw : w ∈ report.warnings) : IsAbout w files := by
  cases updateRun_of_run h with
  | judged _ hrun => exact isAbout_of_judgeAll (fun _ _ _ _ => warnsOf_of_judgeUpdate) hrun hw

end Pinning

end PinnedActions
