import PinnedActions.Proofs.Pinning.Runs

/-!
# Fixing what was fixed

A second run of `fix`, over what the first run left on disk, finds nothing to edit and gives the same
warnings (`fix_after_fix`).

* The version that a run goes by is the same both times: where there was no comment, the first run
  wrote the reference as the comment, and the second run reads it from there (`basis_repinned`).
* So both runs ask the same questions in the same order, and from the same memory they get the same
  answers (`Judges.again`): not only the report but the whole session of the second run is that of
  the first.
-/

set_option autoImplicit false

namespace PinnedActions

namespace Pinning

open Resolver Walk

variable {source : Source} {settings : Settings} {s t : Session}

/-! ## One usage -/

/-- The verdict on an occurrence once its version was looked up. -/
def settled (o : Occurrence) (version remark : Text) (unresolved : Failure → Text) :
    Except Failure Resolution → Verdict
  | .error f => .warned (warn o (unresolved f))
  | .ok r => .resolved version r (editFor o r.commit (Comment.join version remark))

theorem run_settle (o : Occurrence) (version remark : Text) (unresolved : Failure → Text) :
    (settle source o version remark unresolved).run s =
      ((resolveSpec source o.usage.action.owner o.usage.action.repo version).runFrom s).map
        fun p => (settled o version remark unresolved p.1, p.2) := by
  rw [settle, StateT.run_bind, Option.map_eq_bind]
  congr 1
  funext p
  obtain ⟨result, t⟩ := p
  cases result <;> rfl

/-- What was written for a version is what a fix goes by from then on. -/
theorem basis_repinned (u : Usage) {version : Text} (hne : version ≠ [])
    (hword : version.NoBlanks) (reference remark : Text) :
    basis (u.repinned reference (Comment.join version remark)) =
      some (version, Text.trim remark) := by
  have hsplit : Comment.split (u.repinned reference (Comment.join version remark)).comment =
      (version, Text.trim remark) := Comment.split_join hne hword
  rw [basis, hsplit, if_pos hne]

/-- A usage agrees with what was written for it. -/
theorem agrees_repinned (u : Usage) {commit : Text} (hhash : Version.isFullHash commit = true)
    (comment : Text) : agrees (u.repinned commit comment) commit comment = true := by
  have hcomment : Text.sameIgnoringCase comment comment = true := Text.sameIgnoringCase_iff.2 rfl
  exact Bool.and_eq_true_iff.2 ⟨Version.sameIgnoringCase_lowercase hhash, hcomment⟩

/-- **A version that resolved is gone by again**, and there is no edit left to make. -/
theorem exists_basis_carriedOut {o : Occurrence} (hu : Fixable o.usage) {version remark : Text}
    {r : Resolution} (hbasis : basis o.usage = some (version, remark))
    (hhash : Version.isFullHash r.commit = true) {o' : Occurrence}
    (ho' : o' = carriedOut o
      (.resolved version r (editFor o r.commit (Comment.join version remark)))) :
    o'.usage.action = o.usage.action ∧
    ∃ remark', basis o'.usage = some (version, remark') ∧
      editFor o' r.commit (Comment.join version remark') = none := by
  cases hedit : editFor o r.commit (Comment.join version remark) with
  | none =>
    rw [hedit, carriedOut_of_none rfl] at ho'
    subst ho'
    exact ⟨rfl, remark, hbasis, hedit⟩
  | some e =>
    obtain ⟨hne, hword, -⟩ := basis_spec hu hbasis
    obtain ⟨-, rfl⟩ := editFor_eq_some.1 hedit
    rw [hedit] at ho'
    subst ho'
    refine ⟨rfl, Text.trim remark, basis_repinned o.usage hne hword _ remark,
      editFor_eq_none.2 ?_⟩
    rw [Comment.join_trim]
    exact agrees_repinned o.usage hhash _

/-- **A usage that was judged is judged alike again**, in the session that it was judged in: there is
no edit any more, and the same warning. -/
theorem Judges.again {o : Occurrence} {v : Verdict} (h : Judges source o s v t)
    (hhex : source.catalog.HexCommits) (hu : Fixable o.usage)
    (hs : s.CommitsAre fun c => Version.isFullHash c = true) :
    ∃ v', (judgeFix source (carriedOut o v)).run s = some (v', t) ∧
      v'.edit? = none ∧ v'.warning? = v.warning? := by
  cases h with
  | pass hbasis =>
    rw [carriedOut_of_none rfl, judgeFix_of_none hbasis]
    exact ⟨.pass, rfl, rfl, rfl⟩
  | warned hbasis hrun =>
    rw [carriedOut_of_none rfl, judgeFix_of_some hbasis, run_settle, hrun]
    exact ⟨_, rfl, rfl, rfl⟩
  | @resolved version remark r t hbasis hrun =>
    have hhash := (resolveSpec_ensures (supplies_isFullHash hhex) version s _ t hs hrun).2 r rfl
    generalize ho' : carriedOut o _ = o'
    obtain ⟨haction, remark', hbasis', hedit⟩ := exists_basis_carriedOut hu hbasis hhash ho'.symm
    rw [judgeFix_of_some hbasis', run_settle, haction, hrun]
    exact ⟨_, rfl, hedit, rfl⟩

/-! ## All usages -/

/-- Several usages that were judged are judged alike again. -/
theorem judgeAll_again {os : List Occurrence} (hhex : source.catalog.HexCommits)
    (hos : ∀ o ∈ os, Fixable o.usage) {vs : List Verdict}
    (hs : s.CommitsAre fun c => Version.isFullHash c = true)
    (h : (judgeAll (judgeFix source) os).run s = some (vs, t)) :
    ∃ vs', (judgeAll (judgeFix source) (List.zipWith carriedOut os vs)).run s = some (vs', t) ∧
      editsOf vs' = [] ∧ warningsOf vs' = warningsOf vs := by
  induction os generalizing s vs with
  | nil =>
    cases h
    exact ⟨[], rfl, rfl, rfl⟩
  | cons o rest ih =>
    obtain ⟨v, u, h1, h⟩ := Sure.run_bind_eq_some h
    obtain ⟨others, w, h2, h⟩ := Sure.run_bind_eq_some h
    cases h
    have hjudges := judges_of_run h1
    have ho := hos o List.mem_cons_self
    obtain ⟨v', h1', hedit, hwarning⟩ := hjudges.again hhex ho hs
    obtain ⟨others', h2', hedits, hwarnings⟩ := ih
      (fun o' ho' => hos o' (List.mem_cons_of_mem o ho')) (hjudges.editsWell hhex ho hs).2 h2
    refine ⟨v' :: others', ?_, ?_, ?_⟩
    · rw [List.zipWith_cons_cons, judgeAll, Sure.run_bind_of_eq_some h1',
        Sure.run_bind_of_eq_some h2']
      rfl
    · rw [editsOf, List.filterMap_cons_none hedit, ← editsOf, hedits]
    · rw [warningsOf, warningsOf, List.filterMap_cons, List.filterMap_cons, hwarning,
        ← warningsOf, ← warningsOf, hwarnings]

/-! ## All files -/

theorem judgeFix_respaced (o : Occurrence) : judgeFix source o.respaced = judgeFix source o := rfl

theorem judgeAll_map_respaced (os : List Occurrence) :
    judgeAll (judgeFix source) (os.map Occurrence.respaced) = judgeAll (judgeFix source) os := by
  induction os with
  | nil => rfl
  | cons o rest ih => rw [List.map_cons, judgeAll, judgeAll, ih, judgeFix_respaced]

/-- A fix cannot tell the usages of files from what is read again of them. -/
theorem judgeAll_reload {contents : List (Bytes × Text)} {files : List WorkflowFile}
    (h : List.Forall₂ Tracks contents files) (settings : Settings) (target : Target) :
    judgeAll (judgeFix source) (inScope settings target (reload contents files)) =
      judgeAll (judgeFix source) (inScope settings target files) := by
  rw [← judgeAll_map_respaced, inScope_map_respaced, occurrences_reload h, ← inScope_map_respaced,
    judgeAll_map_respaced]

theorem isDirty_of_mem_load {contents : List (Bytes × Text)} {f : WorkflowFile}
    (h : f ∈ load contents) : f.isDirty = false := by
  obtain ⟨p, -, rfl⟩ := List.mem_map.1 h
  rfl

/-- A fix that finds nothing to edit leaves files that were just read as they are. -/
theorem run_fix_of_no_edits {contents : List (Bytes × Text)} {vs : List Verdict}
    (h : (judgeAll (judgeFix source) (inScope settings .everything (load contents))).run s =
      some (vs, t)) (hedits : editsOf vs = []) :
    (fix source settings (load contents)).run s =
      some ((⟨0, 0, warningsOf vs⟩, load contents), t) := by
  have hclean : countDirty (load contents) = 0 := List.countP_eq_zero.2 fun f hf => by
    rw [isDirty_of_mem_load hf]
    exact Bool.false_ne_true
  have hrun : (fix source settings (load contents)).run s =
      some ((⟨0, countDirty (load contents), warningsOf vs⟩, load contents), t) := by
    rw [fix, Sure.run_bind_of_eq_some h, hedits]
    rfl
  rw [hrun, hclean]

/-- **Fixing twice is fixing once.**  Some files are read, fixed, saved, read again, and fixed again.
The second run updates no usage and changes no file, and it gives the warnings of the first run: the
same messages about the same places. -/
theorem fix_after_fix {contents : List (Bytes × Text)} (hhex : source.catalog.HexCommits)
    (hreference : ∀ f ∈ load contents, ∀ u ∈ f.usages, u.reference.NoBlanks)
    (hquotes : ∀ f ∈ load contents, ∀ u ∈ f.usages, Text.NoQuotes u.action.fullPath)
    {report : FixReport} {files : List WorkflowFile}
    (h : (fix source settings (load contents)).run .empty = some ((report, files), s)) :
    (fix source settings (reload contents files)).run .empty =
        some ((⟨0, 0, report.warnings⟩, reload contents files), s) ∧
      ∀ f ∈ reload contents files, f.isDirty = false := by
  obtain ⟨vs, u, hjudge, h⟩ := Sure.run_bind_eq_some h
  cases h
  have hfixable := allFixable_of_follows (follows_load hreference hquotes)
  have hos : ∀ o ∈ inScope settings .everything (load contents), Fixable o.usage :=
    fun o ho => hfixable.of_mem_inScope ho
  have hwell := editsWell_of_judgeAll hhex hos Session.commitsAre_empty hjudge
  have htracks : List.Forall₂ Tracks contents (applyEdits (load contents) (editsOf vs)) :=
    tracks_applyEdits (tracks_load hquotes) fun e he => by
      obtain ⟨o, -, -, hwritable⟩ := exists_of_mem_editsOf hwell he
      exact hwritable
  have hnodup := nodup_place_inScope settings .everything (load contents)
  obtain ⟨vs', hagain, hedits, hwarnings⟩ :=
    judgeAll_again hhex hos Session.commitsAre_empty hjudge
  refine ⟨?_, fun f => isDirty_of_mem_load⟩
  rw [← map_edited_editsOf hwell hnodup, ← inScope_applyEdits, ← judgeAll_reload htracks] at hagain
  rw [← hwarnings]
  exact run_fix_of_no_edits hagain hedits

theorem fix_after_fix_of_mixedContents :
    ((fix onlyExact .default (load mixedContents)).run .empty).map Prod.fst =
      some (mixedReport, mixedFixed) ∧
    ∃ s, (fix onlyExact .default (reload mixedContents mixedFixed)).run .empty =
        some ((⟨0, 0, mixedReport.warnings⟩, reload mixedContents mixedFixed), s) ∧
      ∀ f ∈ reload mixedContents mixedFixed, f.isDirty = false :=
  have hrun : ((fix onlyExact .default (load mixedContents)).run .empty).map Prod.fst =
      some (mixedReport, mixedFixed) := by decide +kernel
  have ⟨⟨_, s⟩, h, rfl⟩ := Option.map_eq_some_iff.1 hrun
  ⟨hrun, s, fix_after_fix (Catalog.hexCommits_ofEnding _ (by decide)) (by decide +kernel)
    (by decide +kernel) h⟩

end Pinning

end PinnedActions
