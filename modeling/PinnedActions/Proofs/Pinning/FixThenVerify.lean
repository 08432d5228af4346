import PinnedActions.Proofs.Pinning.Fix
import PinnedActions.Proofs.Pinning.Verify
import PinnedActions.Proofs.Resolver.Replay

/-!
# Checking what was fixed

After `fix` has gone over some files and they are saved, `verify` finds nothing wrong with them but
what `fix` said it could not do, and usages that are pinned and have no version to go by
(`verify_after_fix`).

The two runs do not ask the same questions, as a usage that `fix` could not resolve may not be asked
about a second time.  But a spec that does not resolve leaves nothing behind, so after each usage
they remember the same, and a version that `fix` wrote the commit of resolves to it again
(`check_of_judges`).
-/

set_option autoImplicit false

namespace PinnedActions

namespace Pinning

open Resolver Walk

variable {source : Source} {s s' t : Session}

/-- Whether a usage is pinned and has no version. -/
def Versionless (u : Usage) : Prop :=
  Version.isFullHash u.reference = true ∧ (Comment.split u.comment).1 = []

/-- Why an issue may be left with an occurrence after a fix that came to a verdict on it: there is a
warning, or there was nothing to go by. -/
def Explained (o : Occurrence) (v : Verdict) (issue : Issue) : Prop :=
  issue.path = o.path ∧ issue.line = o.usage.lineNumber ∧
    ((∃ w, v.warning? = some w ∧ w.path = o.path ∧ w.line = o.usage.lineNumber) ∨
      issue.kind = .missingVersion ∧ Versionless o.usage)

/-! ## One usage -/

theorem versionless_of_basis {u : Usage} (h : basis u = none) : Versionless u := by
  rw [basis] at h
  split at h
  · cases h
  · rename_i hversion
    split at h
    · rename_i hhash
      exact ⟨hhash, not_not.1 hversion⟩
    · cases h

/-- A usage that is pinned has the version that a fix goes by in its comment. -/
theorem split_fst_of_basis {u : Usage} {version remark : Text}
    (h : basis u = some (version, remark)) (hhash : Version.isFullHash u.reference = true) :
    (Comment.split u.comment).1 = version := by
  rw [basis, if_pos hhash] at h
  split at h
  · rw [Option.some_inj.1 h]
  · cases h

/-- A usage that is pinned to the commit of its version passes. -/
theorem run_check_of_pinned {o : Occurrence} {r : Resolution}
    (hhash : Version.isFullHash o.usage.reference = true)
    (hversion : (Comment.split o.usage.comment).1 ≠ [])
    (hsame : Text.sameIgnoringCase r.commit o.usage.reference = true)
    (hrun : (resolveSpec source o.usage.action.owner o.usage.action.repo
      (Comment.split o.usage.comment).1).runFrom s = some (.ok r, t)) :
    (check source o).run s = some (none, t) := by
  rw [run_check_of_version hhash hversion, hrun, Option.map_some, compared, if_pos hsame]

theorem carriedOut_of_none {o : Occurrence} {v : Verdict} (h : v.edit? = none) :
    carriedOut o v = o := by
  rw [carriedOut, h]

/-- **A version that a fix went by resolves again** to the commit that the usage has then. -/
theorem run_check_of_resolved {o : Occurrence} (hu : Fixable o.usage) {version remark : Text}
    {r : Resolution} (hbasis : basis o.usage = some (version, remark))
    (hhash : Version.isFullHash r.commit = true)
    (hrun : (resolveSpec source o.usage.action.owner o.usage.action.repo version).runFrom s =
      some (.ok r, t)) :
    (check source (carriedOut o
      (.resolved version r (editFor o r.commit (Comment.join version remark))))).run s =
        some (none, t) := by
  obtain ⟨hne, hword, -⟩ := basis_spec hu hbasis
  cases hedit : editFor o r.commit (Comment.join version remark) with
  | some e =>
    obtain ⟨-, rfl⟩ := editFor_eq_some.1 hedit
    have hsplit : (Comment.split (Comment.join version remark)).1 = version := by
      rw [Comment.split_join hne hword]
    refine run_check_of_pinned (Version.isFullHash_lowercase hhash) ?_
      (Version.sameIgnoringCase_lowercase hhash) ?_
    · exact hsplit.symm ▸ hne
    · exact hsplit.symm ▸ hrun
  | none =>
    have hagrees := editFor_eq_none.1 hedit
    rw [agrees, Bool.and_eq_true] at hagrees
    have hpinned : Version.isFullHash o.usage.reference = true :=
      (Version.isFullHash_congr hagrees.1).symm.trans hhash
    have hversion := split_fst_of_basis hbasis hpinned
    rw [carriedOut_of_none rfl]
    refine run_check_of_pinned hpinned ?_ hagrees.1 ?_
    · rwa [hversion]
    · rwa [hversion]

/-- A check comes to an end where the version that a fix goes by was looked up. -/
theorem exists_run_check {o : Occurrence} {version remark : Text} {r : Except Failure Resolution}
    (hbasis : basis o.usage = some (version, remark)) (hmem : t.SameMemory s)
    (hrun : (resolveSpec source o.usage.action.owner o.usage.action.repo version).runFrom s =
      some (r, s')) (hmem' : t.SameMemory s') :
    ∃ issue t', (check source o).run s = some (issue, t') ∧ t.SameMemory t' := by
  cases hhash : Version.isFullHash o.usage.reference with
  | false =>
    rw [check_of_not_pinned hhash]
    exact ⟨_, s, rfl, hmem⟩
  | true =>
    have hversion := split_fst_of_basis hbasis hhash
    by_cases hempty : (Comment.split o.usage.comment).1 = []
    · rw [check_of_no_version hhash hempty]
      exact ⟨_, s, rfl, hmem⟩
    · rw [run_check_of_version hhash hempty, hversion, hrun]
      exact ⟨_, s', rfl, hmem'⟩

/-- **A check after a fix** comes to an end where the fix did, remembers what the fix remembered,
and finds nothing that is not explained. -/
theorem check_of_judges {o : Occurrence} {v : Verdict} (h : Judges source o s v t)
    (hhex : source.catalog.HexCommits) (hu : Fixable o.usage)
    (hs : s.CommitsAre fun c => Version.isFullHash c = true) (hmem : s.SameMemory s') :
    ∃ issue t', (check source (carriedOut o v)).run s' = some (issue, t') ∧ t.SameMemory t' ∧
      ∀ i, issue = some i → Explained o v i := by
  cases h with
  | pass hbasis =>
    obtain ⟨hhash, hversion⟩ := versionless_of_basis hbasis
    rw [carriedOut_of_none rfl, check_of_no_version hhash hversion]
    refine ⟨_, s', rfl, hmem, fun i hi => ?_⟩
    cases hi
    exact ⟨rfl, rfl, .inr ⟨rfl, hhash, hversion⟩⟩
  | warned hbasis hrun =>
    obtain ⟨u, hrun', hu'⟩ := exists_runFrom_resolveSpec hrun hmem
    have ht := (sameMemory_of_resolveSpec hrun).symm.trans hmem
    obtain ⟨issue, t', hcheck, ht'⟩ := exists_run_check hbasis ht hrun' hu'
    rw [carriedOut_of_none rfl]
    refine ⟨issue, t', hcheck, ht', fun i hi => ?_⟩
    obtain ⟨hpath, hline⟩ := (checks_of_run hcheck).place hi
    exact ⟨hpath, hline, .inl ⟨_, rfl, rfl, rfl⟩⟩
  | @resolved version remark r t hbasis hrun =>
    obtain ⟨t', hrun', ht'⟩ := exists_runFrom_resolveSpec hrun hmem
    have hhash := (resolveSpec_ensures (supplies_isFullHash hhex) version s _ t hs hrun).2 r rfl
    exact ⟨none, t', run_check_of_resolved hu hbasis hhash hrun', ht', nofun⟩

/-! ## All usages -/

theorem checkAll_of_judgeAll {os : List Occurrence} (hhex : source.catalog.HexCommits)
    (hos : ∀ o ∈ os, Fixable o.usage) {vs : List Verdict}
    (hs : s.CommitsAre fun c => Version.isFullHash c = true) (hmem : s.SameMemory s')
    (h : (judgeAll (judgeFix source) os).run s = some (vs, t)) :
    ∃ issues t', (checkAll source (List.zipWith carriedOut os vs)).run s' = some (issues, t') ∧
      ∀ issue ∈ issues, ∃ p ∈ os.zip vs, Explained p.1 p.2 issue := by
  induction os generalizing s s' vs with
  | nil =>
    cases h
    exact ⟨[], s', rfl, nofun⟩
  | cons o rest ih =>
    obtain ⟨v, u, h1, h⟩ := Sure.run_bind_eq_some h
    obtain ⟨others, w, h2, h⟩ := Sure.run_bind_eq_some h
    cases h
    have hjudges := judges_of_run h1
    have ho := hos o List.mem_cons_self
    obtain ⟨issue, u', hcheck, hmem', hexplained⟩ := check_of_judges hjudges hhex ho hs hmem
    obtain ⟨issues, t', hrest, hall⟩ := ih (fun o' ho' => hos o' (List.mem_cons_of_mem o ho'))
      (hjudges.editsWell hhex ho hs).2 hmem' h2
    refine ⟨issue.toList ++ issues, t', ?_, fun i hi => ?_⟩
    · rw [List.zipWith_cons_cons, checkAll, Sure.run_bind_of_eq_some hcheck,
        Sure.run_bind_of_eq_some hrest]
      rfl
    · rw [List.zip_cons_cons]
      rcases List.mem_append.1 hi with hi | hi
      · exact ⟨(o, v), List.mem_cons_self, hexplained i (Option.mem_toList.1 hi)⟩
      · obtain ⟨p, hp, h⟩ := hall i hi
        exact ⟨p, List.mem_cons_of_mem _ hp, h⟩

/-! ## All files -/

/-- Usages that were just read can be fixed if there is no white space in their references. -/
theorem fixable_of_mem_load {contents : List (Bytes × Text)} {f : WorkflowFile}
    (hf : f ∈ load contents) {u : Usage} (hu : u ∈ f.usages)
    (hreference : u.reference.NoBlanks) :
    Fixable u ∧ Text.IsTrimmed u.comment := by
  obtain ⟨p, -, rfl⟩ := List.mem_map.1 hf
  obtain ⟨text, v, hv, hbreak, huv⟩ := WorkflowFile.exists_parse?_of_mem hu
  have hnonempty := Usage.reference_ne_nil_of_parse? hv
  have hline := Usage.oneLine_of_parse? hv hbreak
  have htrimmed := Usage.isTrimmed_comment_of_parse? hv
  rw [huv] at hreference ⊢
  exact ⟨⟨hnonempty, hreference, hline.comment⟩, htrimmed⟩

/-- **Fix, then verify.**  Some files are read, fixed, saved, and read again.  Then a check of them
comes to an end, and each issue that it finds is about a usage that was pinned and had no comment,
or stands where the fix gave a warning. -/
theorem verify_after_fix {settings : Settings} {contents : List (Bytes × Text)}
    (hhex : source.catalog.HexCommits)
    (hreference : ∀ f ∈ load contents, ∀ u ∈ f.usages, u.reference.NoBlanks)
    (hquotes : ∀ f ∈ load contents, ∀ u ∈ f.usages, Text.NoQuotes u.action.fullPath)
    {report : FixReport} {files : List WorkflowFile}
    (h : (fix source settings (load contents)).run .empty = some ((report, files), s)) :
    ∃ issues t, (verify source settings (reload contents files)).run .empty = some (issues, t) ∧
      ∀ issue ∈ issues,
        (issue.kind = .missingVersion ∧ ∃ f ∈ load contents, ∃ u ∈ f.usages,
          issue.path = f.path ∧ issue.line = u.lineNumber ∧
            Version.isFullHash u.reference = true ∧ u.comment = []) ∨
        ∃ w ∈ report.warnings, w.path = issue.path ∧ w.line = issue.line := by
  obtain ⟨verdicts, u, hjudge, h⟩ := Sure.run_bind_eq_some h
  cases h
  have hsub : List.Sublist (inScope settings .everything (load contents))
      (occurrences (load contents)) := List.filter_sublist
  have hfixable : ∀ o ∈ inScope settings .everything (load contents),
      Fixable o.usage ∧ Text.IsTrimmed o.usage.comment ∧
        ∃ f ∈ load contents, o.path = f.path ∧ o.usage ∈ f.usages := by
    intro o ho
    obtain ⟨f, hf, hpath, hu⟩ := mem_occurrences.1 (hsub.subset ho)
    have hf := List.mem_of_getElem? hf
    have hu := List.mem_of_getElem? hu
    obtain ⟨hfix, htrim⟩ := fixable_of_mem_load hf hu (hreference f hf _ hu)
    exact ⟨hfix, htrim, f, hf, hpath, hu⟩
  have hos : ∀ o ∈ inScope settings .everything (load contents), Fixable o.usage := fun o ho =>
    (hfixable o ho).1
  have hwell := editsWell_of_judgeAll hhex hos Session.commitsAre_empty hjudge
  have htracks : List.Forall₂ Tracks contents
      (applyEdits (load contents) (editsOf verdicts)) :=
    tracks_applyEdits (tracks_load hquotes) fun e he => by
      obtain ⟨o, -, -, hwritable⟩ := exists_of_mem_editsOf hwell he
      exact hwritable
  have hnodup := (nodup_place_occurrences (load contents)).sublist (hsub.map Occurrence.place)
  obtain ⟨issues, t, hcheck, hall⟩ :=
    checkAll_of_judgeAll hhex hos Session.commitsAre_empty (.refl _) hjudge
  refine ⟨issues.mergeSort issueLe, t, ?_, fun issue hissue => ?_⟩
  · rw [verify_reload htracks, verify, inScope_applyEdits, map_edited_editsOf hwell hnodup,
      Sure.run_bind_of_eq_some hcheck]
    rfl
  · obtain ⟨p, hp, hpath, hline, hwhy⟩ := hall issue (List.mem_mergeSort.1 hissue)
    obtain ⟨ho, hv⟩ := List.of_mem_zip hp
    rcases hwhy with ⟨w, hw, hwpath, hwline⟩ | ⟨hkind, hhash, hversion⟩
    · exact .inr ⟨w, List.mem_filterMap.2 ⟨p.2, hv, hw⟩, hwpath.trans hpath.symm,
        hwline.trans hline.symm⟩
    · obtain ⟨-, htrim, f, hf, hfile, hu⟩ := hfixable p.1 ho
      exact .inl ⟨hkind, f, hf, p.1.usage, hu, hpath.trans hfile, hline, hhash,
        Comment.eq_nil_of_split htrim hversion⟩

/-- A file with a usage that a fix pins, one that it cannot resolve, and one without a version. -/
def mixedContents : List (Bytes × Text) := [(Utf8.bytes "ci.yml",
  ("- uses:o/r@v1.0.0 # \n- uses: o/r@main\r\n" ++
    "- uses: o/r@aaaaaaaaaaaaaaaaaaaaaaaaaaaaaaaaaaaaaaaa").toList)]

/-- The file once it is fixed. -/
def mixedFixed : List WorkflowFile :=
  applyEdits (load mixedContents) [⟨0, 0, List.replicate 40 'a', "v1.0.0".toList⟩]

/-- What the fix has to report. -/
def mixedReport : FixReport where
  updated := 1
  filesChanged := 1
  warnings := [⟨Utf8.bytes "ci.yml", 2,
    "unable to resolve o/r version main: not found: repos/o/r/git/ref/tags/main".toList⟩]

theorem verify_after_fix_of_mixedContents :
    ((fix onlyExact .default (load mixedContents)).run .empty).map Prod.fst =
      some (mixedReport, mixedFixed) ∧
    ∃ issues t, (verify onlyExact .default (reload mixedContents mixedFixed)).run .empty =
        some (issues, t) ∧
      ∀ issue ∈ issues,
        (issue.kind = .missingVersion ∧ ∃ f ∈ load mixedContents, ∃ u ∈ f.usages,
          issue.path = f.path ∧ issue.line = u.lineNumber ∧
            Version.isFullHash u.reference = true ∧ u.comment = []) ∨
        ∃ w ∈ mixedReport.warnings, w.path = issue.path ∧ w.line = issue.line :=
  have hrun : ((fix onlyExact .default (load mixedContents)).run .empty).map Prod.fst =
      some (mixedReport, mixedFixed) := by decide +kernel
  have ⟨⟨_, _⟩, h, rfl⟩ := Option.map_eq_some_iff.1 hrun
  ⟨hrun, verify_after_fix (Catalog.hexCommits_ofEnding _ (by decide)) (by decide +kernel)
    (by decide +kernel) h⟩

end Pinning

end PinnedActions
