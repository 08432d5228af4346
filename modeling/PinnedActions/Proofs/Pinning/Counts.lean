import PinnedActions.Proofs.Pinning.Revision
import PinnedActions.Proofs.Pinning.FixTwice
import PinnedActions.Proofs.Pinning.Settled
import PinnedActions.Proofs.Pinning.UpgradeThenVerify
import PinnedActions.Proofs.Resolver.Tags
import PinnedActions.Proofs.Workflow.ChangedLines

/-!
# The counts of a report

A report counts the edits that were made, and the files that are dirty.  An edit is made when the
reference or the comment of a usage differs, letter case aside, from what it is to be; a file is dirty
when a line of it has another text.  `report_counts_changed_lines` says that the two come to the same:
as many lines have another text as edits are counted, and as many files have such a line.

What carries it is that lines are read back (`Usage.pin_of_render_eq`).  If the line that is written
for an edit were the old one, oddly spaced and quoted as it may be, then it would have been read with
the pin that the edit has, and there would be no edit (`render_ne_of_not_agrees`).  As no two edits are
for one line, each of them adds one changed line (`sum_changedLines_applyEdits`).
-/

set_option autoImplicit false

namespace PinnedActions

/-- Whether an edit is for a usage of some files, and the line that is written for it is not the one
that the usage stands on. -/
def Edit.Rewrites (files : List WorkflowFile) (e : Edit) : Prop :=
  ∃ f u text, files[e.file]? = some f ∧ f.usages[e.index]? = some u ∧
    f.lines.line? u.line = some text ∧ u.render e.reference e.comment ≠ text

/-- Whether no tag that can be read out of an answer has white space in its name. -/
def Payload.isUnspaced (answer : Json) : Bool :=
  (release answer).toOption.all (fun release => release.tagName.NoBlanks) &&
  (releases answer).toOption.all (fun releases => releases.all fun r => r.tagName.NoBlanks) &&
  (tags answer).toOption.all fun tags => tags.all fun tag => tag.name.NoBlanks

theorem Catalog.unspacedTags_ofTable {table : List (Text × Answer)}
    (h : (table.all fun p => p.2.toOption.all Payload.isUnspaced) = true) :
    (ofTable table).UnspacedTags := by
  have hunspaced : ∀ {path answer}, ofTable table path = .ok answer →
      Payload.isUnspaced answer = true := passes_ofTable h
  simp only [Payload.isUnspaced, Bool.and_eq_true] at hunspaced
  have htags : ∀ {path answer tags}, ofTable table path = .ok answer →
      Payload.tags answer = .ok tags → ∀ tag ∈ tags, tag.name.NoBlanks := fun hanswer hread => by
    simpa [hread, Except.toOption] using (hunspaced hanswer).2
  exact {
    latest := fun _ _ _ _ hanswer hread => by
      simpa [hread, Except.toOption] using (hunspaced hanswer).1.1
    newest := fun _ _ _ _ => htags
    releases := fun _ _ _ _ _ hanswer hread => by
      simpa [hread, Except.toOption] using (hunspaced hanswer).1.2
    tags := fun _ _ _ _ _ => htags }

namespace Pinning

open Resolver Walk WorkflowFile

variable {source : Source} {settings : Settings} {target : Target} {version : Option Text}
  {contents : List (Bytes × Text)} {files files' : List WorkflowFile} {s t : Session}

/-! ## One edit -/

/-- **The line that is written for another pin is another line.**  What is asked of the comment
excludes one that is read back without the white space around it. -/
theorem render_ne_of_not_agrees {line : Text} {u : Usage} (h : Usage.parse? line = some u)
    (hquotes : Text.NoQuotes u.action.fullPath) {reference comment : Text}
    (hhash : Version.isFullHash reference = true) (hagrees : agrees u reference comment = false)
    (hcomment : Text.IsTrimmed comment ∨ Version.isFullHash u.reference = false) :
    u.render reference comment ≠ line := by
  intro hsame
  have hlower := Version.isFullHash_lowercase hhash
  have hne : Text.lowercase reference ≠ [] := fun hnil => by
    rw [hnil] at hlower
    cases hlower
  obtain ⟨hreference, hread⟩ :=
    Usage.pin_of_render_eq h hquotes hne (Version.isOrdinary_of_isFullHash hlower) hsame
  rcases hcomment with htrimmed | hnot
  · rw [Text.trim_of_isTrimmed htrimmed] at hread
    rw [agrees, hreference, hread, Version.sameIgnoringCase_lowercase hhash,
      Text.sameIgnoringCase_iff.2 rfl] at hagrees
    cases hagrees
  · rw [hreference, hlower] at hnot
    cases hnot

/-- Whether there are no quotes in the paths of all actions. -/
def PlainPaths (files : List WorkflowFile) : Prop :=
  ∀ f ∈ files, ∀ u ∈ f.usages, Text.NoQuotes u.action.fullPath

/-- An edit that is made for a usage in scope rewrites its line. -/
theorem rewrites_of_editFor (hplain : PlainPaths (load contents)) {o : Occurrence}
    (ho : o ∈ inScope settings target (load contents)) {reference comment : Text}
    (hhash : Version.isFullHash reference = true)
    (hcomment : Text.IsTrimmed comment ∨ Version.isFullHash o.usage.reference = false) {e : Edit}
    (he : editFor o reference comment = some e) : e.Rewrites (load contents) := by
  obtain ⟨hagrees, rfl⟩ := editFor_eq_some.1 he
  obtain ⟨⟨f, hf, -, hu⟩, -⟩ := mem_inScope.1 ho
  have hmem : f ∈ load contents := List.mem_of_getElem? hf
  obtain ⟨p, -, rfl⟩ := List.mem_map.1 hmem
  obtain ⟨text, htext, hparse⟩ := exists_text_of_getElem?_usagesFrom hu
  exact ⟨_, o.usage, text, hf, hu, htext, render_ne_of_not_agrees hparse
    (hplain _ hmem o.usage (List.mem_of_getElem? hu)) hhash hagrees hcomment⟩

/-! ## All edits -/

/-- **Edits that rewrite different lines make as many changed lines.** -/
theorem sum_changedLines_applyEdits (hapart : AllApart files) {edits : List Edit}
    (hnodup : (edits.map Edit.place).Nodup) (hrewrites : ∀ e ∈ edits, e.Rewrites files) :
    (List.zipWith changedLines files (applyEdits files edits)).sum = edits.length := by
  induction edits using List.reverseRecOn with
  | nil => exact sum_zipWith_self changedLines_self files
  | append_singleton edits e ih =>
    rw [List.map_append, List.map_singleton, List.nodup_append] at hnodup
    obtain ⟨f, u, text, hf, hu, htext, hnew⟩ := hrewrites e (by simp)
    have hmem : f ∈ files := List.mem_of_getElem? hf
    -- the file as the edits before left it
    have hcurrent : (applyEdits files edits)[e.file]? =
        some (repinAll f (edits.filter fun e' => e'.file = e.file)) := by
      rw [applyEdits_eq_mapIdx, List.getElem?_mapIdx, hf]
      rfl
    have hi : e.index ∉ (edits.filter fun e' => e'.file = e.file).map Edit.index := fun hi => by
      obtain ⟨e', he', hindex⟩ := List.mem_map.1 hi
      obtain ⟨he', hfile⟩ := List.mem_filter.1 he'
      exact hnodup.2.2 _ (List.mem_map_of_mem he') _ List.mem_cons_self
        (Prod.ext (of_decide_eq_true hfile) hindex)
    have hone := (revises_repinAll (hapart f hmem)
      (nodup_index_of_place hnodup.1 e.file)).changedLines_repin (hapart f hmem) hi hu htext hnew
    have hlast : applyEdits files (edits ++ [e]) = applyEdit (applyEdits files edits) e :=
      List.foldl_concat ..
    rw [hlast, applyEdit_of_some hcurrent, sum_zipWith_set hf hcurrent hone,
      ih hnodup.1 fun e' he' => hrewrites e' (List.mem_append_left _ he'), List.length_append]
    rfl

/-- The dirty files are those with a changed line. -/
theorem countDirty_of_revised (h : List.Forall₂ Revised files files') :
    countDirty files' = (List.zipWith changedLines files files').countP (· ≠ 0) := by
  rw [countDirty]
  induction h with
  | nil => rfl
  | cons hf _ ih =>
    rw [List.zipWith_cons_cons, List.countP_cons, List.countP_cons, ih]
    simp [hf.isDirty_iff]

/-- Whether the counts of a report are right about some files and what became of them: the files and
their lines are the same in number, and the counts are those of lines and of files that differ. -/
structure CountsRight (files files' : List WorkflowFile) (updated filesChanged : Nat) : Prop where
  sameShape : List.Forall₂ (fun f f' => f'.path = f.path ∧
    f'.lines.texts.length = f.lines.texts.length) files files'
  updated : updated = (List.zipWith changedLines files files').sum
  filesChanged : filesChanged = (List.zipWith changedLines files files').countP (· ≠ 0)

theorem justRead_load (contents : List (Bytes × Text)) : JustRead (load contents) :=
  ⟨allApart_load contents, fun _ => isDirty_of_mem_load⟩

/-- **Counting edits is right** when they rewrite different lines. -/
theorem countsRight_of_edits {edits : List Edit} (hnodup : (edits.map Edit.place).Nodup)
    (hrewrites : ∀ e ∈ edits, e.Rewrites (load contents)) :
    CountsRight (load contents) (applyEdits (load contents) edits) edits.length
      (countDirty (applyEdits (load contents) edits)) :=
  have hrevised := revised_of_edits (justRead_load contents) edits hnodup
  { sameShape := hrevised.imp fun _ _ h => ⟨h.path, h.length⟩
    updated := (sum_changedLines_applyEdits (allApart_load contents) hnodup hrewrites).symm
    filesChanged := countDirty_of_revised hrevised }

/-! ## Operations -/

/-- Whether a verdict has no edit but one that rewrites a line. -/
def RewritesOnly (files : List WorkflowFile) (v : Verdict) : Prop :=
  ∀ e, v.edit? = some e → e.Rewrites files

theorem EditsTo.rewritesOnly {comments : Text → Prop} {v : Verdict} {o : Occurrence}
    (h : EditsTo o comments v) (hplain : PlainPaths (load contents))
    (ho : o ∈ inScope settings target (load contents))
    (hcomments : ∀ comment, comments comment →
      Text.IsTrimmed comment ∨ Version.isFullHash o.usage.reference = false) :
    RewritesOnly (load contents) v := by
  intro e he
  obtain ⟨commit, comment, hhash, hcomment, hedit⟩ := h e he
  exact rewrites_of_editFor hplain ho hhash (hcomments comment hcomment) hedit

/-- A fix keeps a reference for its comment only if it is not a hash, and any other comment that it
writes is trimmed. -/
theorem isTrimmed_or_of_isFixed {u : Usage} {comment : Text} (h : IsFixed u comment) :
    Text.IsTrimmed comment ∨ Version.isFullHash u.reference = false := by
  obtain ⟨version, remark, hbasis, rfl⟩ := h
  rw [basis] at hbasis
  split at hbasis
  · have hword := Comment.noBlanks_split u.comment
    rw [Option.some_inj.1 hbasis] at hword
    exact .inl (Comment.isTrimmed_join hword)
  · split at hbasis
    · cases hbasis
    · rename_i hhash
      exact .inr (Bool.eq_false_iff.2 hhash)

/-- The edits among verdicts that rewrite lines do so. -/
theorem rewrites_of_mem_editsOf {os : List Occurrence} {vs : List Verdict}
    (h : List.Forall₂ (fun _ v => RewritesOnly files v) os vs) :
    ∀ e ∈ editsOf vs, e.Rewrites files := by
  intro e he
  obtain ⟨-, -, v, hv, hedit⟩ := exists_verdict_of_mem_filterMap h he
  exact hv e hedit

theorem countsRight_of_fix (hplain : PlainPaths (load contents)) (hs : AnswersHex source s)
    {report : FixReport}
    (h : (fix source settings (load contents)).run s = some ((report, files'), t)) :
    CountsRight (load contents) files' report.updated report.filesChanged := by
  obtain ⟨vs, u, hrun, h⟩ := Sure.run_bind_eq_some h
  cases h
  exact countsRight_of_edits (nodup_place_of_judgeAll (fun _ _ _ _ => isFor_of_judgeFix) hrun)
    (rewrites_of_mem_editsOf (forall₂_of_judgeAll (fun o ho _ _ _ hs' h =>
      ((judges_of_run h).editsTo hs.catalog.commits hs').imp_left fun hedits =>
        hedits.rewritesOnly hplain ho fun _ => isTrimmed_or_of_isFixed) hs.memory hrun))

theorem countsRight_of_update (hplain : PlainPaths (load contents)) (hs : AnswersHex source s)
    {report : UpdateReport}
    (h : (update source settings target (load contents)).run s = some ((.ok report, files'), t)) :
    CountsRight (load contents) files' report.updated report.filesChanged := by
  generalize hreport : Except.ok report = result at h
  cases updateRun_of_run h with
  | refused => cases hreport
  | judged _ hrun =>
    cases hreport
    exact countsRight_of_edits (nodup_place_of_judgeAll (fun _ _ _ _ => isFor_of_judgeUpdate) hrun)
      (rewrites_of_mem_editsOf (forall₂_of_judgeAll (fun o ho _ _ _ hs' h =>
        (editsTo_of_judgeUpdate hs.catalog.commits hs' h).imp_left fun hedits =>
          hedits.rewritesOnly hplain ho fun _ hcomment =>
            .inl (hcomment ▸ Comment.isTrimmed_join (Comment.noBlanks_split _))) hs.memory hrun))

/-- The records of groups together count the edits. -/
theorem sum_updated_records (done : List Settled) :
    ((done.map fun p => groupRecord p.2 p.1).map RepoUpgrade.updated).foldr (· + ·) 0 =
      (editsFor done).length := by
  induction done with
  | nil => rfl
  | cons p rest ih =>
    have hedits : editsFor (p :: rest) = groupEdits p.2 p.1 ++ editsFor rest := List.flatMap_cons
    rw [List.map_cons, List.map_cons, List.foldr_cons, ih, hedits, List.length_append]
    rfl

theorem countsRight_of_upgrade (hplain : PlainPaths (load contents)) (hs : AnswersHex source s)
    (htags : source.catalog.UnspacedTags) (htrimmed : s.TrimmedTags) {report : UpgradeReport}
    (h : (upgrade source settings target version (load contents)).run s =
      some ((.ok report, files'), t)) :
    CountsRight (load contents) files' report.updated report.filesChanged := by
  obtain ⟨done, hgroups, hdone, rfl, rfl⟩ := exists_settles_of_ok h
  have hhash := hdone.forall_commit
    (fun _ _ => latest_ensures_isFullHash hs.catalog version) hs.memory
  have htag := hdone.forall_of_ensures (fun _ _ => latest_ensures_isTrimmed htags version) htrimmed
  have hrewrites : ∀ e ∈ editsFor done, e.Rewrites (load contents) := fun e he => by
    obtain ⟨p, hp, o, ho, hedit⟩ := mem_editsFor.1 he
    exact rewrites_of_editFor hplain (mem_inScope_of_settled hgroups hp ho) (hhash p hp)
      (.inl (Comment.isTrimmed_join_of_isTrimmed (htag p hp))) hedit
  have hcounts := countsRight_of_edits (nodup_place_of_groups hgroups) hrewrites
  exact { hcounts with updated := (sum_updated_records done).trans hcounts.updated }

/-- **The counts of a report are the real ones.**  After a fix, an update or an upgrade of files that
were just read has ended well, the report counts as many updates as there are lines with another text,
in all files together, and as many changed files as have such a line. -/
theorem report_counts_changed_lines
    (hquotes : ∀ f ∈ load contents, ∀ u ∈ f.usages, Text.NoQuotes u.action.fullPath)
    (hhex : source.catalog.HexHashes) (htags : source.catalog.UnspacedTags)
    (hs : s.IsReached source) (settings : Settings) (target : Target) (version : Option Text) :
    (∀ report files' t,
      (fix source settings (load contents)).run s = some ((report, files'), t) →
        CountsRight (load contents) files' report.updated report.filesChanged) ∧
    (∀ report files' t,
      (update source settings target (load contents)).run s = some ((.ok report, files'), t) →
        CountsRight (load contents) files' report.updated report.filesChanged) ∧
    (∀ report files' t,
      (upgrade source settings target version (load contents)).run s =
          some ((.ok report, files'), t) →
        CountsRight (load contents) files' report.updated report.filesChanged) :=
  have hanswers := answersHex_of_isReached hhex hs
  ⟨fun _ _ _ => countsRight_of_fix hquotes hanswers,
    fun _ _ _ => countsRight_of_update hquotes hanswers,
    fun _ _ _ => countsRight_of_upgrade hquotes hanswers htags (trimmedTags_of_isReached htags hs)⟩

/-- A catalog in which the latest release of `o/r` is `v1.0.0`, and the newest tag of `x/y` is `v2`. -/
def releasedAndTagged : Source := Source.ofTable [
  ("repos/o/r/releases/latest".toList, .ok (.obj [("tag_name".toList, .str "v1.0.0".toList)])),
  ("repos/o/r/git/ref/tags/v1.0.0".toList, .ok (.obj [("object".toList,
    .obj [("sha".toList, .str (List.replicate 40 'a')), ("type".toList, .str commitType)])])),
  ("repos/x/y/tags?per_page=1".toList, .ok (.arr [.obj [("name".toList, .str "v2".toList),
    ("commit".toList, .obj [("sha".toList, .str (List.replicate 40 'b'))])]]))]

/-- Two files with lines that are spaced, quoted and spelled in several ways. -/
def crookedContents : List (Bytes × Text) := [
  (Utf8.bytes "a.yml", ("- uses:\t 'o/r@V1'   #v1.0.0   kept  \n" ++
    "- uses: O/R@AAAAAAAAAAAAAAAAAAAAAAAAAAAAAAAAAAAAAAAA # V1.0.0\n").toList),
  (Utf8.bytes "b.yml", "- uses:o/r@v1.0.0\n- uses: x/y@v1 # \n".toList)]

/-- The second line has what it is to have in other letter case, so it never counts.  The last two
have no comment: a fix finds a version in the one and cannot resolve the other, an update passes both
over, and an upgrade moves both. -/
theorem report_counts_changed_lines_of_crookedContents :
    (∃ report files' t,
      (fix releasedAndTagged .default (load crookedContents)).run .empty = some ((report, files'), t) ∧
        (report.updated, report.filesChanged) = (2, 2) ∧
        CountsRight (load crookedContents) files' report.updated report.filesChanged) ∧
    (∃ report files' t,
      (update releasedAndTagged .default .everything (load crookedContents)).run .empty =
          some ((.ok report, files'), t) ∧
        (report.updated, report.filesChanged) = (1, 1) ∧
        CountsRight (load crookedContents) files' report.updated report.filesChanged) ∧
    (∃ report files' t,
      (upgrade releasedAndTagged .default .everything none (load crookedContents)).run
          .empty = some ((.ok report, files'), t) ∧
        (report.updated, report.filesChanged) = (3, 2) ∧
        CountsRight (load crookedContents) files' report.updated report.filesChanged) := by
  have hquotes : ∀ f ∈ load crookedContents, ∀ u ∈ f.usages, Text.NoQuotes u.action.fullPath := by
    decide +kernel
  have hreached : Session.IsReached releasedAndTagged .empty := ⟨[], rfl⟩
  have hhex : releasedAndTagged.catalog.HexHashes := (Catalog.ofTable_of_isTidy (by decide +kernel)).1
  have htags : releasedAndTagged.catalog.UnspacedTags :=
    Catalog.unspacedTags_ofTable (by decide +kernel)
  obtain ⟨hfix, hupdate, hupgrade⟩ :=
    report_counts_changed_lines hquotes hhex htags hreached .default .everything none
  have hfixed : ((fix releasedAndTagged .default (load crookedContents)).run .empty).map
      (fun p => (p.1.1.updated, p.1.1.filesChanged)) = some (2, 2) := by decide +kernel
  have hupdated : ((update releasedAndTagged .default .everything (load crookedContents)).run .empty).map
      (fun p => p.1.1.toOption.map fun r => (r.updated, r.filesChanged)) = some (some (1, 1)) := by
    decide +kernel
  have hupgraded : ((upgrade releasedAndTagged .default .everything none
      (load crookedContents)).run .empty).map
      (fun p => p.1.1.toOption.map fun r => (r.updated, r.filesChanged)) = some (some (3, 2)) := by
    decide +kernel
  refine ⟨?_, ?_, ?_⟩
  · obtain ⟨⟨⟨report, files'⟩, t⟩, hrun, hcounts⟩ := Option.map_eq_some_iff.1 hfixed
    exact ⟨report, files', t, hrun, hcounts, hfix report files' t hrun⟩
  · obtain ⟨⟨⟨result, files'⟩, t⟩, hrun, hcounts⟩ := Option.map_eq_some_iff.1 hupdated
    cases result with
    | error f => cases hcounts
    | ok report =>
      exact ⟨report, files', t, hrun, Option.some.inj hcounts, hupdate report files' t hrun⟩
  · obtain ⟨⟨⟨result, files'⟩, t⟩, hrun, hcounts⟩ := Option.map_eq_some_iff.1 hupgraded
    cases result with
    | error f => cases hcounts
    | ok report =>
      exact ⟨report, files', t, hrun, Option.some.inj hcounts, hupgrade report files' t hrun⟩

end Pinning

end PinnedActions
