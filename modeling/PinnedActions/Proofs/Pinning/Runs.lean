import PinnedActions.Proofs.Pinning.FixThenVerify
import PinnedActions.Proofs.Pinning.Upgrade
import PinnedActions.Proofs.Workflow.InStep
import Mathlib.Logic.Relation

/-!
# Any sequence of operations

Files may be fixed, updated and upgraded in any order and any number of times, each time with other
settings, another catalog and another session.  As long as the commits that are written are full
hashes and the tags that are written are words, memory never drifts from the text: after each
operation, reading what would be written gives the usages in memory (`never_drifts`).

`Operation` is one operation, whether it ends well or not.

* All that it does to the session it does by calls on the resolver (`Operation.respects`), so one
  session may serve several operations (`Operation.answersHex`).
* All that it does to the files is to make edits that can be read back (`Operation.exists_edits`), so
  it keeps what every such edit keeps (`Operation.follows`).
-/

set_option autoImplicit false

namespace PinnedActions

/-- Whether a catalog speaks of full hashes only, where it speaks of commits. -/
structure Catalog.HexHashes (catalog : Catalog) : Prop where
  commits : catalog.HexCommits
  tags : ∀ path answer tags, catalog path = .ok answer → Payload.tags answer = .ok tags →
    ∀ tag ∈ tags, ∀ hash, tag.commit = some hash → Version.isFullHash hash = true

theorem Catalog.hexHashes_ofEnding (ending : Text) {hash : Text}
    (h : Version.isFullHash hash = true) : (ofEnding ending hash).HexHashes where
  commits := hexCommits_ofEnding ending h
  tags path answer tags hanswer hread := by
    -- no answer of this catalog is a listing
    rw [ofEnding] at hanswer
    split at hanswer
    · cases hanswer
      cases hread
    · cases hanswer

namespace Resolver

open Walk

variable {source : Source} {owner repo : Text} {s t : Session}

theorem isFullHash_of_newestTag (hhex : source.catalog.HexHashes) {r : Resolution}
    (h : (newestTag source owner repo).runFrom s = some (.ok r, t)) :
    Version.isFullHash r.commit = true := by
  obtain ⟨answer, name, hash, rest, hanswer, hread, rfl⟩ := exists_tag_of_newestTag h
  exact Version.isFullHash_lowercase
    (hhex.tags _ answer _ hanswer hread _ List.mem_cons_self hash rfl)

/-- What an upgrade moves to is a full hash. -/
theorem latest_ensures_isFullHash (hhex : source.catalog.HexHashes) (version : Option Text) :
    Ensures (Session.CommitsAre fun c => Version.isFullHash c = true)
      (fun r => Version.isFullHash r.commit = true) (latest source owner repo version) :=
  latest_ensures (supplies_isFullHash hhex.commits) (fun _ _ _ => isFullHash_of_newestTag hhex)
    version

end Resolver

namespace Pinning

open Resolver Walk

variable {source : Source} {settings : Settings} {target : Target} {version : Option Text}
  {files files' : List WorkflowFile} {s t : Session}

/-! ## One operation -/

/-- Whether the tags that an upgrade writes are words: there is no white space in the tag of a group
that it settles and has an edit for. -/
def WritesWords (source : Source) (settings : Settings) (target : Target) (version : Option Text)
    (files : List WorkflowFile) (s : Session) : Prop :=
  ∀ (done : List (RepoUsages × Resolution)) (t : Session), Settles source version s done t →
    done.map Prod.fst <+: groupByRepository (inScope settings target files) →
      ∀ p ∈ done, groupEdits p.2 p.1 ≠ [] → p.2.tag.NoBlanks

/-- The tags that an upgrade writes are words if those that it reports are. -/
theorem writesWords_of_report {report : UpgradeReport}
    (h : (upgrade source settings target version files).run s = some ((.ok report, files'), t))
    (hwords : ∀ record ∈ report.repos, record.tag.NoBlanks) :
    WritesWords source settings target version files s := by
  obtain ⟨all, hgroups, hall, -, rfl⟩ := exists_settles_of_ok h
  intro done u hsettles hprefix p hp _
  rw [hgroups] at hprefix
  have hmem : p ∈ all := (hsettles.begins hall hprefix).subset hp
  exact hwords _ (List.mem_map.2 ⟨p, hmem, rfl⟩)

/-- An operation on files in a session, with the files and the session that it leaves. -/
inductive Operation (source : Source) (files : List WorkflowFile) (s : Session) :
    List WorkflowFile → Session → Prop where
  | fix {settings : Settings} {report : FixReport} {files' : List WorkflowFile} {t : Session}
      (h : (fix source settings files).run s = some ((report, files'), t)) :
      Operation source files s files' t
  | update {settings : Settings} {target : Target} {report : Except Failure UpdateReport}
      {files' : List WorkflowFile} {t : Session}
      (h : (update source settings target files).run s = some ((report, files'), t)) :
      Operation source files s files' t
  | upgrade {settings : Settings} {target : Target} {version : Option Text}
      {report : Except Failure UpgradeReport} {files' : List WorkflowFile} {t : Session}
      (hwords : WritesWords source settings target version files s)
      (h : (upgrade source settings target version files).run s = some ((report, files'), t)) :
      Operation source files s files' t

/-! ## What it does to the session -/

section Respected

variable {rel : Session → Session → Prop}

theorem SettleRun.respects (hrel : Respected source rel) {o : Occurrence} {version remark : Text}
    {unresolved : Failure → Text} {v : Verdict}
    (h : SettleRun source o version remark unresolved s v t) : rel s t := by
  cases h with
  | warned hrun => exact hrel.spec _ _ version s _ t hrun
  | resolved hrun => exact hrel.spec _ _ version s _ t hrun

theorem respects_of_judgeFix (hrel : Respected source rel) {o : Occurrence} {v : Verdict}
    (h : (judgeFix source o).run s = some (v, t)) : rel s t := by
  cases judges_of_run h with
  | pass => exact hrel.refl s
  | warned _ hrun => exact hrel.spec _ _ _ s _ t hrun
  | resolved _ hrun => exact hrel.spec _ _ _ s _ t hrun

theorem respects_of_judgeUpdate (hrel : Respected source rel) {o : Occurrence} {v : Verdict}
    (h : (judgeUpdate source o).run s = some (v, t)) : rel s t := by
  cases judgesUpdate_of_run h with
  | unversioned => exact hrel.refl s
  | settled h => exact h.respects hrel

theorem respects_of_judgeAll (hrel : Respected source rel) {judge : Occurrence → Sure Verdict}
    (hjudge : ∀ o s v t, (judge o).run s = some (v, t) → rel s t) {os : List Occurrence}
    {vs : List Verdict} (h : (judgeAll judge os).run s = some (vs, t)) : rel s t := by
  induction os generalizing s vs with
  | nil =>
    cases h
    exact hrel.refl _
  | cons o rest ih =>
    obtain ⟨v, u, h1, h⟩ := Sure.run_bind_eq_some h
    obtain ⟨others, w, h2, h⟩ := Sure.run_bind_eq_some h
    cases h
    exact hrel.trans s u t (hjudge o s v u h1) (ih h2)

theorem respects_of_upgradeGroups (hrel : Respected source rel) {groups : List RepoUsages}
    {result : List Edit × Except Failure (List RepoUpgrade)}
    (h : (upgradeGroups source version groups).run s = some (result, t)) : rel s t := by
  induction groups generalizing s result with
  | nil =>
    cases h
    exact hrel.refl _
  | cons g rest ih =>
    obtain ⟨found, u, h1, h⟩ := Sure.run_bind_eq_some h
    have hfirst : rel s u := hrel.latest g.owner g.repo version s found u h1
    cases found with
    | error f =>
      cases h
      exact hfirst
    | ok r =>
      obtain ⟨others, w, h2, h⟩ := Sure.run_bind_eq_some h
      cases h
      exact hrel.trans s u t hfirst (ih h2)

/-- **What every call on a resolver respects, an operation does.** -/
theorem Operation.respects (hrel : Respected source rel) (h : Operation source files s files' t) :
    rel s t := by
  cases h with
  | @fix settings report _ _ h =>
    obtain ⟨vs, hrun, -⟩ := fix_run h
    exact respects_of_judgeAll hrel (fun _ _ _ _ => respects_of_judgeFix hrel) hrun
  | @update settings target report _ _ h =>
    cases updateRun_of_run h with
    | refused => exact hrel.refl _
    | judged _ hrun =>
      exact respects_of_judgeAll hrel (fun _ _ _ _ => respects_of_judgeUpdate hrel) hrun
  | @upgrade settings target version report _ _ _ h =>
    cases upgradeRun_of_run h with
    | refused => exact hrel.refl _
    | grouped _ hrun => exact respects_of_upgradeGroups hrel hrun

end Respected

/-- Whether all commits that a resolver can answer with are full hashes: those of the catalog and
those that it remembers. -/
structure AnswersHex (source : Source) (s : Session) : Prop where
  catalog : source.catalog.HexHashes
  memory : s.CommitsAre fun c => Version.isFullHash c = true

theorem respected_commitsAre_isFullHash (hhex : source.catalog.HexHashes) :
    Respected source fun s t => (s.CommitsAre fun c => Version.isFullHash c = true) →
      t.CommitsAre fun c => Version.isFullHash c = true :=
  respected_commitsAre (supplies_isFullHash hhex.commits)
    fun _ _ _ _ _ => isFullHash_of_newestTag hhex

/-- A resolver answers with full hashes only, after any history of calls. -/
theorem answersHex_of_isReached (hhex : source.catalog.HexHashes) (h : s.IsReached source) :
    AnswersHex source s := by
  obtain ⟨calls, hcalls⟩ := h
  exact ⟨hhex, (respected_commitsAre_isFullHash hhex).afterCalls hcalls Session.commitsAre_empty⟩

/-- A resolver still does so after an operation. -/
theorem Operation.answersHex (h : Operation source files s files' t) (hs : AnswersHex source s) :
    AnswersHex source t :=
  ⟨hs.catalog, h.respects (respected_commitsAre_isFullHash hs.catalog) hs.memory⟩

/-! ## What it does to the files -/

/-- Whether what the usages of files are made of can be written again. -/
def AllFixable (files : List WorkflowFile) : Prop := ∀ f ∈ files, ∀ u ∈ f.usages, Fixable u

theorem AllFixable.of_mem_inScope (h : AllFixable files) {o : Occurrence}
    (ho : o ∈ inScope settings target files) : Fixable o.usage := by
  obtain ⟨⟨f, hf, -, hu⟩, -⟩ := mem_inScope.1 ho
  exact h f (List.mem_of_getElem? hf) o.usage (List.mem_of_getElem? hu)

/-- The remark in a comment is on the line of the comment. -/
theorem not_mem_remark {u : Usage} (hu : Fixable u) : '\n' ∉ (Comment.split u.comment).2 :=
  fun h => hu.comment (Comment.mem_of_mem_split (.inr h))

/-- **An update writes full hashes**, and the comments that were there. -/
theorem editsTo_of_judgeUpdate {o : Occurrence} {v : Verdict} (hhex : source.catalog.HexCommits)
    (hs : s.CommitsAre fun c => Version.isFullHash c = true)
    (h : (judgeUpdate source o).run s = some (v, t)) :
    EditsTo o (· = Comment.join (Comment.split o.usage.comment).1 (Comment.split o.usage.comment).2)
      v ∧ t.CommitsAre fun c => Version.isFullHash c = true := by
  have hsupplies := supplies_isFullHash hhex
  cases judgesUpdate_of_run h with
  | unversioned => exact ⟨nofun, hs⟩
  | settled h =>
    cases h with
    | warned hrun => exact ⟨nofun, (resolveSpec_ensures hsupplies _ s _ t hs hrun).1⟩
    | resolved hrun =>
      obtain ⟨ht, hhash⟩ := resolveSpec_ensures hsupplies _ s _ t hs hrun
      exact ⟨fun e he => ⟨_, _, hhash _ rfl, rfl, he⟩, ht⟩

theorem editsWell_of_judgeUpdate {o : Occurrence} {v : Verdict} (hhex : source.catalog.HexCommits)
    (hu : Fixable o.usage) (hs : s.CommitsAre fun c => Version.isFullHash c = true)
    (h : (judgeUpdate source o).run s = some (v, t)) :
    EditsWell o v ∧ t.CommitsAre fun c => Version.isFullHash c = true := by
  refine (editsTo_of_judgeUpdate hhex hs h).imp_left fun hedits => hedits.editsWell ?_
  rintro commit _ hhash rfl
  exact writable_join (Comment.noBlanks_split _) (not_mem_remark hu) hhash

theorem writable_of_mem_editsFor {done : List (RepoUsages × Resolution)}
    (hfixable : ∀ p ∈ done, ∀ o ∈ p.1.occurrences, Fixable o.usage)
    (hhash : ∀ p ∈ done, Version.isFullHash p.2.commit = true)
    (hwords : ∀ p ∈ done, groupEdits p.2 p.1 ≠ [] → p.2.tag.NoBlanks) {e : Edit}
    (he : e ∈ editsFor done) : e.Writable := by
  obtain ⟨p, hp, o, ho, hedit⟩ := mem_editsFor.1 he
  have hne : groupEdits p.2 p.1 ≠ [] :=
    List.ne_nil_of_mem (List.mem_filterMap.2 ⟨o, ho, hedit⟩)
  obtain ⟨-, rfl⟩ := editFor_eq_some.1 hedit
  exact writable_join (hwords p hp hne) (not_mem_remark (hfixable p hp o ho)) (hhash p hp)

/-- **An operation only makes edits that can be read back.** -/
theorem Operation.exists_edits (h : Operation source files s files' t) (hs : AnswersHex source s)
    (hfixable : AllFixable files) :
    ∃ edits : List Edit, (∀ e ∈ edits, e.Writable) ∧ files' = applyEdits files edits := by
  have hunchanged : ∃ edits : List Edit, (∀ e ∈ edits, e.Writable) ∧
      files = applyEdits files edits := ⟨[], nofun, rfl⟩
  have hjudged : ∀ {os : List Occurrence} {vs : List Verdict}, List.Forall₂ EditsWell os vs →
      ∀ e ∈ editsOf vs, e.Writable := fun hwell e he => by
    obtain ⟨o, -, -, hwritable⟩ := exists_of_mem_editsOf hwell he
    exact hwritable
  cases h with
  | @fix settings report _ _ h =>
    obtain ⟨vs, hrun, rfl⟩ := fix_run h
    exact ⟨_, hjudged (editsWell_of_judgeAll hs.catalog.commits
      (fun o ho => hfixable.of_mem_inScope ho) hs.memory hrun), rfl⟩
  | @update settings target report _ _ h =>
    cases updateRun_of_run h with
    | refused => exact hunchanged
    | judged _ hrun =>
      exact ⟨_, hjudged (forall₂_of_judgeAll (fun o ho _ _ _ hs' h =>
        editsWell_of_judgeUpdate hs.catalog.commits (hfixable.of_mem_inScope ho) hs' h)
        hs.memory hrun), rfl⟩
  | @upgrade settings target version report _ _ hwords h =>
    cases upgradeRun_of_run h with
    | refused => exact hunchanged
    | grouped _ hrun =>
      obtain ⟨done, w, hsettles, hprefix, rfl⟩ := (groupsRun_of_run hrun).exists_settles
      obtain ⟨os, hsub, hperm⟩ := exists_perm_of_prefix hprefix
      have hhash := hsettles.forall_commit
        (fun _ _ => latest_ensures_isFullHash hs.catalog version) hs.memory
      refine ⟨_, fun e he => writable_of_mem_editsFor (fun p hp o ho => ?_) hhash
        (hwords done w hsettles hprefix) he, rfl⟩
      exact hfixable.of_mem_inScope
        (hperm.subset (hsub.subset (List.mem_flatMap.2 ⟨p, hp, ho⟩)))

/-! ## Files that follow their contents -/

/-- What can be read back can be written again. -/
theorem fixable_repinned (u : Usage) {reference comment : Text}
    (h : Usage.Writable reference comment) : Fixable (u.repinned reference comment) where
  nonempty := h.nonempty
  reference c hc := Text.isBlank_of_isOrdinary (h.ordinary c hc)
  comment := h.unbroken

/-- Whether a file is in step with the content that it was loaded from, and all its usages can be
written again. -/
structure Follows (p : Bytes × Text) (f : WorkflowFile) : Prop where
  inStep : f.InStep p.2
  fixable : ∀ u ∈ f.usages, Fixable u

theorem Follows.repin {p : Bytes × Text} {f : WorkflowFile} (h : Follows p f)
    {reference comment : Text} (hwritable : Usage.Writable reference comment) (i : Nat) :
    Follows p (f.repin i reference comment).1 where
  inStep := h.inStep.repin hwritable i
  fixable u hu := by
    cases hold : f.usages[i]? with
    | none =>
      rw [WorkflowFile.repin_of_none hold] at hu
      exact h.fixable u hu
    | some v =>
      rw [WorkflowFile.repin_of_some hold] at hu
      rcases List.mem_or_eq_of_mem_set hu with hu | rfl
      · exact h.fixable u hu
      · exact fixable_repinned v hwritable

theorem allFixable_of_follows {contents : List (Bytes × Text)}
    (h : List.Forall₂ Follows contents files) : AllFixable files := by
  induction h with
  | nil => exact nofun
  | @cons p f contents files hp _ ih => exact List.forall_mem_cons.2 ⟨hp.fixable, ih⟩

/-- **An operation keeps files in step with their contents.** -/
theorem Operation.follows (h : Operation source files s files' t) (hs : AnswersHex source s)
    {contents : List (Bytes × Text)} (hfollows : List.Forall₂ Follows contents files) :
    List.Forall₂ Follows contents files' := by
  obtain ⟨edits, hedits, rfl⟩ := h.exists_edits hs (allFixable_of_follows hfollows)
  exact forall₂_applyEdits (fun _ _ _ _ i hf hwritable => hf.repin hwritable i) hfollows hedits

theorem follows_load {contents : List (Bytes × Text)}
    (hreference : ∀ f ∈ load contents, ∀ u ∈ f.usages, u.reference.NoBlanks)
    (hquotes : ∀ f ∈ load contents, ∀ u ∈ f.usages, Text.NoQuotes u.action.fullPath) :
    List.Forall₂ Follows contents (load contents) := by
  rw [load, List.forall₂_map_right_iff, List.forall₂_same]
  intro p hp
  have hmem : WorkflowFile.parse p.1 p.2 ∈ load contents := List.mem_map.2 ⟨p, hp, rfl⟩
  exact ⟨WorkflowFile.inStep_parse (hquotes _ hmem),
    fun u hu => (fixable_of_mem_load hmem hu (hreference _ hmem u hu)).1⟩

/-! ## Any number of operations -/

/-- One operation, with any catalog and in any session that have full hashes only. -/
def Step (files files' : List WorkflowFile) : Prop :=
  ∃ (source : Source) (s t : Session), AnswersHex source s ∧ Operation source files s files' t

/-- **Memory never drifts from the text.**  Some files are read, and then fixed, updated and upgraded
any number of times.  Reading what would be written of them gives the usages in memory; only a usage
without a separator is read with one space, once its line was rewritten. -/
theorem never_drifts {contents : List (Bytes × Text)}
    (hreference : ∀ f ∈ load contents, ∀ u ∈ f.usages, u.reference.NoBlanks)
    (hquotes : ∀ f ∈ load contents, ∀ u ∈ f.usages, Text.NoQuotes u.action.fullPath)
    (h : Relation.ReflTransGen Step (load contents) files) :
    List.Forall₂ (fun p f => List.Forall₂ (WorkflowFile.ReadBack (Lines.ofContent p.2) f.lines)
      f.usages (WorkflowFile.parse f.path f.content).usages) contents files := by
  have hfollows : List.Forall₂ Follows contents files := by
    induction h with
    | refl => exact follows_load hreference hquotes
    | tail _ hstep ih =>
      obtain ⟨source, s, t, hs, hop⟩ := hstep
      exact hop.follows hs ih
  exact hfollows.imp fun p f hp => hp.inStep.readBack_content

/-- The mixed file once it is fixed and all its usages are moved to one version. -/
def mixedUpgraded : List WorkflowFile :=
  applyEdits mixedFixed [⟨0, 1, List.replicate 40 'a', "v1.0.0".toList⟩,
    ⟨0, 2, List.replicate 40 'a', "v1.0.0".toList⟩]

/-- What the upgrade has to report. -/
def mixedUpgradeReport : UpgradeReport where
  repos := [⟨"o/r".toList, "v1.0.0".toList, List.replicate 40 'a', 2⟩]
  updated := 2
  filesChanged := 1

theorem never_drifts_of_mixedContents :
    Relation.ReflTransGen Step (load mixedContents) mixedUpgraded ∧
    List.Forall₂ (fun p f => List.Forall₂ (WorkflowFile.ReadBack (Lines.ofContent p.2) f.lines)
      f.usages (WorkflowFile.parse f.path f.content).usages) mixedContents mixedUpgraded :=
  have hhex : AnswersHex onlyExact .empty :=
    answersHex_of_isReached (Catalog.hexHashes_ofEnding _ (by decide)) ⟨[], rfl⟩
  -- the upgrade goes on in the session that the fix leaves
  have hruns : ((fix onlyExact .default (load mixedContents)).run .empty).bind (fun p =>
      ((upgrade onlyExact .default .everything (some "v1.0.0".toList) p.1.2).run p.2).map
        fun q => (p.1.2, q.1)) = some (mixedFixed, .ok mixedUpgradeReport, mixedUpgraded) := by
    decide +kernel
  have ⟨⟨⟨_, _⟩, _⟩, hfix, hrest⟩ := Option.bind_eq_some_iff.1 hruns
  have ⟨⟨⟨_, _⟩, _⟩, hupgrade, hsame⟩ := Option.map_eq_some_iff.1 hrest
  have hsteps : Relation.ReflTransGen Step (load mixedContents) mixedUpgraded := by
    cases hsame
    have hwords : ∀ record ∈ mixedUpgradeReport.repos, record.tag.NoBlanks := by decide +kernel
    have hfixed := Operation.fix hfix
    exact .tail (.single ⟨onlyExact, _, _, hhex, hfixed⟩)
      ⟨onlyExact, _, _, hfixed.answersHex hhex,
        .upgrade (writesWords_of_report hupgrade hwords) hupgrade⟩
  ⟨hsteps, never_drifts (by decide +kernel) (by decide +kernel) hsteps⟩

end Pinning

end PinnedActions
