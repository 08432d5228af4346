import PinnedActions.Proofs.Pinning.OneByOne
import PinnedActions.Proofs.Pinning.OutOfScope
import PinnedActions.Proofs.Pinning.PinnedAlike
import PinnedActions.Proofs.Resolver.OwnName

/-!
# A successful upgrade leaves nothing behind

An upgrade that ends well did all that it had to do, and no more (`upgrade_is_uniform`).  It looked for
the latest version of each repository in scope once, in the order in which they first occur, and the
report has one record for each.  After it every usage in scope, wherever it stands, has the commit and
the tag of the record of its repository and the remark that it had (`Brings`); everything else, and
every line that is not that of a usage in scope, is what it was.
-/

set_option autoImplicit false

namespace PinnedActions

namespace Pinning

open Resolver Walk

variable {source : Source} {settings : Settings} {target : Target} {version : Option Text}
  {files files' : List WorkflowFile} {s t : Session} {o : Occurrence} {r : Resolution}

/-! ## One usage -/

/-- Whether a usage was brought to what a record says, all up to the case of ASCII letters: it has the
commit, and a comment made of the tag and of the remark that it had.  The two can be told apart again
when the tag is a word. -/
structure Brings (record : RepoUpgrade) (o o' : Occurrence) : Prop where
  repository : Text.lowercase record.repository = keyOf o
  commit : Text.sameIgnoringCase record.commit o'.usage.reference = true
  comment : Text.sameIgnoringCase (Comment.join record.tag (Comment.split o.usage.comment).2)
    o'.usage.comment = true
  tag : record.tag.IsWord →
    Text.sameIgnoringCase record.tag (Comment.split o'.usage.comment).1 = true
  remark : record.tag.IsWord →
    Text.sameIgnoringCase (Comment.split o.usage.comment).2 (Comment.split o'.usage.comment).2 = true

/-- What an upgrade with some records makes of an occurrence. -/
structure Upgraded (settings : Settings) (target : Target) (records : List RepoUpgrade)
    (o o' : Occurrence) : Prop where
  place : o'.place = o.place
  path : o'.path = o.path
  unpinned : o'.usage.unpinned = o.usage.unpinned
  inside : isInScope settings target o.usage.action = true → ∃ record ∈ records, Brings record o o'
  outside : isInScope settings target o.usage.action = false → o' = o

/-- Moving an occurrence changes its pin alone. -/
theorem kept_movedTo (r : Resolution) (o : Occurrence) :
    (movedTo r o).place = o.place ∧ (movedTo r o).path = o.path ∧
      (movedTo r o).usage.unpinned = o.usage.unpinned := by
  rw [movedTo]
  cases upgradeEdit r o <;> exact ⟨rfl, rfl, rfl⟩

/-- An occurrence that is moved to a resolution with a commit in lowercase has the commit and the
comment. -/
theorem agrees_movedTo (hlower : Text.lowercase r.commit = r.commit) (o : Occurrence) :
    agrees (movedTo r o).usage r.commit
      (Comment.join r.tag (Comment.split o.usage.comment).2) = true := by
  rw [movedTo]
  cases hedit : upgradeEdit r o with
  | none => exact editFor_eq_none.1 hedit
  | some e =>
    obtain ⟨-, rfl⟩ := editFor_eq_some.1 hedit
    have hreference : (o.usage.repinned r.commit
        (Comment.join r.tag (Comment.split o.usage.comment).2)).reference = r.commit := hlower
    show agrees (o.usage.repinned r.commit
      (Comment.join r.tag (Comment.split o.usage.comment).2)) _ _ = true
    rw [agrees, Bool.and_eq_true, Text.sameIgnoringCase_iff, Text.sameIgnoringCase_iff, hreference]
    exact ⟨rfl, rfl⟩

theorem brings_movedTo (hlower : Text.lowercase r.commit = r.commit) {g : RepoUsages}
    (hkey : Text.lowercase (groupRecord r g).repository = keyOf o) :
    Brings (groupRecord r g) o (movedTo r o) := by
  obtain ⟨hcommit, hcomment⟩ := Bool.and_eq_true_iff.1 (agrees_movedTo hlower o)
  refine ⟨hkey, hcommit, hcomment, fun hword : r.tag.IsWord => ?_, fun hword : r.tag.IsWord => ?_⟩
  · have htag := Comment.split_fst_congr hcomment
    rw [Comment.split_join hword.1 hword.2] at htag
    exact htag
  · have hremark := Comment.split_snd_congr hcomment
    rw [Comment.split_join hword.1 hword.2] at hremark
    have htrim : Text.trim (Comment.split o.usage.comment).2 = (Comment.split o.usage.comment).2 :=
      Text.trim_trim _
    rwa [htrim] at hremark

/-! ## All usages -/

section Groups

variable {done : List Settled}
  (hgroups : groupByRepository (inScope settings target files) = done.map Prod.fst)
include hgroups

/-- No edit is for an occurrence out of scope. -/
theorem edited_of_not_inScope (ho : o ∈ occurrences files)
    (hout : isInScope settings target o.usage.action = false) : edited (editsFor done) o = o := by
  refine edited_of_not_mem fun e he hplace => ?_
  have hprefix : done.map Prod.fst <+: groupByRepository (inScope settings target files) := by
    rw [hgroups]
  obtain ⟨o', ho', hsame⟩ := exists_place_of_mem_editsFor hprefix he
  obtain ⟨hmem, hin⟩ := List.mem_filter.1 ho'
  obtain rfl : o' = o := List.inj_on_of_nodup_map (nodup_place_occurrences files) hmem ho
    (hsame.symm.trans hplace)
  rw [hout] at hin
  cases hin

/-- **What the edits for all groups make of an occurrence.** -/
theorem upgraded_edited (hlower : ∀ p ∈ done, Text.lowercase p.2.commit = p.2.commit)
    (ho : o ∈ occurrences files) :
    Upgraded settings target (done.map fun p => groupRecord p.2 p.1) o
      (edited (editsFor done) o) := by
  cases hscope : isInScope settings target o.usage.action with
  | false =>
    rw [edited_of_not_inScope hgroups ho hscope]
    exact ⟨rfl, rfl, rfl, fun hin => Bool.noConfusion (hscope.symm.trans hin), fun _ => rfl⟩
  | true =>
    obtain ⟨p, hp, hmem⟩ := exists_settled_of_mem_inScope hgroups (List.mem_filter.2 ⟨ho, hscope⟩)
    rw [edited_editsFor hgroups hp hmem]
    obtain ⟨hplace, hpath, hunpinned⟩ := kept_movedTo p.2 o
    have hkey : Text.lowercase (groupRecord p.2 p.1).repository = keyOf o :=
      (lowercase_repository_groupRecord (hgroups ▸ List.mem_map_of_mem hp) p.2).trans
        (key_of_settled hgroups hp hmem).symm
    exact ⟨hplace, hpath, hunpinned,
      fun _ => ⟨_, List.mem_map_of_mem hp, brings_movedTo (hlower p hp) hkey⟩,
      fun hout => Bool.noConfusion (hout.symm.trans hscope)⟩

/-- The records are for the repositories of the groups. -/
theorem map_repository_records :
    (done.map fun p => Text.lowercase (groupRecord p.2 p.1).repository) =
      done.map fun p => p.1.key :=
  List.map_congr_left fun p hp =>
    lowercase_repository_groupRecord (hgroups ▸ List.mem_map_of_mem hp) p.2

/-- The groups are spelled like the first usages, in their order. -/
theorem map_spelling_of_groups :
    done.map (fun p => spelling p.1) = (firstUsages [] (inScope settings target files)).map
      fun o => (keyOf o, o.usage.action.owner, o.usage.action.repo) := by
  rw [← map_spelling_groupByRepository, hgroups, List.map_map]
  rfl

end Groups

/-- **A successful upgrade is complete, uniform and exact.**  After an upgrade of files that were just
read, which may start from whatever earlier calls have left behind:

* every repository in scope was settled by one search for its latest version, in the order in which
  they first occur and as they are spelled there, and that is what the report has its records of;
* no two records are for one repository, and every repository in scope has one;
* every usage in scope was brought to the record of its repository, and all others are as they were;
* no line has changed but those of usages in scope;
* the report counts the usages that were changed for all repositories together. -/
theorem upgrade_is_uniform (hs : s.IsReached source) {contents : List (Bytes × Text)}
    {report : UpgradeReport}
    (h : (upgrade source settings target version (load contents)).run s =
      some ((.ok report, files'), t)) :
    (∃ done : List Settled, Settles source version s done t ∧
      done.map (fun p => (p.1.owner, p.1.repo)) =
        (firstUsages [] (inScope settings target (load contents))).map
          (fun o => (o.usage.action.owner, o.usage.action.repo)) ∧
      report.repos = done.map fun p => groupRecord p.2 p.1) ∧
    (report.repos.map fun record => Text.lowercase record.repository) =
      (firstUsages [] (inScope settings target (load contents))).map keyOf ∧
    (report.repos.map fun record => Text.lowercase record.repository).Nodup ∧
    List.Forall₂ (Upgraded settings target report.repos) (occurrences (load contents))
      (occurrences files') ∧
    List.Forall₂ (fun f f' => Untouched settings target f f' ∧
      ∀ u ∈ f.usages, covers settings target u = false →
        f'.lines.line? u.line = f.lines.line? u.line) (load contents) files' ∧
    report.updated = (report.repos.map RepoUpgrade.updated).foldr (· + ·) 0 := by
  obtain ⟨done, hgroups, hsettles, rfl, rfl⟩ := exists_settles_of_ok h
  have hlower := hsettles.lowercase (commitsAre_lowercase_of_isReached hs)
  have hrecords : ((upgradeReport (done.map fun p => groupRecord p.2 p.1)
      (applyEdits (load contents) (editsFor done))).repos.map fun record =>
        Text.lowercase record.repository) = done.map fun p => p.1.key := by
    rw [← map_repository_records hgroups, upgradeReport, List.map_map]
    rfl
  have hspelling := map_spelling_of_groups hgroups
  rw [hrecords]
  refine ⟨⟨done, hsettles, ?_, rfl⟩, ?_, nodup_key_of_groups hgroups, ?_, ?_, rfl⟩
  · have hnames := congrArg (List.map Prod.snd) hspelling
    rw [List.map_map, List.map_map] at hnames
    exact hnames
  · have hkeys := congrArg (List.map Prod.fst) hspelling
    rw [List.map_map, List.map_map] at hkeys
    exact hkeys
  · rw [occurrences_applyEdits, List.forall₂_map_right_iff, List.forall₂_same]
    exact fun o ho => upgraded_edited hgroups hlower ho
  · have hprefix : done.map Prod.fst <+:
        groupByRepository (inScope settings target (load contents)) := by rw [hgroups]
    have huntouched : List.Forall₂ (Untouched settings target) (load contents)
        (applyEdits (load contents) (editsFor done)) :=
      untouched_applyEdits fun e he => exists_place_of_mem_editsFor hprefix he
    exact ((List.forall₂_and_left _ _).2 ⟨allApart_load contents, huntouched⟩).imp
      fun f f' hf => ⟨hf.2, hf.2.ownLines hf.1⟩

/-- Two files that use two repositories in turn, in different spellings. -/
def spreadContents : List (Bytes × Text) :=
  [(Utf8.bytes "ci.yml", "- uses: a/b@v1 # v1 (old)\n- uses: C/d@v1\n- uses: A/b/c@v1\n".toList),
    (Utf8.bytes "cd.yml", "- uses: c/D@v0 # V3\n- uses: a/B@v2 # v2 keep this\n".toList)]

/-- The files once everything is upgraded. -/
def spreadUpgraded : List WorkflowFile :=
  applyEdits (load spreadContents) [⟨0, 0, List.replicate 40 'a', "v2 (old)".toList⟩,
    ⟨0, 2, List.replicate 40 'a', "v2".toList⟩, ⟨1, 1, List.replicate 40 'a', "v2 keep this".toList⟩,
    ⟨0, 1, List.replicate 40 'c', "v3".toList⟩, ⟨1, 0, List.replicate 40 'c', "v3".toList⟩]

/-- The records of the upgrade. -/
def spreadRecords : List RepoUpgrade :=
  [⟨"a/b".toList, "v2".toList, List.replicate 40 'a', 3⟩,
    ⟨"C/d".toList, "v3".toList, List.replicate 40 'c', 2⟩]

theorem upgrade_is_uniform_of_spreadContents :
    ((upgrade twoReleases .default .everything none (load spreadContents)).run .empty).map Prod.fst =
      some (.ok ⟨spreadRecords, 5, 2⟩, spreadUpgraded) ∧
    Session.empty.IsReached twoReleases ∧
    List.Forall₂ (Upgraded .default .everything spreadRecords) (occurrences (load spreadContents))
      (occurrences spreadUpgraded) := by
  have hrun : ((upgrade twoReleases .default .everything none (load spreadContents)).run
      .empty).map Prod.fst = some (.ok ⟨spreadRecords, 5, 2⟩, spreadUpgraded) := by decide +kernel
  have hreached : Session.empty.IsReached twoReleases := ⟨[], rfl⟩
  obtain ⟨⟨_, t⟩, h, rfl⟩ := Option.map_eq_some_iff.1 hrun
  obtain ⟨-, -, -, hupgraded, -, -⟩ := upgrade_is_uniform hreached h
  exact ⟨hrun, hreached, hupgraded⟩

end Pinning

end PinnedActions
