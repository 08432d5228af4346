import PinnedActions.Proofs.Pinning.Commute
import PinnedActions.Proofs.Pinning.Settled
import PinnedActions.Proofs.Resolver.Apart
import Mathlib.Data.List.Perm.Basic

/-!
# Upgrading one repository at a time

An upgrade of everything settles one repository after the other.  Instead one may upgrade each
repository by itself, in any order, and with the session of the call before or with a new one
(`upgradeEach`).  If the upgrade of everything ends well, so do all these calls, the files are the
same in the end, and each call reports of its repository what the whole upgrade reports of it
(`upgrade_one_by_one`).

Three things make it so.  What is remembered about one repository does not depend on what was done
for others; the edits for other repositories do not touch its usages, so they are in scope as before
(`inScope_applyEdits_of_apart`); and edits of different usages commute.
-/

set_option autoImplicit false

namespace PinnedActions

namespace Pinning

open Resolver Walk

/-- Upgrades repositories one after the other.  The call for a repository starts from what `renew`
makes of the session in which the call before ended. -/
def upgradeEach (source : Source) (settings : Settings) (version : Option Text)
    (renew : Text → Session → Session) :
    List Text → List WorkflowFile → Sure (List (Except Failure UpgradeReport) × List WorkflowFile)
  | [], files => return ([], files)
  | key :: rest, files => do
    modify (renew key)
    let (report, files) ← upgrade source settings (.repository key) version files
    let (reports, files) ← upgradeEach source settings version renew rest files
    return (report :: reports, files)

variable {source : Source} {settings : Settings} {version : Option Text}
  {files files' : List WorkflowFile} {s s' t : Session}

/-! ## Settled groups -/

/-- The repositories of settled groups differ in more than letter case. -/
def GroupsApart (p q : Settled) : Prop := Apart p.1.owner p.1.repo q.1.owner q.1.repo

/-- What is remembered about the repository of a group. -/
abbrev SameAboutGroup (p : Settled) : Session → Session → Prop :=
  Session.SameAbout p.1.owner p.1.repo

theorem apart_of_key_ne {os : List Occurrence} {g g' : RepoUsages} (hg : g ∈ groupByRepository os)
    (hg' : g' ∈ groupByRepository os) (h : g.key ≠ g'.key) :
    Apart g.owner g.repo g'.owner g'.repo := by
  rintro ⟨ho, hr⟩
  rw [spelled_groupByRepository g hg, spelled_groupByRepository g' hg', ho, hr] at h
  exact h rfl

/-- Settling a group leaves alone what is remembered about the others. -/
theorem sameAboutGroup_of_latest {p q : Settled} (h : GroupsApart p q)
    {r : Except Failure Resolution}
    (hrun : (latest source p.1.owner p.1.repo version).runFrom s = some (r, t)) :
    SameAboutGroup q s t :=
  (closed_sameAbout h).latest_related version s r t hrun

/-- **A group that is settled among others would be settled by itself** in the same way. -/
theorem exists_runFrom_of_settles {done : List Settled} (h : Settles source version s done t)
    (hapart : done.Pairwise GroupsApart) {p : Settled} (hp : p ∈ done)
    (hsame : SameAboutGroup p s s') :
    ∃ t', (latest source p.1.owner p.1.repo version).runFrom s' = some (.ok p.2, t') := by
  induction h with
  | nil s => cases hp
  | @cons s t u g r rest hrun _ ih =>
    obtain ⟨hfirst, hrest⟩ := List.pairwise_cons.1 hapart
    rcases List.mem_cons.1 hp with rfl | hp
    · exact exists_runFrom_latest_of_sameAbout hrun hsame
    · have hleft : SameAboutGroup p s t := sameAboutGroup_of_latest (hfirst p hp) hrun
      exact ih hrest hp (hleft.symm.trans hsame)

/-! ## What is in scope -/

/-- What is in scope for one repository is what is in scope for everything and has its key. -/
theorem inScope_repository (settings : Settings) (key : Text) (files : List WorkflowFile) :
    inScope settings (.repository key) files =
      (inScope settings .everything files).filter fun o => keyOf o = key := by
  rw [inScope, inScope, List.filter_filter]
  refine List.filter_congr fun o _ => ?_
  simp only [isInScope, Target.includes, Bool.true_and]
  congr 1
  rw [Bool.eq_iff_iff, beq_iff_eq, decide_eq_true_iff]
  exact eq_comm

/-- **Edits for other repositories leave what is in scope for one as it is.** -/
theorem inScope_applyEdits_of_apart {done : List Settled} {key : Text}
    (hgroups : ∀ p ∈ done, p.1 ∈ groupByRepository (inScope settings .everything files) ∧
      p.1.key ≠ key) :
    inScope settings (.repository key) (applyEdits files (editsFor done)) =
      inScope settings (.repository key) files := by
  rw [inScope_applyEdits, inScope_repository]
  refine (List.map_congr_left fun o ho => ?_).trans (List.map_id' _)
  obtain ⟨ho, hkey⟩ := List.mem_filter.1 ho
  refine edited_of_not_mem fun e he hplace => ?_
  -- the edit is for an occurrence in another group, and no two occurrences are at one place
  obtain ⟨p, hp, o', ho', hedit⟩ := mem_editsFor.1 he
  obtain ⟨hgroup, hne⟩ := hgroups p hp
  have hin : o' ∈ inScope settings .everything files :=
    mem_iff_exists_group.2 ⟨p.1, hgroup, ho'⟩
  have hsame : o' = o := eq_of_place_eq hin ho ((place_of_upgradeEdit hedit).symm.trans hplace)
  rw [← key_eq_of_mem_group p.1 hgroup o' ho', hsame] at hne
  exact hne (by simpa using hkey)

/-! ## One repository -/

/-- The groups that an upgrade of everything settled. -/
structure SettledAll (source : Source) (settings : Settings) (version : Option Text)
    (files : List WorkflowFile) (done : List Settled) : Prop where
  groups : groupByRepository (inScope settings .everything files) = done.map Prod.fst
  settles : ∃ t, Settles source version .empty done t

namespace SettledAll

variable {done : List Settled}

theorem mem_groups (h : SettledAll source settings version files done) {p : Settled}
    (hp : p ∈ done) : p.1 ∈ groupByRepository (inScope settings .everything files) := by
  rw [h.groups]
  exact List.mem_map_of_mem hp

theorem nodup_key (h : SettledAll source settings version files done) :
    (done.map fun p => p.1.key).Nodup :=
  nodup_key_of_groups h.groups

theorem groupsApart (h : SettledAll source settings version files done) {p q : Settled}
    (hp : p ∈ done) (hq : q ∈ done) (hne : p.1.key ≠ q.1.key) : GroupsApart p q :=
  apart_of_key_ne (h.mem_groups hp) (h.mem_groups hq) hne

theorem pairwise_groupsApart (h : SettledAll source settings version files done) :
    done.Pairwise GroupsApart :=
  (List.pairwise_map.1 h.nodup_key).imp_of_mem fun hp hq hne => h.groupsApart hp hq hne

theorem nodup_place (h : SettledAll source settings version files done) :
    ((editsFor done).map Edit.place).Nodup :=
  nodup_place_of_groups h.groups

/-- **The call for one repository**, after some others were upgraded. -/
theorem exists_run_upgrade (h : SettledAll source settings version files done) {p : Settled}
    (hp : p ∈ done) {before : List Settled}
    (hbefore : ∀ q ∈ before, q ∈ done ∧ q.1.key ≠ p.1.key) (hsame : SameAboutGroup p .empty s) :
    ∃ report t, (upgrade source settings (.repository p.1.key) version
        (applyEdits files (editsFor before))).run s =
          some ((.ok report, applyEdits files (editsFor (before ++ [p]))), t) ∧
      report.repos = [groupRecord p.2 p.1] ∧
      ∀ q ∈ done, q.1.key ≠ p.1.key → SameAboutGroup q s t := by
  obtain ⟨u, hsettles⟩ := h.settles
  obtain ⟨t, hrun⟩ := exists_runFrom_of_settles hsettles h.pairwise_groupsApart hp hsame
  have hscope : inScope settings (.repository p.1.key) (applyEdits files (editsFor before)) =
      inScope settings (.repository p.1.key) files :=
    inScope_applyEdits_of_apart fun q hq => ⟨h.mem_groups (hbefore q hq).1, (hbefore q hq).2⟩
  have hgroups : groupByRepository (inScope settings (.repository p.1.key)
      (applyEdits files (editsFor before))) = [p].map Prod.fst := by
    rw [hscope, inScope_repository, groupByRepository_filter,
      filter_eq_singleton (nodup_key_groupByRepository _) (h.mem_groups hp)]
    rfl
  have hreferenced : Referenced settings (.repository p.1.key)
      (applyEdits files (editsFor before)) := by
    intro key hkey hempty
    cases hkey
    rw [hempty] at hgroups
    cases hgroups
  have hone : Settles source version s [p] t := .cons hrun (.nil t)
  have hfiles : applyEdits (applyEdits files (editsFor before)) (editsFor [p]) =
      applyEdits files (editsFor (before ++ [p])) := by
    rw [editsFor, editsFor, editsFor, List.flatMap_append]
    exact List.foldl_append.symm
  refine ⟨upgradeReport [groupRecord p.2 p.1] (applyEdits files (editsFor (before ++ [p]))), t, ?_,
    rfl, fun q hq hne => ?_⟩
  · rw [run_upgrade_of_settles hreferenced hgroups hone, hfiles]
    rfl
  · exact sameAboutGroup_of_latest (h.groupsApart hp hq hne.symm) hrun

/-! ## One repository after the other -/

theorem exists_run_upgradeEach (h : SettledAll source settings version files done)
    {renew : Text → Session → Session}
    (hrenew : ∀ key s, renew key s = s ∨ renew key s = .empty) {before order : List Settled}
    (hmem : ∀ p ∈ before ++ order, p ∈ done)
    (hnodup : ((before ++ order).map fun p => p.1.key).Nodup)
    (hsame : ∀ p ∈ order, SameAboutGroup p .empty s) :
    ∃ reports t, (upgradeEach source settings version renew (order.map fun p => p.1.key)
        (applyEdits files (editsFor before))).run s =
          some ((reports, applyEdits files (editsFor (before ++ order))), t) ∧
      List.Forall₂ (fun p r => ∃ report : UpgradeReport, r = .ok report ∧
        report.repos = [groupRecord p.2 p.1]) order reports := by
  induction order generalizing before s with
  | nil =>
    rw [List.append_nil]
    exact ⟨[], s, rfl, .nil⟩
  | cons p rest ih =>
    have hp : p ∈ done := hmem p (by simp)
    have hrenewed : ∀ q ∈ p :: rest, SameAboutGroup q .empty (renew p.1.key s) := fun q hq => by
      rcases hrenew p.1.key s with hkept | hnew
      · rw [hkept]
        exact hsame q hq
      · rw [hnew]
        exact .refl _
    have hkeys : ∀ q ∈ before ++ rest, q.1.key ≠ p.1.key := fun q hq hkey => by
      have hperm : (before ++ p :: rest).Perm (p :: (before ++ rest)) := List.perm_middle
      have hcons := (hperm.map fun p : Settled => p.1.key).nodup_iff.1 hnodup
      exact (List.nodup_cons.1 hcons).1 (List.mem_map.2 ⟨q, hq, hkey⟩)
    obtain ⟨report, u, hrun, hrepos, hothers⟩ := h.exists_run_upgrade hp
      (fun q hq => ⟨hmem q (List.mem_append_left _ hq), hkeys q (List.mem_append_left _ hq)⟩)
      (hrenewed p List.mem_cons_self)
    have hnext : ∀ q ∈ rest, SameAboutGroup q .empty u := fun q hq =>
      (hrenewed q (List.mem_cons_of_mem p hq)).trans
        (hothers q (hmem q (by simp [hq])) (hkeys q (List.mem_append_right _ hq)))
    rw [← List.singleton_append, ← List.append_assoc] at hmem hnodup ⊢
    obtain ⟨reports, t, hrest, hall⟩ := ih hmem hnodup hnext
    refine ⟨.ok report :: reports, t, ?_, .cons ⟨report, rfl, hrepos⟩ hall⟩
    have hmodify : (modify (renew p.1.key) : Sure Unit).run s = some ((), renew p.1.key s) := rfl
    rw [List.singleton_append, List.map_cons, upgradeEach, Sure.run_bind_of_eq_some hmodify,
      Sure.run_bind_of_eq_some hrun]
    simp only
    rw [Sure.run_bind_of_eq_some hrest]
    rfl

end SettledAll

/-! ## All repositories -/

/-- Whether a call for one repository ended well, with the one record that a report of everything has
for the repository. -/
def ReportsSame (report : UpgradeReport) (key : Text) (r : Except Failure UpgradeReport) : Prop :=
  ∃ (own : UpgradeReport) (record : RepoUpgrade), r = .ok own ∧ own.repos = [record] ∧
    report.repos.filter (fun other => Text.lowercase other.repository = key) = [record]

theorem SettledAll.reportsSame {done : List Settled}
    (h : SettledAll source settings version files done) {p : Settled} (hp : p ∈ done)
    {report : UpgradeReport} (hrepos : report.repos = done.map fun p => groupRecord p.2 p.1)
    {r : Except Failure UpgradeReport}
    (hr : ∃ own : UpgradeReport, r = .ok own ∧ own.repos = [groupRecord p.2 p.1]) :
    ReportsSame report p.1.key r := by
  obtain ⟨own, rfl, hown⟩ := hr
  refine ⟨own, _, rfl, hown, ?_⟩
  have hfilter : done.filter (fun q => Text.lowercase (groupRecord q.2 q.1).repository = p.1.key) =
      done.filter fun q => q.1.key = p.1.key := List.filter_congr fun q hq => by
    rw [lowercase_repository_groupRecord (h.mem_groups hq)]
  rw [hrepos, List.filter_map]
  show (done.filter fun q => Text.lowercase (groupRecord q.2 q.1).repository = p.1.key).map _ = _
  rw [hfilter, filter_eq_singleton h.nodup_key hp]
  rfl

/-- **Upgrading one repository at a time.**  If an upgrade of everything in files that were just read
ends well, then so does each call when the repositories in scope are upgraded one by one, in any
order, each from the session of the call before or from a new one.  The files are the same in the
end, and each call reports the record that the whole upgrade has for its repository. -/
theorem upgrade_one_by_one {contents : List (Bytes × Text)} {report : UpgradeReport}
    (h : (upgrade source settings .everything version (load contents)).run .empty =
      some ((.ok report, files'), t))
    {keys : List Text} (hnodup : keys.Nodup)
    (hkeys : ∀ key, key ∈ keys ↔ key ∈ (inScope settings .everything (load contents)).map keyOf)
    {renew : Text → Session → Session}
    (hrenew : ∀ key s, renew key s = s ∨ renew key s = .empty) :
    ∃ reports u, (upgradeEach source settings version renew keys (load contents)).run .empty =
        some ((reports, files'), u) ∧
      List.Forall₂ (ReportsSame report) keys reports := by
  obtain ⟨done, hgroups, hsettles, rfl, rfl⟩ := exists_settles_of_ok h
  have hall : SettledAll source settings version (load contents) done := ⟨hgroups, t, hsettles⟩
  -- the keys are those of the settled groups in some order
  have hperm : keys.Perm (done.map fun p => p.1.key) := by
    refine (List.perm_ext_iff_of_nodup hnodup hall.nodup_key).2 fun key => ?_
    rw [hkeys, List.mem_map, ← mem_key_groupByRepository, hgroups, List.map_map]
    rfl
  obtain ⟨order, hforall, horder⟩ := List.perm_comp_forall₂ hperm
    (List.forall₂_map_left_iff.2 (List.forall₂_same.2 fun p _ => rfl) :
      List.Forall₂ (fun key (p : Settled) => key = p.1.key) _ done)
  have hmap : keys = order.map fun p => p.1.key := by
    rw [← List.forall₂_eq_eq_eq, List.forall₂_map_right_iff]
    exact hforall
  have hmem : ∀ p ∈ [] ++ order, p ∈ done := fun p hp => horder.subset hp
  obtain ⟨reports, u, hrun, hreports⟩ := hall.exists_run_upgradeEach hrenew hmem
    (by rwa [List.nil_append, ← hmap]) fun p _ => .refl _
  have hfiles : applyEdits (load contents) (editsFor done) =
      applyEdits (load contents) (editsFor order) :=
    applyEdits_perm (horder.symm.flatMap_right _) (allApart_load contents) hall.nodup_place
  rw [List.nil_append, ← hfiles, ← hmap] at hrun
  refine ⟨reports, u, hrun, ?_⟩
  rw [hmap, List.forall₂_map_left_iff]
  have hboth := (List.forall₂_and_left (p := (· ∈ done)) order reports).2
    ⟨fun p hp => horder.subset hp, hreports⟩
  exact hboth.imp fun p r hpr => hall.reportsSame hpr.1 rfl hpr.2

/-- A catalog in which two repositories have a latest release. -/
def twoReleases : Source := Source.ofTable [
  ("repos/a/b/releases/latest".toList, .ok (.obj [("tag_name".toList, .str "v2".toList)])),
  ("repos/a/b/git/ref/tags/v2".toList, .ok (.obj [("object".toList,
    .obj [("sha".toList, .str (List.replicate 40 'a')), ("type".toList, .str commitType)])])),
  ("repos/C/d/releases/latest".toList, .ok (.obj [("tag_name".toList, .str "v3".toList)])),
  ("repos/C/d/git/ref/tags/v3".toList, .ok (.obj [("object".toList,
    .obj [("sha".toList, .str (List.replicate 40 'c')), ("type".toList, .str commitType)])]))]

/-- A file that uses both, one of them twice. -/
def twoContents : List (Bytes × Text) :=
  [(Utf8.bytes "ci.yml", "- uses: a/b@v1\n- uses: C/d@v1 # v1\n- uses: A/b/c@v1".toList)]

/-- The file once everything is upgraded. -/
def twoUpgraded : List WorkflowFile :=
  applyEdits (load twoContents) [⟨0, 0, List.replicate 40 'a', "v2".toList⟩,
    ⟨0, 2, List.replicate 40 'a', "v2".toList⟩, ⟨0, 1, List.replicate 40 'c', "v3".toList⟩]

/-- What the upgrade has to report. -/
def twoReport : UpgradeReport where
  repos := [⟨"a/b".toList, "v2".toList, List.replicate 40 'a', 2⟩,
    ⟨"C/d".toList, "v3".toList, List.replicate 40 'c', 1⟩]
  updated := 3
  filesChanged := 1

theorem upgrade_one_by_one_of_twoContents :
    ((upgrade twoReleases .default .everything none (load twoContents)).run .empty).map Prod.fst =
      some (.ok twoReport, twoUpgraded) ∧
    ∃ reports u, (upgradeEach twoReleases .default none (fun _ s => s) ["c/d".toList, "a/b".toList]
        (load twoContents)).run .empty = some ((reports, twoUpgraded), u) ∧
      List.Forall₂ (ReportsSame twoReport) ["c/d".toList, "a/b".toList] reports := by
  have hrun : ((upgrade twoReleases .default .everything none (load twoContents)).run
      .empty).map Prod.fst = some (.ok twoReport, twoUpgraded) := by decide +kernel
  have hscope : (inScope .default .everything (load twoContents)).map keyOf =
      ["a/b".toList, "c/d".toList, "a/b".toList] := by decide +kernel
  have hkeys : ∀ key, key ∈ ["c/d".toList, "a/b".toList] ↔
      key ∈ (inScope .default .everything (load twoContents)).map keyOf := fun key => by
    rw [hscope]
    exact ⟨List.mem_cons_of_mem _, fun h => (List.mem_cons.1 h).elim (fun h => by simp [h]) id⟩
  obtain ⟨⟨_, t⟩, h, rfl⟩ := Option.map_eq_some_iff.1 hrun
  exact ⟨hrun, upgrade_one_by_one h (by decide +kernel) hkeys fun _ _ => .inl rfl⟩

end Pinning

end PinnedActions
