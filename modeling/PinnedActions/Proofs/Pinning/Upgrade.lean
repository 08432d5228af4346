import PinnedActions.Proofs.Pinning.Edit
import PinnedActions.Proofs.Pinning.Group
import PinnedActions.Proofs.Resolver.Commits

/-!
# What a failed upgrade leaves behind

An upgrade settles one repository after the other, and the first that cannot be settled ends it.
The edits for those before it are carried out all the same, so a failed upgrade changes the files
unless there was nothing to edit.  `upgrade_failure` says which repositories were settled
(`FailsAfter`), what the files are then, and when they are what they were: exactly when every usage
of a settled repository has its version already (`HasAlready`).
-/

set_option autoImplicit false

namespace PinnedActions

namespace Pinning

open Resolver Walk

variable {source : Source} {settings : Settings} {target : Target} {version : Option Text}
  {files files' : List WorkflowFile} {s t : Session} {f : Failure}

/-! ## Settling groups -/

/-- Groups that are settled one after the other, each with what it moves to, and the sessions before
and after. -/
inductive Settles (source : Source) (version : Option Text) :
    Session → List (RepoUsages × Resolution) → Session → Prop where
  | nil (s : Session) : Settles source version s [] s
  | cons {s t u : Session} {g : RepoUsages} {r : Resolution} {rest : List (RepoUsages × Resolution)}
      (h : (latest source g.owner g.repo version).runFrom s = some (.ok r, t))
      (hrest : Settles source version t rest u) : Settles source version s ((g, r) :: rest) u

/-- The edits for settled groups. -/
def editsFor (done : List (RepoUsages × Resolution)) : List Edit :=
  done.flatMap fun p => groupEdits p.2 p.1

/-- What a run over groups can do: settle all of them, or come to one that cannot be settled. -/
inductive GroupsRun (source : Source) (version : Option Text) (s : Session) :
    List RepoUsages → List Edit → Except Failure (List RepoUpgrade) → Session → Prop where
  | settled {done : List (RepoUsages × Resolution)} {t : Session}
      (hdone : Settles source version s done t) :
      GroupsRun source version s (done.map Prod.fst) (editsFor done)
        (.ok (done.map fun p => groupRecord p.2 p.1)) t
  | stuck {done : List (RepoUsages × Resolution)} {g : RepoUsages} {rest : List RepoUsages}
      {f : Failure} {t u : Session} (hdone : Settles source version s done u)
      (hfail : (latest source g.owner g.repo version).runFrom u = some (.error f, t)) :
      GroupsRun source version s (done.map Prod.fst ++ g :: rest) (editsFor done) (.error f) t

theorem groupsRun_of_run {groups : List RepoUsages} {edits : List Edit}
    {records : Except Failure (List RepoUpgrade)}
    (h : (upgradeGroups source version groups).run s = some ((edits, records), t)) :
    GroupsRun source version s groups edits records t := by
  induction groups generalizing s edits records with
  | nil =>
    cases h
    exact .settled (.nil _)
  | cons g rest ih =>
    obtain ⟨result, u, h1, h2⟩ := Sure.run_bind_eq_some h
    cases result with
    | error f =>
      cases h2
      exact .stuck (.nil _) h1
    | ok r =>
      obtain ⟨⟨others, records⟩, v, h3, h4⟩ := Sure.run_bind_eq_some h2
      cases h4
      cases ih h3 with
      | settled hdone => exact .settled (.cons h1 hdone)
      | stuck hdone hfail => exact .stuck (.cons h1 hdone) hfail

/-- Groups that can be settled are. -/
theorem run_upgradeGroups_of_settles {done : List (RepoUsages × Resolution)}
    (h : Settles source version s done t) :
    (upgradeGroups source version (done.map Prod.fst)).run s =
      some ((editsFor done, .ok (done.map fun p => groupRecord p.2 p.1)), t) := by
  induction h with
  | nil s => rfl
  | @cons s t u g r rest hrun _ ih =>
    have hattempt : (latest source g.owner g.repo version).attempt.run s = some (.ok r, t) := hrun
    rw [List.map_cons, upgradeGroups, Sure.run_bind_of_eq_some hattempt]
    simp only
    rw [Sure.run_bind_of_eq_some ih]
    rfl

/-- The edits of a run are those for the groups that it settled. -/
theorem GroupsRun.exists_settles {groups : List RepoUsages} {edits : List Edit}
    {records : Except Failure (List RepoUpgrade)}
    (h : GroupsRun source version s groups edits records t) :
    ∃ done u, Settles source version s done u ∧ done.map Prod.fst <+: groups ∧
      edits = editsFor done := by
  cases h with
  | settled hdone => exact ⟨_, t, hdone, List.prefix_rfl, rfl⟩
  | stuck hdone _ => exact ⟨_, _, hdone, List.prefix_append .., rfl⟩

/-- What groups are settled on has what every run to the latest version ensures. -/
theorem Settles.forall_of_ensures {I : Session → Prop} {Q : Resolution → Prop}
    (hlatest : ∀ owner repo, Ensures I Q (latest source owner repo version))
    {done : List (RepoUsages × Resolution)} (h : Settles source version s done t) (hs : I s) :
    ∀ p ∈ done, Q p.2 := by
  induction h with
  | nil s => simp
  | @cons s u v g r rest hrun _ ih =>
    obtain ⟨hu, hr⟩ := hlatest g.owner g.repo s _ u hs hrun
    intro p hp
    rcases List.mem_cons.1 hp with rfl | hp
    · exact hr r rfl
    · exact ih hu p hp

/-- What groups are settled on has a commit with a property that all commits in memory have, and all
that can be found. -/
theorem Settles.forall_commit {P : Text → Prop}
    (hlatest : ∀ owner repo, Ensures (Session.CommitsAre P) (fun r => P r.commit)
      (latest source owner repo version))
    {done : List (RepoUsages × Resolution)} (h : Settles source version s done t)
    (hs : s.CommitsAre P) : ∀ p ∈ done, P p.2.commit :=
  h.forall_of_ensures hlatest hs

/-- Groups that were settled from the same session, of which the one list begins the other, were
settled alike. -/
theorem Settles.begins {done done' : List (RepoUsages × Resolution)} {t' : Session}
    (h : Settles source version s done t) (h' : Settles source version s done' t')
    (hgroups : done.map Prod.fst <+: done'.map Prod.fst) : done <+: done' := by
  induction h generalizing done' with
  | nil s => exact List.nil_prefix
  | @cons s t u g r rest hrun _ ih =>
    cases h' with
    | nil =>
      rw [List.map_nil, List.prefix_nil] at hgroups
      cases hgroups
    | cons hrun' hrest' =>
      rw [List.map_cons, List.map_cons, List.cons_prefix_cons] at hgroups
      obtain ⟨rfl, hgroups⟩ := hgroups
      have hsame := Option.some_inj.1 (hrun.symm.trans hrun')
      cases hsame
      exact List.cons_prefix_cons.2 ⟨rfl, ih hrest' hgroups⟩

/-- What is settled from lowercase commits moves to lowercase commits. -/
theorem Settles.lowercase {done : List (RepoUsages × Resolution)}
    (h : Settles source version s done t) (hs : s.CommitsAre fun c => Text.lowercase c = c) :
    ∀ p ∈ done, Text.lowercase p.2.commit = p.2.commit :=
  h.forall_commit
    (fun _ _ => latest_ensures supplies_lowercase (fun _ _ _ => lowercase_of_newestTag) version) hs

/-! ## Edits of settled groups -/

/-- The occurrences of the first groups are among those that were grouped, in some order. -/
theorem exists_perm_of_prefix {os : List Occurrence} {done : List (RepoUsages × Resolution)}
    (h : done.map Prod.fst <+: groupByRepository os) :
    ∃ os', List.Sublist (done.flatMap fun p => p.1.occurrences) os' ∧ os'.Perm os := by
  obtain ⟨rest, hrest⟩ := h
  refine ⟨_, ?_, perm_groupByRepository os⟩
  rw [← hrest, List.flatMap_append, List.flatMap_map]
  exact List.sublist_append_left _ _

/-- Whether an occurrence has what it is to be moved to already. -/
def HasAlready (r : Resolution) (o : Occurrence) : Prop :=
  agrees o.usage r.commit (Comment.join r.tag (Comment.split o.usage.comment).2) = true

theorem mem_editsFor {done : List (RepoUsages × Resolution)} {e : Edit} :
    e ∈ editsFor done ↔ ∃ p ∈ done, ∃ o ∈ p.1.occurrences, upgradeEdit p.2 o = some e := by
  simp [editsFor, groupEdits]

theorem place_of_upgradeEdit {r : Resolution} {o : Occurrence} {e : Edit}
    (h : upgradeEdit r o = some e) : e.place = o.place := by
  obtain ⟨-, rfl⟩ := editFor_eq_some.1 h
  rfl

/-- The edits for settled groups are for occurrences that were grouped. -/
theorem exists_place_of_mem_editsFor {os : List Occurrence} {done : List (RepoUsages × Resolution)}
    (h : done.map Prod.fst <+: groupByRepository os) {e : Edit} (he : e ∈ editsFor done) :
    ∃ o ∈ os, e.place = o.place := by
  obtain ⟨p, hp, o, ho, hedit⟩ := mem_editsFor.1 he
  obtain ⟨os', hsub, hperm⟩ := exists_perm_of_prefix h
  have hmem : o ∈ done.flatMap fun p => p.1.occurrences := List.mem_flatMap.2 ⟨p, hp, ho⟩
  exact ⟨o, hperm.subset (hsub.subset hmem), place_of_upgradeEdit hedit⟩

/-- Occurrences at different places have edits at different places. -/
theorem nodup_place_editsFor {done : List (RepoUsages × Resolution)}
    (h : ((done.flatMap fun p => p.1.occurrences).map Occurrence.place).Nodup) :
    ((editsFor done).map Edit.place).Nodup := by
  refine List.Sublist.nodup ?_ h
  rw [editsFor, List.map_flatMap, List.map_flatMap]
  induction done with
  | nil => exact List.Sublist.refl _
  | cons p rest ih =>
    rw [List.flatMap_cons, List.flatMap_cons]
    rw [List.flatMap_cons, List.map_append, List.nodup_append] at h
    refine List.Sublist.append (sublist_place_filterMap ?_) (ih h.2.1)
    exact List.forall₂_same.2 fun o _ e he => place_of_upgradeEdit he

/-- The edits for the first groups of what is in scope are at different places. -/
theorem nodup_place_of_firstGroups {done : List (RepoUsages × Resolution)}
    (h : done.map Prod.fst <+: groupByRepository (inScope settings target files)) :
    ((editsFor done).map Edit.place).Nodup := by
  obtain ⟨os, hsub, hperm⟩ := exists_perm_of_prefix h
  have hnodup : (os.map Occurrence.place).Nodup :=
    (hperm.map Occurrence.place).nodup_iff.2 (nodup_place_inScope settings target files)
  exact nodup_place_editsFor (hnodup.sublist (hsub.map Occurrence.place))

/-- An edit that an occurrence needs changes it. -/
theorem edited_ne_self {done : List (RepoUsages × Resolution)} {p : RepoUsages × Resolution}
    {o : Occurrence} (hnodup : ((editsFor done).map Edit.place).Nodup) (hp : p ∈ done)
    (ho : o ∈ p.1.occurrences) (hlower : Text.lowercase p.2.commit = p.2.commit)
    (h : ¬HasAlready p.2 o) : edited (editsFor done) o ≠ o := by
  rw [HasAlready, Bool.not_eq_true] at h
  have he : upgradeEdit p.2 o = some ⟨o.file, o.index, p.2.commit,
      Comment.join p.2.tag (Comment.split o.usage.comment).2⟩ := editFor_eq_some.2 ⟨h, rfl⟩
  rw [edited_of_mem hnodup (mem_editsFor.2 ⟨p, hp, o, ho, he⟩) rfl]
  intro hsame
  -- the edited usage agrees with what it was moved to, and it is the old one
  have husage := congrArg Occurrence.usage hsame
  have hreference : Text.lowercase p.2.commit = o.usage.reference :=
    congrArg Usage.reference husage
  have hcomment : Comment.join p.2.tag (Comment.split o.usage.comment).2 = o.usage.comment :=
    congrArg Usage.comment husage
  rw [hlower] at hreference
  rw [agrees, hreference, hcomment, Text.sameIgnoringCase, Text.sameIgnoringCase,
    beq_self_eq_true, beq_self_eq_true] at h
  cases h

/-! ## The whole run -/

theorem upgrade_of_not_referenced {key : Text}
    (h : inScope settings (.repository key) files = []) :
    upgrade source settings (.repository key) version files =
      pure (.error (.repositoryNotReferenced key), files) := by
  unfold upgrade
  rw [h]
  rfl

/-- What an upgrade reports. -/
def upgradeReport (records : List RepoUpgrade) (files : List WorkflowFile) : UpgradeReport :=
  ⟨records, (records.map RepoUpgrade.updated).foldr (· + ·) 0, countDirty files⟩

theorem upgrade_of_referenced (h : Referenced settings target files) :
    upgrade source settings target version files = do
      let (edits, records) ← upgradeGroups source version
        (groupByRepository (inScope settings target files))
      let after := applyEdits files edits
      return (records.map fun rs => upgradeReport rs after, after) := by
  unfold upgrade
  simp only
  split
  · rename_i key hempty
    exact absurd (groupByRepository_eq_nil_iff.1 hempty) (h key rfl)
  · rfl

/-- All that a run of `upgrade` can be: it complains that nothing is in scope, or it carries out the
edits of the groups that it settled. -/
inductive UpgradeRun (source : Source) (settings : Settings) (target : Target)
    (version : Option Text) (files : List WorkflowFile) (s : Session) :
    Except Failure UpgradeReport → List WorkflowFile → Session → Prop where
  | refused {key : Text} (htarget : target = .repository key)
      (hempty : inScope settings (.repository key) files = []) :
      UpgradeRun source settings target version files s (.error (.repositoryNotReferenced key))
        files s
  | grouped {edits : List Edit} {records : Except Failure (List RepoUpgrade)} {t : Session}
      (hreferenced : Referenced settings target files)
      (hrun : (upgradeGroups source version
        (groupByRepository (inScope settings target files))).run s = some ((edits, records), t)) :
      UpgradeRun source settings target version files s
        (records.map fun rs => upgradeReport rs (applyEdits files edits))
        (applyEdits files edits) t

theorem upgradeRun_of_run {report : Except Failure UpgradeReport}
    (h : (upgrade source settings target version files).run s = some ((report, files'), t)) :
    UpgradeRun source settings target version files s report files' t := by
  by_cases hreferenced : Referenced settings target files
  · rw [upgrade_of_referenced hreferenced] at h
    obtain ⟨⟨edits, records⟩, u, hrun, h⟩ := Sure.run_bind_eq_some h
    cases h
    exact .grouped hreferenced hrun
  · obtain ⟨key, rfl, hempty⟩ := exists_of_not_referenced hreferenced
    rw [upgrade_of_not_referenced hempty] at h
    cases h
    exact .refused rfl hempty

/-- How an upgrade fails: after some groups were settled the next one cannot be, or the repository
that it is aimed at has no usage in scope. -/
def FailsAfter (source : Source) (settings : Settings) (target : Target) (version : Option Text)
    (files : List WorkflowFile) (s : Session) (done : List (RepoUsages × Resolution)) (f : Failure)
    (t : Session) : Prop :=
  (∃ g rest u, groupByRepository (inScope settings target files) = done.map Prod.fst ++ g :: rest ∧
    Settles source version s done u ∧
    (latest source g.owner g.repo version).runFrom u = some (.error f, t)) ∨
  (∃ key, target = .repository key ∧ inScope settings target files = [] ∧ done = [] ∧
    f = .repositoryNotReferenced key ∧ t = s)

/-- An upgrade that ends well settled all groups. -/
theorem exists_settles_of_ok {report : UpgradeReport}
    (h : (upgrade source settings target version files).run s = some ((.ok report, files'), t)) :
    ∃ done, groupByRepository (inScope settings target files) = done.map Prod.fst ∧
      Settles source version s done t ∧ files' = applyEdits files (editsFor done) ∧
      report = upgradeReport (done.map fun p => groupRecord p.2 p.1) files' := by
  generalize hreport : Except.ok report = result at h
  cases upgradeRun_of_run h with
  | refused => cases hreport
  | grouped _ hrun =>
    generalize groupByRepository (inScope settings target files) = groups at hrun ⊢
    cases groupsRun_of_run hrun with
    | settled hdone =>
      cases hreport
      exact ⟨_, rfl, hdone, rfl, rfl⟩
    | stuck => cases hreport

/-- An upgrade that can settle all groups ends well. -/
theorem run_upgrade_of_settles (hreferenced : Referenced settings target files)
    {done : List (RepoUsages × Resolution)}
    (hgroups : groupByRepository (inScope settings target files) = done.map Prod.fst)
    (h : Settles source version s done t) :
    (upgrade source settings target version files).run s =
      some ((.ok (upgradeReport (done.map fun p => groupRecord p.2 p.1)
        (applyEdits files (editsFor done))), applyEdits files (editsFor done)), t) := by
  rw [upgrade_of_referenced hreferenced, hgroups,
    Sure.run_bind_of_eq_some (run_upgradeGroups_of_settles h)]
  rfl

theorem exists_failsAfter
    (h : (upgrade source settings target version files).run s = some ((.error f, files'), t)) :
    ∃ done, FailsAfter source settings target version files s done f t ∧
      files' = applyEdits files (editsFor done) := by
  generalize hreport : Except.error f = result at h
  cases upgradeRun_of_run h with
  | refused htarget hempty =>
    cases hreport
    exact ⟨[], .inr ⟨_, htarget, htarget ▸ hempty, rfl, rfl, rfl⟩, rfl⟩
  | grouped _ hrun =>
    generalize hgroups : groupByRepository (inScope settings target files) = groups at hrun
    cases groupsRun_of_run hrun with
    | settled => cases hreport
    | stuck hdone hfail =>
      cases hreport
      exact ⟨_, .inl ⟨_, _, _, hgroups, hdone, hfail⟩, rfl⟩

theorem FailsAfter.settles {done : List (RepoUsages × Resolution)}
    (h : FailsAfter source settings target version files s done f t) :
    ∃ u, Settles source version s done u := by
  rcases h with ⟨_, _, u, -, hdone, -⟩ | ⟨_, -, -, rfl, -, -⟩
  · exact ⟨u, hdone⟩
  · exact ⟨s, .nil s⟩

/-- The occurrences of settled groups are among those of the files, in some order. -/
theorem FailsAfter.exists_perm {done : List (RepoUsages × Resolution)}
    (h : FailsAfter source settings target version files s done f t) :
    ∃ os, List.Sublist (done.flatMap fun p => p.1.occurrences) os ∧
      os.Perm (inScope settings target files) := by
  rcases h with ⟨g, rest, u, hgroups, -, -⟩ | ⟨_, -, -, rfl, -, -⟩
  · exact exists_perm_of_prefix ⟨g :: rest, hgroups.symm⟩
  · exact ⟨_, List.nil_sublist _, .refl _⟩

/-- **What a failed upgrade leaves behind.**  Some groups were settled before the failure, and their
edits are carried out.  The files are as they were if all usages of these groups had their version
already.  If the remembered commits are in lowercase, as after any history of calls
(`commitsAre_lowercase_of_isReached`), they are as they were only then. -/
theorem upgrade_failure
    (h : (upgrade source settings target version files).run s = some ((.error f, files'), t)) :
    ∃ done : List (RepoUsages × Resolution),
      FailsAfter source settings target version files s done f t ∧
      files' = applyEdits files (editsFor done) ∧
      ((∀ p ∈ done, ∀ o ∈ p.1.occurrences, HasAlready p.2 o) → files' = files) ∧
      (s.CommitsAre (fun c => Text.lowercase c = c) → files' = files →
        ∀ p ∈ done, ∀ o ∈ p.1.occurrences, HasAlready p.2 o) := by
  obtain ⟨done, hfails, rfl⟩ := exists_failsAfter h
  refine ⟨done, hfails, rfl, fun hall => ?_, fun hs hsame p hp o ho => ?_⟩
  · have hnone : editsFor done = [] := List.eq_nil_iff_forall_not_mem.2 fun e he => by
      obtain ⟨p, hp, o, ho, hedit⟩ := mem_editsFor.1 he
      have hagrees : upgradeEdit p.2 o = none := editFor_eq_none.2 (hall p hp o ho)
      rw [hagrees] at hedit
      cases hedit
    rw [hnone]
    rfl
  · by_contra hneeds
    obtain ⟨os, hsub, hperm⟩ := hfails.exists_perm
    have hsub' : List.Sublist (inScope settings target files) (occurrences files) :=
      List.filter_sublist
    have hnodup : ((done.flatMap fun p => p.1.occurrences).map Occurrence.place).Nodup :=
      (((hperm.map _).nodup_iff.2 ((nodup_place_occurrences files).sublist (hsub'.map _))).sublist
        (hsub.map _))
    have hmem : o ∈ occurrences files :=
      hsub'.subset (hperm.subset (hsub.subset (List.mem_flatMap.2 ⟨p, hp, ho⟩)))
    obtain ⟨u, hsettles⟩ := hfails.settles
    refine edited_ne_self (nodup_place_editsFor hnodup) hp ho (hsettles.lowercase hs p hp) hneeds ?_
    -- the files are the same, so every occurrence is what it was
    have hoccurrences := occurrences_applyEdits files (editsFor done)
    rw [hsame] at hoccurrences
    exact List.map_inj_left.1 (hoccurrences.symm.trans (List.map_id _).symm) o hmem

/-- The failure of a catalog that is down when it is asked about `c/d`. -/
def down : Failure := .http 500 "repos/c/d/releases/latest".toList "down".toList

/-- A catalog in which `a/b` has a latest release and that is down for `c/d`. -/
def halfway : Source := Source.ofTable [
  ("repos/a/b/releases/latest".toList, .ok (.obj [("tag_name".toList, .str "v2".toList)])),
  ("repos/a/b/git/ref/tags/v2".toList, .ok (.obj [("object".toList,
    .obj [("sha".toList, .str (List.replicate 40 'a')), ("type".toList, .str commitType)])])),
  ("repos/c/d/releases/latest".toList, .error down)]

/-- What a resolver remembers after it went halfway. -/
def halfwaySession : Session where
  references := [(Session.key ['a'] ['b'] "v2".toList, List.replicate 40 'a')]
  specs := []
  fetched := ["repos/c/d/releases/latest".toList, "repos/a/b/git/ref/tags/v2".toList,
    "repos/a/b/releases/latest".toList]

/-- A file with a usage of each of the two. -/
def mixedFile : WorkflowFile :=
  WorkflowFile.parse (Utf8.bytes "ci.yml") "- uses: a/b@v1\n- uses: c/d@v1\n".toList

/-- The file with the first of them moved. -/
def movedFile : WorkflowFile := (mixedFile.repin 0 (List.replicate 40 'a') "v2".toList).1

theorem upgrade_failure_of_mixedFile :
    (upgrade halfway .default .everything none [mixedFile]).run .empty =
      some ((.error down, [movedFile]), halfwaySession) ∧
    ∃ done, FailsAfter halfway .default .everything none [mixedFile] .empty done down
      halfwaySession ∧ [movedFile] = applyEdits [mixedFile] (editsFor done) :=
  have hrun : (upgrade halfway .default .everything none [mixedFile]).run .empty =
      some ((.error down, [movedFile]), halfwaySession) := by decide +kernel
  have ⟨done, hfails, hfiles, _⟩ := upgrade_failure hrun
  ⟨hrun, done, hfails, hfiles⟩

/-- **A failed upgrade can change the files**: the usage of `a/b` is moved before `c/d` fails. -/
theorem upgrade_moves_before_failure :
    ((upgrade halfway .default .everything none [mixedFile]).run .empty).map Prod.fst =
      some (.error down, [movedFile]) ∧
    movedFile.lines ≠ mixedFile.lines ∧ movedFile.usages ≠ mixedFile.usages ∧
    mixedFile.isDirty = false ∧ movedFile.isDirty = true := by
  decide +kernel

end Pinning

end PinnedActions
