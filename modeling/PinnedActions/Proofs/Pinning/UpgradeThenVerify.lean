import PinnedActions.Proofs.Pinning.OneByOne
import PinnedActions.Proofs.Pinning.OutOfScope
import PinnedActions.Proofs.Pinning.PinnedAlike
import PinnedActions.Proofs.Pinning.Runs
import PinnedActions.Proofs.Resolver.OwnName
import PinnedActions.Proofs.Usage.Anatomy

/-!
# Checking what was upgraded

After an upgrade of everything each usage is pinned to the commit that its repository was moved to,
and its comment names the tag (`PinnedAs`).  A check takes that name for a version, though, and a
version may stand for another tag by then: `v2` is the newest release of the second line, whatever
the tag `v2` points to.  So a check of what was just upgraded may find a mismatch
(`mismatch_after_upgrade`).

It finds none when the version of the first usage of each repository leads back to its commit, and
only then.  That is so for a tag that is looked for under its own name first, if the commit is the
one that the tag has; the latest release is always moved to with the commit of its tag
(`verify_after_upgrade`).
-/

set_option autoImplicit false

namespace PinnedActions

/-! ## Parts of repositories -/

namespace Action

/-- Plain repositories with one key are the same but for letter case. -/
theorem lowercase_eq_of_repoKey_eq {a b : Action} (ha : a.IsPlain) (h : a.repoKey = b.repoKey) :
    Text.lowercase a.owner = Text.lowercase b.owner ∧
      Text.lowercase a.repo = Text.lowercase b.repo := by
  have howner : '/' ∉ Text.lowercase a.owner :=
    fun hmem => ha.1 (Text.mark_mem_of_mem_lowercase (by decide) hmem)
  have hrepo : '/' ∉ Text.lowercase a.repo :=
    fun hmem => ha.2 (Text.mark_mem_of_mem_lowercase (by decide) hmem)
  rw [a.repoKey_eq, b.repoKey_eq, List.append_cons_inj_of_notMem howner hrepo] at h
  exact ⟨h.1, h.2.2⟩

end Action

/-! ## Tables without surprises -/

instance (t : Text) : Decidable t.IsWord := inferInstanceAs (Decidable (_ ∧ _))

/-- Whether nothing is wrong with what can be read out of an answer: commits are full hashes, and tags
are words. -/
def Payload.isTidy (answer : Json) : Bool :=
  (gitReference answer).toOption.all (fun object =>
    object.type != Resolver.commitType || Version.isFullHash object.hash) &&
  (release answer).toOption.all (fun release => release.tagName.NoBlanks) &&
  (tags answer).toOption.all fun tags => tags.all fun tag =>
    tag.commit.all Version.isFullHash && tag.name.IsWord

/-- What all answers of a table pass, all answers of its catalog pass. -/
theorem Catalog.passes_ofTable {table : List (Text × Answer)} {passes : Json → Bool}
    (h : (table.all fun p => p.2.toOption.all passes) = true) {path : Text} {answer : Json}
    (hanswer : ofTable table path = .ok answer) : passes answer = true := by
  rcases Pinning.answer_ofTable table path with hmem | hmissing
  · obtain ⟨p, hp, heq⟩ := List.mem_map.1 hmem
    have hall := List.all_eq_true.1 h p hp
    rw [heq, hanswer] at hall
    exact hall
  · rw [hanswer] at hmissing
    cases hmissing

theorem Catalog.ofTable_of_isTidy {table : List (Text × Answer)}
    (h : (table.all fun p => p.2.toOption.all Payload.isTidy) = true) :
    (ofTable table).HexHashes ∧ (ofTable table).WordTags := by
  have htidy : ∀ {path answer}, ofTable table path = .ok answer → Payload.isTidy answer = true :=
    passes_ofTable h
  simp only [Payload.isTidy, Bool.and_eq_true] at htidy
  refine ⟨⟨fun path answer object hanswer hread htype => ?_,
    fun path answer tags hanswer hread tag hmem hash hhash => ?_⟩,
    ⟨fun owner repo answer release hanswer hread => ?_,
      fun owner repo answer tags hanswer hread tag hmem => ?_⟩⟩
  · simpa [hread, htype, Except.toOption] using (htidy hanswer).1.1
  · have htags := (htidy hanswer).2
    rw [hread] at htags
    have htag := List.all_eq_true.1 htags tag hmem
    rw [hhash, Bool.and_eq_true] at htag
    exact htag.1
  · simpa [hread, Except.toOption] using (htidy hanswer).1.2
  · have htags := (htidy hanswer).2
    rw [hread] at htags
    have htag := List.all_eq_true.1 htags tag hmem
    rw [Bool.and_eq_true, decide_eq_true_iff] at htag
    exact htag.2

namespace Pinning

open Resolver Walk

variable {source : Source} {settings : Settings} {files files' : List WorkflowFile}
  {s t : Session} {o o' : Occurrence} {r : Resolution} {done : List Settled}

/-! ## One usage -/

/-- Whether an occurrence has the commit and the tag of a resolution, up to the case of ASCII
letters. -/
structure Moved (r : Resolution) (o : Occurrence) : Prop where
  hash : Version.isFullHash o.usage.reference = true
  commit : Text.sameIgnoringCase r.commit o.usage.reference = true
  tag : Text.sameIgnoringCase r.tag (versionOf o) = true

theorem moved_movedTo (hhash : Version.isFullHash r.commit = true) (hword : r.tag.IsWord)
    (o : Occurrence) : Moved r (movedTo r o) := by
  have hsplit : (Comment.split (Comment.join r.tag (Comment.split o.usage.comment).2)).1 =
      r.tag := by
    rw [Comment.split_join hword.1 hword.2]
  rw [movedTo]
  cases hedit : upgradeEdit r o with
  | some e =>
    obtain ⟨-, rfl⟩ := editFor_eq_some.1 hedit
    refine ⟨Version.isFullHash_lowercase hhash, Version.sameIgnoringCase_lowercase hhash, ?_⟩
    exact Text.sameIgnoringCase_iff.2 (congrArg (List.map Text.asciiLower) hsplit.symm)
  | none =>
    have hagrees := editFor_eq_none.1 hedit
    rw [agrees, Bool.and_eq_true] at hagrees
    refine ⟨(Version.isFullHash_congr hagrees.1).symm.trans hhash, hagrees.1, ?_⟩
    have hversion : Text.sameIgnoringCase
        (Comment.split (Comment.join r.tag (Comment.split o.usage.comment).2)).1
        (versionOf o) = true := Comment.split_fst_congr hagrees.2
    exact hsplit ▸ hversion

theorem Moved.version_ne_nil (h : Moved r o) (hword : r.tag.IsWord) : versionOf o ≠ [] := by
  have hlength := congrArg List.length (Text.sameIgnoringCase_iff.1 h.tag)
  rw [List.length_map, List.length_map] at hlength
  intro hnil
  rw [hnil, List.length_nil] at hlength
  exact hword.1 (List.eq_nil_of_length_eq_zero hlength)

/-- The repositories of usages that were just read are plain. -/
theorem isPlain_of_mem_inScope {target : Target} {contents : List (Bytes × Text)}
    (h : o ∈ inScope settings target (load contents)) : o.usage.action.IsPlain := by
  obtain ⟨⟨f, hf, -, hu⟩, -⟩ := mem_inScope.1 h
  obtain ⟨p, -, rfl⟩ := List.mem_map.1 (List.mem_of_getElem? hf)
  obtain ⟨line, u, hparse, -, hsame⟩ := WorkflowFile.exists_parse?_of_mem (List.mem_of_getElem? hu)
  obtain ⟨after, inner, reference, hread⟩ := Usage.parse?_eq_some_iff.1 hparse
  obtain ⟨-, -, -, -, haction⟩ := Usage.target?_eq_some_iff.1 hread.target
  rw [hsame]
  exact Action.isPlain_of_action? haction

/-! ## All usages -/

section Groups

variable (hgroups : groupByRepository (inScope settings .everything files) = done.map Prod.fst)
include hgroups

/-- After an upgrade each usage has the commit and the tag of its group. -/
theorem exists_moved (hhash : ∀ p ∈ done, Version.isFullHash p.2.commit = true)
    (hword : ∀ p ∈ done, p.2.tag.IsWord)
    (ho : o ∈ inScope settings .everything (applyEdits files (editsFor done))) :
    ∃ p ∈ done, p.1.key = keyOf o ∧ Moved p.2 o := by
  rw [inScope_applyEdits] at ho
  obtain ⟨o₀, ho₀, rfl⟩ := List.mem_map.1 ho
  obtain ⟨p, hp, hmem⟩ := exists_settled_of_mem_inScope hgroups ho₀
  refine ⟨p, hp, ?_, ?_⟩
  · rw [keyOf, action_edited]
    exact (key_of_settled hgroups hp hmem).symm
  · rw [edited_editsFor hgroups hp hmem]
    exact moved_movedTo (hhash p hp) (hword p hp) o₀

/-- **After an upgrade the usages of a repository are pinned alike.** -/
theorem pinnedAlike_applyEdits (hhash : ∀ p ∈ done, Version.isFullHash p.2.commit = true)
    (hword : ∀ p ∈ done, p.2.tag.IsWord)
    (hplain : ∀ o ∈ inScope settings .everything files, o.usage.action.IsPlain) :
    PinnedAlike (inScope settings .everything (applyEdits files (editsFor done))) := by
  have hmoved : ∀ o ∈ inScope settings .everything (applyEdits files (editsFor done)),
      ∃ p ∈ done, p.1.key = keyOf o ∧ Moved p.2 o := fun o ho => exists_moved hgroups hhash hword ho
  have hplain' : ∀ o ∈ inScope settings .everything (applyEdits files (editsFor done)),
      o.usage.action.IsPlain := fun o ho => by
    rw [inScope_applyEdits] at ho
    obtain ⟨o₀, ho₀, rfl⟩ := List.mem_map.1 ho
    rw [action_edited]
    exact hplain o₀ ho₀
  have hboth : ∀ o ∈ inScope settings .everything (applyEdits files (editsFor done)),
      ∀ o' ∈ inScope settings .everything (applyEdits files (editsFor done)),
        keyOf o = keyOf o' → ∃ r, Moved r o ∧ Moved r o' := fun o ho o' ho' hkey => by
    obtain ⟨p, hp, hpkey, hpmoved⟩ := hmoved o ho
    obtain ⟨q, hq, hqkey, hqmoved⟩ := hmoved o' ho'
    rw [settled_eq_of_key_eq hgroups hq hp (hqkey.trans (hkey.symm.trans hpkey.symm))] at hqmoved
    exact ⟨p.2, hpmoved, hqmoved⟩
  constructor
  · intro o ho
    obtain ⟨p, -, -, h⟩ := hmoved o ho
    exact h.hash
  · intro o ho
    obtain ⟨p, hp, -, h⟩ := hmoved o ho
    exact h.version_ne_nil (hword p hp)
  · intro o ho o' ho' hkey
    obtain ⟨r, h, h'⟩ := hboth o ho o' ho' hkey
    obtain ⟨howner, hrepo⟩ := Action.lowercase_eq_of_repoKey_eq (hplain' o ho) hkey
    have hform : Version.foldedForm (versionOf o) = Version.foldedForm (versionOf o') :=
      (Version.foldedForm_congr h.tag).symm.trans (Version.foldedForm_congr h'.tag)
    rw [specKey, specKey, key_eq_key_iff]
    exact ⟨howner, hrepo, hform⟩
  · intro o ho o' ho' hkey
    obtain ⟨r, h, h'⟩ := hboth o ho o' ho' hkey
    rw [Text.sameIgnoringCase_iff, ← Text.sameIgnoringCase_iff.1 h.commit,
      Text.sameIgnoringCase_iff.1 h'.commit]

/-- A settled group is spelled like the first usage of its repository. -/
theorem spelled_of_mem_firstUsages {p : Settled} (hp : p ∈ done) (hkey : p.1.key = keyOf o)
    (ho : o ∈ firstUsages [] (inScope settings .everything (applyEdits files (editsFor done)))) :
    p.1.owner = o.usage.action.owner ∧ p.1.repo = o.usage.action.repo := by
  have hkeep : ∀ o, keyOf (edited (editsFor done) o) = keyOf o := fun o => by
    rw [keyOf, action_edited]
  rw [inScope_applyEdits, firstUsages_map hkeep] at ho
  obtain ⟨o₀, ho₀, rfl⟩ := List.mem_map.1 ho
  obtain ⟨g, hg, hgkey, howner, hrepo⟩ := exists_group_of_mem_firstUsages ho₀
  rw [hgroups] at hg
  obtain ⟨q, hq, rfl⟩ := List.mem_map.1 hg
  rw [hkeep, ← hgkey] at hkey
  rw [action_edited, settled_eq_of_key_eq hgroups hp hq hkey]
  exact ⟨howner, hrepo⟩

end Groups

/-! ## The whole run -/

/-- Whether an occurrence is of the repository that a record is about, and has its commit and its
tag. -/
structure PinnedAs (record : RepoUpgrade) (o : Occurrence) : Prop where
  repository : Text.lowercase record.repository = keyOf o
  moved : Moved ⟨record.tag, record.commit⟩ o

theorem run_verify_eq_nil_iff :
    (verify source settings files).run s = some ([], t) ↔
      (checkAll source (inScope settings .everything files)).run s = some ([], t) := by
  constructor
  · intro h
    obtain ⟨issues, u, hrun, h⟩ := Sure.run_bind_eq_some h
    obtain ⟨hnil, rfl⟩ := Prod.mk.inj (Option.some.inj h)
    have hperm := List.mergeSort_perm issues issueLe
    rw [hnil] at hperm
    rwa [hperm.symm.eq_nil] at hrun
  · intro h
    rw [verify, Sure.run_bind_of_eq_some h, List.mergeSort_nil]
    rfl

/-- **Checking what was upgraded.**  After an upgrade of everything each usage in scope is pinned as a
record of the report says.  A check finds nothing wrong but versions that do not resolve or resolve to
another commit; and it finds nothing at all exactly when the version of the first usage of each
repository leads back to its commit.  That is so if the comment spells the tag, the tag is looked for
under its own name, and it has the commit of the record; which it has if nothing was remembered
before the upgrade and the repository has a latest release. -/
theorem verify_after_upgrade (hhex : source.catalog.HexHashes) (hwords : source.catalog.WordTags)
    (hs : s.IsReached source) {contents : List (Bytes × Text)} {report : UpgradeReport}
    (h : (upgrade source settings .everything none (load contents)).run s =
      some ((.ok report, files), t)) :
    (∀ o ∈ inScope settings .everything files, ∃ record ∈ report.repos, PinnedAs record o) ∧
    (∀ issues u, (verify source settings files).run .empty = some (issues, u) →
      ∀ issue ∈ issues, issue.kind = .unresolved ∨ issue.kind = .mismatch) ∧
    ((∃ u, (verify source settings files).run .empty = some ([], u)) ↔
      ∀ o ∈ firstUsages [] (inScope settings .everything files), LeadsBack source o) ∧
    ∀ o ∈ firstUsages [] (inScope settings .everything files), ∀ record ∈ report.repos,
      PinnedAs record o →
        (versionOf o = record.tag →
          IsOwnName source o.usage.action.owner o.usage.action.repo record.tag →
          freshCommit source o.usage.action.owner o.usage.action.repo record.tag =
            some (.ok record.commit) → LeadsBack source o) ∧
        (s = .empty → ¬LacksRelease source o.usage.action.owner o.usage.action.repo →
          freshCommit source o.usage.action.owner o.usage.action.repo record.tag =
            some (.ok record.commit)) := by
  obtain ⟨done, hgroups, hsettles, rfl, rfl⟩ := exists_settles_of_ok h
  have hhash : ∀ p ∈ done, Version.isFullHash p.2.commit = true :=
    hsettles.forall_commit (fun _ _ => latest_ensures_isFullHash hhex none)
      (answersHex_of_isReached hhex hs).memory
  have hword : ∀ p ∈ done, p.2.tag.IsWord :=
    hsettles.forall_of_ensures (fun _ _ => latest_ensures_isWord hwords) trivial
  have halike := pinnedAlike_applyEdits hgroups hhash hword fun o ho => isPlain_of_mem_inScope ho
  have hrecord : ∀ p ∈ done, Text.lowercase (groupRecord p.2 p.1).repository = p.1.key := fun p hp =>
    lowercase_repository_groupRecord (hgroups ▸ List.mem_map_of_mem hp) p.2
  refine ⟨fun o ho => ?_, fun issues u hrun issue hissue => ?_, ?_, fun o ho record hmem hpinned => ?_⟩
  · obtain ⟨p, hp, hkey, hmoved⟩ := exists_moved hgroups hhash hword ho
    exact ⟨_, List.mem_map_of_mem hp, (hrecord p hp).trans hkey, hmoved⟩
  · obtain ⟨found, v, hcheck, hrun⟩ := Sure.run_bind_eq_some hrun
    cases hrun
    exact kind_of_checkAll halike hcheck issue ((List.mergeSort_perm found issueLe).subset hissue)
  · exact (exists_congr fun u => run_verify_eq_nil_iff).trans (run_checkAll_iff halike)
  · obtain ⟨p, hp, rfl⟩ := List.mem_map.1 hmem
    refine ⟨fun hspelled hown hcommit => ?_, ?_⟩
    · have hanswer := answer_resolveSpec_of_isOwnName (hword p hp) hown hcommit
      refine ⟨_, ?_, hpinned.moved.commit⟩
      rw [hspelled]
      exact hanswer
    · rintro rfl hrelease
      -- the group is spelled like its first usage, and settled as it would be by itself
      obtain ⟨howner, hrepo⟩ := spelled_of_mem_firstUsages hgroups hp
        ((hrecord p hp).symm.trans hpinned.repository) ho
      have hall : SettledAll source settings none (load contents) done := ⟨hgroups, t, hsettles⟩
      obtain ⟨u, hrun⟩ :=
        exists_runFrom_of_settles hsettles hall.pairwise_groupsApart hp (.refl .empty)
      rw [howner, hrepo] at hrun
      have hlatest := isLatest_of_latest (Session.sound_empty source [_]) List.mem_cons_self rfl hrun
      exact hlatest.freshCommit_eq hrelease

/-- A catalog in which the latest release of `a/b` is `v1.0.0`. -/
def exactRelease : Source := Source.ofTable [
  ("repos/a/b/releases/latest".toList, .ok (.obj [("tag_name".toList, .str "v1.0.0".toList)])),
  ("repos/a/b/git/ref/tags/v1.0.0".toList, .ok (.obj [("object".toList,
    .obj [("sha".toList, .str (List.replicate 40 'a')), ("type".toList, .str commitType)])]))]

/-- A file that uses `a/b` in two ways. -/
def olderContents : List (Bytes × Text) :=
  [(Utf8.bytes "ci.yml", "- uses: a/b@v0\n- uses: A/b/c@v0 # v0 (old)\n".toList)]

/-- The file once it is upgraded. -/
def exactUpgraded : List WorkflowFile :=
  applyEdits (load olderContents) [⟨0, 0, List.replicate 40 'a', "v1.0.0".toList⟩,
    ⟨0, 1, List.replicate 40 'a', "v1.0.0 (old)".toList⟩]

/-- The record of the upgrade. -/
def exactRecord : RepoUpgrade := ⟨"a/b".toList, "v1.0.0".toList, List.replicate 40 'a', 2⟩

/-- After the usages of `a/b` are upgraded to `v1.0.0`, a check finds nothing wrong. -/
theorem verify_after_upgrade_of_exactRelease :
    exactRelease.catalog.HexHashes ∧ exactRelease.catalog.WordTags ∧
    ((upgrade exactRelease .default .everything none (load olderContents)).run .empty).map
      Prod.fst = some (.ok ⟨[exactRecord], 2, 1⟩, exactUpgraded) ∧
    ∃ u, (verify exactRelease .default exactUpgraded).run .empty = some ([], u) := by
  obtain ⟨hhex, hwords⟩ : exactRelease.catalog.HexHashes ∧ exactRelease.catalog.WordTags :=
    Catalog.ofTable_of_isTidy (by decide +kernel)
  have hrun : ((upgrade exactRelease .default .everything none (load olderContents)).run
      .empty).map Prod.fst = some (.ok ⟨[exactRecord], 2, 1⟩, exactUpgraded) := by decide +kernel
  have hspelled : ∀ o ∈ firstUsages [] (inScope .default .everything exactUpgraded),
      o.usage.action.owner = ['a'] ∧ o.usage.action.repo = ['b'] ∧ versionOf o = exactRecord.tag := by
    decide +kernel
  have hspellings : spellings exactRecord.tag (Version.classify exactRecord.tag).2 =
      [] ++ exactRecord.tag :: ["1.0.0".toList] := by decide +kernel
  have hown : IsOwnName exactRelease ['a'] ['b'] exactRecord.tag :=
    .exact (by decide +kernel) hspellings fun _ h => absurd h List.not_mem_nil
  have hcommit : freshCommit exactRelease ['a'] ['b'] exactRecord.tag =
      some (.ok exactRecord.commit) := by decide +kernel
  obtain ⟨⟨_, t⟩, h, rfl⟩ := Option.map_eq_some_iff.1 hrun
  obtain ⟨hpinned, -, hclean, hback⟩ := verify_after_upgrade hhex hwords ⟨[], rfl⟩ h
  refine ⟨hhex, hwords, hrun, hclean.2 fun o ho => ?_⟩
  obtain ⟨howner, hrepo, hversion⟩ := hspelled o ho
  obtain ⟨record, hmem, hsame⟩ := hpinned o (mem_of_mem_firstUsages ho)
  obtain rfl : record = exactRecord := List.mem_singleton.1 hmem
  refine (hback o ho _ hmem hsame).1 hversion ?_ ?_
  · rw [howner, hrepo]
    exact hown
  · rw [howner, hrepo]
    exact hcommit

/-- A catalog in which the latest release of `a/b` is `v2`, though `v2.1.0` is newer. -/
def lineAhead : Source := Source.ofTable [
  ("repos/a/b/releases/latest".toList, .ok (.obj [("tag_name".toList, .str "v2".toList)])),
  ("repos/a/b/git/ref/tags/v2".toList, .ok (.obj [("object".toList,
    .obj [("sha".toList, .str (List.replicate 40 'a')), ("type".toList, .str commitType)])])),
  ("repos/a/b/releases?per_page=100&page=1".toList, .ok (.arr [
    .obj [("tag_name".toList, .str "v2.1.0".toList)], .obj [("tag_name".toList, .str "v2".toList)]])),
  ("repos/a/b/git/ref/tags/v2.1.0".toList, .ok (.obj [("object".toList,
    .obj [("sha".toList, .str (List.replicate 40 'b')), ("type".toList, .str commitType)])]))]

/-- A file with one usage of `a/b`. -/
def oneUsage : List (Bytes × Text) := [(Utf8.bytes "ci.yml", "- uses: a/b@v1\n".toList)]

/-- The file once it is upgraded. -/
def lineUpgraded : List WorkflowFile :=
  applyEdits (load oneUsage) [⟨0, 0, List.replicate 40 'a', "v2".toList⟩]

/-- **A check of what was just upgraded can find a mismatch**: the usage is moved to the tag `v2`, and
as a version `v2` leads to `v2.1.0`. -/
theorem mismatch_after_upgrade :
    lineAhead.catalog.HexHashes ∧ lineAhead.catalog.WordTags ∧
    ((upgrade lineAhead .default .everything none (load oneUsage)).run .empty).map Prod.fst =
      some (.ok ⟨[⟨"a/b".toList, "v2".toList, List.replicate 40 'a', 1⟩], 1, 1⟩, lineUpgraded) ∧
    ((verify lineAhead .default lineUpgraded).run .empty).map
        (fun p => p.1.map fun issue => (issue.line, issue.kind)) = some [(1, .mismatch)] := by
  obtain ⟨hhex, hwords⟩ : lineAhead.catalog.HexHashes ∧ lineAhead.catalog.WordTags :=
    Catalog.ofTable_of_isTidy (by decide +kernel)
  exact ⟨hhex, hwords, by decide +kernel⟩

end Pinning

end PinnedActions
