import PinnedActions.Proofs.Pinning.Group
import PinnedActions.Proofs.Pinning.Verify
import PinnedActions.Proofs.Resolver.Apart
import PinnedActions.Proofs.Text.AsciiCase

/-!
# Checking usages that are pinned alike

A check looks the version of a usage up in the session of the check, so what it finds may depend on
the usages before.  Where all usages of a repository have one commit and comments that name one
version (`PinnedAlike`), it is the first of them that decides.  Nothing is remembered about the
repository when its turn comes, so it passes if its version leads back to its commit for a resolver
that remembers nothing (`LeadsBack`); and once it has passed, its version is remembered with that
commit and the others pass, too (`run_checkAll_iff`).
-/

set_option autoImplicit false

namespace PinnedActions

/-- Repositories with different keys differ in more than letter case. -/
theorem Action.apart_of_repoKey_ne {a b : Action} (h : a.repoKey ≠ b.repoKey) :
    Resolver.Apart a.owner a.repo b.owner b.repo := by
  rintro ⟨ho, hr⟩
  rw [a.repoKey_eq, b.repoKey_eq, ho, hr] at h
  exact h rfl

namespace Pinning

open Resolver Walk

variable {source : Source} {o o' : Occurrence} {s t : Session}

/-! ## First usages -/

/-- The version that the comment of an occurrence names. -/
abbrev versionOf (o : Occurrence) : Text := (Comment.split o.usage.comment).1

/-- The first occurrence of each repository, leaving out repositories that were seen already. -/
def firstUsages (seen : List Text) : List Occurrence → List Occurrence
  | [] => []
  | o :: rest =>
    if keyOf o ∈ seen then firstUsages seen rest
    else o :: firstUsages (seen ++ [keyOf o]) rest

theorem mem_of_mem_firstUsages {seen : List Text} {os : List Occurrence}
    (h : o ∈ firstUsages seen os) : o ∈ os := by
  induction os generalizing seen with
  | nil => cases h
  | cons first rest ih =>
    rw [firstUsages] at h
    split at h
    · exact List.mem_cons_of_mem first (ih h)
    · rcases List.mem_cons.1 h with rfl | h
      · exact List.mem_cons_self
      · exact List.mem_cons_of_mem first (ih h)

theorem firstUsages_map {f : Occurrence → Occurrence} (hf : ∀ o, keyOf (f o) = keyOf o)
    (seen : List Text) (os : List Occurrence) :
    firstUsages seen (os.map f) = (firstUsages seen os).map f := by
  induction os generalizing seen with
  | nil => rfl
  | cons o rest ih =>
    rw [List.map_cons, firstUsages, firstUsages, hf, ih, ih]
    split <;> rfl

/-- How a group is told apart and spelled. -/
def spelling (g : RepoUsages) : Text × Text × Text := (g.key, g.owner, g.repo)

theorem map_spelling_addToGroup (o : Occurrence) (groups : List RepoUsages) :
    (addToGroup o groups).map spelling =
      if keyOf o ∈ groups.map RepoUsages.key then groups.map spelling
      else groups.map spelling ++ [(keyOf o, o.usage.action.owner, o.usage.action.repo)] := by
  induction groups with
  | nil => rfl
  | cons g rest ih =>
    rw [addToGroup]
    by_cases h : g.key = keyOf o
    · rw [if_pos h, if_pos (List.mem_map.2 ⟨g, List.mem_cons_self, h⟩)]
      rfl
    · have hiff : keyOf o ∈ g.key :: rest.map RepoUsages.key ↔ keyOf o ∈ rest.map RepoUsages.key :=
        List.mem_cons.trans (or_iff_right fun heq => h heq.symm)
      rw [if_neg h, List.map_cons, ih, List.map_cons, List.map_cons]
      by_cases hmem : keyOf o ∈ rest.map RepoUsages.key
      · rw [if_pos hmem, if_pos (hiff.2 hmem)]
      · rw [if_neg hmem, if_neg fun h => hmem (hiff.1 h), List.cons_append]

/-- **The groups are spelled like the first usages**, in their order. -/
theorem map_spelling_groupByRepository (os : List Occurrence) :
    (groupByRepository os).map spelling =
      (firstUsages [] os).map fun o => (keyOf o, o.usage.action.owner, o.usage.action.repo) := by
  suffices h : ∀ groups : List RepoUsages,
      (os.foldl (fun groups o => addToGroup o groups) groups).map spelling =
        groups.map spelling ++ (firstUsages (groups.map RepoUsages.key) os).map
          fun o => (keyOf o, o.usage.action.owner, o.usage.action.repo) from h []
  induction os with
  | nil => exact fun groups => (List.append_nil _).symm
  | cons o rest ih =>
    intro groups
    rw [List.foldl_cons, ih, map_spelling_addToGroup, map_key_addToGroup, firstUsages]
    split
    · rfl
    · rw [List.map_cons, List.append_assoc, List.singleton_append]

/-- The group of a first usage is spelled like it. -/
theorem exists_group_of_mem_firstUsages {os : List Occurrence} (h : o ∈ firstUsages [] os) :
    ∃ g ∈ groupByRepository os, g.key = keyOf o ∧ g.owner = o.usage.action.owner ∧
      g.repo = o.usage.action.repo := by
  have hmem : (keyOf o, o.usage.action.owner, o.usage.action.repo) ∈
      (groupByRepository os).map spelling := by
    rw [map_spelling_groupByRepository]
    exact List.mem_map.2 ⟨o, h, rfl⟩
  obtain ⟨g, hg, hspelling⟩ := List.mem_map.1 hmem
  obtain ⟨hkey, hrest⟩ := Prod.mk.inj hspelling
  obtain ⟨howner, hrepo⟩ := Prod.mk.inj hrest
  exact ⟨g, hg, hkey, howner, hrepo⟩

/-! ## One usage -/

/-- Whether the version of a usage leads back to the commit that it is pinned to, for a resolver
that remembers nothing. -/
def LeadsBack (source : Source) (o : Occurrence) : Prop :=
  ∃ r, (resolveSpec source o.usage.action.owner o.usage.action.repo (versionOf o)).answer .empty =
      some (.ok r) ∧
    Text.sameIgnoringCase r.commit o.usage.reference = true

/-- Whether a session remembers for the version of a usage the commit that it is pinned to. -/
def Remembers (s : Session) (o : Occurrence) : Prop :=
  ∃ r, s.specs.lookup (specKey o.usage.action.owner o.usage.action.repo (versionOf o)) = some r ∧
    Text.sameIgnoringCase r.commit o.usage.reference = true

theorem compared_eq_none_iff {version : Text} {result : Except Failure Resolution} :
    compared o version result = none ↔
      ∃ r, result = .ok r ∧ Text.sameIgnoringCase r.commit o.usage.reference = true := by
  cases result with
  | error f => simp [compared]
  | ok r => simp [compared]

theorem kind_of_compared {version : Text} {result : Except Failure Resolution} {issue : Issue}
    (h : compared o version result = some issue) :
    issue.kind = .unresolved ∨ issue.kind = .mismatch := by
  cases result with
  | error f =>
    cases h
    exact .inl rfl
  | ok r =>
    rw [compared] at h
    split at h
    · cases h
    · cases h
      exact .inr rfl

/-- A usage passes when its version resolves to the commit that it is pinned to. -/
theorem run_check_eq_none_iff (hhash : Version.isFullHash o.usage.reference = true)
    (hversion : versionOf o ≠ []) :
    (check source o).run s = some (none, t) ↔
      ∃ r, (resolveSpec source o.usage.action.owner o.usage.action.repo (versionOf o)).runFrom s =
          some (.ok r, t) ∧
        Text.sameIgnoringCase r.commit o.usage.reference = true := by
  rw [run_check_of_version hhash hversion, Option.map_eq_some_iff]
  constructor
  · rintro ⟨⟨result, u⟩, hrun, hcompared⟩
    obtain ⟨hnone, rfl⟩ := Prod.mk.inj hcompared
    obtain ⟨r, rfl, hsame⟩ := compared_eq_none_iff.1 hnone
    exact ⟨r, hrun, hsame⟩
  · rintro ⟨r, hrun, hsame⟩
    exact ⟨_, hrun, Prod.ext (compared_eq_none_iff.2 ⟨r, rfl, hsame⟩) rfl⟩

/-- A usage that passed is remembered. -/
theorem remembers_of_check (hhash : Version.isFullHash o.usage.reference = true)
    (hversion : versionOf o ≠ []) (h : (check source o).run s = some (none, t)) :
    Remembers t o := by
  obtain ⟨r, hrun, hsame⟩ := (run_check_eq_none_iff hhash hversion).1 h
  exact ⟨r, lookup_of_resolveSpec hrun, hsame⟩

/-- A usage that is remembered passes. -/
theorem run_check_of_remembers (hhash : Version.isFullHash o.usage.reference = true)
    (hversion : versionOf o ≠ []) (h : Remembers s o) :
    (check source o).run s = some (none, s) := by
  obtain ⟨r, hlookup, hsame⟩ := h
  have hblank : Text.trim (versionOf o) ≠ [] := by
    rwa [Text.trim_of_isTrimmed (Text.isTrimmed_of_noBlanks (Comment.noBlanks_split _))]
  exact (run_check_eq_none_iff hhash hversion).2
    ⟨r, runFrom_resolveSpec_of_lookup hblank hlookup, hsame⟩

/-- **Where nothing is remembered about its repository, a usage passes if its version leads back.** -/
theorem exists_run_check_iff (hhash : Version.isFullHash o.usage.reference = true)
    (hversion : versionOf o ≠ [])
    (hs : Session.SameAbout o.usage.action.owner o.usage.action.repo .empty s) :
    (∃ t, (check source o).run s = some (none, t)) ↔ LeadsBack source o := by
  have hparallel : Closed source source o.usage.action.owner o.usage.action.repo fun _ w w' =>
      Parallel (Session.SameAbout o.usage.action.owner o.usage.action.repo) Eq w w' :=
    closed_parallel agreement_sameAbout
  have hanswer := (hparallel.resolveSpec_related (versionOf o)).answer_eq hs
  constructor
  · rintro ⟨t, h⟩
    obtain ⟨r, hrun, hsame⟩ := (run_check_eq_none_iff hhash hversion).1 h
    exact ⟨r, hanswer.trans (answer_of_runFrom hrun), hsame⟩
  · rintro ⟨r, hfresh, hsame⟩
    obtain ⟨t, hrun⟩ := exists_runFrom_of_answer (hanswer.symm.trans hfresh)
    exact ⟨t, (run_check_eq_none_iff hhash hversion).2 ⟨r, hrun, hsame⟩⟩

/-- Checking a usage leaves alone what is remembered about other repositories. -/
theorem sameAbout_of_check (hkey : keyOf o ≠ keyOf o') {issue : Option Issue}
    (h : (check source o).run s = some (issue, t)) :
    Session.SameAbout o'.usage.action.owner o'.usage.action.repo s t := by
  cases checks_of_run h with
  | notPinned => exact .refl s
  | missingVersion => exact .refl s
  | lookedUp _ _ hrun =>
    exact (closed_sameAbout (Action.apart_of_repoKey_ne hkey)).resolveSpec_related _ s _ t hrun

theorem Remembers.of_sameAbout (h : Remembers s o)
    (hsame : Session.SameAbout o.usage.action.owner o.usage.action.repo s t) : Remembers t o := by
  obtain ⟨r, hlookup, hcommit⟩ := h
  exact ⟨r, (hsame.specs _).symm.trans hlookup, hcommit⟩

/-! ## All usages -/

/-- Whether all usages are pinned and have a version, those of one repository to one commit and with
one version. -/
structure PinnedAlike (os : List Occurrence) : Prop where
  hash : ∀ o ∈ os, Version.isFullHash o.usage.reference = true
  version : ∀ o ∈ os, versionOf o ≠ []
  key : ∀ o ∈ os, ∀ o' ∈ os, keyOf o = keyOf o' →
    specKey o.usage.action.owner o.usage.action.repo (versionOf o) =
      specKey o'.usage.action.owner o'.usage.action.repo (versionOf o')
  commit : ∀ o ∈ os, ∀ o' ∈ os, keyOf o = keyOf o' →
    Text.sameIgnoringCase o.usage.reference o'.usage.reference = true

namespace PinnedAlike

variable {os : List Occurrence}

theorem tail (h : PinnedAlike (o :: os)) : PinnedAlike os where
  hash o' ho' := h.hash o' (List.mem_cons_of_mem o ho')
  version o' ho' := h.version o' (List.mem_cons_of_mem o ho')
  key o₁ h₁ o₂ h₂ := h.key o₁ (List.mem_cons_of_mem o h₁) o₂ (List.mem_cons_of_mem o h₂)
  commit o₁ h₁ o₂ h₂ := h.commit o₁ (List.mem_cons_of_mem o h₁) o₂ (List.mem_cons_of_mem o h₂)

/-- A session that remembers a usage remembers the others of its repository. -/
theorem remembers (h : PinnedAlike os) (ho : o ∈ os) (ho' : o' ∈ os) (hkey : keyOf o = keyOf o')
    (hs : Remembers s o) : Remembers s o' := by
  obtain ⟨r, hlookup, hsame⟩ := hs
  have hcommit := Text.sameIgnoringCase_iff.1 (h.commit o ho o' ho' hkey)
  refine ⟨r, h.key o ho o' ho' hkey ▸ hlookup, Text.sameIgnoringCase_iff.2 ?_⟩
  rw [Text.sameIgnoringCase_iff.1 hsame, hcommit]

end PinnedAlike

/-- Whether a session remembers the usages of repositories that were seen, and nothing about the
others. -/
def Primed (seen : List Text) (os : List Occurrence) (s : Session) : Prop :=
  ∀ o ∈ os, (keyOf o ∈ seen → Remembers s o) ∧
    (keyOf o ∉ seen → Session.SameAbout o.usage.action.owner o.usage.action.repo .empty s)

/-- A usage that passed is one of a repository that was seen. -/
theorem Primed.step {seen : List Text} {os : List Occurrence} (halike : PinnedAlike (o :: os))
    (hs : Primed seen (o :: os) s) (h : (check source o).run s = some (none, t)) :
    Primed (seen ++ [keyOf o]) os t := by
  intro o' ho'
  have hmem := List.mem_cons_of_mem o ho'
  have hself : o ∈ o :: os := List.mem_cons_self
  by_cases hkey : keyOf o = keyOf o'
  · refine ⟨fun _ => ?_, fun hnew => absurd ?_ hnew⟩
    · exact halike.remembers hself hmem hkey
        (remembers_of_check (halike.hash o hself) (halike.version o hself) h)
    · exact List.mem_append_right seen (List.mem_singleton.2 hkey.symm)
  · have hsame := sameAbout_of_check hkey h
    have hiff : keyOf o' ∈ seen ++ [keyOf o] ↔ keyOf o' ∈ seen := by
      rw [List.mem_append, List.mem_singleton]
      exact or_iff_left fun heq => hkey heq.symm
    rw [hiff]
    exact ⟨fun hseen => ((hs o' hmem).1 hseen).of_sameAbout hsame,
      fun hnew => ((hs o' hmem).2 hnew).trans hsame⟩

theorem run_checkAll_cons_eq_nil {os : List Occurrence} :
    (checkAll source (o :: os)).run s = some ([], t) ↔
      ∃ u, (check source o).run s = some (none, u) ∧ (checkAll source os).run u = some ([], t) := by
  constructor
  · intro h
    obtain ⟨issue, u, h1, h⟩ := Sure.run_bind_eq_some h
    obtain ⟨issues, v, h2, h⟩ := Sure.run_bind_eq_some h
    obtain ⟨hnil, rfl⟩ := Prod.mk.inj (Option.some.inj h)
    obtain ⟨hissue, rfl⟩ := List.append_eq_nil_iff.1 hnil
    cases issue with
    | none => exact ⟨u, h1, h2⟩
    | some i => cases hissue
  · rintro ⟨u, h1, h2⟩
    rw [checkAll, Sure.run_bind_of_eq_some h1, Sure.run_bind_of_eq_some h2]
    rfl

theorem run_checkAll_iff_of_primed {seen : List Text} {os : List Occurrence}
    (halike : PinnedAlike os) (hs : Primed seen os s) :
    (∃ t, (checkAll source os).run s = some ([], t)) ↔
      ∀ o ∈ firstUsages seen os, LeadsBack source o := by
  induction os generalizing seen s with
  | nil => exact ⟨fun _ => nofun, fun _ => ⟨s, rfl⟩⟩
  | cons o rest ih =>
    have hself : o ∈ o :: rest := List.mem_cons_self
    have hhash := halike.hash o hself
    have hversion := halike.version o hself
    rw [firstUsages]
    split
    · rename_i hseen
      -- it passes on what is remembered, and the session stays as it is
      have hcheck : (check source o).run s = some (none, s) :=
        run_check_of_remembers hhash hversion ((hs o hself).1 hseen)
      have hprimed : Primed seen rest s := fun o' ho' => hs o' (List.mem_cons_of_mem o ho')
      rw [← ih halike.tail hprimed]
      refine exists_congr fun t => run_checkAll_cons_eq_nil.trans ⟨?_, fun h => ⟨s, hcheck, h⟩⟩
      rintro ⟨u, hcheck', h⟩
      cases hcheck.symm.trans hcheck'
      exact h
    · rename_i hnew
      have hrest : ∀ {u}, (check source o).run s = some (none, u) →
          ((∃ t, (checkAll source rest).run u = some ([], t)) ↔
            ∀ o' ∈ firstUsages (seen ++ [keyOf o]) rest, LeadsBack source o') :=
        fun hcheck => ih halike.tail (hs.step halike hcheck)
      rw [List.forall_mem_cons, ← exists_run_check_iff hhash hversion ((hs o hself).2 hnew)]
      constructor
      · rintro ⟨t, h⟩
        obtain ⟨u, hcheck, h⟩ := run_checkAll_cons_eq_nil.1 h
        exact ⟨⟨u, hcheck⟩, (hrest hcheck).1 ⟨t, h⟩⟩
      · rintro ⟨⟨u, hcheck⟩, hall⟩
        obtain ⟨t, h⟩ := (hrest hcheck).2 hall
        exact ⟨t, run_checkAll_cons_eq_nil.2 ⟨u, hcheck, h⟩⟩

/-- Where all usages are pinned and have a version, all that can be wrong is what the version
resolves to. -/
theorem kind_of_checkAll {os : List Occurrence} (h : PinnedAlike os) {issues : List Issue}
    (hrun : (checkAll source os).run s = some (issues, t)) :
    ∀ issue ∈ issues, issue.kind = .unresolved ∨ issue.kind = .mismatch := by
  induction os generalizing s issues with
  | nil =>
    cases hrun
    exact nofun
  | cons o rest ih =>
    obtain ⟨outcome, u, hcheck, hrun⟩ := Sure.run_bind_eq_some hrun
    obtain ⟨others, v, hrest, hrun⟩ := Sure.run_bind_eq_some hrun
    cases hrun
    intro issue hissue
    rcases List.mem_append.1 hissue with hself | hother
    · cases checks_of_run hcheck with
      | notPinned hhash => simp [h.hash o List.mem_cons_self] at hhash
      | missingVersion _ hversion => exact absurd hversion (h.version o List.mem_cons_self)
      | lookedUp => exact kind_of_compared (Option.mem_toList.1 hself)
    · exact ih h.tail hrest issue hother

/-- **Usages that are pinned alike pass if the first one of each repository leads back.** -/
theorem run_checkAll_iff {os : List Occurrence} (h : PinnedAlike os) :
    (∃ t, (checkAll source os).run .empty = some ([], t)) ↔
      ∀ o ∈ firstUsages [] os, LeadsBack source o :=
  run_checkAll_iff_of_primed h fun _ _ => ⟨nofun, fun _ => .refl _⟩

end Pinning

end PinnedActions
