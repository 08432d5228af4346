import PinnedActions.Pinning.Upgrade
import PinnedActions.Proofs.Text.Lowercase
import Mathlib.Data.List.Induction
import Mathlib.Data.List.Nodup

/-!
# Occurrences by repository

`groupByRepository` takes the occurrences of each repository together.

* `perm_groupByRepository` — the groups have every occurrence, once; in particular, an occurrence is
  in one of them (`mem_iff_exists_group`).
* `nodup_key_groupByRepository`, `mem_key_groupByRepository` — there is one group for every key that
  occurs.
* `key_eq_of_mem_group` — an occurrence is in the group of its own repository, and that is spelled
  like one of them (`spelled_groupByRepository`).  So it is together with the occurrences that have
  the same key (`together_iff`).
* `groupByRepository_filter` — grouping the occurrences of one repository only gives its group.
-/

set_option autoImplicit false

namespace PinnedActions

/-- The key of a repository is made of the lowercase forms of its two parts. -/
theorem Action.repoKey_eq (a : Action) :
    a.repoKey = Text.lowercase a.owner ++ '/' :: Text.lowercase a.repo :=
  Text.lowercase_append_barrier Text.isBarrier_slash a.owner a.repo

namespace Pinning

/-- The key of the repository of an occurrence. -/
abbrev keyOf (o : Occurrence) : Text := o.usage.action.repoKey

/-! ## What is in the groups -/

theorem perm_addToGroup (o : Occurrence) (groups : List RepoUsages) :
    ((addToGroup o groups).flatMap RepoUsages.occurrences).Perm
      (o :: groups.flatMap RepoUsages.occurrences) := by
  induction groups with
  | nil => exact List.Perm.refl _
  | cons g rest ih =>
    rw [addToGroup]
    split
    · rw [List.flatMap_cons, List.flatMap_cons, List.append_assoc]
      exact List.perm_middle
    · rw [List.flatMap_cons, List.flatMap_cons]
      exact (ih.append_left _).trans List.perm_middle

/-- The groups have every occurrence, once. -/
theorem perm_groupByRepository (os : List Occurrence) :
    ((groupByRepository os).flatMap RepoUsages.occurrences).Perm os := by
  suffices h : ∀ groups : List RepoUsages,
      ((os.foldl (fun groups o => addToGroup o groups) groups).flatMap
        RepoUsages.occurrences).Perm (groups.flatMap RepoUsages.occurrences ++ os) from h []
  induction os with
  | nil => exact fun groups => by simp
  | cons o rest ih =>
    intro groups
    rw [List.foldl_cons]
    refine (ih _).trans (((perm_addToGroup o groups).append_right rest).trans ?_)
    exact List.perm_middle.symm

theorem mem_iff_exists_group {os : List Occurrence} {o : Occurrence} :
    o ∈ os ↔ ∃ g ∈ groupByRepository os, o ∈ g.occurrences :=
  (perm_groupByRepository os).mem_iff.symm.trans List.mem_flatMap

theorem groupByRepository_eq_nil_iff {os : List Occurrence} :
    groupByRepository os = [] ↔ os = [] := by
  constructor
  · intro h
    have hperm := perm_groupByRepository os
    rw [h] at hperm
    exact hperm.nil_eq.symm
  · rintro rfl
    rfl

/-! ## Keys -/

theorem map_key_addToGroup (o : Occurrence) (groups : List RepoUsages) :
    (addToGroup o groups).map RepoUsages.key =
      if keyOf o ∈ groups.map RepoUsages.key then groups.map RepoUsages.key
      else groups.map RepoUsages.key ++ [keyOf o] := by
  induction groups with
  | nil => rfl
  | cons g rest ih =>
    rw [addToGroup]
    by_cases h : g.key = keyOf o
    · rw [if_pos h, if_pos (List.mem_map.2 ⟨g, List.mem_cons_self, h⟩)]
      rfl
    · have hiff : keyOf o ∈ g.key :: rest.map RepoUsages.key ↔ keyOf o ∈ rest.map RepoUsages.key :=
        List.mem_cons.trans (or_iff_right fun heq => h heq.symm)
      rw [if_neg h, List.map_cons, ih, List.map_cons]
      by_cases hmem : keyOf o ∈ rest.map RepoUsages.key
      · rw [if_pos hmem, if_pos (hiff.2 hmem)]
      · rw [if_neg hmem, if_neg fun h => hmem (hiff.1 h), List.cons_append]

/-- What a property of groups has to do with one more occurrence to hold of all groups. -/
theorem groupByRepository_induction {P : List Occurrence → List RepoUsages → Prop}
    (hnil : P [] []) (hadd : ∀ os groups o, P os groups → P (os ++ [o]) (addToGroup o groups))
    (os : List Occurrence) : P os (groupByRepository os) := by
  induction os using List.reverseRecOn with
  | nil => exact hnil
  | append_singleton os o ih =>
    rw [groupByRepository, List.foldl_append]
    exact hadd os _ o ih

theorem nodup_key_groupByRepository (os : List Occurrence) :
    ((groupByRepository os).map RepoUsages.key).Nodup := by
  refine groupByRepository_induction (P := fun _ groups => (groups.map RepoUsages.key).Nodup)
    List.nodup_nil (fun _ groups o h => ?_) os
  rw [map_key_addToGroup]
  split
  · exact h
  · rename_i hnew
    exact List.nodup_append.2 ⟨h, List.nodup_singleton _, fun k hk k' hk' heq =>
      hnew (by rwa [heq, List.mem_singleton.1 hk'] at hk)⟩

theorem mem_key_groupByRepository {os : List Occurrence} {key : Text} :
    key ∈ (groupByRepository os).map RepoUsages.key ↔ ∃ o ∈ os, keyOf o = key := by
  refine groupByRepository_induction
    (P := fun os groups => key ∈ groups.map RepoUsages.key ↔ ∃ o ∈ os, keyOf o = key)
    (by simp) (fun os groups o h => ?_) os
  have hmore : (∃ o' ∈ os ++ [o], keyOf o' = key) ↔ (∃ o' ∈ os, keyOf o' = key) ∨ keyOf o = key := by
    simp only [List.mem_append, List.mem_singleton, or_and_right, exists_or, exists_eq_left]
  rw [map_key_addToGroup, hmore]
  split
  · rename_i hold
    exact h.trans (or_iff_left_of_imp fun hkey : keyOf o = key => h.1 (hkey ▸ hold)).symm
  · rw [List.mem_append, h, List.mem_singleton, eq_comm]

/-! ## One group -/

/-- What every group has that a first occurrence opens and others are added to. -/
theorem forall_groupByRepository {P : RepoUsages → Prop}
    (hnew : ∀ o, P ⟨keyOf o, o.usage.action.owner, o.usage.action.repo, [o]⟩)
    (hmore : ∀ g o, P g → g.key = keyOf o → P { g with occurrences := g.occurrences ++ [o] })
    (os : List Occurrence) : ∀ g ∈ groupByRepository os, P g := by
  refine groupByRepository_induction (P := fun _ groups => ∀ g ∈ groups, P g) nofun
    (fun _ groups o h => ?_) os
  induction groups with
  | nil =>
    intro g hg
    rw [List.mem_singleton.1 hg]
    exact hnew o
  | cons g rest ih =>
    intro g' hg'
    rw [addToGroup] at hg'
    split at hg'
    · rename_i hkey
      rcases List.mem_cons.1 hg' with rfl | hg'
      · exact hmore g o (h g List.mem_cons_self) hkey
      · exact h g' (List.mem_cons_of_mem g hg')
    · rcases List.mem_cons.1 hg' with rfl | hg'
      · exact h g' List.mem_cons_self
      · exact ih (fun g'' hg'' => h g'' (List.mem_cons_of_mem g hg'')) g' hg'

/-- A group has the occurrences with its key. -/
theorem key_eq_of_mem_group {os : List Occurrence} :
    ∀ g ∈ groupByRepository os, ∀ o ∈ g.occurrences, keyOf o = g.key := by
  refine forall_groupByRepository (fun o => ?_) (fun g o h hkey => ?_) os
  · intro o' ho'
    rw [List.mem_singleton.1 ho']
  · intro o' ho'
    rcases List.mem_append.1 ho' with ho' | ho'
    · exact h o' ho'
    · rw [List.mem_singleton.1 ho', hkey]

/-- The key of a group is the lowercase form of its repository. -/
theorem spelled_groupByRepository {os : List Occurrence} :
    ∀ g ∈ groupByRepository os,
      g.key = Text.lowercase g.owner ++ '/' :: Text.lowercase g.repo :=
  forall_groupByRepository (fun o => o.usage.action.repoKey_eq) (fun _ _ h _ => h) os

/-- Two occurrences are taken together when they have one key. -/
theorem together_iff {os : List Occurrence} {o o' : Occurrence} (ho : o ∈ os) (ho' : o' ∈ os) :
    (∃ g ∈ groupByRepository os, o ∈ g.occurrences ∧ o' ∈ g.occurrences) ↔ keyOf o = keyOf o' := by
  constructor
  · rintro ⟨g, hg, hmem, hmem'⟩
    rw [key_eq_of_mem_group g hg o hmem, key_eq_of_mem_group g hg o' hmem']
  · intro hkey
    obtain ⟨g, hg, hmem⟩ := mem_iff_exists_group.1 ho
    obtain ⟨g', hg', hmem'⟩ := mem_iff_exists_group.1 ho'
    rw [key_eq_of_mem_group g hg o hmem, key_eq_of_mem_group g' hg' o' hmem'] at hkey
    obtain rfl := List.inj_on_of_nodup_map (nodup_key_groupByRepository os) hg hg' hkey
    exact ⟨g, hg, hmem, hmem'⟩

theorem addToGroup_filter (o : Occurrence) (key : Text) (groups : List RepoUsages) :
    (addToGroup o groups).filter (fun g => g.key = key) =
      if keyOf o = key then addToGroup o (groups.filter fun g => g.key = key)
      else groups.filter fun g => g.key = key := by
  induction groups with
  | nil =>
    by_cases h : keyOf o = key
    · rw [if_pos h]
      simp [addToGroup, h]
    · rw [if_neg h]
      simp [addToGroup, h]
  | cons g rest ih =>
    by_cases ho : g.key = keyOf o
    · rw [addToGroup, if_pos ho]
      by_cases hkey : g.key = key
      · rw [List.filter_cons_of_pos (by simpa using hkey),
          List.filter_cons_of_pos (by simpa using hkey), if_pos (ho.symm.trans hkey), addToGroup,
          if_pos ho]
      · rw [List.filter_cons_of_neg (by simpa using hkey),
          List.filter_cons_of_neg (by simpa using hkey), if_neg fun h => hkey (ho.trans h)]
    · rw [addToGroup, if_neg ho]
      by_cases hkey : g.key = key
      · have hother : keyOf o ≠ key := fun h => ho (hkey.trans h.symm)
        rw [List.filter_cons_of_pos (by simpa using hkey),
          List.filter_cons_of_pos (by simpa using hkey), ih, if_neg hother, if_neg hother]
      · rw [List.filter_cons_of_neg (by simpa using hkey),
          List.filter_cons_of_neg (by simpa using hkey), ih]

/-- **Grouping the occurrences of one repository gives its group.** -/
theorem groupByRepository_filter (os : List Occurrence) (key : Text) :
    groupByRepository (os.filter fun o => keyOf o = key) =
      (groupByRepository os).filter fun g => g.key = key := by
  refine groupByRepository_induction
    (P := fun os groups => groupByRepository (os.filter fun o => keyOf o = key) =
      groups.filter fun g => g.key = key) rfl (fun os groups o h => ?_) os
  rw [addToGroup_filter, ← h, List.filter_append]
  by_cases hkey : keyOf o = key
  · rw [if_pos hkey, List.filter_cons_of_pos (by simpa using hkey), List.filter_nil,
      groupByRepository, List.foldl_append]
    rfl
  · rw [if_neg hkey, List.filter_cons_of_neg (by simpa using hkey), List.filter_nil,
      List.append_nil]

/-- An element is the only one with its key. -/
theorem filter_eq_singleton {α : Type} {key : α → Text} {l : List α} {a : α}
    (hnodup : (l.map key).Nodup) (ha : a ∈ l) : l.filter (fun b => key b = key a) = [a] := by
  induction l with
  | nil => cases ha
  | cons b rest ih =>
    rw [List.map_cons, List.nodup_cons] at hnodup
    rcases List.mem_cons.1 ha with rfl | ha
    · rw [List.filter_cons_of_pos (by simp), List.filter_eq_nil_iff.2]
      intro b hb hkey
      exact hnodup.1 (List.mem_map.2 ⟨b, hb, by simpa using hkey⟩)
    · rw [List.filter_cons_of_neg, ih hnodup.2 ha]
      intro hkey
      exact hnodup.1 (List.mem_map.2 ⟨a, ha, (by simpa using hkey : key b = key a).symm⟩)

end Pinning

end PinnedActions
