import PinnedActions.Proofs.Pinning.Upgrade

/-!
# What settled groups are made of

An upgrade settles the groups of what is in scope, and each settled group has its own edits.  The
groups share nothing: they are told apart by their keys (`settled_eq_of_key_eq`), every usage in scope
is in one of them (`exists_settled_of_mem_inScope`), and no two edits are at one place
(`nodup_place_of_groups`).  So after all edits, whatever else they were for, each usage is what its
own group makes of it (`edited_editsFor`).
-/

set_option autoImplicit false

namespace PinnedActions

namespace Pinning

open Resolver

variable {settings : Settings} {target : Target} {files : List WorkflowFile} {o : Occurrence}

/-- A group that was settled with what it moves to. -/
abbrev Settled : Type := RepoUsages × Resolution

/-- The record of a group is for the repository of the group. -/
theorem lowercase_repository_groupRecord {os : List Occurrence} {g : RepoUsages}
    (hg : g ∈ groupByRepository os) (r : Resolution) :
    Text.lowercase (groupRecord r g).repository = g.key := by
  rw [spelled_groupByRepository g hg]
  exact Text.lowercase_append_barrier Text.isBarrier_slash g.owner g.repo

/-- The occurrence once it is moved to a resolution. -/
def movedTo (r : Resolution) (o : Occurrence) : Occurrence :=
  match upgradeEdit r o with
  | some e => { o with usage := o.usage.repinned e.reference e.comment }
  | none => o

section Groups

variable {done : List Settled}
  (hgroups : groupByRepository (inScope settings target files) = done.map Prod.fst)
include hgroups

/-- All groups have different keys. -/
theorem nodup_key_of_groups : (done.map fun p => p.1.key).Nodup := by
  have hnodup := nodup_key_groupByRepository (inScope settings target files)
  rwa [hgroups, List.map_map] at hnodup

/-- The edits for all groups are at different places. -/
theorem nodup_place_of_groups : ((editsFor done).map Edit.place).Nodup :=
  nodup_place_of_firstGroups ⟨[], by rw [List.append_nil, hgroups]⟩

theorem mem_inScope_of_settled {p : Settled} (hp : p ∈ done) (ho : o ∈ p.1.occurrences) :
    o ∈ inScope settings target files :=
  mem_iff_exists_group.2 ⟨p.1, hgroups ▸ List.mem_map_of_mem hp, ho⟩

theorem key_of_settled {p : Settled} (hp : p ∈ done) (ho : o ∈ p.1.occurrences) :
    keyOf o = p.1.key :=
  key_eq_of_mem_group p.1 (hgroups ▸ List.mem_map_of_mem hp) o ho

/-- Groups are told apart by their keys. -/
theorem settled_eq_of_key_eq {p q : Settled} (hp : p ∈ done) (hq : q ∈ done)
    (h : p.1.key = q.1.key) : p = q :=
  List.inj_on_of_nodup_map (nodup_key_of_groups hgroups) hp hq h

theorem exists_settled_of_mem_inScope (ho : o ∈ inScope settings target files) :
    ∃ p ∈ done, o ∈ p.1.occurrences := by
  obtain ⟨g, hg, hmem⟩ := mem_iff_exists_group.1 ho
  rw [hgroups] at hg
  obtain ⟨p, hp, rfl⟩ := List.mem_map.1 hg
  exact ⟨p, hp, hmem⟩

/-- **A usage of a settled group is in the end what the group moves it to.** -/
theorem edited_editsFor {p : Settled} (hp : p ∈ done) (ho : o ∈ p.1.occurrences) :
    edited (editsFor done) o = movedTo p.2 o := by
  rw [movedTo]
  cases hedit : upgradeEdit p.2 o with
  | some e =>
    exact edited_of_mem (nodup_place_of_groups hgroups)
      (mem_editsFor.2 ⟨p, hp, o, ho, hedit⟩) (place_of_upgradeEdit hedit)
  | none =>
    refine edited_of_not_mem fun e he hplace => ?_
    -- an edit at this place is for this usage, and so for its group
    obtain ⟨q, hq, o', ho', hedit'⟩ := mem_editsFor.1 he
    have hsame : o' = o := eq_of_place_eq (mem_inScope_of_settled hgroups hq ho')
      (mem_inScope_of_settled hgroups hp ho) ((place_of_upgradeEdit hedit').symm.trans hplace)
    subst hsame
    have hkey : q.1.key = p.1.key :=
      (key_of_settled hgroups hq ho').symm.trans (key_of_settled hgroups hp ho)
    rw [settled_eq_of_key_eq hgroups hq hp hkey, hedit] at hedit'
    cases hedit'

end Groups

end Pinning

end PinnedActions
