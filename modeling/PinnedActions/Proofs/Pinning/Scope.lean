import PinnedActions.Pinning.Scope
import Mathlib.Data.List.Nodup

/-!
# Occurrences and their places

An operation works on the list of all occurrences.  What is said about it here is what lets a result
about that list be read as one about the files: it has each usage of each file, in order
(`map_usage_occurrences`), an occurrence is what stands at its place (`mem_occurrences`), and no
place occurs twice (`nodup_place_occurrences`).
-/

set_option autoImplicit false

namespace PinnedActions

/-- The place of an occurrence: the positions of its file and of its usage. -/
def Occurrence.place (o : Occurrence) : Nat × Nat := (o.file, o.index)

namespace Pinning

variable {files : List WorkflowFile} {o : Occurrence}

/-- All usages of the files, each with the path of its file. -/
def usagesOf (files : List WorkflowFile) : List (Bytes × Usage) :=
  files.flatMap fun f => f.usages.map fun u => (f.path, u)

theorem map_usage_occurrencesIn (file : Nat) (path : Bytes) (i : Nat) (us : List Usage) :
    (occurrencesIn file path i us).map (fun o => (o.path, o.usage)) =
      us.map fun u => (path, u) := by
  induction us generalizing i with
  | nil => rfl
  | cons u rest ih => rw [occurrencesIn, List.map_cons, List.map_cons, ih]

/-- The occurrences are the usages, in their order. -/
theorem map_usage_occurrences (files : List WorkflowFile) :
    (occurrences files).map (fun o => (o.path, o.usage)) = usagesOf files := by
  suffices h : ∀ i, (occurrencesFrom i files).map (fun o => (o.path, o.usage)) = usagesOf files from
    h 0
  induction files with
  | nil => exact fun _ => rfl
  | cons f rest ih =>
    intro i
    rw [occurrencesFrom, List.map_append, map_usage_occurrencesIn, ih, usagesOf, usagesOf,
      List.flatMap_cons]

theorem mem_occurrencesIn {file : Nat} {path : Bytes} {i : Nat} {us : List Usage} :
    o ∈ occurrencesIn file path i us ↔
      o.file = file ∧ o.path = path ∧ i ≤ o.index ∧ us[o.index - i]? = some o.usage := by
  induction us generalizing i with
  | nil => simp [occurrencesIn]
  | cons u rest ih =>
    rw [occurrencesIn, List.mem_cons, ih]
    constructor
    · rintro (rfl | ⟨hf, hp, hi, hu⟩)
      · simp
      · refine ⟨hf, hp, by omega, ?_⟩
        rwa [show o.index - i = o.index - (i + 1) + 1 by omega, List.getElem?_cons_succ]
    · rintro ⟨hf, hp, hi, hu⟩
      by_cases h : o.index = i
      · left
        rw [h, Nat.sub_self, List.getElem?_cons_zero, Option.some_inj] at hu
        cases o
        simp_all
      · right
        refine ⟨hf, hp, by omega, ?_⟩
        rwa [show o.index - i = o.index - (i + 1) + 1 by omega, List.getElem?_cons_succ] at hu

theorem mem_occurrencesFrom {i : Nat} :
    o ∈ occurrencesFrom i files ↔
      i ≤ o.file ∧ ∃ f, files[o.file - i]? = some f ∧ o.path = f.path ∧
        f.usages[o.index]? = some o.usage := by
  induction files generalizing i with
  | nil => simp [occurrencesFrom]
  | cons f rest ih =>
    rw [occurrencesFrom, List.mem_append, ih, mem_occurrencesIn]
    constructor
    · rintro (⟨rfl, hp, -, hu⟩ | ⟨hi, g, hg, hp, hu⟩)
      · exact ⟨Nat.le_refl _, f, by simp, hp, hu⟩
      · refine ⟨by omega, g, ?_, hp, hu⟩
        rwa [show o.file - i = o.file - (i + 1) + 1 by omega, List.getElem?_cons_succ]
    · rintro ⟨hi, g, hg, hp, hu⟩
      by_cases h : o.file = i
      · left
        rw [h, Nat.sub_self, List.getElem?_cons_zero, Option.some_inj] at hg
        cases hg
        exact ⟨h, hp, Nat.zero_le _, hu⟩
      · right
        refine ⟨by omega, g, ?_, hp, hu⟩
        rwa [show o.file - i = o.file - (i + 1) + 1 by omega, List.getElem?_cons_succ] at hg

/-- **An occurrence is what stands at its place.** -/
theorem mem_occurrences :
    o ∈ occurrences files ↔
      ∃ f, files[o.file]? = some f ∧ o.path = f.path ∧ f.usages[o.index]? = some o.usage := by
  rw [occurrences, mem_occurrencesFrom]
  simp

theorem mem_inScope {settings : Settings} {target : Target} :
    o ∈ inScope settings target files ↔
      (∃ f, files[o.file]? = some f ∧ o.path = f.path ∧ f.usages[o.index]? = some o.usage) ∧
        isInScope settings target o.usage.action = true := by
  rw [inScope, List.mem_filter, mem_occurrences]

/-- Whether a repository that is aimed at has a usage in scope. -/
def Referenced (settings : Settings) (target : Target) (files : List WorkflowFile) : Prop :=
  ∀ key, target = .repository key → inScope settings target files ≠ []

theorem exists_of_not_referenced {settings : Settings} {target : Target}
    (h : ¬Referenced settings target files) :
    ∃ key, target = .repository key ∧ inScope settings (.repository key) files = [] := by
  cases target with
  | everything => exact absurd nofun h
  | repository key =>
    refine ⟨key, rfl, Decidable.byContradiction fun hne => h fun key' hkey => ?_⟩
    cases hkey
    exact hne

theorem nodup_place_occurrencesIn (file : Nat) (path : Bytes) (i : Nat) (us : List Usage) :
    ((occurrencesIn file path i us).map Occurrence.place).Nodup := by
  induction us generalizing i with
  | nil => exact List.nodup_nil
  | cons u rest ih =>
    rw [occurrencesIn, List.map_cons, List.nodup_cons]
    refine ⟨fun h => ?_, ih (i + 1)⟩
    obtain ⟨o, ho, hplace⟩ := List.mem_map.1 h
    have hle := (mem_occurrencesIn.1 ho).2.2.1
    have hindex : o.index = i := congrArg Prod.snd hplace
    omega

/-- **No place occurs twice.** -/
theorem nodup_place_occurrences (files : List WorkflowFile) :
    ((occurrences files).map Occurrence.place).Nodup := by
  suffices h : ∀ i, ((occurrencesFrom i files).map Occurrence.place).Nodup from h 0
  induction files with
  | nil => exact fun _ => List.nodup_nil
  | cons f rest ih =>
    intro i
    rw [occurrencesFrom, List.map_append]
    refine List.Nodup.append (nodup_place_occurrencesIn ..) (ih (i + 1)) fun p hp hp' => ?_
    obtain ⟨o, ho, rfl⟩ := List.mem_map.1 hp
    obtain ⟨o', ho', hplace⟩ := List.mem_map.1 hp'
    have hfile : o'.file = o.file := congrArg Prod.fst hplace
    have h1 := (mem_occurrencesIn.1 ho).1
    have h2 := (mem_occurrencesFrom.1 ho').1
    omega

/-- What is in scope is at different places. -/
theorem nodup_place_inScope (settings : Settings) (target : Target) (files : List WorkflowFile) :
    ((inScope settings target files).map Occurrence.place).Nodup :=
  (nodup_place_occurrences files).sublist (List.filter_sublist.map Occurrence.place)

/-- An occurrence in scope is the only one at its place. -/
theorem eq_of_place_eq {settings : Settings} {target : Target} {o o' : Occurrence}
    (ho : o ∈ inScope settings target files) (ho' : o' ∈ inScope settings target files)
    (h : o.place = o'.place) : o = o' :=
  List.inj_on_of_nodup_map (nodup_place_inScope settings target files) ho ho' h

end Pinning

end PinnedActions
